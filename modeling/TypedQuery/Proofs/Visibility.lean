import Mathlib.Data.List.Induction
import TypedQuery.Client
import TypedQuery.Proofs.Lookup
import TypedQuery.Samples

/-!
What an allow-list of namespaces hides. Registrations under other namespaces, however many and
wherever they stand, change neither what a name is resolved to nor anything that a comparison with a
schema says.
-/

set_option autoImplicit false

namespace TypedQuery

abbrev Registration := String × HostType

-- A list is filed under the name of its element.
def Registration.name (registration : Registration) : String := registration.2.element.name

def Catalog.ofHistory (history : List Registration) : Catalog :=
  history.foldl (fun catalog registration => catalog.register registration.1 registration.2) []

def visible (spaces : List String) (history : List Registration) : List Registration :=
  history.filter fun registration => spaces.contains registration.1

-- A catalog that files its entries by name: under one name stand the entries of all namespaces, the earlier
-- ones first.
abbrev Shelves := OrderedMap (List CatalogEntry)

namespace Shelves

def register (shelves : Shelves) (space : String) (host : HostType) : Shelves :=
  shelves.insert host.element.name ((shelves.get? host.element.name).getD [] ++ [⟨space, host⟩])

def resolve (shelves : Shelves) (name : String) (spaces : List String) : Option HostType :=
  ((shelves.get? name).bind fun shelf => shelf.find? fun entry => spaces.contains entry.space).map (·.host)

def ofHistory (history : List Registration) : Shelves :=
  history.foldl (fun shelves registration => shelves.register registration.1 registration.2) []

end Shelves

section Steps

variable (name : String) (spaces : List String)

def Registration.offer? (registration : Registration) : Option HostType :=
  if registration.name = name ∧ spaces.contains registration.1 then some registration.2 else none

theorem catalog_registered (catalog : Catalog) (registration : Registration) :
    (catalog.register registration.1 registration.2).resolve name spaces =
      (catalog.resolve name spaces).or (registration.offer? name spaces) := by
  obtain ⟨space, host⟩ := registration
  rw [Catalog.resolve, Catalog.register, List.find?_append, Option.map_or, ← Catalog.resolve]
  congr 1
  by_cases named : host.element.name = name
  · by_cases allowed : space ∈ spaces <;> simp [Registration.offer?, Registration.name, named, allowed]
  · simp [Registration.offer?, Registration.name, named]

theorem shelves_registered (shelves : Shelves) (registration : Registration) :
    (shelves.register registration.1 registration.2).resolve name spaces =
      (shelves.resolve name spaces).or (registration.offer? name spaces) := by
  obtain ⟨space, host⟩ := registration
  rw [Shelves.resolve, Shelves.register, get_insert]
  by_cases named : host.element.name = name
  · rw [if_pos named, named, Option.bind_some, List.find?_append, Option.map_or]
    have before : (((shelves.get? name).getD []).find? fun entry => spaces.contains entry.space) =
        (shelves.get? name).bind fun shelf => shelf.find? fun entry => spaces.contains entry.space := by
      cases shelves.get? name <;> rfl
    rw [before, ← Shelves.resolve]
    congr 1
    by_cases allowed : space ∈ spaces <;> simp [Registration.offer?, Registration.name, named, allowed]
  · rw [if_neg named, ← Shelves.resolve]
    simp [Registration.offer?, Registration.name, named]

end Steps

section Histories

variable (history : List Registration) (name : String) (spaces : List String)

theorem history_resolved :
    (Catalog.ofHistory history).resolve name spaces =
      ((visible spaces history).find? (·.name = name)).map Prod.snd := by
  induction history using List.reverseRecOn with
  | nil => rfl
  | append_singleton history registration ih =>
      have step := catalog_registered name spaces (Catalog.ofHistory history) registration
      rw [Catalog.ofHistory, List.foldl_append, ← Catalog.ofHistory, List.foldl_cons, List.foldl_nil, step, ih, visible,
        visible, List.filter_append, List.find?_append, Option.map_or]
      congr 1
      by_cases allowed : registration.1 ∈ spaces
      · by_cases named : registration.name = name <;> simp [Registration.offer?, named, allowed]
      · simp [Registration.offer?, allowed]

theorem shelves_resolved :
    (Shelves.ofHistory history).resolve name spaces = (Catalog.ofHistory history).resolve name spaces := by
  induction history using List.reverseRecOn with
  | nil => rfl
  | append_singleton history registration ih =>
      have filed := shelves_registered name spaces (Shelves.ofHistory history) registration
      have listed := catalog_registered name spaces (Catalog.ofHistory history) registration
      rw [ih] at filed
      rw [Shelves.ofHistory, List.foldl_append, Catalog.ofHistory, List.foldl_append]
      exact filed.trans listed.symm

theorem resolved_iff (host : HostType) :
    (Catalog.ofHistory history).resolve name spaces = some host ↔
      ∃ before space after, history = before ++ (space, host) :: after ∧ space ∈ spaces ∧
        host.element.name = name ∧ ∀ earlier ∈ before, earlier.1 ∈ spaces → earlier.2.element.name ≠ name := by
  rw [history_resolved, visible, List.find?_filter, Option.map_eq_some_iff]
  constructor
  · rintro ⟨⟨space, _⟩, found, rfl⟩
    obtain ⟨own, before, after, split, others⟩ := List.find?_eq_some_iff_append.mp found
    simp only [List.contains_iff_mem, Bool.decide_and, Bool.and_eq_true, decide_eq_true_eq] at own
    refine ⟨before, space, after, split, own.1, own.2, ?_⟩
    intro earlier member allowed named
    simpa [allowed, Registration.name, named] using others earlier member
  · rintro ⟨before, space, after, split, allowed, named, others⟩
    refine ⟨(space, host), List.find?_eq_some_iff_append.mpr ⟨?_, before, after, split, ?_⟩, rfl⟩
    · simp [allowed, Registration.name, named]
    · intro earlier member
      by_cases seen : earlier.1 ∈ spaces
      · simp [seen, Registration.name, others earlier member seen]
      · simp [seen]

end Histories

section Oracles

variable (models : ModelTable) (spaces : List String) (first second : List Registration)
variable (same : visible spaces first = visible spaces second)
include same

theorem visible_resolve (name : String) :
    (Catalog.ofHistory first).resolve name spaces = (Catalog.ofHistory second).resolve name spaces := by
  rw [history_resolved, history_resolved, same]

theorem visible_oracle :
    catalogOracle models (Catalog.ofHistory first) spaces = catalogOracle models (Catalog.ofHistory second) spaces := by
  funext type schema
  rw [catalogOracle, catalogOracle, visible_resolve spaces first second same]

end Oracles

theorem hidden_registrations_unseen (models : ModelTable) (spaces : List String) (first second : List Registration)
    (same : visible spaces first = visible spaces second) :
    (∀ name, (Catalog.ofHistory first).resolve name spaces = (Catalog.ofHistory second).resolve name spaces) ∧
    (∀ name, (Shelves.ofHistory first).resolve name spaces = (Catalog.ofHistory first).resolve name spaces) ∧
    (∀ type schema, catalogOracle models (Catalog.ofHistory first) spaces type schema =
      catalogOracle models (Catalog.ofHistory second) spaces type schema) ∧
    (∀ schema fields, validateAll (catalogOracle models (Catalog.ofHistory first) spaces) schema fields =
      validateAll (catalogOracle models (Catalog.ofHistory second) spaces) schema fields) ∧
    (∀ (client : Client) text session,
      client.validate (catalogOracle models (Catalog.ofHistory first) spaces) text session =
        client.validate (catalogOracle models (Catalog.ofHistory second) spaces) text session) ∧
    ∀ name host, (Catalog.ofHistory first).resolve name spaces = some host ↔
      ∃ before space after, first = before ++ (space, host) :: after ∧ space ∈ spaces ∧
        host.element.name = name ∧ ∀ earlier ∈ before, earlier.1 ∈ spaces → earlier.2.element.name ≠ name := by
  have oracles := visible_oracle models spaces first second same
  refine ⟨visible_resolve spaces first second same, ?_, ?_, ?_, ?_, ?_⟩
  · exact fun name => shelves_resolved first name spaces
  · exact fun type schema => congrFun (congrFun oracles type) schema
  · exact fun schema fields => congrArg (validateAll · schema fields) oracles
  · exact fun client text session => congrArg (client.validate · text session) oracles
  · exact fun name host => resolved_iff first name spaces host

def carrierModels : ModelTable :=
  [("Node", ⟨"Node", .identity,
    [Samples.field "id" (.scalar .string), Samples.field "payload" (.list (.foreign "Payload"))]⟩)]

def carrierSchema : Schema := ⟨[], [], OrderedMap.ofList [("Node", .object), ("Payload", .object)]⟩

def crowdedHistory : List Registration :=
  [("internal", .foreign "Node"), ("app", .list (.list (Samples.modelHost "Node"))), ("test", Samples.modelHost "Blob"),
    ("app", .foreign "Node")]

def plainHistory : List Registration :=
  [("app", .list (.list (Samples.modelHost "Node"))), ("app", .foreign "Node"), ("internal", .foreign "Node")]

theorem crowd_around_node_unseen :
    visible ["app"] crowdedHistory = visible ["app"] plainHistory ∧
      (Catalog.ofHistory crowdedHistory).resolve "Node" ["app"] = some (.list (.list (Samples.modelHost "Node"))) ∧
      ∀ history ∈ [crowdedHistory, plainHistory],
        (catalogOracle carrierModels (Catalog.ofHistory history) ["app"] (.named "Node") carrierSchema).map
          Problem.message = ["Type Payload isn't a GraphQL type."] := by
  have same : visible ["app"] crowdedHistory = visible ["app"] plainHistory := by decide
  obtain ⟨_, _, checks, _, _, resolved⟩ :=
    hidden_registrations_unseen carrierModels ["app"] crowdedHistory plainHistory same
  have first : (Catalog.ofHistory crowdedHistory).resolve "Node" ["app"] =
      some (.list (.list (Samples.modelHost "Node"))) :=
    (resolved "Node" _).mpr ⟨[("internal", .foreign "Node")], "app", _, rfl, by decide, by decide, by decide⟩
  have payload (walk : Walk) : Walk.visit carrierModels carrierSchema walk (.foreign "Payload") =
      some { walk with problems := walk.problems ++ [.foreignType "Payload"] } := by
    rw [Walk.visit]
    rfl
  have walk : Walk.visit carrierModels carrierSchema ⟨[], []⟩ (.list (.list (Samples.modelHost "Node"))) =
      some ⟨["Node"], [.foreignType "Payload"]⟩ := by
    rw [Walk.visit]
    change (Walk.visit carrierModels carrierSchema ⟨["Node"], []⟩ (.foreign "Payload") >>= pure) = _
    rw [payload]
    rfl
  have report : catalogOracle carrierModels (Catalog.ofHistory crowdedHistory) ["app"] (.named "Node") carrierSchema =
      [.foreignType "Payload"] := by
    rw [catalogOracle, if_neg (by decide), show (TypeRef.named "Node").leaf = "Node" from rfl, first]
    dsimp only
    rw [walk]
    rfl
  have texts : [Problem.foreignType "Payload"].map Problem.message = ["Type Payload isn't a GraphQL type."] := by decide
  refine ⟨same, first, List.forall_mem_cons.mpr ⟨?_, List.forall_mem_singleton.mpr ?_⟩⟩
  · rw [report, texts]
  · rw [← checks, report, texts]

end TypedQuery

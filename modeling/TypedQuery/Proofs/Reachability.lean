import Mathlib.Data.Finset.Card
import TypedQuery.Samples
import TypedQuery.Validation

/-!
What the oracle of a catalog finds in a type. The walk over its models comes to an end however they
refer to each other, enters each model that the type leads to once, and reports each foreign type
that stands at a field of one of them and is known to the schema.
-/

set_option autoImplicit false

namespace TypedQuery

def HostType.foreign? (host : HostType) : Option String :=
  match host.element with
  | .foreign name => some name
  | _ => none

def ModelDescriptor.foreignTypes (descriptor : ModelDescriptor) (schema : Schema) : List String :=
  descriptor.fields.filterMap fun field => field.type.foreign?.filter schema.hasType

def LeadsTo (models : ModelTable) (schema : Schema) (ref next : ModelRef) : Prop :=
  ∃ field ∈ (models.describe ref).fields, field.type.model? = some next ∧ schema.hasType next.name

-- The models that a type leads to. Its own one need not be known to the schema.
inductive Reaches (models : ModelTable) (schema : Schema) (root : HostType) : ModelRef → Prop
  | own (ref : ModelRef) (element : root.model? = some ref) : Reaches models schema root ref
  | field (ref next : ModelRef) (reached : Reaches models schema root ref) (edge : LeadsTo models schema ref next) :
      Reaches models schema root next

structure ListsReached (models : ModelTable) (schema : Schema) (root : HostType) (reached : List ModelRef) : Prop where
  once : (reached.map (·.name)).Nodup
  sound : ∀ ref ∈ reached, Reaches models schema root ref
  complete : ∀ ref, Reaches models schema root ref → ref.name ∈ reached.map (·.name)

-- All names that a model reached from a type can have: no walk from it enters more models.
def reachableNames (models : ModelTable) (root : HostType) : Finset String :=
  (root.model?.toList.map (·.name) ++
    models.flatMap fun entry => entry.2.fields.filterMap fun field => field.type.model?.map (·.name)).toFinset

def Walk.unseen (names : Finset String) (walk : Walk) : Nat := (names \ walk.visited.toFinset).card

def Walk.follow (models : ModelTable) (schema : Schema) (walk : Walk) (field : ModelField) : Option Walk :=
  if Walk.isComposite field.type.element && schema.hasType field.type.element.name then
    Walk.visit models schema walk field.type.element
  else some walk

-- A part of a walk from some type: the models that it has entered, the latest first, and the foreign
-- types that it has found elsewhere than at the fields of these models.
structure Walk.Adds (models : ModelTable) (schema : Schema) (root : HostType) (before after : Walk)
    (found : List String) (entered : List ModelRef) : Prop where
  visited : after.visited = entered.map (·.name) ++ before.visited
  once : before.visited.Nodup → after.visited.Nodup
  reached : ∀ ref ∈ entered, Reaches models schema root ref
  closed : ∀ ref ∈ entered, ∀ next, LeadsTo models schema ref next → next.name ∈ after.visited
  problems : after.problems.Perm (before.problems ++
    (found ++ entered.flatMap fun ref => (models.describe ref).foreignTypes schema).map Problem.foreignType)

theorem element_element (host : HostType) : host.element.element = host.element := by
  induction host with
  | list inner ih => exact ih
  | _ => rfl

theorem model_element (host : HostType) : host.element.model? = host.model? := by
  unfold HostType.model?
  rw [element_element]

theorem foreign_element (host : HostType) : host.element.foreign? = host.foreign? := by
  unfold HostType.foreign?
  rw [element_element]

theorem model_not_foreign (host : HostType) (ref : ModelRef) (element : host.model? = some ref) :
    host.foreign? = none := by
  unfold HostType.model? at element
  unfold HostType.foreign?
  cases kind : host.element <;> simp_all

theorem describe_member (models : ModelTable) (ref : ModelRef) (field : ModelField)
    (member : field ∈ (models.describe ref).fields) : ∃ entry ∈ models, field ∈ entry.2.fields := by
  unfold ModelTable.describe at member
  cases found : List.lookup ref.key models with
  | none => simp [found] at member
  | some descriptor =>
      obtain ⟨before, after, rfl, _⟩ := List.lookup_eq_some_iff.mp found
      exact ⟨(ref.key, descriptor), by simp, by simpa [found] using member⟩

theorem reached_name (models : ModelTable) (schema : Schema) (root : HostType) (ref : ModelRef)
    (reached : Reaches models schema root ref) : ref.name ∈ reachableNames models root := by
  unfold reachableNames
  rw [List.mem_toFinset, List.mem_append]
  cases reached with
  | own _ element => exact .inl (by simp [element])
  | field before _ _ edge =>
      obtain ⟨field, member, element, _⟩ := edge
      obtain ⟨entry, among, holds⟩ := describe_member models before field member
      refine .inr (List.mem_flatMap.mpr ⟨entry, among, List.mem_filterMap.mpr ⟨field, holds, ?_⟩⟩)
      rw [element, Option.map_some]

theorem reached_from_model (models : ModelTable) (schema : Schema) (root : HostType) (ref : ModelRef)
    (reached : Reaches models schema root ref) : root.foreign? = none := by
  induction reached with
  | own ref element => exact model_not_foreign root ref element
  | field _ _ _ _ ih => exact ih

theorem foreign_types_none (descriptor : ModelDescriptor) (schema : Schema) :
    descriptor.foreignTypes schema = [] ↔
      ∀ field ∈ descriptor.fields, ∀ name, field.type.foreign? = some name → schema.hasType name = false := by
  simp [ModelDescriptor.foreignTypes, List.filterMap_eq_nil_iff, Option.filter_eq_none_iff]

theorem follow_known (schema : Schema) (host : HostType)
    (known : (Walk.isComposite host.element && schema.hasType host.element.name) = true) :
    host.foreign?.filter schema.hasType = host.foreign? ∧
      ∀ ref, host.model? = some ref → schema.hasType ref.name := by
  unfold HostType.foreign? HostType.model?
  cases kind : host.element <;> simp_all [Walk.isComposite, HostType.name]

theorem follow_unknown (schema : Schema) (host : HostType)
    (unknown : (Walk.isComposite host.element && schema.hasType host.element.name) = false) :
    host.foreign?.filter schema.hasType = none ∧
      ∀ ref, host.model? = some ref → schema.hasType ref.name = false := by
  unfold HostType.foreign? HostType.model?
  cases kind : host.element <;> simp_all [Walk.isComposite, HostType.name]

theorem visit_foreign (models : ModelTable) (schema : Schema) (walk : Walk) (host : HostType) (name : String)
    (element : host.foreign? = some name) :
    Walk.visit models schema walk host = some { walk with problems := walk.problems ++ [.foreignType name] } := by
  unfold HostType.foreign? at element
  rw [Walk.visit]
  cases kind : host.element <;> simp_all

theorem visit_model (models : ModelTable) (schema : Schema) (walk : Walk) (host : HostType) (ref : ModelRef)
    (element : host.model? = some ref) :
    Walk.visit models schema walk host =
      if ref.name ∈ walk.visited then some walk
      else (models.describe ref).fields.foldlM (Walk.follow models schema)
        { walk with visited := ref.name :: walk.visited } := by
  have kind : host.element = .model ref := by
    unfold HostType.model? at element
    cases kind : host.element <;> simp_all
  rw [Walk.visit, kind]
  simp only [List.contains_iff_mem]
  rfl

theorem visit_other (models : ModelTable) (schema : Schema) (walk : Walk) (host : HostType)
    (model : host.model? = none) (foreign : host.foreign? = none) :
    Walk.visit models schema walk host = some walk := by
  unfold HostType.model? at model
  unfold HostType.foreign? at foreign
  rw [Walk.visit]
  cases kind : host.element <;> simp_all

theorem unseen_entered (names : Finset String) (walk : Walk) (name : String) (member : name ∈ names)
    (fresh : name ∉ walk.visited) : Walk.unseen names ⟨name :: walk.visited, walk.problems⟩ < walk.unseen names := by
  unfold Walk.unseen
  rw [List.toFinset_cons, Finset.sdiff_insert]
  exact Finset.card_erase_lt_of_mem (by simp [member, fresh])

section

variable (models : ModelTable) (schema : Schema) (root : HostType)

theorem adds_unseen (names : Finset String) (before after : Walk) (found : List String) (entered : List ModelRef)
    (adds : Walk.Adds models schema root before after found entered) : after.unseen names ≤ before.unseen names := by
  unfold Walk.unseen
  rw [adds.visited, List.toFinset_append]
  exact Finset.card_le_card (Finset.sdiff_subset_sdiff subset_rfl Finset.subset_union_right)

theorem adds_none (walk : Walk) : Walk.Adds models schema root walk walk [] [] where
  visited := rfl
  once := id
  reached := by simp
  closed := by simp
  problems := by simp

theorem adds_foreign (walk : Walk) (name : String) :
    Walk.Adds models schema root walk { walk with problems := walk.problems ++ [.foreignType name] } [name] [] where
  visited := rfl
  once := id
  reached := by simp
  closed := by simp
  problems := by simp

theorem adds_trans (before middle after : Walk) (found others : List String) (entered later : List ModelRef)
    (first : Walk.Adds models schema root before middle found entered)
    (second : Walk.Adds models schema root middle after others later) :
    Walk.Adds models schema root before after (found ++ others) (later ++ entered) where
  visited := by rw [second.visited, first.visited, List.map_append, List.append_assoc]
  once := fun distinct => second.once (first.once distinct)
  reached := by
    intro ref member
    rcases List.mem_append.mp member with late | early
    · exact second.reached ref late
    · exact first.reached ref early
  closed := by
    intro ref member next edge
    rcases List.mem_append.mp member with late | early
    · exact second.closed ref late next edge
    · rw [second.visited]
      exact List.mem_append_right _ (first.closed ref early next edge)
  problems := by
    rw [List.perm_iff_count]
    intro problem
    have one := first.problems.count_eq problem
    have two := second.problems.count_eq problem
    simp only [List.map_append, List.count_append, List.flatMap_append] at one two ⊢
    omega

theorem adds_entered (walk after : Walk) (ref : ModelRef) (entered : List ModelRef) (fresh : ref.name ∉ walk.visited)
    (reached : Reaches models schema root ref)
    (followed : ∀ next, LeadsTo models schema ref next → next.name ∈ after.visited)
    (adds : Walk.Adds models schema root ⟨ref.name :: walk.visited, walk.problems⟩ after
      ((models.describe ref).foreignTypes schema) entered) :
    Walk.Adds models schema root walk after [] (entered ++ [ref]) where
  visited := by rw [adds.visited, List.map_append, List.append_assoc]; rfl
  once := fun distinct => adds.once (List.nodup_cons.mpr ⟨fresh, distinct⟩)
  reached := by
    intro other member
    rcases List.mem_append.mp member with inner | own
    · exact adds.reached other inner
    · rw [List.mem_singleton.mp own]
      exact reached
  closed := by
    intro other member next edge
    rcases List.mem_append.mp member with inner | own
    · exact adds.closed other inner next edge
    · rw [List.mem_singleton.mp own] at edge
      exact followed next edge
  problems := by
    rw [List.perm_iff_count]
    intro problem
    have same := adds.problems.count_eq problem
    simp only [List.map_append, List.count_append, List.flatMap_append, List.flatMap_singleton,
      List.nil_append] at same ⊢
    omega

def Walk.Finishes (walk : Walk) (host : HostType) : Prop :=
  ∃ after entered, Walk.visit models schema walk host = some after ∧
    Walk.Adds models schema root walk after host.foreign?.toList entered ∧
    ∀ ref, host.model? = some ref → ref.name ∈ after.visited

theorem follow_field (walk : Walk) (field : ModelField)
    (visits : (∀ ref, field.type.model? = some ref → schema.hasType ref.name) →
      Walk.Finishes models schema root walk field.type.element) :
    ∃ middle entered, Walk.follow models schema walk field = some middle ∧
      Walk.Adds models schema root walk middle (field.type.foreign?.filter schema.hasType).toList entered ∧
      ∀ next, field.type.model? = some next → schema.hasType next.name → next.name ∈ middle.visited := by
  unfold Walk.follow
  cases known : (Walk.isComposite field.type.element && schema.hasType field.type.element.name) with
  | true =>
      obtain ⟨foreign, named⟩ := follow_known schema field.type known
      obtain ⟨middle, entered, visited, adds, arrives⟩ := visits named
      rw [foreign_element, ← foreign] at adds
      rw [model_element] at arrives
      exact ⟨middle, entered, visited, adds, fun next element _ => arrives next element⟩
  | false =>
      obtain ⟨foreign, unnamed⟩ := follow_unknown schema field.type known
      rw [foreign]
      refine ⟨walk, [], rfl, adds_none models schema root walk, ?_⟩
      intro next element holds
      simp [unnamed next element] at holds

-- The fields of a model are followed one after the other; every visit on the way has no more names
-- left to enter than the walk had at the start.
theorem follow_fields (limit : Nat) (fields : List ModelField) (walk : Walk)
    (left : walk.unseen (reachableNames models root) ≤ limit)
    (visits : ∀ walk host, Walk.unseen (reachableNames models root) walk ≤ limit →
      (∀ ref, host.model? = some ref → Reaches models schema root ref) → Walk.Finishes models schema root walk host)
    (reached : ∀ field ∈ fields, ∀ next, field.type.model? = some next → schema.hasType next.name →
      Reaches models schema root next) :
    ∃ after entered, fields.foldlM (Walk.follow models schema) walk = some after ∧
      Walk.Adds models schema root walk after
        (fields.filterMap fun field => field.type.foreign?.filter schema.hasType) entered ∧
      ∀ field ∈ fields, ∀ next, field.type.model? = some next → schema.hasType next.name →
        next.name ∈ after.visited := by
  induction fields generalizing walk with
  | nil => exact ⟨walk, [], rfl, adds_none models schema root walk, by simp⟩
  | cons field rest ih =>
      obtain ⟨middle, entered, followed, adds, arrives⟩ := follow_field models schema root walk field fun named =>
        visits walk field.type.element left (by
          intro next element
          rw [model_element] at element
          exact reached field List.mem_cons_self next element (named next element))
      obtain ⟨after, later, remaining, more, others⟩ := ih middle
        (Nat.le_trans (adds_unseen models schema root _ walk middle _ entered adds) left)
        (fun other member => reached other (List.mem_cons_of_mem _ member))
      refine ⟨after, later ++ entered, ?_, ?_, ?_⟩
      · rw [List.foldlM_cons, followed]
        exact remaining
      · have whole := adds_trans models schema root walk middle after _ _ entered later adds more
        rw [List.filterMap_cons]
        cases found : field.type.foreign?.filter schema.hasType <;> simpa [found] using whole
      · intro other member next element holds
        rcases List.mem_cons.mp member with rfl | among
        · rw [more.visited]
          exact List.mem_append_right _ (arrives next element holds)
        · exact others other among next element holds

-- The induction is on the names that are left: entering a model takes one of them away.
theorem visit_finishes (limit : Nat) (walk : Walk) (host : HostType)
    (left : walk.unseen (reachableNames models root) ≤ limit)
    (reached : ∀ ref, host.model? = some ref → Reaches models schema root ref) :
    Walk.Finishes models schema root walk host := by
  induction limit using Nat.strongRecOn generalizing walk host with
  | ind limit ih =>
      cases element : host.model? with
      | none =>
          cases foreign : host.foreign? with
          | none => exact ⟨walk, [], visit_other models schema walk host element foreign,
              by rw [foreign]; exact adds_none models schema root walk, by simp [element]⟩
          | some name => exact ⟨_, [], visit_foreign models schema walk host name foreign,
              by rw [foreign]; exact adds_foreign models schema root walk name, by simp [element]⟩
      | some ref =>
          have foreign := model_not_foreign host ref element
          by_cases seen : ref.name ∈ walk.visited
          · refine ⟨walk, [], ?_, by rw [foreign]; exact adds_none models schema root walk, ?_⟩
            · rw [visit_model models schema walk host ref element, if_pos seen]
            · intro other same
              rw [element, Option.some.injEq] at same
              exact same ▸ seen
          · have own := reached ref element
            have fewer := unseen_entered (reachableNames models root) walk ref.name
              (reached_name models schema root ref own) seen
            obtain ⟨after, entered, followed, adds, arrives⟩ := follow_fields models schema root _
              (models.describe ref).fields ⟨ref.name :: walk.visited, walk.problems⟩ (Nat.le_refl _)
              (fun walk host => ih _ (Nat.lt_of_lt_of_le fewer left) walk host)
              (fun field member next holds known => .field ref next own ⟨field, member, holds, known⟩)
            refine ⟨after, entered ++ [ref], ?_, ?_, ?_⟩
            · rw [visit_model models schema walk host ref element, if_neg seen]
              exact followed
            · rw [foreign]
              refine adds_entered models schema root walk after ref entered seen own ?_ adds
              rintro next ⟨field, member, holds, known⟩
              exact arrives field member next holds known
            · intro other same
              rw [element, Option.some.injEq] at same
              rw [adds.visited, ← same]
              exact List.mem_append_right _ List.mem_cons_self

theorem visit_lists (host : HostType)
    (determined : ∀ first second, Reaches models schema host first → Reaches models schema host second →
      first.name = second.name → models.describe first = models.describe second) :
    ∃ after reached, Walk.visit models schema ⟨[], []⟩ host = some after ∧ ListsReached models schema host reached ∧
      after.problems.Perm ((host.foreign?.toList ++
        reached.flatMap fun ref => (models.describe ref).foreignTypes schema).map Problem.foreignType) := by
  obtain ⟨after, entered, visited, adds, arrives⟩ :=
    visit_finishes models schema host _ ⟨[], []⟩ host (Nat.le_refl _) (fun ref element => .own ref element)
  have names : after.visited = entered.map (·.name) := by rw [adds.visited, List.append_nil]
  refine ⟨after, entered, visited, ⟨names ▸ adds.once List.nodup_nil, adds.reached, ?_⟩, adds.problems⟩
  intro ref reached
  rw [← names]
  induction reached with
  | own ref element => exact arrives ref element
  | field ref next reached edge ih =>
      -- The entered model may be another of that name; it has the same fields.
      rw [names] at ih
      obtain ⟨same, member, named⟩ := List.mem_map.mp ih
      have described := determined same ref (adds.reached same member) reached named
      refine adds.closed same member next ?_
      unfold LeadsTo
      rw [described]
      exact edge

theorem lists_every (host : HostType) (reached : List ModelRef) (lists : ListsReached models schema host reached)
    (determined : ∀ first second, Reaches models schema host first → Reaches models schema host second →
      first.name = second.name → models.describe first = models.describe second) (holds : ModelDescriptor → Prop) :
    (∀ ref ∈ reached, holds (models.describe ref)) ↔
      ∀ ref, Reaches models schema host ref → holds (models.describe ref) := by
  constructor
  · intro every ref leads
    obtain ⟨same, member, named⟩ := List.mem_map.mp (lists.complete ref leads)
    rw [← determined same ref (lists.sound same member) leads named]
    exact every same member
  · intro every ref member
    exact every ref (lists.sound ref member)

end

theorem oracle_reports_reachable (models : ModelTable) (catalog : Catalog) (spaces : List String) (schema : Schema)
    (type : TypeRef) (host : HostType) (composite : isSupportedScalar type.leaf = false)
    (resolved : catalog.resolve type.leaf spaces = some host)
    (determined : ∀ first second, Reaches models schema host first → Reaches models schema host second →
      first.name = second.name → models.describe first = models.describe second) :
    (∃ walk, Walk.visit models schema ⟨[], []⟩ host = some walk ∧
      catalogOracle models catalog spaces type schema = walk.problems) ∧
    (∀ name, host.foreign? = some name →
      (catalogOracle models catalog spaces type schema).map Problem.message =
        ["Type " ++ name ++ " isn't a GraphQL type."]) ∧
    (host.foreign? = none → ∃ reached, ListsReached models schema host reached ∧
      ((catalogOracle models catalog spaces type schema).map Problem.message).Perm
        ((reached.flatMap fun ref => (models.describe ref).foreignTypes schema).map fun name =>
          "Type " ++ name ++ " isn't a GraphQL type.")) ∧
    (catalogOracle models catalog spaces type schema = [] ↔
      host.foreign? = none ∧ ∀ ref, Reaches models schema host ref → ∀ field ∈ (models.describe ref).fields,
        ∀ name, field.type.foreign? = some name → schema.hasType name = false) := by
  obtain ⟨walk, reached, visited, lists, problems⟩ := visit_lists models schema host determined
  have reports : catalogOracle models catalog spaces type schema = walk.problems := by
    simp [catalogOracle, composite, resolved, visited]
  have texts := problems.map Problem.message
  rw [List.map_map] at texts
  rw [reports]
  refine ⟨⟨walk, visited, rfl⟩, ?_, ?_, ?_⟩
  · intro name foreign
    have none : reached = [] := by
      refine List.eq_nil_iff_forall_not_mem.mpr fun ref member => ?_
      have model := reached_from_model models schema host ref (lists.sound ref member)
      simp [model] at foreign
    rw [foreign, none] at texts
    exact List.perm_singleton.mp texts
  · intro foreign
    rw [foreign] at texts
    exact ⟨reached, lists, texts⟩
  · have empty := lists_every models schema host reached lists determined fun descriptor =>
      descriptor.foreignTypes schema = []
    simp only [foreign_types_none] at empty
    rw [← List.length_eq_zero_iff, problems.length_eq, List.length_eq_zero_iff, ← empty]
    simp [foreign_types_none]

def ringModels : ModelTable :=
  [⟨"Ring", .identity,
    [Samples.field "self" (.list (Samples.modelHost "Ring")), Samples.field "link" (Samples.modelHost "Link"),
      Samples.field "hidden" (.foreign "Hidden"), Samples.field "payload" (.list (.foreign "Payload"))]⟩,
    ⟨"Link", .identity,
      [Samples.field "back" (.list (.list (Samples.modelHost "Ring"))), Samples.field "blob" (.foreign "Blob"),
        Samples.field "aside" (Samples.modelHost "Aside"), Samples.field "payload" (.foreign "Payload")]⟩,
    ⟨"Aside", .identity, [Samples.field "blob" (.foreign "Blob")]⟩].map fun descriptor => (descriptor.name, descriptor)

def ringSchema : Schema :=
  ⟨[], [], OrderedMap.ofList (["Ring", "Link", "Payload", "Blob"].map (·, TypeKind.object))⟩

def ringHost : HostType := .list (Samples.modelHost "Ring")

def ringCatalog : Catalog := [⟨"other", .foreign "Ring"⟩, ⟨"app", ringHost⟩]

def ringMembers : List ModelRef := [⟨"Ring", "Ring"⟩, ⟨"Link", "Link"⟩]

theorem ring_reached (ref : ModelRef) :
    Reaches ringModels ringSchema ringHost ref ↔ ref ∈ ringMembers := by
  have ring : Reaches ringModels ringSchema ringHost ⟨"Ring", "Ring"⟩ := .own _ rfl
  have edges : ∀ holder ∈ ringMembers, ∀ field ∈ (ringModels.describe holder).fields,
      ∀ next ∈ field.type.model?, ringSchema.hasType next.name → next ∈ ringMembers := by
    decide
  constructor
  · intro reached
    induction reached with
    | own ref element =>
        obtain rfl : ⟨"Ring", "Ring"⟩ = ref := Option.some.inj element
        exact List.mem_cons_self
    | field holder next _ edge ih =>
        obtain ⟨field, member, element, known⟩ := edge
        exact edges holder ih field member next element known
  · intro member
    rcases List.mem_cons.mp member with rfl | other
    · exact ring
    · rw [List.mem_singleton.mp other]
      exact .field _ _ ring ⟨Samples.field "link" (Samples.modelHost "Link"), by decide, rfl, by decide⟩

theorem ring_determined (first second : ModelRef) (leads : Reaches ringModels ringSchema ringHost first)
    (others : Reaches ringModels ringSchema ringHost second) (named : first.name = second.name) : first = second := by
  have keys : ∀ ref ∈ ringMembers, ref.key = ref.name := by decide
  have same : first.key = second.key := by
    rw [keys first ((ring_reached first).mp leads), keys second ((ring_reached second).mp others), named]
  cases first
  cases second
  exact congrArg₂ ModelRef.mk named same

theorem ring_reports_known_foreign :
    isSupportedScalar (TypeRef.list (.named "Ring")).leaf = false ∧
      ringCatalog.resolve (TypeRef.list (.named "Ring")).leaf ["app"] = some ringHost ∧
      (∀ first second, Reaches ringModels ringSchema ringHost first → Reaches ringModels ringSchema ringHost second →
        first.name = second.name → ringModels.describe first = ringModels.describe second) ∧
      ((catalogOracle ringModels ringCatalog ["app"] (.list (.named "Ring")) ringSchema).map Problem.message).Perm
        ["Type Payload isn't a GraphQL type.", "Type Blob isn't a GraphQL type.",
          "Type Payload isn't a GraphQL type."] := by
  have composite : isSupportedScalar (TypeRef.list (.named "Ring")).leaf = false := by decide
  have resolved : ringCatalog.resolve (TypeRef.list (.named "Ring")).leaf ["app"] = some ringHost := by decide
  have determined (first second : ModelRef) (leads : Reaches ringModels ringSchema ringHost first)
      (others : Reaches ringModels ringSchema ringHost second) (named : first.name = second.name) :
      ringModels.describe first = ringModels.describe second :=
    congrArg ringModels.describe (ring_determined first second leads others named)
  obtain ⟨_, _, reports, _⟩ := oracle_reports_reachable ringModels ringCatalog ["app"] ringSchema
    (.list (.named "Ring")) ringHost composite resolved determined
  obtain ⟨reached, lists, texts⟩ := reports rfl
  have both : reached.Perm ringMembers := by
    refine (List.perm_ext_iff_of_nodup (List.Nodup.of_map _ lists.once) (by decide)).mpr fun ref => ?_
    rw [← ring_reached]
    constructor
    · exact lists.sound ref
    · intro leads
      obtain ⟨same, member, named⟩ := List.mem_map.mp (lists.complete ref leads)
      exact ring_determined same ref (lists.sound same member) leads named ▸ member
  exact ⟨composite, resolved, determined, texts.trans ((both.flatMap_right _).map _)⟩

end TypedQuery

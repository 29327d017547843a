import TypedQuery.Building
import TypedQuery.Proofs.Members
import TypedQuery.Proofs.Outcome
import TypedQuery.Samples

/-!
What the building of a request accepts and what it makes of it. A request comes about exactly if the
result and every declared slot are in order and nothing is left over, and its definitions, bindings
and variables are the declared arguments with a present slot.
-/

set_option autoImplicit false

namespace TypedQuery

def Argument.value? : Argument → Option Json
  | .present _ (.ok .null) => none
  | .present _ (.ok value) => some value
  | _ => none

def Argument.Fits (declared : ArgumentDescriptor) (argument : Argument) : Prop :=
  (argument.isPresent = false ∧ declared.type.isNonNull = false) ∨
    (argument.isPresent ∧ ∃ host value, argument = .present host (.ok value) ∧
      isCompatible declared.type host ∧ host.isRepresentable)

def argumentAt (arguments : List Argument) (index : Nat) : Argument := arguments[index]?.getD .absent

def slots (declared : List ArgumentDescriptor) (arguments : List Argument) :
    List (ArgumentDescriptor × Argument) :=
  declared.mapIdx fun index argument => (argument, argumentAt arguments index)

def presentSlots (declared : List ArgumentDescriptor) (arguments : List Argument) :
    List (ArgumentDescriptor × Argument) :=
  (slots declared arguments).filter fun slot => slot.2.isPresent

def suppliedValues (declared : List ArgumentDescriptor) (arguments : List Argument) :
    List (ArgumentDescriptor × Json) :=
  (slots declared arguments).filterMap fun slot => slot.2.value?.map (slot.1, ·)

structure Admissible (target : Target) (arguments : List Argument) : Prop where
  compatible : isCompatible target.field.type target.result
  representable : target.result.isRepresentable
  surplus : ∀ index, target.field.arguments.length ≤ index → (argumentAt arguments index).isPresent = false
  fitting : ∀ index declared, target.field.arguments[index]? = some declared →
    Argument.Fits declared (argumentAt arguments index)

theorem slots_cons (declared : ArgumentDescriptor) (rest : List ArgumentDescriptor) (arguments : List Argument) :
    slots (declared :: rest) arguments = (declared, arguments.headD .absent) :: slots rest arguments.tail := by
  cases arguments <;> simp [slots, argumentAt, List.mapIdx_cons]

theorem slots_fit (declared : List ArgumentDescriptor) (arguments : List Argument) :
    (∀ slot ∈ slots declared arguments, Argument.Fits slot.1 slot.2) ↔
      ∀ index argument, declared[index]? = some argument → Argument.Fits argument (argumentAt arguments index) := by
  simp only [slots, List.mem_iff_getElem?, List.getElem?_mapIdx]
  constructor
  · intro fit index argument found
    exact fit _ ⟨index, by rw [found]; rfl⟩
  · rintro fit slot ⟨index, found⟩
    obtain ⟨argument, declaredAt, rfl⟩ := Option.map_eq_some_iff.mp found
    exact fit index argument declaredAt

theorem present_count_zero (arguments : List Argument) (declared : Nat) :
    Target.presentCount (arguments.drop declared) = 0 ↔
      ∀ index, declared ≤ index → (argumentAt arguments index).isPresent = false := by
  simp only [Target.presentCount, List.countP_eq_zero, List.mem_iff_getElem?, List.getElem?_drop]
  constructor
  · intro none index past
    unfold argumentAt
    cases found : arguments[index]? with
    | none => rfl
    | some argument =>
        have absent := none argument ⟨index - declared, by rwa [Nat.add_sub_cancel' past]⟩
        simpa using absent
  · rintro none argument ⟨offset, found⟩
    have absent := none (declared + offset) (Nat.le_add_right _ _)
    simpa [argumentAt, found] using absent

theorem value_present (argument : Argument) (value : Json) (found : argument.value? = some value) :
    argument.isPresent ∧ value ≠ .null := by
  cases argument with
  | absent => simp [Argument.value?] at found
  | present host encoded =>
      cases encoded with
      | error reason => simp [Argument.value?] at found
      | ok json =>
          cases json with
          | null => simp [Argument.value?] at found
          | _ =>
              simp only [Argument.value?, Option.some.injEq] at found
              simp [Argument.isPresent, ← found]

theorem absent_value (argument : Argument) (absent : argument.isPresent = false) : argument.value? = none := by
  cases found : argument.value? with
  | none => rfl
  | some json => exact absurd (value_present argument json found).1 (by simp [absent])

theorem encoded_value (host : HostType) (json : Json) (present : (Argument.present host (.ok json)).isPresent) :
    (Argument.present host (.ok json)).value? = some json := by
  cases json <;> simp_all [Argument.value?, Argument.isPresent]

theorem bind_ok (declared : ArgumentDescriptor) (argument : Argument) (value : Option Json) :
    Argument.bind declared argument = .ok value ↔ Argument.Fits declared argument ∧ argument.value? = value := by
  unfold Argument.bind Argument.Fits
  cases present : argument.isPresent with
  | false => cases required : declared.type.isNonNull <;> simp [absent_value argument present]
  | true =>
      cases argument with
      | absent => simp [Argument.isPresent] at present
      | present host encoded =>
          cases compatible : isCompatible declared.type host with
          | false => simp [compatible]
          | true =>
              cases representable : host.isRepresentable with
              | false => simp [compatible, representable]
              | true =>
                  cases encoded with
                  | error reason => simp [compatible, representable]
                  | ok json => simp [compatible, representable, encoded_value host json present]

theorem bind_all_ok (declared : List ArgumentDescriptor) (arguments : List Argument)
    (bound : List (ArgumentDescriptor × Json)) :
    Argument.bindAll declared arguments = .ok bound ↔
      (∀ slot ∈ slots declared arguments, Argument.Fits slot.1 slot.2) ∧ suppliedValues declared arguments = bound := by
  unfold suppliedValues
  induction declared generalizing arguments bound with
  | nil => simp [Argument.bindAll, slots]
  | cons head rest ih =>
      rw [Argument.bindAll, slots_cons]
      generalize arguments.headD .absent = argument
      simp only [bind_ok_iff, bind_ok, ih, List.forall_mem_cons, Except.ok.injEq]
      constructor
      · rintro ⟨value, ⟨fits, rfl⟩, others, ⟨all, rfl⟩, rfl⟩
        refine ⟨⟨fits, all⟩, ?_⟩
        cases found : argument.value? <;> simp [found]
      · rintro ⟨⟨fits, all⟩, rfl⟩
        refine ⟨_, ⟨fits, rfl⟩, _, ⟨all, rfl⟩, ?_⟩
        cases found : argument.value? <;> simp [found]

theorem present_slot_values (passed : List (ArgumentDescriptor × Argument))
    (fit : ∀ slot ∈ passed, Argument.Fits slot.1 slot.2) :
    (passed.filterMap fun slot => slot.2.value?.map (slot.1, ·)).map (fun entry => (entry.1, some entry.2)) =
      (passed.filter fun slot => slot.2.isPresent).map fun slot => (slot.1, slot.2.value?) := by
  induction passed with
  | nil => rfl
  | cons slot rest ih =>
      have remaining := ih fun other member => fit other (List.mem_cons_of_mem _ member)
      obtain ⟨declared, argument⟩ := slot
      rcases fit (declared, argument) List.mem_cons_self with ⟨absent, _⟩ | ⟨present, host, json, rfl, _⟩
      · simpa [absent, absent_value argument absent] using remaining
      · simpa [present, encoded_value host json present] using remaining

theorem supplied_slots (declared : List ArgumentDescriptor) (arguments : List Argument)
    (fit : ∀ slot ∈ slots declared arguments, Argument.Fits slot.1 slot.2) :
    (suppliedValues declared arguments).map (fun entry => (entry.1, some entry.2)) =
      (presentSlots declared arguments).map fun slot => (slot.1, slot.2.value?) :=
  present_slot_values (slots declared arguments) fit

theorem supplied_declared (declared : List ArgumentDescriptor) (arguments : List Argument)
    (fit : ∀ slot ∈ slots declared arguments, Argument.Fits slot.1 slot.2) :
    (suppliedValues declared arguments).map Prod.fst = (presentSlots declared arguments).map Prod.fst := by
  have same := congrArg (List.map Prod.fst) (supplied_slots declared arguments fit)
  simpa only [List.map_map, Function.comp_def] using same

theorem slots_declared (declared : List ArgumentDescriptor) (arguments : List Argument) :
    (slots declared arguments).map Prod.fst = declared := by
  induction declared generalizing arguments with
  | nil => rfl
  | cons head rest ih => rw [slots_cons, List.map_cons, ih]

theorem present_slots_sublist (declared : List ArgumentDescriptor) (arguments : List Argument) :
    List.Sublist ((presentSlots declared arguments).map Prod.fst) declared := by
  have kept := (List.filter_sublist (p := fun slot => slot.2.isPresent) (l := slots declared arguments)).map Prod.fst
  rwa [slots_declared] at kept

theorem required_supplied (declared : List ArgumentDescriptor) (arguments : List Argument)
    (fit : ∀ slot ∈ slots declared arguments, Argument.Fits slot.1 slot.2) (argument : ArgumentDescriptor)
    (member : argument ∈ declared) (required : argument.type.isNonNull) :
    argument ∈ (suppliedValues declared arguments).map Prod.fst := by
  rw [← slots_declared declared arguments] at member
  obtain ⟨slot, among, rfl⟩ := List.mem_map.mp member
  rw [supplied_declared declared arguments fit]
  rcases fit slot among with ⟨_, optional⟩ | ⟨present, _⟩
  · simp [optional] at required
  · exact List.mem_map_of_mem (List.mem_filter.mpr ⟨among, present⟩)

theorem build_ok (models : ModelTable) (target : Target) (arguments : List Argument) (request : Request) :
    target.build models arguments = .ok request ↔
      Admissible target arguments ∧
        ⟨(target.operation models ((suppliedValues target.field.arguments arguments).map Prod.fst)).render,
          target.operationName,
          Json.ofFields ((suppliedValues target.field.arguments arguments).map fun entry => (entry.1.name, entry.2))⟩ =
          request := by
  unfold Target.build
  constructor
  · intro built
    dsimp only at built
    split at built
    · simp at built
    · rename_i compatible
      split at built
      · simp at built
      · rename_i representable
        split at built
        · simp at built
        · rename_i surplus
          simp only [bind_ok_iff, bind_all_ok, slots_fit, Except.ok.injEq] at built
          obtain ⟨bound, ⟨fitting, rfl⟩, same⟩ := built
          refine ⟨⟨by simpa using compatible, by simpa using representable, ?_, fitting⟩, same⟩
          exact (present_count_zero arguments _).mp (by omega)
  · rintro ⟨admissible, rfl⟩
    have surplus := (present_count_zero arguments _).mpr admissible.surplus
    have bound := (bind_all_ok _ arguments _).mpr ⟨(slots_fit _ arguments).mpr admissible.fitting, rfl⟩
    simp [admissible.compatible, admissible.representable, surplus, bound, bind, Except.bind]

theorem build_exact (models : ModelTable) (target : Target) (arguments : List Argument)
    (distinct : (target.field.arguments.map (·.name)).Nodup) :
    ((∃ request, target.build models arguments = .ok request) ↔ Admissible target arguments) ∧
    ∀ request, target.build models arguments = .ok request →
      request.query = Operation.render
        { kind := target.kind
          name := target.operationName
          definitions := (presentSlots target.field.arguments arguments).map fun slot => ⟨slot.1.name, slot.1.type⟩
          root := .mk target.name
            ((presentSlots target.field.arguments arguments).map fun slot => ⟨slot.1.name, slot.1.name⟩)
            (synthesize models target.result target.depth) } ∧
      request.operationName = target.operationName ∧
      request.values.map (fun entry => (entry.1, some entry.2)) =
        (presentSlots target.field.arguments arguments).map (fun slot => (slot.1.name, slot.2.value?)) ∧
      ∀ entry ∈ request.values, entry.2 ≠ .null := by
  have fits (admissible : Admissible target arguments) := (slots_fit _ arguments).mpr admissible.fitting
  constructor
  · simp only [build_ok, exists_and_left, exists_eq', and_true]
  · intro request built
    obtain ⟨admissible, rfl⟩ := (build_ok models target arguments request).mp built
    have declared := supplied_declared _ arguments (fits admissible)
    have names : ((suppliedValues target.field.arguments arguments).map fun entry => (entry.1.name, entry.2)).map Prod.fst =
        ((presentSlots target.field.arguments arguments).map Prod.fst).map (·.name) := by
      rw [← declared, List.map_map, List.map_map]
      rfl
    have once : (((suppliedValues target.field.arguments arguments).map fun entry => (entry.1.name, entry.2)).map
        Prod.fst).Nodup := by
      rw [names]
      exact distinct.sublist ((present_slots_sublist target.field.arguments arguments).map _)
    dsimp only
    rw [of_fields_distinct _ once]
    refine ⟨?_, rfl, ?_, ?_⟩
    · rw [declared]
      simp [Target.operation, Function.comp_def]
    · have same := congrArg (List.map fun slot => (slot.1.name, slot.2)) (supplied_slots _ arguments (fits admissible))
      simpa only [List.map_map, Function.comp_def] using same
    · intro entry member
      obtain ⟨supplied, origin, rfl⟩ := List.mem_map.mp member
      obtain ⟨slot, _, found⟩ := List.mem_filterMap.mp origin
      obtain ⟨value, encoded, rfl⟩ := Option.map_eq_some_iff.mp found
      exact (value_present slot.2 value encoded).2

def searchTarget : Target where
  kind := .query
  field := ⟨"search", .list (.named "Node"),
    [⟨"id", .nonNull (.named "ID")⟩, ⟨"hint", .named "String"⟩, ⟨"limits", .list (.named "Int")⟩]⟩
  name := "search"
  operationName := "Search"
  result := .list (Samples.modelHost "Node")
  depth := 2

def searchArguments : List Argument :=
  [.present (.scalar .string) (.ok (.str "n-1")), .present (.scalar .boolean) (.ok .null),
    .present (.list (.scalar .int)) (.ok (.arr [.int 3])), .absent]

theorem search_built_exactly :
    (searchTarget.field.arguments.map (·.name)).Nodup ∧ Admissible searchTarget searchArguments ∧
      ∃ request, searchTarget.build Samples.models searchArguments = .ok request ∧
        request.query = "query Search($id: ID!, $limits: [Int]) \x7b search(id: $id, limits: $limits) " ++
          "\x7b id parent \x7b id parent kids \x7d kids \x7b id parent kids \x7d \x7d \x7d" ∧
        request.values.map (fun entry => (entry.1, some entry.2)) =
          [("id", some (.str "n-1")), ("limits", some (.arr [.int 3]))] := by
  have distinct : (searchTarget.field.arguments.map (·.name)).Nodup := by decide
  obtain ⟨accepted, exact⟩ := build_exact Samples.models searchTarget searchArguments distinct
  have built : ∃ request, searchTarget.build Samples.models searchArguments = .ok request := by
    rw [← is_ok_iff]
    decide +kernel
  obtain ⟨request, same⟩ := built
  obtain ⟨query, _, values, _⟩ := exact request same
  refine ⟨distinct, accepted.mp ⟨request, same⟩, request, same, ?_, ?_⟩
  · rw [query]
    decide +kernel
  · rw [values]
    decide +kernel

end TypedQuery

import TypedQuery.Proofs.Requests

/-!
Arguments that are not there. A slot past the end of the list, one that is left out and a null under
any host type are the same to the building of a request, so that it may be given with or without them.
-/

set_option autoImplicit false

namespace TypedQuery

namespace Argument

inductive Missing : Argument → Prop
  | absent : Missing .absent
  | null (host : HostType) : Missing (.present host (.ok .null))

-- Both missing, or equal; a model in a host type counts by its name.
inductive Alike : Argument → Argument → Prop
  | missing (first second : Argument) : first.Missing → second.Missing → Alike first second
  | given (host other : HostType) (value : Except String Json) (same : host.same other) (present : value ≠ .ok .null) :
      Alike (.present host value) (.present other value)

end Argument

section Hosts

theorem same_self (host : HostType) : host.same host := by
  induction host with
  | list element ih => exact ih
  | scalar | model | enumeration | foreign => simp [HostType.same]

variable (host other : HostType) (same : host.same other)
include same

theorem same_name : host.name = other.name := by
  induction host generalizing other with
  | list element ih =>
      cases other with
      | list inner => rw [HostType.name, HostType.name, ih inner same]
      | scalar | model | enumeration | foreign => exact nomatch same
  | scalar | model | enumeration | foreign =>
      cases other <;> simp_all [HostType.same, HostType.name]

theorem same_representable : host.isRepresentable = other.isRepresentable := by
  induction host generalizing other with
  | list element ih =>
      cases other with
      | list inner => exact ih inner same
      | scalar | model | enumeration | foreign => exact nomatch same
  | scalar | model | enumeration | foreign =>
      cases other <;> first | rfl | exact nomatch same

theorem same_compatible (type : TypeRef) : isCompatible type host = isCompatible type other := by
  induction type generalizing host other with
  | nonNull inner ih => exact ih host other same
  | list element ih =>
      cases host with
      | list inner =>
          cases other with
          | list next => exact ih inner next same
          | scalar | model | enumeration | foreign => exact nomatch same
      | scalar | model | enumeration | foreign => cases other <;> first | rfl | exact nomatch same
  | named name =>
      cases host with
      | list inner => cases other <;> first | rfl | exact nomatch same
      | scalar | model | enumeration | foreign =>
          cases other <;> simp_all [HostType.same, isCompatible]

end Hosts

theorem missing_iff (argument : Argument) : argument.isPresent = false ↔ argument.Missing := by
  constructor
  · intro none
    unfold Argument.isPresent at none
    split at none
    · exact .absent
    · exact .null _
    · exact nomatch none
  · intro missing
    cases missing <;> rfl

theorem given_present (host : HostType) (value : Except String Json) (present : value ≠ .ok .null) :
    (Argument.present host value).isPresent = true := by
  refine (Bool.not_eq_false _).mp fun none => ?_
  cases (missing_iff _).mp none
  exact present rfl

theorem alike_present (first second : Argument) (alike : first.Alike second) : first.isPresent = second.isPresent := by
  cases alike with
  | missing first second one other => rw [(missing_iff first).mpr one, (missing_iff second).mpr other]
  | given host other value same present => rw [given_present host value present, given_present other value present]

theorem alike_self (argument : Argument) : argument.Alike argument := by
  cases present : argument.isPresent with
  | false => exact .missing _ _ ((missing_iff argument).mp present) ((missing_iff argument).mp present)
  | true =>
      cases argument with
      | absent => exact nomatch present
      | present host value =>
          refine .given host host value (same_self host) ?_
          rintro rfl
          exact nomatch present

section Places

theorem argument_head (arguments : List Argument) : arguments.headD .absent = argumentAt arguments 0 := by
  cases arguments <;> rfl

theorem argument_tail (arguments : List Argument) (index : Nat) :
    argumentAt arguments.tail index = argumentAt arguments (index + 1) := by
  cases arguments <;> rfl

theorem argument_drop (arguments : List Argument) (count index : Nat) :
    argumentAt (arguments.drop count) index = argumentAt arguments (count + index) := by
  rw [argumentAt, argumentAt, List.getElem?_drop]

theorem argument_present (arguments : List Argument) (index : Nat) (host : HostType) (value : Except String Json)
    (found : argumentAt arguments index = .present host value) : arguments[index]? = some (.present host value) := by
  unfold argumentAt at found
  cases held : arguments[index]? with
  | none => rw [held] at found; exact nomatch found
  | some argument => rw [held] at found; exact congrArg some found

end Places

section Slots

variable (declared : ArgumentDescriptor)

theorem bind_missing (argument : Argument) (missing : argument.Missing) :
    Argument.bind declared argument =
      if declared.type.isNonNull then .error (.argumentRequired declared.name) else .ok none := by
  cases missing <;> rfl

theorem bind_given (host : HostType) (value : Except String Json) : value ≠ .ok .null →
    Argument.bind declared (.present host value) =
      if !isCompatible declared.type host then
        .error (.argumentTypeMismatch declared.name host.name declared.type.leaf)
      else if !host.isRepresentable then .error (.argumentNotRepresentable declared.name host.name)
      else match value with
        | .ok value => .ok (some value)
        | .error reason => .error (.malformedArgument declared.name reason) := by
  intro present
  cases value with
  | error reason => rfl
  | ok value =>
      cases value with
      | null => exact absurd rfl present
      | bool | int | double | str | arr | obj => rfl

theorem bind_alike (first second : Argument) (alike : first.Alike second) :
    Argument.bind declared first = Argument.bind declared second := by
  cases alike with
  | missing first second one other => rw [bind_missing declared first one, bind_missing declared second other]
  | given host other value same present =>
      rw [bind_given declared host value present, bind_given declared other value present,
        same_compatible host other same, same_representable host other same, same_name host other same]

theorem bind_mismatch (argument : Argument) (name host expected : String)
    (failed : Argument.bind declared argument = .error (.argumentTypeMismatch name host expected)) :
    declared.name = name ∧ ∃ given value, argument = .present given value ∧ given.name = host ∧ value ≠ .ok .null := by
  rcases alike_self argument with ⟨_, _, missing, _⟩ | ⟨given, _, value, _, present⟩
  · rw [bind_missing declared argument missing] at failed
    split at failed <;> exact nomatch failed
  · rw [bind_given declared given value present] at failed
    split at failed
    · obtain ⟨rfl, rfl, _⟩ := UsageError.argumentTypeMismatch.inj (Except.error.inj failed)
      exact ⟨rfl, given, value, rfl, rfl, present⟩
    · split at failed
      · exact nomatch failed
      · cases value <;> exact nomatch failed

theorem bind_all_mismatch (declared : List ArgumentDescriptor) (arguments : List Argument) (name host expected : String)
    (failed : Argument.bindAll declared arguments = .error (.argumentTypeMismatch name host expected)) :
    ∃ index slot, declared[index]? = some slot ∧
      Argument.bind slot (argumentAt arguments index) = .error (.argumentTypeMismatch name host expected) := by
  induction declared generalizing arguments with
  | nil => exact nomatch failed
  | cons head rest ih =>
      rw [Argument.bindAll, argument_head] at failed
      rcases (bind_error_iff _ _ _).mp failed with here | ⟨_, _, failed⟩
      · exact ⟨0, head, rfl, here⟩
      · rcases (bind_error_iff _ _ _).mp failed with later | ⟨_, _, impossible⟩
        · obtain ⟨index, slot, found, wrong⟩ := ih arguments.tail later
          rw [argument_tail] at wrong
          exact ⟨index + 1, slot, found, wrong⟩
        · cases impossible

end Slots

section Lists

def AlikeEverywhere (first second : List Argument) : Prop :=
  ∀ index, (argumentAt first index).Alike (argumentAt second index)

variable (first second : List Argument) (alike : AlikeEverywhere first second)
include alike

theorem alike_drop (count : Nat) : AlikeEverywhere (first.drop count) (second.drop count) := by
  intro index
  rw [argument_drop, argument_drop]
  exact alike (count + index)

theorem alike_count : Target.presentCount first = Target.presentCount second := by
  have missing (arguments : List Argument) (padded : ∀ index, (argumentAt arguments index).isPresent = false) :
      Target.presentCount arguments = 0 :=
    (present_count_zero arguments 0).mpr fun index _ => padded index
  induction first generalizing second with
  | nil => exact (missing second fun index => (alike_present _ _ (alike index)).symm).symm
  | cons head rest ih =>
      cases second with
      | nil => exact missing (head :: rest) fun index => alike_present _ _ (alike index)
      | cons other others =>
          have tails := ih others fun index => alike (index + 1)
          have heads : head.isPresent = other.isPresent := alike_present head other (alike 0)
          unfold Target.presentCount at tails ⊢
          rw [List.countP_cons, List.countP_cons, tails, heads]

theorem bind_all_alike (declared : List ArgumentDescriptor) :
    Argument.bindAll declared first = Argument.bindAll declared second := by
  induction declared generalizing first second with
  | nil => rfl
  | cons head rest ih =>
      have tails : AlikeEverywhere first.tail second.tail := by
        intro index
        rw [argument_tail, argument_tail]
        exact alike (index + 1)
      rw [Argument.bindAll, Argument.bindAll, argument_head, argument_head, bind_alike head _ _ (alike 0),
        ih first.tail second.tail tails]

theorem build_alike (models : ModelTable) (target : Target) : target.build models first = target.build models second := by
  unfold Target.build
  dsimp only
  rw [alike_count _ _ (alike_drop first second alike target.field.arguments.length), alike_count first second alike,
    bind_all_alike first second alike target.field.arguments]

end Lists

theorem trailing_alike (arguments trailing : List Argument) (missing : ∀ argument ∈ trailing, argument.Missing) :
    AlikeEverywhere (arguments ++ trailing) arguments := by
  intro index
  unfold argumentAt
  by_cases inside : index < arguments.length
  · rw [List.getElem?_append_left inside]
    exact alike_self _
  · rw [List.getElem?_append_right (Nat.not_lt.mp inside), List.getElem?_eq_none (Nat.not_lt.mp inside)]
    refine .missing _ _ ?_ .absent
    cases found : trailing[index - arguments.length]? with
    | none => exact .absent
    | some argument => exact missing argument (List.mem_of_getElem? found)

theorem build_mismatch (models : ModelTable) (target : Target) (arguments : List Argument) (name host expected : String)
    (failed : target.build models arguments = .error (.argumentTypeMismatch name host expected)) :
    Argument.bindAll target.field.arguments arguments = .error (.argumentTypeMismatch name host expected) := by
  unfold Target.build at failed
  dsimp only at failed
  split at failed
  · exact nomatch failed
  · split at failed
    · exact nomatch failed
    · split at failed
      · exact nomatch failed
      · rcases (bind_error_iff _ _ _).mp failed with early | ⟨_, _, impossible⟩
        · exact early
        · exact nomatch impossible

theorem value_given (argument : Argument) (value : Json) (found : argument.value? = some value) :
    ∃ host, argument = .present host (.ok value) := by
  unfold Argument.value? at found
  split at found
  · exact nomatch found
  · exact ⟨_, congrArg (fun value => Argument.present _ (.ok value)) (Option.some.inj found)⟩
  · exact nomatch found

theorem supplied_given (declared : List ArgumentDescriptor) (arguments : List Argument) (entry : ArgumentDescriptor × Json)
    (member : entry ∈ suppliedValues declared arguments) :
    ∃ (index : Nat) (host : HostType), declared[index]? = some entry.1 ∧
      arguments[index]? = some (.present host (.ok entry.2)) ∧ entry.2 ≠ .null := by
  obtain ⟨slot, among, found⟩ := List.mem_filterMap.mp member
  obtain ⟨value, encoded, rfl⟩ := Option.map_eq_some_iff.mp found
  obtain ⟨index, placed⟩ := List.mem_iff_getElem?.mp among
  rw [slots, List.getElem?_mapIdx] at placed
  obtain ⟨argument, here, rfl⟩ := Option.map_eq_some_iff.mp placed
  obtain ⟨host, given⟩ := value_given _ value encoded
  exact ⟨index, host, here, argument_present arguments index host _ given, (value_present _ value encoded).2⟩

theorem absent_arguments_interchangeable (models : ModelTable) (target : Target) :
    (∀ first second : List Argument, (∀ index, (argumentAt first index).Alike (argumentAt second index)) →
      target.build models first = target.build models second) ∧
    (∀ arguments trailing : List Argument, (∀ argument ∈ trailing, argument.Missing) →
      target.build models (arguments ++ trailing) = target.build models arguments) ∧
    (∀ (arguments : List Argument) (name host expected : String),
      target.build models arguments = .error (.argumentTypeMismatch name host expected) →
        ∃ (index : Nat) (declared : ArgumentDescriptor) (given : HostType) (value : Except String Json),
          target.field.arguments[index]? = some declared ∧ declared.name = name ∧
          arguments[index]? = some (.present given value) ∧ given.name = host ∧ value ≠ .ok .null) ∧
    ∀ (arguments : List Argument) (request : Request), target.build models arguments = .ok request →
      ∃ bound : List (ArgumentDescriptor × Json),
        request.query = (target.operation models (bound.map Prod.fst)).render ∧
        request.values = Json.ofFields (bound.map fun entry => (entry.1.name, entry.2)) ∧
        ∀ entry ∈ bound, ∃ (index : Nat) (host : HostType), target.field.arguments[index]? = some entry.1 ∧
          arguments[index]? = some (.present host (.ok entry.2)) ∧ entry.2 ≠ .null := by
  refine ⟨?_, ?_, ?_, ?_⟩
  · exact fun first second alike => build_alike first second alike models target
  · exact fun arguments trailing missing => build_alike _ _ (trailing_alike arguments trailing missing) models target
  · intro arguments name host expected failed
    obtain ⟨index, slot, declared, wrong⟩ :=
      bind_all_mismatch _ _ name host expected (build_mismatch models target arguments name host expected failed)
    obtain ⟨named, given, value, found, typed, present⟩ := bind_mismatch slot _ name host expected wrong
    exact ⟨index, slot, given, value, declared, named, argument_present arguments index given value found, typed, present⟩
  · intro arguments request built
    obtain ⟨_, rfl⟩ := (build_ok models target arguments request).mp built
    exact ⟨suppliedValues target.field.arguments arguments, rfl, rfl, fun entry => supplied_given _ arguments entry⟩

def searchWithoutHint : List Argument :=
  [.present (.scalar .string) (.ok (.str "n-1")), .absent, .present (.list (.scalar .int)) (.ok (.arr [.int 3]))]

def searchTrailing : List Argument := [.absent, .present (.foreign "Nothing") (.ok .null)]

def searchMistyped : List Argument :=
  [.present (.scalar .string) (.ok (.str "n-1")), .present (.scalar .boolean) (.ok (.bool true))]

theorem search_without_hint_built :
    (∀ index, (argumentAt searchArguments index).Alike (argumentAt searchWithoutHint index)) ∧
      searchTarget.build Samples.models searchArguments = searchTarget.build Samples.models searchWithoutHint ∧
      (∀ argument ∈ searchTrailing, argument.Missing) ∧
      searchTarget.build Samples.models (searchWithoutHint ++ searchTrailing) =
        searchTarget.build Samples.models searchWithoutHint ∧
      searchTarget.build Samples.models searchMistyped = .error (.argumentTypeMismatch "hint" "Boolean" "String") ∧
      (∃ (index : Nat) (given : HostType) (value : Except String Json),
        searchMistyped[index]? = some (.present given value) ∧ given.name = "Boolean" ∧ value ≠ .ok .null) ∧
      ∃ request, searchTarget.build Samples.models searchWithoutHint = .ok request ∧
        ∃ bound : List (ArgumentDescriptor × Json),
          request.query = (searchTarget.operation Samples.models (bound.map Prod.fst)).render ∧
          ∀ entry ∈ bound, entry.2 ≠ .null := by
  obtain ⟨interchangeable, trailing, mismatch, bindings⟩ := absent_arguments_interchangeable Samples.models searchTarget
  have alike : ∀ index, (argumentAt searchArguments index).Alike (argumentAt searchWithoutHint index)
    | 0 => alike_self _
    | 1 => .missing _ _ (.null _) .absent
    | 2 => alike_self _
    | 3 => .missing _ _ .absent .absent
    | _ + 4 => .missing _ _ .absent .absent
  have missing : ∀ argument ∈ searchTrailing, argument.Missing :=
    List.forall_mem_cons.mpr ⟨.absent, List.forall_mem_singleton.mpr (.null _)⟩
  have mistyped : searchTarget.build Samples.models searchMistyped =
      .error (.argumentTypeMismatch "hint" "Boolean" "String") := by decide +kernel
  obtain ⟨request, built⟩ : ∃ request, searchTarget.build Samples.models searchWithoutHint = .ok request := by
    rw [← is_ok_iff]
    decide +kernel
  obtain ⟨index, _, given, value, _, _, found, typed, present⟩ := mismatch _ _ _ _ mistyped
  obtain ⟨bound, query, _, each⟩ := bindings _ request built
  exact ⟨alike, interchangeable _ _ alike, missing, trailing _ _ missing, mistyped,
    ⟨index, given, value, found, typed, present⟩, request, built, bound, query,
    fun entry member => (each entry member).choose_spec.choose_spec.2.2⟩

end TypedQuery

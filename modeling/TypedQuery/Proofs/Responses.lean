import TypedQuery.Proofs.Entries
import TypedQuery.Proofs.Messages

/-!
Responses that are read from objects: what a response holds is what stands under its two names, and
neither the other members, nor the order, nor how the names are capitalised decides anything.
-/

set_option autoImplicit false

namespace TypedQuery

open Json (valuesOf)

namespace Response

def dataNames : List String := ["data", "Data"]

def errorNames : List String := ["errors", "Errors"]

theorem slots_apart : slots.Apart := by
  unfold Json.RecordSlots.Apart
  decide

-- What a response holds for the values under a name: a null is no data, and no error.
def dataOf : List Json → Option Json
  | [] | .null :: _ => none
  | value :: _ => some value

def errorsOf : List Json → List Json
  | .arr errors :: _ => errors
  | _ => []

structure Acceptable (members : Json.Fields) : Prop where
  data : (valuesOf dataNames members).length ≤ 1
  errors : (valuesOf errorNames members).length ≤ 1
  listed : ∀ value ∈ valuesOf errorNames members, value = .null ∨ ∃ errors, value = .arr errors

theorem items_taken_iff (value : Json) :
    (∃ taken, Json.SlotKind.items.taken? value = some taken) ↔ value = .null ∨ ∃ errors, value = .arr errors := by
  cases value <;> simp [Json.SlotKind.taken?]

theorem fills_iff (members : Json.Fields) : slots.Fills members ↔ Acceptable members := by
  constructor
  · intro fills
    obtain ⟨data, _⟩ := fills _ List.mem_cons_self
    obtain ⟨errors, listed⟩ := fills _ (List.mem_cons_of_mem _ List.mem_cons_self)
    exact ⟨data, errors, fun value given => (items_taken_iff value).mp (listed value given)⟩
  · intro acceptable slot declared
    rcases List.mem_cons.mp declared with rfl | declared
    · exact ⟨acceptable.data, fun value _ => ⟨value, rfl⟩⟩
    · obtain rfl := List.mem_singleton.mp declared
      exact ⟨acceptable.errors, fun value given => (items_taken_iff value).mpr (acceptable.listed value given)⟩

section Values

variable (values : List Json)

theorem data_given : dataOf values ≠ some .null := by
  cases values with
  | nil => nofun
  | cons value rest => cases value <;> nofun

theorem data_said : ((values.filterMap Json.SlotKind.anything.taken?).head?.or (some .null)) =
    some ((dataOf values).getD .null) := by
  cases values with
  | nil => rfl
  | cons value rest => cases value <;> rfl

theorem errors_said (listed : ∀ value ∈ values, value = .null ∨ ∃ errors, value = .arr errors) :
    (values.filterMap Json.SlotKind.items.taken?).head?.or (some (.arr [])) = some (.arr (errorsOf values)) := by
  cases values with
  | nil => rfl
  | cons value rest => rcases listed value List.mem_cons_self with rfl | ⟨errors, rfl⟩ <;> rfl

theorem data_of_iff (single : values.length ≤ 1) (value : Json) :
    dataOf values = some value ↔ value ≠ .null ∧ value ∈ values := by
  match values, single with
  | [], _ => exact ⟨nofun, fun ⟨_, given⟩ => nomatch given⟩
  | [given], _ =>
      rw [List.mem_singleton]
      cases given with
      | null => exact ⟨nofun, fun ⟨different, same⟩ => absurd same different⟩
      | bool | int | double | str | arr | obj =>
          constructor
          · intro same
            obtain rfl := Option.some.inj same
            exact ⟨nofun, rfl⟩
          · rintro ⟨_, rfl⟩
            rfl

theorem errors_of_list (single : values.length ≤ 1) (errors : List Json) (given : .arr errors ∈ values) :
    errorsOf values = errors := by
  match values, single with
  | [value], _ =>
      obtain rfl := List.mem_singleton.mp given
      rfl

theorem errors_of_none (none : ∀ errors, .arr errors ∉ values) : errorsOf values = [] := by
  cases values with
  | nil => rfl
  | cons value rest =>
      cases value with
      | arr errors => exact absurd List.mem_cons_self (none errors)
      | null | bool | int | double | str | obj => rfl

theorem no_errors_iff (single : values.length ≤ 1) :
    (errorsOf values).isEmpty ↔ ∀ errors, .arr errors ∈ values → errors = [] := by
  rw [List.isEmpty_iff]
  constructor
  · intro none errors given
    exact (errors_of_list values single errors given).symm.trans none
  · intro empty
    by_cases given : ∃ errors, .arr errors ∈ values
    · obtain ⟨errors, given⟩ := given
      exact (errors_of_list values single errors given).trans (empty errors given)
    · exact errors_of_none values (not_exists.mp given)

theorem reordered_same (others : List Json) (reordered : values.Perm others) (single : values.length ≤ 1) :
    others = values := by
  match values, single with
  | [], _ => exact reordered.symm.eq_nil
  | [value], _ => exact reordered.symm.eq_singleton

end Values

theorem read_object_iff (source : Json.Source) (members : Json.Fields)
    (object : Json.ObjectTokens Json.RecordSlots.innerLimit (Json.tokens source) members []) (response : Response) :
    read source = .ok response ↔ Acceptable members ∧
      response = ⟨dataOf (valuesOf dataNames members), errorsOf (valuesOf errorNames members)⟩ := by
  rw [read_iff, Json.RecordSlots.parse_object_iff slots slots_apart members source object, fills_iff]
  have said (acceptable : Acceptable members) : slots.slots.mapM (Json.RecordSlots.filled? members) =
      some [(dataOf (valuesOf dataNames members)).getD .null, .arr (errorsOf (valuesOf errorNames members))] := by
    have data : Json.RecordSlots.filled? members slots.slots[0] = some _ := data_said (valuesOf dataNames members)
    have errors : Json.RecordSlots.filled? members slots.slots[1] = some _ :=
      errors_said (valuesOf errorNames members) acceptable.listed
    change [slots.slots[0], slots.slots[1]].mapM _ = _
    rw [List.mapM_cons, List.mapM_cons, data, errors, List.mapM_nil]
    rfl
  have read := (of_slots_iff _ ⟨_, errorsOf (valuesOf errorNames members)⟩).mpr
    ⟨data_given (valuesOf dataNames members), rfl⟩
  constructor
  · rintro ⟨given, acceptable, values⟩
    have other := (of_slots_iff _ response).mpr ⟨given, Option.some.inj ((said acceptable).symm.trans values)⟩
    exact ⟨acceptable, Option.some.inj (other.symm.trans read)⟩
  · rintro ⟨acceptable, rfl⟩
    exact ⟨data_given _, acceptable, said acceptable⟩

theorem same_members_read (source other : Json.Source) (members others : Json.Fields)
    (object : Json.ObjectTokens Json.RecordSlots.innerLimit (Json.tokens source) members [])
    (second : Json.ObjectTokens Json.RecordSlots.innerLimit (Json.tokens other) others [])
    (data : (valuesOf dataNames members).Perm (valuesOf dataNames others))
    (errors : (valuesOf errorNames members).Perm (valuesOf errorNames others)) (response : Response)
    (parsed : read source = .ok response) : read other = .ok response := by
  obtain ⟨acceptable, rfl⟩ := (read_object_iff source members object response).mp parsed
  have sameData := reordered_same _ _ data acceptable.data
  have sameErrors := reordered_same _ _ errors acceptable.errors
  refine (read_object_iff other others second _).mpr ⟨?_, by rw [sameData, sameErrors]⟩
  exact ⟨sameData ▸ acceptable.data, sameErrors ▸ acceptable.errors, sameErrors ▸ acceptable.listed⟩

end Response

theorem response_members_read (source : Json.Source) :
    (∀ fields, Json.readValue Json.nestingLimit (Json.tokens source) = .ok (.obj fields, []) ↔
      ∃ members, Json.ObjectTokens Json.RecordSlots.innerLimit (Json.tokens source) members [] ∧
        fields = Json.ofFields members) ∧
    ∀ members, Json.ObjectTokens Json.RecordSlots.innerLimit (Json.tokens source) members [] →
      ((∃ response, Response.read source = .ok response) ↔
        (valuesOf Response.dataNames members).length ≤ 1 ∧ (valuesOf Response.errorNames members).length ≤ 1 ∧
          ∀ value ∈ valuesOf Response.errorNames members, value = .null ∨ ∃ errors, value = .arr errors) ∧
      (∀ response, Response.read source = .ok response →
        (∀ value, response.data = some value ↔ value ≠ .null ∧ value ∈ valuesOf Response.dataNames members) ∧
        (∀ errors, .arr errors ∈ valuesOf Response.errorNames members → response.errors = errors) ∧
        ((∀ errors, .arr errors ∉ valuesOf Response.errorNames members) → response.errors = []) ∧
        (response.isOk ↔ ∀ errors, .arr errors ∈ valuesOf Response.errorNames members → errors = [])) ∧
      ∀ other others, Json.ObjectTokens Json.RecordSlots.innerLimit (Json.tokens other) others [] →
        (valuesOf Response.dataNames members).Perm (valuesOf Response.dataNames others) →
        (valuesOf Response.errorNames members).Perm (valuesOf Response.errorNames others) →
        ∀ response, Response.read source = .ok response ↔ Response.read other = .ok response := by
  refine ⟨Json.object_text_iff source, fun members object => ⟨?_, ?_, ?_⟩⟩
  · constructor
    · rintro ⟨response, parsed⟩
      obtain ⟨⟨data, errors, listed⟩, _⟩ := (Response.read_object_iff source members object response).mp parsed
      exact ⟨data, errors, listed⟩
    · rintro ⟨data, errors, listed⟩
      exact ⟨_, (Response.read_object_iff source members object _).mpr ⟨⟨data, errors, listed⟩, rfl⟩⟩
  · intro response parsed
    obtain ⟨acceptable, rfl⟩ := (Response.read_object_iff source members object response).mp parsed
    exact ⟨Response.data_of_iff _ acceptable.data, Response.errors_of_list _ acceptable.errors,
      Response.errors_of_none _, Response.no_errors_iff _ acceptable.errors⟩
  · intro other others second data errors response
    exact ⟨Response.same_members_read source other members others object second data errors response,
      Response.same_members_read other source others members second object data.symm errors.symm response⟩

def spelledBody : String :=
  "\x7b\"trace\": [1], \"Errors\": [false], \"trace\": 2, \"Data\": null\x7d"

def plainBody : String := "\x7b\"data\": null, \"errors\": [false]\x7d"

theorem spelled_body_read :
    ∃ response, Response.parse spelledBody = .ok response ∧ response.data = none ∧ response.errors = [.bool false] ∧
      response.isOk = false ∧ Response.parse plainBody = .ok response := by
  have spelled : Json.ObjectTokens Json.RecordSlots.innerLimit (Json.tokens (Json.sourceOf spelledBody))
      [("trace", .arr [.int 1]), ("Errors", .arr [.bool false]), ("trace", .int 2), ("Data", .null)] [] :=
    .members _ _ _ (.next _ _ _ _ _ _ rfl (.next _ _ _ _ _ _ rfl (.next _ _ _ _ _ _ rfl (.last _ _ _ _ rfl))))
  have plain : Json.ObjectTokens Json.RecordSlots.innerLimit (Json.tokens (Json.sourceOf plainBody))
      [("data", .null), ("errors", .arr [.bool false])] [] :=
    .members _ _ _ (.next _ _ _ _ _ _ rfl (.last _ _ _ _ rfl))
  obtain ⟨accepted, meaning, alike⟩ := (response_members_read (Json.sourceOf spelledBody)).2 _ spelled
  obtain ⟨response, parsed⟩ := accepted.mpr ⟨by decide, by decide, fun value given =>
    .inr ⟨_, List.mem_singleton.mp given⟩⟩
  obtain ⟨data, errors, _, _⟩ := meaning response parsed
  have listed := errors [.bool false] (List.mem_singleton.mpr rfl)
  refine ⟨response, parsed, ?_, listed, ?_, ?_⟩
  · refine Option.eq_none_iff_forall_ne_some.mpr fun value given => ?_
    obtain ⟨different, member⟩ := (data value).mp given
    exact different (List.mem_singleton.mp member)
  · rw [Response.isOk, listed]
    rfl
  · exact (alike (Json.sourceOf plainBody) _ plain (.refl _) (.refl _) response).mp parsed

end TypedQuery

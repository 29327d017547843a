import TypedQuery.Decoding
import TypedQuery.Proofs.Outcome
import TypedQuery.Samples

/-!
Which key of a payload the shape check complains of. Among all keys that their models do not declare
it is the one that a reader of the payload comes to first.
-/

set_option autoImplicit false

namespace TypedQuery

def ModelDescriptor.Declares (descriptor : ModelDescriptor) (key : String) (field : ModelField) : Prop :=
  ∃ before after, descriptor.fields = before ++ field :: after ∧ field.mappedName descriptor.naming = key ∧
    ∀ earlier ∈ before, earlier.mappedName descriptor.naming ≠ key

def ModelDescriptor.Unknown (descriptor : ModelDescriptor) (key : String) : Prop :=
  ∀ field ∈ descriptor.fields, field.mappedName descriptor.naming ≠ key

-- An object of a value that meets a model, which is described beside it. Its place is the indices of
-- the items and members that lead to it.
inductive Checked (models : ModelTable) : HostType → Json → List Nat → ModelDescriptor → Json.Fields → Prop
  | here (ref : ModelRef) (fields : Json.Fields) :
      Checked models (.model ref) (.obj fields) [] (models.describe ref) fields
  | item (element : HostType) (items : List Json) (index : Nat) (item : Json) (place : List Nat)
      (descriptor : ModelDescriptor) (fields : Json.Fields) (found : items[index]? = some item)
      (checked : Checked models element item place descriptor fields) :
      Checked models (.list element) (.arr items) (index :: place) descriptor fields
  | member (ref : ModelRef) (members : Json.Fields) (index : Nat) (key : String) (nested : Json) (field : ModelField)
      (place : List Nat) (descriptor : ModelDescriptor) (fields : Json.Fields) (found : members[index]? = some (key, nested))
      (declares : (models.describe ref).Declares key field)
      (checked : Checked models field.type nested place descriptor fields) :
      Checked models (.model ref) (.obj members) (index :: place) descriptor fields

inductive Offends (models : ModelTable) (host : HostType) (value : Json) : List Nat → UndeclaredKey → Prop
  | key (place : List Nat) (descriptor : ModelDescriptor) (fields : Json.Fields) (index : Nat) (key : String)
      (nested : Json) (checked : Checked models host value place descriptor fields)
      (found : fields[index]? = some (key, nested)) (unknown : descriptor.Unknown key) :
      Offends models host value (place ++ [index]) ⟨key, descriptor.name⟩

section Declared

variable (descriptor : ModelDescriptor) (key : String)

theorem field_declares (field : ModelField) : descriptor.field? key = some field ↔ descriptor.Declares key field := by
  rw [ModelDescriptor.field?, List.find?_eq_some_iff_append]
  simp only [decide_eq_true_eq, Bool.not_eq_true', decide_eq_false_iff_not]
  constructor
  · rintro ⟨named, before, after, same, fresh⟩
    exact ⟨before, after, same, named, fresh⟩
  · rintro ⟨before, after, same, named, fresh⟩
    exact ⟨named, before, after, same, fresh⟩

theorem field_unknown : descriptor.field? key = none ↔ descriptor.Unknown key := by
  rw [ModelDescriptor.field?, List.find?_eq_none]
  simp only [decide_eq_true_eq]
  rfl

theorem declares_unique (first second : ModelField) (one : descriptor.Declares key first)
    (other : descriptor.Declares key second) : first = second := by
  have found := (field_declares descriptor key first).mpr one
  rw [(field_declares descriptor key second).mpr other] at found
  exact (Option.some.inj found).symm

end Declared

-- At one place there is one object, so at one place at most one key is at fault.
theorem checked_unique (models : ModelTable) (host : HostType) (value : Json) (place : List Nat)
    (descriptor other : ModelDescriptor) (fields members : Json.Fields)
    (one : Checked models host value place descriptor fields) (two : Checked models host value place other members) :
    descriptor = other ∧ fields = members := by
  induction one with
  | here ref fields =>
      cases two
      exact ⟨rfl, rfl⟩
  | item element items index item place descriptor fields found _ ih =>
      cases two with
      | item _ _ _ second _ _ _ again checked =>
          obtain rfl := Option.some.inj (found.symm.trans again)
          exact ih checked
  | member ref members index key nested field place descriptor fields found declares _ ih =>
      cases two with
      | member _ _ _ second inside same _ _ _ again declared checked =>
          obtain ⟨rfl, rfl⟩ := Prod.mk.inj (Option.some.inj (found.symm.trans again))
          obtain rfl := declares_unique _ _ _ _ declares declared
          exact ih checked

theorem offends_unique (models : ModelTable) (host : HostType) (value : Json) (place : List Nat)
    (first second : UndeclaredKey) (one : Offends models host value place first)
    (two : Offends models host value place second) : first = second := by
  obtain ⟨place, descriptor, fields, index, key, nested, checked, found, _⟩ := one
  generalize whole : place ++ [index] = spot at two
  obtain ⟨other, inside, members, position, name, below, again, there, _⟩ := two
  obtain ⟨rfl, same⟩ := List.append_inj' whole rfl
  obtain rfl := (List.cons.inj same).1
  obtain ⟨rfl, rfl⟩ := checked_unique models host value place descriptor inside fields members checked again
  obtain ⟨rfl, _⟩ := Prod.mk.inj (Option.some.inj (found.symm.trans there))
  rfl

section Places

inductive Among {α : Type} (each : α → List Nat → UndeclaredKey → Prop) (items : List α) :
    List Nat → UndeclaredKey → Prop
  | at (index : Nat) (item : α) (below : List Nat) (fault : UndeclaredKey) (found : items[index]? = some item)
      (wrong : each item below fault) : Among each items (index :: below) fault

inductive MemberOffends (models : ModelTable) (descriptor : ModelDescriptor) :
    String × Json → List Nat → UndeclaredKey → Prop
  | key (key : String) (nested : Json) (unknown : descriptor.Unknown key) :
      MemberOffends models descriptor (key, nested) [] ⟨key, descriptor.name⟩
  | below (key : String) (nested : Json) (field : ModelField) (place : List Nat) (fault : UndeclaredKey)
      (declares : descriptor.Declares key field) (offends : Offends models field.type nested place fault) :
      MemberOffends models descriptor (key, nested) place fault

variable (models : ModelTable) (place : List Nat) (fault : UndeclaredKey)

theorem list_offends (element : HostType) (items : List Json) :
    Offends models (.list element) (.arr items) place fault ↔ Among (Offends models element) items place fault := by
  constructor
  · rintro ⟨_, descriptor, fields, position, key, nested, checked, found, unknown⟩
    cases checked with
    | item _ _ index item place _ _ there checked =>
        exact .at index item _ _ there (.key place descriptor fields position key nested checked found unknown)
  · rintro ⟨index, item, _, _, there, place, descriptor, fields, position, key, nested, checked, found, unknown⟩
    exact .key (index :: place) descriptor fields position key nested (.item element items index item _ _ _ there checked)
      found unknown

theorem model_offends (ref : ModelRef) (members : Json.Fields) :
    Offends models (.model ref) (.obj members) place fault ↔
      Among (MemberOffends models (models.describe ref)) members place fault := by
  constructor
  · rintro ⟨_, descriptor, fields, position, key, nested, checked, found, unknown⟩
    cases checked with
    | here => exact .at position (key, nested) [] _ found (.key key nested unknown)
    | member _ _ index name value field place _ _ there declares checked =>
        exact .at index (name, value) _ _ there (.below name value field _ _ declares
          (.key place descriptor fields position key nested checked found unknown))
  · rintro ⟨index, _, _, _, there, wrong⟩
    cases wrong with
    | key key nested unknown => exact .key [] _ members index key nested (.here ref members) there unknown
    | below name value field _ _ declares offends =>
        obtain ⟨place, descriptor, fields, position, key, nested, checked, found, unknown⟩ := offends
        exact .key (index :: place) descriptor fields position key nested
          (.member ref members index name value field place _ _ there declares checked) found unknown

end Places

-- An outcome is the first of some faults, or there are none. Places are compared index by index, so
-- that what stands below an item comes after what stands before it.
inductive Tells (faulty : List Nat → UndeclaredKey → Prop) : Except UndeclaredKey Unit → Prop
  | none (fine : ∀ place fault, ¬ faulty place fault) : Tells faulty (.ok ())
  | first (place : List Nat) (fault : UndeclaredKey) (found : faulty place fault)
      (least : ∀ other next, faulty other next → place = other ∨ place < other) : Tells faulty (.error fault)

theorem tells_same (faulty others : List Nat → UndeclaredKey → Prop) (outcome : Except UndeclaredKey Unit)
    (same : ∀ place fault, faulty place fault ↔ others place fault) (tells : Tells others outcome) :
    Tells faulty outcome := by
  cases tells with
  | none fine => exact .none fun place fault found => fine place fault ((same place fault).mp found)
  | first place fault found least =>
      exact .first place fault ((same place fault).mpr found) fun other next wrong =>
        least other next ((same other next).mp wrong)

section Lists

variable {α : Type} (each : α → List Nat → UndeclaredKey → Prop)

theorem among_nil : Tells (Among each []) (.ok ()) := by
  refine .none ?_
  rintro _ _ ⟨_, _, _, _, found, _⟩
  exact nomatch found

theorem among_later (item : α) (rest : List α) (place : List Nat) (fault : UndeclaredKey)
    (later : Among each rest place fault) :
    ∃ index below, place = index :: below ∧ Among each (item :: rest) ((index + 1) :: below) fault := by
  obtain ⟨index, other, below, _, found, wrong⟩ := later
  exact ⟨index, below, rfl, .at (index + 1) other below fault found wrong⟩

theorem among_cons (item : α) (rest : List α) (head tail : Except UndeclaredKey Unit)
    (first : Tells (each item) head) (later : Tells (Among each rest) tail) :
    Tells (Among each (item :: rest)) (head >>= fun _ => tail) := by
  cases first with
  | first place fault found least =>
      refine .first (0 :: place) fault (.at 0 item place fault rfl found) ?_
      rintro _ next ⟨index, other, below, _, there, wrong⟩
      cases index with
      | zero =>
          obtain rfl := Option.some.inj there
          exact (least below next wrong).imp (congrArg _) List.Lex.cons
      | succ index => exact .inr (List.Lex.rel (Nat.succ_pos index))
  | none fine =>
      cases later with
      | none none =>
          refine .none ?_
          rintro _ next ⟨index, other, below, _, there, wrong⟩
          cases index with
          | zero => exact fine below next (Option.some.inj there ▸ wrong)
          | succ index => exact none (index :: below) next (.at index other below next there wrong)
      | first _ fault found least =>
          obtain ⟨start, place, rfl, later⟩ := among_later each item _ _ fault found
          refine .first ((start + 1) :: place) fault later ?_
          rintro _ next ⟨index, other, below, _, there, wrong⟩
          cases index with
          | zero => exact absurd (Option.some.inj there ▸ wrong) (fine below next)
          | succ index =>
              rcases least (index :: below) next (.at index other below next there wrong) with same | less
              · obtain ⟨rfl, rfl⟩ := List.cons.inj same
                exact .inl rfl
              · refine .inr (List.cons_lt_cons_iff.mpr ?_)
                exact (List.cons_lt_cons_iff.mp less).imp Nat.succ_lt_succ fun ⟨same, less⟩ => ⟨congrArg _ same, less⟩

end Lists

theorem unfollowed_fine (models : ModelTable) (host : HostType) (value : Json)
    (lists : ∀ element items, host = .list element → value ≠ .arr items)
    (objects : ∀ ref fields, host = .model ref → value ≠ .obj fields) : Tells (Offends models host value) (.ok ()) := by
  refine .none ?_
  rintro _ _ ⟨_, _, _, _, _, _, checked, _, _⟩
  cases checked with
  | here ref => exact objects ref _ rfl rfl
  | item element items => exact lists element items rfl rfl
  | member ref members => exact objects ref members rfl rfl

mutual
theorem check_tells (models : ModelTable) (host : HostType) (value : Json) :
    Tells (Offends models host value) (checkShape models host value) := by
  cases value with
  | arr items =>
      cases host with
      | list element =>
          exact tells_same _ _ _ (fun place fault => list_offends models place fault element items)
            (check_items_tells models element items)
      | scalar | model | enumeration | foreign => exact unfollowed_fine models _ _ nofun nofun
  | obj fields =>
      cases host with
      | model ref =>
          exact tells_same _ _ _ (fun place fault => model_offends models place fault ref fields)
            (check_fields_tells models (models.describe ref) fields)
      | scalar | list | enumeration | foreign => exact unfollowed_fine models _ _ nofun nofun
  | null | bool | int | double | str => exact unfollowed_fine models host _ nofun nofun
theorem check_items_tells (models : ModelTable) (element : HostType) (items : List Json) :
    Tells (Among (Offends models element) items) (checkItems models element items) := by
  cases items with
  | nil => exact among_nil _
  | cons item rest =>
      exact among_cons _ item rest _ _ (check_tells models element item) (check_items_tells models element rest)
theorem check_fields_tells (models : ModelTable) (descriptor : ModelDescriptor) (fields : Json.Fields) :
    Tells (Among (MemberOffends models descriptor) fields) (checkFields models descriptor fields) := by
  cases fields with
  | nil => exact among_nil _
  | cons member rest =>
      obtain ⟨key, nested⟩ := member
      have later := check_fields_tells models descriptor rest
      rw [checkFields]
      cases found : descriptor.field? key with
      | none =>
          have unknown := (field_unknown descriptor key).mp found
          refine among_cons _ (key, nested) rest (.error ⟨key, descriptor.name⟩) _ ?_ later
          refine .first [] _ (.key key nested unknown) fun other next wrong => ?_
          cases other with
          | nil => exact .inl rfl
          | cons index below => exact .inr List.Lex.nil
      | some field =>
          have declares := (field_declares descriptor key field).mp found
          refine among_cons _ (key, nested) rest _ _ (tells_same _ _ _ ?_ (check_tells models field.type nested)) later
          intro place fault
          constructor
          · intro wrong
            cases wrong with
            | key _ _ unknown => exact absurd ((field_unknown descriptor key).mpr unknown) (by rw [found]; exact nofun)
            | below _ _ other _ _ again offends =>
                exact declares_unique descriptor key other field again declares ▸ offends
          · exact fun offends => .below key nested field place fault declares offends
end

section Verdicts

variable (models : ModelTable) (host : HostType) (value : Json)

theorem accepted_iff : checkShape models host value = .ok () ↔ ∀ place fault, ¬ Offends models host value place fault := by
  have tells := check_tells models host value
  generalize checkShape models host value = outcome at tells
  cases tells with
  | none fine => exact ⟨fun _ => fine, fun _ => rfl⟩
  | first place fault found least => exact ⟨nofun, fun fine => absurd found (fine place fault)⟩

theorem refused_iff_first (fault : UndeclaredKey) :
    checkShape models host value = .error fault ↔ ∃ place, Offends models host value place fault ∧
      ∀ other next, Offends models host value other next → place = other ∨ place < other := by
  have tells := check_tells models host value
  generalize checkShape models host value = outcome at tells
  cases tells with
  | none fine => exact ⟨nofun, fun ⟨place, found, _⟩ => absurd found (fine place fault)⟩
  | first place named found least =>
      constructor
      · intro same
        exact ⟨place, Except.error.inj same ▸ found, least⟩
      · rintro ⟨other, wrong, before⟩
        have same : place = other := by
          rcases least other fault wrong with same | less
          · exact same
          · rcases before place named found with same | more
            · exact same.symm
            · exact absurd (List.lt_trans less more) (List.lt_irrefl place)
        exact congrArg Except.error (offends_unique models host value other named fault (same ▸ found) wrong)

theorem nothing_offends_iff :
    (∀ place fault, ¬ Offends models host value place fault) ↔
      ∀ place descriptor fields, Checked models host value place descriptor fields →
        ∀ entry ∈ fields, ∃ field ∈ descriptor.fields, field.mappedName descriptor.naming = entry.1 := by
  constructor
  · intro fine place descriptor fields checked entry member
    obtain ⟨index, found⟩ := List.mem_iff_getElem?.mp member
    cases looked : descriptor.field? entry.1 with
    | none =>
        have unknown := (field_unknown descriptor entry.1).mp looked
        exact absurd (.key place descriptor fields index entry.1 entry.2 checked found unknown) (fine _ _)
    | some field =>
        obtain ⟨before, after, same, named, _⟩ := (field_declares descriptor entry.1 field).mp looked
        exact ⟨field, by rw [same]; exact List.mem_append_right before List.mem_cons_self, named⟩
  · rintro declared _ _ ⟨place, descriptor, fields, index, key, nested, checked, found, unknown⟩
    obtain ⟨field, member, named⟩ := declared place descriptor fields checked (key, nested) (List.mem_of_getElem? found)
    exact unknown field member named

end Verdicts

theorem shape_check_finds_first (models : ModelTable) (host : HostType) (value : Json) :
    (checkShape models host value = .ok () ↔
      ∀ place descriptor fields, Checked models host value place descriptor fields →
        ∀ entry ∈ fields, ∃ field ∈ descriptor.fields, field.mappedName descriptor.naming = entry.1) ∧
    (∀ fault, checkShape models host value = .error fault ↔ ∃ place, Offends models host value place fault ∧
      ∀ other next, Offends models host value other next → place = other ∨ place < other) ∧
    ∀ fault, checkShape models host value = .error fault →
      (checkShape models host value).mapError UndeclaredKey.message =
        .error ("unknown field `" ++ fault.key ++ "` in " ++ fault.model) := by
  refine ⟨?_, refused_iff_first models host value, ?_⟩
  · rw [accepted_iff, nothing_offends_iff]
  · intro fault refused
    rw [refused]
    rfl

def unruly : Json :=
  .arr [.obj [("id", .str "n-1"), ("kids", .arr [.obj [("id", .str "n-2"), ("unit", .null)]]), ("age", .int 1)],
    .obj [("colour", .null)]]

def orderly : Json := .arr [.obj [("kids", .arr [.obj []]), ("id", .str "n-1")], .null]

theorem deepest_key_first :
    checkShape Samples.models (.list (Samples.modelHost "Node")) unruly = .error ⟨"unit", "Node"⟩ ∧
      (∃ place, Offends Samples.models (.list (Samples.modelHost "Node")) unruly place ⟨"unit", "Node"⟩ ∧
        ∀ other next, Offends Samples.models (.list (Samples.modelHost "Node")) unruly other next →
          place = other ∨ place < other) ∧
      (checkShape Samples.models (.list (Samples.modelHost "Node")) unruly).mapError UndeclaredKey.message =
        .error "unknown field `unit` in Node" ∧
      ∀ place descriptor fields, Checked Samples.models (.list (Samples.modelHost "Node")) orderly place descriptor fields →
        ∀ entry ∈ fields, ∃ field ∈ descriptor.fields, field.mappedName descriptor.naming = entry.1 := by
  obtain ⟨_, first, message⟩ := shape_check_finds_first Samples.models (.list (Samples.modelHost "Node")) unruly
  have refused : checkShape Samples.models (.list (Samples.modelHost "Node")) unruly = .error ⟨"unit", "Node"⟩ := by
    decide +kernel
  have accepted : checkShape Samples.models (.list (Samples.modelHost "Node")) orderly = .ok () := by decide +kernel
  exact ⟨refused, (first _).mp refused, message _ refused,
    (shape_check_finds_first Samples.models (.list (Samples.modelHost "Node")) orderly).1.mp accepted⟩

end TypedQuery

import TypedQuery.Json.Record
import TypedQuery.Proofs.Outcome
import TypedQuery.Proofs.Soundness

/-!
Records as they are read from tokens: an object of known members is read as their values, and what is
read, in whichever form it stands, is no deeper than a record leaves room for.
-/

set_option autoImplicit false

namespace TypedQuery.Json

def SlotKind.Suits : SlotKind → Json → Prop
  | .text, .str _ | .object, .obj _ | .items, .arr _ | .anything, _ => True
  | _, _ => False

namespace RecordSlots

section Writing

theorem lift_read (value : Json) (rest : List Token) (fits : Fits innerLimit value) :
    lift (readValue innerLimit (value.written ++ rest)) = .ok (value, rest) := by
  rw [value_read innerLimit value rest fits.distinct fits.shallow]
  rfl

theorem slot_read (kind : SlotKind) (value : Json) (rest : List Token) (suits : kind.Suits value)
    (fits : Fits innerLimit value) : readSlot kind (value.written ++ rest) = .ok (value, rest) := by
  have read := lift_read value rest fits
  cases kind with
  | text =>
      cases value with
      | str text => rfl
      | null | bool | int | double | arr | obj => exact nomatch suits
  | object =>
      cases value with
      | obj fields => exact read
      | null | bool | int | double | arr | str => exact nomatch suits
  | items =>
      cases value with
      | arr items => exact read
      | null | bool | int | double | obj | str => exact nomatch suits
  | anything => cases value <;> exact read

theorem member_read (record : RecordSlots) (slot : Slot) (key : String) (value : Json) (read : Read) (rest : List Token)
    (known : record.slot? key = some slot) (fresh : read.lookup slot.key = none) (suits : slot.kind.Suits value)
    (fits : Fits innerLimit value) :
    record.readMember read key (.colon :: (value.written ++ rest)) = .ok (read ++ [(slot.key, value)], rest) := by
  unfold readMember
  simp only [known, Option.any_some, fresh, Option.isSome_none, Bool.false_eq_true, if_false,
    slot_read slot.kind value rest suits fits]
  rfl

def Knows (record : RecordSlots) (member : String × Json) : Prop :=
  ∃ slot, record.slot? member.1 = some slot ∧ slot.key = member.1 ∧ slot.kind.Suits member.2 ∧ Fits innerLimit member.2

theorem written_length (fields : Fields) : fields.length ≤ (writtenFields fields).length := by
  induction fields with
  | nil => exact Nat.zero_le _
  | cons field rest ih =>
      cases rest with
      | nil => simp [writtenFields]
      | cons next others =>
          rw [writtenFields]
          · simp only [List.length_cons, List.length_append] at ih ⊢
            omega
          · exact List.cons_ne_nil _ _

section Steps

variable (record : RecordSlots) (limit : Nat) (read next : Read) (key : String) (found rest : List Token)

theorem last_member (member : record.readMember read key found = .ok (next, .closeObj :: rest)) :
    record.readMembers (limit + 1) read (.text (.ok key) :: found) = (record.finish next).map (·, rest) := by
  rw [readMembers]
  change (record.readMember read key found >>= _) = _
  rw [member]
  rfl

theorem next_member (member : record.readMember read key found = .ok (next, .comma :: rest)) :
    record.readMembers (limit + 1) read (.text (.ok key) :: found) = record.readMembers limit next rest := by
  rw [readMembers]
  change (record.readMember read key found >>= _) = _
  rw [member]
  rfl

end Steps

theorem members_read (record : RecordSlots) (members : Fields) (any : members ≠ []) (limit : Nat) (read : Read)
    (rest : List Token) (enough : members.length ≤ limit) (known : ∀ member ∈ members, record.Knows member)
    (once : ((read ++ members).map Prod.fst).Nodup) :
    record.readMembers limit read (writtenFields members ++ .closeObj :: rest) =
      (record.finish (read ++ members)).map (·, rest) := by
  induction members generalizing limit read with
  | nil => exact absurd rfl any
  | cons member others ih =>
      obtain ⟨key, value⟩ := member
      obtain ⟨slot, found, same, suits, fits⟩ := known (key, value) List.mem_cons_self
      obtain rfl : slot.key = key := same
      have fresh : read.lookup slot.key = none :=
        List.lookup_eq_none_iff.mpr fun entry among => bne_iff_ne.mpr fun same =>
          key_fresh read others slot.key value once (same ▸ List.mem_map_of_mem among)
      obtain ⟨limit, rfl⟩ : ∃ less, limit = less + 1 := ⟨limit - 1, by rw [List.length_cons] at enough; omega⟩
      have here (after : List Token) := member_read record slot slot.key value read after found fresh suits fits
      cases others with
      | nil =>
          rw [writtenFields]
          exact last_member record limit read _ slot.key _ rest (here _)
      | cons second others =>
          have after := ih (List.cons_ne_nil _ _) limit (read ++ [(slot.key, value)]) (Nat.le_of_succ_le_succ enough)
            (fun member later => known member (List.mem_cons_of_mem _ later)) (by rw [List.append_assoc]; exact once)
          rw [List.append_assoc, List.singleton_append] at after
          rw [writtenFields, List.cons_append, List.cons_append, List.append_assoc, ← after]
          · exact next_member record limit read _ slot.key _ _ (here _)
          · exact List.cons_ne_nil _ _

theorem record_read (record : RecordSlots) (members : Fields) (rest : List Token)
    (known : ∀ member ∈ members, record.Knows member) (once : (members.map Prod.fst).Nodup) :
    record.readTokens ((Json.obj members).written ++ rest) = (record.finish members).map (·, rest) := by
  cases members with
  | nil => rfl
  | cons member others =>
      have read := members_read record (member :: others) (List.cons_ne_nil _ _)
        (writtenFields (member :: others) ++ .closeObj :: rest).length [] rest
        (by
          have := written_length (member :: others)
          rw [List.length_append]
          omega) known once
      rw [List.nil_append] at read
      rw [← read, written, List.cons_append, List.append_assoc]
      cases others <;> rfl

theorem parse_written (record : RecordSlots) (members : Fields) (text : String)
    (shown : tokens (sourceOf text) = (Json.obj members).written) (known : ∀ member ∈ members, record.Knows member)
    (once : (members.map Prod.fst).Nodup) : record.parse (sourceOf text) = record.finish members := by
  have read := record_read record members [] known once
  rw [List.append_nil] at read
  rw [parse, shown, read]
  cases record.finish members <;> rfl

end Writing

section Soundness

theorem malformed_fails {α : Type} (fault : Fault) (result : α) : malformed fault ≠ .ok result := nofun

theorem refuse_fails {α : Type} (expected : String) (token : Token) (result : α) :
    refuse expected token ≠ .ok result := by
  unfold refuse
  dsimp only
  split <;> nofun

theorem members_ok (record : RecordSlots) (limit : Nat) (read : Read) (found : List Token) (values : List Json)
    (rest : List Token) (members : record.readMembers (limit + 1) read found = .ok (values, rest)) :
    ∃ key more next after, found = .text (.ok key) :: more ∧ record.readMember read key more = .ok (next, after) ∧
      ((after = .closeObj :: rest ∧ record.finish next = .ok values) ∨
        ∃ others, after = .comma :: others ∧ record.readMembers limit next others = .ok (values, rest)) := by
  cases found with
  | nil => exact nomatch members
  | cons token more =>
      cases token with
      | text key =>
          obtain ⟨key, keyed, valued⟩ := (bind_ok_iff _ _ _).mp members
          obtain ⟨⟨next, after⟩, member, goes⟩ := (bind_ok_iff _ _ _).mp valued
          obtain rfl := (map_error_ok_iff _ _ _).mp keyed
          refine ⟨key, more, next, after, rfl, member, ?_⟩
          dsimp only at goes
          split at goes
          · exact absurd goes (malformed_fails _ _)
          · obtain ⟨_, finished, same⟩ := (map_ok_iff _ _ _).mp goes
            obtain ⟨rfl, rfl⟩ := Prod.mk.inj same
            exact .inl ⟨rfl, finished⟩
          · exact .inr ⟨_, rfl, goes⟩
          · exact absurd goes (malformed_fails _ _)
      | bad quoted => cases quoted <;> exact nomatch members
      | openArr | closeArr | openObj | closeObj | comma | colon | literal | number => exact nomatch members

def NextColumn (record : RecordSlots) (index : Nat) (slots : List Slot) (found : List Token) (values : List Json)
    (rest : List Token) : Prop :=
  ∃ slot others tokens value more after, slots = slot :: others ∧ tokens <:+ found ∧
    readSlot slot.kind tokens = .ok (value, after) ∧
    record.readColumns (index + 1) others after = .ok (more, rest) ∧ values = value :: more

theorem next_column (record : RecordSlots) (index : Nat) (slot : Slot) (others : List Slot) (found tokens : List Token)
    (values : List Json) (rest : List Token) (suffix : tokens <:+ found)
    (columns : (readSlot slot.kind tokens >>= fun first => record.readColumns (index + 1) others first.2 >>= fun later =>
      .ok (first.1 :: later.1, later.2)) = Except.ok (values, rest)) :
    record.NextColumn index (slot :: others) found values rest := by
  obtain ⟨⟨value, after⟩, read, columns⟩ := (bind_ok_iff _ _ _).mp columns
  obtain ⟨⟨more, last⟩, continued, columns⟩ := (bind_ok_iff _ _ _).mp columns
  obtain ⟨rfl, rfl⟩ := Prod.mk.inj (Except.ok.inj columns)
  exact ⟨slot, others, tokens, value, more, after, rfl, suffix, read, continued, rfl⟩

theorem columns_ok (record : RecordSlots) (index : Nat) (slots : List Slot) (found : List Token) (values : List Json)
    (rest : List Token) (columns : record.readColumns index slots found = .ok (values, rest)) :
    (slots = [] ∧ values = []) ∨ record.fillRest index slots = .ok values ∨
      record.NextColumn index slots found values rest := by
  unfold readColumns at columns
  split at columns
  · exact .inl ⟨rfl, (Prod.mk.inj (Except.ok.inj columns)).1.symm⟩
  · exact absurd columns (malformed_fails _ _)
  · exact absurd columns (malformed_fails _ _)
  · exact absurd columns (malformed_fails _ _)
  · exact absurd columns (malformed_fails _ _)
  · obtain ⟨_, filled, same⟩ := (map_ok_iff _ _ _).mp columns
    exact .inr (.inl ((Prod.mk.inj same).1 ▸ filled))
  · rename_i slot others _ _
    have column (tokens : List Token) (suffix : tokens <:+ found) :=
      next_column record index slot others found tokens values rest suffix
    refine .inr (.inr ?_)
    dsimp only at columns
    split at columns
    · exact column found (List.suffix_refl found) columns
    · split at columns
      · exact absurd columns (malformed_fails _ _)
      · exact absurd columns (malformed_fails _ _)
      · exact column _ (List.suffix_cons _ _) columns
      · exact absurd columns (malformed_fails _ _)

variable {keep : Nat → Json → Prop}

theorem slot_value_sound (read : Read) (slot : Slot) (value : Json) (before : ∀ entry ∈ read, keep innerLimit entry.2)
    (default : ∀ value, slot.missing = some value → keep innerLimit value) (found : slotValue read slot = .ok value) :
    keep innerLimit value := by
  unfold slotValue at found
  split at found
  · exact nomatch found
  · rename_i given
    obtain rfl := Except.ok.inj found
    rcases Option.or_eq_some_iff.mp given with entered | ⟨_, missing⟩
    · obtain ⟨earlier, later, same, _⟩ := List.lookup_eq_some_iff.mp entered
      exact before (slot.key, _) (same ▸ List.mem_append_right earlier List.mem_cons_self)
    · exact default _ missing

variable (inherited : Inherited keep)
include inherited

theorem slot_sound (kind : SlotKind) (found : List Token) (supplied : Supplied keep found)
    (value : Json) (rest : List Token) (read : readSlot kind found = .ok (value, rest)) :
    keep innerLimit value ∧ rest <:+ found := by
  have whole (read : lift (readValue innerLimit found) = .ok (value, rest)) : keep innerLimit value ∧ rest <:+ found :=
    value_read_sound inherited found supplied value rest ((map_error_ok_iff _ _ _).mp read)
  unfold readSlot at read
  split at read
  · exact nomatch read
  · rename_i text more
    have inside := (map_error_ok_iff _ _ _).mp read
    cases text with
    | error fault => exact nomatch inside
    | ok text =>
        obtain ⟨rfl, rfl⟩ := Prod.mk.inj (Except.ok.inj inside)
        exact ⟨supplied _ List.mem_cons_self innerLimit, List.suffix_cons _ _⟩
  · exact absurd read (refuse_fails _ _ _)
  · exact whole read
  · exact absurd read (refuse_fails _ _ _)
  · obtain ⟨rfl, rfl⟩ := Prod.mk.inj (Except.ok.inj read)
    exact ⟨inherited.list _ [] nofun, List.suffix_cons _ _⟩
  · exact whole read
  · exact absurd read (refuse_fails _ _ _)
  · exact whole read

theorem member_sound (record : RecordSlots) (read next : Read) (key : String) (found rest : List Token)
    (supplied : Supplied keep found) (before : ∀ entry ∈ read, keep innerLimit entry.2)
    (member : record.readMember read key found = .ok (next, rest)) :
    (∀ entry ∈ next, keep innerLimit entry.2) ∧ rest <:+ found := by
  unfold readMember at member
  dsimp only at member
  split at member
  · exact nomatch member
  · split at member
    · exact nomatch member
    · have supplied := supplied_suffix _ _ (List.suffix_cons _ _) supplied
      split at member
      · rename_i slot _
        obtain ⟨⟨value, after⟩, slotRead, same⟩ := (map_ok_iff _ _ _).mp member
        obtain ⟨rfl, rfl⟩ := Prod.mk.inj same
        obtain ⟨good, suffix⟩ := slot_sound inherited slot.kind _ supplied value after slotRead
        exact ⟨List.forall_mem_append.mpr ⟨before, List.forall_mem_singleton.mpr good⟩, suffix.trans (List.suffix_cons _ _)⟩
      · obtain ⟨after, skipped, same⟩ := (map_ok_iff _ _ _).mp ((map_error_ok_iff _ _ _).mp member)
        obtain ⟨rfl, rfl⟩ := Prod.mk.inj same
        exact ⟨before, (skip_rest _ _ _ skipped).trans (List.suffix_cons _ _)⟩
    · exact nomatch member

variable (record : RecordSlots)
  (defaults : ∀ slot ∈ record.slots, ∀ value, slot.missing = some value → keep innerLimit value)
include defaults

omit inherited in
theorem finish_sound (read : Read) (before : ∀ entry ∈ read, keep innerLimit entry.2) (values : List Json)
    (finished : record.finish read = .ok values) : ∀ value ∈ values, keep innerLimit value := by
  have each (slots : List Slot) (declared : slots ⊆ record.slots) (values : List Json)
      (finished : slots.mapM (slotValue read) = .ok values) : ∀ value ∈ values, keep innerLimit value := by
    induction slots generalizing values with
    | nil =>
        obtain rfl := Except.ok.inj finished
        nofun
    | cons slot others ih =>
        rw [List.mapM_cons] at finished
        obtain ⟨value, found, finished⟩ := (bind_ok_iff _ _ _).mp finished
        obtain ⟨more, after, same⟩ := (bind_ok_iff _ _ _).mp finished
        obtain rfl := Except.ok.inj same
        exact List.forall_mem_cons.mpr ⟨slot_value_sound read slot value before
          (defaults slot (declared List.mem_cons_self)) found,
          ih (fun _ member => declared (List.mem_cons_of_mem slot member)) more after⟩
  exact each record.slots (List.Subset.refl _) values finished

theorem members_sound (limit : Nat) (read : Read) (found : List Token)
    (supplied : Supplied keep found) (before : ∀ entry ∈ read, keep innerLimit entry.2)
    (values : List Json) (rest : List Token) (members : record.readMembers limit read found = .ok (values, rest)) :
    ∀ value ∈ values, keep innerLimit value := by
  induction limit generalizing read found with
  | zero => exact nomatch members
  | succ limit ih =>
      obtain ⟨key, more, next, after, rfl, member, goes⟩ := members_ok record limit read found values rest members
      obtain ⟨inside, suffix⟩ := member_sound inherited record read next key more after
        (supplied_suffix _ more (List.suffix_cons _ more) supplied) before member
      rcases goes with ⟨_, finished⟩ | ⟨others, rfl, continued⟩
      · exact finish_sound record defaults next inside values finished
      · have later : others <:+ .text (.ok key) :: more :=
          (List.suffix_cons .comma others).trans (suffix.trans (List.suffix_cons _ more))
        exact ih next others (supplied_suffix _ others later supplied) inside continued

omit inherited in
theorem rest_filled (index : Nat) (slots : List Slot) (declared : slots ⊆ record.slots) (values : List Json)
    (filled : record.fillRest index slots = .ok values) : ∀ value ∈ values, keep innerLimit value := by
  induction slots generalizing index values with
  | nil =>
      obtain rfl := Except.ok.inj filled
      nofun
  | cons slot others ih =>
      rw [fillRest] at filled
      split at filled
      · exact nomatch filled
      · rename_i value missing
        obtain ⟨more, after, rfl⟩ := (map_ok_iff _ _ _).mp filled
        exact List.forall_mem_cons.mpr ⟨defaults slot (declared List.mem_cons_self) value missing,
          ih (index + 1) (fun _ member => declared (List.mem_cons_of_mem slot member)) more after⟩

theorem columns_sound (index : Nat) (slots : List Slot) (declared : slots ⊆ record.slots) (found : List Token)
    (supplied : Supplied keep found) (values : List Json) (rest : List Token)
    (columns : record.readColumns index slots found = .ok (values, rest)) : ∀ value ∈ values, keep innerLimit value := by
  induction slots generalizing index found values with
  | nil =>
      rcases columns_ok record index [] found values rest columns with ⟨_, rfl⟩ | filled | ⟨_, _, _, _, _, _, impossible, _⟩
      · nofun
      · exact rest_filled record defaults index [] declared values filled
      · exact nomatch impossible
  | cons slot others ih =>
      rcases columns_ok record index (slot :: others) found values rest columns with
        ⟨impossible, _⟩ | filled | ⟨_, _, tokens, value, more, after, same, suffix, read, continued, rfl⟩
      · exact nomatch impossible
      · exact rest_filled record defaults index _ declared values filled
      · obtain ⟨rfl, rfl⟩ := List.cons.inj same
        have supplied := supplied_suffix found tokens suffix supplied
        obtain ⟨good, later⟩ := slot_sound inherited slot.kind tokens supplied value after read
        have others := ih (index + 1) (fun _ member => declared (List.mem_cons_of_mem slot member)) after
          (supplied_suffix tokens after later supplied) more continued
        exact List.forall_mem_cons.mpr ⟨good, others⟩

theorem record_sound (found : List Token) (supplied : Supplied keep found)
    (values : List Json) (rest : List Token) (read : record.readTokens found = .ok (values, rest)) :
    ∀ value ∈ values, keep innerLimit value := by
  unfold readTokens at read
  split at read
  · exact nomatch read
  · exact nomatch read
  · obtain ⟨finished, done, same⟩ := (map_ok_iff _ _ _).mp read
    exact (Prod.mk.inj same).1 ▸ finish_sound record defaults [] nofun finished done
  · have inside := supplied_suffix _ _ (List.suffix_cons _ _) supplied
    exact members_sound inherited record defaults _ [] _ inside nofun values rest read
  · have inside := supplied_suffix _ _ (List.suffix_cons _ _) supplied
    exact columns_sound inherited record defaults 0 _ (List.Subset.refl _) _ inside values rest read
  · exact absurd read (refuse_fails _ _ _)

theorem parse_sound (source : Source) (supplied : Supplied keep (tokens source))
    (values : List Json) (parsed : record.parse source = .ok values) : ∀ value ∈ values, keep innerLimit value := by
  obtain ⟨⟨found, rest⟩, read, ends⟩ := (bind_ok_iff _ _ _).mp parsed
  have sound := record_sound inherited record defaults _ supplied found rest read
  dsimp only at ends
  split at ends
  · exact Except.ok.inj ends ▸ sound
  · exact nomatch ends

end Soundness

end RecordSlots

end TypedQuery.Json

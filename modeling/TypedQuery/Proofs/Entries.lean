import Mathlib.Data.List.Nodup
import TypedQuery.Proofs.Records
import TypedQuery.Proofs.Nesting

/-!
Records that are read from objects, member by member. A slot takes one value, and a member that has
no slot only has to be a value, so that for each slot it is the values under its names that decide,
whatever stands before, between or after them.
-/

set_option autoImplicit false

namespace TypedQuery.Json

def SlotKind.taken? : SlotKind → Json → Option Json
  | .text, .str content => some (.str content)
  | .object, .obj fields => some (.obj fields)
  | .items, .null => some (.arr [])
  | .items, .arr elements => some (.arr elements)
  | .anything, value => some value
  | _, _ => none

inductive Begins : Token → Json → Prop
  | list (items : List Json) : Begins .openArr (.arr items)
  | object (fields : Fields) : Begins .openObj (.obj fields)
  | null : Begins (.literal .null) .null
  | bool (b : Bool) : Begins (.literal (.bool b)) (.bool b)
  | int (n : Int) : Begins (.number (.ok (.int n))) (.int n)
  | double (x : Double) : Begins (.number (.ok (.double x))) (.double x)
  | text (content : String) : Begins (.text (.ok content)) (.str content)

theorem object_read (limit : Nat) (found rest : List Token) (value : Json)
    (read : readValue limit (.openObj :: found) = .ok (value, rest)) : ∃ fields, value = .obj fields := by
  cases limit with
  | zero => exact nomatch read
  | succ limit =>
      obtain ⟨members, _, same⟩ := (object_read_iff limit found rest value).mp read
      exact ⟨_, same⟩

theorem read_begins (limit : Nat) (token : Token) (more rest : List Token) (value : Json) (lexical : token.Lexical)
    (read : readValue limit (token :: more) = .ok (value, rest)) : Begins token value := by
  cases token with
  | openArr =>
      obtain ⟨items, rfl⟩ := list_read limit value rest more read
      exact .list items
  | openObj =>
      obtain ⟨fields, rfl⟩ := object_read limit more rest value read
      exact .object fields
  | literal constant =>
      obtain ⟨rfl, _⟩ := Prod.mk.inj (Except.ok.inj read)
      rcases lexical with rfl | ⟨b, rfl⟩
      · exact .null
      · exact .bool b
  | number number =>
      cases number with
      | error fault => exact nomatch read
      | ok number =>
          obtain ⟨rfl, _⟩ := Prod.mk.inj (Except.ok.inj read)
          rcases lexical with ⟨n, rfl⟩ | ⟨x, rfl⟩
          · exact .int n
          · exact .double x
  | text text =>
      cases text with
      | error fault => exact nomatch read
      | ok content =>
          obtain ⟨rfl, _⟩ := Prod.mk.inj (Except.ok.inj read)
          exact .text content
  | closeArr | closeObj | comma | colon | bad => exact nomatch read

namespace RecordSlots

section Taking

variable (found rest : List Token) (value : Json)

theorem refuse_none {α : Type} (expected : String) (token : Token) :
    (refuse expected token : Except ReadFault α).toOption = none := by
  cases refused : (refuse expected token : Except ReadFault α) with
  | error fault => rfl
  | ok result => exact absurd refused (refuse_fails expected token result)

theorem slot_takes (kind : SlotKind) (lexical : ∀ token ∈ found, token.Lexical)
    (read : readValue innerLimit found = .ok (value, rest)) :
    (readSlot kind found).toOption = (kind.taken? value).map (·, rest) := by
  have whole : lift (readValue innerLimit found) = .ok (value, rest) := congrArg lift read
  cases found with
  | nil => exact nomatch read
  | cons token more =>
      cases read_begins innerLimit token more rest value (lexical token List.mem_cons_self) read with
      | list items =>
          cases kind with
          | text => exact refuse_none "a string" .openArr
          | object => exact refuse_none "a map" .openArr
          | items | anything => exact congrArg Except.toOption whole
      | object fields =>
          cases kind with
          | text => exact refuse_none "a string" .openObj
          | items => exact refuse_none "a sequence" .openObj
          | object | anything => exact congrArg Except.toOption whole
      | null | bool | int | double | text =>
          obtain rfl := (Prod.mk.inj (Except.ok.inj read)).2
          cases kind <;> rfl

end Taking

def enter (record : RecordSlots) (read : Read) (member : String × Json) : Option Read :=
  match record.slot? member.1 with
  | none => some read
  | some slot =>
      if (read.lookup slot.key).isSome then none
      else (slot.kind.taken? member.2).map fun value => read ++ [(slot.key, value)]

section Entering

variable (record : RecordSlots)

theorem member_entered (read : Read) (key : String) (value : Json) (found rest : List Token)
    (lexical : ∀ token ∈ found, token.Lexical) (given : readValue innerLimit found = .ok (value, rest)) :
    (record.readMember read key (.colon :: found)).toOption = (record.enter read (key, value)).map (·, rest) := by
  unfold readMember enter
  cases known : record.slot? key with
  | none =>
      have skipped : skipValue found = .ok rest := read_skips innerLimit ⟨[], .value⟩ found rest value given
      simp only [skipped]
      rfl
  | some slot =>
      have taken := slot_takes found rest value slot.kind lexical given
      simp only [Option.any_some]
      split
      · rfl
      · change ((readSlot slot.kind found).map _).toOption = _
        rw [map_to_option, taken]
        cases slot.kind.taken? value <;> rfl

section Step

variable (limit : Nat) (read : Read) (key : String) (value : Json) (found after : List Token)

theorem member_refused (refused : record.enter read (key, value) = none)
    (entered : (record.readMember read key found).toOption = (record.enter read (key, value)).map (·, after)) :
    (record.readMembers (limit + 1) read (.text (.ok key) :: found)).toOption = none := by
  rw [refused] at entered
  rw [readMembers]
  change (record.readMember read key found >>= _).toOption = none
  rw [bind_to_option, entered]
  rfl

theorem member_taken (next : Read) (taken : record.enter read (key, value) = some next)
    (entered : (record.readMember read key found).toOption = (record.enter read (key, value)).map (·, after)) :
    record.readMember read key found = .ok (next, after) := by
  rw [taken] at entered
  exact (to_option_iff _ _).mp entered

end Step

theorem read_lexical (limit : Nat) (found rest : List Token) (value : Json) (lexical : ∀ token ∈ found, token.Lexical)
    (read : readValue limit found = .ok (value, rest)) : ∀ token ∈ rest, token.Lexical :=
  fun token member => lexical token ((read_rest limit _ found rest value read).subset member)

theorem members_entered (found rest : List Token) (members : Fields) (inside : MemberTokens innerLimit found members rest)
    (lexical : ∀ token ∈ found, token.Lexical) (limit : Nat) (enough : members.length ≤ limit) (read : Read) :
    (record.readMembers limit read found).toOption =
      (members.foldlM record.enter read).bind fun next => (record.finish next).toOption.map (·, rest) := by
  induction inside generalizing limit read with
  | last key value found rest given =>
      obtain ⟨limit, rfl⟩ : ∃ less, limit = less + 1 := ⟨limit - 1, by rw [List.length_singleton] at enough; omega⟩
      have entered := member_entered record read key value found _
        (fun token member => lexical token (List.mem_cons_of_mem _ (List.mem_cons_of_mem _ member))) given
      rw [List.foldlM_cons]
      cases taken : record.enter read (key, value) with
      | none => exact member_refused record limit read key value _ _ taken entered
      | some next =>
          rw [last_member record limit read next key _ rest (member_taken record read key value _ _ next taken entered),
            map_to_option]
          change _ = (List.foldlM record.enter next []).bind _
          rw [List.foldlM_nil]
          rfl
  | next key value found more rest members given others ih =>
      obtain ⟨limit, rfl⟩ : ∃ less, limit = less + 1 := ⟨limit - 1, by rw [List.length_cons] at enough; omega⟩
      have lexical : ∀ token ∈ found, token.Lexical :=
        fun token member => lexical token (List.mem_cons_of_mem _ (List.mem_cons_of_mem _ member))
      have entered := member_entered record read key value found _ lexical given
      rw [List.foldlM_cons]
      cases taken : record.enter read (key, value) with
      | none => exact member_refused record limit read key value _ _ taken entered
      | some next =>
          rw [next_member record limit read next key _ more (member_taken record read key value _ _ next taken entered)]
          exact ih (fun token member => read_lexical innerLimit found _ value lexical given token
            (List.mem_cons_of_mem _ member)) limit (Nat.le_of_succ_le_succ enough) next

-- The number of tokens is enough of a bound on the number of members.
theorem member_count (found rest : List Token) (members : Fields) (inside : MemberTokens innerLimit found members rest) :
    members.length ≤ found.length := by
  induction inside with
  | last key value found rest read =>
      rw [List.length_singleton, List.length_cons]
      omega
  | next key value found more rest members read _ ih =>
      have shorter := (read_rest innerLimit _ found _ value read).length_le
      simp only [List.length_cons] at shorter ⊢
      omega

theorem object_entered (found rest : List Token) (members : Fields) (object : ObjectTokens innerLimit found members rest)
    (lexical : ∀ token ∈ found, token.Lexical) :
    (record.readTokens found).toOption =
      (members.foldlM record.enter []).bind fun next => (record.finish next).toOption.map (·, rest) := by
  cases object with
  | empty rest =>
      change ((record.finish []).map (·, rest)).toOption = _
      rw [map_to_option, List.foldlM_nil]
      rfl
  | members found rest members inside =>
      have entered := members_entered record found rest members inside
        (fun token member => lexical token (List.mem_cons_of_mem _ member)) found.length
        (member_count found rest members inside) []
      rw [← entered]
      cases inside <;> rfl

theorem parse_entered (source : Source) (members : Fields) (object : ObjectTokens innerLimit (tokens source) members []) :
    (record.parse source).toOption = (members.foldlM record.enter []).bind fun next => (record.finish next).toOption := by
  have entered := object_entered record _ [] members object (tokens_lexical source)
  rw [parse, bind_to_option, entered, Option.bind_assoc]
  congr
  funext next
  cases record.finish next <;> rfl

def taken? (member : String × Json) : Option (String × Json) :=
  (record.slot? member.1).bind fun slot => (slot.kind.taken? member.2).map (slot.key, ·)

def Takes (member : String × Json) : Prop :=
  ∀ slot, record.slot? member.1 = some slot → ∃ value, slot.kind.taken? member.2 = some value

theorem known_entered (read : Read) (member : String × Json) (slot : Slot) (value : Json)
    (known : record.slot? member.1 = some slot) (taken : slot.kind.taken? member.2 = some value) :
    record.enter read member = if (read.lookup slot.key).isSome then none else some (read ++ [(slot.key, value)]) := by
  simp only [enter, known, taken]
  rfl

theorem known_taken (member : String × Json) (slot : Slot) (known : record.slot? member.1 = some slot) :
    record.taken? member = (slot.kind.taken? member.2).map (slot.key, ·) := by
  rw [taken?, known]
  rfl

theorem read_twice (read others : Read) (key : String) (value : Json) (already : (read.lookup key).isSome) :
    ¬ ((read ++ (key, value) :: others).map Prod.fst).Nodup := by
  intro once
  obtain ⟨old, found⟩ := Option.isSome_iff_exists.mp already
  obtain ⟨before, after, rfl, _⟩ := List.lookup_eq_some_iff.mp found
  exact key_fresh _ others key value once (by simp)

theorem read_once (read : Read) (key : String) (value : Json) (once : (read.map Prod.fst).Nodup)
    (fresh : (read.lookup key).isSome = false) : ((read ++ [(key, value)]).map Prod.fst).Nodup := by
  have absent := List.lookup_eq_none_iff.mp (Option.isSome_eq_false_iff.mp fresh |> Option.isNone_iff_eq_none.mp)
  rw [List.map_append]
  refine List.nodup_append.mpr ⟨once, by simp, ?_⟩
  intro name member other alone same
  obtain ⟨entry, among, rfl⟩ := List.mem_map.mp member
  obtain rfl : other = key := List.mem_singleton.mp alone
  exact absurd same.symm (bne_iff_ne.mp (absent entry among))

-- All members are read if each is taken and no slot comes up twice, be it under another of its names.
theorem entered_iff (members : Fields) (read next : Read) (once : (read.map Prod.fst).Nodup) :
    members.foldlM record.enter read = some next ↔ (∀ member ∈ members, record.Takes member) ∧
      next = read ++ members.filterMap record.taken? ∧ (next.map Prod.fst).Nodup := by
  induction members generalizing read with
  | nil =>
      rw [List.foldlM_nil, List.filterMap_nil, List.append_nil]
      constructor
      · intro same
        obtain rfl := Option.some.inj same
        exact ⟨nofun, rfl, once⟩
      · rintro ⟨_, rfl, _⟩
        rfl
  | cons member rest ih =>
      rw [List.foldlM_cons, List.forall_mem_cons]
      cases known : record.slot? member.1 with
      | none =>
          have unknown : record.enter read member = some read ∧ record.taken? member = none := by
            simp [enter, taken?, known]
          have takes : record.Takes member := fun slot found => nomatch known.symm.trans found
          rw [unknown.1, List.filterMap_cons_none unknown.2, and_iff_right takes]
          exact ih read once
      | some slot =>
          cases taken : slot.kind.taken? member.2 with
          | none =>
              constructor
              · intro entered
                simp [enter, known, taken] at entered
              · rintro ⟨⟨takes, _⟩, _⟩
                obtain ⟨value, found⟩ := takes slot known
                exact nomatch taken.symm.trans found
          | some value =>
              have takes : record.Takes member := fun other found =>
                Option.some.inj (known.symm.trans found) ▸ ⟨value, taken⟩
              have entry : record.taken? member = some (slot.key, value) := by
                rw [known_taken record member slot known, taken]
                rfl
              rw [known_entered record read member slot value known taken, List.filterMap_cons_some entry, and_iff_right takes]
              by_cases already : (read.lookup slot.key).isSome
              · rw [if_pos already]
                constructor
                · exact nofun
                · rintro ⟨_, rfl, distinct⟩
                  exact absurd distinct (read_twice read _ slot.key value already)
              · rw [if_neg already]
                have goes := ih (read ++ [(slot.key, value)])
                  (read_once read slot.key value once (eq_false_of_ne_true already))
                rw [List.append_assoc] at goes
                exact goes

end Entering

end RecordSlots

def Slot.names (slot : Slot) : List String := slot.key :: slot.aliases

def valuesOf (names : List String) (members : Fields) : List Json :=
  (members.filter fun member => member.1 ∈ names).map Prod.snd

theorem values_of_iff (names : List String) (members : Fields) (value : Json) :
    value ∈ valuesOf names members ↔ ∃ member ∈ members, member.1 ∈ names ∧ member.2 = value := by
  simp [valuesOf]

theorem values_of_named (names : List String) (member : String × Json) (rest : Fields) (named : member.1 ∈ names) :
    valuesOf names (member :: rest) = member.2 :: valuesOf names rest := by
  simp [valuesOf, named]

theorem values_of_other (names : List String) (member : String × Json) (rest : Fields) (unnamed : member.1 ∉ names) :
    valuesOf names (member :: rest) = valuesOf names rest := by
  simp [valuesOf, unnamed]

namespace RecordSlots

def Apart (record : RecordSlots) : Prop :=
  record.slots.Pairwise fun first second => ∀ name ∈ first.names, name ∉ second.names

section Serving

variable (record : RecordSlots) (apart : record.Apart) (slot : Slot) (declared : slot ∈ record.slots)

theorem names_iff (name : String) : (slot.key = name || slot.aliases.contains name) = true ↔ name ∈ slot.names := by
  rw [Slot.names, List.mem_cons, Bool.or_eq_true, decide_eq_true_iff, List.contains_iff_mem]
  exact or_congr_left eq_comm

theorem slot_named (key : String) (found : record.slot? key = some slot) : key ∈ slot.names := by
  have called := List.find?_some found
  exact (names_iff slot key).mp called

include apart declared

theorem named_slot (key : String) (named : key ∈ slot.names) : record.slot? key = some slot := by
  unfold slot?
  unfold Apart at apart
  generalize record.slots = slots at apart declared
  induction slots with
  | nil => exact nomatch declared
  | cons head rest ih =>
      obtain ⟨others, apart⟩ := List.pairwise_cons.mp apart
      rcases List.mem_cons.mp declared with rfl | later
      · exact List.find?_cons_of_pos ((names_iff slot key).mpr named)
      · have other : key ∉ head.names := fun same => others slot later key same named
        refine (List.find?_cons_of_neg ?_).trans (ih apart later)
        exact fun same => other ((names_iff head key).mp same)

theorem other_key (key : String) (other : Slot) (found : record.slot? key = some other) (unnamed : key ∉ slot.names) :
    other.key ≠ slot.key := by
  intro same
  have own := named_slot record apart slot declared other.key (same ▸ List.mem_cons_self)
  have among : other ∈ record.slots := List.mem_of_find?_eq_some found
  have alone := named_slot record apart other among other.key List.mem_cons_self
  obtain rfl := Option.some.inj (own.symm.trans alone)
  exact unnamed (slot_named record slot key found)

theorem taken_own (member : String × Json) (named : member.1 ∈ slot.names) :
    record.taken? member = (slot.kind.taken? member.2).map (slot.key, ·) :=
  known_taken record member slot (named_slot record apart slot declared member.1 named)

theorem taken_other (member entry : String × Json) (unnamed : member.1 ∉ slot.names)
    (taken : record.taken? member = some entry) : entry.1 ≠ slot.key := by
  obtain ⟨other, found, taken⟩ := Option.bind_eq_some_iff.mp taken
  obtain ⟨value, _, rfl⟩ := Option.map_eq_some_iff.mp taken
  exact other_key record apart slot declared member.1 other found unnamed

theorem taken_lookup (members : Fields) : (members.filterMap record.taken?).lookup slot.key =
    ((valuesOf slot.names members).filterMap slot.kind.taken?).head? := by
  induction members with
  | nil => rfl
  | cons member rest ih =>
      by_cases named : member.1 ∈ slot.names
      · have own := taken_own record apart slot declared member named
        rw [values_of_named slot.names member rest named]
        cases taken : slot.kind.taken? member.2 with
        | none =>
            rw [taken] at own
            rw [List.filterMap_cons_none own, List.filterMap_cons_none taken]
            exact ih
        | some value =>
            rw [taken] at own
            rw [List.filterMap_cons_some own, List.filterMap_cons_some taken]
            exact List.lookup_cons_self
      · rw [values_of_other slot.names member rest named, ← ih]
        cases taken : record.taken? member with
        | none => rw [List.filterMap_cons_none taken]
        | some entry =>
            have other := taken_other record apart slot declared member entry named taken
            rw [List.filterMap_cons_some taken, lookup_entry, if_neg (Ne.symm other)]

theorem taken_count (members : Fields) (takes : ∀ member ∈ members, record.Takes member) :
    ((members.filterMap record.taken?).map Prod.fst).count slot.key = (valuesOf slot.names members).length := by
  induction members with
  | nil => rfl
  | cons member rest ih =>
      obtain ⟨here, later⟩ := List.forall_mem_cons.mp takes
      have ih := ih later
      by_cases named : member.1 ∈ slot.names
      · obtain ⟨value, taken⟩ := here slot (named_slot record apart slot declared member.1 named)
        have own := taken_own record apart slot declared member named
        rw [taken] at own
        rw [values_of_named slot.names member rest named, List.filterMap_cons_some own, List.map_cons,
          List.count_cons_self, ih, List.length_cons]
      · rw [values_of_other slot.names member rest named, ← ih]
        cases taken : record.taken? member with
        | none => rw [List.filterMap_cons_none taken]
        | some entry =>
            have other := taken_other record apart slot declared member entry named taken
            rw [List.filterMap_cons_some taken, List.map_cons, List.count_cons_of_ne other]

end Serving

def filled? (members : Fields) (slot : Slot) : Option Json :=
  ((valuesOf slot.names members).filterMap slot.kind.taken?).head?.or slot.missing

def Fills (record : RecordSlots) (members : Fields) : Prop :=
  ∀ slot ∈ record.slots, (valuesOf slot.names members).length ≤ 1 ∧
    ∀ value ∈ valuesOf slot.names members, ∃ taken, slot.kind.taken? value = some taken

section Filling

variable (record : RecordSlots) (apart : record.Apart) (members : Fields)
include apart

theorem all_taken_iff : (∀ member ∈ members, record.Takes member) ↔
    ∀ slot ∈ record.slots, ∀ value ∈ valuesOf slot.names members, ∃ taken, slot.kind.taken? value = some taken := by
  constructor
  · intro takes slot declared value given
    obtain ⟨member, among, named, rfl⟩ := (values_of_iff slot.names members value).mp given
    exact takes member among slot (named_slot record apart slot declared member.1 named)
  · intro taken member among slot found
    have named := slot_named record slot member.1 found
    have given := (values_of_iff slot.names members member.2).mpr ⟨member, among, named, rfl⟩
    exact taken slot (List.mem_of_find?_eq_some found) member.2 given

theorem once_iff (takes : ∀ member ∈ members, record.Takes member) :
    ((members.filterMap record.taken?).map Prod.fst).Nodup ↔
      ∀ slot ∈ record.slots, (valuesOf slot.names members).length ≤ 1 := by
  have count (slot : Slot) (declared : slot ∈ record.slots) := taken_count record apart slot declared members takes
  rw [List.nodup_iff_count_le_one]
  constructor
  · intro once slot declared
    exact count slot declared ▸ once slot.key
  · intro once key
    by_cases among : key ∈ (members.filterMap record.taken?).map Prod.fst
    · obtain ⟨entry, read, rfl⟩ := List.mem_map.mp among
      obtain ⟨member, _, taken⟩ := List.mem_filterMap.mp read
      obtain ⟨slot, found, taken⟩ := Option.bind_eq_some_iff.mp taken
      obtain ⟨value, _, rfl⟩ := Option.map_eq_some_iff.mp taken
      have declared : slot ∈ record.slots := List.mem_of_find?_eq_some found
      exact count slot declared ▸ once slot declared
    · exact List.count_eq_zero_of_not_mem among ▸ Nat.zero_le 1

theorem finish_filled :
    (record.finish (members.filterMap record.taken?)).toOption = record.slots.mapM (filled? members) := by
  have value (slot : Slot) (declared : slot ∈ record.slots) :
      (slotValue (members.filterMap record.taken?) slot).toOption = filled? members slot := by
    rw [slotValue, filled?, taken_lookup record apart slot declared]
    cases ((valuesOf slot.names members).filterMap slot.kind.taken?).head?.or slot.missing <;> rfl
  have each (slots : List Slot) (declared : slots ⊆ record.slots) :
      (slots.mapM (slotValue (members.filterMap record.taken?))).toOption = slots.mapM (filled? members) := by
    induction slots with
    | nil => rfl
    | cons slot rest ih =>
        rw [List.mapM_cons, List.mapM_cons, bind_to_option, value slot (declared List.mem_cons_self)]
        refine congrArg _ (funext fun first => ?_)
        rw [bind_to_option, ih (fun _ later => declared (List.mem_cons_of_mem slot later))]
        rfl
  exact each record.slots (List.Subset.refl _)

theorem parse_object_iff (source : Source) (object : ObjectTokens innerLimit (tokens source) members [])
    (values : List Json) :
    record.parse source = .ok values ↔ record.Fills members ∧ record.slots.mapM (filled? members) = some values := by
  rw [← to_option_iff, parse_entered record source members object, Option.bind_eq_some_iff]
  have entered (next : Read) := entered_iff record members [] next .nil
  constructor
  · rintro ⟨next, goes, finished⟩
    obtain ⟨takes, rfl, once⟩ := (entered next).mp goes
    rw [List.nil_append] at once finished
    rw [finish_filled record apart members] at finished
    have given := (all_taken_iff record apart members).mp takes
    have single := (once_iff record apart members takes).mp once
    exact ⟨fun slot declared => ⟨single slot declared, given slot declared⟩, finished⟩
  · rintro ⟨fills, said⟩
    have takes := (all_taken_iff record apart members).mpr fun slot declared => (fills slot declared).2
    have once := (once_iff record apart members takes).mpr fun slot declared => (fills slot declared).1
    refine ⟨members.filterMap record.taken?, (entered _).mpr ⟨takes, rfl, once⟩, ?_⟩
    rw [finish_filled record apart members]
    exact said

end Filling

end RecordSlots

theorem object_starts (limit : Nat) (found rest : List Token) (members : Fields)
    (object : ObjectTokens limit found members rest) : ∃ more, found = .openObj :: more := by
  cases object with
  | empty => exact ⟨_, rfl⟩
  | members found => exact ⟨found, rfl⟩

theorem object_text_iff (source : Source) (fields : Fields) :
    readValue nestingLimit (tokens source) = .ok (.obj fields, []) ↔
      ∃ members, ObjectTokens RecordSlots.innerLimit (tokens source) members [] ∧ fields = ofFields members := by
  constructor
  · intro read
    have lexical := tokens_lexical source
    cases found : tokens source with
    | nil =>
        rw [found] at read
        exact nomatch read
    | cons token more =>
        rw [found] at read lexical
        cases read_begins nestingLimit token more [] _ (lexical token List.mem_cons_self) read with
        | object =>
            obtain ⟨members, object, whole⟩ := (object_read_iff RecordSlots.innerLimit more [] _).mp read
            exact ⟨members, object, obj.inj whole⟩
  · rintro ⟨members, object, rfl⟩
    obtain ⟨more, same⟩ := object_starts _ _ _ _ object
    rw [same] at object ⊢
    exact (object_read_iff RecordSlots.innerLimit more [] _).mpr ⟨members, object, rfl⟩

end TypedQuery.Json

import TypedQuery.Proofs.Outcome
import TypedQuery.Proofs.Reading

/-!
Reading within open containers. A value is read there as it is read alone, so that what reads as an
object is one member after another, each of them a value that reads by itself; and what is read can
also be stepped over.
-/

set_option autoImplicit false

namespace TypedQuery.Json

def Position.Rooted (position : Position) : Prop := position.frames = [] → position.expect = .value

def Position.within (outer : List Frame) (position : Position) : Position := ⟨position.frames ++ outer, position.expect⟩

def surrounded (outer : List Frame) : Position ⊕ Json → Position ⊕ Json
  | .inl position => .inl (position.within outer)
  | .inr value => Position.deliver value outer

section Within

variable (limit : Nat) (outer frames : List Frame) (token : Token)

theorem deliver_within (value : Json) :
    Position.deliver value (frames ++ outer) = surrounded outer (Position.deliver value frames) := by
  cases frames with
  | nil => rfl
  | cons frame rest => cases frame <;> rfl

theorem open_within (frame : Frame) (expect : Expect) :
    Position.openFrame (limit + outer.length) frame expect (frames ++ outer) =
      (Position.openFrame limit frame expect frames).map (surrounded outer) := by
  unfold Position.openFrame
  rw [List.length_append]
  by_cases room : frames.length < limit
  · rw [if_pos room, if_pos (Nat.add_lt_add_right room outer.length)]
    rfl
  · rw [if_neg room, if_neg (fun more => room (Nat.lt_of_add_lt_add_right more))]
    rfl

theorem value_within :
    Position.onValue (limit + outer.length) (frames ++ outer) token =
      (Position.onValue limit frames token).map (surrounded outer) := by
  cases token with
  | openArr | openObj => exact open_within limit outer frames _ _
  | literal value => exact congrArg Except.ok (deliver_within outer frames value)
  | number value =>
      cases value with
      | error fault => rfl
      | ok value => exact congrArg Except.ok (deliver_within outer frames value)
  | text value =>
      cases value with
      | error fault => rfl
      | ok text => exact congrArg Except.ok (deliver_within outer frames (.str text))
  | closeArr | closeObj | comma | colon | bad => rfl

section Inside

variable (frame : Frame) (rest : List Frame)

theorem key_within :
    Position.onKey (frame :: rest ++ outer) token = (Position.onKey (frame :: rest) token).map (surrounded outer) := by
  cases token with
  | text key => cases key <;> cases frame <;> rfl
  | bad quoted => cases quoted <;> rfl
  | openArr | closeArr | openObj | closeObj | comma | colon | literal | number => rfl

theorem separator_within :
    Position.onSeparator (frame :: rest ++ outer) token =
      (Position.onSeparator (frame :: rest) token).map (surrounded outer) := by
  cases frame with
  | list items =>
      cases token with
      | closeArr => exact congrArg Except.ok (deliver_within outer rest _)
      | openArr | openObj | closeObj | comma | colon | literal | number | text | bad => rfl
  | object fields key =>
      cases token with
      | closeObj => exact congrArg Except.ok (deliver_within outer rest _)
      | openArr | openObj | closeArr | comma | colon | literal | number | text | bad => rfl

theorem inside_step_within (expect : Expect) :
    Position.step (limit + outer.length) ⟨frame :: rest ++ outer, expect⟩ token =
      (Position.step limit ⟨frame :: rest, expect⟩ token).map (surrounded outer) := by
  have value := value_within limit outer (frame :: rest) token
  have key := key_within outer token frame rest
  cases expect with
  | value => exact value
  | firstItem =>
      cases token with
      | closeArr => exact congrArg Except.ok (deliver_within outer rest _)
      | openArr | openObj | closeObj | comma | colon | literal | number | text | bad => exact value
  | nextItem =>
      cases token with
      | closeArr => rfl
      | openArr | openObj | closeObj | comma | colon | literal | number | text | bad => exact value
  | afterItem => exact separator_within outer token frame rest
  | firstKey =>
      cases token with
      | closeObj => exact congrArg Except.ok (deliver_within outer rest _)
      | openArr | openObj | closeArr | comma | colon | literal | number | text | bad => exact key
  | nextKey =>
      cases token with
      | closeObj => rfl
      | openArr | openObj | closeArr | comma | colon | literal | number | text | bad => exact key
  | colon => cases token <;> rfl

end Inside

theorem step_within (position : Position) (rooted : position.Rooted) :
    (position.within outer).step (limit + outer.length) token =
      (position.step limit token).map (surrounded outer) := by
  obtain ⟨frames, expect⟩ := position
  cases frames with
  | nil =>
      obtain rfl : expect = .value := rooted rfl
      exact value_within limit outer [] token
  | cons frame rest => exact inside_step_within limit outer token frame rest expect

theorem end_within (position : Position) (rooted : position.Rooted) :
    (position.within outer).endFault = position.endFault := by
  obtain ⟨frames, expect⟩ := position
  cases frames with
  | nil =>
      obtain rfl : expect = .value := rooted rfl
      rfl
  | cons frame rest => cases expect <;> cases frame <;> rfl

end Within

section Rooted

theorem inside_rooted (frame : Frame) (rest : List Frame) (expect : Expect) : Position.Rooted ⟨frame :: rest, expect⟩ :=
  nofun

variable (limit : Nat) (frames : List Frame) (token : Token) (next : Position)

theorem deliver_rooted (value : Json) (delivered : Position.deliver value frames = .inl next) : next.Rooted := by
  cases frames with
  | nil => exact nomatch delivered
  | cons frame rest =>
      cases frame <;> exact Sum.inl.inj delivered ▸ inside_rooted _ _ _

theorem open_rooted (frame : Frame) (expect : Expect)
    (opened : Position.openFrame limit frame expect frames = .ok (.inl next)) : next.Rooted := by
  unfold Position.openFrame at opened
  split at opened
  · exact Sum.inl.inj (Except.ok.inj opened) ▸ inside_rooted _ _ _
  · exact nomatch opened

theorem value_rooted (read : Position.onValue limit frames token = .ok (.inl next)) : next.Rooted := by
  cases token with
  | openArr | openObj => exact open_rooted limit frames next _ _ read
  | literal value => exact deliver_rooted frames next value (Except.ok.inj read)
  | number value =>
      cases value with
      | error fault => exact nomatch read
      | ok value => exact deliver_rooted frames next value (Except.ok.inj read)
  | text value =>
      cases value with
      | error fault => exact nomatch read
      | ok text => exact deliver_rooted frames next (.str text) (Except.ok.inj read)
  | closeArr | closeObj | comma | colon | bad => exact nomatch read

theorem key_rooted (inside : frames ≠ []) (read : Position.onKey frames token = .ok (.inl next)) : next.Rooted := by
  unfold Position.onKey at read
  split at read
  · rename_i key
    cases key with
    | error fault => exact nomatch read
    | ok key =>
        cases frames with
        | nil => exact absurd rfl inside
        | cons frame rest => cases frame <;> exact Sum.inl.inj (Except.ok.inj read) ▸ inside_rooted _ _ _
  · exact nomatch read
  · exact nomatch read

theorem separator_rooted (read : Position.onSeparator frames token = .ok (.inl next)) : next.Rooted := by
  unfold Position.onSeparator at read
  split at read
  · exact Sum.inl.inj (Except.ok.inj read) ▸ inside_rooted _ _ _
  · exact deliver_rooted _ next _ (Except.ok.inj read)
  · exact nomatch read
  · exact Sum.inl.inj (Except.ok.inj read) ▸ inside_rooted _ _ _
  · exact deliver_rooted _ next _ (Except.ok.inj read)
  · exact nomatch read
  · exact nomatch read

theorem step_rooted (position : Position) (rooted : position.Rooted) (read : position.step limit token = .ok (.inl next)) :
    next.Rooted := by
  have inside (expect : Expect) (awaits : position.expect = expect) (other : expect ≠ .value) : position.frames ≠ [] :=
    fun none => other (awaits ▸ rooted none)
  unfold Position.step at read
  split at read
  · exact deliver_rooted _ next _ (Except.ok.inj read)
  · exact nomatch read
  · exact deliver_rooted _ next _ (Except.ok.inj read)
  · exact nomatch read
  · exact value_rooted limit _ _ next read
  · exact value_rooted limit _ _ next read
  · exact value_rooted limit _ _ next read
  · exact key_rooted _ _ next (inside .firstKey ‹_› nofun) read
  · exact key_rooted _ _ next (inside .nextKey ‹_› nofun) read
  · exact Sum.inl.inj (Except.ok.inj read) ▸ fun _ => rfl
  · exact nomatch read
  · exact separator_rooted _ _ next read

end Rooted

-- Containers around a value are looked at again only when it is complete.
theorem read_within (limit : Nat) (outer : List Frame) (position : Position) (rooted : position.Rooted)
    (found : List Token) :
    readFrom (limit + outer.length) (position.within outer) found =
      readFrom limit position found >>= fun read =>
        resume (limit + outer.length) read.2 (Position.deliver read.1 outer) := by
  induction found generalizing position with
  | nil => exact congrArg Except.error (end_within outer position rooted)
  | cons token more ih =>
      rw [readFrom, readFrom, step_within limit outer token position rooted]
      cases step : position.step limit token with
      | error fault => rfl
      | ok next =>
          cases next with
          | inl next => exact ih next (step_rooted limit token next position rooted step)
          | inr value =>
              change _ = resume _ more (Position.deliver value outer)
              cases outer with
              | nil => rfl
              | cons frame rest => cases frame <;> rfl

theorem read_rest (limit : Nat) (position : Position) (found rest : List Token) (value : Json)
    (read : readFrom limit position found = .ok (value, rest)) : rest <:+ found := by
  induction found generalizing position with
  | nil => exact nomatch read
  | cons token more ih =>
      rw [readFrom] at read
      split at read
      · cases read
      · exact (Prod.mk.inj (Except.ok.inj read)).2 ▸ List.suffix_cons token more
      · rename_i next _
        exact (ih next read).trans (List.suffix_cons token more)

section Items

variable (limit : Nat) (value : Json) (rest : List Token)

theorem item_read (before : List Json) (expect : Expect) (awaits : AwaitsValue expect) (token : Token) (more : List Token)
    (goes : token ≠ .closeArr) :
    readFrom (limit + 1) ⟨[.list before], expect⟩ (token :: more) = readValue limit (token :: more) >>= fun read =>
      readFrom (limit + 1) ⟨[.list (read.1 :: before)], .afterItem⟩ read.2 := by
  have single := read_within limit [.list before] ⟨[], .value⟩ (fun _ => rfl) (token :: more)
  refine Eq.trans ?_ single
  change _ = readFrom (limit + 1) ⟨[.list before], .value⟩ (token :: more)
  rw [readFrom, readFrom, value_step _ _ _ awaits token goes, value_step _ _ _ .value token goes]

theorem item_ends (before : List Json) (found : List Token)
    (read : readFrom (limit + 1) ⟨[.list before], .afterItem⟩ found = .ok (value, rest)) :
    (∃ more, found = .comma :: more ∧ readFrom (limit + 1) ⟨[.list before], .nextItem⟩ more = .ok (value, rest)) ∨
      found = .closeArr :: rest ∧ value = .arr before.reverse := by
  cases found with
  | nil => exact nomatch read
  | cons token more =>
      cases token with
      | comma => exact .inl ⟨more, rfl, read⟩
      | closeArr =>
          obtain ⟨rfl, rfl⟩ := Prod.mk.inj (Except.ok.inj read)
          exact .inr ⟨rfl, rfl⟩
      | openArr | openObj | closeObj | colon | literal | number | text | bad => exact nomatch read

theorem items_close (before : List Json) (expect : Expect) (awaits : AwaitsValue expect) (found : List Token)
    (read : readFrom (limit + 1) ⟨[.list before], expect⟩ found = .ok (value, rest)) : ∃ items, value = .arr items := by
  have item (token : Token) (more : List Token) (same : found = token :: more) (goes : token ≠ .closeArr) :
      ∃ items, value = .arr items := by
    rw [same, item_read limit before expect awaits token more goes] at read
    obtain ⟨⟨first, after⟩, one, read⟩ := (bind_ok_iff _ _ _).mp read
    have shorter := (read_rest limit _ _ after first one).length_le
    rcases item_ends limit value rest (first :: before) after read with ⟨further, rfl, read⟩ | ⟨_, ends⟩
    · exact items_close (first :: before) .nextItem .next further read
    · exact ⟨_, ends⟩
  cases found with
  | nil => exact nomatch read
  | cons token more =>
      cases token with
      | closeArr =>
          cases awaits with
          | first => exact ⟨[], (Prod.mk.inj (Except.ok.inj read)).1.symm⟩
          | value | next => exact nomatch read
      | openArr | openObj | closeObj | comma | colon | literal | number | text | bad => exact item _ _ rfl nofun
termination_by found.length
decreasing_by
  rw [same]
  rw [List.length_cons] at shorter
  omega

theorem list_read (found : List Token) (read : readValue limit (.openArr :: found) = .ok (value, rest)) :
    ∃ items, value = .arr items := by
  cases limit with
  | zero => exact nomatch read
  | succ limit => exact items_close limit value rest [] .firstItem .first found read

end Items

section Members

inductive MemberTokens (limit : Nat) : List Token → Fields → List Token → Prop
  | last (key : String) (value : Json) (found rest : List Token)
      (read : readValue limit found = .ok (value, .closeObj :: rest)) :
      MemberTokens limit (.text (.ok key) :: .colon :: found) [(key, value)] rest
  | next (key : String) (value : Json) (found more rest : List Token) (members : Fields)
      (read : readValue limit found = .ok (value, .comma :: more)) (others : MemberTokens limit more members rest) :
      MemberTokens limit (.text (.ok key) :: .colon :: found) ((key, value) :: members) rest

inductive ObjectTokens (limit : Nat) : List Token → Fields → List Token → Prop
  | empty (rest : List Token) : ObjectTokens limit (.openObj :: .closeObj :: rest) [] rest
  | members (found rest : List Token) (members : Fields) (inside : MemberTokens limit found members rest) :
      ObjectTokens limit (.openObj :: found) members rest

variable (limit : Nat)

theorem member_value_read (before : Fields) (last key : String) (found : List Token) :
    readFrom (limit + 1) ⟨[.object before last], .nextKey⟩ (.text (.ok key) :: .colon :: found) =
      readValue limit found >>= fun read =>
        readFrom (limit + 1) ⟨[.object (put key read.1 before) key], .afterItem⟩ read.2 := by
  rw [key_read _ _ _ _ _ _ _ (.inr rfl)]
  exact read_within limit [.object before key] ⟨[], .value⟩ (fun _ => rfl) found

theorem members_put (before : Fields) (last : String) (found rest : List Token) (members : Fields)
    (inside : MemberTokens limit found members rest) :
    readFrom (limit + 1) ⟨[.object before last], .nextKey⟩ found =
      .ok (.obj (members.foldl (fun acc entry => put entry.1 entry.2 acc) before), rest) := by
  induction inside generalizing before last with
  | last key value found rest read =>
      rw [member_value_read, read]
      rfl
  | next key value found more rest members read _ ih =>
      rw [member_value_read, read]
      exact ih (put key value before) key

theorem key_opens (before : Fields) (last : String) (found rest : List Token) (value : Json)
    (read : readFrom (limit + 1) ⟨[.object before last], .nextKey⟩ found = .ok (value, rest)) :
    ∃ key more, found = .text (.ok key) :: .colon :: more := by
  cases found with
  | nil => exact nomatch read
  | cons token more =>
      cases token with
      | text key =>
          cases key with
          | error fault => exact nomatch read
          | ok key =>
              cases more with
              | nil => exact nomatch read
              | cons second more =>
                  cases second with
                  | colon => exact ⟨key, more, rfl⟩
                  | openArr | closeArr | openObj | closeObj | comma | literal | number | text | bad => exact nomatch read
      | bad quoted => cases quoted <;> exact nomatch read
      | openArr | closeArr | openObj | closeObj | comma | colon | literal | number => exact nomatch read

theorem member_ends (before : Fields) (key : String) (found rest : List Token) (value : Json)
    (read : readFrom (limit + 1) ⟨[.object before key], .afterItem⟩ found = .ok (value, rest)) :
    (∃ more, found = .comma :: more ∧ readFrom (limit + 1) ⟨[.object before key], .nextKey⟩ more = .ok (value, rest)) ∨
      found = .closeObj :: rest ∧ value = .obj before := by
  cases found with
  | nil => exact nomatch read
  | cons token more =>
      cases token with
      | comma => exact .inl ⟨more, rfl, read⟩
      | closeObj =>
          obtain ⟨rfl, rfl⟩ := Prod.mk.inj (Except.ok.inj read)
          exact .inr ⟨rfl, rfl⟩
      | openArr | closeArr | openObj | colon | literal | number | text | bad => exact nomatch read

theorem members_found (before : Fields) (last : String) (found rest : List Token) (value : Json)
    (read : readFrom (limit + 1) ⟨[.object before last], .nextKey⟩ found = .ok (value, rest)) :
    ∃ members, MemberTokens limit found members rest ∧
      value = .obj (members.foldl (fun acc entry => put entry.1 entry.2 acc) before) := by
  obtain ⟨key, more, same⟩ := key_opens limit before last found rest value read
  rw [same, member_value_read] at read
  obtain ⟨⟨item, after⟩, one, read⟩ := (bind_ok_iff _ _ _).mp read
  have shorter := (read_rest limit _ _ after item one).length_le
  rcases member_ends limit (put key item before) key after rest value read with ⟨further, rfl, read⟩ | ⟨rfl, rfl⟩
  · obtain ⟨members, others, rfl⟩ := members_found (put key item before) key further rest value read
    exact ⟨(key, item) :: members, same ▸ MemberTokens.next key item more further rest members one others, rfl⟩
  · exact ⟨[(key, item)], same ▸ MemberTokens.last key item more rest one, rfl⟩
termination_by found.length
decreasing_by
  rw [same]
  simp only [List.length_cons] at shorter ⊢
  omega

theorem first_key_read (before : Fields) (last : String) (frames : List Frame) (token : Token) (more : List Token)
    (goes : token ≠ .closeObj) :
    readFrom limit ⟨.object before last :: frames, .firstKey⟩ (token :: more) =
      readFrom limit ⟨.object before last :: frames, .nextKey⟩ (token :: more) := by
  cases token with
  | closeObj => exact absurd rfl goes
  | openArr | closeArr | openObj | comma | colon | literal | number | text | bad => rfl

theorem object_read_iff (found rest : List Token) (value : Json) :
    readValue (limit + 1) (.openObj :: found) = .ok (value, rest) ↔
      ∃ members, ObjectTokens limit (.openObj :: found) members rest ∧ value = .obj (ofFields members) := by
  have opened : readValue (limit + 1) (.openObj :: found) = readFrom (limit + 1) ⟨[.object [] ""], .firstKey⟩ found := rfl
  rw [opened]
  constructor
  · intro read
    cases found with
    | nil => exact nomatch read
    | cons token more =>
        by_cases closes : token = .closeObj
        · subst closes
          obtain ⟨rfl, rfl⟩ := Prod.mk.inj (Except.ok.inj read)
          exact ⟨[], .empty more, rfl⟩
        · rw [first_key_read _ _ _ _ _ _ closes] at read
          obtain ⟨members, inside, same⟩ := members_found limit [] "" _ rest value read
          exact ⟨members, .members _ rest members inside, same⟩
  · rintro ⟨members, inside, rfl⟩
    cases inside with
    | empty => rfl
    | members _ _ _ inside =>
        have put := members_put limit [] "" found rest members inside
        cases inside <;> exact put

end Members

section Skipping

def Frame.skipped : Frame → Skipped
  | .list _ => .list
  | .object _ _ => .object

def Position.skipped (position : Position) : SkipPosition := ⟨position.frames.map Frame.skipped, position.expect⟩

def skippedNext : Position ⊕ Json → Option SkipPosition
  | .inl position => some position.skipped
  | .inr _ => none

variable (frames : List Frame) (token : Token) (next : Position ⊕ Json)

theorem deliver_skips (value : Json) :
    SkipPosition.close (frames.map Frame.skipped) = skippedNext (Position.deliver value frames) := by
  cases frames with
  | nil => rfl
  | cons frame rest => cases frame <;> rfl

theorem value_skips (limit : Nat) (read : Position.onValue limit frames token = .ok next) :
    SkipPosition.onValue (frames.map Frame.skipped) token = .ok (skippedNext next) := by
  cases token with
  | openArr | openObj =>
      change Position.openFrame limit _ _ frames = _ at read
      unfold Position.openFrame at read
      split at read
      · exact Except.ok.inj read ▸ rfl
      · exact nomatch read
  | literal value => exact Except.ok.inj read ▸ congrArg Except.ok (deliver_skips frames value)
  | number value =>
      cases value with
      | error fault => exact nomatch read
      | ok value => exact Except.ok.inj read ▸ congrArg Except.ok (deliver_skips frames value)
  | text value =>
      cases value with
      | error fault => exact nomatch read
      | ok text => exact Except.ok.inj read ▸ congrArg Except.ok (deliver_skips frames (.str text))
  | closeArr | closeObj | comma | colon | bad => exact nomatch read

theorem key_skips (read : Position.onKey frames token = .ok next) :
    SkipPosition.onKey (frames.map Frame.skipped) token = .ok (skippedNext next) := by
  unfold Position.onKey at read
  split at read
  · rename_i key
    cases key with
    | error fault => exact nomatch read
    | ok key =>
        obtain rfl := Except.ok.inj read
        cases frames with
        | nil => rfl
        | cons frame rest => cases frame <;> rfl
  · exact nomatch read
  · exact nomatch read

theorem separator_skips (read : Position.onSeparator frames token = .ok next) :
    SkipPosition.onSeparator (frames.map Frame.skipped) token = .ok (skippedNext next) := by
  unfold Position.onSeparator at read
  split at read
  · exact Except.ok.inj read ▸ rfl
  · exact Except.ok.inj read ▸ congrArg Except.ok (deliver_skips _ _)
  · exact nomatch read
  · exact Except.ok.inj read ▸ rfl
  · exact Except.ok.inj read ▸ congrArg Except.ok (deliver_skips _ _)
  · exact nomatch read
  · exact nomatch read

theorem step_skips (limit : Nat) (position : Position) (read : position.step limit token = .ok next) :
    position.skipped.step token = .ok (skippedNext next) := by
  obtain ⟨frames, expect⟩ := position
  have tail (value : Json) : SkipPosition.close (frames.map Frame.skipped).tail =
      skippedNext (Position.deliver value frames.tail) := by
    rw [← List.map_tail]
    exact deliver_skips frames.tail value
  have value := value_skips frames token next limit
  have key := key_skips frames token next
  cases expect with
  | value => exact value read
  | firstItem =>
      cases token with
      | closeArr => exact Except.ok.inj read ▸ congrArg Except.ok (tail (.arr []))
      | openArr | openObj | closeObj | comma | colon | literal | number | text | bad => exact value read
  | nextItem =>
      cases token with
      | closeArr => exact nomatch read
      | openArr | openObj | closeObj | comma | colon | literal | number | text | bad => exact value read
  | afterItem => exact separator_skips frames token next read
  | firstKey =>
      cases token with
      | closeObj => exact Except.ok.inj read ▸ congrArg Except.ok (tail (.obj []))
      | openArr | openObj | closeArr | comma | colon | literal | number | text | bad => exact key read
  | nextKey =>
      cases token with
      | closeObj => exact nomatch read
      | openArr | openObj | closeArr | comma | colon | literal | number | text | bad => exact key read
  | colon =>
      cases token with
      | colon => exact Except.ok.inj read ▸ rfl
      | openArr | openObj | closeArr | closeObj | comma | literal | number | text | bad => exact nomatch read

-- Stepping over a value checks less than reading it.
theorem read_skips (limit : Nat) (position : Position) (found rest : List Token) (value : Json)
    (read : readFrom limit position found = .ok (value, rest)) : skipFrom position.skipped found = .ok rest := by
  induction found generalizing position with
  | nil => exact nomatch read
  | cons token more ih =>
      rw [readFrom] at read
      rw [skipFrom]
      cases step : position.step limit token with
      | error fault =>
          rw [step] at read
          cases read
      | ok next =>
          rw [step] at read
          rw [step_skips token next limit position step]
          cases next with
          | inl next => exact ih next read
          | inr value => exact congrArg Except.ok (Prod.mk.inj (Except.ok.inj read)).2

end Skipping

end TypedQuery.Json

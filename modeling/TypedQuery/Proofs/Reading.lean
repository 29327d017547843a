import TypedQuery.Json.Reader
import TypedQuery.Proofs.Members
import TypedQuery.Proofs.Tokens

/-!
Reading is the inverse of writing: the tokens of a value are read as that value, if no object in it
repeats a key and the containers in it are not nested too deeply.
-/

set_option autoImplicit false

namespace TypedQuery.Json

mutual
def depth : Json → Nat
  | .arr items => depthItems items + 1
  | .obj fields => depthFields fields + 1
  | .null | .bool _ | .int _ | .double _ | .str _ => 0
def depthItems : List Json → Nat
  | [] => 0
  | item :: rest => max item.depth (depthItems rest)
def depthFields : List (String × Json) → Nat
  | [] => 0
  | (_, value) :: rest => max value.depth (depthFields rest)
end

mutual
def Distinct : Json → Prop
  | .arr items => DistinctItems items
  | .obj fields => (fields.map Prod.fst).Nodup ∧ DistinctFields fields
  | .null | .bool _ | .int _ | .double _ | .str _ => True
def DistinctItems : List Json → Prop
  | [] => True
  | item :: rest => item.Distinct ∧ DistinctItems rest
def DistinctFields : List (String × Json) → Prop
  | [] => True
  | (_, value) :: rest => value.Distinct ∧ DistinctFields rest
end

mutual
def decideDistinct : (value : Json) → Decidable value.Distinct
  | .arr items => decideDistinctItems items
  | .obj fields =>
      have := decideDistinctFields fields
      inferInstanceAs (Decidable (_ ∧ _))
  | .null | .bool _ | .int _ | .double _ | .str _ => .isTrue trivial
def decideDistinctItems : (items : List Json) → Decidable (DistinctItems items)
  | [] => .isTrue trivial
  | item :: rest =>
      have := decideDistinct item
      have := decideDistinctItems rest
      inferInstanceAs (Decidable (_ ∧ _))
def decideDistinctFields : (fields : List (String × Json)) → Decidable (DistinctFields fields)
  | [] => .isTrue trivial
  | (_, value) :: rest =>
      have := decideDistinct value
      have := decideDistinctFields rest
      inferInstanceAs (Decidable (_ ∧ _))
end

instance (value : Json) : Decidable value.Distinct := decideDistinct value

-- What reading goes on with after a token.
def resume (limit : Nat) (rest : List Token) : Position ⊕ Json → Except Fault (Json × List Token)
  | .inr value => .ok (value, rest)
  | .inl next => readFrom limit next rest

theorem read_step (limit : Nat) (position : Position) (token : Token) (rest : List Token) (next : Position ⊕ Json)
    (step : position.step limit token = .ok next) :
    readFrom limit position (token :: rest) = resume limit rest next := by
  rw [readFrom, step]
  cases next <;> rfl

inductive AwaitsValue : Expect → Prop
  | value : AwaitsValue .value
  | first : AwaitsValue .firstItem
  | next : AwaitsValue .nextItem

section Openings

variable (limit : Nat) (frames : List Frame) (expect : Expect) (awaits : AwaitsValue expect)
include awaits

theorem value_step (token : Token) (more : token ≠ .closeArr) :
    Position.step limit ⟨frames, expect⟩ token = Position.onValue limit frames token := by
  cases awaits <;> cases token <;> first | rfl | exact absurd rfl more

theorem list_opened (room : frames.length < limit) :
    Position.step limit ⟨frames, expect⟩ .openArr = .ok (.inl ⟨.list [] :: frames, .firstItem⟩) := by
  rw [value_step limit frames expect awaits .openArr nofun]
  exact if_pos room

theorem object_opened (room : frames.length < limit) :
    Position.step limit ⟨frames, expect⟩ .openObj = .ok (.inl ⟨.object [] "" :: frames, .firstKey⟩) := by
  rw [value_step limit frames expect awaits .openObj nofun]
  exact if_pos room

end Openings

theorem key_read (limit : Nat) (fields : Fields) (last key : String) (frames : List Frame) (expect : Expect)
    (rest : List Token) (awaits : expect = .firstKey ∨ expect = .nextKey) :
    readFrom limit ⟨.object fields last :: frames, expect⟩ (.text (.ok key) :: .colon :: rest) =
      readFrom limit ⟨.object fields key :: frames, .value⟩ rest := by
  rcases awaits with rfl | rfl <;> rfl

theorem key_fresh (before after : Fields) (key : String) (value : Json)
    (once : ((before ++ (key, value) :: after).map Prod.fst).Nodup) : key ∉ before.map Prod.fst := by
  intro member
  rw [List.map_append, List.map_cons] at once
  exact (List.nodup_append.mp once).2.2 key member key List.mem_cons_self rfl

mutual
theorem read_written (limit : Nat) (value : Json) (frames : List Frame) (expect : Expect) (rest : List Token)
    (awaits : AwaitsValue expect) (distinct : value.Distinct) (room : frames.length + value.depth ≤ limit) :
    readFrom limit ⟨frames, expect⟩ (value.written ++ rest) = resume limit rest (Position.deliver value frames) := by
  match value, distinct, room with
  | .null, _, _ => exact read_step _ _ _ _ _ (value_step limit frames expect awaits _ nofun)
  | .bool _, _, _ => exact read_step _ _ _ _ _ (value_step limit frames expect awaits _ nofun)
  | .int _, _, _ => exact read_step _ _ _ _ _ (value_step limit frames expect awaits _ nofun)
  | .double _, _, _ => exact read_step _ _ _ _ _ (value_step limit frames expect awaits _ nofun)
  | .str _, _, _ => exact read_step _ _ _ _ _ (value_step limit frames expect awaits _ nofun)
  | .arr items, distinct, room =>
      rw [depth] at room
      have opened := list_opened limit frames expect awaits (by omega)
      rw [written, List.cons_append, List.append_assoc, read_step _ _ _ _ _ opened]
      by_cases empty : items = []
      · rw [empty]
        exact read_step limit ⟨.list [] :: frames, .firstItem⟩ .closeArr rest _ rfl
      · exact read_items limit items [] frames .firstItem rest empty .first distinct (by omega)
  | .obj fields, distinct, room =>
      rw [depth] at room
      have opened := object_opened limit frames expect awaits (by omega)
      rw [written, List.cons_append, List.append_assoc, read_step _ _ _ _ _ opened]
      by_cases empty : fields = []
      · rw [empty]
        exact read_step limit ⟨.object [] "" :: frames, .firstKey⟩ .closeObj rest _ rfl
      · exact read_fields limit fields [] frames "" .firstKey rest empty (.inl rfl) distinct.1 distinct.2 (by omega)
theorem read_items (limit : Nat) (items before : List Json) (frames : List Frame) (expect : Expect) (rest : List Token)
    (any : items ≠ []) (awaits : AwaitsValue expect) (distinct : DistinctItems items)
    (room : frames.length + 1 + depthItems items ≤ limit) :
    readFrom limit ⟨.list before :: frames, expect⟩ (writtenItems items ++ .closeArr :: rest) =
      resume limit rest (Position.deliver (.arr (before.reverse ++ items)) frames) := by
  match items, any, distinct, room with
  | [item], _, distinct, room =>
      rw [depthItems] at room
      rw [writtenItems, read_written limit item (.list before :: frames) expect _ awaits distinct.1
        (by rw [List.length_cons]; omega), ← List.reverse_cons]
      exact read_step limit ⟨.list (item :: before) :: frames, .afterItem⟩ .closeArr rest _ rfl
  | item :: second :: others, _, distinct, room =>
      rw [depthItems] at room
      have after := read_items limit (second :: others) (item :: before) frames .nextItem rest (List.cons_ne_nil _ _)
        .next distinct.2
        (by omega)
      rw [List.reverse_cons, List.append_assoc, List.singleton_append] at after
      rw [writtenItems, List.append_assoc, read_written limit item (.list before :: frames) expect _ awaits distinct.1
        (by rw [List.length_cons]; omega), ← after]
      · rfl
      · exact List.cons_ne_nil _ _
theorem read_fields (limit : Nat) (fields before : Fields) (frames : List Frame) (last : String) (expect : Expect)
    (rest : List Token) (any : fields ≠ []) (awaits : expect = .firstKey ∨ expect = .nextKey)
    (once : ((before ++ fields).map Prod.fst).Nodup) (distinct : DistinctFields fields)
    (room : frames.length + 1 + depthFields fields ≤ limit) :
    readFrom limit ⟨.object before last :: frames, expect⟩ (writtenFields fields ++ .closeObj :: rest) =
      resume limit rest (Position.deliver (.obj (before ++ fields)) frames) := by
  match fields, any, once, distinct, room with
  | [(key, value)], _, once, distinct, room =>
      rw [depthFields] at room
      rw [writtenFields, List.cons_append, List.cons_append, key_read limit before last key frames expect _ awaits,
        read_written limit value (.object before key :: frames) .value _ .value distinct.1
          (by rw [List.length_cons]; omega), ← put_fresh key value before (key_fresh before [] key value once)]
      exact read_step limit ⟨.object (put key value before) key :: frames, .afterItem⟩ .closeObj rest _ rfl
  | (key, value) :: second :: others, _, once, distinct, room =>
      rw [depthFields] at room
      have after := read_fields limit (second :: others) (before ++ [(key, value)]) frames key .nextKey rest
        (List.cons_ne_nil _ _) (.inr rfl) (by rw [List.append_assoc]; exact once) distinct.2 (by omega)
      rw [List.append_assoc, List.singleton_append, ← put_fresh key value before (key_fresh before _ key value once)] at after
      rw [writtenFields, List.cons_append, List.cons_append, List.append_assoc,
        key_read limit before last key frames expect _ awaits,
        read_written limit value (.object before key :: frames) .value _ .value distinct.1
          (by rw [List.length_cons]; omega), ← after]
      · rfl
      · exact List.cons_ne_nil _ _
end

-- Whatever stands around a value, a reader that waits for it reads it from its tokens.
theorem value_read (limit : Nat) (value : Json) (rest : List Token) (distinct : value.Distinct)
    (room : value.depth ≤ limit) : readValue limit (value.written ++ rest) = .ok (value, rest) :=
  read_written limit value [] .value rest .value distinct (by simpa using room)

end TypedQuery.Json

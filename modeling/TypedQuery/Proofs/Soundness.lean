import TypedQuery.Proofs.Outcome
import TypedQuery.Proofs.Reading

/-!
What reading gives: a value in which no object repeats a key and containers are nested no deeper than
the reader allows, made of nothing but what the tokens hold.
-/

set_option autoImplicit false

namespace TypedQuery.Json

section Stack

-- A property of a value that stands where `room` containers may still be opened is `keep room`.
variable (keep : Nat → Json → Prop) (limit : Nat)

structure Inherited : Prop where
  list : ∀ room items, (∀ item ∈ items, keep room item) → keep (room + 1) (.arr items)
  object : ∀ room (fields : Fields), (fields.map Prod.fst).Nodup → (∀ field ∈ fields, keep room field.2) →
    keep (room + 1) (.obj fields)

def Token.Holds (good : Json → Prop) : Token → Prop
  | .literal value | .number (.ok value) => good value
  | .text (.ok content) => good (.str content)
  | _ => True

-- The open containers, innermost first, hold what has the property, and room for so many more.
inductive Kept : Nat → List Frame → Prop
  | outermost : Kept limit []
  | list (room : Nat) (items : List Json) (outer : List Frame) :
      (∀ item ∈ items, keep room item) → Kept (room + 1) outer → Kept room (.list items :: outer)
  | object (room : Nat) (fields : Fields) (key : String) (outer : List Frame) :
      (fields.map Prod.fst).Nodup → (∀ field ∈ fields, keep room field.2) → Kept (room + 1) outer →
        Kept room (.object fields key :: outer)

def Sound : Position ⊕ Json → Prop
  | .inl position => ∃ room, Kept keep limit room position.frames ∧
      (position.expect = .firstItem ∨ position.expect = .firstKey → position.frames ≠ [])
  | .inr value => keep limit value

def Supplied (found : List Token) : Prop := ∀ token ∈ found, ∀ room, token.Holds (keep room)

variable {keep limit}

theorem supplied_suffix (found rest : List Token) (suffix : rest <:+ found) (supplied : Supplied keep found) :
    Supplied keep rest := fun token member => supplied token (suffix.subset member)

theorem kept_room (room : Nat) (frames : List Frame) (kept : Kept keep limit room frames) :
    room + frames.length = limit := by
  induction kept with
  | outermost => rfl
  | list room _ outer _ _ ih | object room _ _ outer _ _ _ ih =>
      rw [List.length_cons]
      omega

theorem kept_outer (room : Nat) (frame : Frame) (outer : List Frame) (kept : Kept keep limit room (frame :: outer)) :
    Kept keep limit (room + 1) outer := by
  cases kept with
  | list _ _ _ _ outside => exact outside
  | object _ _ _ _ _ _ outside => exact outside

theorem deliver_sound (room : Nat) (frames : List Frame) (value : Json) (kept : Kept keep limit room frames)
    (good : keep room value) : Sound keep limit (Position.deliver value frames) := by
  cases kept with
  | outermost => exact good
  | list _ items outer inside outside =>
      exact ⟨room, .list room _ outer (List.forall_mem_cons.mpr ⟨good, inside⟩) outside, by simp⟩
  | object _ fields key outer once inside outside =>
      refine ⟨room, .object room _ key outer (put_distinct key value fields once) ?_ outside, by simp⟩
      intro field member
      rcases put_member key value fields field member with rfl | before
      · exact good
      · exact inside field before

theorem open_sound (room : Nat) (frames : List Frame) (frame : Frame) (expect : Expect) (next : Position ⊕ Json)
    (kept : Kept keep limit room frames)
    (inside : ∀ left, Kept keep limit (left + 1) frames → Kept keep limit left (frame :: frames))
    (opened : Position.openFrame limit frame expect frames = .ok next) : Sound keep limit next := by
  unfold Position.openFrame at opened
  split at opened
  · rename_i space
    obtain rfl := Except.ok.inj opened
    obtain ⟨left, rfl⟩ : ∃ left, room = left + 1 := ⟨room - 1, by have := kept_room room frames kept; omega⟩
    exact ⟨left, inside left kept, fun _ => nofun⟩
  · exact nomatch opened

theorem value_sound (room : Nat) (frames : List Frame) (token : Token) (next : Position ⊕ Json)
    (kept : Kept keep limit room frames) (scalar : token.Holds (keep room))
    (read : Position.onValue limit frames token = .ok next) : Sound keep limit next := by
  cases token with
  | openArr => exact open_sound room frames _ _ next kept (fun left => .list left [] frames nofun) read
  | openObj => exact open_sound room frames _ _ next kept (fun left => .object left [] "" frames .nil nofun) read
  | literal value =>
      obtain rfl := Except.ok.inj read
      exact deliver_sound room frames value kept scalar
  | number value =>
      cases value with
      | error fault => exact nomatch read
      | ok value =>
          obtain rfl := Except.ok.inj read
          exact deliver_sound room frames value kept scalar
  | text value =>
      cases value with
      | error fault => exact nomatch read
      | ok text =>
          obtain rfl := Except.ok.inj read
          exact deliver_sound room frames (.str text) kept scalar
  | closeArr | closeObj | comma | colon | bad => exact nomatch read

theorem key_sound (room : Nat) (frames : List Frame) (token : Token) (next : Position ⊕ Json)
    (kept : Kept keep limit room frames) (read : Position.onKey frames token = .ok next) : Sound keep limit next := by
  unfold Position.onKey at read
  split at read
  · rename_i key
    cases key with
    | error fault => exact nomatch read
    | ok key =>
        obtain rfl := Except.ok.inj read
        cases kept with
        | outermost => exact ⟨limit, .outermost, by simp⟩
        | list _ items outer inside outside => exact ⟨room, .list room items outer inside outside, by simp⟩
        | object _ fields last outer once inside outside =>
            exact ⟨room, .object room fields key outer once inside outside, by simp⟩
  · exact nomatch read
  · exact nomatch read

theorem separator_sound (inherited : Inherited keep) (room : Nat) (frames : List Frame) (token : Token)
    (next : Position ⊕ Json) (kept : Kept keep limit room frames) (read : Position.onSeparator frames token = .ok next) :
    Sound keep limit next := by
  unfold Position.onSeparator at read
  split at read
  · obtain rfl := Except.ok.inj read
    exact ⟨room, kept, by simp⟩
  · obtain rfl := Except.ok.inj read
    cases kept with
    | list _ _ _ inside outside =>
        refine deliver_sound (room + 1) _ _ outside (inherited.list room _ fun item member => ?_)
        exact inside item (List.mem_reverse.mp member)
  · exact nomatch read
  · obtain rfl := Except.ok.inj read
    exact ⟨room, kept, by simp⟩
  · obtain rfl := Except.ok.inj read
    cases kept with
    | object _ _ _ _ once inside outside =>
        exact deliver_sound (room + 1) _ _ outside (inherited.object room _ once inside)
  · exact nomatch read
  · exact nomatch read

theorem empty_sound (room : Nat) (frames : List Frame) (value : Json) (kept : Kept keep limit room frames)
    (opened : frames ≠ []) (good : keep (room + 1) value) : Sound keep limit (Position.deliver value frames.tail) := by
  cases frames with
  | nil => exact absurd rfl opened
  | cons frame outer => exact deliver_sound (room + 1) outer value (kept_outer room frame outer kept) good

theorem step_sound (inherited : Inherited keep) (position : Position) (token : Token) (next : Position ⊕ Json)
    (before : Sound keep limit (.inl position)) (scalar : ∀ room, token.Holds (keep room))
    (read : position.step limit token = .ok next) : Sound keep limit next := by
  obtain ⟨room, kept, opened⟩ := before
  -- The cases are those of the definition: the four ends of a container, then what is expected else.
  unfold Position.step at read
  split at read
  · rename_i first
    obtain rfl := Except.ok.inj read
    exact empty_sound room _ _ kept (opened (.inl first)) (inherited.list room [] nofun)
  · exact nomatch read
  · rename_i first
    obtain rfl := Except.ok.inj read
    exact empty_sound room _ _ kept (opened (.inr first)) (inherited.object room [] .nil nofun)
  · exact nomatch read
  · exact value_sound room _ _ next kept (scalar room) read
  · exact value_sound room _ _ next kept (scalar room) read
  · exact value_sound room _ _ next kept (scalar room) read
  · exact key_sound room _ _ next kept read
  · exact key_sound room _ _ next kept read
  · obtain rfl := Except.ok.inj read
    exact ⟨room, kept, by simp⟩
  · exact nomatch read
  · exact separator_sound inherited room _ _ next kept read

theorem read_sound (inherited : Inherited keep) (position : Position) (found : List Token)
    (before : Sound keep limit (.inl position)) (supplied : Supplied keep found) (value : Json) (rest : List Token)
    (read : readFrom limit position found = .ok (value, rest)) : keep limit value ∧ rest <:+ found := by
  induction found generalizing position with
  | nil =>
      rw [readFrom] at read
      cases read
  | cons token more ih =>
      rw [readFrom] at read
      split at read
      · cases read
      · rename_i result step
        obtain ⟨rfl, rfl⟩ := Prod.mk.inj (Except.ok.inj read)
        exact ⟨step_sound inherited position token _ before (supplied token List.mem_cons_self) step,
          List.suffix_cons token _⟩
      · rename_i next step
        have after := step_sound inherited position token _ before (supplied token List.mem_cons_self) step
        obtain ⟨good, suffix⟩ := ih next after (supplied_suffix _ more (List.suffix_cons token more) supplied) read
        exact ⟨good, suffix.trans (List.suffix_cons token more)⟩

theorem value_read_sound (inherited : Inherited keep) (found : List Token) (supplied : Supplied keep found)
    (value : Json) (rest : List Token)
    (read : readValue limit found = .ok (value, rest)) : keep limit value ∧ rest <:+ found :=
  read_sound inherited ⟨[], .value⟩ found ⟨limit, .outermost, by simp⟩ supplied value rest read

end Stack

theorem skip_rest (position : SkipPosition) (found rest : List Token) (skipped : skipFrom position found = .ok rest) :
    rest <:+ found := by
  induction found generalizing position with
  | nil => exact nomatch skipped
  | cons token more ih =>
      rw [skipFrom] at skipped
      split at skipped
      · exact nomatch skipped
      · exact Except.ok.inj skipped ▸ List.suffix_cons token more
      · rename_i next _
        exact (ih next skipped).trans (List.suffix_cons token more)

section Properties

theorem depth_items_le (items : List Json) (room : Nat) :
    depthItems items ≤ room ↔ ∀ item ∈ items, item.depth ≤ room := by
  induction items with
  | nil => simp [depthItems]
  | cons item rest ih => rw [depthItems, Nat.max_le, ih, List.forall_mem_cons]

theorem depth_fields_le (fields : Fields) (room : Nat) :
    depthFields fields ≤ room ↔ ∀ field ∈ fields, field.2.depth ≤ room := by
  induction fields with
  | nil => simp [depthFields]
  | cons field rest ih => rw [depthFields, Nat.max_le, ih, List.forall_mem_cons]

theorem distinct_items (items : List Json) : DistinctItems items ↔ ∀ item ∈ items, item.Distinct := by
  induction items with
  | nil => simp [DistinctItems]
  | cons item rest ih => rw [DistinctItems, ih, List.forall_mem_cons]

theorem distinct_fields (fields : Fields) : DistinctFields fields ↔ ∀ field ∈ fields, field.2.Distinct := by
  induction fields with
  | nil => simp [DistinctFields]
  | cons field rest ih => rw [DistinctFields, ih, List.forall_mem_cons]

theorem whole_items (items : List Json) : WholeItems items ↔ ∀ item ∈ items, item.Whole := by
  induction items with
  | nil => simp [WholeItems]
  | cons item rest ih => rw [WholeItems, ih, List.forall_mem_cons]

theorem whole_fields (fields : Fields) : WholeFields fields ↔ ∀ field ∈ fields, field.2.Whole := by
  induction fields with
  | nil => simp [WholeFields]
  | cons field rest ih => rw [WholeFields, ih, List.forall_mem_cons]

structure Fits (room : Nat) (value : Json) : Prop where
  distinct : value.Distinct
  shallow : value.depth ≤ room

theorem fits_inherited : Inherited Fits where
  list room items inside :=
    ⟨(distinct_items items).mpr fun item member => (inside item member).distinct,
      Nat.succ_le_succ ((depth_items_le items room).mpr fun item member => (inside item member).shallow)⟩
  object room fields once inside :=
    ⟨⟨once, (distinct_fields fields).mpr fun field member => (inside field member).distinct⟩,
      Nat.succ_le_succ ((depth_fields_le fields room).mpr fun field member => (inside field member).shallow)⟩

theorem whole_inherited : Inherited fun _ value => value.Whole where
  list _ items inside := (whole_items items).mpr inside
  object _ fields _ inside := (whole_fields fields).mpr inside

theorem flat_fits (value : Json) (flat : value.depth = 0) (room : Nat) : Fits room value := by
  refine ⟨?_, flat ▸ Nat.zero_le room⟩
  cases value with
  | arr | obj => exact nomatch flat
  | null | bool | int | double | str => trivial

end Properties

section Scalars

def Token.Flat (token : Token) : Prop := token.Holds fun value => value.depth = 0

def Token.Lexical : Token → Prop
  | .literal value => value = .null ∨ ∃ b, value = .bool b
  | .number (.ok value) => (∃ n, value = .int n) ∨ ∃ x, value = .double x
  | _ => True

theorem plain_step_lexical (content : Content) (c : Option Char) (token : Token)
    (ends : Scan.plainStep content c = .inr token) : token.Lexical := by
  unfold Scan.plainStep at ends
  split at ends
  · exact Sum.inr.inj ends ▸ trivial
  · exact nomatch ends
  · split at ends
    · exact Sum.inr.inj ends ▸ trivial
    · exact nomatch ends
  · exact nomatch ends

theorem text_step_lexical (scan : Scan) (c : Option Char) (rest : Source) (token : Token)
    (ends : scan.step c rest = .inr token) : token.Lexical := by
  obtain ⟨content, spot⟩ := scan
  cases spot with
  | plain => exact plain_step_lexical content c token ends
  | paired high =>
      unfold Scan.step at ends
      dsimp only at ends
      split at ends
      · exact nomatch ends
      · exact plain_step_lexical _ c token ends
  | escape high =>
      unfold Scan.step at ends
      dsimp only at ends
      split at ends
      · exact nomatch ends
      · split at ends
        · exact nomatch ends
        · exact Sum.inr.inj ends ▸ trivial
  | unit high count value =>
      unfold Scan.step at ends
      dsimp only at ends
      split at ends
      · exact Sum.inr.inj ends ▸ trivial
      · exact nomatch ends

theorem scan_text_lexical (source : Source) (scan : Scan) : (scanText scan source).1.Lexical := by
  induction source generalizing scan with
  | nil => trivial
  | cons c rest ih =>
      rw [scanText]
      split
      · exact ih _
      · rename_i ends
        exact text_step_lexical scan c rest _ ends

theorem number_lexical (number : Decimal) : (Token.number number.value).Lexical := by
  unfold Decimal.value
  dsimp only
  split
  · split
    · exact .inr ⟨_, rfl⟩
    · trivial
  · split
    · split
      · exact .inr ⟨_, rfl⟩
      · trivial
    · split
      · exact .inl ⟨_, rfl⟩
      · split
        · split
          · exact .inr ⟨_, rfl⟩
          · trivial
        · exact .inl ⟨_, rfl⟩

theorem scan_literal_lexical (value : Json) (constant : (Token.literal value).Lexical) (expected : List Char)
    (source : Source) : (scanLiteral value expected source).1.Lexical := by
  induction expected generalizing source with
  | nil => exact constant
  | cons c more ih =>
      cases source with
      | nil => trivial
      | cons found rest =>
          rw [scanLiteral]
          split
          · exact ih rest
          · trivial

theorem exponent_lexical (number : Decimal) (source : Source) : (scanExponent number source).1.Lexical := by
  have signed (negative : Bool) (rest : Source) :
      (if (spanDigits rest).1.isEmpty then digitFault rest
        else (.number { number with exponent := some (negative, (spanDigits rest).1) }.value, (spanDigits rest).2)).1.Lexical := by
    split
    · trivial
    · exact number_lexical _
  exact signed _ _

theorem fraction_lexical (number : Decimal) (source : Source) : (scanAfterFraction number source).1.Lexical := by
  unfold scanAfterFraction
  split
  · exact exponent_lexical number _
  · exact exponent_lexical number _
  · exact number_lexical number

theorem scan_number_lexical (negative : Bool) (source : Source) : (scanNumber negative source).1.Lexical := by
  unfold scanNumber
  dsimp only
  split
  · trivial
  · trivial
  · split
    · split
      · trivial
      · exact fraction_lexical _ _
    · exact fraction_lexical _ _

theorem scan_token_lexical (first : Option Char) (rest : Source) : (scanToken first rest).1.Lexical := by
  unfold scanToken
  split
  · trivial
  · trivial
  · trivial
  · trivial
  · trivial
  · trivial
  · exact scan_text_lexical rest _
  · exact scan_number_lexical true rest
  · exact scan_literal_lexical .null (.inl rfl) _ rest
  · exact scan_literal_lexical (.bool true) (.inr ⟨true, rfl⟩) _ rest
  · exact scan_literal_lexical (.bool false) (.inr ⟨false, rfl⟩) _ rest
  · split
    · exact scan_number_lexical false _
    · trivial

theorem tokens_lexical (source : Source) : ∀ token ∈ tokens source, token.Lexical := by
  suffices within : ∀ limit source, ∀ token ∈ tokensWithin limit source, token.Lexical from within _ source
  intro limit
  induction limit with
  | zero => exact fun _ token member => absurd member List.not_mem_nil
  | succ limit ih =>
      intro source token member
      rw [tokensWithin] at member
      split at member
      · exact absurd member List.not_mem_nil
      · rename_i first rest _
        rcases List.mem_cons.mp member with rfl | later
        · exact scan_token_lexical first rest
        · exact ih _ token later

theorem lexical_flat (token : Token) (lexical : token.Lexical) : token.Flat := by
  cases token with
  | literal value => rcases lexical with rfl | ⟨b, rfl⟩ <;> rfl
  | number value =>
      cases value with
      | error => trivial
      | ok value => rcases lexical with ⟨n, rfl⟩ | ⟨x, rfl⟩ <;> rfl
  | text content => cases content <;> trivial
  | openArr | closeArr | openObj | closeObj | comma | colon | bad => trivial

theorem token_fits (token : Token) (flat : token.Flat) (room : Nat) : token.Holds (Fits room) := by
  cases token with
  | literal value => exact flat_fits value flat room
  | number value =>
      cases value with
      | error => trivial
      | ok value => exact flat_fits value flat room
  | text content =>
      cases content with
      | error => trivial
      | ok content => exact flat_fits (.str content) rfl room
  | openArr | closeArr | openObj | closeObj | comma | colon | bad => trivial

theorem tokens_fit (source : Source) : Supplied Fits (tokens source) :=
  fun token member room => token_fits token (lexical_flat token (tokens_lexical source token member)) room

end Scalars

theorem parse_fits (text : String) (value : Json) (read : parse text = .ok value) : Fits nestingLimit value := by
  obtain ⟨⟨found, rest⟩, read, ends⟩ := (bind_ok_iff _ _ _).mp read
  have fits := (value_read_sound fits_inherited _ (tokens_fit _) found rest read).1
  dsimp only at ends
  split at ends
  · exact Except.ok.inj ends ▸ fits
  · exact nomatch ends

theorem parse_written (text : String) (value : Json) (shown : tokens (sourceOf text) = value.written)
    (fits : Fits nestingLimit value) : parse text = .ok value := by
  have read := value_read nestingLimit value [] fits.distinct fits.shallow
  rw [List.append_nil] at read
  rw [parse, shown, read]
  rfl

end TypedQuery.Json

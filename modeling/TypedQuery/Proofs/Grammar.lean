import TypedQuery.Proofs.Literals

/-!
The grammar of the language, over tokens. The tokens `before` hold a written value, and behind it the
tokens `after`. Wherever the grammar has a value, the rule for it takes that value.
-/

set_option autoImplicit false

namespace TypedQuery.Sdl

open Rule

section Sequences

variable {α : Type}

inductive Each (Written : α → List Token → List Token → Prop) : List α → List Token → List Token → Prop
  | nil (tokens : List Token) : Each Written [] tokens tokens
  | cons (item : α) (items : List α) (before middle after : List Token) : Written item before middle →
      Each Written items middle after → Each Written (item :: items) before after

inductive Enclosed (opening closing : Char) (Written : α → List Token → List Token → Prop) :
    List α → List Token → List Token → Prop
  | none (tokens : List Token) : Enclosed opening closing Written [] tokens tokens
  | some (items : List α) (before after : List Token) : items ≠ [] → Each Written items before (.mark closing :: after) →
      Enclosed opening closing Written items (.mark opening :: before) after

inductive Entry (Written : α → List Token → List Token → Prop) : String × α → List Token → List Token → Prop
  | entry (key : String) (value : α) (before after : List Token) : isName key → Written value before after →
      Entry Written (key, value) (.word key.toList :: .mark ':' :: before) after

end Sequences

inductive ConstValue.Written : ConstValue → List Token → List Token → Prop
  | number (written : Json.Decimal) (text : List Char) (more : List Token) : NumberText written text →
      ConstValue.Written (.number written) (.word text :: more) more
  | string (tail : List Char) (more : List Token) : StringTail tail → ConstValue.Written .string (.quote tail :: more) more
  | boolean (value : Bool) (more : List Token) :
      ConstValue.Written (.boolean value) (.word (if value then "true" else "false").toList :: more) more
  | null (more : List Token) : ConstValue.Written .null (.word "null".toList :: more) more
  | choice (name : String) (more : List Token) : isChoice name →
      ConstValue.Written (.choice name) (.word name.toList :: more) more
  | list (items : List ConstValue) (before after : List Token) :
      Each ConstValue.Written items before (.mark ']' :: after) → ConstValue.Written (.list items) (.mark '[' :: before) after
  | object (fields : List (String × ConstValue)) (before after : List Token) :
      Each (Entry ConstValue.Written) fields before (.mark '\x7d' :: after) →
      ConstValue.Written (.object fields) (.mark '\x7b' :: before) after

inductive Directive.Written : Directive → List Token → List Token → Prop
  | directive (name : String) (arguments : List (String × ConstValue)) (before after : List Token) : isName name →
      Enclosed '(' ')' (Entry ConstValue.Written) arguments before after →
      Directive.Written ⟨name, arguments⟩ (.mark '@' :: .word name.toList :: before) after

inductive Described : List Token → List Token → Prop
  | none (tokens : List Token) : Described tokens tokens
  | some (tail : List Char) (more : List Token) : StringTail tail → Described (.quote tail :: more) more

inductive DefaultWritten : Option ConstValue → List Token → List Token → Prop
  | none (tokens : List Token) : DefaultWritten none tokens tokens
  | some (value : ConstValue) (before after : List Token) : value.Written before after →
      DefaultWritten (some value) (.mark '=' :: before) after

inductive InputValue.Written : InputValue → List Token → List Token → Prop
  | value (name : String) (type : TypeRef) (default : Option ConstValue) (directives : List Directive)
      (before behind middle after : List Token) :
      Described before (.word name.toList :: .mark ':' :: .word type.chars :: behind) → isName name → type.Proper →
      DefaultWritten default behind middle → Each Directive.Written directives middle after →
      InputValue.Written ⟨name, type, default, directives⟩ before after

inductive Field.Written : Field → List Token → List Token → Prop
  | field (name : String) (arguments : List InputValue) (type : TypeRef) (directives : List Directive)
      (before behind middle after : List Token) :
      Described before (.word name.toList :: behind) → isName name →
      Enclosed '(' ')' InputValue.Written arguments behind (.mark ':' :: .word type.chars :: middle) → type.Proper →
      Each Directive.Written directives middle after → Field.Written ⟨name, arguments, type, directives⟩ before after

theorem word_lead (name : String) (more : List Token) (named : isName name) :
    ∃ c, lead (.word name.toList :: more) = some c ∧ isNameStart c := by
  obtain ⟨first, rest, text, start⟩ := name_head name named
  exact ⟨first, by simp [lead, front, Token.chars, text], start⟩

section Values

variable {α : Type}

def entryRule (rule : Rule α) : Rule (String × α) := do
  let key ← name
  keyword ":"
  let value ← rule
  pure (key, value)

theorem entry_takes (rule : Rule α) (key : String) (value : α) (before after : List Token) (named : isName key)
    (takes : Takes rule before value after) :
    Takes (entryRule rule) (.word key.toList :: .mark ':' :: before) (key, value) after :=
  takes_bind (name_takes key _ named) (takes_bind (keyword_takes ":" (.mark ':') before rfl)
    (takes_bind takes (takes_pure _ after)))

end Values

theorem mark_refuses (c : Char) (more : List Token) (marked : isMark c) :
    Refuses number (.mark c :: more) ∧ Refuses string (.mark c :: more) ∧ Refuses (keyword "true") (.mark c :: more) ∧
      Refuses (keyword "false") (.mark c :: more) ∧ Refuses (keyword "null") (.mark c :: more) ∧
      Refuses enumValue (.mark c :: more) := by
  obtain ⟨noNumber, noString, noName⟩ :=
    each_mark (fun c => (c ≠ '-' ∧ c.isDigit = false) ∧ c ≠ '"' ∧ isNameStart c = false) (by decide) c marked
  have same (d : Char) (found : lead (.mark c :: more) = some d) : c = d := Option.some.inj found
  have letter (d : Char) (start : isNameStart d) : lead (.mark c :: more) ≠ some d := fun found =>
    ne_true_of_eq_false noName (same d found ▸ start)
  exact ⟨number_refuses _ fun d found => same d found ▸ noNumber, string_refuses _ fun found => noString (same _ found),
    lead_refuses "true" _ rfl (letter 't' rfl), lead_refuses "false" _ rfl (letter 'f' rfl),
    lead_refuses "null" _ rfl (letter 'n' rfl), enum_value_refuses _ fun d found => same d found ▸ noName⟩

def bracketed (depth : Nat) : Rule ConstValue :=
  (do
    keyword "["
    let items ← many (valueWithin depth)
    keyword "]"
    pure (.list items))
  <|> (do
    keyword "\x7b"
    let fields ← many (entryRule (valueWithin depth))
    keyword "\x7d"
    pure (.object fields))

theorem bracketed_takes (depth : Nat) (c : Char) (more after : List Token) (value : ConstValue) (marked : isMark c)
    (takes : Takes (bracketed depth) (.mark c :: more) value after) :
    Takes (valueWithin (depth + 1)) (.mark c :: more) value after := by
  obtain ⟨noNumber, noString, noTrue, noFalse, noNull, noChoice⟩ := mark_refuses c more marked
  refine takes_right (refuses_map _ noNumber) (takes_right (refuses_bind _ noString) ?_)
  refine takes_right (refuses_bind _ noTrue) (takes_right (refuses_bind _ noFalse) ?_)
  exact takes_right (refuses_bind _ noNull) (takes_right (refuses_map _ noChoice) takes)

theorem closing_refuses (depth : Nat) (more : List Token) : Refuses (valueWithin depth) (.mark ']' :: more) := by
  cases depth with
  | zero => exact fun _ _ => rfl
  | succ depth =>
      obtain ⟨noNumber, noString, noTrue, noFalse, noNull, noChoice⟩ := mark_refuses ']' more rfl
      have list : Refuses (keyword "[") (.mark ']' :: more) := lead_refuses "[" _ rfl (by simp [lead, front, Token.chars])
      have object : Refuses (keyword "\x7b") (.mark ']' :: more) :=
        lead_refuses "\x7b" _ rfl (by simp [lead, front, Token.chars])
      refine refuses_or (refuses_map _ noNumber) (refuses_or (refuses_bind _ noString) ?_)
      refine refuses_or (refuses_bind _ noTrue) (refuses_or (refuses_bind _ noFalse) (refuses_or (refuses_bind _ noNull) ?_))
      exact refuses_or (refuses_map _ noChoice) (refuses_or (refuses_bind _ list) (refuses_bind _ object))

theorem word_refuses (text : String) (more : List Token) (named : isName text) :
    Refuses number (.word text.toList :: more) ∧ Refuses string (.word text.toList :: more) := by
  obtain ⟨c, start, first⟩ := word_lead text more named
  have same (d : Char) (found : lead (.word text.toList :: more) = some d) : d = c :=
    Option.some.inj (found.symm.trans start)
  refine ⟨number_refuses _ fun d found => same d found ▸ start_not_number c first, string_refuses _ ?_⟩
  intro found
  rw [← same _ found] at first
  exact absurd first (by decide)

theorem choice_takes (depth : Nat) (text : String) (more : List Token) (choice : isChoice text) :
    Takes (valueWithin (depth + 1)) (.word text.toList :: more) (.choice text) more := by
  obtain ⟨named, apart⟩ := Bool.and_eq_true_iff.mp choice
  obtain ⟨noNumber, noString⟩ := word_refuses text more named
  have literal (word : String) (member : word ∈ ["true", "false", "null"]) (plain : isKeyword word.toList) :
      Refuses (keyword word) (.word text.toList :: more) := by
    apply keyword_refuses word _ plain
    rw [Bool.not_eq_true', List.any_eq_false] at apart
    exact fun begins => apart word member (List.isPrefixOf_iff_prefix.mpr begins)
  refine takes_right (refuses_map _ noNumber) (takes_right (refuses_bind _ noString) ?_)
  refine takes_right (refuses_bind _ (literal "true" (by simp) rfl)) ?_
  refine takes_right (refuses_bind _ (literal "false" (by simp) rfl)) ?_
  refine takes_right (refuses_bind _ (literal "null" (by simp) rfl)) ?_
  exact takes_left _ (takes_map _ (enum_value_takes text more choice))

theorem literal_takes (depth : Nat) (value : Bool) (more : List Token) :
    Takes (valueWithin (depth + 1)) (.word (if value then "true" else "false").toList :: more) (.boolean value) more := by
  cases value with
  | true =>
      obtain ⟨noNumber, noString⟩ := word_refuses "true" more rfl
      refine takes_right (refuses_map _ noNumber) (takes_right (refuses_bind _ noString) (takes_left _ ?_))
      exact takes_bind (keyword_takes "true" (.word "true".toList) more rfl) (takes_pure _ more)
  | false =>
      obtain ⟨noNumber, noString⟩ := word_refuses "false" more rfl
      have noTrue : Refuses (keyword "true") (.word "false".toList :: more) :=
        lead_refuses "true" _ rfl (by simp [lead, front, Token.chars])
      refine takes_right (refuses_map _ noNumber) (takes_right (refuses_bind _ noString) ?_)
      refine takes_right (refuses_bind _ noTrue) (takes_left _ ?_)
      exact takes_bind (keyword_takes "false" (.word "false".toList) more rfl) (takes_pure _ more)

theorem null_takes (depth : Nat) (more : List Token) :
    Takes (valueWithin (depth + 1)) (.word "null".toList :: more) .null more := by
  obtain ⟨noNumber, noString⟩ := word_refuses "null" more rfl
  have noTrue : Refuses (keyword "true") (.word "null".toList :: more) :=
    lead_refuses "true" _ rfl (by simp [lead, front, Token.chars])
  have noFalse : Refuses (keyword "false") (.word "null".toList :: more) :=
    lead_refuses "false" _ rfl (by simp [lead, front, Token.chars])
  refine takes_right (refuses_map _ noNumber) (takes_right (refuses_bind _ noString) ?_)
  refine takes_right (refuses_bind _ noTrue) (takes_right (refuses_bind _ noFalse) (takes_left _ ?_))
  exact takes_bind (keyword_takes "null" (.word "null".toList) more rfl) (takes_pure _ more)

mutual
theorem value_takes (value : ConstValue) (depth : Nat) (before after : List Token) (written : value.Written before after)
    (enough : before.length ≤ depth) : Takes (valueWithin depth) before value after ∧ after.length < before.length := by
  cases depth with
  | zero => cases written <;> simp at enough
  | succ depth =>
      cases value with
      | number number =>
          obtain ⟨_, text, _, digits⟩ := written
          exact ⟨takes_left _ (takes_map _ (number_takes number text after digits)), by simp⟩
      | string =>
          obtain _ | ⟨tail, _, good⟩ := written
          have noNumber : Refuses number (.quote tail :: after) := number_refuses _ (by
            intro c start
            obtain rfl : '"' = c := Option.some.inj start
            decide)
          refine ⟨takes_right (refuses_map _ noNumber) (takes_left _ ?_), by simp⟩
          exact takes_bind (string_takes tail after good) (takes_pure _ after)
      | boolean value =>
          cases written
          exact ⟨literal_takes depth value after, by simp⟩
      | null =>
          cases written
          exact ⟨null_takes depth after, by simp⟩
      | choice name =>
          cases written with
          | choice _ _ choice => exact ⟨choice_takes depth name after choice, by simp⟩
      | list items =>
          cases written with
          | list _ inner _ each =>
              simp only [List.length_cons] at enough
              obtain ⟨steps, shorter⟩ := items_steps items depth inner _ each (by omega) (closing_refuses depth after)
              simp only [List.length_cons] at shorter ⊢
              refine ⟨bracketed_takes depth '[' inner after _ rfl (takes_left _ ?_), by omega⟩
              refine takes_bind (keyword_takes "[" (.mark '[') inner rfl) (takes_bind (takes_many steps) ?_)
              exact takes_bind (keyword_takes "]" (.mark ']') after rfl) (takes_pure _ after)
      | object fields =>
          cases written with
          | object _ inner _ each =>
              simp only [List.length_cons] at enough
              obtain ⟨steps, shorter⟩ :=
                entries_steps fields depth inner _ each (by omega) (mark_refuses_name '\x7d' after rfl)
              have noList : Refuses (keyword "[") (.mark '\x7b' :: inner) :=
                lead_refuses "[" _ rfl (by simp [lead, front, Token.chars])
              simp only [List.length_cons] at shorter ⊢
              refine ⟨bracketed_takes depth '\x7b' inner after _ rfl (takes_right (refuses_bind _ noList) ?_), by omega⟩
              refine takes_bind (keyword_takes "\x7b" (.mark '\x7b') inner rfl) (takes_bind (takes_many steps) ?_)
              exact takes_bind (keyword_takes "\x7d" (.mark '\x7d') after rfl) (takes_pure _ after)
theorem items_steps (items : List ConstValue) (depth : Nat) (before after : List Token)
    (each : Each ConstValue.Written items before after) (enough : before.length ≤ depth)
    (closing : Refuses (valueWithin depth) after) :
    Steps (valueWithin depth) before items after ∧ after.length ≤ before.length := by
  cases items with
  | nil =>
      cases each
      exact ⟨.stop _ closing, Nat.le_refl _⟩
  | cons item items =>
      cases each with
      | cons _ _ _ middle _ first rest =>
          obtain ⟨takes, shorter⟩ := value_takes item depth before middle first enough
          obtain ⟨steps, short⟩ := items_steps items depth middle after rest (by omega) closing
          exact ⟨.step _ _ _ _ _ takes shorter steps, by omega⟩
theorem entries_steps (entries : List (String × ConstValue)) (depth : Nat) (before after : List Token)
    (each : Each (Entry ConstValue.Written) entries before after) (enough : before.length ≤ depth)
    (closing : Refuses name after) :
    Steps (entryRule (valueWithin depth)) before entries after ∧ after.length ≤ before.length := by
  cases entries with
  | nil =>
      cases each
      exact ⟨.stop _ (refuses_bind _ closing), Nat.le_refl _⟩
  | cons entry entries =>
      cases each with
      | cons _ _ _ middle _ first rest =>
          obtain ⟨key, value⟩ := entry
          cases first with
          | entry _ _ inner _ named written =>
              simp only [List.length_cons] at enough
              obtain ⟨takes, shorter⟩ := value_takes value depth inner middle written (by omega)
              obtain ⟨steps, short⟩ := entries_steps entries depth middle after rest (by omega) closing
              have ahead : middle.length < inner.length + 2 := by omega
              refine ⟨.step _ _ _ _ _ (entry_takes _ key value _ _ named takes) ahead steps, ?_⟩
              simp only [List.length_cons]
              omega
end

def Free (marks : List Char) (tokens : List Token) : Prop := ∀ c ∈ marks, lead tokens ≠ some c

def Settled (tokens : List Token) : Prop := Free ['@', '(', '=', '\x7b', '|', '&'] tokens

section Reading

variable {α : Type} {rule : Rule α} {Written : α → List Token → List Token → Prop} {ends : List Token → Prop}

-- A rule takes what is written, before tokens that can end it.
structure Reads (rule : Rule α) (Written : α → List Token → List Token → Prop) (ends : List Token → Prop) : Prop where
  takes (item : α) (before after : List Token) : Written item before after → ends after → Takes rule before item after
  shorter (item : α) (before after : List Token) : Written item before after → after.length < before.length
  starts (item : α) (before after : List Token) : Written item before after → ends before

theorem each_steps (reads : Reads rule Written ends) (items : List α) (before after : List Token)
    (each : Each Written items before after) (last : ends after) (closing : Refuses rule after) :
    Steps rule before items after ∧ ends before := by
  induction each with
  | nil tokens => exact ⟨.stop tokens closing, last⟩
  | cons item items before middle after first _ ih =>
      obtain ⟨steps, start⟩ := ih last closing
      exact ⟨.step _ _ _ _ _ (reads.takes item before middle first start) (reads.shorter item before middle first) steps,
        reads.starts item before middle first⟩

theorem each_shorter (reads : Reads rule Written ends) (items : List α) (before after : List Token)
    (each : Each Written items before after) : after.length ≤ before.length := by
  induction each with
  | nil tokens => exact Nat.le_refl _
  | cons item items before middle after first _ ih =>
      exact Nat.le_trans ih (Nat.le_of_lt (reads.shorter item before middle first))

theorem each_takes (reads : Reads rule Written ends) (items : List α) (before after : List Token) (nonempty : items ≠ [])
    (each : Each Written items before after) (last : ends after) (closing : Refuses rule after) :
    Takes (many1 rule) before items after := by
  cases each with
  | nil => exact absurd rfl nonempty
  | cons item items _ middle _ first rest =>
      obtain ⟨steps, start⟩ := each_steps reads items middle after rest last closing
      exact takes_many1 (reads.takes item before middle first start) steps

def Optionally (rule : Rule (List α)) (before : List Token) (items : List α) (after : List Token) : Prop :=
  (items = [] ∧ before = after ∧ Refuses rule after) ∨ (items ≠ [] ∧ Takes rule before items after)

theorem optionally_takes (rule : Rule (List α)) (before after : List Token) (items : List α)
    (optionally : Optionally rule before items after) :
    ∃ found, Takes (maybe rule) before found after ∧ found.getD [] = items := by
  rcases optionally with ⟨rfl, rfl, refuses⟩ | ⟨_, takes⟩
  · exact ⟨none, takes_none refuses, rfl⟩
  · exact ⟨some items, takes_some takes, rfl⟩

def between (opening closing : String) (rule : Rule α) : Rule (List α) := do
  keyword opening
  let items ← many1 rule
  keyword closing
  pure items

theorem enclosed_takes (reads : Reads rule Written ends) (opening closing : String) (first last : Char)
    (begins : opening.toList = [first]) (closes : closing.toList = [last]) (items : List α) (before after : List Token)
    (enclosed : Enclosed first last Written items before after) (inside : ends (.mark last :: after))
    (done : Refuses rule (.mark last :: after)) (free : lead after ≠ some first) :
    Optionally (between opening closing rule) before items after := by
  cases enclosed with
  | none =>
      have absent : Refuses (keyword opening) before :=
        lead_refuses opening before (by simp [isKeyword, begins]) (by simpa [begins] using free)
      exact .inl ⟨rfl, rfl, refuses_bind _ absent⟩
  | some _ inner _ nonempty each =>
      refine .inr ⟨nonempty, ?_⟩
      refine takes_bind (keyword_takes opening (.mark first) inner begins.symm) ?_
      refine takes_bind (each_takes reads items inner _ nonempty each inside done) ?_
      exact takes_bind (keyword_takes closing (.mark last) after closes.symm) (takes_pure items after)

theorem enclosed_shorter (reads : Reads rule Written ends) (first last : Char) (items : List α) (before after : List Token)
    (enclosed : Enclosed first last Written items before after) : after.length ≤ before.length := by
  cases enclosed with
  | none => exact Nat.le_refl _
  | some _ inner _ _ each =>
      have short := each_shorter reads items inner _ each
      simp only [List.length_cons] at short ⊢
      omega

end Reading

theorem constant_reads : Reads value ConstValue.Written fun _ => True where
  takes constant before after written _ := fun text spells =>
    (value_takes constant text.length before after written (spells_length before text spells)).1 text spells
  shorter constant before after written := (value_takes constant before.length before after written (Nat.le_refl _)).2
  starts _ _ _ _ := trivial

theorem entry_reads : Reads (entryRule value) (Entry ConstValue.Written) fun _ => True where
  takes item before after written _ := by
    obtain ⟨key, constant, inner, _, named, written⟩ := written
    exact entry_takes value key constant inner after named (constant_reads.takes constant inner after written trivial)
  shorter item before after written := by
    obtain ⟨key, constant, inner, _, named, written⟩ := written
    have short := constant_reads.shorter constant inner after written
    simp only [List.length_cons]
    omega
  starts _ _ _ _ := trivial

theorem directive_reads : Reads directive Directive.Written (Free ['(']) where
  takes item before after written free := by
    obtain ⟨name, arguments, inner, _, named, enclosed⟩ := written
    have closing : Refuses (entryRule value) (.mark ')' :: after) := refuses_bind _ (mark_refuses_name ')' after rfl)
    obtain ⟨found, takes, same⟩ := optionally_takes _ _ _ _ (enclosed_takes entry_reads "(" ")" '(' ')' rfl rfl arguments
      inner after enclosed trivial closing (free '(' (by simp)))
    refine takes_bind (keyword_takes "@" (.mark '@') _ rfl) (takes_bind (name_takes name inner named) (takes_bind takes ?_))
    rw [← same]
    exact takes_pure _ after
  shorter item before after written := by
    obtain ⟨name, arguments, inner, _, named, enclosed⟩ := written
    have short := enclosed_shorter entry_reads '(' ')' arguments inner after enclosed
    simp only [List.length_cons]
    omega
  starts item before after written := by
    obtain ⟨name, arguments, inner, _, named, enclosed⟩ := written
    simp [Free, lead, front, Token.chars]

theorem settled_free (marks : List Char) (tokens : List Token) (settled : Settled tokens)
    (among : ∀ c ∈ marks, c ∈ ['@', '(', '=', '\x7b', '|', '&']) : Free marks tokens :=
  fun c member => settled c (among c member)

theorem directives_front (items : List Directive) (before after : List Token)
    (each : Each Directive.Written items before after) : front before = front after ∨ front before = ['@'] := by
  cases each with
  | nil => exact .inl rfl
  | cons item items _ middle _ first _ =>
      obtain ⟨name, arguments, inner, _, named, enclosed⟩ := first
      exact .inr rfl

theorem enclosed_front {α : Type} (Written : α → List Token → List Token → Prop) (first last : Char) (items : List α)
    (before after : List Token) (enclosed : Enclosed first last Written items before after) :
    front before = front after ∨ front before = [first] := by
  cases enclosed with
  | none => exact .inl rfl
  | some => exact .inr rfl

theorem directives_take (items : List Directive) (before after : List Token)
    (each : Each Directive.Written items before after) (free : Free ['@', '('] after) :
    Optionally directives before items after := by
  have absent : Refuses directive after := refuses_bind _ (lead_refuses "@" after rfl (free '@' (by simp)))
  cases items with
  | nil =>
      cases each
      exact .inl ⟨rfl, rfl, refuses_bind _ absent⟩
  | cons item items =>
      have single : Free ['('] after := fun c member => free c (List.mem_cons_of_mem _ member)
      exact .inr ⟨by simp, each_takes directive_reads _ before after (by simp) each single absent⟩

theorem maybe_directives_take (items : List Directive) (before after : List Token)
    (optionally : Optionally directives before items after) : Takes maybeDirectives before items after := by
  obtain ⟨found, takes, rfl⟩ := optionally_takes _ _ _ _ optionally
  exact takes_map (·.getD []) takes

theorem described_takes (name : String) (before more : List Token) (named : isName name)
    (described : Described before (.word name.toList :: more)) :
    ∃ found, Takes description before found (.word name.toList :: more) := by
  cases described with
  | none => exact ⟨none, takes_none (word_refuses name more named).2⟩
  | some tail _ good => exact ⟨some (), takes_some (string_takes tail _ good)⟩

theorem described_settled (name : String) (before more : List Token) (named : isName name)
    (described : Described before (.word name.toList :: more)) : Settled before := by
  obtain ⟨first, start, letter⟩ := word_lead name more named
  cases described with
  | none =>
      intro c member found
      obtain rfl : c = first := Option.some.inj (found.symm.trans start)
      simp only [List.mem_cons, List.not_mem_nil, or_false] at member
      rcases member with rfl | rfl | rfl | rfl | rfl | rfl <;> exact absurd letter (by decide)
  | some tail _ good => simp [Settled, Free, lead, front, Token.chars]

theorem described_shorter (before after : List Token) (described : Described before after) :
    after.length ≤ before.length := by
  cases described with
  | none => exact Nat.le_refl _
  | some tail => simp

theorem named_refuses {α : Type} (next : String → Rule α) (c : Char) (more : List Token) (marked : isMark c) :
    Refuses (do let _ ← description; let key ← name; next key) (.mark c :: more) := by
  have noString := (mark_refuses c more marked).2.1
  exact refuses_after (takes_none noString) (refuses_bind _ (mark_refuses_name c more marked))

theorem default_takes (default : Option ConstValue) (before after : List Token) (written : DefaultWritten default before after)
    (free : lead after ≠ some '=') : Takes (maybe (do keyword "="; value)) before default after := by
  cases written with
  | none => exact takes_none (refuses_bind _ (lead_refuses "=" before rfl free))
  | some constant inner _ written =>
      exact takes_some (takes_bind (keyword_takes "=" (.mark '=') inner rfl)
        (constant_reads.takes constant inner after written trivial))

theorem default_shorter (default : Option ConstValue) (before after : List Token)
    (written : DefaultWritten default before after) : after.length ≤ before.length := by
  cases written with
  | none => exact Nat.le_refl _
  | some constant inner _ written =>
      have short := constant_reads.shorter constant inner after written
      simp only [List.length_cons]
      omega

theorem input_reads : Reads inputValue InputValue.Written Settled where
  takes item before after written settled := by
    obtain ⟨name, type, default, items, _, behind, middle, _, described, named, proper, defaulted, each⟩ := written
    obtain ⟨found, description⟩ := described_takes name before _ named described
    have free : lead middle ≠ some '=' := by
      rcases directives_front items middle after each with same | same
      · rw [lead, same]
        exact settled '=' (by simp)
      · simp [lead, same]
    have plain := settled_free ['@', '('] after settled (by simp)
    refine takes_bind description (takes_bind (name_takes name _ named) ?_)
    refine takes_bind (keyword_takes ":" (.mark ':') _ rfl) (takes_bind (type_takes type behind proper) ?_)
    refine takes_bind (default_takes default behind middle defaulted free) ?_
    exact takes_bind (maybe_directives_take items middle after (directives_take items middle after each plain))
      (takes_pure _ after)
  shorter item before after written := by
    obtain ⟨name, type, default, items, _, behind, middle, _, described, named, proper, defaulted, each⟩ := written
    have first := described_shorter before _ described
    have second := default_shorter default behind middle defaulted
    have third := each_shorter directive_reads items middle after each
    simp only [List.length_cons] at first
    omega
  starts item before after written := by
    obtain ⟨name, type, default, items, _, behind, middle, _, described, named, proper, defaulted, each⟩ := written
    exact described_settled name before _ named described

theorem arguments_take (items : List InputValue) (before after : List Token)
    (enclosed : Enclosed '(' ')' InputValue.Written items before after) (free : lead after ≠ some '(') :
    Optionally arguments before items after :=
  enclosed_takes input_reads "(" ")" '(' ')' rfl rfl items before after enclosed
    (by simp [Settled, Free, lead, front, Token.chars]) (named_refuses _ ')' after rfl) free

theorem field_reads : Reads field Field.Written Settled where
  takes item before after written settled := by
    obtain ⟨name, items, type, directives, _, behind, middle, _, described, named, enclosed, proper, each⟩ := written
    obtain ⟨found, description⟩ := described_takes name before _ named described
    obtain ⟨listed, arguments, same⟩ := optionally_takes _ _ _ _
      (arguments_take items behind _ enclosed (by simp [lead, front, Token.chars]))
    have plain := settled_free ['@', '('] after settled (by simp)
    refine takes_bind description (takes_bind (name_takes name _ named) (takes_bind arguments ?_))
    refine takes_bind (keyword_takes ":" (.mark ':') _ rfl) (takes_bind (type_takes type middle proper) ?_)
    refine takes_bind (maybe_directives_take directives middle after (directives_take directives middle after each plain)) ?_
    rw [← same]
    exact takes_pure _ after
  shorter item before after written := by
    obtain ⟨name, items, type, directives, _, behind, middle, _, described, named, enclosed, proper, each⟩ := written
    have first := described_shorter before _ described
    have second := enclosed_shorter input_reads '(' ')' items behind _ enclosed
    have third := each_shorter directive_reads directives middle after each
    simp only [List.length_cons] at first second
    omega
  starts item before after written := by
    obtain ⟨name, items, type, directives, _, behind, middle, _, described, named, enclosed, proper, each⟩ := written
    exact described_settled name before _ named described

end TypedQuery.Sdl

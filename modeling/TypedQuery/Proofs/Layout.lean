import TypedQuery.Proofs.Rendering
import TypedQuery.Sdl.Grammar

/-!
Schema documents as sequences of tokens, laid out in any way. A rule of the grammar takes some tokens
if it reads every layout of them; how rules are put together says which tokens they take and refuse.
-/

set_option autoImplicit false

namespace TypedQuery.Sdl

inductive Gap : List Char → Prop
  | nil : Gap []
  | blank (c : Char) (rest : List Char) : isIgnored c → Gap rest → Gap (c :: rest)
  | comment (text : List Char) (c : Char) (rest : List Char) :
      (∀ d ∈ text, isLineEnd d = false) → isLineEnd c → Gap rest → Gap ('#' :: (text ++ c :: rest))

-- A mark ends with its character and a quote at its closing mark. A word is any other token: a name, a type
-- or a number.
inductive Token where
  | mark (c : Char)
  | word (text : List Char)
  | quote (tail : List Char)

def Token.chars : Token → List Char
  | .mark c => [c]
  | .word text => text
  | .quote tail => '"' :: tail

def marks : List Char := ['\x7b', '\x7d', '(', ')', '[', ']', ':', '=', '|', '&', '@']

def isMark (c : Char) : Bool := marks.contains c

def isWordChar (c : Char) : Bool := isNameChar c || c = '.' || c = '!'

def StartsToken : List Char → Prop
  | [] => False
  | c :: _ => isIgnored c = false ∧ c ≠ '#'

def Token.Stands : Token → List Char → Prop
  | .mark c, _ => isMark c
  | .word text, rest => StartsToken text ∧ Leaves isWordChar rest
  | .quote _, rest => Leaves (· = '"') rest

instance (within : Char → Bool) : (text : List Char) → Decidable (Leaves within text)
  | [] => .isTrue trivial
  | _ :: _ => inferInstanceAs (Decidable (_ = false))

instance : (text : List Char) → Decidable (StartsToken text)
  | [] => .isFalse id
  | _ :: _ => inferInstanceAs (Decidable (_ ∧ _))

instance : (token : Token) → (rest : List Char) → Decidable (token.Stands rest)
  | .mark _, _ => inferInstanceAs (Decidable (_ = true))
  | .word _, _ => inferInstanceAs (Decidable (_ ∧ _))
  | .quote _, rest => inferInstanceAs (Decidable (Leaves _ rest))

-- A text is a layout of some tokens. The last comment may end with the text.
inductive Spells : List Token → List Char → Prop
  | blank (gap : List Char) : Gap gap → Spells [] gap
  | remark (gap comment : List Char) : Gap gap → (∀ c ∈ comment, isLineEnd c = false) → Spells [] (gap ++ '#' :: comment)
  | token (gap : List Char) (token : Token) (rest : List Char) (more : List Token) :
      Gap gap → token.Stands rest → Spells more rest → Spells (token :: more) (gap ++ (token.chars ++ rest))

theorem skip_comment (comment rest : List Char) (inside : ∀ c ∈ comment, isLineEnd c = false) :
    skipFrom true (comment ++ rest) = skipFrom true rest := by
  induction comment with
  | nil => rfl
  | cons c more ih =>
      rw [List.forall_mem_cons] at inside
      rw [List.cons_append, skipFrom, if_pos rfl, if_neg (by simp [inside.1])]
      exact ih inside.2

theorem skip_gap (gap rest : List Char) (blank : Gap gap) : skipFrom false (gap ++ rest) = skipFrom false rest := by
  induction blank with
  | nil => rfl
  | blank c more ignored _ ih =>
      rw [List.cons_append, skipFrom, if_neg (by simp), if_pos ignored]
      exact ih
  | comment text c more inside ends _ ih =>
      have start : skipFrom false ('#' :: (text ++ c :: (more ++ rest))) = skipFrom true (text ++ c :: (more ++ rest)) := by
        rw [skipFrom, if_neg (by simp), if_neg (by decide), if_pos rfl]
      rw [List.cons_append, List.append_assoc, List.cons_append, start, skip_comment text _ inside, skipFrom, if_pos rfl,
        if_pos ends]
      exact ih

theorem each_mark (holds : Char → Prop) [DecidablePred holds] (each : marks.all fun c => decide (holds c)) (c : Char)
    (marked : isMark c) : holds c :=
  of_decide_eq_true (List.all_eq_true.mp each c (List.contains_iff_mem.mp marked))

theorem starts_cons (text : List Char) (starts : StartsToken text) : ∃ c tail, text = c :: tail := by
  cases text with
  | nil => exact starts.elim
  | cons c tail => exact ⟨c, tail, rfl⟩

theorem mark_starts (c : Char) (marked : isMark c) : StartsToken [c] :=
  each_mark (fun c => StartsToken [c]) (by decide) c marked

theorem token_starts (token : Token) (rest : List Char) (stands : token.Stands rest) : StartsToken token.chars := by
  cases token with
  | mark c => exact mark_starts c stands
  | word text => exact stands.1
  | quote tail => exact ⟨by decide, by decide⟩

theorem skip_start (text rest : List Char) (starts : StartsToken text) : skipFrom false (text ++ rest) = text ++ rest := by
  cases text with
  | nil => exact starts.elim
  | cons c more =>
      obtain ⟨kept, plain⟩ := starts
      rw [List.cons_append, skipFrom, if_neg (by simp), if_neg (by simp [kept]), if_neg plain]

theorem spells_end (text : List Char) (spells : Spells [] text) : skipFrom false text = [] := by
  cases spells with
  | blank gap blank => simpa [skipFrom] using skip_gap text [] blank
  | remark gap comment blank inside =>
      have last : skipFrom true comment = [] := by simpa [skipFrom] using skip_comment comment [] inside
      rw [skip_gap gap _ blank, skipFrom, if_neg (by simp), if_neg (by decide), if_pos rfl, last]

theorem spells_token (token : Token) (more : List Token) (text : List Char) (spells : Spells (token :: more) text) :
    ∃ rest, skipFrom false text = token.chars ++ rest ∧ token.Stands rest ∧ Spells more rest := by
  cases spells with
  | token gap _ rest _ blank stands spelled =>
      refine ⟨rest, ?_, stands, spelled⟩
      rw [skip_gap gap _ blank]
      exact skip_start token.chars rest (token_starts token rest stands)

theorem spells_length (tokens : List Token) (text : List Char) (spells : Spells tokens text) :
    tokens.length ≤ text.length := by
  induction spells with
  | blank => exact Nat.zero_le _
  | remark => exact Nat.zero_le _
  | token gap token rest more _ stands _ ih =>
      obtain ⟨c, tail, chars⟩ := starts_cons _ (token_starts token rest stands)
      rw [chars]
      simp only [List.length_cons, List.length_append]
      omega

theorem spells_blank (c : Char) (tokens : List Token) (text : List Char) (ignored : isIgnored c)
    (spells : Spells tokens text) : Spells tokens (c :: text) := by
  cases spells with
  | blank _ blank => exact .blank _ (.blank c text ignored blank)
  | remark gap comment blank inside => exact .remark (c :: gap) comment (.blank c gap ignored blank) inside
  | token gap token rest more blank stands spells =>
      exact .token (c :: gap) token rest more (.blank c gap ignored blank) stands spells

theorem spells_mark (c : Char) (more : List Token) (rest : List Char) (marked : isMark c) (spells : Spells more rest) :
    Spells (.mark c :: more) (c :: rest) :=
  .token [] (.mark c) rest more .nil marked spells

theorem spells_word (word : List Char) (more : List Token) (rest : List Char) (starts : StartsToken word)
    (ends : Leaves isWordChar rest) (spells : Spells more rest) : Spells (.word word :: more) (word ++ rest) :=
  .token [] (.word word) rest more .nil ⟨starts, ends⟩ spells

theorem spaced_spelled (tokens more : List Token) (rest : List Char) (good : ∀ token ∈ tokens, token.Stands [' '])
    (spells : Spells more rest) : Spells (tokens ++ more) (tokens.flatMap (fun token => token.chars ++ [' ']) ++ rest) := by
  induction tokens with
  | nil => exact spells
  | cons token others ih =>
      rw [List.forall_mem_cons] at good
      have behind := spells_blank ' ' _ _ rfl (ih good.2)
      have stands : token.Stands (' ' :: (others.flatMap (fun token => token.chars ++ [' ']) ++ rest)) := by
        cases token <;> exact good.1
      simpa using Spells.token [] token _ _ .nil stands behind

section Rules

variable {α β : Type}

def Takes (rule : Rule α) (before : List Token) (value : α) (after : List Token) : Prop :=
  ∀ text, Spells before text → ∃ rest, rule.run text = some (value, rest) ∧ Spells after rest

def Refuses (rule : Rule α) (tokens : List Token) : Prop := ∀ text, Spells tokens text → rule.run text = none

theorem run_bind (rule : Rule α) (next : α → Rule β) (text : List Char) :
    (rule >>= next).run text = (rule.run text).bind fun result => (next result.1).run result.2 :=
  rfl

theorem run_map (rule : Rule α) (change : α → β) (text : List Char) :
    (change <$> rule).run text = (rule.run text).map fun result => (change result.1, result.2) := by
  change (rule.run text).bind _ = _
  cases rule.run text <;> rfl

theorem run_maybe (rule : Rule α) (text : List Char) :
    (Rule.maybe rule).run text = some ((rule.run text).elim (none, text) fun result => (some result.1, result.2)) := by
  change Option.orElse ((some <$> rule).run text) _ = _
  rw [run_map]
  cases rule.run text <;> rfl

theorem run_or (first second : Rule α) (text : List Char) :
    (first <|> second).run text = (first.run text).or (second.run text) := by
  change Option.orElse (first.run text) (fun _ => second.run text) = _
  cases first.run text <;> rfl

theorem takes_pure (value : α) (tokens : List Token) : Takes (pure value) tokens value tokens :=
  fun text spells => ⟨text, rfl, spells⟩

theorem takes_bind {rule : Rule α} {next : α → Rule β} {before middle after : List Token} {value : α} {result : β}
    (first : Takes rule before value middle) (second : Takes (next value) middle result after) :
    Takes (rule >>= next) before result after := by
  intro text spells
  obtain ⟨rest, run, spelled⟩ := first text spells
  obtain ⟨last, run', spelled'⟩ := second rest spelled
  exact ⟨last, by rw [run_bind, run]; exact run', spelled'⟩

theorem takes_map {rule : Rule α} (change : α → β) {before after : List Token} {value : α}
    (takes : Takes rule before value after) : Takes (change <$> rule) before (change value) after := by
  intro text spells
  obtain ⟨rest, run, spelled⟩ := takes text spells
  exact ⟨rest, by rw [run_map, run]; rfl, spelled⟩

theorem takes_left {first : Rule α} (second : Rule α) {before after : List Token} {value : α}
    (takes : Takes first before value after) : Takes (first <|> second) before value after := by
  intro text spells
  obtain ⟨rest, run, spelled⟩ := takes text spells
  exact ⟨rest, by rw [run_or, run, Option.some_or], spelled⟩

theorem takes_right {first second : Rule α} {before after : List Token} {value : α} (refuses : Refuses first before)
    (takes : Takes second before value after) : Takes (first <|> second) before value after := by
  intro text spells
  obtain ⟨rest, run, spelled⟩ := takes text spells
  exact ⟨rest, by rw [run_or, refuses text spells, run, Option.none_or], spelled⟩

theorem takes_some {rule : Rule α} {before after : List Token} {value : α} (takes : Takes rule before value after) :
    Takes (Rule.maybe rule) before (some value) after :=
  takes_left _ (takes_map _ takes)

theorem refuses_bind {rule : Rule α} (next : α → Rule β) {tokens : List Token} (refuses : Refuses rule tokens) :
    Refuses (rule >>= next) tokens := by
  intro text spells
  rw [run_bind, refuses text spells]
  rfl

theorem refuses_after {rule : Rule α} {next : α → Rule β} {before middle : List Token} {value : α}
    (takes : Takes rule before value middle) (refuses : Refuses (next value) middle) :
    Refuses (rule >>= next) before := by
  intro text spells
  obtain ⟨rest, run, spelled⟩ := takes text spells
  rw [run_bind, run]
  exact refuses rest spelled

theorem refuses_map {rule : Rule α} (change : α → β) {tokens : List Token} (refuses : Refuses rule tokens) :
    Refuses (change <$> rule) tokens := by
  intro text spells
  rw [run_map, refuses text spells]
  rfl

theorem refuses_or {first second : Rule α} {tokens : List Token} (refuses : Refuses first tokens)
    (refuses' : Refuses second tokens) : Refuses (first <|> second) tokens := by
  intro text spells
  rw [run_or, refuses text spells, refuses' text spells]
  rfl

theorem takes_none {rule : Rule α} {tokens : List Token} (refuses : Refuses rule tokens) :
    Takes (Rule.maybe rule) tokens none tokens :=
  takes_right (refuses_map _ refuses) (takes_pure none tokens)

inductive Steps (rule : Rule α) : List Token → List α → List Token → Prop
  | stop (tokens : List Token) : Refuses rule tokens → Steps rule tokens [] tokens
  | step (before middle after : List Token) (value : α) (values : List α) :
      Takes rule before value middle → middle.length < before.length → Steps rule middle values after →
      Steps rule before (value :: values) after

theorem takes_many_within {rule : Rule α} {before after : List Token} {values : List α}
    (steps : Steps rule before values after) (limit : Nat) (enough : before.length ≤ limit) :
    Takes (Rule.manyWithin rule limit) before values after := by
  induction steps generalizing limit with
  | stop tokens refuses =>
      cases limit with
      | zero => exact takes_pure [] tokens
      | succ limit => exact takes_right (refuses_bind _ refuses) (takes_pure [] tokens)
  | step before middle after value values first shorter _ ih =>
      cases limit with
      | zero => omega
      | succ limit =>
          refine takes_left _ (takes_bind first ?_)
          exact takes_bind (ih limit (by omega)) (takes_pure (value :: values) after)

theorem takes_many {rule : Rule α} {before after : List Token} {values : List α}
    (steps : Steps rule before values after) : Takes (Rule.many rule) before values after :=
  fun text spells => takes_many_within steps text.length (spells_length before text spells) text spells

theorem takes_many1 {rule : Rule α} {before middle after : List Token} {value : α} {values : List α}
    (first : Takes rule before value middle) (steps : Steps rule middle values after) :
    Takes (Rule.many1 rule) before (value :: values) after :=
  takes_bind first (takes_bind (takes_many steps) (takes_pure _ _))

end Rules

end TypedQuery.Sdl

import TypedQuery.Proofs.Grammar

/-!
Definitions and documents as the language writes them. A written document is read as it is written, in
every layout.
-/

set_option autoImplicit false

namespace TypedQuery.Sdl

open Rule

inductive Perhaps (token : Token) : List Token → List Token → Prop
  | absent (tokens : List Token) : Perhaps token tokens tokens
  | present (more : List Token) : Perhaps token (token :: more) more

inductive Marked (mark : Char) : String → List Token → List Token → Prop
  | name (text : String) (more : List Token) : isName text → Marked mark text (.mark mark :: .word text.toList :: more) more

inductive NamesBy (mark : Char) : List String → List Token → List Token → Prop
  | names (first : String) (others : List String) (before middle after : List Token) :
      Perhaps (.mark mark) before (.word first.toList :: middle) → isName first → Each (Marked mark) others middle after →
      NamesBy mark (first :: others) before after

inductive Announced (token : Token) (mark : Char) : List String → List Token → List Token → Prop
  | none (tokens : List Token) : Announced token mark [] tokens tokens
  | some (names : List String) (before after : List Token) : NamesBy mark names before after →
      Announced token mark names (token :: before) after

inductive ChoiceWritten : String × List Directive → List Token → List Token → Prop
  | choice (name : String) (directives : List Directive) (before middle after : List Token) :
      Described before (.word name.toList :: middle) → isChoice name → Each Directive.Written directives middle after →
      ChoiceWritten (name, directives) before after

def TypeBody.keyword : TypeBody → String
  | .scalar => "scalar"
  | .object _ _ => "type"
  | .interface _ _ => "interface"
  | .union _ => "union"
  | .enumeration _ => "enum"
  | .input _ => "input"

inductive TypeBody.Written : TypeBody → List Directive → List Token → List Token → Prop
  | scalar (directives : List Directive) (before after : List Token) : Each Directive.Written directives before after →
      TypeBody.Written .scalar directives before after
  | object (interfaces : List String) (fields : List Field) (directives : List Directive)
      (before middle behind after : List Token) : Announced (.word "implements".toList) '&' interfaces before middle →
      Each Directive.Written directives middle behind → Enclosed '\x7b' '\x7d' Field.Written fields behind after →
      TypeBody.Written (.object interfaces fields) directives before after
  | interface (interfaces : List String) (fields : List Field) (directives : List Directive)
      (before middle behind after : List Token) : Announced (.word "implements".toList) '&' interfaces before middle →
      Each Directive.Written directives middle behind → Enclosed '\x7b' '\x7d' Field.Written fields behind after →
      TypeBody.Written (.interface interfaces fields) directives before after
  | union (members : List String) (directives : List Directive) (before middle after : List Token) :
      Each Directive.Written directives before middle → Announced (.mark '=') '|' members middle after →
      TypeBody.Written (.union members) directives before after
  | enumeration (values : List (String × List Directive)) (directives : List Directive) (before middle after : List Token) :
      Each Directive.Written directives before middle → Enclosed '\x7b' '\x7d' ChoiceWritten values middle after →
      TypeBody.Written (.enumeration values) directives before after
  | input (fields : List InputValue) (directives : List Directive) (before middle after : List Token) :
      Each Directive.Written directives before middle → Enclosed '\x7b' '\x7d' InputValue.Written fields middle after →
      TypeBody.Written (.input fields) directives before after

def TypeBody.Extends (directives : List Directive) : TypeBody → Prop
  | .scalar => directives ≠ []
  | .object interfaces fields => interfaces ≠ [] ∨ directives ≠ [] ∨ fields ≠ []
  | .interface _ fields => directives ≠ [] ∨ fields ≠ []
  | .union members => directives ≠ [] ∨ members ≠ []
  | .enumeration values => directives ≠ [] ∨ values ≠ []
  | .input fields => directives ≠ [] ∨ fields ≠ []

inductive Opening (word : String) : Bool → List Token → List Token → Prop
  | definition (before after : List Token) : Described before (.word word.toList :: after) → Opening word false before after
  | extension (after : List Token) : Opening word true (.word "extend".toList :: .word word.toList :: after) after

inductive TypeDefinition.Written : TypeDefinition → List Token → List Token → Prop
  | type (extend : Bool) (name : String) (directives : List Directive) (body : TypeBody) (before behind after : List Token) :
      Opening body.keyword extend before (.word name.toList :: behind) → isName name →
      body.Written directives behind after → (extend = true → body.Extends directives) →
      TypeDefinition.Written ⟨extend, name, directives, body⟩ before after

inductive FurtherPlace : Unit → List Token → List Token → Prop
  | place (text : String) (more : List Token) :
      text ∈ locations → FurtherPlace () (.mark '|' :: .word text.toList :: more) more

-- Types and directives. Schema blocks are left to their own rules.
inductive Definition.Written : Definition → List Token → List Token → Prop
  | type (definition : TypeDefinition) (before after : List Token) : definition.Written before after →
      Definition.Written (.type definition) before after
  | directive (name place : String) (arguments : List InputValue) (others : List Unit)
      (before behind repeatable places more after : List Token) :
      Opening "directive" false before (.mark '@' :: .word name.toList :: behind) → isName name →
      Enclosed '(' ')' InputValue.Written arguments behind repeatable →
      Perhaps (.word "repeatable".toList) repeatable (.word "on".toList :: places) →
      Perhaps (.mark '|') places (.word place.toList :: more) → place ∈ locations → Each FurtherPlace others more after →
      Definition.Written (.directive name arguments) before after

theorem perhaps_takes (text : String) (token : Token) (same : token.chars = text.toList) (before after : List Token)
    (perhaps : Perhaps token before after) (absent : Refuses (keyword text) after) :
    ∃ found, Takes (maybe (keyword text)) before found after := by
  cases perhaps with
  | absent => exact ⟨none, takes_none absent⟩
  | present => exact ⟨some (), takes_some (keyword_takes text token after same)⟩

theorem word_free (name : String) (more : List Token) (named : isName name) (c : Char) (outside : isNameStart c = false) :
    lead (.word name.toList :: more) ≠ some c := by
  obtain ⟨first, start, letter⟩ := word_lead name more named
  intro found
  rw [Option.some.inj (found.symm.trans start)] at outside
  exact ne_true_of_eq_false outside letter

theorem marked_reads (text : String) (mark : Char) (same : text.toList = [mark]) :
    Reads (do keyword text; name) (Marked mark) fun _ => True where
  takes item before after written _ := by
    obtain ⟨_, named⟩ := written
    exact takes_bind (keyword_takes text (.mark mark) _ same.symm) (name_takes item after named)
  shorter item before after written := by
    obtain ⟨_, named⟩ := written
    simp only [List.length_cons]
    omega
  starts _ _ _ _ := trivial

theorem names_take (text : String) (mark : Char) (same : text.toList = [mark]) (outside : isNameStart mark = false)
    (names : List String) (before after : List Token) (written : NamesBy mark names before after)
    (free : lead after ≠ some mark) : Takes (namesBy text) before names after := by
  obtain ⟨first, others, _, middle, _, perhaps, named, each⟩ := written
  have keywordRefuses (tokens : List Token) (apart : lead tokens ≠ some mark) : Refuses (keyword text) tokens :=
    lead_refuses text tokens (by simp [isKeyword, same]) (by simpa [same] using apart)
  obtain ⟨found, takes⟩ := perhaps_takes text (.mark mark) same.symm before _ perhaps
    (keywordRefuses _ (word_free first middle named mark outside))
  obtain ⟨steps, _⟩ := each_steps (marked_reads text mark same) others middle after each trivial
    (refuses_bind _ (keywordRefuses after free))
  exact takes_bind takes (takes_bind (name_takes first middle named) (takes_bind (takes_many steps) (takes_pure _ after)))

theorem announced_takes (word text : String) (token : Token) (mark : Char) (spelled : token.chars = word.toList)
    (same : text.toList = [mark]) (outside : isNameStart mark = false) (names : List String) (before after : List Token)
    (announced : Announced token mark names before after) (absent : Refuses (keyword word) after)
    (free : lead after ≠ some mark) : Optionally (do keyword word; namesBy text) before names after := by
  cases announced with
  | none => exact .inl ⟨rfl, rfl, refuses_bind _ absent⟩
  | some _ inner _ written =>
      refine .inr ⟨?_, takes_bind (keyword_takes word token inner spelled) (names_take text mark same outside names inner after
        written free)⟩
      obtain ⟨first, others, _, _, _, _, _, _⟩ := written
      simp

section Extensions

variable {α : Type}

theorem optionally_none (rule : Rule (List α)) (before after : List Token) (items : List α)
    (optionally : Optionally rule before items after) (free : items = []) : before = after ∧ Refuses rule after := by
  rcases optionally with ⟨_, same, refuses⟩ | ⟨nonempty, _⟩
  · exact ⟨same, refuses⟩
  · exact absurd free nonempty

theorem extension_takes (body : Rule (List α)) (directives : List Directive) (values : List α)
    (before middle after : List Token) (directed : Optionally Sdl.directives before directives middle)
    (bodied : Optionally body middle values after) (adds : directives ≠ [] ∨ values ≠ []) :
    Takes (extension [] body) before (directives, values) after := by
  have first := maybe_directives_take directives before middle directed
  rcases bodied with ⟨rfl, rfl, refuses⟩ | ⟨_, takes⟩
  · have nonempty : directives ≠ [] := adds.resolve_right (fun absent => absent rfl)
    rcases directed with ⟨empty, _⟩ | ⟨_, alone⟩
    · exact absurd empty nonempty
    · exact takes_right (refuses_after first (refuses_bind _ refuses)) (takes_bind alone (takes_pure _ middle))
  · exact takes_left _ (takes_bind first (takes_bind takes (takes_pure _ after)))

theorem extension_refuses (body : Rule (List α)) (tokens : List Token) (undirected : Refuses directives tokens)
    (refuses : Refuses body tokens) : Refuses (extension [] body) tokens := by
  have none : Takes maybeDirectives tokens [] tokens := maybe_directives_take [] tokens tokens (.inl ⟨rfl, rfl, undirected⟩)
  exact refuses_or (refuses_after none (refuses_bind _ refuses)) (refuses_bind _ undirected)

def opened (word : String) (definition extension : Rule α) : Rule α :=
  (do
    let _ ← description
    keyword word
    definition)
  <|> (do
    keyword "extend"
    keyword word
    extension)

-- The words that begin definitions. None of them is the beginning of another one.
def openings : List String := ["schema", "scalar", "type", "interface", "union", "enum", "input", "directive"]

theorem opening_word (word : String) (opens : word ∈ openings) :
    isKeyword word.toList ∧ isName word ∧ ¬ word.toList <+: "extend".toList ∧ ¬ "extend".toList <+: word.toList := by
  have each : ∀ word ∈ openings, isKeyword word.toList ∧ isName word ∧ ¬ word.toList <+: "extend".toList ∧
      ¬ "extend".toList <+: word.toList := by
    decide
  exact each word opens

theorem openings_apart (word other : String) (opens : word ∈ openings) (opens' : other ∈ openings) (apart : other ≠ word) :
    ¬ other.toList <+: word.toList := by
  have each : ∀ word ∈ openings, ∀ other ∈ openings, other ≠ word → ¬ other.toList <+: word.toList := by decide
  exact each word opens other opens' apart

theorem opening_refuses (word other : String) (opens : word ∈ openings) (opens' : other ∈ openings) (apart : other ≠ word)
    (extend : Bool) (before after : List Token) (opening : Opening word extend before after) (next : Rule α) :
    Refuses (keyword other) before ∧ Refuses (do keyword "extend"; keyword other; next) before := by
  obtain ⟨_, named, _, notExtend⟩ := opening_word word opens
  obtain ⟨plain, otherNamed, noExtend, _⟩ := opening_word other opens'
  have noWord (more : List Token) : Refuses (keyword other) (.word word.toList :: more) :=
    keyword_refuses other _ plain (openings_apart word other opens opens' apart)
  cases opening with
  | definition _ _ described =>
      cases described with
      | none => exact ⟨noWord _, refuses_bind _ (keyword_refuses "extend" _ rfl notExtend)⟩
      | some tail _ _ =>
          have noName (name : String) (named : isName name) (plain : isKeyword name.toList) :
              Refuses (keyword name) (.quote tail :: .word word.toList :: after) := by
            obtain ⟨first, rest, text, start⟩ := name_head name named
            apply lead_refuses name _ plain
            rw [text]
            rintro same
            obtain rfl : '"' = first := Option.some.inj same
            exact absurd start (by decide)
          exact ⟨noName other otherNamed plain, refuses_bind _ (noName "extend" rfl rfl)⟩
  | extension =>
      refine ⟨keyword_refuses other _ plain noExtend, ?_⟩
      exact refuses_after (keyword_takes "extend" (.word "extend".toList) _ rfl) (refuses_bind _ (noWord after))

theorem opening_undescribed (word : String) (named : isName word) (extend : Bool) (before after : List Token)
    (opening : Opening word extend before after) :
    ∃ found middle, Takes description before found middle ∧ (middle = .word word.toList :: after ∨
      middle = .word "extend".toList :: .word word.toList :: after) := by
  cases opening with
  | definition _ _ described =>
      obtain ⟨found, takes⟩ := described_takes word before after named described
      exact ⟨found, _, takes, .inl rfl⟩
  | extension => exact ⟨none, _, takes_none (word_refuses "extend" _ rfl).2, .inr rfl⟩

theorem opened_refuses (word other : String) (opens : word ∈ openings) (opens' : other ∈ openings) (apart : other ≠ word)
    (extend : Bool) (before after : List Token) (opening : Opening word extend before after) (definition extension : Rule α) :
    Refuses (opened other definition extension) before := by
  obtain ⟨plain, _, noExtend, _⟩ := opening_word other opens'
  obtain ⟨found, middle, takes, next⟩ := opening_undescribed word (opening_word word opens).2.1 extend before after opening
  refine refuses_or (refuses_after takes (refuses_bind _ (keyword_refuses other middle plain ?_)))
    (opening_refuses word other opens opens' apart extend before after opening extension).2
  rcases next with rfl | rfl
  · exact openings_apart word other opens opens' apart
  · exact noExtend

theorem opened_takes (word : String) (opens : word ∈ openings) (extend : Bool) (before behind after : List Token)
    (opening : Opening word extend before behind) (definition extension : Rule α) (value : α)
    (takes : Takes (if extend then extension else definition) behind value after) :
    Takes (opened word definition extension) before value after := by
  obtain ⟨plain, named, noExtend, _⟩ := opening_word word opens
  cases opening with
  | definition _ _ described =>
      obtain ⟨found, first⟩ := described_takes word before behind named described
      exact takes_left _ (takes_bind first (takes_bind (keyword_takes word (.word word.toList) behind rfl) takes))
  | extension =>
      have first : Takes description (.word "extend".toList :: .word word.toList :: behind) none _ :=
        takes_none (word_refuses "extend" _ rfl).2
      refine takes_right (refuses_after first (refuses_bind _ (keyword_refuses word _ plain noExtend))) ?_
      exact takes_bind (keyword_takes "extend" (.word "extend".toList) _ rfl)
        (takes_bind (keyword_takes word (.word word.toList) behind rfl) takes)

def listed (word : String) (body : Rule (List α)) (make : List α → TypeBody) : Rule TypeDefinition :=
  opened word
    (do
      let type ← name
      let directives ← maybeDirectives
      let values ← maybe body
      pure ⟨false, type, directives, make (values.getD [])⟩)
    (do
      let type ← name
      let (directives, values) ← extension [] body
      pure ⟨true, type, directives, make values⟩)

theorem listed_takes (word : String) (opens : word ∈ openings) (body : Rule (List α)) (make : List α → TypeBody)
    (extend : Bool) (name : String) (directives : List Directive) (values : List α) (before behind middle after : List Token)
    (opening : Opening word extend before (.word name.toList :: behind)) (named : isName name)
    (directed : Optionally Sdl.directives behind directives middle) (bodied : Optionally body middle values after)
    (adds : extend = true → directives ≠ [] ∨ values ≠ []) :
    Takes (listed word body make) before ⟨extend, name, directives, make values⟩ after := by
  refine opened_takes word opens extend before _ after opening _ _ _ ?_
  cases extend with
  | false =>
      obtain ⟨found, takes, rfl⟩ := optionally_takes body middle after values bodied
      refine takes_bind (name_takes name behind named) ?_
      exact takes_bind (maybe_directives_take directives behind middle directed) (takes_bind takes (takes_pure _ after))
  | true =>
      refine takes_bind (name_takes name behind named) ?_
      exact takes_bind (extension_takes body directives values behind middle after directed bodied (adds rfl))
        (takes_pure _ after)

end Extensions

def composite (make : List String → List Field → TypeBody) : Rule TypeDefinition := do
  let type ← name
  let interfaces ← maybe interfaces
  let directives ← maybeDirectives
  let fields ← maybe fields
  pure ⟨false, type, directives, make (interfaces.getD []) (fields.getD [])⟩

theorem composite_takes (make : List String → List Field → TypeBody) (type : String) (names : List String)
    (directives : List Directive) (fields : List Field) (before middle behind after : List Token) (named : isName type)
    (announced : Optionally interfaces before names middle) (directed : Optionally Sdl.directives middle directives behind)
    (bodied : Optionally Sdl.fields behind fields after) :
    Takes (composite make) (.word type.toList :: before) ⟨false, type, directives, make names fields⟩ after := by
  obtain ⟨_, first, rfl⟩ := optionally_takes interfaces before middle names announced
  obtain ⟨_, last, rfl⟩ := optionally_takes Sdl.fields behind after fields bodied
  refine takes_bind (name_takes type before named) (takes_bind first ?_)
  exact takes_bind (maybe_directives_take directives middle behind directed) (takes_bind last (takes_pure _ after))

def Opens (tokens : List Token) : Prop := Settled tokens ∧ ¬ "implements".toList <+: front tokens

theorem fields_take (items : List Field) (before after : List Token)
    (enclosed : Enclosed '\x7b' '\x7d' Field.Written items before after) (free : lead after ≠ some '\x7b') :
    Optionally fields before items after :=
  enclosed_takes field_reads "\x7b" "\x7d" '\x7b' '\x7d' rfl rfl items before after enclosed
    (by simp [Settled, Free, lead, front, Token.chars]) (named_refuses _ '\x7d' after rfl) free

theorem composite_parts (names : List String) (directives : List Directive) (fields : List Field)
    (before middle behind after : List Token) (announced : Announced (.word "implements".toList) '&' names before middle)
    (each : Each Directive.Written directives middle behind)
    (enclosed : Enclosed '\x7b' '\x7d' Field.Written fields behind after)
    (opens : Opens after) :
    Optionally interfaces before names middle ∧ Optionally Sdl.directives middle directives behind ∧
      Optionally Sdl.fields behind fields after := by
  obtain ⟨settled, unannounced⟩ := opens
  have fronts := directives_front directives middle behind each
  have ends := enclosed_front _ _ _ fields behind after enclosed
  have plain : Free ['@', '('] behind := by
    rcases ends with same | same
    · intro c member
      rw [lead, same]
      exact settled_free ['@', '('] after settled (by simp) c member
    · simp [Free, lead, same]
  have reached : front middle = front after ∨ front middle = ['\x7b'] ∨ front middle = ['@'] := by
    rcases fronts with same | same
    · rw [same]
      exact ends.imp_right .inl
    · exact .inr (.inr same)
  have absent : Refuses (keyword "implements") middle := by
    apply keyword_refuses "implements" middle rfl
    rcases reached with same | same | same <;> rw [same]
    · exact unannounced
    · decide
    · decide
  have free : lead middle ≠ some '&' := by
    rw [lead]
    rcases reached with same | same | same <;> rw [same]
    · exact settled '&' (by simp)
    · decide
    · decide
  exact ⟨announced_takes "implements" "&" (.word "implements".toList) '&' rfl rfl rfl names before middle announced absent free,
    directives_take directives middle behind each plain, fields_take fields behind after enclosed (settled '\x7b' (by simp))⟩

theorem scalar_takes (extend : Bool) (type : String) (directives : List Directive) (before behind after : List Token)
    (opening : Opening "scalar" extend before (.word type.toList :: behind)) (named : isName type)
    (directed : Optionally Sdl.directives behind directives after) (adds : extend = true → directives ≠ []) :
    Takes scalarType before ⟨extend, type, directives, .scalar⟩ after := by
  refine opened_takes "scalar" (by decide) extend before _ after opening _ _ _ ?_
  cases extend with
  | false =>
      refine takes_bind (name_takes type behind named) ?_
      exact takes_bind (maybe_directives_take directives behind after directed) (takes_pure _ after)
  | true =>
      rcases directed with ⟨empty, _⟩ | ⟨_, takes⟩
      · exact absurd empty (adds rfl)
      · exact takes_bind (name_takes type behind named) (takes_bind takes (takes_pure _ after))

theorem object_takes (extend : Bool) (type : String) (names : List String) (directives : List Directive) (fields : List Field)
    (before start middle behind after : List Token) (opening : Opening "type" extend before (.word type.toList :: start))
    (named : isName type) (announced : Optionally interfaces start names middle)
    (directed : Optionally Sdl.directives middle directives behind) (bodied : Optionally Sdl.fields behind fields after)
    (adds : extend = true → names ≠ [] ∨ directives ≠ [] ∨ fields ≠ []) :
    Takes objectType before ⟨extend, type, directives, .object names fields⟩ after := by
  refine opened_takes "type" (by decide) extend before _ after opening _ _ _ ?_
  cases extend with
  | false =>
      exact composite_takes .object type names directives fields start middle behind after named announced directed bodied
  | true =>
      refine takes_bind (name_takes type start named) ?_
      obtain ⟨found, first, same⟩ := optionally_takes interfaces start middle names announced
      rcases Decidable.em (directives = [] ∧ fields = []) with ⟨undirected, bare⟩ | more
      · -- Interfaces alone.
        obtain ⟨rfl, noDirectives⟩ := optionally_none _ _ _ _ directed undirected
        obtain ⟨rfl, noFields⟩ := optionally_none _ _ _ _ bodied bare
        rcases announced with ⟨empty, _⟩ | ⟨_, alone⟩
        · exact absurd (adds rfl) (by simp [empty, undirected, bare])
        · rw [undirected, bare]
          refine takes_right (refuses_after first (refuses_bind _ (extension_refuses _ _ noDirectives noFields))) ?_
          exact takes_bind alone (takes_pure _ _)
      · have adding : directives ≠ [] ∨ fields ≠ [] := by
          rcases Decidable.em (directives = []) with undirected | directed
          · exact .inr fun bare => more ⟨undirected, bare⟩
          · exact .inl directed
        refine takes_left _ (takes_bind first ?_)
        rw [← same]
        exact takes_bind (extension_takes _ directives fields middle behind after directed bodied adding) (takes_pure _ after)

theorem interface_takes (extend : Bool) (type : String) (names : List String) (directives : List Directive)
    (fields : List Field) (before start middle behind after : List Token)
    (opening : Opening "interface" extend before (.word type.toList :: start)) (named : isName type)
    (announced : Optionally interfaces start names middle) (directed : Optionally Sdl.directives middle directives behind)
    (bodied : Optionally Sdl.fields behind fields after) (adds : extend = true → directives ≠ [] ∨ fields ≠ []) :
    Takes interfaceType before ⟨extend, type, directives, .interface names fields⟩ after := by
  refine opened_takes "interface" (by decide) extend before _ after opening _ _ _ ?_
  cases extend with
  | false =>
      exact composite_takes .interface type names directives fields start middle behind after named announced directed bodied
  | true =>
      obtain ⟨found, first, rfl⟩ := optionally_takes interfaces start middle names announced
      refine takes_bind (name_takes type start named) (takes_bind first ?_)
      exact takes_bind (extension_takes _ directives fields middle behind after directed bodied (adds rfl)) (takes_pure _ after)

theorem enum_value_reads :
    Reads (do let _ ← description; let value ← enumValue; let items ← maybeDirectives; pure (value, items))
    ChoiceWritten Settled where
  takes item before after written settled := by
    obtain ⟨name, directives, _, middle, _, described, choice, each⟩ := written
    obtain ⟨found, description⟩ := described_takes name before middle (Bool.and_eq_true_iff.mp choice).1 described
    have plain := settled_free ['@', '('] after settled (by simp)
    refine takes_bind description (takes_bind (enum_value_takes name middle choice) ?_)
    exact takes_bind (maybe_directives_take directives middle after (directives_take directives middle after each plain))
      (takes_pure _ after)
  shorter item before after written := by
    obtain ⟨name, directives, _, middle, _, described, choice, each⟩ := written
    have first := described_shorter before _ described
    have second := each_shorter directive_reads directives middle after each
    simp only [List.length_cons] at first
    omega
  starts item before after written := by
    obtain ⟨name, directives, _, middle, _, described, choice, each⟩ := written
    exact described_settled name before middle (Bool.and_eq_true_iff.mp choice).1 described

theorem choices_take (items : List (String × List Directive)) (before after : List Token)
    (enclosed : Enclosed '\x7b' '\x7d' ChoiceWritten items before after) (free : lead after ≠ some '\x7b') :
    Optionally enumValues before items after := by
  have closing : Refuses enumValue (.mark '\x7d' :: after) := (mark_refuses '\x7d' after rfl).2.2.2.2.2
  have noString : Refuses string (.mark '\x7d' :: after) := (mark_refuses '\x7d' after rfl).2.1
  exact enclosed_takes enum_value_reads "\x7b" "\x7d" '\x7b' '\x7d' rfl rfl items before after enclosed
    (by simp [Settled, Free, lead, front, Token.chars]) (refuses_after (takes_none noString) (refuses_bind _ closing)) free

theorem input_fields_take (items : List InputValue) (before after : List Token)
    (enclosed : Enclosed '\x7b' '\x7d' InputValue.Written items before after) (free : lead after ≠ some '\x7b') :
    Optionally inputFields before items after :=
  enclosed_takes input_reads "\x7b" "\x7d" '\x7b' '\x7d' rfl rfl items before after enclosed
    (by simp [Settled, Free, lead, front, Token.chars]) (named_refuses _ '\x7d' after rfl) free

theorem listed_directives (directives : List Directive) (before middle after : List Token) (opening : Char)
    (each : Each Directive.Written directives before middle) (opens : Opens after) (other : opening ≠ '@' ∧ opening ≠ '(')
    (ends : front middle = front after ∨ front middle = [opening]) : Optionally Sdl.directives before directives middle := by
  apply directives_take directives before middle each
  intro c member
  rw [lead]
  rcases ends with same | same <;> rw [same]
  · exact settled_free ['@', '('] after opens.1 (by simp) c member
  · simp only [List.mem_cons, List.not_mem_nil, or_false] at member
    rcases member with rfl | rfl
    · simpa using other.1
    · simpa using other.2

theorem members_take (names : List String) (before after : List Token)
    (announced : Announced (.mark '=') '|' names before after) (settled : Settled after) :
    Optionally members before names after := by
  have absent : Refuses (keyword "=") after := lead_refuses "=" after rfl (settled '=' (by simp))
  exact announced_takes "=" "|" (.mark '=') '|' rfl rfl rfl names before after announced absent (settled '|' (by simp))

theorem announced_front (token : Token) (mark : Char) (names : List String) (before after : List Token)
    (announced : Announced token mark names before after) : front before = front after ∨ front before = token.chars := by
  cases announced with
  | none => exact .inl rfl
  | some => exact .inr rfl

theorem written_type_takes (definition : TypeDefinition) (before after : List Token) (written : definition.Written before after)
    (opens : Opens after) : Takes typeDefinition before definition after := by
  obtain ⟨extend, type, directives, body, _, start, _, opening, named, body, adds⟩ := written
  have braced := opens.1 '\x7b' (by simp)
  cases body with
  | scalar _ _ _ each =>
      have directed := directives_take directives start after each (settled_free ['@', '('] after opens.1 (by simp))
      exact takes_left _ (scalar_takes extend type directives before start after opening named directed adds)
  | object names fields _ _ middle behind _ announced each enclosed =>
      obtain ⟨first, second, third⟩ :=
        composite_parts names directives fields start middle behind after announced each enclosed opens
      have refuses (other : String) (opens' : other ∈ openings) (apart : other ≠ "type") :=
        @opened_refuses TypeDefinition "type" other (by decide) opens' apart extend before _ opening
      refine takes_right (refuses "scalar" (by decide) (by decide) _ _) (takes_left _ ?_)
      exact object_takes extend type names directives fields before start middle behind after opening named
        first second third adds
  | interface names fields _ _ middle behind _ announced each enclosed =>
      obtain ⟨first, second, third⟩ :=
        composite_parts names directives fields start middle behind after announced each enclosed opens
      have refuses (other : String) (opens' : other ∈ openings) (apart : other ≠ "interface") :=
        @opened_refuses TypeDefinition "interface" other (by decide) opens' apart extend before _ opening
      refine takes_right (refuses "scalar" (by decide) (by decide) _ _) ?_
      refine takes_right (refuses "type" (by decide) (by decide) _ _) (takes_left _ ?_)
      exact interface_takes extend type names directives fields before start middle behind after opening named
        first second third adds
  | union names _ _ middle _ each announced =>
      have directed := listed_directives directives start middle after '=' each opens (by decide)
        (announced_front _ _ names middle after announced)
      have refuses (other : String) (opens' : other ∈ openings) (apart : other ≠ "union") :=
        @opened_refuses TypeDefinition "union" other (by decide) opens' apart extend before _ opening
      refine takes_right (refuses "scalar" (by decide) (by decide) _ _) ?_
      refine takes_right (refuses "type" (by decide) (by decide) _ _) ?_
      refine takes_right (refuses "interface" (by decide) (by decide) _ _) (takes_left _ ?_)
      exact listed_takes "union" (by decide) members .union extend type directives names before start middle after opening named
        directed (members_take names middle after announced opens.1) adds
  | enumeration values _ _ middle _ each enclosed =>
      have directed := listed_directives directives start middle after '\x7b' each opens (by decide)
        (enclosed_front _ _ _ values middle after enclosed)
      have refuses (other : String) (opens' : other ∈ openings) (apart : other ≠ "enum") :=
        @opened_refuses TypeDefinition "enum" other (by decide) opens' apart extend before _ opening
      refine takes_right (refuses "scalar" (by decide) (by decide) _ _) ?_
      refine takes_right (refuses "type" (by decide) (by decide) _ _) ?_
      refine takes_right (refuses "interface" (by decide) (by decide) _ _) ?_
      refine takes_right (refuses "union" (by decide) (by decide) _ _) (takes_left _ ?_)
      exact listed_takes "enum" (by decide) enumValues .enumeration extend type directives values before start middle after
        opening named directed (choices_take values middle after enclosed braced) adds
  | input fields _ _ middle _ each enclosed =>
      have directed := listed_directives directives start middle after '\x7b' each opens (by decide)
        (enclosed_front _ _ _ fields middle after enclosed)
      have refuses (other : String) (opens' : other ∈ openings) (apart : other ≠ "input") :=
        @opened_refuses TypeDefinition "input" other (by decide) opens' apart extend before _ opening
      refine takes_right (refuses "scalar" (by decide) (by decide) _ _) ?_
      refine takes_right (refuses "type" (by decide) (by decide) _ _) ?_
      refine takes_right (refuses "interface" (by decide) (by decide) _ _) ?_
      refine takes_right (refuses "union" (by decide) (by decide) _ _) ?_
      refine takes_right (refuses "enum" (by decide) (by decide) _ _) ?_
      exact listed_takes "input" (by decide) inputFields .input extend type directives fields before start middle after opening
        named directed (input_fields_take fields middle after enclosed braced) adds

-- The places are tried in an order in which none is the beginning of a later one.
theorem place_takes (places : List String) (ordered : places.Pairwise fun first second => ¬ first.toList <+: second.toList)
    (plain : ∀ text ∈ places, isKeyword text.toList) (place : String) (member : place ∈ places) (more : List Token) :
    Takes (places.foldr (fun text rest => keyword text <|> rest) failure) (.word place.toList :: more) () more := by
  induction places with
  | nil => cases member
  | cons first others ih =>
      rw [List.pairwise_cons] at ordered
      rw [List.forall_mem_cons] at plain
      rcases List.mem_cons.mp member with rfl | later
      · exact takes_left _ (keyword_takes place (.word place.toList) more rfl)
      · exact takes_right (keyword_refuses first _ plain.1 (ordered.1 place later)) (ih ordered.2 plain.2 later)

theorem location_takes (place : String) (member : place ∈ locations) (more : List Token) :
    Takes location (.word place.toList :: more) () more :=
  place_takes locations (by decide) (by decide) place member more

theorem location_named (place : String) (member : place ∈ locations) : isName place := by
  have each : ∀ place ∈ locations, isName place := by decide
  exact each place member

theorem further_place_reads : Reads (do keyword "|"; location) FurtherPlace fun _ => True where
  takes item before after written _ := by
    obtain ⟨place, _, member⟩ := written
    exact takes_bind (keyword_takes "|" (.mark '|') _ rfl) (location_takes place member after)
  shorter item before after written := by
    obtain ⟨place, _, member⟩ := written
    simp only [List.length_cons]
    omega
  starts _ _ _ _ := trivial

theorem directive_definition_takes (name place : String) (items : List InputValue) (others : List Unit)
    (before behind repeatable places more after : List Token)
    (opening : Opening "directive" false before (.mark '@' :: .word name.toList :: behind)) (named : isName name)
    (enclosed : Enclosed '(' ')' InputValue.Written items behind repeatable)
    (again : Perhaps (.word "repeatable".toList) repeatable (.word "on".toList :: places))
    (mark : Perhaps (.mark '|') places (.word place.toList :: more)) (member : place ∈ locations)
    (each : Each FurtherPlace others more after) (free : lead after ≠ some '|') :
    Takes directiveDefinition before (.directive name items) after := by
  cases opening with
  | definition _ _ described =>
      obtain ⟨_, description⟩ := described_takes "directive" before _ rfl described
      have noArguments : lead repeatable ≠ some '(' := by cases again <;> simp [lead, front, Token.chars]
      obtain ⟨_, arguments, rfl⟩ := optionally_takes _ _ _ _ (arguments_take items behind repeatable enclosed noArguments)
      have once : Refuses (keyword "repeatable") (.word "on".toList :: places) :=
        lead_refuses "repeatable" _ rfl (by simp [lead, front, Token.chars])
      obtain ⟨_, repeats⟩ := perhaps_takes "repeatable" (.word "repeatable".toList) rfl repeatable _ again once
      have noMark : Refuses (keyword "|") (.word place.toList :: more) :=
        lead_refuses "|" _ rfl (word_free place more (location_named place member) '|' rfl)
      obtain ⟨_, marks⟩ := perhaps_takes "|" (.mark '|') rfl places _ mark noMark
      have done : Refuses (keyword "|") after := lead_refuses "|" after rfl free
      obtain ⟨steps, _⟩ := each_steps further_place_reads others more after each trivial (refuses_bind _ done)
      refine takes_bind description (takes_bind (keyword_takes "directive" (.word "directive".toList) _ rfl) ?_)
      refine takes_bind (keyword_takes "@" (.mark '@') _ rfl) (takes_bind (name_takes name behind named) ?_)
      refine takes_bind arguments (takes_bind repeats (takes_bind (keyword_takes "on" (.word "on".toList) places rfl) ?_))
      refine takes_bind marks (takes_bind (location_takes place member more) (takes_bind (takes_many steps) ?_))
      exact takes_pure _ after

theorem keyword_opens (body : TypeBody) : body.keyword ∈ openings := by
  cases body <;> simp [TypeBody.keyword, openings]

theorem opening_opens (word : String) (opens : word ∈ openings) (extend : Bool) (before after : List Token)
    (opening : Opening word extend before after) : Opens before := by
  have named := (opening_word word opens).2.1
  have apart : ∀ word ∈ openings, ¬ "implements".toList <+: word.toList := by decide
  cases opening with
  | definition _ _ described =>
      refine ⟨described_settled word before after named described, ?_⟩
      cases described with
      | none => exact apart word opens
      | some tail => simp [front, Token.chars]
  | extension =>
      exact ⟨described_settled "extend" _ _ rfl (.none _), (by decide : ¬ "implements".toList <+: "extend".toList)⟩

theorem opening_shorter (word : String) (extend : Bool) (before after : List Token)
    (opening : Opening word extend before after) :
    after.length < before.length := by
  cases opening with
  | definition _ _ described =>
      have short := described_shorter before _ described
      simp only [List.length_cons] at short
      omega
  | extension =>
      simp only [List.length_cons]
      omega

theorem perhaps_shorter (token : Token) (before after : List Token) (perhaps : Perhaps token before after) :
    after.length ≤ before.length := by
  cases perhaps <;> simp

theorem announced_shorter (token : Token) (mark : Char) (text : String) (same : text.toList = [mark]) (names : List String)
    (before after : List Token) (announced : Announced token mark names before after) : after.length ≤ before.length := by
  cases announced with
  | none => exact Nat.le_refl _
  | some _ inner _ written =>
      obtain ⟨first, others, _, middle, _, perhaps, _, each⟩ := written
      have first := perhaps_shorter _ inner _ perhaps
      have second := each_shorter (marked_reads text mark same) others middle after each
      simp only [List.length_cons] at first ⊢
      omega

theorem body_shorter (body : TypeBody) (directives : List Directive) (before after : List Token)
    (written : body.Written directives before after) : after.length ≤ before.length := by
  cases written with
  | scalar _ _ _ each => exact each_shorter directive_reads directives before after each
  | object names fields _ _ middle behind _ announced each enclosed =>
      have first := announced_shorter _ '&' "&" rfl names before middle announced
      have second := each_shorter directive_reads directives middle behind each
      exact Nat.le_trans (enclosed_shorter field_reads _ _ fields behind after enclosed) (Nat.le_trans second first)
  | interface names fields _ _ middle behind _ announced each enclosed =>
      have first := announced_shorter _ '&' "&" rfl names before middle announced
      have second := each_shorter directive_reads directives middle behind each
      exact Nat.le_trans (enclosed_shorter field_reads _ _ fields behind after enclosed) (Nat.le_trans second first)
  | union names _ _ middle _ each announced =>
      exact Nat.le_trans (announced_shorter _ '|' "|" rfl names middle after announced)
        (each_shorter directive_reads directives before middle each)
  | enumeration values _ _ middle _ each enclosed =>
      exact Nat.le_trans (enclosed_shorter enum_value_reads _ _ values middle after enclosed)
        (each_shorter directive_reads directives before middle each)
  | input fields _ _ middle _ each enclosed =>
      exact Nat.le_trans (enclosed_shorter input_reads _ _ fields middle after enclosed)
        (each_shorter directive_reads directives before middle each)

theorem type_refuses (before after : List Token) (opening : Opening "directive" false before after) :
    Refuses typeDefinition before := by
  have refuses (other : String) (opens' : other ∈ openings) (apart : other ≠ "directive") :=
    @opened_refuses TypeDefinition "directive" other (by decide) opens' apart false before after opening
  refine refuses_or (refuses "scalar" (by decide) (by decide) _ _) (refuses_or (refuses "type" (by decide) (by decide) _ _) ?_)
  refine refuses_or (refuses "interface" (by decide) (by decide) _ _) ?_
  refine refuses_or (refuses "union" (by decide) (by decide) _ _) ?_
  exact refuses_or (refuses "enum" (by decide) (by decide) _ _) (refuses "input" (by decide) (by decide) _ _)

theorem block_refuses (word : String) (opens : word ∈ openings) (apart : "schema" ≠ word) (extend : Bool)
    (before after : List Token) (opening : Opening word extend before after) : Refuses schemaBlock before := by
  obtain ⟨first, second⟩ := opening_refuses word "schema" opens (by decide) apart extend before after opening
    ((do let directives ← maybeDirectives; let roots ← roots; pure (SchemaBlock.mk true directives roots))
      <|> (do let directives ← directives; pure ⟨true, directives, []⟩))
  exact refuses_or (refuses_bind _ first) second

theorem definition_reads : Reads definition Definition.Written Opens where
  takes item before after written opens := by
    cases written with
    | type definition _ _ written =>
        have takes := written_type_takes definition before after written opens
        obtain ⟨extend, type, directives, body, _, start, _, opening, named, _, _⟩ := written
        have apart : "schema" ≠ body.keyword := by cases body <;> simp [TypeBody.keyword]
        have noBlock := block_refuses body.keyword (keyword_opens body) apart extend before _ opening
        exact takes_right (refuses_map _ noBlock) (takes_left _ (takes_map _ takes))
    | directive name place items others _ behind repeatable places more _ opening named enclosed again mark member each =>
        refine takes_right (refuses_map _ (block_refuses "directive" (by decide) (by decide) false before _ opening)) ?_
        refine takes_right (refuses_map _ (type_refuses before _ opening)) ?_
        exact directive_definition_takes name place items others before behind repeatable places more after opening named
          enclosed again mark member each (opens.1 '|' (by simp))
  shorter item before after written := by
    cases written with
    | type definition _ _ written =>
        obtain ⟨extend, type, directives, body, _, start, _, opening, named, body, adds⟩ := written
        have first := opening_shorter _ extend before _ opening
        have second := body_shorter _ directives start after body
        simp only [List.length_cons] at first
        omega
    | directive name place items others _ behind repeatable places more _ opening named enclosed again mark member each =>
        have first := opening_shorter _ false before _ opening
        have second := enclosed_shorter input_reads _ _ items behind repeatable enclosed
        have third := perhaps_shorter _ repeatable _ again
        have fourth := perhaps_shorter _ places _ mark
        have fifth := each_shorter further_place_reads others more after each
        simp only [List.length_cons] at first third fourth
        omega
  starts item before after written := by
    cases written with
    | type definition _ _ written =>
        obtain ⟨extend, type, directives, body, _, start, _, opening, named, body, adds⟩ := written
        exact opening_opens _ (keyword_opens _) extend before _ opening
    | directive name place items others _ behind repeatable places more _ opening =>
        exact opening_opens _ (by decide) false before _ opening

theorem no_definition : Refuses definition [] := by
  have noKeyword (text : String) (plain : isKeyword text.toList) : Refuses (keyword text) [] := by
    apply lead_refuses text [] plain
    cases chars : text.toList with
    | nil => rw [chars] at plain; cases plain
    | cons c rest => exact nofun
  have undescribed : Takes description [] none [] := takes_none (string_refuses [] nofun)
  have noType (word : String) (opens : word ∈ openings) (definition extension : Rule TypeDefinition) :
      Refuses (opened word definition extension) [] :=
    refuses_or (refuses_after undescribed (refuses_bind _ (noKeyword word (opening_word word opens).1)))
      (refuses_bind _ (noKeyword "extend" rfl))
  refine refuses_or (refuses_map _ (refuses_or (refuses_bind _ (noKeyword "schema" rfl))
    (refuses_bind _ (noKeyword "extend" rfl)))) (refuses_or (refuses_map _ ?_) ?_)
  · refine refuses_or (noType "scalar" (by decide) _ _) (refuses_or (noType "type" (by decide) _ _) ?_)
    refine refuses_or (noType "interface" (by decide) _ _) (refuses_or (noType "union" (by decide) _ _) ?_)
    exact refuses_or (noType "enum" (by decide) _ _) (noType "input" (by decide) _ _)
  · exact refuses_after undescribed (refuses_bind _ (noKeyword "directive" rfl))

theorem document_read (document : Document) (tokens : List Token) (text : List Char) (nonempty : document ≠ [])
    (each : Each Definition.Written document tokens []) (spells : Spells tokens text) :
    Sdl.document.run text = some (document, []) := by
  have ends : Opens [] := ⟨nofun, by decide⟩
  have takes := each_takes definition_reads document tokens [] nonempty each ends no_definition
  obtain ⟨rest, run, blank⟩ := takes text spells
  rw [Sdl.document, run_bind, run]
  change StateT.run (if (skipFrom false rest).isEmpty then pure document else failure) (skipFrom false rest) = _
  rw [spells_end rest blank]
  rfl

end TypedQuery.Sdl

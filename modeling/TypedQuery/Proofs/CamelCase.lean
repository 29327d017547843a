import Mathlib.Data.List.SplitBy
import TypedQuery.Proofs.Lookup
import TypedQuery.Proofs.Naming
import TypedQuery.Proofs.Rendering

/-!
Mapped names of fields. Names of words keep apart what they name, since each gives its words back at
its capitals. Of any ASCII name only the case of letters and the underscores are lost, and a mapped
name is mapped to itself.
-/

set_option autoImplicit false

namespace TypedQuery

namespace Naming

def isWord : List Char → Bool
  | [] => false
  | first :: rest => first.isLower && rest.all fun c => c.isLower || c.isDigit

def snake (words : List (List Char)) : String := String.ofList (List.intercalate ['_'] words)

def Snake (name : String) : Prop := ∃ words, words ≠ [] ∧ (∀ word ∈ words, isWord word) ∧ snake words = name

def together (_ next : Char) : Bool := !next.isUpper

-- The parts of a name, each but the first beginning at a capital, in small letters.
def wordsOf (name : String) : List (List Char) :=
  (name.toList.splitBy together).map (List.map Char.toLower)

def shown (started raise : Bool) (c : Char) : Char :=
  if !started then c.toLower else if raise then c.toUpper else c

def capitalized : List Char → List Char
  | [] => []
  | first :: rest => first.toUpper :: rest

end Naming

def Text.Ascii (text : List Char) : Prop := ∀ c ∈ text, c.toNat < 128

instance (text : List Char) : Decidable (Text.Ascii text) := List.decidableBAll (fun c : Char => c.toNat < 128) text

section Characters

theorem camel_underscore (started raise : Bool) (rest : List Char) :
    Naming.camelFrom started raise ('_' :: rest) = Naming.camelFrom started started rest := by
  rw [Naming.camelFrom, if_pos rfl]

theorem camel_shown (started raise : Bool) (c : Char) (rest : List Char) (ascii : c.toNat < 128) (kept : c ≠ '_') :
    Naming.camelFrom started raise (c :: rest) = Naming.shown started raise c :: Naming.camelFrom true false rest := by
  obtain ⟨lower, upper⟩ := ascii_case c ascii
  rw [Naming.camelFrom, if_neg kept, lower, upper, Naming.shown]
  cases started <;> cases raise <;> rfl

structure Text.Cased (c : Char) : Prop where
  lowerAscii : c.toLower.toNat < 128
  upperAscii : c.toUpper.toNat < 128
  lowerKept : c ≠ '_' → c.toLower ≠ '_'
  upperKept : c ≠ '_' → c.toUpper ≠ '_'
  lowerLower : c.toLower.toLower = c.toLower
  upperLower : c.toUpper.toLower = c.toLower
  lowerSmall : c.toLower.isUpper = false
  smallLower : c.isUpper = false → c.toLower = c

instance (c : Char) : Decidable (Text.Cased c) :=
  decidable_of_iff (_ ∧ _ ∧ _ ∧ _ ∧ _ ∧ _ ∧ _ ∧ _)
    ⟨fun ⟨a, b, c, d, e, f, g, h⟩ => ⟨a, b, c, d, e, f, g, h⟩,
      fun ⟨a, b, c, d, e, f, g, h⟩ => ⟨a, b, c, d, e, f, g, h⟩⟩

theorem ascii_cased (c : Char) (ascii : c.toNat < 128) : Text.Cased c :=
  ascii_property Text.Cased (by decide +kernel) c ascii

theorem shown_ascii (started raise : Bool) (c : Char) (ascii : c.toNat < 128) :
    (Naming.shown started raise c).toNat < 128 := by
  have cased := ascii_cased c ascii
  cases started <;> cases raise
  · exact cased.lowerAscii
  · exact cased.lowerAscii
  · exact ascii
  · exact cased.upperAscii

theorem shown_kept (started raise : Bool) (c : Char) (ascii : c.toNat < 128) (kept : c ≠ '_') :
    Naming.shown started raise c ≠ '_' := by
  have cased := ascii_cased c ascii
  cases started <;> cases raise
  · exact cased.lowerKept kept
  · exact cased.lowerKept kept
  · exact kept
  · exact cased.upperKept kept

theorem shown_lower (started raise : Bool) (c : Char) (ascii : c.toNat < 128) :
    (Naming.shown started raise c).toLower = c.toLower := by
  have cased := ascii_cased c ascii
  cases started <;> cases raise
  · exact cased.lowerLower
  · exact cased.lowerLower
  · rfl
  · exact cased.upperLower

end Characters

section Ascii

theorem camel_ascii (text : List Char) (ascii : Text.Ascii text) (started raise : Bool) :
    Text.Ascii (Naming.camelFrom started raise text) ∧ '_' ∉ Naming.camelFrom started raise text ∧
      (Naming.camelFrom started raise text).map Char.toLower = (text.filter (· ≠ '_')).map Char.toLower := by
  induction text generalizing started raise with
  | nil => simp [Naming.camelFrom, Text.Ascii]
  | cons c rest ih =>
      obtain ⟨own, others⟩ := List.forall_mem_cons.mp ascii
      by_cases same : c = '_'
      · subst same
        rw [camel_underscore]
        simpa using ih others started started
      · obtain ⟨later, clean, lower⟩ := ih others true false
        rw [camel_shown started raise c rest own same]
        refine ⟨List.forall_mem_cons.mpr ⟨shown_ascii started raise c own, later⟩, ?_, ?_⟩
        · exact List.not_mem_cons_of_ne_of_not_mem (shown_kept started raise c own same).symm clean
        · rw [List.map_cons, lower, shown_lower started raise c own, List.filter_cons_of_pos (by simpa using same),
            List.map_cons]

theorem camel_head (text : List Char) (ascii : Text.Ascii text) (raise : Bool) (c : Char)
    (first : (Naming.camelFrom false raise text).head? = some c) : c.isUpper = false := by
  induction text generalizing raise with
  | nil => simp [Naming.camelFrom] at first
  | cons d rest ih =>
      obtain ⟨own, others⟩ := List.forall_mem_cons.mp ascii
      by_cases same : d = '_'
      · subst same
        rw [camel_underscore] at first
        exact ih others false first
      · rw [camel_shown false raise d rest own same] at first
        obtain rfl : d.toLower = c := by simpa [Naming.shown] using first
        exact (ascii_cased d own).lowerSmall

theorem camel_plain (text rest : List Char) (ascii : Text.Ascii text) (clean : '_' ∉ text) :
    Naming.camelFrom true false (text ++ rest) = text ++ Naming.camelFrom true false rest := by
  induction text with
  | nil => rfl
  | cons c more ih =>
      obtain ⟨own, others⟩ := List.forall_mem_cons.mp ascii
      rw [List.mem_cons, not_or] at clean
      rw [List.cons_append, camel_shown true false c _ own (Ne.symm clean.1), ih others clean.2]
      rfl

theorem camel_fixed (text : List Char) (ascii : Text.Ascii text) (clean : '_' ∉ text)
    (small : ∀ c, text.head? = some c → c.isUpper = false) : Naming.camelFrom false false text = text := by
  cases text with
  | nil => rfl
  | cons c rest =>
      obtain ⟨own, others⟩ := List.forall_mem_cons.mp ascii
      rw [List.mem_cons, not_or] at clean
      have same := camel_plain rest [] others clean.2
      rw [List.append_nil, Naming.camelFrom, List.append_nil] at same
      rw [camel_shown false false c rest own (Ne.symm clean.1), same]
      exact congrArg (· :: rest) ((ascii_cased c own).smallLower (small c rfl))

end Ascii

section Words

theorem word_ascii (c : Char) (inside : c.isLower || c.isDigit) : c.toNat < 128 := by
  delta Char.isLower at inside
  simp only [Char.isDigit, Bool.or_eq_true, Bool.and_eq_true, decide_eq_true_eq, ge_iff_le,
    UInt32.le_iff_toNat_le] at inside
  change (97 ≤ c.toNat ∧ c.toNat ≤ 122) ∨ (48 ≤ c.toNat ∧ c.toNat ≤ 57) at inside
  omega

theorem word_char (c : Char) (inside : c.isLower || c.isDigit) :
    c ≠ '_' ∧ c.isUpper = false ∧ c.toLower = c ∧ Sdl.isNameChar c :=
  ascii_property
    (fun c => c.isLower || c.isDigit → c ≠ '_' ∧ c.isUpper = false ∧ c.toLower = c ∧ Sdl.isNameChar c)
    (by decide +kernel) c (word_ascii c inside) inside

theorem letter_char (c : Char) (small : c.isLower) :
    Sdl.isNameStart c ∧ c.toUpper.isUpper ∧ c.toUpper.toLower = c ∧ Sdl.isNameChar c.toUpper :=
  ascii_property
    (fun c => c.isLower → Sdl.isNameStart c ∧ c.toUpper.isUpper ∧ c.toUpper.toLower = c ∧ Sdl.isNameChar c.toUpper)
    (by decide +kernel) c (word_ascii c (by simp [small])) small

theorem word_chars (first : Char) (rest : List Char) (word : Naming.isWord (first :: rest)) :
    first.isLower ∧ ∀ c ∈ first :: rest, c.isLower || c.isDigit := by
  simp only [Naming.isWord, Bool.and_eq_true, List.all_eq_true] at word
  exact ⟨word.1, List.forall_mem_cons.mpr ⟨by simp [word.1], word.2⟩⟩

theorem word_plain (word : List Char) (named : Naming.isWord word) : Text.Ascii word ∧ '_' ∉ word := by
  cases word with
  | nil => exact nomatch named
  | cons first rest =>
      have inside := (word_chars first rest named).2
      exact ⟨fun c member => word_ascii c (inside c member), fun member => (word_char '_' (inside '_' member)).1 rfl⟩

theorem word_written (word rest : List Char) (named : Naming.isWord word) :
    Naming.camelFrom true false ('_' :: (word ++ rest)) = Naming.capitalized word ++ Naming.camelFrom true false rest := by
  obtain ⟨ascii, clean⟩ := word_plain word named
  cases word with
  | nil => exact nomatch named
  | cons first more =>
      obtain ⟨own, others⟩ := List.forall_mem_cons.mp ascii
      rw [List.mem_cons, not_or] at clean
      rw [camel_underscore, List.cons_append, camel_shown true true first _ own (Ne.symm clean.1),
        camel_plain more rest others clean.2]
      rfl

theorem words_written (words : List (List Char)) (each : ∀ word ∈ words, Naming.isWord word) :
    Naming.camelFrom true false (words.flatMap ('_' :: ·)) = words.flatMap Naming.capitalized := by
  induction words with
  | nil => rfl
  | cons word rest ih =>
      obtain ⟨own, others⟩ := List.forall_mem_cons.mp each
      rw [List.flatMap_cons, List.flatMap_cons, List.cons_append, word_written word _ own, ih others]

theorem snake_joined (first : List Char) (rest : List (List Char)) :
    List.intercalate ['_'] (first :: rest) = first ++ rest.flatMap ('_' :: ·) := by
  induction rest generalizing first with
  | nil => simp
  | cons next rest ih => rw [List.intercalate_cons_cons, ih, List.flatMap_cons, List.append_assoc]; rfl

theorem snake_mapped (first : List Char) (rest : List (List Char))
    (each : ∀ word ∈ first :: rest, Naming.isWord word) :
    (Naming.lowerCamelCase.apply (Naming.snake (first :: rest))).toList = first ++ rest.flatMap Naming.capitalized := by
  obtain ⟨own, others⟩ := List.forall_mem_cons.mp each
  obtain ⟨ascii, clean⟩ := word_plain first own
  rw [Naming.apply, Naming.snake, String.toList_ofList, String.toList_ofList, snake_joined, ← words_written rest others]
  cases first with
  | nil => cases own
  | cons c more =>
      obtain ⟨small, _⟩ := word_chars c more own
      obtain ⟨ascii, later⟩ := List.forall_mem_cons.mp ascii
      rw [List.mem_cons, not_or] at clean
      rw [List.cons_append, camel_shown false false c _ ascii (Ne.symm clean.1), camel_plain more _ later clean.2]
      exact congrArg (· :: _) (word_char c (by simp [small])).2.2.1

theorem part_whole (first : Char) (rest : List Char) (small : ∀ c ∈ rest, c.isUpper = false) :
    (first :: rest).splitBy Naming.together = [first :: rest] := by
  refine List.splitBy_of_isChain (List.cons_ne_nil _ _) (List.Pairwise.isChain ?_)
  refine List.pairwise_cons.mpr ⟨fun c member => by simp [Naming.together, small c member], ?_⟩
  exact List.pairwise_of_forall_mem_list fun _ _ c member => by simp [Naming.together, small c member]

-- Each word is a part of its own, since a capital begins the next one and none stands within it.
theorem parts_split (first : Char) (more : List Char) (rest : List (List Char))
    (small : ∀ c ∈ more, c.isUpper = false) (each : ∀ word ∈ rest, Naming.isWord word) :
    ((first :: more) ++ rest.flatMap Naming.capitalized).splitBy Naming.together =
      (first :: more) :: rest.map Naming.capitalized := by
  induction rest generalizing first more with
  | nil => simpa using part_whole first more small
  | cons word rest ih =>
      obtain ⟨own, others⟩ := List.forall_mem_cons.mp each
      cases word with
      | nil => exact nomatch own
      | cons c tail =>
          obtain ⟨letter, inside⟩ := word_chars c tail own
          have later := ih c.toUpper tail (fun d member => (word_char d (inside d (List.mem_cons_of_mem _ member))).2.1) others
          have apart : ∀ d ∈ (first :: more).getLast?, Naming.together d c.toUpper = false :=
            fun _ _ => by simp [Naming.together, (letter_char c letter).2.1]
          have split := List.splitBy_append_cons (tail ++ rest.flatMap Naming.capitalized) apart
          rw [part_whole first more small] at split
          exact split.trans (congrArg ((first :: more) :: ·) later)

theorem word_lowered (word : List Char) (named : Naming.isWord word) :
    word.map Char.toLower = word ∧ (Naming.capitalized word).map Char.toLower = word := by
  cases word with
  | nil => exact nomatch named
  | cons first rest =>
      obtain ⟨letter, inside⟩ := word_chars first rest named
      have same (c : Char) (member : c ∈ first :: rest) : c.toLower = c := (word_char c (inside c member)).2.2.1
      have whole : (first :: rest).map Char.toLower = first :: rest := by
        simpa using List.map_congr_left same
      refine ⟨whole, ?_⟩
      rw [Naming.capitalized, List.map_cons, (letter_char first letter).2.2.1]
      exact congrArg (first :: ·) (List.cons.inj whole).2

theorem words_recovered (words : List (List Char)) (any : words ≠ []) (each : ∀ word ∈ words, Naming.isWord word) :
    Naming.wordsOf (Naming.lowerCamelCase.apply (Naming.snake words)) = words := by
  cases words with
  | nil => exact absurd rfl any
  | cons word rest =>
      obtain ⟨own, others⟩ := List.forall_mem_cons.mp each
      rw [Naming.wordsOf, snake_mapped word rest each]
      cases word with
      | nil => exact nomatch own
      | cons c tail =>
          have inside := (word_chars c tail own).2
          have small (d : Char) (member : d ∈ tail) := (word_char d (inside d (List.mem_cons_of_mem _ member))).2.1
          rw [parts_split c tail rest small others, List.map_cons, (word_lowered _ own).1, List.map_map]
          have back : rest.map (List.map Char.toLower ∘ Naming.capitalized) = rest.map id :=
            List.map_congr_left fun word member => (word_lowered word (others word member)).2
          rw [back, List.map_id]

theorem capitalized_named (word : List Char) (named : Naming.isWord word) :
    ∀ c ∈ Naming.capitalized word, Sdl.isNameChar c := by
  cases word with
  | nil => exact nofun
  | cons first rest =>
      obtain ⟨letter, inside⟩ := word_chars first rest named
      refine List.forall_mem_cons.mpr ⟨(letter_char first letter).2.2.2, fun c member => ?_⟩
      exact (word_char c (inside c (List.mem_cons_of_mem _ member))).2.2.2

theorem words_named (words : List (List Char)) (any : words ≠ []) (each : ∀ word ∈ words, Naming.isWord word) :
    Sdl.isName (Naming.lowerCamelCase.apply (Naming.snake words)) := by
  cases words with
  | nil => exact absurd rfl any
  | cons word rest =>
      obtain ⟨own, others⟩ := List.forall_mem_cons.mp each
      rw [Sdl.isName, snake_mapped word rest each]
      cases word with
      | nil => exact nomatch own
      | cons c tail =>
          obtain ⟨letter, inside⟩ := word_chars c tail own
          simp only [List.cons_append, Bool.and_eq_true, List.all_eq_true, List.mem_append, List.mem_flatMap]
          refine ⟨(letter_char c letter).1, ?_⟩
          rintro d (member | ⟨other, among, within⟩)
          · exact (word_char d (inside d (List.mem_cons_of_mem _ member))).2.2.2
          · exact capitalized_named other (others other among) d within

end Words

theorem snake_injective (first second : String) (snake : Naming.Snake first) (snake' : Naming.Snake second)
    (same : Naming.lowerCamelCase.apply first = Naming.lowerCamelCase.apply second) : first = second := by
  obtain ⟨words, any, each, rfl⟩ := snake
  obtain ⟨words', any', each', rfl⟩ := snake'
  rw [← words_recovered words any each, same, words_recovered words' any' each']

theorem snake_ascii (name : String) (snake : Naming.Snake name) : Text.Ascii name.toList := by
  obtain ⟨words, any, each, rfl⟩ := snake
  rw [Naming.snake, String.toList_ofList]
  cases words with
  | nil => exact absurd rfl any
  | cons first rest =>
      obtain ⟨own, others⟩ := List.forall_mem_cons.mp each
      intro c member
      rw [snake_joined, List.mem_append, List.mem_flatMap] at member
      rcases member with member | ⟨word, among, within⟩
      · exact (word_plain first own).1 c member
      · rcases List.mem_cons.mp within with rfl | inside
        · decide
        · exact (word_plain word (others word among)).1 c inside

theorem snake_field_found (descriptor : ModelDescriptor) (naming : descriptor.naming = .lowerCamelCase)
    (distinct : (descriptor.fields.map (·.name)).Nodup)
    (each : ∀ field ∈ descriptor.fields, field.rename = none ∧ Naming.Snake field.name) (field : ModelField)
    (member : field ∈ descriptor.fields) :
    descriptor.field? (field.mappedName descriptor.naming) = some field := by
  have plain (other : ModelField) (among : other ∈ descriptor.fields) :
      other.mappedName descriptor.naming = Naming.lowerCamelCase.apply other.name := by
    rw [ModelField.mappedName, (each other among).1, naming]
    rfl
  refine find_named (·.mappedName descriptor.naming) descriptor.fields ?_ field member
  rw [List.map_congr_left plain, ← Function.comp_def, ← List.map_map]
  refine List.Nodup.map_on ?_ distinct
  simp only [List.mem_map, forall_exists_index, and_imp, forall_apply_eq_imp_iff₂]
  intro first there second there'
  exact snake_injective _ _ (each first there).2 (each second there').2

theorem mapped_ascii (raw : String) (ascii : Text.Ascii raw.toList) :
    Text.Ascii (Naming.lowerCamelCase.apply raw).toList ∧ '_' ∉ (Naming.lowerCamelCase.apply raw).toList ∧
      (Naming.lowerCamelCase.apply raw).toList.map Char.toLower = (raw.toList.filter (· ≠ '_')).map Char.toLower ∧
      ∀ c, (Naming.lowerCamelCase.apply raw).toList.head? = some c → c.isUpper = false := by
  obtain ⟨kept, clean, lower⟩ := camel_ascii raw.toList ascii false false
  rw [Naming.apply, String.toList_ofList]
  exact ⟨kept, clean, lower, camel_head raw.toList ascii false⟩

theorem mapped_again (raw : String) (ascii : Text.Ascii raw.toList) :
    Naming.lowerCamelCase.apply (Naming.lowerCamelCase.apply raw) = Naming.lowerCamelCase.apply raw := by
  obtain ⟨kept, clean, _, small⟩ := mapped_ascii raw ascii
  have fixed := camel_fixed _ kept clean small
  exact (congrArg String.ofList fixed).trans String.ofList_toList

theorem mapped_names_keep_apart :
    (∀ words, words ≠ [] → (∀ word ∈ words, Naming.isWord word) →
      Naming.wordsOf (Naming.lowerCamelCase.apply (Naming.snake words)) = words) ∧
    (∀ name, Naming.Snake name → Sdl.isName (Naming.lowerCamelCase.apply name) ∧
      '_' ∉ (Naming.lowerCamelCase.apply name).toList) ∧
    (∀ first second, Naming.Snake first → Naming.Snake second →
      Naming.lowerCamelCase.apply first = Naming.lowerCamelCase.apply second → first = second) ∧
    (∀ descriptor : ModelDescriptor, descriptor.naming = .lowerCamelCase →
      (descriptor.fields.map (·.name)).Nodup →
      (∀ field ∈ descriptor.fields, field.rename = none ∧ Naming.Snake field.name) →
      ∀ field ∈ descriptor.fields, descriptor.field? (field.mappedName descriptor.naming) = some field) ∧
    ∀ raw : String, Text.Ascii raw.toList →
      '_' ∉ (Naming.lowerCamelCase.apply raw).toList ∧
      (Naming.lowerCamelCase.apply raw).toList.map Char.toLower = (raw.toList.filter (· ≠ '_')).map Char.toLower ∧
      (∀ c, (Naming.lowerCamelCase.apply raw).toList.head? = some c → c.isUpper = false) ∧
      Naming.lowerCamelCase.apply (Naming.lowerCamelCase.apply raw) = Naming.lowerCamelCase.apply raw := by
  refine ⟨words_recovered, ?_, snake_injective, snake_field_found, ?_⟩
  · intro name snake
    refine ⟨?_, (mapped_ascii name (snake_ascii name snake)).2.1⟩
    obtain ⟨words, any, each, rfl⟩ := snake
    exact words_named words any each
  · intro raw ascii
    obtain ⟨_, clean, lower, small⟩ := mapped_ascii raw ascii
    exact ⟨clean, lower, small, mapped_again raw ascii⟩

def storageModel : ModelDescriptor :=
  ⟨"Instance", .lowerCamelCase, [⟨"storage_gb2", none, .scalar .int⟩, ⟨"storagegb2", none, .scalar .float⟩]⟩

theorem storage_names_apart :
    Naming.wordsOf (Naming.lowerCamelCase.apply "storage_gb2") = ["storage".toList, "gb2".toList] ∧
      Sdl.isName (Naming.lowerCamelCase.apply "storage_gb2") ∧
      Naming.lowerCamelCase.apply "storage_gb2" ≠ Naming.lowerCamelCase.apply "storagegb2" ∧
      storageModel.field? "storageGb2" = some ⟨"storage_gb2", none, .scalar .int⟩ ∧
      Naming.lowerCamelCase.apply (Naming.lowerCamelCase.apply "__An__INT_9a_") =
        Naming.lowerCamelCase.apply "__An__INT_9a_" := by
  obtain ⟨recovered, named, apart, found, every⟩ := mapped_names_keep_apart
  have words : ∀ word ∈ ["storage".toList, "gb2".toList], Naming.isWord word := by decide
  have written : Naming.snake ["storage".toList, "gb2".toList] = "storage_gb2" := by decide
  have joined : Naming.Snake "storage_gb2" := ⟨_, List.cons_ne_nil _ _, words, written⟩
  have single : Naming.Snake "storagegb2" := ⟨["storagegb2".toList], List.cons_ne_nil _ _, by decide, by decide⟩
  have mapped : ModelField.mappedName ⟨"storage_gb2", none, .scalar .int⟩ storageModel.naming = "storageGb2" := by
    decide +kernel
  refine ⟨?_, (named _ joined).1, ?_, ?_, (every "__An__INT_9a_" (by decide)).2.2.2⟩
  · rw [← written]
    exact recovered _ (List.cons_ne_nil _ _) words
  · intro same
    exact absurd (apart _ _ joined single same) (by decide)
  · rw [← mapped]
    exact found storageModel rfl (by decide) (by simp [storageModel, joined, single]) _ List.mem_cons_self

end TypedQuery

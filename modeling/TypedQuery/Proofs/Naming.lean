import TypedQuery.Host

/-!
What naming leaves of a raw name. But for characters whose lower case depends on the case they are
in, a mapped name is in lower case what the raw one is without its underscores.
-/

set_option autoImplicit false

namespace TypedQuery

-- A character whose lower case is the same after a change of case and whatever stands around it. A
-- sigma is none: its lower case depends on its place.
structure Text.Steady (c : Char) : Prop where
  lowered : (lowerChar c).flatMap lowerChar = lowerChar c
  raised : (upperChar c).flatMap lowerChar = lowerChar c
  plain : c ≠ 'Σ' ∧ 'Σ' ∉ lowerChar c ∧ 'Σ' ∉ upperChar c
  underscore : c ≠ '_' → '_' ∉ lowerChar c

instance (c : Char) : Decidable (Text.Steady c) :=
  decidable_of_iff (_ ∧ _ ∧ _ ∧ _)
    ⟨fun ⟨lowered, raised, plain, underscore⟩ => ⟨lowered, raised, plain, underscore⟩,
      fun ⟨lowered, raised, plain, underscore⟩ => ⟨lowered, raised, plain, underscore⟩⟩

theorem ascii_property (good : Char → Prop) (every : ∀ code < 128, good (Char.ofNat code)) (c : Char)
    (ascii : c.toNat < 128) : good c := by
  rw [← Char.ofNat_toNat c]
  exact every c.toNat ascii

def Text.CaseRun.change (run : CaseRun) (c : Char) : Char := ((run.image? c.toNat).map Char.ofNat).getD c

-- Of the tables, only the first run of either is about ASCII characters.
theorem map_case_ascii (expansions : List (Nat × List Nat)) (first : Text.CaseRun) (rest : List Text.CaseRun)
    (single : ∀ entry ∈ expansions, 128 ≤ entry.1) (beyond : ∀ run ∈ rest, 128 ≤ run.first) (c : Char)
    (ascii : c.toNat < 128) :
    Text.mapCase expansions (first :: rest) c = [first.change c] := by
  have unexpanded : expansions.lookup c.toNat = none := by
    rw [List.lookup_eq_none_iff]
    intro entry member
    have other := single entry member
    exact bne_iff_ne.mpr (by omega)
  have outside : rest.findSome? (Text.CaseRun.image? · c.toNat) = none := by
    rw [List.findSome?_eq_none_iff]
    intro run member
    have later := beyond run member
    rw [Text.CaseRun.image?, if_neg (by omega)]
  rw [Text.mapCase, unexpanded, List.findSome?_cons, Text.CaseRun.change]
  cases first.image? c.toNat with
  | none => simp only [outside]; rfl
  | some code => rfl

def Text.asciiLower : CaseRun := ⟨0x41, 0x5a, 1, 0x20⟩
def Text.asciiUpper : CaseRun := ⟨0x61, 0x7a, 1, -0x20⟩

theorem ascii_case (c : Char) (ascii : c.toNat < 128) :
    Text.lowerChar c = [c.toLower] ∧ Text.upperChar c = [c.toUpper] := by
  have lower : Text.lowerChar c = [Text.asciiLower.change c] :=
    map_case_ascii Text.lowerExpansions Text.asciiLower Text.lowerRuns.tail (by decide +kernel) (by decide +kernel)
      c ascii
  have upper : Text.upperChar c = [Text.asciiUpper.change c] :=
    map_case_ascii Text.upperExpansions Text.asciiUpper Text.upperRuns.tail (by decide +kernel) (by decide +kernel)
      c ascii
  obtain ⟨lowered, raised⟩ : Text.asciiLower.change c = c.toLower ∧ Text.asciiUpper.change c = c.toUpper :=
    ascii_property (fun c => Text.asciiLower.change c = c.toLower ∧ Text.asciiUpper.change c = c.toUpper)
      (by decide +kernel) c ascii
  rw [lower, upper, lowered, raised]
  exact ⟨rfl, rfl⟩

theorem ascii_steady (c : Char) (ascii : c.toNat < 128) : Text.Steady c := by
  obtain ⟨lower, upper⟩ := ascii_case c ascii
  obtain ⟨lowerAscii, upperAscii, lowered, raised, underscore⟩ : c.toLower.toNat < 128 ∧ c.toUpper.toNat < 128 ∧
      c.toLower.toLower = c.toLower ∧ c.toUpper.toLower = c.toLower ∧ (c.toLower = '_' → c = '_') :=
    ascii_property (fun c => c.toLower.toNat < 128 ∧ c.toUpper.toNat < 128 ∧ c.toLower.toLower = c.toLower ∧
      c.toUpper.toLower = c.toLower ∧ (c.toLower = '_' → c = '_')) (by decide +kernel) c ascii
  have sigma (other : Char) (within : other.toNat < 128) : 'Σ' ≠ other := by
    rintro rfl
    exact absurd within (by decide)
  constructor
  · rw [lower, List.flatMap_singleton, (ascii_case _ lowerAscii).1, lowered]
  · rw [upper, lower, List.flatMap_singleton, (ascii_case _ upperAscii).1, raised]
  · simpa [lower, upper] using ⟨(sigma c ascii).symm, sigma _ lowerAscii, sigma _ upperAscii⟩
  · intro different
    simpa [lower, eq_comm] using fun mark => different (underscore mark)

theorem lower_after_plain (before text : List Char) (plain : 'Σ' ∉ text) :
    Text.lowerAfter before text = text.flatMap Text.lowerChar := by
  induction text generalizing before with
  | nil => rfl
  | cons c rest ih =>
      rw [List.mem_cons, not_or] at plain
      rw [Text.lowerAfter, ih _ plain.2, if_neg (Ne.symm plain.1), List.flatMap_cons]

theorem lower_plain (text : String) (plain : 'Σ' ∉ text.toList) :
    (Text.lower text).toList = text.toList.flatMap Text.lowerChar := by
  rw [Text.lower, String.toList_ofList, lower_after_plain [] text.toList plain]

theorem steady_plain (text : List Char) (steady : ∀ c ∈ text, Text.Steady c) : 'Σ' ∉ text :=
  fun member => (steady 'Σ' member).plain.1 rfl

theorem lower_without_underscores (text : List Char) (steady : ∀ c ∈ text, Text.Steady c) :
    (text.flatMap Text.lowerChar).filter (· ≠ '_') = (text.filter (· ≠ '_')).flatMap Text.lowerChar := by
  induction text with
  | nil => rfl
  | cons c rest ih =>
      rw [List.forall_mem_cons] at steady
      rw [List.flatMap_cons, List.filter_append, ih steady.2]
      by_cases same : c = '_'
      · subst same
        rw [show Text.lowerChar '_' = ['_'] by decide +kernel]
        simp
      · have kept : (Text.lowerChar c).filter (· ≠ '_') = Text.lowerChar c := by
          rw [List.filter_eq_self]
          intro lowered member
          rw [decide_eq_true_eq]
          rintro rfl
          exact steady.1.underscore same member
        rw [kept, List.filter_cons_of_pos (by simpa using same), List.flatMap_cons]

theorem camel_lower (text : List Char) (steady : ∀ c ∈ text, Text.Steady c) (started raise : Bool) :
    'Σ' ∉ Naming.camelFrom started raise text ∧
      (Naming.camelFrom started raise text).flatMap Text.lowerChar =
        (text.filter (· ≠ '_')).flatMap Text.lowerChar := by
  induction text generalizing started raise with
  | nil => exact ⟨by simp [Naming.camelFrom], rfl⟩
  | cons c rest ih =>
      rw [List.forall_mem_cons] at steady
      obtain ⟨own, others⟩ := steady
      rw [Naming.camelFrom]
      by_cases same : c = '_'
      · rw [if_pos same, List.filter_cons_of_neg (by simpa using same)]
        exact ih others started started
      · rw [if_neg same, List.filter_cons_of_pos (by simpa using same), List.flatMap_cons]
        obtain ⟨plain, later⟩ := ih others true false
        split
        · rw [List.flatMap_append, own.lowered, later]
          exact ⟨by simp [own.plain, plain], rfl⟩
        · split
          · rw [List.flatMap_append, own.raised, later]
            exact ⟨by simp [own.plain, plain], rfl⟩
          · rw [List.flatMap_cons, later]
            exact ⟨by simp [own.plain.1.symm, plain], rfl⟩

theorem lowered_camel (raw : String) (steady : ∀ c ∈ raw.toList, Text.Steady c) :
    (Text.lower (Naming.lowerCamelCase.apply raw)).toList = (Text.lower raw).toList.filter (· ≠ '_') := by
  obtain ⟨plain, lowered⟩ := camel_lower raw.toList steady false false
  rw [lower_plain raw (steady_plain raw.toList steady), lower_without_underscores raw.toList steady, ← lowered]
  rw [Naming.apply, lower_plain _ (by rwa [String.toList_ofList]), String.toList_ofList]

end TypedQuery

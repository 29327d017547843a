import TypedQuery.Proofs.Payloads

/-!
How a synthesised selection depends on its depth. The selections of a type agree as far down as both
go, so the shallower one is the deeper one cut off; the paths through a selection are the chains of
representable fields that are no longer than it is deep.
-/

set_option autoImplicit false

namespace TypedQuery

def SelectionSet.cut : Nat → SelectionSet → SelectionSet
  | 0, _ => []
  | level + 1, selection =>
      selection.map fun field => .mk field.name field.arguments (SelectionSet.cut level field.selection)

inductive SelectionSet.Follows : SelectionSet → List String → SelectionSet → Prop
  | here (selection : SelectionSet) : Follows selection [] selection
  | field (selection below : SelectionSet) (field : FieldSelection) (path : List String) (chosen : field ∈ selection)
      (further : Follows field.selection path below) : Follows selection (field.name :: path) below

def HostType.selectable (models : ModelTable) (host : HostType) : List String :=
  match host.model? with
  | none => []
  | some ref =>
      let descriptor := models.describe ref
      (descriptor.fields.filter fun field => field.type.isRepresentable).map fun field =>
        field.mappedName descriptor.naming

-- A chain of representable fields, by their names, from the model under a type to the type of the last one.
inductive FieldChain (models : ModelTable) : HostType → List String → HostType → Prop
  | here (host : HostType) : FieldChain models host [] host
  | field (host target : HostType) (ref : ModelRef) (field : ModelField) (path : List String)
      (element : host.model? = some ref) (member : field ∈ (models.describe ref).fields)
      (representable : field.type.isRepresentable) (further : FieldChain models field.type path target) :
      FieldChain models host (field.mappedName (models.describe ref).naming :: path) target

theorem field_eta (field : FieldSelection) : .mk field.name field.arguments field.selection = field := by
  cases field
  rfl

theorem member_depth (selection : SelectionSet) (field : FieldSelection) (member : field ∈ selection) :
    SelectionSet.depth field.selection + 1 ≤ SelectionSet.depth selection := by
  induction selection with
  | nil => simp at member
  | cons first rest ih =>
      rw [SelectionSet.depth]
      rcases List.mem_cons.mp member with rfl | later
      · refine Nat.le_trans (Nat.le_of_eq ?_) (Nat.le_max_left _ _)
        rw [← field_eta field, FieldSelection.depth]
        rfl
      · exact Nat.le_trans (ih later) (Nat.le_max_right _ _)

theorem cut_depth (selection : SelectionSet) (level : Nat) :
    SelectionSet.depth (selection.cut level) = min level (SelectionSet.depth selection) := by
  induction level generalizing selection with
  | zero => simp [SelectionSet.cut, SelectionSet.depth]
  | succ level ih =>
      induction selection with
      | nil => simp [SelectionSet.cut, SelectionSet.depth]
      | cons field rest others =>
          obtain ⟨name, arguments, below⟩ := field
          simp only [SelectionSet.cut, List.map_cons, SelectionSet.depth, FieldSelection.depth, ih,
            FieldSelection.selection] at others ⊢
          omega

theorem cut_shallow (selection : SelectionSet) (level : Nat) (shallow : SelectionSet.depth selection ≤ level) :
    selection.cut level = selection := by
  induction level generalizing selection with
  | zero =>
      cases selection with
      | nil => rfl
      | cons field rest =>
          have positive := member_depth (field :: rest) field List.mem_cons_self
          omega
  | succ level ih =>
      rw [SelectionSet.cut]
      refine (List.map_congr_left fun field member => ?_).trans (List.map_id selection)
      have below := member_depth selection field member
      rw [ih field.selection (by omega), field_eta]
      rfl

theorem synthesize_element (models : ModelTable) (host : HostType) (depth : Nat) :
    synthesize models host.element depth = synthesize models host depth := by
  induction host with
  | list inner ih => exact ih.trans (synthesize_list models inner depth).symm
  | _ => rfl

theorem synthesize_cut (models : ModelTable) (host : HostType) (depth more : Nat) :
    (synthesize models host (depth + more)).cut depth = synthesize models host depth := by
  induction depth generalizing host with
  | zero => rfl
  | succ depth ih =>
      cases element : host.model? with
      | none =>
          rw [synthesize_no_model models host _ element, synthesize_no_model models host _ element]
          rfl
      | some ref =>
          rw [Nat.add_right_comm, synthesize_model models host ref _ element, synthesize_model models host ref _ element,
            SelectionSet.cut, List.map_map]
          refine List.map_congr_left fun field _ => ?_
          exact congrArg (FieldSelection.mk _ []) (ih field.type)

theorem synthesize_names (models : ModelTable) (host : HostType) (depth : Nat) :
    (synthesize models host depth).map (·.name) = if 0 < depth then host.selectable models else [] := by
  cases depth with
  | zero => rfl
  | succ depth =>
      rw [if_pos (Nat.succ_pos depth), HostType.selectable]
      cases element : host.model? with
      | none => rw [synthesize_no_model models host _ element, List.map_nil]
      | some ref =>
          rw [synthesize_model models host ref depth element, List.map_map]
          rfl

theorem chain_followed (models : ModelTable) (host target : HostType) (path : List String) (depth : Nat)
    (chain : FieldChain models host path target) (within : path.length ≤ depth) :
    (synthesize models host depth).Follows path (synthesize models target (depth - path.length)) := by
  induction chain generalizing depth with
  | here host => exact .here _
  | field host target ref field path element member representable _ ih =>
      rw [List.length_cons] at within
      obtain ⟨left, rfl⟩ := Nat.exists_eq_add_one_of_ne_zero (by omega : depth ≠ 0)
      rw [List.length_cons, Nat.add_sub_add_right]
      refine .field _ _ (.mk _ [] (synthesize models field.type left)) path ?_ (ih left (by omega))
      rw [synthesize_model models host ref left element]
      exact List.mem_map_of_mem (List.mem_filter.mpr ⟨member, representable⟩)

theorem followed_chain (models : ModelTable) (host : HostType) (path : List String) (depth : Nat) (below : SelectionSet)
    (follows : (synthesize models host depth).Follows path below) :
    path.length ≤ depth ∧ ∃ target, FieldChain models host path target ∧
      below = synthesize models target (depth - path.length) := by
  induction path generalizing host depth with
  | nil =>
      cases follows
      exact ⟨Nat.zero_le depth, host, .here host, rfl⟩
  | cons name path ih =>
      cases follows with
      | field _ _ chosen _ member further =>
          cases depth with
          | zero => exact nomatch member
          | succ depth =>
              cases element : host.model? with
              | none =>
                  rw [synthesize_no_model models host _ element] at member
                  exact nomatch member
              | some ref =>
                  rw [synthesize_model models host ref depth element] at member
                  obtain ⟨field, kept, rfl⟩ := List.mem_map.mp member
                  obtain ⟨declared, representable⟩ := List.mem_filter.mp kept
                  obtain ⟨within, target, chain, rfl⟩ := ih field.type depth further
                  rw [List.length_cons, Nat.add_sub_add_right]
                  exact ⟨Nat.succ_le_succ within, target,
                    .field host target ref field path element declared representable chain, rfl⟩

theorem selection_unfolds_to_depth (models : ModelTable) (host : HostType) (depth deeper : Nat) (within : depth ≤ deeper) :
    synthesize models host depth = (synthesize models host deeper).cut depth ∧
      SelectionSet.depth (synthesize models host depth) = min depth (SelectionSet.depth (synthesize models host deeper)) ∧
      (SelectionSet.depth (synthesize models host depth) < depth →
        synthesize models host deeper = synthesize models host depth) ∧
      (∀ path names,
        (∃ below, (synthesize models host depth).Follows path below ∧ below.map (·.name) = names) ↔
          path.length ≤ depth ∧ ∃ target, FieldChain models host path target ∧
            names = if path.length < depth then target.selectable models else []) ∧
      synthesize models host 0 = [] ∧
      (host.model? = none → synthesize models host depth = []) ∧
      synthesize models host.element depth = synthesize models host depth := by
  obtain ⟨more, rfl⟩ := Nat.exists_eq_add_of_le within
  have cut := synthesize_cut models host depth more
  have depths : SelectionSet.depth (synthesize models host depth) =
      min depth (SelectionSet.depth (synthesize models host (depth + more))) := by
    rw [← cut_depth, cut]
  refine ⟨cut.symm, depths, ?_, ?_, rfl, synthesize_no_model models host depth, synthesize_element models host depth⟩
  · intro shallow
    rw [← cut, cut_shallow _ _ (by omega)]
  · intro path names
    constructor
    · rintro ⟨below, follows, rfl⟩
      obtain ⟨reached, target, chain, rfl⟩ := followed_chain models host path depth below follows
      refine ⟨reached, target, chain, ?_⟩
      rw [synthesize_names]
      simp only [Nat.sub_pos_iff_lt]
    · rintro ⟨reached, target, chain, rfl⟩
      refine ⟨_, chain_followed models host target path depth chain reached, ?_⟩
      rw [synthesize_names]
      simp only [Nat.sub_pos_iff_lt]

def resultHost : HostType := .list (Samples.modelHost "TestResult")

theorem edge_chain : FieldChain Samples.models resultHost ["edge"] (Samples.modelHost "TestType") := by
  have named : (Samples.field "edge" (Samples.modelHost "TestType")).mappedName .lowerCamelCase = "edge" := by
    decide +kernel
  have here : FieldChain Samples.models (Samples.modelHost "TestType") [] (Samples.modelHost "TestType") := .here _
  have chain := FieldChain.field resultHost (Samples.modelHost "TestType") ⟨"TestResult", "TestResult"⟩
    (Samples.field "edge" (Samples.modelHost "TestType")) [] rfl (List.mem_cons_of_mem _ List.mem_cons_self) rfl here
  rwa [show (Samples.models.describe ⟨"TestResult", "TestResult"⟩).naming = .lowerCamelCase from rfl, named] at chain

theorem results_end_early :
    3 ≤ 7 ∧ SelectionSet.depth (synthesize Samples.models resultHost 3) < 3 ∧
      synthesize Samples.models resultHost 7 = synthesize Samples.models resultHost 3 ∧
      FieldChain Samples.models resultHost ["edge"] (Samples.modelHost "TestType") ∧
      (∃ below, (synthesize Samples.models resultHost 3).Follows ["edge"] below ∧
        below.map (·.name) = ["anInt", "aFloat", "aDouble", "theTime"]) ∧
      (HostType.enumeration "Color").model? = none ∧
      synthesize Samples.models (.enumeration "Color") 3 = [] := by
  have shallow : SelectionSet.depth (synthesize Samples.models resultHost 3) < 3 := by decide +kernel
  have names : ["anInt", "aFloat", "aDouble", "theTime"] = (Samples.modelHost "TestType").selectable Samples.models := by
    decide +kernel
  obtain ⟨_, _, ends, paths, _⟩ := selection_unfolds_to_depth Samples.models resultHost 3 7 (by decide)
  obtain ⟨_, _, _, _, _, unmodelled, _⟩ := selection_unfolds_to_depth Samples.models (.enumeration "Color") 3 7 (by decide)
  refine ⟨by decide, shallow, ends shallow, edge_chain, ?_, rfl, unmodelled rfl⟩
  exact (paths ["edge"] _).mpr ⟨by decide, _, edge_chain, names⟩

end TypedQuery

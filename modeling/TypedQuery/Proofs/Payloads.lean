import TypedQuery.Decoding
import TypedQuery.Proofs.Lookup
import TypedQuery.Proofs.Outcome
import TypedQuery.Samples
import TypedQuery.Selection

/-!
Payloads that a synthesised selection asks for, and payloads that the shape check lets pass. What was
asked for always passes; what passes was asked for, as long as it is no deeper than the selection
and no field of a model was left out of it.
-/

set_option autoImplicit false

namespace TypedQuery

def ModelDescriptor.wireNames (descriptor : ModelDescriptor) : List String :=
  descriptor.fields.map fun field => field.mappedName descriptor.naming

inductive Unfolds (models : ModelTable) : HostType → ModelRef → Prop
  | own (host : HostType) (ref : ModelRef) (element : host.model? = some ref) : Unfolds models host ref
  | field (host : HostType) (ref next : ModelRef) (field : ModelField) (element : host.model? = some ref)
      (member : field ∈ (models.describe ref).fields) (unfolds : Unfolds models field.type next) :
      Unfolds models host next

mutual
-- Every object at the place of a model has selected keys only, and so on below them.
def FitsSelection (models : ModelTable) (host : HostType) (selection : SelectionSet) : Json → Prop
  | .arr items =>
      match host with
      | .list element => FitItems models element selection items
      | _ => True
  | .obj fields =>
      match host with
      | .model ref => FitFields models (models.describe ref) selection fields
      | _ => True
  | _ => True
def FitItems (models : ModelTable) (element : HostType) (selection : SelectionSet) : List Json → Prop
  | [] => True
  | item :: rest => FitsSelection models element selection item ∧ FitItems models element selection rest
def FitFields (models : ModelTable) (descriptor : ModelDescriptor) (selection : SelectionSet) :
    List (String × Json) → Prop
  | [] => True
  | (key, value) :: rest =>
      (∃ chosen ∈ selection, chosen.name = key ∧
        ∃ field ∈ descriptor.fields, field.mappedName descriptor.naming = key ∧
          FitsSelection models field.type chosen.selection value) ∧
      FitFields models descriptor selection rest
end

mutual
def decideFits (models : ModelTable) (host : HostType) (selection : SelectionSet) :
    (value : Json) → Decidable (FitsSelection models host selection value)
  | .arr items =>
      match host with
      | .list element => decideItemsFit models element selection items
      | .scalar _ | .model _ | .enumeration _ | .foreign _ => .isTrue trivial
  | .obj fields =>
      match host with
      | .model ref => decideFieldsFit models (models.describe ref) selection fields
      | .scalar _ | .list _ | .enumeration _ | .foreign _ => .isTrue trivial
  | .null | .bool _ | .int _ | .double _ | .str _ => .isTrue trivial
def decideItemsFit (models : ModelTable) (element : HostType) (selection : SelectionSet) :
    (items : List Json) → Decidable (FitItems models element selection items)
  | [] => .isTrue trivial
  | item :: rest =>
      have := decideFits models element selection item
      have := decideItemsFit models element selection rest
      inferInstanceAs (Decidable (_ ∧ _))
def decideFieldsFit (models : ModelTable) (descriptor : ModelDescriptor) (selection : SelectionSet) :
    (fields : List (String × Json)) → Decidable (FitFields models descriptor selection fields)
  | [] => .isTrue trivial
  | (_, value) :: rest =>
      have := fun (host : HostType) (below : SelectionSet) => decideFits models host below value
      have := decideFieldsFit models descriptor selection rest
      inferInstanceAs (Decidable (_ ∧ _))
end

instance (models : ModelTable) (host : HostType) (selection : SelectionSet) (value : Json) :
    Decidable (FitsSelection models host selection value) :=
  decideFits models host selection value

mutual
def objectDepth (models : ModelTable) (host : HostType) : Json → Nat
  | .arr items =>
      match host with
      | .list element => itemsDepth models element items
      | _ => 0
  | .obj fields =>
      match host with
      | .model ref => fieldsDepth models (models.describe ref) fields + 1
      | _ => 0
  | _ => 0
def itemsDepth (models : ModelTable) (element : HostType) : List Json → Nat
  | [] => 0
  | item :: rest => max (objectDepth models element item) (itemsDepth models element rest)
def fieldsDepth (models : ModelTable) (descriptor : ModelDescriptor) : List (String × Json) → Nat
  | [] => 0
  | (key, value) :: rest =>
      match descriptor.field? key with
      | some field => max (objectDepth models field.type value) (fieldsDepth models descriptor rest)
      | none => fieldsDepth models descriptor rest
end

theorem list_model (element : HostType) : (HostType.list element).model? = element.model? := rfl

theorem unfolds_list (models : ModelTable) (element : HostType) (ref : ModelRef)
    (unfolds : Unfolds models element ref) : Unfolds models (.list element) ref := by
  cases unfolds with
  | own _ _ own => exact .own _ ref own
  | field _ between _ field own member further => exact .field _ between ref field own member further

theorem synthesize_list (models : ModelTable) (element : HostType) (depth : Nat) :
    synthesize models (.list element) depth = synthesize models element depth := by
  cases depth with
  | zero => rfl
  | succ depth => rw [synthesize, synthesize, list_model]

theorem synthesize_no_model (models : ModelTable) (host : HostType) (depth : Nat) (none : host.model? = none) :
    synthesize models host depth = [] := by
  cases depth with
  | zero => rfl
  | succ depth => rw [synthesize, none]

-- Whether a field is unfolded need not be asked: a type without models unfolds to nothing.
theorem synthesize_model (models : ModelTable) (host : HostType) (ref : ModelRef) (depth : Nat)
    (element : host.model? = some ref) :
    synthesize models host (depth + 1) =
      ((models.describe ref).fields.filter fun field => field.type.isRepresentable).map fun field =>
        .mk (field.mappedName (models.describe ref).naming) [] (synthesize models field.type depth) := by
  have below (field : ModelField) :
      (if field.type.model?.isSome then synthesize models field.type depth else []) =
        synthesize models field.type depth := by
    cases element : field.type.model? with
    | none =>
        rw [synthesize_no_model models field.type depth element]
        rfl
    | some inner => rfl
  simp only [synthesize, element, below]

theorem synthesize_member (models : ModelTable) (ref : ModelRef) (depth : Nat) (chosen : FieldSelection) :
    chosen ∈ synthesize models (.model ref) (depth + 1) ↔
      ∃ field ∈ (models.describe ref).fields, field.type.isRepresentable ∧
        .mk (field.mappedName (models.describe ref).naming) [] (synthesize models field.type depth) = chosen := by
  rw [synthesize_model models (.model ref) ref depth rfl]
  simp only [List.mem_map, List.mem_filter, and_assoc]

theorem wire_name_field (descriptor : ModelDescriptor) (distinct : descriptor.wireNames.Nodup) (field : ModelField)
    (member : field ∈ descriptor.fields) : descriptor.field? (field.mappedName descriptor.naming) = some field :=
  find_named (ModelField.mappedName · descriptor.naming) descriptor.fields distinct field member

theorem found_wire_name (descriptor : ModelDescriptor) (key : String) (field : ModelField)
    (found : descriptor.field? key = some field) :
    field ∈ descriptor.fields ∧ field.mappedName descriptor.naming = key :=
  find_name (ModelField.mappedName · descriptor.naming) descriptor.fields key field found

theorem selected_below (models : ModelTable) (ref : ModelRef) (depth : Nat) (chosen : FieldSelection)
    (distinct : (models.describe ref).wireNames.Nodup) (selected : chosen ∈ synthesize models (.model ref) depth)
    (field : ModelField) (member : field ∈ (models.describe ref).fields)
    (named : field.mappedName (models.describe ref).naming = chosen.name) :
    ∃ left, chosen.selection = synthesize models field.type left := by
  cases depth with
  | zero => simp [synthesize] at selected
  | succ depth =>
      obtain ⟨origin, declared, _, rfl⟩ := (synthesize_member models ref depth chosen).mp selected
      have first := wire_name_field _ distinct origin declared
      have second := wire_name_field _ distinct field member
      rw [show field.mappedName _ = origin.mappedName _ from named, first] at second
      obtain rfl := Option.some.inj second
      exact ⟨depth, rfl⟩

mutual
theorem fitting_accepted (models : ModelTable) (host : HostType) (depth : Nat)
    (distinct : ∀ ref, Unfolds models host ref → (models.describe ref).wireNames.Nodup) (value : Json)
    (fits : FitsSelection models host (synthesize models host depth) value) :
    checkShape models host value = .ok () := by
  cases value with
  | arr items =>
      cases host with
      | list element =>
          rw [synthesize_list] at fits
          exact fitting_items_accepted models element depth
            (fun ref unfolds => distinct ref (unfolds_list models element ref unfolds)) items fits
      | _ => rfl
  | obj fields =>
      cases host with
      | model ref => exact fitting_fields_accepted models ref depth distinct fields fits
      | _ => rfl
  | _ => rfl
theorem fitting_items_accepted (models : ModelTable) (element : HostType) (depth : Nat)
    (distinct : ∀ ref, Unfolds models element ref → (models.describe ref).wireNames.Nodup) (items : List Json)
    (fits : FitItems models element (synthesize models element depth) items) :
    checkItems models element items = .ok () := by
  cases items with
  | nil => rfl
  | cons item rest =>
      rw [checkItems, then_ok_iff]
      exact ⟨fitting_accepted models element depth distinct item fits.1,
        fitting_items_accepted models element depth distinct rest fits.2⟩
theorem fitting_fields_accepted (models : ModelTable) (ref : ModelRef) (depth : Nat)
    (distinct : ∀ next, Unfolds models (.model ref) next → (models.describe next).wireNames.Nodup)
    (fields : List (String × Json))
    (fits : FitFields models (models.describe ref) (synthesize models (.model ref) depth) fields) :
    checkFields models (models.describe ref) fields = .ok () := by
  cases fields with
  | nil => rfl
  | cons entry rest =>
      obtain ⟨key, value⟩ := entry
      obtain ⟨⟨chosen, selected, rfl, field, member, named, below⟩, others⟩ := fits
      have own := distinct ref (.own _ ref rfl)
      obtain ⟨left, unfolded⟩ := selected_below models ref depth chosen own selected field member named
      rw [unfolded] at below
      rw [checkFields, ← named, wire_name_field _ own field member]
      simp only [then_ok_iff]
      exact ⟨fitting_accepted models field.type left
          (fun next unfolds => distinct next (.field _ ref next field rfl member unfolds)) value below,
        fitting_fields_accepted models ref depth distinct rest others⟩
end

mutual
theorem accepted_fits (models : ModelTable) (host : HostType) (depth : Nat)
    (complete : ∀ ref, Unfolds models host ref → ∀ field ∈ (models.describe ref).fields, field.type.isRepresentable)
    (value : Json) (shallow : objectDepth models host value ≤ depth)
    (accepted : checkShape models host value = .ok ()) :
    FitsSelection models host (synthesize models host depth) value := by
  cases value with
  | arr items =>
      cases host with
      | list element =>
          rw [synthesize_list]
          exact accepted_items_fit models element depth
            (fun ref unfolds => complete ref (unfolds_list models element ref unfolds)) items shallow accepted
      | _ => trivial
  | obj fields =>
      cases host with
      | model ref =>
          rw [objectDepth] at shallow
          obtain ⟨left, rfl⟩ := Nat.exists_eq_add_one_of_ne_zero (by omega : depth ≠ 0)
          exact accepted_fields_fit models ref left complete fields (by omega) accepted
      | _ => trivial
  | _ => trivial
theorem accepted_items_fit (models : ModelTable) (element : HostType) (depth : Nat)
    (complete : ∀ ref, Unfolds models element ref → ∀ field ∈ (models.describe ref).fields, field.type.isRepresentable)
    (items : List Json) (shallow : itemsDepth models element items ≤ depth)
    (accepted : checkItems models element items = .ok ()) :
    FitItems models element (synthesize models element depth) items := by
  cases items with
  | nil => trivial
  | cons item rest =>
      rw [itemsDepth, Nat.max_le] at shallow
      rw [checkItems, then_ok_iff] at accepted
      exact ⟨accepted_fits models element depth complete item shallow.1 accepted.1,
        accepted_items_fit models element depth complete rest shallow.2 accepted.2⟩
theorem accepted_fields_fit (models : ModelTable) (ref : ModelRef) (depth : Nat)
    (complete : ∀ next, Unfolds models (.model ref) next →
      ∀ field ∈ (models.describe next).fields, field.type.isRepresentable)
    (fields : List (String × Json)) (shallow : fieldsDepth models (models.describe ref) fields ≤ depth)
    (accepted : checkFields models (models.describe ref) fields = .ok ()) :
    FitFields models (models.describe ref) (synthesize models (.model ref) (depth + 1)) fields := by
  cases fields with
  | nil => trivial
  | cons entry rest =>
      obtain ⟨key, value⟩ := entry
      cases found : (models.describe ref).field? key with
      | none => simp [checkFields, found] at accepted
      | some field =>
          rw [fieldsDepth, found, Nat.max_le] at shallow
          simp only [checkFields, found, then_ok_iff] at accepted
          obtain ⟨member, named⟩ := found_wire_name _ key field found
          have selected := (synthesize_member models ref depth _).mpr
            ⟨field, member, complete ref (.own _ ref rfl) field member, rfl⟩
          have below := accepted_fits models field.type depth
            (fun next unfolds => complete next (.field _ ref next field rfl member unfolds)) value shallow.1 accepted.1
          exact ⟨⟨_, selected, named, field, member, named, below⟩,
            accepted_fields_fit models ref depth complete rest shallow.2 accepted.2⟩
end

theorem selection_agrees_with_check (models : ModelTable) (host : HostType)
    (distinct : ∀ ref, Unfolds models host ref → (models.describe ref).wireNames.Nodup) (depth : Nat) (value : Json) :
    (FitsSelection models host (synthesize models host depth) value → checkShape models host value = .ok ()) ∧
      ((∀ ref, Unfolds models host ref → ∀ field ∈ (models.describe ref).fields, field.type.isRepresentable) →
        objectDepth models host value ≤ depth → checkShape models host value = .ok () →
          FitsSelection models host (synthesize models host depth) value) :=
  ⟨fitting_accepted models host depth distinct value,
    fun complete => accepted_fits models host depth complete value⟩

theorem describe_any (models : ModelTable) (good : ModelDescriptor → Prop) (each : ∀ entry ∈ models, good entry.2)
    (unknown : ∀ name, good ⟨name, .identity, []⟩) (ref : ModelRef) : good (models.describe ref) := by
  unfold ModelTable.describe
  cases found : List.lookup ref.key models with
  | none => exact unknown ref.name
  | some descriptor =>
      obtain ⟨before, after, rfl, _⟩ := List.lookup_eq_some_iff.mp found
      exact each (ref.key, descriptor) (by simp)

def familyHost : HostType := .list (Samples.modelHost "Node")

def familyPayload (deepest : Json) : Json :=
  .arr [.obj [("kids", .arr [.obj [("id", .str "n-2"), ("parent", deepest)], .null]), ("id", .str "n-1")], .obj []]

def familySelection : SelectionSet := synthesize Samples.models familyHost 2

theorem family_payloads_agree :
    FitsSelection Samples.models familyHost familySelection (familyPayload (.obj [])) ∧
      checkShape Samples.models familyHost (familyPayload (.obj [])) = .ok () ∧
      objectDepth Samples.models familyHost (familyPayload .null) = 2 ∧
      checkShape Samples.models familyHost (familyPayload .null) = .ok () ∧
      FitsSelection Samples.models familyHost familySelection (familyPayload .null) := by
  have distinct (ref : ModelRef) : (Samples.models.describe ref).wireNames.Nodup :=
    describe_any Samples.models (·.wireNames.Nodup) (by decide +kernel) (fun _ => List.nodup_nil) ref
  have complete (ref : ModelRef) : ∀ field ∈ (Samples.models.describe ref).fields, field.type.isRepresentable :=
    describe_any Samples.models (fun descriptor => ∀ field ∈ descriptor.fields, field.type.isRepresentable)
      (by decide +kernel) (fun _ => by simp) ref
  have asked : FitsSelection Samples.models familyHost familySelection (familyPayload (.obj [])) := by decide +kernel
  have shallow : objectDepth Samples.models familyHost (familyPayload .null) = 2 := by decide +kernel
  have accepted : checkShape Samples.models familyHost (familyPayload .null) = .ok () := by decide +kernel
  obtain ⟨passes, _⟩ :=
    selection_agrees_with_check Samples.models familyHost (fun ref _ => distinct ref) 2 (familyPayload (.obj []))
  obtain ⟨_, fits⟩ :=
    selection_agrees_with_check Samples.models familyHost (fun ref _ => distinct ref) 2 (familyPayload .null)
  exact ⟨asked, passes asked, shallow, accepted, fits (fun ref _ => complete ref) (by omega) accepted⟩

end TypedQuery

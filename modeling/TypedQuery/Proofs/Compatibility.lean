import Mathlib.Logic.Relation
import TypedQuery.Compatibility

/-!
What a host type is compatible with: the types that are as many lists of a name it goes by. Where
values may be null makes no difference, and but for strings a host goes by one name.
-/

set_option autoImplicit false

namespace TypedQuery

namespace TypeRef

def erased : TypeRef → TypeRef
  | .named name => .named name
  | .list element => .list element.erased
  | .nonNull inner => inner.erased

def layers : TypeRef → Nat
  | .named _ => 0
  | .list element => element.layers + 1
  | .nonNull inner => inner.layers

def listed (type : TypeRef) : Nat → TypeRef
  | 0 => type
  | layers + 1 => .list (type.listed layers)

-- The same type with one non-null wrapper more, anywhere in it.
inductive Wrapped : TypeRef → TypeRef → Prop
  | outside (type : TypeRef) : Wrapped type (.nonNull type)
  | element (type more : TypeRef) : Wrapped type more → Wrapped (.list type) (.list more)
  | inside (type more : TypeRef) : Wrapped type more → Wrapped (.nonNull type) (.nonNull more)

end TypeRef

namespace HostType

def layers : HostType → Nat
  | .list element => element.layers + 1
  | _ => 0

def listed (host : HostType) : Nat → HostType
  | 0 => host
  | layers + 1 => .list (host.listed layers)

def Single (host : HostType) : Prop := ∀ element, host ≠ .list element

def GoesBy (host : HostType) (name : String) : Prop := host.name = name ∨ host = .scalar .string ∧ name = "ID"

end HostType

theorem erased_listed (type : TypeRef) : type.erased = (TypeRef.named type.leaf).listed type.layers := by
  induction type with
  | named name => rfl
  | list element ih => exact congrArg TypeRef.list ih
  | nonNull inner ih => exact ih

theorem wrapped_erased (type more : TypeRef) (wrapped : type.Wrapped more) : type.erased = more.erased := by
  induction wrapped with
  | outside type => rfl
  | element _ _ _ ih => exact congrArg TypeRef.list ih
  | inside _ _ _ ih => exact ih

theorem variants_listed (first second : TypeRef) (variants : Relation.EqvGen TypeRef.Wrapped first second) :
    Relation.EqvGen TypeRef.Wrapped (.list first) (.list second) := by
  induction variants with
  | rel first second wrapped => exact .rel _ _ (.element first second wrapped)
  | refl first => exact .refl _
  | symm _ _ _ ih => exact .symm _ _ ih
  | trans _ _ _ _ _ before after => exact .trans _ _ _ before after

theorem erased_variant (type : TypeRef) : Relation.EqvGen TypeRef.Wrapped type type.erased := by
  induction type with
  | named name => exact .refl _
  | list element ih => exact variants_listed element element.erased ih
  | nonNull inner ih => exact .trans _ inner _ (.symm _ _ (.rel _ _ (.outside inner))) ih

theorem variants_iff (first second : TypeRef) :
    Relation.EqvGen TypeRef.Wrapped first second ↔ first.erased = second.erased := by
  constructor
  · intro variants
    induction variants with
    | rel first second wrapped => exact wrapped_erased first second wrapped
    | refl first => rfl
    | symm _ _ _ ih => exact ih.symm
    | trans _ _ _ _ _ before after => exact before.trans after
  · intro same
    have back := Relation.EqvGen.symm _ _ (erased_variant second)
    exact .trans _ _ _ (erased_variant first) (same ▸ back)

theorem compatible_erased (type : TypeRef) (host : HostType) : isCompatible type host = isCompatible type.erased host := by
  induction type generalizing host with
  | named name => rfl
  | nonNull inner ih => exact ih host
  | list element ih =>
      cases host with
      | list inner => exact ih inner
      | scalar | model | enumeration | foreign => rfl

theorem compatible_named (name : String) (host : HostType) :
    isCompatible (.named name) host ↔ host.Single ∧ host.GoesBy name := by
  cases host with
  | list element => exact ⟨nofun, fun ⟨single, _⟩ => absurd rfl (single element)⟩
  | scalar kind => simp [isCompatible, HostType.Single, HostType.GoesBy, HostType.name, and_comm]
  | model | enumeration | foreign => simp [isCompatible, HostType.Single, HostType.GoesBy, HostType.name]

theorem compatible_listed (name : String) (layers : Nat) (host : HostType) :
    isCompatible ((TypeRef.named name).listed layers) host ↔
      ∃ inner : HostType, host = inner.listed layers ∧ inner.Single ∧ inner.GoesBy name := by
  induction layers generalizing host with
  | zero =>
      rw [TypeRef.listed, compatible_named]
      constructor
      · exact fun good => ⟨host, rfl, good⟩
      · rintro ⟨inner, rfl, good⟩
        exact good
  | succ layers ih =>
      cases host with
      | list element =>
          rw [TypeRef.listed, isCompatible, ih]
          simp only [HostType.listed, HostType.list.injEq]
      | scalar | model | enumeration | foreign => simp [TypeRef.listed, isCompatible, HostType.listed]

theorem compatible_iff (type : TypeRef) (host : HostType) :
    isCompatible type host ↔
      ∃ inner : HostType, host = inner.listed type.layers ∧ inner.Single ∧ inner.GoesBy type.leaf := by
  rw [compatible_erased, erased_listed, compatible_listed]

theorem single_layers (host : HostType) (single : host.Single) : host.layers = 0 := by
  cases host with
  | list element => exact absurd rfl (single element)
  | scalar | model | enumeration | foreign => rfl

theorem listed_layers (inner : HostType) (single : inner.Single) (layers : Nat) : (inner.listed layers).layers = layers := by
  induction layers with
  | zero => exact single_layers inner single
  | succ layers ih => exact congrArg Nat.succ ih

theorem listed_element (inner : HostType) (single : inner.Single) (layers : Nat) : (inner.listed layers).element = inner := by
  induction layers with
  | zero =>
      cases inner with
      | list element => exact absurd rfl (single element)
      | scalar | model | enumeration | foreign => rfl
  | succ layers ih => exact ih

theorem compatible_layers (type : TypeRef) (host : HostType) (compatible : isCompatible type host) :
    type.layers = host.layers := by
  obtain ⟨inner, rfl, single, _⟩ := (compatible_iff type host).mp compatible
  exact (listed_layers inner single type.layers).symm

theorem compatible_element (type : TypeRef) (host : HostType) (compatible : isCompatible type host) :
    host.element.GoesBy type.leaf := by
  obtain ⟨inner, rfl, single, named⟩ := (compatible_iff type host).mp compatible
  rwa [listed_element inner single]

theorem names_of_host (host : HostType) (first second : String) (one : host.GoesBy first) (other : host.GoesBy second)
    (different : first ≠ second) :
    host = .scalar .string ∧ (first = "String" ∧ second = "ID" ∨ first = "ID" ∧ second = "String") := by
  rcases one with rfl | ⟨rfl, rfl⟩
  · rcases other with rfl | ⟨rfl, rfl⟩
    · exact absurd rfl different
    · exact ⟨rfl, .inl ⟨rfl, rfl⟩⟩
  · rcases other with rfl | ⟨_, rfl⟩
    · exact ⟨rfl, .inr ⟨rfl, rfl⟩⟩
    · exact absurd rfl different

theorem compatible_shapes (type : TypeRef) (host : HostType) :
    (isCompatible type host ↔ ∃ (layers : Nat) (name : String) (inner : HostType),
      type.erased = (TypeRef.named name).listed layers ∧ host = inner.listed layers ∧
        (∀ element, inner ≠ .list element) ∧ (inner.name = name ∨ inner = .scalar .string ∧ name = "ID")) ∧
    (∀ more, type.Wrapped more → isCompatible more host = isCompatible type host) ∧
    (isCompatible type host → type.layers = host.layers) ∧
    (∀ other, Relation.EqvGen TypeRef.Wrapped type other → isCompatible type host → isCompatible other host) ∧
    ∀ other, isCompatible type host → isCompatible other host → type.leaf ≠ other.leaf →
      host.element = .scalar .string ∧
        (type.leaf = "String" ∧ other.leaf = "ID" ∨ type.leaf = "ID" ∧ other.leaf = "String") := by
  refine ⟨?_, ?_, compatible_layers type host, ?_, ?_⟩
  · constructor
    · intro compatible
      obtain ⟨inner, layered, single, named⟩ := (compatible_iff type host).mp compatible
      exact ⟨type.layers, type.leaf, inner, erased_listed type, layered, single, named⟩
    · rintro ⟨layers, name, inner, erased, layered, single, named⟩
      rw [compatible_erased, erased, compatible_listed]
      exact ⟨inner, layered, single, named⟩
  · intro more wrapped
    rw [compatible_erased more, compatible_erased type, wrapped_erased type more wrapped]
  · intro other variants compatible
    rw [compatible_erased, ← (variants_iff type other).mp variants, ← compatible_erased]
    exact compatible
  · intro other one two different
    exact names_of_host host.element type.leaf other.leaf (compatible_element type host one)
      (compatible_element other host two) different

def strictIds : TypeRef := .nonNull (.list (.nonNull (.nonNull (.list (.nonNull (.named "ID"))))))

def plainTexts : TypeRef := .list (.list (.named "String"))

def textLists : HostType := .list (.list (.scalar .string))

theorem text_lists_hold_ids :
    isCompatible strictIds textLists ∧ strictIds.layers = textLists.layers ∧
      isCompatible (.list (.list (.named "ID"))) textLists ∧ isCompatible plainTexts textLists ∧
      textLists.element = .scalar .string := by
  obtain ⟨shapes, _, layers, variants, names⟩ := compatible_shapes strictIds textLists
  have compatible := shapes.mpr ⟨2, "ID", .scalar .string, rfl, rfl, nofun, .inr ⟨rfl, rfl⟩⟩
  have texts : isCompatible plainTexts textLists := by decide
  exact ⟨compatible, layers compatible, variants _ ((variants_iff _ _).mpr rfl) compatible, texts,
    (names plainTexts compatible texts (by decide)).1⟩

end TypedQuery

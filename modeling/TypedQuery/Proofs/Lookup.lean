import Mathlib.Data.List.Sort
import Mathlib.Data.String.Basic
import TypedQuery.OrderedMap

/-!
Finding entries by their names: in a list that repeats no name, and in a map after an insertion. A
map whose keys increase is determined by what is found in it.
-/

set_option autoImplicit false

namespace TypedQuery

variable {α : Type}

theorem find_named (name : α → String) (items : List α) (distinct : (items.map name).Nodup) (item : α)
    (member : item ∈ items) : items.find? (fun other => name other = name item) = some item := by
  induction items with
  | nil => simp at member
  | cons head rest ih =>
      rw [List.map_cons, List.nodup_cons] at distinct
      rcases List.mem_cons.mp member with rfl | later
      · simp
      · have different : name head ≠ name item := by
          intro same
          exact distinct.1 (same ▸ List.mem_map_of_mem later)
        rw [List.find?_cons_of_neg (by simpa using different)]
        exact ih distinct.2 later

theorem find_name (name : α → String) (items : List α) (key : String) (item : α)
    (found : items.find? (fun other => name other = key) = some item) : item ∈ items ∧ name item = key :=
  ⟨List.mem_of_find?_eq_some found, by simpa using List.find?_some found⟩

theorem insert_member (key name : String) (value found : α) (map : OrderedMap α)
    (member : (name, found) ∈ map.insert key value) : (name = key ∧ found = value) ∨ (name, found) ∈ map := by
  induction map with
  | nil => simpa [OrderedMap.insert] using member
  | cons entry rest ih =>
      obtain ⟨head, old⟩ := entry
      unfold OrderedMap.insert at member
      split at member
      · simpa using member
      · split at member
        · rcases List.mem_cons.mp member with same | later
          · exact .inl (by simpa using same)
          · exact .inr (List.mem_cons_of_mem _ later)
        · rcases List.mem_cons.mp member with same | later
          · exact .inr (by simp [same])
          · exact (ih later).imp_right (List.mem_cons_of_mem _)

theorem insert_keeps (key name : String) (value found : α) (map : OrderedMap α)
    (different : name ≠ key) (member : (name, found) ∈ map) : (name, found) ∈ map.insert key value := by
  induction map with
  | nil => simp at member
  | cons entry rest ih =>
      obtain ⟨head, old⟩ := entry
      unfold OrderedMap.insert
      split
      · exact List.mem_cons_of_mem _ member
      · split
        · rename_i same
          rcases List.mem_cons.mp member with first | later
          · simp only [Prod.mk.injEq] at first
            exact absurd (first.1.trans same) different
          · exact List.mem_cons_of_mem _ later
        · rcases List.mem_cons.mp member with first | later
          · exact first ▸ List.mem_cons_self
          · exact List.mem_cons_of_mem _ (ih later)

theorem get_member (map : OrderedMap α) (name : String) (value : α) (found : map.get? name = some value) :
    (name, value) ∈ map := by
  obtain ⟨before, after, rfl, _⟩ := List.lookup_eq_some_iff.mp found
  exact List.mem_append_right _ List.mem_cons_self

theorem get_cons (head name : String) (value : α) (rest : OrderedMap α) :
    OrderedMap.get? name ((head, value) :: rest) = if head = name then some value else rest.get? name := by
  by_cases same : head = name
  · simp [OrderedMap.get?, same]
  · have different : (name == head) = false := by simpa using Ne.symm same
    simp [OrderedMap.get?, List.lookup_cons, different, same]

theorem get_insert (key name : String) (value : α) (map : OrderedMap α) :
    (map.insert key value).get? name = if key = name then some value else map.get? name := by
  induction map with
  | nil => exact get_cons key name value []
  | cons entry rest ih =>
      obtain ⟨head, old⟩ := entry
      unfold OrderedMap.insert
      split
      · exact get_cons key name value _
      · split
        · rename_i same
          rw [get_cons, get_cons, same]
          split <;> rfl
        · rename_i different
          rw [get_cons, get_cons, ih]
          by_cases same : head = name
          · rw [if_pos same, if_pos same, if_neg (same ▸ Ne.symm different)]
          · rw [if_neg same, if_neg same]

theorem insert_present (key : String) (value : α) (map : OrderedMap α) : (key, value) ∈ map.insert key value :=
  get_member _ _ _ (by rw [get_insert, if_pos rfl])

theorem get_of_list (entries : List (String × α)) (name : String) :
    ((OrderedMap.ofList entries).get? name).isSome ↔ ∃ entry ∈ entries, entry.1 = name := by
  have general (map : OrderedMap α) :
      ((entries.foldl (fun map entry => map.insert entry.1 entry.2) map).get? name).isSome ↔
        (∃ entry ∈ entries, entry.1 = name) ∨ (map.get? name).isSome := by
    induction entries generalizing map with
    | nil => simp
    | cons entry rest ih =>
        rw [List.foldl_cons, ih, get_insert]
        by_cases same : entry.1 = name <;> simp [same]
  exact (general []).trans (or_iff_left (by simp [OrderedMap.get?]))

def OrderedMap.Sorted (map : OrderedMap α) : Prop := map.Pairwise fun first second => first.1 < second.1

theorem insert_sorted (key : String) (value : α) (map : OrderedMap α) (sorted : map.Sorted) :
    (map.insert key value).Sorted := by
  induction map with
  | nil => exact List.pairwise_singleton _ _
  | cons entry rest ih =>
      obtain ⟨head, old⟩ := entry
      obtain ⟨above, below⟩ := List.pairwise_cons.mp sorted
      unfold OrderedMap.insert
      split
      · rename_i less
        refine List.pairwise_cons.mpr ⟨?_, sorted⟩
        rw [List.forall_mem_cons]
        exact ⟨less, fun later member => lt_trans less (above later member)⟩
      · rename_i notLess
        split
        · rename_i same
          exact List.pairwise_cons.mpr ⟨fun later member => same ▸ above later member, below⟩
        · rename_i different
          refine List.pairwise_cons.mpr ⟨?_, ih below⟩
          intro later member
          rcases insert_member _ _ _ _ _ member with ⟨same, _⟩ | old
          · rw [same]
            exact lt_of_le_of_ne (not_lt.mp notLess) different
          · exact above later old

theorem get_sorted (map : OrderedMap α) (sorted : map.Sorted) (name : String) (value : α) :
    map.get? name = some value ↔ (name, value) ∈ map := by
  refine ⟨get_member map name value, fun member => ?_⟩
  induction map with
  | nil => simp at member
  | cons entry rest ih =>
      obtain ⟨head, old⟩ := entry
      obtain ⟨above, below⟩ := List.pairwise_cons.mp sorted
      rw [get_cons]
      rcases List.mem_cons.mp member with same | later
      · obtain ⟨rfl, rfl⟩ := Prod.mk.inj same
        exact if_pos rfl
      · rw [if_neg (above _ later).ne]
        exact ih below later

theorem sorted_ext (first second : OrderedMap α) (sorted : first.Sorted) (sorted' : second.Sorted)
    (same : ∀ name, first.get? name = second.get? name) : first = second := by
  have irrefl : Std.Irrefl fun (entry other : String × α) => entry.1 < other.1 := ⟨fun entry => lt_irrefl entry.1⟩
  have antisymm : Std.Antisymm fun (entry other : String × α) => entry.1 < other.1 :=
    ⟨fun _ _ less greater => absurd greater less.asymm⟩
  refine List.Pairwise.eq_of_mem_iff sorted sorted' fun ⟨name, value⟩ => ?_
  rw [← get_sorted first sorted, ← get_sorted second sorted', same]

end TypedQuery

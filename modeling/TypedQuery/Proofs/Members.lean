import Mathlib.Data.List.Induction
import TypedQuery.Json.Basic

/-!
Members that are put into an object one after the other: each name keeps the place where it came
first and the value that came last.
-/

set_option autoImplicit false

namespace TypedQuery

theorem put_fresh (key : String) (value : Json) (fields : Json.Fields) (fresh : key ∉ fields.map Prod.fst) :
    Json.put key value fields = fields ++ [(key, value)] := by
  induction fields with
  | nil => rfl
  | cons entry rest ih =>
      obtain ⟨name, old⟩ := entry
      simp only [List.map_cons, List.mem_cons, not_or] at fresh
      rw [Json.put, if_neg (Ne.symm fresh.1), ih fresh.2, List.cons_append]

theorem put_names (key : String) (value : Json) (fields : Json.Fields) :
    (Json.put key value fields).map Prod.fst =
      if key ∈ fields.map Prod.fst then fields.map Prod.fst else fields.map Prod.fst ++ [key] := by
  induction fields with
  | nil => rfl
  | cons entry rest ih =>
      obtain ⟨name, old⟩ := entry
      rw [Json.put, List.map_cons]
      by_cases same : name = key
      · rw [if_pos same, if_pos (by rw [same]; exact List.mem_cons_self), List.map_cons]
      · have elsewhere : key ∈ name :: rest.map Prod.fst ↔ key ∈ rest.map Prod.fst :=
          ⟨fun member => (List.mem_cons.mp member).resolve_left (Ne.symm same), List.mem_cons_of_mem name⟩
        rw [if_neg same, List.map_cons, ih]
        simp only [elsewhere]
        split <;> rfl

theorem put_distinct (key : String) (value : Json) (fields : Json.Fields) (distinct : (fields.map Prod.fst).Nodup) :
    ((Json.put key value fields).map Prod.fst).Nodup := by
  rw [put_names]
  split
  · exact distinct
  · rename_i fresh
    exact List.nodup_append.mpr ⟨distinct, by simp, fun name member other alone same =>
      fresh (List.mem_singleton.mp alone ▸ same ▸ member)⟩

theorem lookup_entry (name key : String) (value : Json) (rest : Json.Fields) :
    ((key, value) :: rest).lookup name = if name = key then some value else rest.lookup name := by
  by_cases same : name = key
  · rw [if_pos same, same, List.lookup_cons_self]
  · rw [if_neg same, List.lookup_cons, beq_false_of_ne same]

theorem put_lookup (key name : String) (value : Json) (fields : Json.Fields) :
    (Json.put key value fields).lookup name = if name = key then some value else fields.lookup name := by
  induction fields with
  | nil => exact lookup_entry name key value []
  | cons entry rest ih =>
      obtain ⟨head, old⟩ := entry
      rw [Json.put]
      by_cases same : head = key
      · rw [if_pos same, lookup_entry, lookup_entry, same]
        by_cases here : name = key
        · rw [if_pos here, if_pos here]
        · rw [if_neg here, if_neg here, if_neg here]
      · rw [if_neg same, lookup_entry, lookup_entry, ih]
        by_cases here : name = head
        · rw [if_pos here, if_neg (here ▸ same), if_pos here]
        · rw [if_neg here, if_neg here]

theorem put_member (key : String) (value : Json) (fields : Json.Fields) (field : String × Json)
    (member : field ∈ Json.put key value fields) : field = (key, value) ∨ field ∈ fields := by
  induction fields with
  | nil => exact .inl (List.mem_singleton.mp member)
  | cons entry rest ih =>
      obtain ⟨head, old⟩ := entry
      rw [Json.put] at member
      split at member
      · rename_i same
        exact (List.mem_cons.mp member).imp (fun here => same ▸ here) (List.mem_cons_of_mem _)
      · rcases List.mem_cons.mp member with here | later
        · exact .inr (here ▸ List.mem_cons_self)
        · exact (ih later).imp_right (List.mem_cons_of_mem _)

theorem of_fields_concat (fields : Json.Fields) (key : String) (value : Json) :
    Json.ofFields (fields ++ [(key, value)]) = Json.put key value (Json.ofFields fields) := by
  rw [Json.ofFields, List.foldl_append]
  rfl

theorem of_fields_names (fields : Json.Fields) :
    (Json.ofFields fields).map Prod.fst = (fields.map Prod.fst).eraseDups := by
  induction fields using List.reverseRecOn with
  | nil => rfl
  | append_singleton fields field ih =>
      obtain ⟨key, value⟩ := field
      rw [of_fields_concat, put_names, ih, List.map_append, List.eraseDups_append]
      simp only [List.mem_eraseDups]
      by_cases known : key ∈ fields.map Prod.fst
      · simp [List.removeAll, known]
      · simp [List.removeAll, known, List.eraseDups_cons]

theorem of_fields_nodup (fields : Json.Fields) : ((Json.ofFields fields).map Prod.fst).Nodup := by
  induction fields using List.reverseRecOn with
  | nil => exact List.nodup_nil
  | append_singleton fields field ih => exact of_fields_concat fields field.1 field.2 ▸ put_distinct _ _ _ ih

theorem of_fields_lookup (fields : Json.Fields) (name : String) :
    (Json.ofFields fields).lookup name = fields.reverse.lookup name := by
  induction fields using List.reverseRecOn with
  | nil => rfl
  | append_singleton fields field ih =>
      obtain ⟨key, value⟩ := field
      rw [of_fields_concat, put_lookup, ih, List.reverse_concat, lookup_entry]

theorem of_fields_member (fields : Json.Fields) (field : String × Json) (member : field ∈ Json.ofFields fields) :
    field ∈ fields := by
  induction fields using List.reverseRecOn with
  | nil => exact member
  | append_singleton fields entry ih =>
      rw [of_fields_concat] at member
      rcases put_member _ _ _ _ member with rfl | before
      · exact List.mem_append_right _ List.mem_cons_self
      · exact List.mem_append_left _ (ih before)

theorem put_all_fresh (fields before : Json.Fields) (distinct : ((before ++ fields).map Prod.fst).Nodup) :
    fields.foldl (fun acc entry => Json.put entry.1 entry.2 acc) before = before ++ fields := by
  induction fields generalizing before with
  | nil => simp
  | cons entry rest ih =>
      have fresh : entry.1 ∉ before.map Prod.fst := by
        intro member
        simp only [List.map_append, List.map_cons] at distinct
        exact (List.nodup_append.mp distinct).2.2 _ member _ List.mem_cons_self rfl
      rw [List.foldl_cons, put_fresh entry.1 entry.2 before fresh, ih _ (by simpa using distinct)]
      simp

theorem of_fields_distinct (fields : Json.Fields) (distinct : (fields.map Prod.fst).Nodup) :
    Json.ofFields fields = fields := put_all_fresh fields [] distinct

end TypedQuery

import TypedQuery.Proofs.Loading
import TypedQuery.Proofs.Naming

/-!
What building a client checks, in which order, and what it makes of a builder: the selection depth, then the
schemas, each as it was added, then the headers, each as it was added.
-/

set_option autoImplicit false

namespace TypedQuery

def Header.lowered (name : String) : String := String.ofList (name.toList.map Char.toLower)

def Header.sent (headers : List (String × String)) : OrderedMap String :=
  OrderedMap.ofList (headers.map fun header => (Header.lowered header.1, header.2))

def Header.Sendable (header : String × String) : Prop := Header.isName header.1 ∧ Header.isValue header.2

instance (header : String × String) : Decidable (Header.Sendable header) := inferInstanceAs (Decidable (_ ∧ _))

-- Why a header cannot be sent: its name is looked at first.
def Header.Refused (name value reason : String) : Prop :=
  ¬ Header.isName name ∧ reason = "invalid HTTP header name" ∨
    Header.isName name ∧ ¬ Header.isValue value ∧ reason = "failed to parse header value"

inductive FirstFault (depth : Nat) (texts : List String) (headers : List (String × String)) : Failure → Prop
  | depth (zero : depth = 0) : FirstFault depth texts headers (.config (.invalid "selection_depth" "must be > 0"))
  | schema (before after : List String) (text : String) (error : SchemaError) (positive : depth ≠ 0)
      (split : texts = before ++ text :: after) (earlier : ∀ other ∈ before, ∃ schema, Schema.parse other = .ok schema)
      (refused : Schema.parse text = .error error) : FirstFault depth texts headers (.schema error)
  | header (before after : List (String × String)) (name value reason : String) (positive : depth ≠ 0)
      (parsed : ∀ text ∈ texts, ∃ schema, Schema.parse text = .ok schema)
      (split : headers = before ++ (name, value) :: after) (earlier : ∀ other ∈ before, Header.Sendable other)
      (refused : Header.Refused name value reason) : FirstFault depth texts headers (.config (.header name reason))

section Traversals

variable {ε α β : Type} (check : α → Except ε β)

theorem map_all_ok_iff (items : List α) (results : List β) :
    items.mapM check = .ok results ↔ List.Forall₂ (fun item result => check item = .ok result) items results := by
  induction items generalizing results with
  | nil =>
      constructor
      · intro same
        obtain rfl : [] = results := Except.ok.inj same
        exact .nil
      · rintro ⟨⟩
        rfl
  | cons item rest ih =>
      simp only [List.mapM_cons, bind_ok_iff, pure, Except.pure, Except.ok.injEq, List.forall₂_cons_left_iff]
      constructor
      · rintro ⟨first, checked, others, traversed, rfl⟩
        exact ⟨first, others, checked, (ih others).mp traversed, rfl⟩
      · rintro ⟨first, others, checked, traversed, rfl⟩
        exact ⟨first, checked, others, (ih others).mpr traversed, rfl⟩

theorem map_all_succeeds (items : List α) :
    (∃ results, items.mapM check = .ok results) ↔ ∀ item ∈ items, ∃ result, check item = .ok result := by
  induction items with
  | nil =>
      constructor
      · exact fun _ => nofun
      · exact fun _ => ⟨[], rfl⟩
  | cons item rest ih =>
      rw [List.forall_mem_cons, ← ih]
      simp only [List.mapM_cons, bind_ok_iff, pure, Except.pure, Except.ok.injEq]
      constructor
      · rintro ⟨_, first, checked, others, traversed, _⟩
        exact ⟨⟨first, checked⟩, others, traversed⟩
      · rintro ⟨⟨first, checked⟩, others, traversed⟩
        exact ⟨_, first, checked, others, traversed, rfl⟩

theorem map_all_fails_iff (items : List α) (fault : ε) :
    items.mapM check = .error fault ↔
      ∃ before item after, items = before ++ item :: after ∧ (∀ other ∈ before, ∃ result, check other = .ok result) ∧
        check item = .error fault := by
  induction items with
  | nil =>
      constructor
      · rintro ⟨⟩
      · rintro ⟨before, item, after, split, _⟩
        exact absurd split (by simp)
  | cons item rest ih =>
      cases checked : check item with
      | error own =>
          have failed : (item :: rest).mapM check = .error own := by
            rw [List.mapM_cons, checked]
            rfl
          rw [failed, Except.error.injEq]
          constructor
          · rintro rfl
            exact ⟨[], item, rest, rfl, List.forall_mem_nil _, checked⟩
          · rintro ⟨before, other, after, split, earlier, refused⟩
            cases before with
            | nil =>
                obtain ⟨rfl, _⟩ := List.cons.inj split
                exact Except.error.inj (checked.symm.trans refused)
            | cons first before =>
                obtain ⟨rfl, _⟩ := List.cons.inj split
                obtain ⟨result, passed⟩ := earlier item List.mem_cons_self
                cases checked.symm.trans passed
      | ok result =>
          have passed : (item :: rest).mapM check = .error fault ↔ rest.mapM check = .error fault := by
            rw [List.mapM_cons, checked]
            cases rest.mapM check <;> simp [bind, Except.bind, pure, Except.pure]
          rw [passed, ih]
          constructor
          · rintro ⟨before, other, after, rfl, earlier, refused⟩
            exact ⟨item :: before, other, after, rfl, List.forall_mem_cons.mpr ⟨⟨result, checked⟩, earlier⟩, refused⟩
          · rintro ⟨before, other, after, split, earlier, refused⟩
            cases before with
            | nil =>
                obtain ⟨rfl, _⟩ := List.cons.inj split
                cases checked.symm.trans refused
            | cons first before =>
                obtain ⟨rfl, rfl⟩ := List.cons.inj split
                exact ⟨before, other, after, rfl, (List.forall_mem_cons.mp earlier).2, refused⟩

end Traversals

section Headers

theorem lower_again (c : Char) : c.toLower.toLower = c.toLower := by
  by_cases ascii : c.toNat < 128
  · exact ascii_property (fun c => c.toLower.toLower = c.toLower) (by decide +kernel) c ascii
  · have kept : c.toLower = c := by
      delta Char.toLower
      rw [dif_neg]
      rintro ⟨_, high⟩
      exact ascii (Nat.lt_of_le_of_lt high (by decide : 90 < 128))
    rw [kept, kept]

theorem lowered_again (name : String) : Header.lowered (Header.lowered name) = Header.lowered name := by
  rw [Header.lowered, Header.lowered, String.toList_ofList, List.map_map]
  congr 1
  exact List.map_congr_left fun c _ => lower_again c

theorem check_ok_iff (name value : String) (entry : String × String) :
    Header.check name value = .ok entry ↔ Header.Sendable (name, value) ∧ entry = (Header.lowered name, value) := by
  rw [Header.check, Header.Sendable]
  by_cases named : Header.isName name
  · by_cases valued : Header.isValue value
    · simp only [named, valued, Bool.not_true, Bool.false_eq_true, if_false, Except.ok.injEq, and_self, true_and]
      exact eq_comm
    · simp [named, valued]
  · simp [named]

theorem check_error_iff (name value : String) (fault : ConfigError) :
    Header.check name value = .error fault ↔ ∃ reason, fault = .header name reason ∧ Header.Refused name value reason := by
  unfold Header.check Header.Refused
  by_cases named : Header.isName name
  · by_cases valued : Header.isValue value
    · simp [named, valued]
    · simp only [named, valued, Bool.not_true, Bool.not_false, Bool.false_eq_true, if_false, if_true, Except.error.injEq,
        not_true_eq_false, not_false_eq_true, false_and, false_or, true_and, exists_eq_right]
      exact eq_comm
  · simp only [named, Bool.not_false, if_true, Except.error.injEq, Bool.false_eq_true, not_false_eq_true, true_and,
      false_and, or_false, exists_eq_right]
    exact eq_comm

theorem checked_headers (headers entries : List (String × String)) :
    headers.mapM (fun (name, value) => Header.check name value) = .ok entries ↔
      (∀ header ∈ headers, Header.Sendable header) ∧
        entries = headers.map fun header => (Header.lowered header.1, header.2) := by
  rw [map_all_ok_iff]
  simp only [check_ok_iff]
  induction headers generalizing entries with
  | nil => simp
  | cons header rest ih =>
      rw [List.forall₂_cons_left_iff, List.forall_mem_cons, List.map_cons]
      constructor
      · rintro ⟨_, others, ⟨sendable, rfl⟩, checked, rfl⟩
        obtain ⟨each, rfl⟩ := (ih others).mp checked
        exact ⟨⟨sendable, each⟩, rfl⟩
      · rintro ⟨⟨sendable, each⟩, rfl⟩
        exact ⟨_, _, ⟨sendable, rfl⟩, (ih _).mpr ⟨each, rfl⟩, rfl⟩

theorem get_of_entries {α : Type} (entries : List (String × α)) (map : OrderedMap α) (key : String) :
    (entries.foldl (fun map entry => map.insert entry.1 entry.2) map).get? key =
      ((entries.filter (·.1 = key)).getLast?.map (·.2)).or (map.get? key) := by
  induction entries generalizing map with
  | nil => rfl
  | cons entry rest ih =>
      rw [List.foldl_cons, ih, get_insert]
      by_cases same : entry.1 = key
      · rw [if_pos same, List.filter_cons_of_pos (by simpa using same), List.getLast?_cons]
        cases (rest.filter (·.1 = key)).getLast? <;> rfl
      · rw [if_neg same, List.filter_cons_of_neg (by simpa using same)]

theorem entries_sorted {α : Type} (entries : List (String × α)) (map : OrderedMap α) (sorted : map.Sorted) :
    (entries.foldl (fun map entry => map.insert entry.1 entry.2) map).Sorted := by
  induction entries generalizing map with
  | nil => exact sorted
  | cons entry rest ih => exact ih _ (insert_sorted entry.1 entry.2 map sorted)

theorem sent_sorted (headers : List (String × String)) : (Header.sent headers).Sorted :=
  entries_sorted _ [] List.Pairwise.nil

theorem sorted_filter (map : OrderedMap String) (sorted : map.Sorted) (key value : String) (found : map.get? key = some value) :
    map.filter (·.1 = key) = [(key, value)] := by
  induction map with
  | nil => exact nomatch found
  | cons entry rest ih =>
      obtain ⟨above, below⟩ := List.pairwise_cons.mp sorted
      rw [get_cons] at found
      by_cases same : entry.1 = key
      · rw [if_pos same] at found
        have others : rest.filter (·.1 = key) = [] := by
          rw [List.filter_eq_nil_iff]
          intro other member
          simpa [← same] using (above other member).ne'
        rw [List.filter_cons_of_pos (by simpa using same), others, ← same, ← Option.some.inj found]
      · rw [if_neg same] at found
        rw [List.filter_cons_of_neg (by simpa using same)]
        exact ih below found

end Headers

section Building

theorem load_all_checked (texts : List String) (registry : Registry) :
    (registry.loadAll texts).1 = (texts.mapM Schema.parse).map fun _ => () := by
  induction texts generalizing registry with
  | nil => rfl
  | cons text rest ih =>
      rw [List.mapM_cons]
      cases parsed : Schema.parse text with
      | error error =>
          rw [load_all_refused registry text rest error parsed]
          rfl
      | ok schema =>
          rw [load_all_parsed registry text rest schema parsed, ih]
          cases rest.mapM Schema.parse <;> rfl

theorem load_all_after (texts : List String) (registry : Registry) (loaded : (registry.loadAll texts).1 = .ok ()) :
    (registry.loadAll texts).2 = registry.afterAll texts := by
  induction texts generalizing registry with
  | nil => rfl
  | cons text rest ih =>
      rw [Registry.afterAll, List.foldl_cons]
      cases parsed : Schema.parse text with
      | error error =>
          rw [load_all_refused registry text rest error parsed] at loaded
          cases loaded
      | ok schema =>
          rw [load_all_parsed registry text rest schema parsed] at loaded ⊢
          rw [after_loaded registry text schema parsed]
          exact ih _ loaded

theorem load_all_ok_iff (texts : List String) (registry : Registry) :
    (registry.loadAll texts).1 = .ok () ↔ ∀ text ∈ texts, ∃ schema, Schema.parse text = .ok schema := by
  rw [load_all_checked, map_ok_iff, ← map_all_succeeds]
  exact exists_congr fun schemas => and_iff_left rfl

theorem load_all_error_iff (texts : List String) (registry : Registry) (error : SchemaError) :
    (registry.loadAll texts).1 = .error error ↔
      ∃ before text after, texts = before ++ text :: after ∧
        (∀ other ∈ before, ∃ schema, Schema.parse other = .ok schema) ∧ Schema.parse text = .error error := by
  rw [load_all_checked, ← map_all_fails_iff]
  cases texts.mapM Schema.parse with
  | error other => exact iff_of_eq (by rw [Except.map, Except.error.injEq, Except.error.injEq])
  | ok schemas => constructor <;> rintro ⟨⟩

theorem build_staged (builder : ClientBuilder) (positive : builder.config.selectionDepth ≠ 0) :
    builder.build = (Registry.empty.loadAll builder.schemas).1.mapError Failure.schema >>= fun _ =>
      (Header.checkAll builder.headers).mapError Failure.config >>= fun headers =>
        .ok ⟨(Registry.empty.loadAll builder.schemas).2, { builder.config with headers := headers }, builder.retry⟩ := by
  unfold ClientBuilder.build
  rw [if_neg positive]

theorem check_all_ok_iff (headers : List (String × String)) (map : OrderedMap String) :
    Header.checkAll headers = .ok map ↔ (∀ header ∈ headers, Header.Sendable header) ∧ map = Header.sent headers := by
  rw [Header.checkAll, bind_ok_iff]
  constructor
  · rintro ⟨entries, checked, made⟩
    obtain ⟨sendable, rfl⟩ := (checked_headers headers entries).mp checked
    exact ⟨sendable, (Except.ok.inj made).symm⟩
  · rintro ⟨sendable, rfl⟩
    exact ⟨_, (checked_headers headers _).mpr ⟨sendable, rfl⟩, rfl⟩

theorem check_all_error_iff (headers : List (String × String)) (fault : ConfigError) :
    Header.checkAll headers = .error fault ↔ ∃ before name value after reason, headers = before ++ (name, value) :: after ∧
      (∀ other ∈ before, Header.Sendable other) ∧ fault = .header name reason ∧ Header.Refused name value reason := by
  have stopped : Header.checkAll headers = .error fault ↔
      headers.mapM (fun (name, value) => Header.check name value) = .error fault := by
    rw [Header.checkAll, bind_error_iff]
    constructor
    · rintro (failed | ⟨_, _, none⟩)
      · exact failed
      · exact nomatch none
    · exact .inl
  rw [stopped, map_all_fails_iff]
  constructor
  · rintro ⟨before, ⟨name, value⟩, after, split, earlier, refused⟩
    obtain ⟨reason, same, why⟩ := (check_error_iff name value fault).mp refused
    refine ⟨before, name, value, after, reason, split, fun other member => ?_, same, why⟩
    obtain ⟨_, passed⟩ := earlier other member
    exact ((check_ok_iff _ _ _).mp passed).1
  · rintro ⟨before, name, value, after, reason, split, earlier, same, why⟩
    have refused := (check_error_iff name value fault).mpr ⟨reason, same, why⟩
    refine ⟨before, (name, value), after, split, fun other member => ?_, refused⟩
    exact ⟨_, (check_ok_iff _ _ _).mpr ⟨earlier other member, rfl⟩⟩

theorem built_iff (builder : ClientBuilder) (client : Client) :
    builder.build = .ok client ↔
      builder.config.selectionDepth ≠ 0 ∧ (∀ text ∈ builder.schemas, ∃ schema, Schema.parse text = .ok schema) ∧
        (∀ header ∈ builder.headers, Header.Sendable header) ∧
        client = ⟨Registry.empty.afterAll builder.schemas,
          { builder.config with headers := Header.sent builder.headers }, builder.retry⟩ := by
  by_cases zero : builder.config.selectionDepth = 0
  · unfold ClientBuilder.build
    rw [if_pos zero]
    constructor
    · rintro ⟨⟩
    · rintro ⟨positive, _⟩
      exact absurd zero positive
  · simp only [build_staged builder zero, bind_ok_iff, map_error_ok_iff, check_all_ok_iff, Except.ok.injEq]
    constructor
    · rintro ⟨_, loaded, _, ⟨sendable, rfl⟩, rfl⟩
      exact ⟨zero, (load_all_ok_iff _ _).mp loaded, sendable, by rw [load_all_after _ _ loaded]⟩
    · rintro ⟨_, parsed, sendable, rfl⟩
      have loaded := (load_all_ok_iff builder.schemas Registry.empty).mpr parsed
      exact ⟨(), loaded, _, ⟨sendable, rfl⟩, by rw [load_all_after _ _ loaded]⟩

theorem unbuilt_iff (builder : ClientBuilder) (failure : Failure) :
    builder.build = .error failure ↔
      FirstFault builder.config.selectionDepth builder.schemas builder.headers failure := by
  by_cases zero : builder.config.selectionDepth = 0
  · unfold ClientBuilder.build
    rw [if_pos zero, Except.error.injEq]
    constructor
    · rintro rfl
      exact .depth zero
    · intro first
      cases first with
      | depth => rfl
      | schema _ _ _ _ positive => exact absurd zero positive
      | header _ _ _ _ _ positive => exact absurd zero positive
  · rw [build_staged builder zero]
    simp only [bind_error_iff, map_error_error_iff, map_error_ok_iff, check_all_error_iff, load_all_error_iff,
      reduceCtorEq, and_false, exists_false, or_false]
    constructor
    · rintro (⟨error, ⟨before, text, after, split, earlier, refused⟩, rfl⟩ |
        ⟨_, parsed, fault, ⟨before, name, value, after, reason, split, earlier, rfl, why⟩, rfl⟩)
      · exact .schema before after text error zero split earlier refused
      · exact .header before after name value reason zero ((load_all_ok_iff _ _).mp parsed) split earlier why
    · intro first
      cases first with
      | depth none => exact absurd none zero
      | schema before after text error _ split earlier refused =>
          exact .inl ⟨error, ⟨before, text, after, split, earlier, refused⟩, rfl⟩
      | header before after name value reason _ parsed split earlier why =>
          have loaded := (load_all_ok_iff builder.schemas Registry.empty).mpr parsed
          exact .inr ⟨(), loaded, _, ⟨before, name, value, after, reason, split, earlier, rfl, why⟩, rfl⟩

end Building

end TypedQuery

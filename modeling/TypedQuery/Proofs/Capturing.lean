import TypedQuery.Capture
import TypedQuery.Proofs.Lines
import TypedQuery.Proofs.Soundness
import TypedQuery.Proofs.Timestamps

/-!
Captures that are shared through clones of their handles. Whatever is pushed through which handle, a capture
holds the well-formed entries that were pushed to it, in order, and its lines are their texts.
-/

set_option autoImplicit false

namespace TypedQuery

def Json.IsEntry (entry : Json) : Prop :=
  ∃ fields, entry = .obj fields ∧ (∀ key ∈ Capture.requiredKeys, ∃ value, fields.lookup key = some value) ∧
    (∃ text, fields.lookup "timestamp" = some (.str text) ∧ Timestamp text.toList) ∧
    ∃ result ∈ Capture.results, fields.lookup "result" = some (.str result)

structure Handles where
  captures : List Capture
  targets : List Nat
deriving DecidableEq

inductive Use where
  | create
  | clone (handle : Nat)
  | push (handle : Nat) (entry : Json)

namespace Handles

-- A clone stands for the same capture as its original, and a push goes to what the handle stands for.
def after (handles : Handles) : Use → Handles
  | .create => ⟨handles.captures ++ [.empty], handles.targets ++ [handles.captures.length]⟩
  | .clone handle => ⟨handles.captures, handles.targets ++ handles.targets[handle]?.toList⟩
  | .push handle entry =>
      match handles.targets[handle]? with
      | none => handles
      | some target =>
          ⟨handles.captures.modify target fun capture => (capture.push entry).2, handles.targets⟩

def run (handles : Handles) (history : List Use) : Handles := history.foldl after handles

def ofHistory (history : List Use) : Handles := run ⟨[], []⟩ history

def capture? (handles : Handles) (handle : Nat) : Option Capture :=
  handles.targets[handle]?.bind fun target => handles.captures[target]?

def entries (handles : Handles) (target : Nat) : List Json :=
  (handles.captures[target]?.map (·.entries)).getD []

def Sound (handles : Handles) : Prop := ∀ target ∈ handles.targets, target < handles.captures.length

end Handles

def Use.Proper (count : Nat) : Use → Prop
  | .create => True
  | .clone handle | .push handle _ => handle < count

def Use.made : Use → Nat
  | .create | .clone _ => 1
  | .push _ _ => 0

def Proper : Nat → List Use → Prop
  | _, [] => True
  | count, use :: rest => use.Proper count ∧ Proper (count + use.made) rest

def Use.pushed? (targets : List Nat) (target : Option Nat) : Use → Option Json
  | .push handle entry => if targets[handle]? = target then some entry else none
  | .create | .clone _ => none

-- What is pushed to the capture of a handle, through this handle or another.
def pushes (history : List Use) (handle : Nat) : List Json :=
  let targets := (Handles.ofHistory history).targets
  history.filterMap (·.pushed? targets targets[handle]?)

section Entries

theorem timestamp_iff (value : Json) :
    Capture.isTimestamp value ↔ ∃ text, value = .str text ∧ Timestamp text.toList := by
  cases value with
  | str text =>
      have read := timestamp_read text
      rw [← is_ok_iff] at read
      constructor
      · intro accepted
        refine ⟨text, rfl, read.mp ?_⟩
        cases parsed : Instant.parseStrict text with
        | ok instant => rfl
        | error fault =>
            rw [Capture.isTimestamp, parsed] at accepted
            exact nomatch accepted
      · rintro ⟨_, same, timestamp⟩
        obtain rfl := Json.str.inj same
        obtain ⟨instant, parsed⟩ := (is_ok_iff _).mp (read.mpr timestamp)
        rw [Capture.isTimestamp, parsed]
  | null | bool | int | double | arr | obj => exact ⟨nofun, nofun⟩

theorem result_iff (value : Json) : Capture.isResult value ↔ ∃ result ∈ Capture.results, value = .str result := by
  cases value with
  | str text =>
      rw [Capture.isResult, List.contains_iff_mem]
      constructor
      · exact fun known => ⟨text, known, rfl⟩
      · rintro ⟨_, known, same⟩
        exact Json.str.inj same ▸ known
  | null | bool | int | double | arr | obj =>
      constructor
      · exact nofun
      · rintro ⟨_, _, same⟩
        exact nomatch same

theorem entry_fault_iff (entry : Json) : Capture.entryFault? entry = none ↔ entry.IsEntry := by
  cases entry with
  | obj fields =>
      rw [Capture.entryFault?]
      cases missing : Capture.requiredKeys.find? fun key => (fields.lookup key).isNone with
      | some key =>
          constructor
          · exact nofun
          · rintro ⟨_, same, present, _⟩
            obtain rfl := Json.obj.inj same
            obtain ⟨value, found⟩ := present key (List.mem_of_find?_eq_some missing)
            have absent := List.find?_some missing
            rw [found] at absent
            exact nomatch absent
      | none =>
          have present (key : String) (required : key ∈ Capture.requiredKeys) :
              ∃ value, fields.lookup key = some value := by
            have found := List.find?_eq_none.mp missing key required
            exact Option.ne_none_iff_exists'.mp fun absent => found (Option.isNone_iff_eq_none.mpr absent)
          obtain ⟨timestamp, at_time⟩ := present "timestamp" (by decide)
          obtain ⟨result, with_result⟩ := present "result" (by decide)
          dsimp only
          rw [at_time, with_result, Option.getD_some, Option.getD_some]
          constructor
          · intro accepted
            by_cases timed : Capture.isTimestamp timestamp
            · by_cases known : Capture.isResult result
              · obtain ⟨text, rfl, shown⟩ := (timestamp_iff timestamp).mp timed
                obtain ⟨outcome, listed, rfl⟩ := (result_iff result).mp known
                exact ⟨fields, rfl, present, ⟨text, at_time, shown⟩, outcome, listed, with_result⟩
              · simp only [timed, known, Bool.not_true, Bool.not_false, Bool.false_eq_true, if_true, if_false,
                  reduceCtorEq] at accepted
            · simp only [timed, Bool.not_false, if_true, reduceCtorEq] at accepted
          · rintro ⟨_, same, _, ⟨text, at_text, shown⟩, outcome, listed, with_outcome⟩
            obtain rfl := Json.obj.inj same
            have timed := (timestamp_iff timestamp).mpr ⟨text, Option.some.inj (at_time.symm.trans at_text), shown⟩
            have known := (result_iff result).mpr ⟨outcome, listed, Option.some.inj (with_result.symm.trans with_outcome)⟩
            simp only [timed, known, Bool.not_true, Bool.false_eq_true, if_false]
  | null | bool | int | double | str | arr =>
      constructor
      · exact nofun
      · rintro ⟨_, same, _⟩
        exact nomatch same

instance (entry : Json) : Decidable entry.IsEntry := decidable_of_iff _ (entry_fault_iff entry)

section Pushes

variable (capture : Capture) (entry : Json)

theorem push_accepted (rules : entry.IsEntry) : capture.push entry = (.ok (), ⟨capture.entries ++ [entry]⟩) := by
  rw [Capture.push, (entry_fault_iff entry).mpr rules]

theorem push_refused (breaks : ¬ entry.IsEntry) : ∃ fault, capture.push entry = (.error fault, capture) := by
  rw [← entry_fault_iff] at breaks
  obtain ⟨fault, found⟩ := Option.ne_none_iff_exists'.mp breaks
  rw [Capture.push, found]
  exact ⟨fault, rfl⟩

theorem push_ok_iff : (capture.push entry).1 = .ok () ↔ entry.IsEntry := by
  by_cases rules : entry.IsEntry
  · rw [push_accepted capture entry rules]
    exact ⟨fun _ => rules, fun _ => rfl⟩
  · obtain ⟨fault, refused⟩ := push_refused capture entry rules
    rw [refused]
    exact ⟨nofun, fun followed => absurd followed rules⟩

theorem pushed_entries : (capture.push entry).2.entries = capture.entries ++ [entry].filter (·.IsEntry) := by
  rw [List.filter_singleton]
  by_cases rules : entry.IsEntry
  · rw [push_accepted capture entry rules, decide_eq_true rules]
    rfl
  · obtain ⟨fault, refused⟩ := push_refused capture entry rules
    rw [refused, decide_eq_false rules]
    exact (List.append_nil _).symm

end Pushes

end Entries

section Steps

variable (handles : Handles) (use : Use)

theorem targets_grow : handles.targets <+: (handles.after use).targets := by
  cases use with
  | create => exact List.prefix_append _ _
  | clone handle => exact List.prefix_append _ _
  | push handle entry =>
      rw [Handles.after]
      split <;> exact List.prefix_refl _

theorem after_sound (sound : handles.Sound) : (handles.after use).Sound := by
  intro target member
  cases use with
  | create =>
      rw [Handles.after, List.length_append, List.length_singleton]
      rcases List.mem_append.mp member with old | new
      · exact Nat.lt_succ_of_lt (sound target old)
      · rw [List.mem_singleton.mp new]
        exact Nat.lt_succ_self _
  | clone handle =>
      rcases List.mem_append.mp member with old | new
      · exact sound target old
      · exact sound target (List.mem_of_getElem? (Option.mem_toList.mp new))
  | push handle entry =>
      rw [Handles.after] at member ⊢
      split at member
      · exact sound target member
      · dsimp only
        rw [List.length_modify]
        exact sound target member

theorem after_count (proper : use.Proper handles.targets.length) :
    (handles.after use).targets.length = handles.targets.length + use.made := by
  cases use with
  | create => exact List.length_append
  | clone handle =>
      rw [Handles.after, List.getElem?_eq_getElem proper, List.length_append]
      rfl
  | push handle entry =>
      rw [Handles.after]
      split <;> rfl

theorem after_entries (sound : handles.Sound) (target : Nat) :
    (handles.after use).entries target =
      handles.entries target ++ (use.pushed? handles.targets (some target)).toList.filter (·.IsEntry) := by
  cases use with
  | create =>
      refine Eq.trans ?_ (List.append_nil _).symm
      rw [Handles.after, Handles.entries, Handles.entries]
      rcases Nat.lt_trichotomy target handles.captures.length with old | rfl | far
      · rw [List.getElem?_append_left old]
      · rw [List.getElem?_concat_length, List.getElem?_eq_none (Nat.le_refl _)]
        rfl
      · rw [List.getElem?_eq_none (Nat.le_of_lt far), List.getElem?_eq_none]
        rw [List.length_append, List.length_singleton]
        exact far
  | clone handle => exact (List.append_nil _).symm
  | push handle entry =>
      rw [Handles.after, Use.pushed?]
      cases stands : handles.targets[handle]? with
      | none => exact (List.append_nil _).symm
      | some other =>
          have reached : other < handles.captures.length := sound other (List.mem_of_getElem? stands)
          dsimp only
          rw [Handles.entries, List.getElem?_modify, Handles.entries]
          by_cases same : other = target
          · subst same
            rw [if_pos rfl, List.getElem?_eq_getElem reached]
            generalize handles.captures[other] = capture
            change (if other = other then (capture.push entry).2 else capture).entries = _
            rw [if_pos rfl]
            exact pushed_entries capture entry
          · rw [if_neg (fun stood => same (Option.some.inj stood))]
            refine Eq.trans ?_ (List.append_nil _).symm
            cases handles.captures[target]? with
            | none => rfl
            | some capture => rw [Option.map_eq_map, Option.map_some, if_neg same]

end Steps

section Runs

variable (history : List Use) (handles : Handles)

theorem run_grows : handles.targets <+: (handles.run history).targets := by
  induction history generalizing handles with
  | nil => exact List.prefix_refl _
  | cons use rest ih => exact (targets_grow handles use).trans (ih (handles.after use))

theorem run_sound (sound : handles.Sound) : (handles.run history).Sound := by
  induction history generalizing handles with
  | nil => exact sound
  | cons use rest ih => exact ih (handles.after use) (after_sound handles use sound)

-- What a handle stands for does not change once there is the handle.
theorem pushed_later (use : Use) (proper : use.Proper handles.targets.length) (later : List Nat)
    (grown : handles.targets <+: later) (target : Option Nat) :
    use.pushed? later target = use.pushed? handles.targets target := by
  cases use with
  | create => rfl
  | clone handle => rfl
  | push handle entry =>
      obtain ⟨more, rfl⟩ := grown
      rw [Use.pushed?, Use.pushed?, List.getElem?_append_left proper]

theorem run_entries (sound : handles.Sound) (proper : Proper handles.targets.length history) (target : Nat) :
    (handles.run history).entries target = handles.entries target ++
      (history.filterMap (·.pushed? (handles.run history).targets (some target))).filter (·.IsEntry) := by
  induction history generalizing handles with
  | nil => exact (List.append_nil _).symm
  | cons use rest ih =>
      obtain ⟨first, later⟩ := proper
      rw [← after_count handles use first] at later
      have grown := (targets_grow handles use).trans (run_grows rest (handles.after use))
      have kept := pushed_later handles use first _ grown (some target)
      have filed : (use :: rest).filterMap (·.pushed? ((handles.after use).run rest).targets (some target)) =
          (use.pushed? handles.targets (some target)).toList ++
            rest.filterMap (·.pushed? ((handles.after use).run rest).targets (some target)) := by
        rw [List.filterMap_cons, kept]
        cases use.pushed? handles.targets (some target) <;> rfl
      calc
        (handles.run (use :: rest)).entries target
            = (handles.after use).entries target ++ _ := ih (handles.after use) (after_sound handles use sound) later
        _ = handles.entries target ++ ((use.pushed? handles.targets (some target)).toList.filter (·.IsEntry) ++ _) := by
              rw [after_entries handles use sound target, List.append_assoc]
        _ = _ := by
              rw [← List.filter_append, ← filed]
              rfl

theorem handle_reached (known : handles.Sound) (handle : Nat) (made : handle < handles.targets.length) :
    ∃ target capture, handles.targets[handle]? = some target ∧ handles.capture? handle = some capture ∧
      handles.entries target = capture.entries := by
  have target := List.getElem?_eq_getElem made
  have reached : handles.targets[handle] < handles.captures.length := known _ (List.getElem_mem made)
  have capture := List.getElem?_eq_getElem reached
  refine ⟨_, handles.captures[handles.targets[handle]], target, ?_, ?_⟩
  · rw [Handles.capture?, target, Option.bind_some]
    exact capture
  · rw [Handles.entries, capture]
    rfl

theorem held_entries (proper : Proper 0 history) (handle : Nat)
    (made : handle < (Handles.ofHistory history).targets.length) :
    ∃ capture, (Handles.ofHistory history).capture? handle = some capture ∧
      capture.entries = (pushes history handle).filter (·.IsEntry) := by
  have start : Handles.Sound ⟨[], []⟩ := nofun
  obtain ⟨target, capture, stands, found, same⟩ := handle_reached _ (run_sound history _ start) handle made
  refine ⟨capture, found, ?_⟩
  have entries := run_entries history ⟨[], []⟩ start proper target
  rw [pushes, Handles.ofHistory, stands, ← same]
  exact entries

theorem refused_push (handle : Nat) (entry : Json) (refused : ¬ entry.IsEntry) :
    handles.after (.push handle entry) = handles := by
  have unchanged : (fun capture : Capture => (capture.push entry).2) = id := by
    funext capture
    obtain ⟨fault, left⟩ := push_refused capture entry refused
    rw [left]
    rfl
  rw [Handles.after]
  split
  · rfl
  · rw [unchanged, List.modify_id]

end Runs

section Texts

variable (capture : Capture)

theorem validate_fault_iff (entries : ∀ entry ∈ capture.entries, entry.IsEntry) :
    (∃ fault, capture.validate = .error fault) ↔ capture.entries = [] := by
  have sound : (capture.entries.findSome? fun entry => (Capture.entryFault? entry).map (entry, ·)) = none := by
    rw [List.findSome?_eq_none_iff]
    intro entry member
    rw [(entry_fault_iff entry).mpr (entries entry member)]
    rfl
  rw [Capture.validate, sound]
  by_cases empty : capture.entries = []
  · rw [empty]
    exact ⟨fun _ => rfl, fun _ => ⟨.noEntries, rfl⟩⟩
  · rw [if_neg (by simpa using empty)]
    constructor
    · rintro ⟨fault, failed⟩
      exact nomatch failed
    · exact fun none => absurd none empty

theorem entry_text (entry : Json) (rules : entry.IsEntry) : entry.compactChars ≠ [] := by
  obtain ⟨fields, rfl, _⟩ := rules
  exact nofun

theorem captured_lines (entries : ∀ entry ∈ capture.entries, entry.IsEntry) :
    Text.lines capture.lines.toList = capture.entries.map Json.compactChars := by
  have texts : capture.lines.toList = List.intercalate ['\n'] (capture.entries.map Json.compactChars) := by
    rw [Capture.lines, String.toList_intercalate, List.map_map]
    congr 1
    exact List.map_congr_left fun entry _ => String.toList_ofList
  rw [texts]
  refine Text.lines_intercalate _ fun text member => ?_
  obtain ⟨entry, recorded, rfl⟩ := List.mem_map.mp member
  exact ⟨entry_text entry (entries entry recorded), Json.compact_printable entry⟩

theorem lines_parsed (entries : List Json)
    (fitting : ∀ entry ∈ entries, entry.Whole ∧ Json.Fits Json.nestingLimit entry) :
    (entries.map Json.compactChars).mapM (fun line => Json.parse (String.ofList line)) = .ok entries := by
  induction entries with
  | nil => rfl
  | cons entry rest ih =>
      obtain ⟨⟨whole, fits⟩, fitting⟩ := List.forall_mem_cons.mp fitting
      have read : Json.parse (String.ofList entry.compactChars) = .ok entry :=
        Json.parse_written _ entry (Json.compact_tokens entry whole) fits
      rw [List.map_cons, List.mapM_cons, read, ih fitting]
      rfl

end Texts

theorem captures_hold_accepted_pushes (history : List Use) (proper : Proper 0 history) (handle : Nat)
    (made : handle < (Handles.ofHistory history).targets.length) :
    ∃ capture, (Handles.ofHistory history).capture? handle = some capture ∧
      capture.entries = (pushes history handle).filter (·.IsEntry) ∧
      (∀ entry, (capture.push entry).1 = .ok () ↔ entry.IsEntry) ∧
      (∀ entry, ¬ entry.IsEntry → (∃ fault, capture.push entry = (.error fault, capture)) ∧
        Handles.ofHistory (history ++ [.push handle entry]) = Handles.ofHistory history) ∧
      ((∃ fault, capture.validate = .error fault) ↔ ∀ entry ∈ pushes history handle, ¬ entry.IsEntry) ∧
      Text.lines capture.lines.toList = capture.entries.map Json.compactChars ∧
      (∀ entry ∈ capture.entries, entry.IsEntry ∧ Text.Printable entry.compactChars) ∧
      ((∀ entry ∈ capture.entries, entry.Whole ∧ Json.Fits Json.nestingLimit entry) →
        (Text.lines capture.lines.toList).mapM (fun line => Json.parse (String.ofList line)) = .ok capture.entries) := by
  obtain ⟨capture, found, held⟩ := held_entries history proper handle made
  have entries (entry : Json) (member : entry ∈ capture.entries) : entry.IsEntry := by
    rw [held] at member
    exact of_decide_eq_true (List.mem_filter.mp member).2
  have lines := captured_lines capture entries
  refine ⟨capture, found, held, ?_, ?_, ?_, lines, ?_, ?_⟩
  · exact push_ok_iff capture
  · intro entry refused
    refine ⟨push_refused capture entry refused, ?_⟩
    rw [Handles.ofHistory, Handles.run, List.foldl_concat]
    exact refused_push _ handle entry refused
  · rw [validate_fault_iff capture entries, held, List.filter_eq_nil_iff]
    simp only [decide_eq_true_eq]
  · exact fun entry member => ⟨entries entry member, Json.compact_printable entry⟩
  · intro fitting
    rw [lines]
    exact lines_parsed capture.entries fitting

def brokenEntry : Json :=
  .obj [("timestamp", .str "2024-02-29t23:59:60.5+01:00"), ("level", .str "info"), ("test_name", .str "two\r\nlines"),
    ("module", .str "m"), ("phase", .str "verify"), ("correlation_id", .null), ("result", .str "pass"),
    ("note\n", .arr [.str "\x01", .int (-3), .obj [("", .bool true)]])]

def sharedHistory : List Use :=
  [.create, .create, .push 0 (.obj [("result", .str "pass")]), .clone 0, .push 2 brokenEntry, .push 1 .null]

theorem broken_entry_captured :
    ∃ capture, (Handles.ofHistory sharedHistory).capture? 0 = some capture ∧ capture.entries = [brokenEntry] ∧
      (Text.lines capture.lines.toList).mapM (fun line => Json.parse (String.ofList line)) = .ok [brokenEntry] := by
  have proper : Proper 0 sharedHistory :=
    ⟨trivial, trivial, (by decide : 0 < 2), (by decide : 0 < 2), (by decide : 2 < 3), (by decide : 1 < 3), trivial⟩
  have pushed : (pushes sharedHistory 0).filter (·.IsEntry) = [brokenEntry] := by decide +kernel
  obtain ⟨capture, found, held, _, _, _, _, _, parsed⟩ :=
    captures_hold_accepted_pushes sharedHistory proper 0 (by decide)
  rw [pushed] at held
  rw [held] at parsed
  have fits : Json.Fits Json.nestingLimit brokenEntry := ⟨by decide, by decide⟩
  exact ⟨capture, found, held, parsed (List.forall_mem_singleton.mpr ⟨by decide, fits⟩)⟩

end TypedQuery

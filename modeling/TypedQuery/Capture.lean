import TypedQuery.Json.Printer
import TypedQuery.Time

/-!
A capture of structured log entries: only entries that carry the required keys, a strict timestamp
and a known result are recorded.
-/

set_option autoImplicit false

namespace TypedQuery

inductive EntryFault where
  | notAnObject
  | missingKey (key : String)
  | badTimestamp (shown : String)
  | badResult (shown : String)
deriving DecidableEq, Repr

def EntryFault.message : EntryFault → String
  | .notAnObject => "log entry must be a JSON object"
  | .missingKey key => s!"log entry is missing `{key}`"
  | .badTimestamp shown => s!"log entry timestamp is not RFC 3339: {shown}"
  | .badResult shown => s!"log entry result must be pass, fail or skip, got {shown}"

structure Capture where
  entries : List Json
deriving DecidableEq

inductive CaptureFault where
  | noEntries
  | malformed (entry : Json) (fault : EntryFault)
deriving DecidableEq

def CaptureFault.message : CaptureFault → String
  | .noEntries => "no structured test log entries recorded"
  | .malformed entry fault =>
      s!"invalid structured test log entry {entry.compact}: {fault.message}"

namespace Capture

def empty : Capture := ⟨[]⟩

def requiredKeys : List String :=
  ["timestamp", "level", "test_name", "module", "phase", "correlation_id", "result"]

def results : List String := ["pass", "fail", "skip"]

def isTimestamp : Json → Bool
  | .str text => match Instant.parseStrict text with
    | .ok _ => true
    | .error _ => false
  | _ => false

def isResult : Json → Bool
  | .str text => results.contains text
  | _ => false

def entryFault? : Json → Option EntryFault
  | .obj fields =>
      match requiredKeys.find? fun key => (fields.lookup key).isNone with
      | some key => some (.missingKey key)
      | none =>
          let timestamp := (fields.lookup "timestamp").getD .null
          let result := (fields.lookup "result").getD .null
          if !isTimestamp timestamp then some (.badTimestamp timestamp.compact)
          else if !isResult result then some (.badResult result.compact)
          else none
  | _ => some .notAnObject

def push (capture : Capture) (entry : Json) : Except EntryFault Unit × Capture :=
  match entryFault? entry with
  | some fault => (.error fault, capture)
  | none => (.ok (), ⟨capture.entries ++ [entry]⟩)

def lines (capture : Capture) : String :=
  String.intercalate "\n" (capture.entries.map Json.compact)

def validate (capture : Capture) : Except CaptureFault Unit :=
  if capture.entries.isEmpty then .error .noEntries
  else
    match capture.entries.findSome? fun entry => (entryFault? entry).map (entry, ·) with
    | some (entry, fault) => .error (.malformed entry fault)
    | none => .ok ()

end Capture

end TypedQuery

import TypedQuery.Duration
import TypedQuery.Failure
import TypedQuery.OrderedMap
import TypedQuery.Redaction
import TypedQuery.Selection
import TypedQuery.Text.Blank
import TypedQuery.Toml.Grammar

/-!
Client profiles: declarative settings, read from TOML or from a JSON value and checked for
consistency.
-/

set_option autoImplicit false

namespace TypedQuery

structure LoggingConfig where
  level : String
  json : Bool
  redactFields : List String
deriving DecidableEq, Repr

def LoggingConfig.default : LoggingConfig := ⟨"info", false, defaultRedacted⟩

structure Profile where
  endpoint : String
  timeoutSecs : UInt64
  selectionDepth : Nat
  depthOverrides : OrderedMap Nat
  modelNamespaces : List String
  headers : OrderedMap String
  bearerTokenEnv : Option String
  logging : LoggingConfig
deriving DecidableEq, Repr

def defaultTimeoutSecs : UInt64 := 30

namespace LoggingConfig

def shape : RecordShape :=
  ⟨"LoggingConfig", .foreign "LoggingConfig",
    [⟨"level", .string, .filled (.str default.level)⟩,
      ⟨"json", .bool, .filled (.bool default.json)⟩,
      ⟨"redact_fields", .list .string, .filled (.list (default.redactFields.map .str))⟩], true⟩

def textOf? : WireValue → Option String
  | .str text => some text
  | _ => none

def ofWire? : WireValue → Option LoggingConfig
  | .record [("level", .str level), ("json", .bool json), ("redact_fields", .list fields)] =>
      (fields.mapM textOf?).map fun fields => ⟨level, json, fields⟩
  | _ => none

def toWire (config : LoggingConfig) : WireValue :=
  .record [("level", .str config.level), ("json", .bool config.json),
    ("redact_fields", .list (config.redactFields.map .str))]

end LoggingConfig

namespace Profile

open LoggingConfig (textOf?)

def shape : RecordShape :=
  ⟨"ClientProfile", .foreign "ClientProfile",
    [⟨"endpoint", .string, .required⟩,
      ⟨"timeout_secs", .int (.unsigned 64), .filled (.int defaultTimeoutSecs.toNat)⟩,
      ⟨"selection_depth", .int .size, .filled (.int defaultDepth)⟩,
      ⟨"depth_overrides", .map (.int .size), .filled (.map [])⟩,
      ⟨"model_namespaces", .list .string, .filled (.list [])⟩,
      ⟨"headers", .map .string, .filled (.map [])⟩,
      ⟨"bearer_token_env", .option .string, .filled .absent⟩,
      ⟨"logging", .record "LoggingConfig", .filled LoggingConfig.default.toWire⟩], true⟩

def records : RecordTable := RecordTable.ofShapes [shape, LoggingConfig.shape]

def depthOf? : String × WireValue → Option (String × Nat)
  | (name, .int depth) => some (name, depth.toNat)
  | _ => none

def headerOf? : String × WireValue → Option (String × String)
  | (name, .str value) => some (name, value)
  | _ => none

def optionalText? : WireValue → Option (Option String)
  | .absent => some none
  | .str text => some (some text)
  | _ => none

def ofWire? : WireValue → Option Profile
  | .record [("endpoint", .str endpoint), ("timeout_secs", .int timeout),
      ("selection_depth", .int depth), ("depth_overrides", .map overrides),
      ("model_namespaces", .list namespaces), ("headers", .map headers),
      ("bearer_token_env", variableName), ("logging", logging)] => do
      let overrides ← overrides.mapM depthOf?
      let namespaces ← namespaces.mapM textOf?
      let headers ← headers.mapM headerOf?
      let variableName ← optionalText? variableName
      let logging ← LoggingConfig.ofWire? logging
      some ⟨endpoint, timeout.toNat.toUInt64, depth.toNat, OrderedMap.ofList overrides, namespaces,
        OrderedMap.ofList headers, variableName, logging⟩
  | _ => none

def ofJson (value : Json) : Except Mismatch Profile := do
  match ofWire? (← WireType.decode records (.record "ClientProfile") value) with
  | some profile => .ok profile
  | none => .error (.type (Found.ofJson value) "struct ClientProfile")

/-- Settings of a record that are written as an array are taken in order; more are not looked at. -/
def cutLogging : String × Json → String × Json
  | ("logging", .arr items) => ("logging", .arr (items.take LoggingConfig.shape.fields.length))
  | other => other

def ofToml (text : String) : Except ConfigError Profile :=
  match Toml.parse? text with
  | some (.obj fields) =>
      match ofJson (.obj (fields.map cutLogging)) with
      | .ok profile => .ok profile
      | .error _ => .error .malformedProfile
  | _ => .error .malformedProfile

def timeout (profile : Profile) : Duration := .ofSeconds profile.timeoutSecs

def isEndpoint (text : String) : Bool :=
  let trimmed := Text.trim text.toList
  "http://".toList.isPrefixOf trimmed || "https://".toList.isPrefixOf trimmed

def fault? (profile : Profile) : Option ConfigError :=
  if !isEndpoint profile.endpoint then
    some (.invalid "endpoint" "must be an http:// or https:// URL")
  else if profile.timeoutSecs = 0 then some (.invalid "timeout_secs" "must be > 0")
  else if profile.selectionDepth = 0 then some (.invalid "selection_depth" "must be > 0")
  else match List.find? (fun (_, depth) => depth = 0) profile.depthOverrides with
    | some (name, _) => some (.invalid "depth_overrides" s!"depth for `{name}` must be > 0")
    | none =>
        if profile.modelNamespaces.any Text.isBlankText then
          some (.invalid "model_namespaces" "namespaces must not be blank")
        else if profile.bearerTokenEnv.any Text.isBlankText then
          some (.invalid "bearer_token_env" "must name an environment variable")
        else none

def validate (profile : Profile) : Except ConfigError Unit :=
  match profile.fault? with
  | some fault => .error fault
  | none => .ok ()

def parse (text : String) : Except ConfigError Profile := do
  let profile ← ofToml text
  profile.validate
  .ok profile

def load (read : String → Except String String) (path : String) : Except ConfigError Profile :=
  match read path with
  | .ok text => parse text
  | .error reason => .error (.unreadable path reason)

def bearerToken (environment : String → Option String) (profile : Profile) :
    Except ConfigError (Option String) :=
  match profile.bearerTokenEnv with
  | none => .ok none
  | some name => match environment name with
    | some token => .ok (some token)
    | none => .error (.missingVariable name)

end Profile

end TypedQuery

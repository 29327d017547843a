import TypedQuery.Decoding

/-!
The models of the hosting service: environments, instances with their certificates, and the input
that provisions an instance.
-/

set_option autoImplicit false

namespace TypedQuery.Hosting

def modelNamespace : String := "graphschema_client::types"

structure Environment where
  id : String
  createdAt : Option Instant
  name : Option String
deriving DecidableEq, Repr

structure EnvironmentReference where
  id : String
deriving DecidableEq, Repr

structure Certificates where
  caCert : Option String
  clientCert : Option String
  clientKey : Option String
deriving DecidableEq, Repr

structure Instance where
  dgraphId : String
  createdAt : Option Instant
  replicas : Option Int
  shards : Option Int
  storageGB : Option Int
  env : Option Environment
  certificates : Option Certificates
deriving DecidableEq, Repr

structure InstanceInput where
  replicas : Int
  shards : Int
  storageGB : Int
  env : EnvironmentReference
deriving DecidableEq, Repr

def int32 : WireType := .int (.signed 32)
def optionalInt : WireType := .option int32
def optionalText : WireType := .option .string

def modelHost (name : String) : HostType := .model ⟨name, name⟩

def field (name : String) (type : HostType) : ModelField := ⟨name, none, type⟩

def string : HostType := .scalar .string
def int : HostType := .scalar .int
def dateTime : HostType := .scalar .dateTime

def absentOr {α : Type} (read : WireValue → Option α) : WireValue → Option (Option α)
  | .absent => some none
  | value => (read value).map some

def textOf? : WireValue → Option String
  | .str text => some text
  | _ => none

def intOf? : WireValue → Option Int
  | .int n => some n
  | _ => none

def instantOf? : WireValue → Option TypedQuery.Instant
  | .instant value => some value
  | _ => none

namespace Environment

def type : WireType := .record "Environment"

def descriptor : ModelDescriptor :=
  ⟨"Environment", .lowerCamelCase,
    [field "id" string, field "created_at" dateTime, field "name" string]⟩

def shape : RecordShape :=
  ⟨"Environment", modelHost "Environment",
    [⟨"id", .string, .required⟩, ⟨"createdAt", .option .instant, .required⟩,
      ⟨"name", optionalText, .required⟩], false⟩

def toWire (environment : Environment) : WireValue :=
  .record [("id", .str environment.id),
    ("createdAt", WireValue.optional .instant environment.createdAt),
    ("name", WireValue.optional .str environment.name)]

def ofWire? : WireValue → Option Environment
  | .record [("id", id), ("createdAt", createdAt), ("name", name)] => do
      some ⟨← textOf? id, ← absentOr instantOf? createdAt, ← absentOr textOf? name⟩
  | _ => none

end Environment

namespace EnvironmentReference

def type : WireType := .record "EnvironmentReference"

def descriptor : ModelDescriptor := ⟨"EnvironmentReference", .identity, [field "id" string]⟩

def shape : RecordShape :=
  ⟨"EnvironmentReference", modelHost "EnvironmentReference", [⟨"id", .string, .required⟩], false⟩

def toWire (reference : EnvironmentReference) : WireValue := .record [("id", .str reference.id)]

def ofWire? : WireValue → Option EnvironmentReference
  | .record [("id", id)] => do some ⟨← textOf? id⟩
  | _ => none

end EnvironmentReference

namespace Certificates

def type : WireType := .record "DgraphCertificates"

def descriptor : ModelDescriptor :=
  ⟨"DgraphCertificates", .lowerCamelCase,
    [field "ca_cert" string, field "client_cert" string, field "client_key" string]⟩

def shape : RecordShape :=
  ⟨"DgraphCertificates", modelHost "DgraphCertificates",
    [⟨"caCert", optionalText, .required⟩, ⟨"clientCert", optionalText, .required⟩,
      ⟨"clientKey", optionalText, .required⟩], false⟩

def toWire (certificates : Certificates) : WireValue :=
  .record [("caCert", WireValue.optional .str certificates.caCert),
    ("clientCert", WireValue.optional .str certificates.clientCert),
    ("clientKey", WireValue.optional .str certificates.clientKey)]

def ofWire? : WireValue → Option Certificates
  | .record [("caCert", caCert), ("clientCert", clientCert), ("clientKey", clientKey)] => do
      some ⟨← absentOr textOf? caCert, ← absentOr textOf? clientCert, ← absentOr textOf? clientKey⟩
  | _ => none

end Certificates

namespace Instance

def type : WireType := .record "DgraphInstance"

def descriptor : ModelDescriptor :=
  ⟨"DgraphInstance", .lowerCamelCase,
    [field "dgraph_id" string, field "created_at" dateTime, field "replicas" int,
      field "shards" int, ⟨"storage_gb", some "storageGB", int⟩,
      field "env" (modelHost "Environment"),
      field "certificates" (modelHost "DgraphCertificates")]⟩

def shape : RecordShape :=
  ⟨"DgraphInstance", modelHost "DgraphInstance",
    [⟨"dgraphId", .string, .required⟩, ⟨"createdAt", .option .instant, .required⟩,
      ⟨"replicas", optionalInt, .required⟩, ⟨"shards", optionalInt, .required⟩,
      ⟨"storageGB", optionalInt, .required⟩, ⟨"env", .option Environment.type, .required⟩,
      ⟨"certificates", .option Certificates.type, .required⟩], false⟩

def toWire (item : Instance) : WireValue :=
  .record [("dgraphId", .str item.dgraphId),
    ("createdAt", WireValue.optional .instant item.createdAt),
    ("replicas", WireValue.optional .int item.replicas),
    ("shards", WireValue.optional .int item.shards),
    ("storageGB", WireValue.optional .int item.storageGB),
    ("env", WireValue.optional Environment.toWire item.env),
    ("certificates", WireValue.optional Certificates.toWire item.certificates)]

def ofWire? : WireValue → Option Instance
  | .record [("dgraphId", dgraphId), ("createdAt", createdAt), ("replicas", replicas),
      ("shards", shards), ("storageGB", storageGB), ("env", env),
      ("certificates", certificates)] => do
      some { dgraphId := ← textOf? dgraphId
             createdAt := ← absentOr instantOf? createdAt
             replicas := ← absentOr intOf? replicas
             shards := ← absentOr intOf? shards
             storageGB := ← absentOr intOf? storageGB
             env := ← absentOr Environment.ofWire? env
             certificates := ← absentOr Certificates.ofWire? certificates }
  | _ => none

end Instance

namespace InstanceInput

def type : WireType := .record "DgraphInstanceInput"

def descriptor : ModelDescriptor :=
  ⟨"DgraphInstanceInput", .lowerCamelCase,
    [field "replicas" int, field "shards" int, ⟨"storage_gb", some "storageGB", int⟩,
      field "env" (modelHost "EnvironmentReference")]⟩

def shape : RecordShape :=
  ⟨"DgraphInstanceInput", modelHost "DgraphInstanceInput",
    [⟨"replicas", int32, .required⟩, ⟨"shards", int32, .required⟩, ⟨"storageGB", int32, .required⟩,
      ⟨"env", EnvironmentReference.type, .required⟩], false⟩

def toWire (input : InstanceInput) : WireValue :=
  .record [("replicas", .int input.replicas), ("shards", .int input.shards),
    ("storageGB", .int input.storageGB), ("env", input.env.toWire)]

def ofWire? : WireValue → Option InstanceInput
  | .record [("replicas", replicas), ("shards", shards), ("storageGB", storageGB),
      ("env", env)] => do
      some { replicas := ← intOf? replicas
             shards := ← intOf? shards
             storageGB := ← intOf? storageGB
             env := ← EnvironmentReference.ofWire? env }
  | _ => none

end InstanceInput

def models : ModelTable :=
  [Environment.descriptor, EnvironmentReference.descriptor, Certificates.descriptor,
    Instance.descriptor, InstanceInput.descriptor].map
      fun descriptor => (descriptor.name, descriptor)

def records : RecordTable :=
  RecordTable.ofShapes [Environment.shape, EnvironmentReference.shape, Certificates.shape,
    Instance.shape, InstanceInput.shape]

end TypedQuery.Hosting

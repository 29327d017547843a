import TypedQuery.Decoding

/-!
Sample types: a model with a field of each kind of number, one that holds another, an input, a type
that GraphQL cannot represent, an enumeration and a recursive model.
-/

set_option autoImplicit false

namespace TypedQuery.Samples

def int32 : WireType := .int (.signed 32)

def modelHost (name : String) : HostType := .model ⟨name, name⟩

def field (name : String) (type : HostType) : ModelField := ⟨name, none, type⟩

def testType : ModelDescriptor :=
  ⟨"TestType", .lowerCamelCase,
    [field "an_int" (.scalar .int), field "a_float" (.scalar .float),
      field "a_double" (.scalar .float), field "the_time" (.scalar .dateTime)]⟩

def testResult : ModelDescriptor :=
  ⟨"TestResult", .lowerCamelCase,
    [field "an_int" (.scalar .int), field "edge" (modelHost "TestType")]⟩

def testInput : ModelDescriptor :=
  ⟨"TestInputType", .lowerCamelCase, [field "an_int" (.scalar .int)]⟩

def node : ModelDescriptor :=
  ⟨"Node", .identity,
    [field "id" (.scalar .string), field "parent" (modelHost "Node"),
      ⟨"children", some "kids", .list (modelHost "Node")⟩]⟩

def models : ModelTable :=
  [testType, testResult, testInput, node].map fun descriptor => (descriptor.name, descriptor)

def testTypeShape : RecordShape :=
  ⟨"TestType", modelHost "TestType",
    [⟨"anInt", int32, .required⟩, ⟨"aFloat", .single, .required⟩, ⟨"aDouble", .double, .required⟩,
      ⟨"theTime", .instant, .required⟩], false⟩

def testResultShape : RecordShape :=
  ⟨"TestResult", modelHost "TestResult",
    [⟨"anInt", int32, .required⟩, ⟨"edge", .option (.record "TestType"), .required⟩], false⟩

def testInputShape : RecordShape :=
  ⟨"TestInputType", modelHost "TestInputType", [⟨"anInt", int32, .required⟩], false⟩

def foreignShape : RecordShape :=
  ⟨"NotGraphqlModel", .foreign "NotGraphqlModel", [⟨"an_int", int32, .required⟩], false⟩

def nodeShape : RecordShape :=
  ⟨"Node", modelHost "Node",
    [⟨"id", .string, .required⟩, ⟨"parent", .option (.record "Node"), .required⟩,
      ⟨"kids", .list (.record "Node"), .filled (.list [])⟩], false⟩

def color : WireType := .choice "Color" ["RED", "GREEN"]

def records : RecordTable :=
  RecordTable.ofShapes [testTypeShape, testResultShape, testInputShape, foreignShape, nodeShape]

end TypedQuery.Samples

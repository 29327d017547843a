import TypedQuery.Proofs.Bundled
import TypedQuery.Proofs.Messages

/-!
What the bodies of the service's operations say to who reads them: which operation is asked for, and
with which value. An addition is never taken for a reading.
-/

set_option autoImplicit false

namespace TypedQuery.Hosting

def InstanceInput.encoding (input : InstanceInput) : Json :=
  .obj [("replicas", .int input.replicas), ("shards", .int input.shards), ("storageGB", .int input.storageGB),
    ("env", .obj [("id", .str input.env.id)])]

-- What a body asks for: an operation of a name, whose text begins in some way, with the values of its variables.
def Asks (operationName head : String) (values : Json.Fields) (body : String) : Prop :=
  ∃ selection, Request.parse body = .ok ⟨head ++ selection, operationName, values⟩

def AsksToAdd (input : InstanceInput) : String → Prop :=
  Asks "addDgraphInstance"
    "mutation addDgraphInstance($input: DgraphInstanceInput!) \x7b addDgraphInstance(input: $input)"
    [("input", input.encoding)]

def AsksToRead (dgraphId : String) : String → Prop :=
  Asks "getDgraphInstance" "query getDgraphInstance($dgraphId: ID!) \x7b getDgraphInstance(dgraphId: $dgraphId)"
    [("dgraphId", .str dgraphId)]

theorem render_head (operation : Operation) : ∃ selection, operation.render =
    String.ofList (operation.kind.keyword.toList ++ [' '] ++ operation.name.toList ++
      Operation.header operation.definitions ++ [' ', '\x7b', ' '] ++ operation.root.name.toList ++
      argumentsText operation.root.arguments) ++ selection := by
  obtain ⟨kind, name, definitions, field, arguments, selection⟩ := operation
  unfold Operation.render Operation.chars
  cases selection with
  | nil =>
      refine ⟨String.ofList [' ', '\x7d'], String.toList_injective ?_⟩
      simp [FieldSelection.chars, FieldSelection.name, FieldSelection.arguments]
  | cons first rest =>
      refine ⟨String.ofList ([' ', '\x7b', ' '] ++ first.chars ++ SelectionSet.spaced rest ++ [' ', '\x7d', ' ', '\x7d']),
        String.toList_injective ?_⟩
      simp [FieldSelection.chars, FieldSelection.name, FieldSelection.arguments]

section

variable (client : Client) (field : FieldDescriptor) (kind : OperationKind) (declared : ArgumentDescriptor) (value : Json)
  (one : field.arguments = [declared]) (carried : Request.Carried value)

include one

theorem field_request_one : fieldRequest client field kind value =
    ⟨(fieldRequest client field kind value).query, field.name, [(declared.name, value)]⟩ := by
  unfold fieldRequest
  rw [one]
  rfl

include carried

theorem field_request_parsed :
    Request.parse (fieldRequest client field kind value).wire = .ok (fieldRequest client field kind value) := by
  obtain ⟨whole, fits⟩ := Request.values_carried [(declared.name, value)] (List.forall_mem_singleton.mpr carried)
  rw [field_request_one client field kind declared value one]
  exact Request.wire_parsed ⟨_, field.name, [(declared.name, value)]⟩ whole fits

theorem field_asks (head : String)
    (begins : head = String.ofList (kind.keyword.toList ++ [' '] ++ field.name.toList ++
      Operation.header [⟨declared.name, declared.type⟩] ++ [' ', '\x7b', ' '] ++ field.name.toList ++
      argumentsText [⟨declared.name, declared.name⟩])) :
    Asks field.name head [(declared.name, value)] (fieldRequest client field kind value).wire := by
  obtain ⟨selection, text⟩ := render_head ((⟨kind, field, field.name, field.name, Instance.type.host records,
    client.config.depthFor (Instance.type.host records)⟩ : Target).operation models [declared])
  have query : (fieldRequest client field kind value).query = head ++ selection := by
    rw [begins]
    unfold fieldRequest
    rw [one]
    exact text
  refine ⟨selection, ?_⟩
  rw [field_request_parsed client field kind declared value one carried,
    field_request_one client field kind declared value one, query]

end

section

variable (client : Client) (input : InstanceInput) (dgraphId : String)

theorem narrow_whole (n : Int) (narrow : Narrow n) : (Json.int n).Whole := by
  unfold Narrow at narrow
  change -2 ^ 63 ≤ n ∧ n < 2 ^ 64
  omega

theorem encoding_carried (sound : input.Sound) : Request.Carried input.encoding where
  whole := ⟨narrow_whole _ sound.replicas, narrow_whole _ sound.shards, narrow_whole _ sound.storageGB,
    ⟨trivial, trivial⟩, trivial⟩
  distinct := by simp [InstanceInput.encoding, Json.Distinct, Json.DistinctFields]
  shallow := (by decide : 2 + 2 ≤ Json.nestingLimit)

theorem id_carried : Request.Carried (.str dgraphId) := ⟨trivial, trivial, (by decide : 0 + 2 ≤ Json.nestingLimit)⟩

theorem adding_asks (sound : input.Sound) : AsksToAdd input (addingRequest client input.encoding).wire :=
  field_asks client addingField .mutation _ input.encoding rfl (encoding_carried input sound) _ (by decide +kernel)

theorem reading_asks : AsksToRead dgraphId (readingRequest client dgraphId).wire :=
  field_asks client readingField .query _ (.str dgraphId) rfl (id_carried dgraphId) _ (by decide +kernel)

theorem bodies_apart (sound : input.Sound) :
    (addingRequest client input.encoding).wire ≠ (readingRequest client dgraphId).wire := by
  intro same
  obtain ⟨_, adds⟩ := adding_asks client input sound
  obtain ⟨_, reads⟩ := reading_asks client dgraphId
  rw [same, reads] at adds
  have names : "getDgraphInstance" = "addDgraphInstance" := congrArg Request.operationName (Except.ok.inj adds)
  exact absurd names (by decide)

end

end TypedQuery.Hosting

import TypedQuery.Proofs.Strictness

/-!
What decoding makes of a member that is not there, and what it looks at. An absent member is a failure
where null is not allowed and else whatever the type reads from null; of the response, the member
alone decides the value or the message and cause of the failure.
-/

set_option autoImplicit false

namespace TypedQuery

inductive Response.Absent (name : String) : Response → Prop
  | missing (errors : List Json) : Absent name ⟨none, errors⟩
  | shapeless (data : Json) (errors : List Json) (other : ∀ fields, data ≠ .obj fields) : Absent name ⟨some data, errors⟩
  | unknown (fields : Json.Fields) (errors : List Json) (fresh : ∀ value, (name, value) ∉ fields) :
      Absent name ⟨some (.obj fields), errors⟩
  | null (fields : Json.Fields) (errors : List Json) (found : fields.lookup name = some .null) :
      Absent name ⟨some (.obj fields), errors⟩

inductive Response.Holds (name : String) (value : Json) : Response → Prop
  | member (fields : Json.Fields) (errors : List Json) (found : fields.lookup name = some value) (present : value ≠ .null) :
      Holds name value ⟨some (.obj fields), errors⟩

def Response.decode {α : Type} (models : ModelTable) (type : ResultType α) (response : Response) (request : Request)
    (name : String) (required : Bool) : Except ClientError α :=
  (decodeMember models type response name required).mapError fun fault => fault.toClientError request response

-- The same value, or failures that differ in what they carry at most.
inductive DecodedAlike {α : Type} : Except ClientError α → Except ClientError α → Prop
  | value (value : α) : DecodedAlike (.ok value) (.ok value)
  | failure (first second : ClientError) (message : first.message = second.message) (cause : first.cause = second.cause) :
      DecodedAlike (.error first) (.error second)

theorem field_filtered (response : Response) (name : String) :
    response.field? name = (response.data.bind (Json.get? name)).filter (· ≠ .null) := by
  unfold Response.field?
  cases response.data.bind (Json.get? name) with
  | none => rfl
  | some value => cases value <;> rfl

theorem field_some_iff (response : Response) (name : String) (value : Json) :
    response.field? name = some value ↔ response.Holds name value := by
  rw [field_filtered]
  obtain ⟨data, errors⟩ := response
  constructor
  · intro found
    obtain ⟨stored, present⟩ := Option.filter_eq_some_iff.mp found
    obtain ⟨data, rfl, member⟩ := Option.bind_eq_some_iff.mp stored
    cases data with
    | obj fields => exact .member fields errors member (by simpa using present)
    | _ => exact nomatch member
  · rintro ⟨fields, _, found, present⟩
    exact Option.filter_eq_some_iff.mpr ⟨found, by simpa using present⟩

theorem lookup_none_iff (fields : Json.Fields) (name : String) :
    fields.lookup name = none ↔ ∀ value, (name, value) ∉ fields := by
  rw [List.lookup_eq_none_iff]
  constructor
  · intro fresh value member
    have different := fresh (name, value) member
    simp at different
  · rintro fresh ⟨key, value⟩ member
    by_cases same : name = key
    · exact absurd (same ▸ member) (fresh value)
    · simpa using same

theorem field_none_iff (response : Response) (name : String) : response.field? name = none ↔ response.Absent name := by
  rw [field_filtered]
  obtain ⟨data, errors⟩ := response
  constructor
  · intro absent
    cases data with
    | none => exact .missing errors
    | some data =>
        cases data with
        | obj fields =>
            cases found : fields.lookup name with
            | none => exact .unknown fields errors ((lookup_none_iff fields name).mp found)
            | some value =>
                have null : value = .null := by simpa [Json.get?, found] using absent
                exact .null fields errors (null ▸ found)
        | _ => exact .shapeless _ errors nofun
  · intro absent
    cases absent with
    | missing => rfl
    | shapeless data _ other =>
        cases data with
        | obj fields => exact absurd rfl (other fields)
        | _ => rfl
    | unknown fields _ fresh => simp [Json.get?, (lookup_none_iff fields name).mpr fresh]
    | null fields _ found => simp [Json.get?, found]

section

variable {α : Type} (models : ModelTable) (type : ResultType α) (response : Response) (request : Request) (name : String)

theorem decode_required (absent : response.Absent name) :
    response.decode models type request name true =
      .error ⟨ClientError.nullForNonNull, none, some request, some response.pretty⟩ := by
  rw [Response.decode, decodeMember, (field_none_iff response name).mpr absent]
  rfl

theorem decode_optional (absent : response.Absent name) :
    response.decode models type request name false =
      (type.read .null).mapError fun cause =>
        ⟨ClientError.decodeFailure, some cause, some request, some response.pretty⟩ := by
  rw [Response.decode, decodeMember, (field_none_iff response name).mpr absent]
  cases type.read .null <;> rfl

theorem decode_held (value : Json) (required : Bool) (holds : response.Holds name value) :
    response.decode models type request name required =
      (decodeValue models type value).mapError fun fault => fault.toClientError request response := by
  rw [Response.decode, decode_member_present models type response name value ((field_some_iff response name value).mpr holds)]

theorem decode_alike (second : Response) (other : Request) (required : Bool)
    (same : response.field? name = second.field? name) :
    DecodedAlike (response.decode models type request name required) (second.decode models type other name required) := by
  rw [Response.decode, Response.decode, decodeMember, decodeMember, same, ← decodeMember]
  cases decodeMember models type second name required with
  | ok value => exact .value value
  | error fault => cases fault <;> exact .failure _ _ rfl rfl

end

theorem absent_or_holds (response : Response) (name : String) :
    response.Absent name ∨ ∃ value, response.Holds name value := by
  cases found : response.field? name with
  | none => exact .inl ((field_none_iff response name).mp found)
  | some value => exact .inr ⟨value, (field_some_iff response name value).mp found⟩

theorem not_absent_and_held (response : Response) (name : String) (value : Json) (absent : response.Absent name)
    (holds : response.Holds name value) : False := by
  have found := (field_some_iff response name value).mpr holds
  rw [(field_none_iff response name).mpr absent] at found
  exact nomatch found

theorem same_member (first second : Response) (name : String)
    (absence : first.Absent name ↔ second.Absent name) (member : ∀ value, first.Holds name value ↔ second.Holds name value) :
    first.field? name = second.field? name := by
  rcases absent_or_holds first name with absent | ⟨value, holds⟩
  · rw [(field_none_iff first name).mpr absent, (field_none_iff second name).mpr (absence.mp absent)]
  · rw [(field_some_iff first name value).mpr holds, (field_some_iff second name value).mpr ((member value).mp holds)]

theorem decode_value_fault {α : Type} (models : ModelTable) (type : ResultType α) (value : Json) (fault : DecodeFault)
    (failed : decodeValue models type value = .error fault) : ∃ cause, fault = .mismatch cause := by
  unfold decodeValue at failed
  split at failed
  · exact ⟨_, (Except.error.inj failed).symm⟩
  · obtain ⟨cause, _, same⟩ := (map_error_error_iff _ _ _).mp failed
    exact ⟨cause, same.symm⟩

theorem null_message_iff {α : Type} (models : ModelTable) (type : ResultType α) (response : Response) (request : Request)
    (name : String) (required : Bool) :
    (∃ error, response.decode models type request name required = .error error ∧
      error.message = ClientError.nullForNonNull) ↔ required ∧ response.Absent name := by
  have different : ClientError.decodeFailure ≠ ClientError.nullForNonNull := by decide
  rcases absent_or_holds response name with absent | ⟨value, holds⟩
  · cases required with
    | true =>
        simp only [decode_required models type response request name absent, absent, and_self, iff_true]
        exact ⟨_, rfl, rfl⟩
    | false =>
        rw [decode_optional models type response request name absent]
        simp only [Bool.false_eq_true, false_and, iff_false]
        rintro ⟨error, failed, message⟩
        obtain ⟨cause, _, rfl⟩ := (map_error_error_iff _ _ _).mp failed
        exact different message
  · have held : ¬ response.Absent name := fun absent => not_absent_and_held response name value absent holds
    rw [decode_held models type response request name value required holds]
    simp only [held, and_false, iff_false]
    rintro ⟨error, failed, message⟩
    obtain ⟨fault, decoded, rfl⟩ := (map_error_error_iff _ _ _).mp failed
    obtain ⟨cause, rfl⟩ := decode_value_fault models type value fault decoded
    exact different message

theorem absence_decided_by_policy {α : Type} (models : ModelTable) (type : ResultType α) (name : String) :
    (∀ (response : Response) (request : Request), response.Absent name →
      response.decode models type request name true =
          .error ⟨ClientError.nullForNonNull, none, some request, some response.pretty⟩ ∧
        (∀ value, type.read .null = .ok value → response.decode models type request name false = .ok value) ∧
        ∀ cause, type.read .null = .error cause →
          response.decode models type request name false =
            .error ⟨ClientError.decodeFailure, some cause, some request, some response.pretty⟩) ∧
    (∀ (response : Response) (request : Request), ¬ response.Absent name →
      response.decode models type request name true = response.decode models type request name false) ∧
    (∀ (response : Response) (request : Request) (required : Bool),
      (∃ error, response.decode models type request name required = .error error ∧
        error.message = ClientError.nullForNonNull) ↔ required ∧ response.Absent name) ∧
    ∀ (first second : Response) (request other : Request) (required : Bool),
      (first.Absent name ↔ second.Absent name) → (∀ value, first.Holds name value ↔ second.Holds name value) →
        DecodedAlike (first.decode models type request name required) (second.decode models type other name required) := by
  refine ⟨?_, ?_, ?_, ?_⟩
  · intro response request absent
    refine ⟨decode_required models type response request name absent, ?_, ?_⟩
    · intro value read
      rw [decode_optional models type response request name absent, read]
      rfl
    · intro cause unread
      rw [decode_optional models type response request name absent, unread]
      rfl
  · intro response request held
    rcases absent_or_holds response name with absent | ⟨value, holds⟩
    · exact absurd absent held
    · rw [decode_held models type response request name value true holds,
        decode_held models type response request name value false holds]
  · exact fun response request required => null_message_iff models type response request name required
  · intro first second request other required absence member
    exact decode_alike models type first request name second other required (same_member first second name absence member)

def listResponse : Response := ⟨some (.arr [.null]), [.str "gone"]⟩

def nullResponse : Response := ⟨some (.obj [("other", .int 1), ("node", .null)]), []⟩

def idResponse : Response := ⟨some (.obj [("node", .str "n-1")]), []⟩

def lateIdResponse : Response := ⟨some (.obj [("other", .int 1), ("node", .str "n-1")]), [.str "late"]⟩

def plainNode : ResultType WireValue := ResultType.ofWire Samples.records (.record "Node")

def optionalNode : ResultType WireValue := ResultType.ofWire Samples.records (.option (.record "Node"))

def memberRequest : Request := Request.new "query node \x7b node \x7d" "node"

def otherRequest : Request := Request.new "query other \x7b other node \x7d" "other"

theorem absent_nodes_decoded :
    listResponse.Absent "node" ∧ nullResponse.Absent "node" ∧ idResponse.Holds "node" (.str "n-1") ∧
      listResponse.decode Samples.models optionalNode memberRequest "node" true =
        .error ⟨ClientError.nullForNonNull, none, some memberRequest, some listResponse.pretty⟩ ∧
      nullResponse.decode Samples.models optionalNode otherRequest "node" false = .ok .absent ∧
      nullResponse.decode Samples.models plainNode otherRequest "node" false =
        .error ⟨ClientError.decodeFailure, some "invalid type: null, expected struct Node", some otherRequest,
          some nullResponse.pretty⟩ ∧
      idResponse.decode Samples.models plainNode memberRequest "node" true =
        idResponse.decode Samples.models plainNode memberRequest "node" false ∧
      DecodedAlike (idResponse.decode Samples.models plainNode memberRequest "node" true)
        (lateIdResponse.decode Samples.models plainNode otherRequest "node" true) := by
  have list : listResponse.Absent "node" := .shapeless _ _ nofun
  have null : nullResponse.Absent "node" := .null _ _ rfl
  have id : idResponse.Holds "node" (.str "n-1") := .member _ _ rfl nofun
  have held : ¬ idResponse.Absent "node" := fun absent => not_absent_and_held idResponse "node" _ absent id
  have lateHeld : ¬ lateIdResponse.Absent "node" :=
    fun absent => not_absent_and_held lateIdResponse "node" (.str "n-1") absent (.member _ _ rfl nofun)
  have member (value : Json) : idResponse.Holds "node" value ↔ lateIdResponse.Holds "node" value := by
    rw [← field_some_iff, ← field_some_iff]
    exact Iff.rfl
  obtain ⟨optional, _⟩ := absence_decided_by_policy Samples.models optionalNode "node"
  obtain ⟨plain, indifferent, _, isolated⟩ := absence_decided_by_policy Samples.models plainNode "node"
  refine ⟨list, null, id, (optional _ memberRequest list).1, (optional _ otherRequest null).2.1 _ rfl, ?_,
    indifferent _ memberRequest held,
    isolated _ _ memberRequest otherRequest true ⟨(absurd · held), (absurd · lateHeld)⟩ member⟩
  exact (plain _ otherRequest null).2.2 _ rfl

end TypedQuery

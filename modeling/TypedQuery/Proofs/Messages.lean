import TypedQuery.Proofs.Records
import TypedQuery.Request
import TypedQuery.Response

/-!
Requests and responses as text. A response's snapshot, pretty or compact, is read back as that
response, and a request's body as that request, so neither loses anything.
-/

set_option autoImplicit false

namespace TypedQuery

namespace Response

theorem of_slots_iff (values : List Json) (response : Response) :
    ofSlots? values = some response ↔
      response.data ≠ some .null ∧ values = [response.data.getD .null, .arr response.errors] := by
  obtain ⟨data, errors⟩ := response
  constructor
  · intro read
    unfold ofSlots? at read
    split at read
    · obtain ⟨rfl, rfl⟩ := Response.mk.inj (Option.some.inj read)
      exact ⟨nofun, rfl⟩
    · rename_i value others given
      obtain ⟨rfl, rfl⟩ := Response.mk.inj (Option.some.inj read)
      exact ⟨fun none => given (Option.some.inj none), rfl⟩
    · exact nomatch read
  · rintro ⟨given, rfl⟩
    cases data with
    | none => rfl
    | some value =>
        cases value with
        | null => exact absurd rfl given
        | bool | int | double | str | arr | obj => rfl

theorem read_iff (source : Json.Source) (response : Response) :
    read source = .ok response ↔ response.data ≠ some .null ∧
      slots.parse source = .ok [response.data.getD .null, .arr response.errors] := by
  unfold read
  rw [bind_ok_iff]
  constructor
  · rintro ⟨values, parsed, read⟩
    split at read
    · rename_i found
      obtain rfl := Except.ok.inj read
      obtain ⟨given, rfl⟩ := (of_slots_iff values _).mp found
      exact ⟨given, parsed⟩
    · exact nomatch read
  · rintro ⟨given, parsed⟩
    refine ⟨_, parsed, ?_⟩
    rw [(of_slots_iff _ response).mpr ⟨given, rfl⟩]

theorem parse_iff (text : String) (response : Response) :
    parse text = .ok response ↔ response.data ≠ some .null ∧
      slots.parse (Json.sourceOf text) = .ok [response.data.getD .null, .arr response.errors] :=
  read_iff (Json.sourceOf text) response

structure Readable (response : Response) : Prop where
  given : response.data ≠ some .null
  data : Json.Fits Json.RecordSlots.innerLimit (response.data.getD .null)
  errors : Json.Fits Json.RecordSlots.innerLimit (.arr response.errors)

-- What is missing stands for a value that has every property that containers inherit.
theorem parse_sound (keep : Nat → Json → Prop) (inherited : Json.Inherited keep) (none : ∀ room, keep room .null)
    (text : String) (response : Response)
    (supplied : Json.Supplied keep (Json.tokens (Json.sourceOf text)))
    (parsed : parse text = .ok response) :
    keep Json.RecordSlots.innerLimit (response.data.getD .null) ∧
      keep Json.RecordSlots.innerLimit (.arr response.errors) := by
  have defaults : ∀ slot ∈ slots.slots, ∀ value, slot.missing = some value → keep Json.RecordSlots.innerLimit value := by
    intro slot member value missing
    rcases List.mem_cons.mp member with rfl | member
    · exact Option.some.inj missing ▸ none _
    · obtain rfl := List.mem_singleton.mp member
      exact Option.some.inj missing ▸ inherited.list _ [] nofun
  have each := Json.RecordSlots.parse_sound inherited slots defaults _ supplied _ ((parse_iff text response).mp parsed).2
  exact ⟨each _ List.mem_cons_self, each _ (List.mem_cons_of_mem _ List.mem_cons_self)⟩

theorem parse_readable (text : String) (response : Response) (parsed : parse text = .ok response) : response.Readable := by
  have sound := parse_sound Json.Fits Json.fits_inherited (fun room => Json.flat_fits .null rfl room) text response
    (Json.tokens_fit _) parsed
  exact ⟨((parse_iff text response).mp parsed).1, sound.1, sound.2⟩

theorem parse_whole (text : String) (response : Response) (parsed : parse text = .ok response)
    (integers : ∀ token ∈ Json.tokens (Json.sourceOf text), token.Holds Json.Whole) : response.toJson.Whole := by
  have sound := parse_sound _ Json.whole_inherited (fun _ => trivial) text response
    (fun token member _ => integers token member) parsed
  exact ⟨sound.1, sound.2, trivial⟩

theorem parse_written (text : String) (response : Response) (readable : response.Readable)
    (shown : Json.tokens (Json.sourceOf text) = response.toJson.written) : parse text = .ok response := by
  refine (parse_iff text response).mpr ⟨readable.given, ?_⟩
  refine (Json.RecordSlots.parse_written slots _ text shown ?_ (by simp)).trans rfl
  intro member among
  rcases List.mem_cons.mp among with rfl | among
  · exact ⟨_, rfl, rfl, trivial, readable.data⟩
  · obtain rfl := List.mem_singleton.mp among
    exact ⟨_, rfl, rfl, trivial, readable.errors⟩

theorem snapshots_parse (text : String) (response : Response) (parsed : parse text = .ok response)
    (whole : response.toJson.Whole) :
    parse response.pretty = .ok response ∧ parse response.compact = .ok response := by
  have readable := parse_readable text response parsed
  exact ⟨parse_written _ response readable (Json.pretty_tokens _ whole),
    parse_written _ response readable (Json.compact_tokens _ whole)⟩

end Response

-- That the numbers of the text are whole is enough, by `Response.parse_whole`.
theorem snapshot_restores (text : String) (response : Response) (parsed : Response.parse text = .ok response)
    (whole : response.toJson.Whole) :
    Response.parse response.pretty = .ok response ∧ Response.parse response.compact = .ok response ∧
      ∀ (source : String) (other : Response), Response.parse source = .ok other → other.toJson.Whole →
        other.pretty = response.pretty ∨ other.compact = response.compact → other = response := by
  obtain ⟨pretty, compact⟩ := response.snapshots_parse text parsed whole
  refine ⟨pretty, compact, fun source other parsed whole same => ?_⟩
  obtain ⟨otherPretty, otherCompact⟩ := other.snapshots_parse source parsed whole
  rcases same with same | same
  · rw [same] at otherPretty
    exact Except.ok.inj (otherPretty.symm.trans pretty)
  · rw [same] at otherCompact
    exact Except.ok.inj (otherCompact.symm.trans compact)

def capitalisedBody : String :=
  "\x7b\"Errors\": [\x7b\"message\": \"\\u0001 no\\n\"\x7d], \"extra\": 1.5, " ++
    "\"Data\": \x7b\"b\": -0, \"a\": [18446744073709551615]\x7d\x7d"

def capitalised : Response :=
  ⟨some (.obj [("b", .double Json.minusZero), ("a", .arr [.int 18446744073709551615])]),
    [.obj [("message", .str "\x01 no\n")]]⟩

theorem capitalised_snapshot_restored :
    Response.parse capitalisedBody = .ok capitalised ∧ Response.parse capitalised.pretty = .ok capitalised := by
  have parsed : Response.parse capitalisedBody = .ok capitalised := by decide +kernel
  exact ⟨parsed, (snapshot_restores capitalisedBody capitalised parsed (by decide +kernel)).1⟩

namespace Request

def given (query operationName : String) (calls : Json.Fields) : Request :=
  calls.foldl (fun request call => request.withVariable call.1 call.2) (new query operationName)

theorem given_values (query operationName : String) (calls : Json.Fields) :
    given query operationName calls = ⟨query, operationName, Json.ofFields calls⟩ := by
  induction calls using List.reverseRecOn with
  | nil => rfl
  | append_singleton calls call ih =>
      rw [given, List.foldl_append, ← given, ih, of_fields_concat]
      rfl

-- A value that may be given for a variable: around it are the variables and the request.
structure Carried (value : Json) : Prop where
  whole : value.Whole
  distinct : value.Distinct
  shallow : value.depth + 2 ≤ Json.nestingLimit

instance (value : Json) : Decidable (Carried value) :=
  decidable_of_iff (value.Whole ∧ value.Distinct ∧ value.depth + 2 ≤ Json.nestingLimit)
    ⟨fun ⟨whole, distinct, shallow⟩ => ⟨whole, distinct, shallow⟩,
      fun carried => ⟨carried.whole, carried.distinct, carried.shallow⟩⟩

theorem values_carried (calls : Json.Fields) (carried : ∀ call ∈ calls, Carried call.2) :
    (Json.obj (Json.ofFields calls)).Whole ∧ Json.Fits Json.RecordSlots.innerLimit (.obj (Json.ofFields calls)) := by
  have each (field : String × Json) (member : field ∈ Json.ofFields calls) :=
    carried field (of_fields_member calls field member)
  refine ⟨(Json.whole_fields _).mpr fun field member => (each field member).whole, ?_⟩
  refine Json.fits_inherited.object _ _ (of_fields_nodup calls) fun field member => ⟨(each field member).distinct, ?_⟩
  exact Nat.le_of_add_le_add_right (each field member).shallow

theorem json_whole (request : Request) (whole : (Json.obj request.values).Whole) : request.toJson.Whole :=
  ⟨trivial, trivial, whole, trivial⟩

theorem wire_parsed (request : Request) (whole : (Json.obj request.values).Whole)
    (fits : Json.Fits Json.RecordSlots.innerLimit (.obj request.values)) : parse request.wire = .ok request := by
  have shown := Json.compact_tokens request.toJson (request.json_whole whole)
  have read : slots.parse (Json.sourceOf request.wire) =
      .ok [.str request.query, .str request.operationName, .obj request.values] := by
    refine (Json.RecordSlots.parse_written slots _ request.wire shown ?_ (by simp)).trans rfl
    intro member among
    rcases List.mem_cons.mp among with rfl | among
    · exact ⟨_, rfl, rfl, trivial, Json.flat_fits _ rfl _⟩
    rcases List.mem_cons.mp among with rfl | among
    · exact ⟨_, rfl, rfl, trivial, Json.flat_fits _ rfl _⟩
    · obtain rfl := List.mem_singleton.mp among
      exact ⟨_, rfl, rfl, trivial, fits⟩
  rw [parse, read]
  rfl

theorem wire_json (request : Request) (whole : (Json.obj request.values).Whole)
    (fits : Json.Fits Json.RecordSlots.innerLimit (.obj request.values)) : Json.parse request.wire = .ok request.toJson := by
  refine Json.parse_written request.wire request.toJson (Json.compact_tokens _ (request.json_whole whole)) ?_
  refine Json.fits_inherited.object _ _ (by simp) fun field member => ?_
  rcases List.mem_cons.mp member with rfl | member
  · exact Json.flat_fits _ rfl _
  rcases List.mem_cons.mp member with rfl | member
  · exact Json.flat_fits _ rfl _
  · obtain rfl := List.mem_singleton.mp member
    exact fits

theorem wire_text (request : Request) :
    request.wire = "\x7b\"query\":" ++ (Json.str request.query).compact ++ ",\"operationName\":" ++
      (Json.str request.operationName).compact ++ ",\"variables\":" ++ (Json.obj request.values).compact ++ "\x7d" := by
  have names : Json.quote "query" = "\"query\"".toList ∧ Json.quote "operationName" = "\"operationName\"".toList ∧
      Json.quote "variables" = "\"variables\"".toList := by decide +kernel
  apply String.toList_injective
  simp only [wire, toJson, Json.compact, Json.compactChars, Json.compactFields, String.toList_append, String.toList_ofList,
    names.1, names.2.1, names.2.2]
  simp

end Request

theorem wire_restores (query operationName : String) (calls : Json.Fields)
    (carried : ∀ call ∈ calls, Request.Carried call.2) :
    let request := Request.given query operationName calls
    request.values.map Prod.fst = (calls.map Prod.fst).eraseDups ∧
      (∀ name, request.values.lookup name = calls.reverse.lookup name) ∧
      request.wire = "\x7b\"query\":" ++ (Json.str query).compact ++ ",\"operationName\":" ++
        (Json.str operationName).compact ++ ",\"variables\":" ++ (Json.obj request.values).compact ++ "\x7d" ∧
      Json.parse request.wire = .ok (.obj [("query", .str query), ("operationName", .str operationName),
        ("variables", .obj request.values)]) ∧
      Request.parse request.wire = .ok request ∧
      ∀ (otherQuery otherName : String) (others : Json.Fields), (∀ call ∈ others, Request.Carried call.2) →
        (Request.given otherQuery otherName others).wire = request.wire →
          Request.given otherQuery otherName others = request := by
  intro request
  have values : request = ⟨query, operationName, Json.ofFields calls⟩ := Request.given_values query operationName calls
  obtain ⟨whole, fits⟩ := Request.values_carried calls carried
  rw [values]
  have parsed := Request.wire_parsed ⟨query, operationName, Json.ofFields calls⟩ whole fits
  refine ⟨of_fields_names calls, of_fields_lookup calls, Request.wire_text _, Request.wire_json _ whole fits, parsed, ?_⟩
  intro otherQuery otherName others carried same
  rw [Request.given_values] at same ⊢
  obtain ⟨whole, fits⟩ := Request.values_carried others carried
  have otherParsed := Request.wire_parsed ⟨otherQuery, otherName, Json.ofFields others⟩ whole fits
  rw [same] at otherParsed
  exact Except.ok.inj (otherParsed.symm.trans parsed)

def renewedCalls : Json.Fields :=
  [("a", .int 1), ("b", .str "\"\n"), ("a", .arr [.obj [("c", .null)]])]

theorem renewed_wire_restored :
    Request.parse (Request.given "\x7ba\x7d" "A" renewedCalls).wire = .ok (Request.given "\x7ba\x7d" "A" renewedCalls) ∧
      (Request.given "\x7ba\x7d" "A" renewedCalls).values.map Prod.fst = ["a", "b"] := by
  have restored := wire_restores "\x7ba\x7d" "A" renewedCalls (by decide)
  exact ⟨restored.2.2.2.2.1, by decide⟩

end TypedQuery

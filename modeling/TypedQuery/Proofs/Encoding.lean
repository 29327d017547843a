import TypedQuery.Proofs.Absence
import TypedQuery.Proofs.Instants
import TypedQuery.Proofs.Lookup
import TypedQuery.Wire.Encode

/-!
Typed values that are written and read again. A record is written under the keys that its shape
declares, so the shape check accepts what is written and reading it gives the value back.
-/

set_option autoImplicit false

namespace TypedQuery

-- The values of a type that have a JSON form of their own, of integers, texts, instants, options of these, and
-- records with a value for each field in order.
mutual
inductive WireType.Has (records : RecordTable) : WireType → WireValue → Prop
  | int (range : IntRange) (n : Int) (inside : range.contains n) : Has records (.int range) (.int n)
  | text (text : String) : Has records .string (.str text)
  | instant (instant : Instant) (plain : instant.Plain) : Has records .instant (.instant instant)
  | absent (inner : WireType) : Has records (.option inner) .absent
  | present (inner : WireType) (value : WireValue) (has : Has records inner value) (held : value ≠ .absent) :
      Has records (.option inner) value
  | record (name : String) (values : List (String × WireValue)) (each : HasEach records (records.shape name).fields values) :
      Has records (.record name) (.record values)
inductive WireType.HasEach (records : RecordTable) : List WireField → List (String × WireValue) → Prop
  | nil : HasEach records [] []
  | cons (field : WireField) (fields : List WireField) (value : WireValue) (values : List (String × WireValue))
      (has : Has records field.type value) (each : HasEach records fields values) :
      HasEach records (field :: fields) ((field.key, value) :: values)
end

def RecordTable.Distinct (records : RecordTable) : Prop :=
  ∀ name, ((records.shape name).fields.map (·.key)).Nodup

structure WireType.Writes (records : RecordTable) (type : WireType) (value : WireValue) (json : Json) : Prop where
  written : value.encode = .ok json
  read : WireType.decode records type json = .ok value
  known : strays records false type json = []
  held : value ≠ .absent → json ≠ .null

structure WireType.WritesEach (records : RecordTable) (shape : RecordShape) (values : List (String × WireValue))
    (fields : Json.Fields) : Prop where
  written : WireValue.encodeFields values = .ok fields
  read : WireType.decodeFields records shape fields = .ok values
  known : strayFields records false shape fields = []

section

variable (records : RecordTable)

theorem decode_option (inner : WireType) (json : Json) (present : json ≠ .null) :
    WireType.decode records (.option inner) json = WireType.decode records inner json := by
  cases json with
  | null => exact absurd rfl present
  | _ => rw [WireType.decode, WireType.decode, WireType.present]

theorem strays_option (inner : WireType) (json : Json) :
    strays records false (.option inner) json = strays records false inner json := by
  cases json <;> simp only [strays, WireType.present]

theorem has_each_keys (fields : List WireField) (values : List (String × WireValue))
    (each : WireType.HasEach records fields values) : values.map Prod.fst = fields.map (·.key) := by
  induction values generalizing fields with
  | nil =>
      cases each
      rfl
  | cons entry rest ih =>
      cases each with
      | cons field fields value _ _ others => rw [List.map_cons, List.map_cons, ih fields others]

theorem assemble_each (read values : List (String × WireValue)) (fields : List WireField)
    (each : WireType.HasEach records fields values) (among : ∀ entry ∈ values, read.lookup entry.1 = some entry.2) :
    WireType.assemble read fields = .ok values := by
  induction values generalizing fields with
  | nil =>
      cases each
      rfl
  | cons entry rest ih =>
      cases each with
      | cons field fields value _ _ others =>
          have found := among (field.key, value) List.mem_cons_self
          have remaining := ih fields others fun entry member => among entry (List.mem_cons_of_mem _ member)
          simp only [WireType.assemble, found, remaining]
          rfl

theorem lookup_distinct (values : List (String × WireValue)) (distinct : (values.map Prod.fst).Nodup)
    (entry : String × WireValue) (member : entry ∈ values) : values.lookup entry.1 = some entry.2 := by
  obtain ⟨before, after, rfl⟩ := List.append_of_mem member
  refine List.lookup_eq_some_iff.mpr ⟨before, after, rfl, ?_⟩
  intro other earlier
  rw [List.map_append, List.map_cons] at distinct
  have apart := (List.nodup_append.mp distinct).2.2 other.1 (List.mem_map_of_mem earlier) entry.1 List.mem_cons_self
  simpa using Ne.symm apart

mutual
theorem has_writes (distinct : records.Distinct) :
    ∀ (type : WireType) (value : WireValue), type.Has records value → ∃ json, type.Writes records value json
  | _, _, .int range n inside => by
      refine ⟨.int n, ?_, ?_, ?_, nofun⟩
      · rw [WireValue.encode]
      · simp only [WireType.decode, WireType.present, WireType.decodeInt, if_pos inside]
      · simp only [strays]
  | _, _, .text text => by
      refine ⟨.str text, ?_, ?_, ?_, nofun⟩
      · rw [WireValue.encode]
      · simp only [WireType.decode, WireType.present, WireType.decodeText]
      · simp only [strays]
  | _, _, .instant instant plain => by
      refine ⟨.str instant.text, ?_, ?_, ?_, nofun⟩
      · rw [WireValue.encode]
      · simp only [WireType.decode, WireType.present, WireType.decodeText, instant_read instant plain]
      · simp only [strays]
  | _, _, .absent inner => by
      refine ⟨.null, ?_, ?_, ?_, (absurd rfl ·)⟩
      · rw [WireValue.encode]
      · simp only [WireType.decode]
      · simp only [strays]
  | _, _, .present inner value has held => by
      obtain ⟨json, writes⟩ := has_writes distinct inner value has
      refine ⟨json, writes.written, ?_, ?_, writes.held⟩
      · rw [decode_option records inner json (writes.held held), writes.read]
      · rw [strays_option, writes.known]
  | _, _, .record name values each => by
      have unique := distinct name
      obtain ⟨fields, writes⟩ := has_writes_each distinct (records.shape name) _ values each fun field member =>
        find_named WireField.key _ unique field member
      have keys := has_each_keys records _ values each
      have assembled := assemble_each records values values _ each (lookup_distinct values (keys ▸ unique))
      refine ⟨.obj fields, ?_, ?_, ?_, nofun⟩
      · rw [WireValue.encode, writes.written]
        rfl
      · exact (decode_fields_ok records _ name fields _ rfl).mpr ⟨values, values, writes.read, assembled, rfl⟩
      · simp only [strays, WireType.present, writes.known]
theorem has_writes_each (distinct : records.Distinct) (shape : RecordShape) :
    ∀ (fields : List WireField) (values : List (String × WireValue)), WireType.HasEach records fields values →
      (∀ field ∈ fields, shape.field? field.key = some field) → ∃ written, WireType.WritesEach records shape values written
  | _, _, .nil, _ => ⟨[], rfl, rfl, rfl⟩
  | _, _, .cons field fields value values has others, declared => by
      obtain ⟨json, first⟩ := has_writes distinct field.type value has
      obtain ⟨written, rest⟩ := has_writes_each distinct shape fields values others fun field member =>
        declared field (List.mem_cons_of_mem _ member)
      have found := declared field List.mem_cons_self
      refine ⟨(field.key, json) :: written, ?_, ?_, ?_⟩
      · rw [WireValue.encodeFields, first.written, rest.written]
        rfl
      · rw [WireType.decodeFields, found]
        dsimp only
        rw [first.read, rest.read]
        rfl
      · rw [strayFields, found]
        dsimp only
        rw [first.known, rest.known]
        rfl
end

end

theorem has_decoded (types : TypeTables) (names : List String) (family : ModelFamily types names)
    (distinct : types.records.Distinct) (type : WireType) (modelled : type.isModelled names) (value : WireValue)
    (has : type.Has types.records value) (held : value ≠ .absent) :
    ∃ json, value.encode = .ok json ∧ json ≠ .null ∧
      checkShape types.models (type.host types.records) json = .ok () ∧
      ∀ (response : Response) (request : Request) (name : String) (required : Bool), response.Holds name json →
        response.decode types.models (ResultType.ofWire types.records type) request name required = .ok value := by
  obtain ⟨json, writes⟩ := has_writes types.records distinct type value has
  have accepted : checkShape types.models (type.host types.records) json = .ok () := by
    rw [check_shape_strays types names family type modelled json, writes.known]
    exact fun stray member => nomatch member
  have decoded : decodeValue types.models (ResultType.ofWire types.records type) json = .ok value :=
    (decode_value_ok types.models _ json value).mpr ⟨accepted, (wire_read_ok _ _ _ _).mpr writes.read⟩
  refine ⟨json, writes.written, writes.held held, accepted, ?_⟩
  intro response request name required holds
  rw [decode_held types.models _ response request name json required holds, decoded]
  rfl

end TypedQuery

import TypedQuery.Hosting.Models
import TypedQuery.Proofs.Outcome
import TypedQuery.Samples

/-!
Which keys a decoded value may carry beyond those that its records declare. The shape check follows
objects and lists of the host type, while a record may also be read from an array of its fields, so
the two agree but for the keys below such an array.
-/

set_option autoImplicit false

namespace TypedQuery

structure TypeTables where
  models : ModelTable
  records : RecordTable

def Hosting.tables : TypeTables := ⟨Hosting.models, Hosting.records⟩

def Samples.tables : TypeTables := ⟨Samples.models, Samples.records⟩

-- A key of an object that is read into a record which does not declare it. `sheltered` says that a
-- record around the object is written as an array.
structure Stray where
  key : String
  record : String
  sheltered : Bool
deriving DecidableEq, Repr

mutual
def strays (records : RecordTable) (sheltered : Bool) (type : WireType) : Json → List Stray
  | .arr items =>
      match type.present with
      | .list element => strayItems records sheltered element items
      | .record name => strayColumns records (records.shape name).fields items
      | _ => []
  | .obj fields =>
      match type.present with
      | .record name => strayFields records sheltered (records.shape name) fields
      | _ => []
  | _ => []
def strayItems (records : RecordTable) (sheltered : Bool) (element : WireType) : List Json → List Stray
  | [] => []
  | item :: rest => strays records sheltered element item ++ strayItems records sheltered element rest
def strayColumns (records : RecordTable) : List WireField → List Json → List Stray
  | field :: fields, item :: rest => strays records true field.type item ++ strayColumns records fields rest
  | _, _ => []
def strayFields (records : RecordTable) (sheltered : Bool) (shape : RecordShape) :
    List (String × Json) → List Stray
  | [] => []
  | (key, item) :: rest =>
      match shape.field? key with
      | some field => strays records sheltered field.type item ++ strayFields records sheltered shape rest
      | none => ⟨key, shape.name, sheltered⟩ :: strayFields records sheltered shape rest
end

def WireType.isModelled (names : List String) : WireType → Bool
  | .option inner => inner.isModelled names
  | .list element => element.isModelled names
  | .record name => names.contains name
  | .map _ | .any _ => false
  | _ => true

def RecordShape.agrees (types : TypeTables) (shape : RecordShape) : Bool :=
  match shape.host with
  | .model ref =>
      let descriptor := types.models.describe ref
      descriptor.fields.map (fun field => (field.mappedName descriptor.naming, field.type)) =
        shape.fields.map (fun field => (field.key, field.type.host types.records))
  | _ => false

structure ModelFamily (types : TypeTables) (names : List String) : Prop where
  declared : ∀ name ∈ names, (List.lookup name types.records).isSome
  agreeing : ∀ name ∈ names, (types.records.shape name).agrees types
  closed : ∀ name ∈ names, ∀ field ∈ (types.records.shape name).fields, field.type.isModelled names

theorem hosting_family : ModelFamily Hosting.tables (Hosting.records.map Prod.fst) where
  declared := by decide +kernel
  agreeing := by decide +kernel
  closed := by decide +kernel

theorem sample_family :
    ModelFamily Samples.tables ["TestType", "TestResult", "TestInputType", "Node"] where
  declared := by decide +kernel
  agreeing := by decide +kernel
  closed := by decide +kernel

theorem strict_lookup (records : RecordTable) (name : String) :
    List.lookup name records.strict =
      (List.lookup name records).map fun shape => { shape with closed := true } := by
  unfold RecordTable.strict
  induction records with
  | nil => rfl
  | cons entry rest ih =>
      obtain ⟨key, shape⟩ := entry
      by_cases same : name = key
      · simp [same]
      · have different : (name == key) = false := by simpa using same
        simpa [List.lookup_cons, different] using ih

theorem strict_shape (records : RecordTable) (name : String) (declared : (List.lookup name records).isSome) :
    records.strict.shape name = { records.shape name with closed := true } := by
  obtain ⟨shape, found⟩ := Option.isSome_iff_exists.mp declared
  simp [RecordTable.shape, strict_lookup, found]

theorem present_modelled (names : List String) (type : WireType) (modelled : type.isModelled names) :
    type.present.isModelled names := by
  induction type with
  | option inner ih => exact ih modelled
  | _ => exact modelled

theorem present_host (records : RecordTable) (type : WireType) :
    type.present.host records = type.host records := by
  induction type with
  | option inner ih => exact ih
  | _ => rfl

theorem present_not_option (type inner : WireType) : type.present ≠ .option inner := by
  induction type with
  | option _ ih => exact ih
  | _ => simp [WireType.present]

theorem modelled_record (names : List String) (type : WireType) (name : String) (modelled : type.isModelled names)
    (kind : type.present = .record name) : name ∈ names := by
  have inner := present_modelled names type modelled
  simpa [kind, WireType.isModelled] using inner

theorem int_any_records (records other : RecordTable) (n : Int) (type : WireType) (result : WireValue) :
    type.decodeInt records n = .ok result ↔ type.decodeInt other n = .ok result := by
  cases type <;> simp [WireType.decodeInt]

theorem double_any_records (records other : RecordTable) (x : Double) (type : WireType) (result : WireValue) :
    type.decodeDouble records x = .ok result ↔ type.decodeDouble other x = .ok result := by
  cases type <;> simp [WireType.decodeDouble]

theorem text_any_records (records other : RecordTable) (text : String) (type : WireType) (result : WireValue) :
    type.decodeText records text = .ok result ↔ type.decodeText other text = .ok result := by
  cases type <;> simp [WireType.decodeText]

theorem fill_any_closed (shape : RecordShape) (index : Nat) (fields : List WireField) :
    WireType.fillRest { shape with closed := true } index fields = WireType.fillRest shape index fields := by
  induction fields generalizing index with
  | nil => rfl
  | cons field rest ih => simp only [WireType.fillRest, ih]

theorem decode_items_ok (records : RecordTable) (type element : WireType) (items : List Json) (result : WireValue)
    (kind : type.present = .list element) :
    WireType.decode records type (.arr items) = .ok result ↔
      ∃ values, WireType.decodeItems records element items = .ok values ∧ .list values = result := by
  rw [WireType.decode, kind]
  simp only [bind_ok_iff, Except.ok.injEq]

theorem decode_columns_ok (records : RecordTable) (type : WireType) (name : String) (items : List Json)
    (result : WireValue) (kind : type.present = .record name) :
    WireType.decode records type (.arr items) = .ok result ↔
      ∃ values, WireType.decodeColumns records (records.shape name) items.length 0 (records.shape name).fields items =
        .ok values ∧ .record values = result := by
  rw [WireType.decode, kind]
  simp only [bind_ok_iff, Except.ok.injEq]

theorem decode_fields_ok (records : RecordTable) (type : WireType) (name : String) (fields : Json.Fields)
    (result : WireValue) (kind : type.present = .record name) :
    WireType.decode records type (.obj fields) = .ok result ↔
      ∃ read values, WireType.decodeFields records (records.shape name) fields = .ok read ∧
        WireType.assemble read (records.shape name).fields = .ok values ∧ .record values = result := by
  rw [WireType.decode, kind]
  simp only [bind_ok_iff, Except.ok.injEq, exists_and_left]

-- Closing the records changes a reading only where an object meets a record, so the flag that the
-- strays carry plays no part in it.
mutual
theorem strict_decode (types : TypeTables) (names : List String) (family : ModelFamily types names)
    (type : WireType) (sheltered : Bool) (modelled : type.isModelled names) (value : Json) (result : WireValue) :
    WireType.decode types.records.strict type value = .ok result ↔
      WireType.decode types.records type value = .ok result ∧ strays types.records sheltered type value = [] := by
  cases value with
  | null => cases type <;> simp [WireType.decode, strays, WireType.mismatch]
  | bool b => cases kind : type.present <;> simp [WireType.decode, strays, kind, WireType.mismatch]
  | int n =>
      cases kind : type.present <;>
        simp [WireType.decode, strays, kind, int_any_records types.records.strict types.records]
  | double x =>
      cases kind : type.present <;>
        simp [WireType.decode, strays, kind, double_any_records types.records.strict types.records]
  | str text =>
      cases kind : type.present <;>
        simp [WireType.decode, strays, kind, text_any_records types.records.strict types.records]
  | arr items =>
      cases kind : type.present with
      | list element =>
          have inner : element.isModelled names := by
            simpa only [kind, WireType.isModelled] using present_modelled names type modelled
          simp only [decode_items_ok _ type element items result kind, strays, kind,
            strict_items types names family element sheltered inner items]
          grind
      | record name =>
          have member := modelled_record names type name modelled kind
          simp only [decode_columns_ok _ type name items result kind, strays, kind,
            strict_shape types.records name (family.declared name member),
            strict_columns types names family _ _ _ _ (family.closed name member) items]
          grind
      | _ => simp [WireType.decode, strays, kind, WireType.mismatch]
  | obj fields =>
      cases kind : type.present with
      | record name =>
          have member := modelled_record names type name modelled kind
          simp only [decode_fields_ok _ type name fields result kind, strays, kind,
            strict_shape types.records name (family.declared name member),
            strict_fields types names family _ sheltered (family.closed name member) fields]
          grind
      | map _ => simpa [kind, WireType.isModelled] using present_modelled names type modelled
      | _ => simp [WireType.decode, strays, kind, WireType.mismatch]
theorem strict_items (types : TypeTables) (names : List String) (family : ModelFamily types names)
    (element : WireType) (sheltered : Bool) (modelled : element.isModelled names) (items : List Json)
    (results : List WireValue) :
    WireType.decodeItems types.records.strict element items = .ok results ↔
      WireType.decodeItems types.records element items = .ok results ∧
        strayItems types.records sheltered element items = [] := by
  cases items with
  | nil => simp [WireType.decodeItems, strayItems]
  | cons item rest =>
      simp only [WireType.decodeItems, strayItems, bind_ok_iff, List.append_eq_nil_iff,
        strict_decode types names family element sheltered modelled item,
        strict_items types names family element sheltered modelled rest]
      grind
theorem strict_columns (types : TypeTables) (names : List String) (family : ModelFamily types names)
    (shape : RecordShape) (length index : Nat) (fields : List WireField)
    (modelled : ∀ field ∈ fields, field.type.isModelled names) (items : List Json)
    (results : List (String × WireValue)) :
    WireType.decodeColumns types.records.strict { shape with closed := true } length index fields items = .ok results ↔
      WireType.decodeColumns types.records shape length index fields items = .ok results ∧
        strayColumns types.records fields items = [] := by
  cases fields with
  | nil => cases items <;> simp [WireType.decodeColumns, strayColumns]
  | cons field fields =>
      cases items with
      | nil => simp [WireType.decodeColumns, strayColumns, fill_any_closed]
      | cons item rest =>
          have first := modelled field List.mem_cons_self
          have others : ∀ field ∈ fields, field.type.isModelled names :=
            fun field member => modelled field (List.mem_cons_of_mem _ member)
          simp only [WireType.decodeColumns, strayColumns, bind_ok_iff, List.append_eq_nil_iff,
            strict_decode types names family field.type true first item,
            strict_columns types names family shape length (index + 1) fields others rest]
          grind
theorem strict_fields (types : TypeTables) (names : List String) (family : ModelFamily types names)
    (shape : RecordShape) (sheltered : Bool)
    (modelled : ∀ field ∈ shape.fields, field.type.isModelled names) (fields : Json.Fields)
    (results : List (String × WireValue)) :
    WireType.decodeFields types.records.strict { shape with closed := true } fields = .ok results ↔
      WireType.decodeFields types.records shape fields = .ok results ∧
        strayFields types.records sheltered shape fields = [] := by
  cases fields with
  | nil => simp [WireType.decodeFields, strayFields]
  | cons entry rest =>
      obtain ⟨key, item⟩ := entry
      have same : RecordShape.field? { shape with closed := true } key = shape.field? key := rfl
      rw [WireType.decodeFields, WireType.decodeFields, strayFields, same]
      cases found : shape.field? key with
      | none => simp
      | some field =>
          have known := modelled field (List.mem_of_find?_eq_some found)
          simp only [bind_ok_iff, List.append_eq_nil_iff,
            strict_decode types names family field.type sheltered known item,
            strict_fields types names family shape sheltered modelled rest]
          grind
end

mutual
theorem strays_sheltered (records : RecordTable) (type : WireType) (value : Json) (stray : Stray)
    (member : stray ∈ strays records true type value) : stray.sheltered := by
  cases value with
  | arr items =>
      rw [strays] at member
      split at member
      · exact stray_items_sheltered records _ items stray member
      · exact stray_columns_sheltered records _ items stray member
      · simp at member
  | obj fields =>
      rw [strays] at member
      split at member
      · exact stray_fields_sheltered records _ fields stray member
      · simp at member
  | _ => simp [strays] at member
theorem stray_items_sheltered (records : RecordTable) (element : WireType) (items : List Json) (stray : Stray)
    (member : stray ∈ strayItems records true element items) : stray.sheltered := by
  cases items with
  | nil => simp [strayItems] at member
  | cons item rest =>
      rw [strayItems] at member
      rcases List.mem_append.mp member with first | later
      · exact strays_sheltered records element item stray first
      · exact stray_items_sheltered records element rest stray later
theorem stray_columns_sheltered (records : RecordTable) (fields : List WireField) (items : List Json) (stray : Stray)
    (member : stray ∈ strayColumns records fields items) : stray.sheltered := by
  cases fields with
  | nil => simp [strayColumns] at member
  | cons field fields =>
      cases items with
      | nil => simp [strayColumns] at member
      | cons item rest =>
          rw [strayColumns] at member
          rcases List.mem_append.mp member with first | later
          · exact strays_sheltered records field.type item stray first
          · exact stray_columns_sheltered records fields rest stray later
theorem stray_fields_sheltered (records : RecordTable) (shape : RecordShape) (fields : Json.Fields) (stray : Stray)
    (member : stray ∈ strayFields records true shape fields) : stray.sheltered := by
  cases fields with
  | nil => simp [strayFields] at member
  | cons entry rest =>
      obtain ⟨key, item⟩ := entry
      rw [strayFields] at member
      split at member
      · rcases List.mem_append.mp member with first | later
        · exact strays_sheltered records _ item stray first
        · exact stray_fields_sheltered records shape rest stray later
      · rcases List.mem_cons.mp member with same | later
        · rw [same]
        · exact stray_fields_sheltered records shape rest stray later
end

theorem agreeing_fields (types : TypeTables) (shape : RecordShape) (agrees : shape.agrees types) :
    ∃ ref, shape.host = .model ref ∧ ∀ key,
      ((types.models.describe ref).field? key).map ModelField.type =
        (shape.field? key).map fun field => field.type.host types.records := by
  unfold RecordShape.agrees at agrees
  split at agrees
  · rename_i ref host
    refine ⟨ref, host, fun key => ?_⟩
    have columns := congrArg (fun columns => (columns.find? (·.1 = key)).map Prod.snd) (of_decide_eq_true agrees)
    simpa only [List.find?_map, Option.map_map, Function.comp_def, ModelDescriptor.field?, RecordShape.field?] using columns
  · simp at agrees

-- What the shape check does not see are the keys below a record that is written as an array.
mutual
theorem check_shape_strays (types : TypeTables) (names : List String) (family : ModelFamily types names)
    (type : WireType) (modelled : type.isModelled names) (value : Json) :
    checkShape types.models (type.host types.records) value = .ok () ↔
      ∀ stray ∈ strays types.records false type value, stray.sheltered := by
  have inner := present_modelled names type modelled
  rw [← present_host types.records type]
  cases value with
  | arr items =>
      rw [strays]
      cases kind : type.present with
      | list element =>
          rw [kind] at inner
          exact check_items_strays types names family element inner items
      | record name =>
          have member := modelled_record names type name modelled kind
          obtain ⟨ref, host, _⟩ := agreeing_fields types _ (family.agreeing name member)
          simpa [checkShape, WireType.host, host] using stray_columns_sheltered types.records _ items
      | option _ => exact absurd kind (present_not_option type _)
      | any _ => simp [kind, WireType.isModelled] at inner
      | _ => simp [checkShape, WireType.host]
  | obj fields =>
      rw [strays]
      cases kind : type.present with
      | record name =>
          have member := modelled_record names type name modelled kind
          obtain ⟨ref, host, same⟩ := agreeing_fields types _ (family.agreeing name member)
          simpa only [checkShape, WireType.host, host] using
            check_fields_strays types names family _ _ same (family.closed name member) fields
      | option _ => exact absurd kind (present_not_option type _)
      | any _ => simp [kind, WireType.isModelled] at inner
      | _ => simp [checkShape, WireType.host]
  | _ => simp [checkShape, strays]
theorem check_items_strays (types : TypeTables) (names : List String) (family : ModelFamily types names)
    (element : WireType) (modelled : element.isModelled names) (items : List Json) :
    checkItems types.models (element.host types.records) items = .ok () ↔
      ∀ stray ∈ strayItems types.records false element items, stray.sheltered := by
  cases items with
  | nil => simp [checkItems, strayItems]
  | cons item rest =>
      rw [checkItems, strayItems, then_ok_iff, List.forall_mem_append,
        check_shape_strays types names family element modelled item,
        check_items_strays types names family element modelled rest]
theorem check_fields_strays (types : TypeTables) (names : List String) (family : ModelFamily types names)
    (descriptor : ModelDescriptor) (shape : RecordShape)
    (same : ∀ key, (descriptor.field? key).map ModelField.type =
      (shape.field? key).map fun field => field.type.host types.records)
    (modelled : ∀ field ∈ shape.fields, field.type.isModelled names) (fields : Json.Fields) :
    checkFields types.models descriptor fields = .ok () ↔
      ∀ stray ∈ strayFields types.records false shape fields, stray.sheltered := by
  cases fields with
  | nil => simp [checkFields, strayFields]
  | cons entry rest =>
      obtain ⟨key, item⟩ := entry
      have column := same key
      rw [checkFields, strayFields]
      cases found : shape.field? key with
      | none =>
          have missing : descriptor.field? key = none := by simpa [found] using column
          simp [missing]
      | some field =>
          obtain ⟨declared, present, type⟩ : ∃ declared, descriptor.field? key = some declared ∧
              declared.type = field.type.host types.records := by simpa [found] using column
          have known := modelled field (List.mem_of_find?_eq_some found)
          simp only [present, type]
          rw [then_ok_iff, List.forall_mem_append, check_shape_strays types names family field.type known item,
            check_fields_strays types names family descriptor shape same modelled rest]
end

theorem decode_value_ok {α : Type} (models : ModelTable) (type : ResultType α) (value : Json) (result : α) :
    decodeValue models type value = .ok result ↔ checkShape models type.host value = .ok () ∧ type.read value = .ok result := by
  unfold decodeValue
  cases checkShape models type.host value with
  | error fault => simp
  | ok _ => simp only [map_error_ok_iff, true_and]

theorem wire_read_ok (records : RecordTable) (type : WireType) (value : Json) (result : WireValue) :
    type.read records value = .ok result ↔ type.decode records value = .ok result := by
  rw [WireType.read, map_error_ok_iff]

theorem decode_member_present {α : Type} (models : ModelTable) (type : ResultType α) (response : Response) (name : String)
    (value : Json) (present : response.field? name = some value) (required : Bool) :
    decodeMember models type response name required = decodeValue models type value := by
  simp [decodeMember, present]

theorem decode_member_strict_iff (types : TypeTables) (names : List String) (family : ModelFamily types names)
    (type : WireType) (modelled : type.isModelled names) (response : Response) (name : String) (value : Json)
    (present : response.field? name = some value) (required : Bool) :
    (∀ result, decodeMember types.models (ResultType.ofWire types.records type) response name required = .ok result ↔
      WireType.decode types.records type value = .ok result ∧
        ∀ stray ∈ strays types.records false type value, stray.sheltered) ∧
    (∀ result, WireType.decode types.records.strict type value = .ok result ↔
      WireType.decode types.records type value = .ok result ∧ strays types.records false type value = []) ∧
    ((∀ result, decodeMember types.models (ResultType.ofWire types.records type) response name required = .ok result ↔
        WireType.decode types.records.strict type value = .ok result) ↔
      ((∃ result, WireType.decode types.records type value = .ok result) →
        (∀ stray ∈ strays types.records false type value, stray.sheltered) →
        strays types.records false type value = [])) := by
  have shaped (result : WireValue) :
      decodeMember types.models (ResultType.ofWire types.records type) response name required = .ok result ↔
        WireType.decode types.records type value = .ok result ∧
          ∀ stray ∈ strays types.records false type value, stray.sheltered := by
    rw [decode_member_present types.models _ response name value present required, decode_value_ok, and_comm,
      show (ResultType.ofWire types.records type).read value = type.read types.records value from rfl, wire_read_ok]
    exact and_congr_right fun _ => check_shape_strays types names family type modelled value
  have strict := strict_decode types names family type false modelled value
  refine ⟨shaped, strict, ?_⟩
  simp only [shaped, strict]
  constructor
  · rintro agree ⟨result, decoded⟩ sheltered
    exact ((agree result).mp ⟨decoded, sheltered⟩).2
  · intro unsheltered result
    constructor
    · rintro ⟨decoded, sheltered⟩
      exact ⟨decoded, unsheltered ⟨result, decoded⟩ sheltered⟩
    · rintro ⟨decoded, none⟩
      exact ⟨decoded, by simp [none]⟩

def instanceList : Json :=
  .arr [.obj [("dgraphId", .str "d-1"), ("env", .arr [.str "e-1", .null, .str "prod"]), ("storageGB", .int 10)], .null]

def nestedNode : Json :=
  .obj [("id", .str "a"), ("parent", .arr [.str "b", .null]),
    ("kids", .arr [.obj [("id", .str "c"), ("kids", .arr [])], .arr [.str "d", .null, .arr []]])]

theorem bundled_members_decode_strictly :
    (ModelFamily Hosting.tables (Hosting.records.map Prod.fst) ∧
      (WireType.list (.option Hosting.Instance.type)).isModelled (Hosting.records.map Prod.fst) ∧
      (⟨some (.obj [("list", instanceList)]), []⟩ : Response).field? "list" = some instanceList ∧
      ∀ result, decodeMember Hosting.models
          (ResultType.ofWire Hosting.records (.list (.option Hosting.Instance.type)))
          ⟨some (.obj [("list", instanceList)]), []⟩ "list" true = .ok result ↔
        WireType.decode Hosting.records.strict (.list (.option Hosting.Instance.type)) instanceList = .ok result) ∧
    (ModelFamily Samples.tables ["TestType", "TestResult", "TestInputType", "Node"] ∧
      (WireType.record "Node").isModelled ["TestType", "TestResult", "TestInputType", "Node"] ∧
      (⟨some (.obj [("node", nestedNode)]), []⟩ : Response).field? "node" = some nestedNode ∧
      ∀ result, decodeMember Samples.models (ResultType.ofWire Samples.records (.record "Node"))
          ⟨some (.obj [("node", nestedNode)]), []⟩ "node" false = .ok result ↔
        WireType.decode Samples.records.strict (.record "Node") nestedNode = .ok result) := by
  have instances : strays Hosting.records false (.list (.option Hosting.Instance.type)) instanceList = [] := by
    decide +kernel
  have nodes : strays Samples.records false (.record "Node") nestedNode = [] := by decide +kernel
  refine ⟨⟨hosting_family, by decide, by decide, ?_⟩, ⟨sample_family, by decide, by decide, ?_⟩⟩
  · exact (decode_member_strict_iff Hosting.tables _ hosting_family (.list (.option Hosting.Instance.type)) (by decide)
      ⟨some (.obj [("list", instanceList)]), []⟩ "list" instanceList (by decide) true).2.2.mpr fun _ _ => instances
  · exact (decode_member_strict_iff Samples.tables _ sample_family (.record "Node") (by decide)
      ⟨some (.obj [("node", nestedNode)]), []⟩ "node" nestedNode (by decide) false).2.2.mpr fun _ _ => nodes

def shelteringInstance : Json :=
  .arr [.str "d-1", .null, .int 1, .int 1, .int 10,
    .obj [("id", .str "e-1"), ("createdAt", .null), ("name", .str "prod"), ("region", .str "eu")], .null]

theorem array_shelters_undeclared_key :
    (∃ result, decodeMember Hosting.models (ResultType.ofWire Hosting.records Hosting.Instance.type)
      ⟨some (.obj [("getDgraphInstance", shelteringInstance)]), []⟩ "getDgraphInstance" true = .ok result) ∧
    ¬ ∃ result, WireType.decode Hosting.records.strict Hosting.Instance.type shelteringInstance = .ok result := by
  simp only [← is_ok_iff]
  decide +kernel

end TypedQuery

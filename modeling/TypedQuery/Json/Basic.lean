import TypedQuery.Number.Double

/-!
JSON values. Integers from `-2^63` to `2^64 - 1` stay integers, other numbers are doubles. Objects
keep the order in which their keys came; a key given twice keeps its first place and its last value.
-/

set_option autoImplicit false

namespace TypedQuery

inductive Json where
  | null
  | bool (value : Bool)
  | int (value : Int)
  | double (value : Double)
  | str (text : String)
  | arr (items : List Json)
  | obj (fields : List (String × Json))
deriving Inhabited

namespace Json

abbrev Fields := List (String × Json)

def put (key : String) (value : Json) : Fields → Fields
  | [] => [(key, value)]
  | (k, v) :: rest => if k = key then (k, value) :: rest else (k, v) :: put key value rest

def ofFields (fields : Fields) : Fields := fields.foldl (fun acc (k, v) => put k v acc) []

def get? (key : String) : Json → Option Json
  | .obj fields => fields.lookup key
  | _ => none

def ofOption {α : Type} (encode : α → Json) : Option α → Json
  | none => .null
  | some value => encode value

def strings (texts : List String) : Json := .arr (texts.map .str)

mutual
def decEq : (a b : Json) → Decidable (a = b)
  | .null, b => match b with
    | .null => .isTrue rfl
    | .bool _ | .int _ | .double _ | .str _ | .arr _ | .obj _ => .isFalse (by simp)
  | .bool x, b => match b with
    | .bool y => if h : x = y then .isTrue (h ▸ rfl) else .isFalse (by simpa using h)
    | .null | .int _ | .double _ | .str _ | .arr _ | .obj _ => .isFalse (by simp)
  | .int x, b => match b with
    | .int y => if h : x = y then .isTrue (h ▸ rfl) else .isFalse (by simpa using h)
    | .null | .bool _ | .double _ | .str _ | .arr _ | .obj _ => .isFalse (by simp)
  | .double x, b => match b with
    | .double y => if h : x = y then .isTrue (h ▸ rfl) else .isFalse (by simpa using h)
    | .null | .bool _ | .int _ | .str _ | .arr _ | .obj _ => .isFalse (by simp)
  | .str x, b => match b with
    | .str y => if h : x = y then .isTrue (h ▸ rfl) else .isFalse (by simpa using h)
    | .null | .bool _ | .int _ | .double _ | .arr _ | .obj _ => .isFalse (by simp)
  | .arr xs, b => match b with
    | .arr ys => match decEqItems xs ys with
      | .isTrue h => .isTrue (h ▸ rfl)
      | .isFalse h => .isFalse (by simpa using h)
    | .null | .bool _ | .int _ | .double _ | .str _ | .obj _ => .isFalse (by simp)
  | .obj xs, b => match b with
    | .obj ys => match decEqFields xs ys with
      | .isTrue h => .isTrue (h ▸ rfl)
      | .isFalse h => .isFalse (by simpa using h)
    | .null | .bool _ | .int _ | .double _ | .str _ | .arr _ => .isFalse (by simp)
def decEqItems : (xs ys : List Json) → Decidable (xs = ys)
  | [], [] => .isTrue rfl
  | [], _ :: _ => .isFalse (by simp)
  | _ :: _, [] => .isFalse (by simp)
  | x :: xs, y :: ys => match decEq x y, decEqItems xs ys with
    | .isTrue h, .isTrue t => .isTrue (h ▸ t ▸ rfl)
    | .isFalse h, _ => .isFalse (by simp [h])
    | _, .isFalse t => .isFalse (by simp [t])
def decEqFields : (xs ys : List (String × Json)) → Decidable (xs = ys)
  | [], [] => .isTrue rfl
  | [], _ :: _ => .isFalse (by simp)
  | _ :: _, [] => .isFalse (by simp)
  | (j, x) :: xs, (k, y) :: ys => match decEq x y, decEqFields xs ys with
    | .isTrue h, .isTrue t =>
        if k' : j = k then .isTrue (h ▸ t ▸ k' ▸ rfl) else .isFalse (by simp [k'])
    | .isFalse h, _ => .isFalse (by simp [h])
    | _, .isFalse t => .isFalse (by simp [t])
end

instance : DecidableEq Json := decEq

end Json

end TypedQuery

/-!
Decoding of bytes as UTF-8. A maximal run of bytes that starts a character and breaks off counts as
one fault, and so does a byte that starts none.
-/

set_option autoImplicit false

namespace TypedQuery.Text.Utf8

inductive Piece where
  | char (c : Char)
  | fault (width : Nat)
deriving DecidableEq, Repr

/-- A character that has begun: the value so far, how many bytes it has and how many are missing,
and the bounds of the next one. -/
structure Pending where
  value : Nat
  width : Nat
  missing : Nat
  low : Nat
  high : Nat

def start (byte : UInt8) : Except Piece Pending :=
  let b := byte.toNat
  if b < 0x80 then .error (.char (Char.ofNat b))
  else if b < 0xc2 then .error (.fault 1)
  else if b < 0xe0 then .ok ⟨b - 0xc0, 1, 1, 0x80, 0xbf⟩
  else if b < 0xf0 then
    .ok ⟨b - 0xe0, 1, 2, if b = 0xe0 then 0xa0 else 0x80, if b = 0xed then 0x9f else 0xbf⟩
  else if b < 0xf5 then
    .ok ⟨b - 0xf0, 1, 3, if b = 0xf0 then 0x90 else 0x80, if b = 0xf4 then 0x8f else 0xbf⟩
  else .error (.fault 1)

def decodeFrom : Option Pending → List UInt8 → List Piece
  | none, [] => []
  | some pending, [] => [.fault pending.width]
  | none, byte :: rest =>
      match start byte with
      | .error piece => piece :: decodeFrom none rest
      | .ok begun => decodeFrom (some begun) rest
  | some pending, byte :: rest =>
      if pending.low ≤ byte.toNat ∧ byte.toNat ≤ pending.high then
        let value := pending.value * 64 + (byte.toNat - 0x80)
        if pending.missing = 1 then .char (Char.ofNat value) :: decodeFrom none rest
        else decodeFrom (some ⟨value, pending.width + 1, pending.missing - 1, 0x80, 0xbf⟩) rest
      else
        .fault pending.width :: match start byte with
          | .error piece => piece :: decodeFrom none rest
          | .ok begun => decodeFrom (some begun) rest

def decode (bytes : List UInt8) : List Piece := decodeFrom none bytes

def Piece.shown : Piece → Char
  | .char c => c
  | .fault _ => '\ufffd'

def lossy (pieces : List Piece) : String := String.ofList (pieces.map Piece.shown)

end TypedQuery.Text.Utf8

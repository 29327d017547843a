import TypedQuery.Transport

/-!
Bytes that are the UTF-8 form of a text decode to the characters of that text, without a fault.
-/

set_option autoImplicit false

namespace TypedQuery.Text.Utf8

def bytes (text : String) : List UInt8 := text.toUTF8.data.toList

theorem bytes_chars (text : String) : bytes text = text.toList.flatMap String.utf8EncodeChar := by
  have whole : text.toByteArray = text.toList.utf8Encode := by
    rw [← String.toByteArray_ofList, String.ofList_toList]
  change text.toByteArray.data.toList = _
  rw [whole, List.utf8Encode, List.toList_data_toByteArray]

theorem byte_value (value : Nat) (small : value < 256) : (UInt8.ofNat value).toNat = value := by
  rw [UInt8.toNat_ofNat', Nat.mod_eq_of_lt small]

theorem decode_last (value width low high digit : Nat) (rest : List UInt8) (small : digit < 64)
    (above : low ≤ digit + 128) (below : digit + 128 ≤ high) :
    decodeFrom (some ⟨value, width, 1, low, high⟩) (UInt8.ofNat (digit + 128) :: rest) =
      .char (Char.ofNat (value * 64 + digit)) :: decodeFrom none rest := by
  rw [decodeFrom, byte_value _ (by omega), if_pos ⟨above, below⟩]
  simp only [if_pos, Nat.add_sub_cancel]

theorem decode_further (value width missing low high digit : Nat) (rest : List UInt8) (small : digit < 64)
    (above : low ≤ digit + 128) (below : digit + 128 ≤ high) :
    decodeFrom (some ⟨value, width, missing + 2, low, high⟩) (UInt8.ofNat (digit + 128) :: rest) =
      decodeFrom (some ⟨value * 64 + digit, width + 1, missing + 1, 0x80, 0xbf⟩) rest := by
  rw [decodeFrom, byte_value _ (by omega), if_pos ⟨above, below⟩]
  dsimp only
  rw [if_neg (by omega), Nat.add_sub_cancel]
  rfl

theorem start_single (code : Nat) (small : code < 0x80) :
    start (UInt8.ofNat code) = .error (.char (Char.ofNat code)) := by
  rw [start, byte_value _ (by omega)]
  exact if_pos small

theorem start_double (digit : Nat) (least : 2 ≤ digit) (small : digit < 32) :
    start (UInt8.ofNat (digit + 192)) = .ok ⟨digit, 1, 1, 0x80, 0xbf⟩ := by
  rw [start, byte_value _ (by omega), if_neg (by omega), if_neg (by omega), if_pos (by omega), Nat.add_sub_cancel]

theorem start_triple (digit : Nat) (small : digit < 16) :
    start (UInt8.ofNat (digit + 224)) =
      .ok ⟨digit, 1, 2, if digit = 0 then 0xa0 else 0x80, if digit = 13 then 0x9f else 0xbf⟩ := by
  rw [start, byte_value _ (by omega), if_neg (by omega), if_neg (by omega), if_neg (by omega), if_pos (by omega),
    Nat.add_sub_cancel]
  simp only [Nat.add_eq_right, show (digit + 224 = 0xed) = (digit = 13) by simp]

theorem start_quadruple (digit : Nat) (small : digit < 5) :
    start (UInt8.ofNat (digit + 240)) =
      .ok ⟨digit, 1, 3, if digit = 0 then 0x90 else 0x80, if digit = 4 then 0x8f else 0xbf⟩ := by
  rw [start, byte_value _ (by omega), if_neg (by omega), if_neg (by omega), if_neg (by omega), if_neg (by omega),
    if_pos (by omega), Nat.add_sub_cancel]
  simp only [Nat.add_eq_right, show (digit + 240 = 0xf4) = (digit = 4) by simp]

-- The cases are the lengths of a character. What the first byte excludes of the second are values that
-- a shorter form has, surrogates, and values beyond the last character.
theorem decode_char (c : Char) (rest : List UInt8) :
    decodeFrom none (String.utf8EncodeChar c ++ rest) = .char c :: decodeFrom none rest := by
  have whole : Char.ofNat c.val.toNat = c := c.ofNat_toNat
  have valid : c.val.toNat < 0xd800 ∨ 0xdfff < c.val.toNat ∧ c.val.toNat < 0x110000 := c.valid
  generalize code : c.val.toNat = v at whole valid
  rw [String.utf8EncodeChar, code]
  split
  · rename_i single
    rw [List.singleton_append, decodeFrom, start_single v (by omega)]
    dsimp only
    rw [whole]
  · split
    · rename_i double
      rw [Nat.mod_eq_of_lt (by omega : v / 64 < 32), List.cons_append, List.singleton_append, decodeFrom,
        start_double (v / 64) (by omega) (by omega)]
      dsimp only
      rw [decode_last _ _ _ _ _ _ (by omega) (by omega) (by omega), Nat.div_add_mod', whole]
    · split
      · rename_i triple
        rw [Nat.mod_eq_of_lt (by omega : v / 4096 < 16), List.cons_append, List.cons_append, List.singleton_append,
          decodeFrom, start_triple (v / 4096) (by omega)]
        dsimp only
        rw [decode_further _ _ _ _ _ _ _ (by omega) (by split <;> omega) (by split <;> omega),
          decode_last _ _ _ _ _ _ (by omega) (by omega) (by omega),
          show (v / 4096 * 64 + v / 64 % 64) * 64 + v % 64 = v by omega, whole]
      · rw [Nat.mod_eq_of_lt (by omega : v / 262144 < 8), List.cons_append, List.cons_append, List.cons_append,
          List.singleton_append, decodeFrom, start_quadruple (v / 262144) (by omega)]
        dsimp only
        rw [decode_further _ _ _ _ _ _ _ (by omega) (by split <;> omega) (by split <;> omega),
          decode_further _ _ _ _ _ _ _ (by omega) (by omega) (by omega),
          decode_last _ _ _ _ _ _ (by omega) (by omega) (by omega),
          show ((v / 262144 * 64 + v / 4096 % 64) * 64 + v / 64 % 64) * 64 + v % 64 = v by omega, whole]

theorem decode_bytes (text : String) : decode (bytes text) = text.toList.map .char := by
  rw [bytes_chars, decode]
  induction text.toList with
  | nil => rfl
  | cons c rest ih => rw [List.flatMap_cons, decode_char, ih, List.map_cons]

end TypedQuery.Text.Utf8

namespace TypedQuery

theorem HttpResponse.of_bytes_text (status : Nat) (text : String) :
    ofBytes status (Text.Utf8.bytes text) = ofText status text := by
  rw [ofBytes, Text.Utf8.decode_bytes, ofText]

theorem HttpResponse.of_text_text (status : Nat) (text : String) : (ofText status text).text = text := by
  rw [HttpResponse.text, ofText, Text.Utf8.lossy, List.map_map]
  exact (congrArg String.ofList (List.map_id text.toList)).trans String.ofList_toList

end TypedQuery

import TypedQuery.Text.CodeRange

/-!
White space as the Unicode property of that name has it.
-/

set_option autoImplicit false

namespace TypedQuery.Text

def blankRanges : List (Nat × Nat) :=
  [(0x9, 0xd), (0x20, 0x20), (0x85, 0x85), (0xa0, 0xa0), (0x1680, 0x1680), (0x2000, 0x200a),
    (0x2028, 0x2029), (0x202f, 0x202f), (0x205f, 0x205f), (0x3000, 0x3000)]

def isBlank (c : Char) : Bool := within blankRanges c.toNat

def trimLeft (text : List Char) : List Char := text.dropWhile isBlank

def trim (text : List Char) : List Char := (trimLeft (trimLeft text).reverse).reverse

def isBlankText (text : String) : Bool := text.toList.all isBlank

end TypedQuery.Text

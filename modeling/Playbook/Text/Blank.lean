/-!
Blank characters, and text without the blanks around it.
-/

namespace Playbook.Text

/-- The characters that count as white space in Unicode. -/
def isBlank (c : Char) : Bool :=
  let n := c.toNat
  (9 ≤ n && n ≤ 13) || n == 0x20 || n == 0x85 || n == 0xa0 || n == 0x1680 ||
    (0x2000 ≤ n && n ≤ 0x200a) || n == 0x2028 || n == 0x2029 || n == 0x202f ||
    n == 0x205f || n == 0x3000

/-- Drops the blanks at both ends. -/
def trimBlanks (cs : List Char) : List Char :=
  ((cs.dropWhile isBlank).reverse.dropWhile isBlank).reverse

/-- The text that bytes encode, when they are valid UTF-8. -/
def ofUtf8? (bytes : List UInt8) : Option String := String.fromUTF8? (ByteArray.mk bytes.toArray)

/-- The bytes that encode a text. -/
def toUtf8 (s : String) : List UInt8 := s.toUTF8.data.toList

end Playbook.Text

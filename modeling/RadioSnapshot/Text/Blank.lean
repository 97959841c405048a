/-!
# Blank characters

The characters with the Unicode property White_Space, and trimming of texts.
-/

namespace RadioSnapshot

/-- Unicode White_Space. -/
def isBlank (char : Char) : Bool :=
  let code := char.toNat
  (9 ≤ code && code ≤ 13) || code == 0x20 || code == 0x85 || code == 0xA0 ||
    code == 0x1680 || (0x2000 ≤ code && code ≤ 0x200A) || code == 0x2028 ||
    code == 0x2029 || code == 0x202F || code == 0x205F || code == 0x3000

/-- Characters without the blanks at their end. -/
def trimEndChars (chars : List Char) : List Char :=
  (chars.reverse.dropWhile isBlank).reverse

/-- A text without the blanks at its end. -/
def trimEnd (text : String) : String :=
  String.ofList (trimEndChars text.toList)

/-- A text without the blanks at both ends. -/
def trim (text : String) : String :=
  String.ofList (trimEndChars (text.toList.dropWhile isBlank))

end RadioSnapshot

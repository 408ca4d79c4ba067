import Script.Text.CodeRange

/-!
# White space

The twenty-five characters of the Unicode property `White_Space`.  They separate
tokens, and they are trimmed from the end of a quoted source line.
-/

namespace Script.Text

/-- The code points of the property `White_Space`. -/
def whiteSpaceRanges : List CodeRange :=
  [
    ⟨0x9, 0xd⟩, ⟨0x20, 0x20⟩, ⟨0x85, 0x85⟩, ⟨0xa0, 0xa0⟩, ⟨0x1680, 0x1680⟩, ⟨0x2000, 0x200a⟩,
    ⟨0x2028, 0x2029⟩, ⟨0x202f, 0x202f⟩, ⟨0x205f, 0x205f⟩, ⟨0x3000, 0x3000⟩
  ]

/-- Whether the character is white space. -/
def isWhiteSpace (character : Char) : Bool :=
  CodeRange.covers whiteSpaceRanges character

end Script.Text

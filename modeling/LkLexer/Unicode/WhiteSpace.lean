import LkLexer.Unicode.Ranges

/-!
# The property White_Space

The characters that separate words, as Unicode 17.0 lists them. The newline is one of them.
-/

namespace LkLexer.Unicode

/-- The code points with the property White_Space. -/
def whiteSpaceRanges : List CodeRange :=
  [⟨0x9, 0xd⟩, ⟨0x20, 0x20⟩, ⟨0x85, 0x85⟩, ⟨0xa0, 0xa0⟩, ⟨0x1680, 0x1680⟩, ⟨0x2000, 0x200a⟩,
   ⟨0x2028, 0x2029⟩, ⟨0x202f, 0x202f⟩, ⟨0x205f, 0x205f⟩, ⟨0x3000, 0x3000⟩]

/-- Whether a character has the property White_Space. -/
def isWhiteSpace (c : Char) : Bool :=
  inRanges c.toNat whiteSpaceRanges

/-- The ranges are in order and apart. -/
theorem ascending_whiteSpaceRanges : Ascending whiteSpaceRanges := by
  decide

end LkLexer.Unicode

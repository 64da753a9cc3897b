import ScriptDigest.Text.Basic
import ScriptDigest.Unicode.CodeRange

/-!
# White space

The characters that trimming removes are those with the Unicode property White_Space. The zero-width space, the byte
order mark and the information separators U+001C to U+001F are not among them.
-/

namespace ScriptDigest

/-- The maximal runs of characters with the property White_Space. -/
def Unicode.whiteSpaceRanges : List Unicode.CodeRange :=
  [⟨0x9, 0xD⟩, ⟨0x20, 0x20⟩, ⟨0x85, 0x85⟩, ⟨0xA0, 0xA0⟩, ⟨0x1680, 0x1680⟩, ⟨0x2000, 0x200A⟩, ⟨0x2028, 0x2029⟩,
    ⟨0x202F, 0x202F⟩, ⟨0x205F, 0x205F⟩, ⟨0x3000, 0x3000⟩]

/-- Whether a character has the property White_Space. -/
def Unicode.isWhiteSpace (c : Char) : Bool :=
  Unicode.whiteSpaceRanges.any (·.contains c)

namespace Text

/-- A text without the white space at its end. -/
def trimEnd (t : Text) : Text := dropEndWhile Unicode.isWhiteSpace t

/-- A text without the white space at both ends. -/
def trim (t : Text) : Text := strip Unicode.isWhiteSpace t

end Text

end ScriptDigest

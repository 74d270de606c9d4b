import Federation.Text.CharRange

/-!
# Federation.Text.Blank — texts of white space only

White space is the Unicode property `White_Space`. A text is blank if it holds nothing else; the
empty text is blank.
-/

namespace Federation.Text

/-- The code points with the property `White_Space`. -/
def whiteSpace : List CharRange :=
  [⟨0x9, 0xD⟩, ⟨0x20, 0x20⟩, ⟨0x85, 0x85⟩, ⟨0xA0, 0xA0⟩, ⟨0x1680, 0x1680⟩, ⟨0x2000, 0x200A⟩,
   ⟨0x2028, 0x2029⟩, ⟨0x202F, 0x202F⟩, ⟨0x205F, 0x205F⟩, ⟨0x3000, 0x3000⟩]

/-- Whether the character is white space. -/
def isWhiteSpace (c : Char) : Bool :=
  inRanges whiteSpace c

/-- Whether the text holds white space only. -/
def isBlank (s : String) : Bool :=
  s.toList.all isWhiteSpace

end Federation.Text

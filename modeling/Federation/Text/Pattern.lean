/-!
# Federation.Text.Pattern — search patterns

A search pattern asks for a piece of text. Stars around it stand for "anything before" and
"anything after" and are dropped; a star inside is a character like any other.
-/

namespace Federation.Text

/-- The pattern without its leading and trailing stars. -/
def Pattern.core (pattern : String) : List Char :=
  ((pattern.toList.dropWhile (· = '*')).reverse.dropWhile (· = '*')).reverse

/-- Whether the piece occurs in the text, in one run. -/
def occursIn (piece : List Char) : List Char → Bool
  | [] => piece.isEmpty
  | c :: rest => piece.isPrefixOf (c :: rest) || occursIn piece rest

/-- Whether the text contains what the pattern asks for. -/
def Pattern.foundIn (pattern text : String) : Bool :=
  occursIn (Pattern.core pattern) text.toList

end Federation.Text

/-!
# White space

The characters with the Unicode property `White_Space`, and the text that is left
when they are cut off at both ends.
-/

namespace SharedListener.Text

/-- Whether a character has the property `White_Space`. -/
def isBlank (c : Char) : Bool :=
  ('\u0009' ≤ c && c ≤ '\u000D') || c == '\u0020' || c == '\u0085' || c == '\u00A0' ||
    c == '\u1680' || ('\u2000' ≤ c && c ≤ '\u200A') || c == '\u2028' || c == '\u2029' ||
    c == '\u202F' || c == '\u205F' || c == '\u3000'

/-- The text without the blanks at its beginning and its end. -/
def trim (text : List Char) : List Char :=
  ((text.dropWhile isBlank).reverse.dropWhile isBlank).reverse

end SharedListener.Text

/-!
# Splitting text

A text is split at every occurrence of a character.
-/

namespace Signoff

/-- The parts of characters between occurrences of `separator`, the first part put after `current`,
which is held in reverse. -/
def splitChars (separator : Char) (current : List Char) : List Char → List (List Char)
  | [] => [current.reverse]
  | c :: rest =>
    if c = separator then current.reverse :: splitChars separator [] rest
    else splitChars separator (c :: current) rest

/-- The parts of a text between occurrences of `separator`. -/
def splitText (separator : Char) (text : String) : List String :=
  (splitChars separator [] text.toList).map String.ofList

end Signoff

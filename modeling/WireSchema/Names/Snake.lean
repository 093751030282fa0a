/-
# Snake case

A camel-case name becomes lower-case words joined by underscores. Words are
found in two passes over the ASCII letters and digits: in a run of capitals
that a small letter follows, the last capital starts a word of its own
(`HTTPServer` is `HTTP_Server`), and a capital after a small letter or digit
starts a word. Hyphens become underscores.

Key definitions: `splitAcronyms`, `splitWords`, `toSnake`, `toUpperSnake`.
-/

import WireSchema.Text.Casing

namespace WireSchema

/-- An ASCII capital. -/
def isCapital (c : Char) : Bool := 'A' ≤ c && c ≤ 'Z'

/-- A small ASCII letter. -/
def isSmall (c : Char) : Bool := 'a' ≤ c && c ≤ 'z'

/-- An ASCII digit. -/
def isFigure (c : Char) : Bool := '0' ≤ c && c ≤ '9'

/-- Whether a text starts with a small letter. -/
def startsSmall : List Char → Bool
  | [] => false
  | c :: _ => isSmall c

/-- An underscore before the last of two or more characters. -/
def detachLast : List Char → List Char
  | [] => []
  | [c] => [c]
  | [c, last] => [c, '_', last]
  | c :: rest => c :: detachLast rest

/-- Splits every run of capitals that a small letter follows before its last
capital. -/
def splitAcronyms : List Char → List Char
  | [] => []
  | c :: cs =>
    if isCapital c then
      let run := c :: cs.takeWhile isCapital
      let rest := cs.dropWhile isCapital
      (if startsSmall rest then detachLast run else run) ++ splitAcronyms rest
    else c :: splitAcronyms cs
termination_by text => text.length
decreasing_by
  · have h : (cs.dropWhile isCapital).Sublist cs := List.dropWhile_sublist isCapital
    have := h.length_le
    simp only [List.length_cons]; omega
  · simp

/-- Splits before every capital that a small letter or a digit precedes. -/
def splitWords : List Char → List Char
  | [] => []
  | [c] => [c]
  | c :: d :: rest =>
    if (isSmall c || isFigure c) && isCapital d then c :: '_' :: splitWords (d :: rest)
    else c :: splitWords (d :: rest)

/-- The snake case of a text. -/
def snakeChars (text : List Char) : List Char :=
  lowerChars ((splitWords (splitAcronyms text)).map fun c => if c = '-' then '_' else c)

/-- The snake case of a name. -/
def toSnake (name : String) : String := String.ofList (snakeChars name.toList)

/-- The snake case of a name, in capitals. -/
def toUpperSnake (name : String) : String := String.ofList (upperChars (snakeChars name.toList))

end WireSchema

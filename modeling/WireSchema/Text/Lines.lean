/-
# Lines and indentation

A text is a sequence of lines. Besides the line feed there are ten other
characters that end a line, and a carriage return before a line feed ends
only one. What follows the last line end is a line only if it is not empty.

Indenting a text moves all its lines but the first to the right, leaves
empty lines empty, and ends every line but the last by a line feed.

Key definitions: `endsLine`, `lines`, `indent`.
-/

namespace WireSchema

/-- The characters that end a line. -/
def endsLine (c : Char) : Bool :=
  c ∈ ['\n', '\r', '\x0b', '\x0c', '\x1c', '\x1d', '\x1e', '\x85', '\u2028', '\u2029']

/-- The lines of a text, without what ends them. -/
def lines : List Char → List (List Char)
  | [] => []
  | '\r' :: '\n' :: rest => [] :: lines rest
  | c :: rest =>
    if endsLine c then [] :: lines rest
    else
      match lines rest with
      | [] => [[c]]
      | line :: more => (c :: line) :: more

/-- A line feed, and the line moved right unless it is empty. -/
def indentLine (width : Nat) (line : List Char) : List Char :=
  '\n' :: (if line.isEmpty then [] else List.replicate width ' ' ++ line)

/-- A text with all lines but the first moved right. A text that ends in a
line end keeps an empty last line. -/
def indent (width : Nat) (text : String) : String :=
  match lines (text.toList ++ ['\n']) with
  | [] => ""
  | first :: rest => String.ofList (first ++ rest.flatMap (indentLine width))

end WireSchema

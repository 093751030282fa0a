/-
# Words that cannot name anything

The hard keywords of Python 3.11, the language of the generated modules.

Key definitions: `keywords`, `isKeyword`, `avoidKeyword`.
-/

namespace WireSchema

/-- The hard keywords. -/
def keywords : List String :=
  ["False", "None", "True", "and", "as", "assert", "async", "await", "break", "class",
   "continue", "def", "del", "elif", "else", "except", "finally", "for", "from", "global",
   "if", "import", "in", "is", "lambda", "nonlocal", "not", "or", "pass", "raise", "return",
   "try", "while", "with", "yield"]

/-- Whether a word is a keyword. -/
def isKeyword (word : String) : Bool := keywords.contains word

/-- The word itself, or the word and an underscore if it is a keyword. -/
def avoidKeyword (word : String) : String :=
  if isKeyword word then word ++ "_" else word

end WireSchema

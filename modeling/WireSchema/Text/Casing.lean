/-
# Lower and upper case of texts

ASCII letters map within ASCII; other characters map by the tables, some of
them to several characters. One lower-case form hangs on the context: a
capital sigma becomes `ς` after a cased character when no cased character
follows, and `σ` elsewhere.

Key definitions: `lowerChars`, `upperChars`.
-/

import WireSchema.Text.CaseContext
import WireSchema.Text.CaseTable

namespace WireSchema

/-- The lower case of a character, the capital sigma's `σ` included. -/
def lowerChar (c : Char) : List Char :=
  if c.toNat < 128 then [c.toLower] else lowerTable.map c

/-- The upper case of a character. -/
def upperChar (c : Char) : List Char :=
  if c.toNat < 128 then [c.toUpper] else upperTable.map c

/-- Whether the first character that is not passed over is cased. -/
def startsCased : List Char → Bool
  | [] => false
  | c :: rest => if caseIgnorableSet.has c then startsCased rest else casedSet.has c

/-- The lower case of a text. `afterCased` says whether the last character
before it that is not passed over is cased. -/
def lowerFrom (afterCased : Bool) : List Char → List Char
  | [] => []
  | c :: rest =>
    let after := if caseIgnorableSet.has c then afterCased else casedSet.has c
    if c = 'Σ' then
      (if afterCased && !startsCased rest then 'ς' else 'σ') :: lowerFrom after rest
    else lowerChar c ++ lowerFrom after rest

/-- The lower case of a text. -/
def lowerChars (text : List Char) : List Char := lowerFrom false text

/-- The upper case of a text. -/
def upperChars (text : List Char) : List Char := text.flatMap upperChar

end WireSchema

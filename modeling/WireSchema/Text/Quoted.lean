/-
# Quoted text

Names in error texts stand between quotes: single ones, or double ones if
the text holds a single but no double quote. The quote and the backslash are
escaped, and so is every character that is not printable, by a letter or by
its code point in hexadecimal digits.

Key definitions: `quoted`.
-/

import WireSchema.Text.Printable

namespace WireSchema

/-- The last `width` hexadecimal digits of a number. -/
def hexDigits : Nat → Nat → List Char
  | 0, _ => []
  | width + 1, n => hexDigits width (n / 16) ++ [Nat.digitChar (n % 16)]

/-- A character inside the given quotes. -/
def quotedChar (quote c : Char) : List Char :=
  if c = quote ∨ c = '\\' then ['\\', c]
  else if c = '\n' then ['\\', 'n']
  else if c = '\r' then ['\\', 'r']
  else if c = '\t' then ['\\', 't']
  else if printableSet.has c then [c]
  else if c.toNat < 0x100 then '\\' :: 'x' :: hexDigits 2 c.toNat
  else if c.toNat < 0x10000 then '\\' :: 'u' :: hexDigits 4 c.toNat
  else '\\' :: 'U' :: hexDigits 8 c.toNat

/-- A text in quotes. -/
def quoted (text : String) : String :=
  let cs := text.toList
  let quote := if cs.contains '\x27' && !cs.contains '\x22' then '\x22' else '\x27'
  String.ofList (quote :: cs.flatMap (quotedChar quote) ++ [quote])

end WireSchema

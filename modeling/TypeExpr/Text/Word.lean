import TypeExpr.Text.Ranges
import TypeExpr.Text.WordTable
import TypeExpr.Text.DigitTable

/-!
# `TypeExpr.Text.Word`: the characters of names

A word character is a letter, a character with a numeric value, or the underscore. A digit is a
decimal digit of any script, and has a value from 0 to 9. ASCII is decided by rule and the rest by
table.
-/

namespace TypeExpr

/-- Letters, characters with a numeric value, and the underscore. -/
def isWord (c : Char) : Bool :=
  if c.toNat < 0x80 then c.isAlphanum || c == '_' else Text.inRanges Text.wordRanges c.toNat

/-- The value of a decimal digit of any script. -/
def digitValue? (c : Char) : Option Nat :=
  if c.toNat < 0x80 then
    if c.isDigit then some (c.toNat - 48) else none
  else
    (Text.digitRanges.find? fun r => decide (r.1 ≤ c.toNat) && decide (c.toNat ≤ r.2)).map fun r =>
      (c.toNat - r.1) % 10

/-- Whether a character is a decimal digit of any script. -/
def isDecimal (c : Char) : Bool := (digitValue? c).isSome

/-- The characters that may begin a name: word characters that are no decimal digits. -/
def startsWord (c : Char) : Bool := isWord c && !isDecimal c

end TypeExpr

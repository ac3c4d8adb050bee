/-
  Sccp.Lib.Digits

  Decimal texts of unsigned machine integers, as the standard parser reads them: an optional
  plus sign, at least one digit, leading zeros allowed, and a value that fits.
-/

import Mathlib.Algebra.Group.Nat.Defs
import Mathlib.Data.List.Basic

namespace Sccp

/-- `str::parse` for an unsigned integer of so many bits. -/
def parseUnsigned (bits : Nat) (text : String) : Option Nat :=
  let digits := if text.toList.head? = some '+' then text.toList.tail else text.toList
  if digits = [] ∨ digits.all Char.isDigit = false then none
  else if Nat.ofDigitChars 10 digits 0 < 2 ^ bits then some (Nat.ofDigitChars 10 digits 0)
  else none

end Sccp

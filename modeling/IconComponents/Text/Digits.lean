/-
**Digits.**

Several documents write numbers in digits of some base. The digits beyond nine are the letters from
`a` on, small or capital.

* `Char.digitValue`, `Char.isHexDigit` — a single digit;
* `Text.numberOf` — the number that digits write.
-/

import IconComponents.Text.Basic

namespace IconComponents

/-- The value of a digit. -/
def Char.digitValue (c : Char) : Nat :=
  if c.isDigit then c.toNat - 48 else c.toLower.toNat - 87

/-- Whether a character is a digit of base sixteen. -/
def Char.isHexDigit (c : Char) : Bool := c.isDigit || ('a' ≤ c.toLower && c.toLower ≤ 'f')

/-- The number that digits of a base write. -/
def Text.numberOf (base : Nat) (digits : Text) : Nat :=
  digits.foldl (fun n c => base * n + Char.digitValue c) 0

end IconComponents

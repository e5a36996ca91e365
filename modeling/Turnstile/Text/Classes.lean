import Turnstile.Text.Alphabetic
import Turnstile.Text.Category

/-!
# Character classes

Blanks, letters, numerals and word characters over all of Unicode.  For ASCII the answer
is given directly; the tables decide the rest.
-/

set_option autoImplicit false

namespace Turnstile.Text

/-- White space: the Unicode property White_Space. -/
def isBlank (c : Char) : Bool :=
  let n := c.toNat
  (0x09 ≤ n && n ≤ 0x0d) || n == 0x20 || n == 0x85 || n == 0xa0 || n == 0x1680 ||
    (0x2000 ≤ n && n ≤ 0x200a) || n == 0x2028 || n == 0x2029 || n == 0x202f ||
    n == 0x205f ||
    n == 0x3000

/-- Letters: the Unicode property Alphabetic. -/
def isLetter (c : Char) : Bool :=
  if c.toNat < 0x80 then c.isAlpha else alphabetic.contains c.toNat

/-- Decimal digits of any script: the category Nd. -/
def isDecimalDigit (c : Char) : Bool :=
  if c.toNat < 0x80 then c.isDigit else Category.ofChar c == .nd

/-- Numerals: the categories Nd, Nl and No. -/
def isNumeral (c : Char) : Bool :=
  if c.toNat < 0x80 then c.isDigit
  else
    match Category.ofChar c with
    | .nd | .nl | .no => true
    | _ => false

/-- Word characters: letters, marks, decimal digits, connectors and the two join
controls. -/
def isWordChar (c : Char) : Bool :=
  if c.toNat < 0x80 then c.isAlphanum || c == '_'
  else
    isLetter c || c.toNat == 0x200c || c.toNat == 0x200d ||
      match Category.ofChar c with
      | .mn | .mc | .me | .nd | .pc => true
      | _ => false

end Turnstile.Text

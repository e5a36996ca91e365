import Turnstile.Number.Shortest

/-!
# Numbers of documents

A number is an integer or a finite double, and keeps which of the two it is: `1` and
`1.0` are different numbers with one value.  Integers range over the signed and the
unsigned 64-bit words together; a numeral outside that range is read as a double.

* `Number.compare` orders by value: exactly when both integers fit a signed word,
  through doubles otherwise.
* `Number.text` is the written form.
* `numeral?` reads the written form of a double, `integerWord?` that of a signed word.
-/

set_option autoImplicit false

namespace Turnstile

/-- A number of a document. -/
inductive Number where
  | int (n : Int)
  | float (x : Binary64)
deriving DecidableEq

namespace Number

instance : Inhabited Number := ⟨.int 0⟩

/-- Least signed 64-bit word. -/
def wordMin : Int := -0x8000000000000000

/-- Greatest signed 64-bit word. -/
def wordMax : Int := 0x7fffffffffffffff

/-- Greatest unsigned 64-bit word. -/
def unsignedMax : Int := 0xffffffffffffffff

/-- The value as a signed word, if it is an integer that fits one. -/
def word? : Number → Option Int
  | .int n => if wordMin ≤ n ∧ n ≤ wordMax then some n else none
  | .float _ => none

/-- The nearest double. -/
def toBinary64 : Number → Binary64
  | .int n => .ofInt n
  | .float x => x

/-- Order by value, exact when both numbers are signed words. -/
def compare (a b : Number) : Ordering :=
  match a.word?, b.word? with
  | some x, some y => Ord.compare x y
  | _, _ => a.toBinary64.compare b.toBinary64

/-- Equality by value, exact when both numbers are signed words. -/
def sameValue (a b : Number) : Bool :=
  match a.word?, b.word? with
  | some x, some y => x == y
  | _, _ => a.toBinary64.sameValue b.toBinary64

/-- Equality that keeps integers and doubles apart; the two zeros of doubles are equal. -/
def sameKind (a b : Number) : Bool :=
  match a, b with
  | .int x, .int y => x == y
  | .float x, .float y => x.sameValue y
  | _, _ => false

/-- Whether the value is zero. -/
def isZero : Number → Bool
  | .int n => n == 0
  | .float x => x.isZero

/-- The integer as a number, or the nearest double when it fits neither kind of word. -/
def ofInt (n : Int) : Option Number :=
  if wordMin ≤ n ∧ n ≤ unsignedMax then some (.int n)
  else (Binary64.nearest? (n < 0) n.natAbs 1).map .float

/-- Decimal digits of a natural number. -/
def digits (n : Nat) : List Char := Nat.toDigits 10 n

/-- Decimal text of an integer. -/
def integerText (n : Int) : List Char :=
  if n < 0 then '-' :: digits n.natAbs else digits n.natAbs

/-- Text of positive decimal digits: positional while the first digit stands at a power
from `-5` to `15`, always with a fraction, and otherwise `d.ddde+16` with an explicit
sign. -/
def decimalText (d : Binary64.Decimal) : List Char :=
  let ds := digits d.digits
  let lead : Int := (ds.length : Int) - 1 + d.exponent
  if lead < -5 ∨ 15 < lead then
    let fraction := ds.drop 1
    let point := if fraction.isEmpty then [] else '.' :: fraction
    let sign := if lead < 0 then ['e', '-'] else ['e', '+']
    ds.take 1 ++ point ++ sign ++ digits lead.natAbs
  else if d.exponent ≥ 0 then
    ds ++ List.replicate d.exponent.toNat '0' ++ ['.', '0']
  else if lead ≥ 0 then
    ds.take (lead.toNat + 1) ++ '.' :: ds.drop (lead.toNat + 1)
  else
    '0' :: '.' :: (List.replicate (-lead - 1).toNat '0' ++ ds)

/-- Text of a double: the shortest digits that read back the same. -/
def floatText (x : Binary64) : List Char :=
  let body := if x.magnitude = 0 then ['0', '.', '0']
    else decimalText (Binary64.shortest x.magnitude)
  if x.negative then '-' :: body else body

/-- The written form of a number. -/
def text : Number → List Char
  | .int n => integerText n
  | .float x => floatText x

/-- The value of a run of ASCII digits. -/
def digitsValue (ds : List Char) : Nat :=
  ds.foldl (fun n c => n * 10 + (c.toNat - '0'.toNat)) 0

/-- A signed word written in ASCII digits with an optional sign. -/
def integerWord? (s : List Char) : Option Int :=
  let (negative, ds) :=
    match s with
    | '-' :: rest => (true, rest)
    | '+' :: rest => (false, rest)
    | _ => (false, s)
  if ds.isEmpty || !ds.all Char.isDigit then none
  else
    let n : Int := digitsValue ds
    let n := if negative then -n else n
    if wordMin ≤ n ∧ n ≤ wordMax then some n else none

/-- An exponent part `e[+-]digits`, or nothing. -/
def exponent? : List Char → Option Int
  | [] => some 0
  | c :: rest =>
    if c = 'e' ∨ c = 'E' then
      let (negative, ds) :=
        match rest with
        | '-' :: ds => (true, ds)
        | '+' :: ds => (false, ds)
        | _ => (false, rest)
      if ds.isEmpty || !ds.all Char.isDigit then none
      else
        let n : Int := digitsValue ds
        some (if negative then -n else n)
    else none

/-- A numeral `[+-]digits[.digits][e[+-]digits]` with a digit before or after the point.
The outer `none` means that the text is no numeral, the inner one that its value is
infinite. -/
def numeral? (s : List Char) : Option (Option Binary64) :=
  let (negative, body) :=
    match s with
    | '-' :: rest => (true, rest)
    | '+' :: rest => (false, rest)
    | _ => (false, s)
  let whole := body.takeWhile Char.isDigit
  let rest := body.dropWhile Char.isDigit
  let (fraction, rest) :=
    match rest with
    | '.' :: after => (after.takeWhile Char.isDigit, after.dropWhile Char.isDigit)
    | _ => ([], rest)
  if whole.isEmpty && fraction.isEmpty then none
  else
    (exponent? rest).map fun e =>
      Binary64.ofDecimal? negative (digitsValue (whole ++ fraction)) (e - fraction.length)

end Number

end Turnstile

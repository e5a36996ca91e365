import Turnstile.Time.Calendar
import Turnstile.Toml.Quoted

/-!
# Numbers and dates of TOML

Digits may be grouped by underscores between them.  Integers are signed words, in
decimal or, without a sign, in hexadecimal, octal or binary.  A date-time is checked and
kept as the text it is.
-/

set_option autoImplicit false

namespace Turnstile.Toml

/-- More digits, each of which an underscore may precede. -/
def moreDigits (isDigit : Char → Bool) : List Char → Option (List Char × List Char)
  | '_' :: c :: rest =>
    if isDigit c then (moreDigits isDigit rest).map fun (ds, rest) => (c :: ds, rest)
    else none
  | ['_'] => none
  | c :: rest =>
    if isDigit c then (moreDigits isDigit rest).map fun (ds, rest) => (c :: ds, rest)
    else some ([], c :: rest)
  | [] => some ([], [])

/-- At least one digit. -/
def digits? (isDigit : Char → Bool) : List Char → Option (List Char × List Char)
  | c :: rest =>
    if isDigit c then (moreDigits isDigit rest).map fun (ds, rest) => (c :: ds, rest)
    else none
  | [] => none

/-- The digits of a decimal integer: a zero has no digits after it. -/
def decimal? : List Char → Option (List Char × List Char)
  | '0' :: rest => some (['0'], rest)
  | s => digits? Char.isDigit s

/-- A sign, which is true when negative, and the rest. -/
def sign : List Char → Option Bool × List Char
  | '-' :: rest => (some true, rest)
  | '+' :: rest => (some false, rest)
  | s => (none, s)

/-- An integer, if it is a signed word. -/
def integer? (n : Int) : Option Value :=
  if Number.wordMin ≤ n ∧ n ≤ Number.wordMax then some (.int n) else none

/-- Whether a character is a digit of a base up to sixteen. -/
def isDigitOf (base : Nat) (c : Char) : Bool := (Value.hexValue? c).any fun d => d < base

/-- An integer in another base, after the mark of the base. -/
def based? (base : Nat) (s : List Char) : Option (Value × List Char) := do
  let (ds, rest) ← digits? (isDigitOf base) s
  let values ← ds.mapM Value.hexValue?
  let value ← integer? (values.foldl (fun n d => n * base + d) 0 : Nat)
  pure (value, rest)

/-- The fraction of a number, if it has one. -/
def fraction? : List Char → Option (Option (List Char) × List Char)
  | '.' :: rest => (digits? Char.isDigit rest).map fun (ds, rest) => (some ds, rest)
  | s => some (none, s)

/-- The exponent of a number, if it has one. -/
def exponent? : List Char → Option (Option Int × List Char)
  | c :: rest =>
    if c = 'e' ∨ c = 'E' then
      let (negative, rest) := sign rest
      (digits? Char.isDigit rest).map fun (ds, rest) =>
        let n : Int := Number.digitsValue ds
        (some (if negative = some true then -n else n), rest)
    else some (none, c :: rest)
  | [] => some (none, [])

/-- The document of a number with a fraction or an exponent.  One that is beyond all
doubles is refused if positive; if negative it stands for negative infinity, which a
document cannot hold. -/
def float? (negative : Bool) (whole fraction : List Char) (exponent : Int) :
    Option Value :=
  let found :=
    Binary64.ofDecimal? negative (Number.digitsValue (whole ++ fraction))
      (exponent - fraction.length)
  match found with
  | some x => some (.num (.float x))
  | none => if negative then some .null else none

/-- A decimal number after its sign. -/
def decimalNumber? (negative : Bool) (s : List Char) : Option (Value × List Char) := do
  let (whole, rest) ← decimal? s
  let (fraction, rest) ← fraction? rest
  let (exponent, rest) ← exponent? rest
  match fraction, exponent with
  | none, none => do
    let n : Int := Number.digitsValue whole
    let value ← integer? (if negative then -n else n)
    pure (value, rest)
  | _, _ => do
    let value ← float? negative whole (fraction.getD []) (exponent.getD 0)
    pure (value, rest)

/-- A number.  Infinities and what is no number have no document but null. -/
def number? (s : List Char) : Option (Value × List Char) :=
  match sign s with
  | (_, 'i' :: 'n' :: 'f' :: rest) => some (.null, rest)
  | (_, 'n' :: 'a' :: 'n' :: rest) => some (.null, rest)
  | (none, '0' :: 'x' :: rest) => based? 16 rest
  | (none, '0' :: 'o' :: rest) => based? 8 rest
  | (none, '0' :: 'b' :: rest) => based? 2 rest
  | (negative, rest) => decimalNumber? (negative.getD false) rest

/-- A number of exactly so many digits within bounds. -/
def count? (width low high : Nat) (s : List Char) : Option (Nat × List Char) :=
  let ds := s.take width
  let n := Number.digitsValue ds
  if ds.length = width ∧ ds.all Char.isDigit ∧ low ≤ n ∧ n ≤ high then
    some (n, s.drop width)
  else none

/-- What follows a given character. -/
def after? (c : Char) : List Char → Option (List Char)
  | d :: rest => if d = c then some rest else none
  | [] => none

/-- What follows a date. -/
def date? (s : List Char) : Option (List Char) := do
  let (year, s) ← count? 4 0 9999 s
  let s ← after? '-' s
  let (month, s) ← count? 2 1 12 s
  let s ← after? '-' s
  let (_, s) ← count? 2 1 (Time.monthLength year month) s
  pure s

/-- What follows a time of day. -/
def clock? (s : List Char) : Option (List Char) := do
  let (_, s) ← count? 2 0 23 s
  let s ← after? ':' s
  let (_, s) ← count? 2 0 59 s
  let s ← after? ':' s
  let (_, s) ← count? 2 0 60 s
  match s with
  | '.' :: rest =>
    if (rest.takeWhile Char.isDigit).isEmpty then none
    else pure (rest.dropWhile Char.isDigit)
  | _ => pure s

/-- What follows an offset, if there is one. -/
def offset? : List Char → Option (List Char)
  | [] => some []
  | c :: rest =>
    if c = 'Z' ∨ c = 'z' then some rest
    else if c = '+' ∨ c = '-' then do
      let (_, s) ← count? 2 0 23 rest
      let s ← after? ':' s
      let (_, s) ← count? 2 0 59 s
      pure s
    else some (c :: rest)

/-- Whether a text begins like a date. -/
def looksLikeDate (s : List Char) : Bool :=
  (s.take 4).length = 4 && (s.take 4).all Char.isDigit && (s.drop 4).head? == some '-'

/-- Whether a text begins like a time of day. -/
def looksLikeClock (s : List Char) : Bool :=
  (s.take 2).length = 2 && (s.take 2).all Char.isDigit && (s.drop 2).head? == some ':'

/-- Whether a character joins a date with a time of day. -/
def isJoint (c : Char) : Bool := c = 'T' || c = 't' || c = ' '

/-- What follows a date and the time of day that may be joined to it. -/
def dateTime? (s : List Char) : Option (List Char) := do
  let s ← date? s
  match s with
  | c :: rest =>
    if isJoint c && looksLikeClock rest then (clock? rest).bind offset? else pure s
  | [] => pure []

/-- The document of a date-time. -/
def dateTimeValue (text : List Char) : Value :=
  .object [("datetime", .str (String.ofList text))]

/-- A date-time or a number. -/
def readNumeric? (s : List Char) : Option (Value × List Char) :=
  let kept (rest : List Char) : Value × List Char :=
    (dateTimeValue (s.take (s.length - rest.length)), rest)
  if looksLikeDate s then (dateTime? s).map kept
  else if looksLikeClock s then (clock? s).map kept
  else number? s

end Turnstile.Toml

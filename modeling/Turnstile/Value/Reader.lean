import Turnstile.Value.Basic

/-!
# Reading documents

`Value.parse?` reads the text of one document.  A numeral without fraction and exponent
is an integer when it fits a signed or unsigned 64-bit word and a double otherwise; `-0`
is the negative zero of doubles.  Of two fields with one key the later wins.  A numeral
beyond all doubles is refused.
-/

set_option autoImplicit false

namespace Turnstile.Value

/-- Space, tab, line feed and carriage return separate the parts of a document. -/
def isBlank (c : Char) : Bool := c = ' ' || c = '\t' || c = '\n' || c = '\r'

/-- The value of a hexadecimal digit. -/
def hexValue? (c : Char) : Option Nat :=
  if '0' ≤ c ∧ c ≤ '9' then some (c.toNat - '0'.toNat)
  else if 'a' ≤ c ∧ c ≤ 'f' then some (c.toNat - 'a'.toNat + 10)
  else if 'A' ≤ c ∧ c ≤ 'F' then some (c.toNat - 'A'.toNat + 10)
  else none

/-- The number written in four hexadecimal digits. -/
def hexUnit? (a b c d : Char) : Option Nat := do
  let a ← hexValue? a
  let b ← hexValue? b
  let c ← hexValue? c
  let d ← hexValue? d
  pure (((a * 16 + b) * 16 + c) * 16 + d)

/-- The character a short escape stands for. -/
def shortEscape? (c : Char) : Option Char :=
  if c = '"' ∨ c = '\\' ∨ c = '/' then some c
  else if c = 'b' then some '\x08'
  else if c = 'f' then some '\x0c'
  else if c = 'n' then some '\n'
  else if c = 'r' then some '\r'
  else if c = 't' then some '\t'
  else none

/-- The rest of a string after its opening quote; `acc` holds the characters read so
far, last first.  Two escaped halves of a surrogate pair make one character; a lone half
is refused. -/
def readString : List Char → List Char → Option (String × List Char)
  | [], _ => none
  | '"' :: rest, acc => some (String.ofList acc.reverse, rest)
  | '\\' :: 'u' :: a :: b :: c :: d :: rest, acc => do
    let unit ← hexUnit? a b c d
    if 0xD800 ≤ unit ∧ unit < 0xDC00 then
      match rest with
      | '\\' :: 'u' :: e :: f :: g :: h :: rest' => do
        let low ← hexUnit? e f g h
        if 0xDC00 ≤ low ∧ low < 0xE000 then
          readString rest'
            (Char.ofNat (0x10000 + (unit - 0xD800) * 0x400 + (low - 0xDC00)) :: acc)
        else none
      | _ => none
    else if 0xDC00 ≤ unit ∧ unit < 0xE000 then none
    else readString rest (Char.ofNat unit :: acc)
  | '\\' :: c :: rest, acc => do
    let c ← shortEscape? c
    readString rest (c :: acc)
  | c :: rest, acc => if c.toNat < 0x20 then none else readString rest (c :: acc)

/-- Whether a numeral has the form a document allows: no sign but a minus, no leading
zero, digits on both sides of a point. -/
def isNumeral (s : List Char) : Bool :=
  let body := match s with
    | '-' :: rest => rest
    | _ => s
  let whole := body.takeWhile Char.isDigit
  let rest := body.dropWhile Char.isDigit
  let fractionOk := match rest with
    | '.' :: c :: _ => c.isDigit
    | '.' :: [] => false
    | _ => true
  (whole.length == 1 || (whole.length > 1 && whole.head? != some '0')) && fractionOk

/-- The number a numeral stands for.  `-0` is the negative zero, which no integer is. -/
def number? (s : List Char) : Option Number :=
  if !isNumeral s then none
  else if s.all fun c => c.isDigit || c = '-' then
    match s with
    | ['-', '0'] => some (.float .negativeZero)
    | '-' :: ds => Number.ofInt (-(Number.digitsValue ds : Int))
    | ds => Number.ofInt (Number.digitsValue ds)
  else
    match Number.numeral? s with
    | some (some x) => some (.float x)
    | _ => none

/-- A character that can stand in a numeral. -/
def isNumeralChar (c : Char) : Bool :=
  c.isDigit || c = '-' || c = '+' || c = '.' || c = 'e' || c = 'E'

/-- Drop blanks. -/
def skipBlanks (s : List Char) : List Char := s.dropWhile isBlank

mutual

/-- Read one document.  The fuel bounds the number of steps; the length of the text is
enough. -/
def readValue : Nat → List Char → Option (Value × List Char)
  | 0, _ => none
  | fuel + 1, s =>
    match skipBlanks s with
    | 'n' :: 'u' :: 'l' :: 'l' :: rest => some (.null, rest)
    | 't' :: 'r' :: 'u' :: 'e' :: rest => some (.bool true, rest)
    | 'f' :: 'a' :: 'l' :: 's' :: 'e' :: rest => some (.bool false, rest)
    | '"' :: rest => (readString rest []).map fun (s, rest) => (.str s, rest)
    | '[' :: rest =>
      match skipBlanks rest with
      | ']' :: rest => some (.arr [], rest)
      | rest => (readItems fuel rest).map fun (items, rest) => (.arr items, rest)
    | '\x7b' :: rest =>
      match skipBlanks rest with
      | '\x7d' :: rest => some (.obj [], rest)
      | rest => (readFields fuel rest).map fun (fields, rest) => (.object fields, rest)
    | s => (number? (s.takeWhile isNumeralChar)).map fun n =>
        (.num n, s.dropWhile isNumeralChar)

/-- Read the items of an array up to its closing bracket. -/
def readItems : Nat → List Char → Option (List Value × List Char)
  | 0, _ => none
  | fuel + 1, s => do
    let (v, rest) ← readValue fuel s
    match skipBlanks rest with
    | ',' :: rest =>
      let (items, rest) ← readItems fuel rest
      pure (v :: items, rest)
    | ']' :: rest => pure ([v], rest)
    | _ => none

/-- Read the fields of an object up to its closing brace. -/
def readFields : Nat → List Char → Option (List (String × Value) × List Char)
  | 0, _ => none
  | fuel + 1, s =>
    match skipBlanks s with
    | '"' :: rest => do
      let (key, rest) ← readString rest []
      match skipBlanks rest with
      | ':' :: rest =>
        let (v, rest) ← readValue fuel rest
        match skipBlanks rest with
        | ',' :: rest =>
          let (fields, rest) ← readFields fuel rest
          pure ((key, v) :: fields, rest)
        | '\x7d' :: rest => pure ([(key, v)], rest)
        | _ => none
      | _ => none
    | _ => none

end

/-- The document a text holds, with nothing but blanks around it. -/
def parse? (text : String) : Option Value :=
  let s := text.toList
  match readValue (2 * s.length + 2) s with
  | some (v, rest) => if (skipBlanks rest).isEmpty then some v else none
  | none => none

end Turnstile.Value

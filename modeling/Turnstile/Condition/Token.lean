import Turnstile.Condition.Diagnostic
import Turnstile.Value.Path
import Turnstile.Text.Classes

/-!
# Tokens of conditions

A source is cut into words, operators, strings and parentheses; blanks and comments,
which run from `#` to the end of the line, only separate.  Words are then sorted into
numbers, durations, keywords and dotted identifiers.

* `Token.Kind.ofWord?` sorts a word.
* `durationAmounts?` cuts durations such as `1d2h30m` into amounts, which
  `durationSeconds?` adds up.
* `scan` cuts a source into tokens and stops at the first flaw.
-/

set_option autoImplicit false

namespace Turnstile.Condition

/-- What a token means. -/
inductive Token.Kind where
  /-- A dotted identifier. -/
  | atom (path : Value.Path)
  /-- A number; null when it is beyond all doubles. -/
  | number (value : Value)
  /-- A duration in seconds. -/
  | duration (seconds : Nat)
  /-- `true`, `false`, `null` or a string. -/
  | literal (value : Value)
  | operator (text : String)
  | and
  | or
  | not
  | copula (word : String)
  | preposition (word : String)
  | leftParen
  | rightParen

/-- A token with its text and its place. -/
structure Token where
  kind : Token.Kind
  text : String
  extent : Extent

/-- The units of a duration, in the order they are written, with their seconds. -/
def durationUnits : List (Char × Nat) := [('d', 86400), ('h', 3600), ('m', 60), ('s', 1)]

/-- The amounts of a text, each with the seconds of its unit: the units come in the
given order, any of them may be missing, and nothing else stands in the text.  An amount
is digits of any script. -/
def durationAmounts? : List (Char × Nat) → List Char → Option (List (List Char × Nat))
  | [], s => if s.isEmpty then some [] else none
  | (unit, seconds) :: units, s =>
    let amount := s.takeWhile Text.isDecimalDigit
    match s.dropWhile Text.isDecimalDigit with
    | c :: rest =>
      if c = unit ∧ !amount.isEmpty then
        (durationAmounts? units rest).map ((amount, seconds) :: ·)
      else durationAmounts? units s
    | [] => durationAmounts? units s

/-- Add an amount to a total of seconds, if the amount, its seconds and the sum are
signed words. -/
def addAmount? (total : Int) (amount : List Char × Nat) : Option Int := do
  let n ← Number.integerWord? amount.1
  let seconds ← (Number.int (n * amount.2)).word?
  (Number.int (total + seconds)).word?

/-- The seconds of a duration: `<digits>d`, `<digits>h`, `<digits>m` and `<digits>s` in
this order, each at most once and at least one of them, added up in signed words. -/
def durationSeconds? (s : List Char) : Option Nat :=
  if s.isEmpty then none
  else do
    let amounts ← durationAmounts? durationUnits s
    let total ← amounts.foldlM addAmount? 0
    return total.toNat

/-- Whether a word starts like a number: with a digit, or with a dash or a point before
one. -/
def looksNumeric : List Char → Bool
  | c :: rest =>
    c.isDigit ||
      ((c = '-' || c = '.') &&
        match rest with
        | d :: _ => d.isDigit
        | [] => false)
  | [] => false

/-- The number a word stands for. -/
def wordNumber? (s : List Char) : Option Value :=
  match Number.integerWord? s with
  | some n => some (.int n)
  | none =>
    if looksNumeric s then
      match Number.numeral? s with
      | some (some x) => some (.num (.float x))
      | some none => some .null
      | none => none
    else none

/-- The keyword a word is. -/
def keyword? (word : String) : Option Token.Kind :=
  if word = "true" then some (.literal (.bool true))
  else if word = "false" then some (.literal (.bool false))
  else if word = "null" then some (.literal .null)
  else if word = "and" then some .and
  else if word = "or" then some .or
  else if word = "not" then some .not
  else if word = "is" ∨ word = "has" ∨ word = "was" then some (.copula word)
  else none

/-- The meaning of a word; `none` when it is no identifier because a segment is empty. -/
def Token.Kind.ofWord? (s : List Char) : Option Token.Kind :=
  let word := String.ofList s
  if word = "since" ∨ word = "in" then some (.preposition word)
  else
    match wordNumber? s with
    | some value => some (.number value)
    | none =>
      match durationSeconds? s with
      | some seconds => some (.duration seconds)
      | none =>
        match keyword? word with
        | some kind => some kind
        | none =>
          let segments := Value.splitDots s
          if segments.any List.isEmpty then none
          else some (.atom (segments.map String.ofList))

/-- Characters of words. -/
def isWordChar (c : Char) : Bool :=
  c = '_' || c = '.' || c = '-' ||
  (!Text.isBlank c && (Text.isLetter c || Text.isNumeral c))

/-- Characters of operators. -/
def isOperatorChar (c : Char) : Bool := c = '=' || c = '<' || c = '>' || c = '/'

/-- The tokens of a source up to its end or to the first flaw. -/
structure Scan where
  tokens : List Token
  flaw : Option Diagnostic

/-- Put a token before a scan. -/
def Scan.cons (token : Token) (scan : Scan) : Scan :=
  { scan with tokens := token :: scan.tokens }

/-- A scan that ends with a flaw. -/
def Scan.stop (flaw : Flaw) (extent : Extent) : Scan := ⟨[], some ⟨flaw, extent⟩⟩

/-- Skipping characters after the first leaves a shorter text. -/
theorem dropWhile_shorter (p : Char → Bool) (c : Char) (rest : List Char) :
    (rest.dropWhile p).length < (c :: rest).length :=
  Nat.lt_succ_of_le (List.dropWhile_suffix p).length_le

/-- What follows the first character that is not skipped is shorter still. -/
theorem dropWhile_tail_shorter {p : Char → Bool} {c d : Char} {rest after : List Char}
    (h : rest.dropWhile p = d :: after) : after.length < (c :: rest).length := by
  have := dropWhile_shorter p c rest
  rw [h] at this
  exact Nat.lt_of_succ_lt this

/-- Scan a text that starts at a byte position of the source. -/
def scanFrom (position : Nat) : List Char → Scan
  | [] => ⟨[], none⟩
  | c :: rest =>
    let next := position + c.utf8Size
    if c = '(' then
      (scanFrom next rest).cons ⟨.leftParen, "(", ⟨position, next⟩⟩
    else if c = ')' then
      (scanFrom next rest).cons ⟨.rightParen, ")", ⟨position, next⟩⟩
    else if c = '"' then
      let body := rest.takeWhile (· ≠ '"')
      let close := next + Text.bytes body
      match _h : rest.dropWhile (· ≠ '"') with
      | quote :: after =>
        let stop := close + quote.utf8Size
        let token : Token :=
          ⟨.literal (.str (String.ofList body)), String.ofList (c :: body ++ [quote]),
            ⟨position, stop⟩⟩
        (scanFrom stop after).cons token
      | [] => .stop .unterminatedString ⟨position, close⟩
    else if c = '#' then
      scanFrom (next + Text.bytes (rest.takeWhile (· ≠ '\n'))) (rest.dropWhile (· ≠ '\n'))
    else if Text.isBlank c then scanFrom next rest
    else if isOperatorChar c then
      let text := c :: rest.takeWhile isOperatorChar
      let stop := position + Text.bytes text
      (scanFrom stop (rest.dropWhile isOperatorChar)).cons
        ⟨.operator (String.ofList text), String.ofList text, ⟨position, stop⟩⟩
    else if isWordChar c then
      let text := c :: rest.takeWhile isWordChar
      let stop := position + Text.bytes text
      match Token.Kind.ofWord? text with
      | some kind =>
        (scanFrom stop (rest.dropWhile isWordChar)).cons
          ⟨kind, String.ofList text, ⟨position, stop⟩⟩
      | none => .stop (.invalidIdentifier (String.ofList text)) ⟨position, stop⟩
    else .stop (.unexpectedCharacter c) ⟨position, next⟩
termination_by s => s.length
decreasing_by
  · exact Nat.lt_succ_self _
  · exact Nat.lt_succ_self _
  · exact dropWhile_tail_shorter _h
  · exact dropWhile_shorter _ _ _
  · exact Nat.lt_succ_self _
  · exact dropWhile_shorter _ _ _
  · exact dropWhile_shorter _ _ _

/-- The tokens of a source. -/
def scan (source : String) : Scan := scanFrom 0 source.toList

end Turnstile.Condition

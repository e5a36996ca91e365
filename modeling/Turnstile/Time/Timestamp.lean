import Turnstile.Time.DateTime
import Turnstile.Text.Classes

/-!
# Written timestamps

A timestamp is an instant with the offset of the clock that shows it.

* `Timestamp.parseStrict?` reads RFC 3339.
* `Timestamp.parseRelaxed?` also takes single digits, blanks around the parts and
  offsets without a colon.
* `Timestamp.parse?` reads RFC 3339 or a date and time without offset, which is
  taken as UTC.
* `Timestamp.text` and `DateTime.utcText` write RFC 3339.
-/

set_option autoImplicit false

namespace Turnstile.Time

/-- An instant with the offset, in seconds east of UTC, of the clock that shows it. -/
structure Timestamp where
  utc : DateTime
  offset : Int
deriving DecidableEq, Repr

/-- Drop blanks of any kind. -/
def skipBlanks (s : List Char) : List Char := s.dropWhile Text.isBlank

/-- A number of at least one and at most `most` digits. -/
def upTo? (most : Nat) (s : List Char) : Option (Nat × List Char) :=
  let ds := (s.take most).takeWhile Char.isDigit
  if ds.isEmpty then none else some (Number.digitsValue ds, s.drop ds.length)

/-- A number of exactly `width` digits. -/
def exactly? (width : Nat) (s : List Char) : Option (Nat × List Char) :=
  let ds := s.take width
  if ds.length = width ∧ ds.all Char.isDigit then
    some (Number.digitsValue ds, s.drop width)
  else none

/-- One given character. -/
def char? (c : Char) : List Char → Option (List Char)
  | d :: rest => if c = d then some rest else none
  | [] => none

/-- A fraction of a second after its point; digits beyond the ninth are dropped. -/
def fraction? (s : List Char) : Option (Nat × List Char) :=
  let ds := s.takeWhile Char.isDigit
  if ds.isEmpty then none
  else
    let kept := ds.take 9
    some (Number.digitsValue kept * Nat.pow 10 (9 - kept.length), s.drop ds.length)

/-- A fraction if a point follows. -/
def optionalFraction? : List Char → Option (Nat × List Char)
  | '.' :: rest => fraction? rest
  | s => some (0, s)

/-- A year of up to four digits, or of any length after a sign. -/
def signedYear? (s : List Char) : Option (Int × List Char) :=
  match skipBlanks s with
  | '-' :: rest => (upTo? rest.length rest).map fun (n, r) => (-(n : Int), r)
  | '+' :: rest => (upTo? rest.length rest).map fun (n, r) => ((n : Int), r)
  | rest => (upTo? 4 rest).map fun (n, r) => ((n : Int), r)

/-- A number of one or two digits, after blanks. -/
def twoDigits? (s : List Char) : Option (Nat × List Char) := upTo? 2 (skipBlanks s)

/-- A date `year-month-day` with blanks allowed before the numbers and, if `gaps`, the
dashes. -/
def looseDate? (gaps : Bool) (s : List Char) : Option (Day × List Char) := do
  let trim := fun s => if gaps then skipBlanks s else s
  let (year, s) ← signedYear? s
  let s ← char? '-' (trim s)
  let (month, s) ← twoDigits? s
  let s ← char? '-' (trim s)
  let (day, s) ← twoDigits? s
  let day ← Civil.day? ⟨year, month, day⟩
  pure (day, s)

/-- A time `hour:minute:second[.fraction]` with blanks allowed before the numbers and,
if `gaps`, the colons. -/
def looseClock? (gaps : Bool) (s : List Char) : Option (Clock × List Char) := do
  let trim := fun s => if gaps then skipBlanks s else s
  let (hour, s) ← twoDigits? s
  let s ← char? ':' (trim s)
  let (minute, s) ← twoDigits? s
  let s ← char? ':' (trim s)
  let (second, s) ← twoDigits? s
  let (nano, s) ← optionalFraction? s
  let clock ← Clock.ofParts? hour minute second nano
  pure (clock, s)

/-- An offset `Z`, `+HH:MM` or `-HH:MM`; `colon` reads what stands between hours and
minutes. -/
def offset? (colon : List Char → Option (List Char)) (s : List Char) :
    Option (Int × List Char) :=
  let signed (negative : Bool) (s : List Char) : Option (Int × List Char) := do
    let (hours, s) ← exactly? 2 s
    let s ← colon s
    let (minutes, s) ← exactly? 2 s
    if minutes < 60 ∧ hours < 24 then
      let total : Int := hours * 3600 + minutes * 60
      pure (if negative then -total else total, s)
    else none
  match s with
  | 'Z' :: rest => some (0, rest)
  | 'z' :: rest => some (0, rest)
  | '+' :: rest => signed false rest
  | '-' :: rest => signed true rest
  | '−' :: rest => signed true rest
  | _ => none

/-- The character between a date and a time. -/
def separator? : List Char → Option (List Char)
  | 'T' :: rest => some rest
  | 't' :: rest => some rest
  | ' ' :: rest => some rest
  | _ => none

/-- The timestamp of a local reading and its offset. -/
def Timestamp.ofLocal (local_ : DateTime) (offset : Int) : Timestamp :=
  ⟨local_.shift (-offset), offset⟩

/-- Read an RFC 3339 timestamp. -/
def Timestamp.parseStrict? (text : String) : Option Timestamp := do
  let (year, s) ← exactly? 4 text.toList
  let s ← char? '-' s
  let (month, s) ← exactly? 2 s
  let s ← char? '-' s
  let (day, s) ← exactly? 2 s
  let day ← Civil.day? ⟨year, month, day⟩
  let s ← separator? s
  let (hour, s) ← exactly? 2 s
  let s ← char? ':' s
  let (minute, s) ← exactly? 2 s
  let s ← char? ':' s
  let (second, s) ← exactly? 2 s
  let (nano, s) ← optionalFraction? s
  let clock ← Clock.ofParts? hour minute second nano
  let (offset, s) ← offset? (char? ':') s
  if s.isEmpty then some (.ofLocal ⟨day, clock⟩ offset) else none

/-- Read a timestamp with blanks between its parts, short numbers and offsets without a
colon.  `UTC` in any case stands for the offset zero. -/
def Timestamp.parseRelaxed? (text : String) : Option Timestamp := do
  let (day, s) ← looseDate? true text.toList
  let s ← separator? s
  let (clock, s) ← looseClock? true s
  let s := skipBlanks s
  let utcWord := (s.take 3).map Char.toLower = ['u', 't', 'c']
  let colon :=
    fun (s : List Char) => some (s.dropWhile fun c => c = ':' || Text.isBlank c)
  let (offset, s) ← if utcWord then some ((0 : Int), s.drop 3) else offset? colon s
  if (skipBlanks s).isEmpty then some (.ofLocal ⟨day, clock⟩ offset) else none

/-- Read a date and time without offset, joined by what `join` accepts. -/
def DateTime.parseWith? (join : List Char → Option (List Char)) (text : String) :
    Option DateTime := do
  let (day, s) ← looseDate? false text.toList
  let s ← join s
  let (clock, s) ← looseClock? false s
  if s.isEmpty then some ⟨day, clock⟩ else none

/-- Read a timestamp; without an offset it is taken as UTC. -/
def Timestamp.parse? (text : String) : Option Timestamp :=
  match Timestamp.parseStrict? text with
  | some t => some t
  | none =>
    match DateTime.parseWith? (char? 'T') text with
    | some t => some ⟨t, 0⟩
    | none =>
        (DateTime.parseWith? (fun s => some (skipBlanks s)) text).map fun t => ⟨t, 0⟩

/-- The text of a date: four digits for the years 0 to 9999, else a sign and five or
more. -/
def dateText (day : Day) : List Char :=
  let date := Civil.ofDay day
  let year :=
    if 0 ≤ date.year ∧ date.year ≤ 9999 then Span.padded 4 date.year.toNat
    else if date.year < 0 then '-' :: Span.padded 4 date.year.natAbs
    else '+' :: Span.padded 4 date.year.natAbs
  year ++ '-' :: Span.padded 2 date.month ++ '-' :: Span.padded 2 date.day

/-- The text of a reading with a given way to write fractions of a second. -/
def DateTime.textWith (fraction : Nat → List Char) (t : DateTime) : List Char :=
  dateText t.day ++ 'T' :: t.clock.textWith fraction

/-- RFC 3339 in UTC, with as few fraction digits as are exact. -/
def DateTime.utcText (t : DateTime) : String :=
  String.ofList (t.textWith Clock.fractionText ++ ['Z'])

/-- RFC 3339 in UTC with six fraction digits. -/
def DateTime.utcMicrosText (t : DateTime) : String :=
  String.ofList (t.textWith (fun nano => '.' :: Span.padded 6 (nano / 1000)) ++ ['Z'])

/-- RFC 3339 at the timestamp's own offset, `+00:00` for UTC. -/
def Timestamp.text (t : Timestamp) : String :=
  let sign := if t.offset < 0 then '-' else '+'
  let minutes := t.offset.natAbs / 60
  String.ofList ((t.utc.shift t.offset).textWith Clock.fractionText ++
    sign :: Span.padded 2 (minutes / 60) ++ ':' :: Span.padded 2 (minutes % 60))

/-- Read a time of day `HH:MM:SS[.fraction]`. -/
def Clock.parse? (text : String) : Option Clock := do
  let (hour, s) ← exactly? 2 text.toList
  let s ← char? ':' s
  let (minute, s) ← exactly? 2 s
  let s ← char? ':' s
  let (second, s) ← exactly? 2 s
  let (nano, s) ← optionalFraction? s
  if s.isEmpty then Clock.ofParts? hour minute second nano else none

end Turnstile.Time

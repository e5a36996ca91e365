import Turnstile.Number.Basic

/-!
# Spans of time

A span is a length of time that is never negative, in seconds and nanoseconds.  Its text
uses the largest unit with a non-zero whole part and as few fraction digits as are
exact.  Signed differences of instants are plain integers of nanoseconds; `deltaLimit`
bounds those that arithmetic accepts.
-/

set_option autoImplicit false

namespace Turnstile.Time

/-- Nanoseconds of a second. -/
def nanosPerSecond : Nat := 1000000000

/-- A length of time. -/
structure Span where
  seconds : Nat
  nanos : Nat
deriving DecidableEq, Repr

namespace Span

/-- A whole number of seconds. -/
def ofSeconds (n : Nat) : Span := ⟨n, 0⟩

/-- The length in nanoseconds. -/
def total (s : Span) : Nat := s.seconds * nanosPerSecond + s.nanos

/-- Whether the span is empty. -/
def isZero (s : Span) : Bool := s.total == 0

/-- The largest difference of instants, in nanoseconds: `2 ^ 63 - 1` milliseconds. -/
def deltaLimit : Int := 0x7fffffffffffffff * 1000000

/-- The span as a difference of instants, if it is not too long for one. -/
def delta? (s : Span) : Option Int :=
  if (s.total : Int) ≤ deltaLimit then some s.total else none

/-- `digits` padded with zeros on the left to a width. -/
def padded (width n : Nat) : List Char :=
  let ds := Number.digits n
  List.replicate (width - ds.length) '0' ++ ds

/-- Drop the zeros at the end of a fraction. -/
def trimZeros (ds : List Char) : List Char :=
  (ds.reverse.dropWhile (· = '0')).reverse

/-- A whole part, a fraction of a given width without its trailing zeros, and a unit. -/
def unitText (whole fraction width : Nat) (unit : String) : String :=
  let ds := trimZeros (padded width fraction)
  let point := if ds.isEmpty then [] else '.' :: ds
  String.ofList (Number.digits whole ++ point ++ unit.toList)

/-- The text of a span, such as `300s`, `1.5s`, `100ms`, `1.5µs` or `0ns`. -/
def text (s : Span) : String :=
  if s.seconds > 0 then unitText s.seconds s.nanos 9 "s"
  else if s.nanos ≥ 1000000 then unitText (s.nanos / 1000000) (s.nanos % 1000000) 6 "ms"
  else if s.nanos ≥ 1000 then unitText (s.nanos / 1000) (s.nanos % 1000) 3 "µs"
  else unitText s.nanos 0 1 "ns"

end Span

end Turnstile.Time

import Turnstile.Condition.Evaluation
import Turnstile.Time.Timestamp

/-!
# The built-in properties

* `x is defined` holds unless `x` is null.
* `<seconds> has passed since <timestamp>` holds once that much time has gone by.
* `x is in <collection>` looks for an item of an array, a key of an object or a part of
  a string.
-/

set_option autoImplicit false

namespace Turnstile.Condition

open Time (DateTime Timestamp)

/-- The instant a text stands for. -/
def instantOf (text : String) : Except Failure DateTime :=
  match Timestamp.parse? text with
  | some t => .ok t.utc
  | none => .error (.invalidTimestamp text)

/-- A number of seconds in whole milliseconds, cut toward zero; less than `2 ^ 63` of
them. -/
def milliseconds? (n : Number) : Option Int :=
  match n.toBinary64.scaledInt? 1000 with
  | some ms => if ms.natAbs < 0x8000000000000000 then some ms else none
  | none => none

/-- Whether a number of seconds has gone by since an instant.  Nothing has passed since
null, and a deadline beyond the calendar is never reached. -/
def hasPassedSince (duration epoch : Value) (now : DateTime) : Except Failure Bool :=
  match duration with
  | .num n => do
    let instant? ← match epoch with
      | .null => pure none
      | .str text => (instantOf text).map some
      | other => .error (.invalidTimestamp other.text)
    match instant? with
    | none => pure false
    | some instant =>
      match milliseconds? n with
      | none => .error (.invalidDuration duration.text)
      | some ms =>
        match instant.add? (ms * 1000000) with
        | some deadline => pure (deadline ≤ now)
        | none => pure false
  | other => .error (.invalidDuration other.text)

/-- Whether a text occurs in another. -/
def occursIn (needle : List Char) : List Char → Bool
  | [] => needle.isEmpty
  | c :: rest => needle.isPrefixOf (c :: rest) || occursIn needle rest

/-- Whether a collection holds an item. -/
def holdsItem (container item : Value) : Except Failure Bool :=
  match container, item with
  | .arr items, _ => .ok (items.any fun candidate => candidate.equal item)
  | .str text, .str part => .ok (occursIn part.toList text.toList)
  | .obj fields, .str key => .ok (Dictionary.find? fields key).isSome
  | _, _ => .error (.notAContainer container.kindName)

/-- The built-in properties at an instant. -/
def builtIn (now : DateTime) : PropertyOf := fun adjectives subject arguments =>
  match adjectives, arguments with
  | ["defined"], [] => .ok (.bool (!subject.isNull))
  | ["passed"], [("since", epoch)] => (hasPassedSince subject epoch now).map .bool
  | [], [("in", container)] => (holdsItem container subject).map .bool
  | _, _ => .error (.unknownProperty (adjectives ++ arguments.map Prod.fst))

end Turnstile.Condition

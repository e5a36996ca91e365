import Turnstile.Condition.Code

/-!
# Running code

`Code.evaluate` runs code on an empty stack and answers the one value left at the end.
Where a condition finds its variables and properties is a parameter, the `Scope`.
-/

set_option autoImplicit false

namespace Turnstile.Condition

/-- What can be wrong with code itself. -/
inductive Malformation where
  | underflow (instr : Instr)
  | noResult
  | leftover (count : Nat)

/-- The wording of a malformation. -/
def Malformation.message : Malformation → String
  | .underflow instr => "stack underflow at " ++ instr.text
  | .noResult => "program left no result"
  | .leftover count => "program left " ++ toString count ++ " values on the stack"

/-- Why a condition has no value. -/
inductive Failure where
  | unknownProperty (words : List String)
  | incomparable (left right : String)
  | notAContainer (kind : String)
  | invalidTimestamp (text : String)
  | invalidDuration (text : String)
  | naiveTime
  | malformed (reason : Malformation)

/-- The name of a kind of failure. -/
def Failure.name : Failure → String
  | .unknownProperty _ => "UnknownProperty"
  | .incomparable _ _ => "Incomparable"
  | .notAContainer _ => "NotAContainer"
  | .invalidTimestamp _ => "InvalidTimestamp"
  | .invalidDuration _ => "InvalidDuration"
  | .naiveTime => "NaiveTime"
  | .malformed _ => "MalformedProgram"

/-- The wording of a failure. -/
def Failure.message : Failure → String
  | .unknownProperty words => "Unknown property '" ++ " ".intercalate words ++ "'"
  | .incomparable left right => "Cannot compare " ++ left ++ " with " ++ right
  | .notAContainer kind => "Cannot test membership in " ++ kind
  | .invalidTimestamp text => "'" ++ text ++ "' is not a valid timestamp"
  | .invalidDuration text => "'" ++ text ++ "' is not a duration"
  | .naiveTime => "Exit conditions must be evaluated against a timezone-aware time"
  | .malformed reason => "Malformed program: " ++ reason.message

/-- A property clause: its adjectives, its subject and its arguments with their
prepositions. -/
abbrev PropertyOf := List String → Value → List (String × Value) → Except Failure Value

/-- Where a condition finds variables and properties. -/
structure Scope where
  lookup : Value.Path → Value
  property : PropertyOf

/-- Order of two values, or the failure that they have none. -/
def compareValues (left right : Value) : Except Failure Ordering :=
  match left.compare? right with
  | some order => .ok order
  | none => .error (.incomparable left.kindName right.kindName)

/-- The arguments of a property on top of a stack, in the order of their prepositions,
and the stack below them. -/
def takeArguments (words : List String) (stack : List Value) :
    Option (List (String × Value) × List Value) :=
  if stack.length < words.length then none
  else some (words.zip (stack.take words.length).reverse, stack.drop words.length)

/-- Run one instruction. -/
def Instr.step (scope : Scope) (instr : Instr) (stack : List Value) :
    Except Failure (List Value) :=
  let underflow : Except Failure (List Value) := .error (.malformed (.underflow instr))
  match instr, stack with
  | .literal value, stack => .ok (value :: stack)
  | .lookup path, stack => .ok (scope.lookup path :: stack)
  | .property adjectives prepositions, stack =>
    match takeArguments prepositions stack with
    | some (arguments, subject :: rest) => do
      let value ← scope.property adjectives subject arguments
      pure (value :: rest)
    | _ => underflow
  | .equal, right :: left :: rest => .ok (.bool (left.equal right) :: rest)
  | .less, right :: left :: rest => do
    let order ← compareValues left right
    pure (.bool (order == .lt) :: rest)
  | .greater, right :: left :: rest => do
    let order ← compareValues left right
    pure (.bool (order == .gt) :: rest)
  | .and, right :: left :: rest => .ok (.bool (left.truthy && right.truthy) :: rest)
  | .or, right :: left :: rest => .ok (.bool (left.truthy || right.truthy) :: rest)
  | .not, top :: rest => .ok (.bool (!top.truthy) :: rest)
  | .toBool, top :: rest => .ok (.bool top.truthy :: rest)
  | _, _ => underflow

/-- Run code on a stack. -/
def Code.run (scope : Scope) : Code → List Value → Except Failure (List Value)
  | [], stack => .ok stack
  | instr :: rest, stack => do
    let stack ← instr.step scope stack
    Code.run scope rest stack

/-- The single value of a stack. -/
def onlyValue : List Value → Except Failure Value
  | [value] => .ok value
  | [] => .error (.malformed .noResult)
  | stack => .error (.malformed (.leftover stack.length))

/-- Run code and answer the one value it leaves. -/
def Code.evaluate (scope : Scope) (code : Code) : Except Failure Value := do
  let stack ← Code.run scope code []
  onlyValue stack

end Turnstile.Condition

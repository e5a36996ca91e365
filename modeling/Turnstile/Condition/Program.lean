import Turnstile.Condition.Grammar
import Turnstile.Condition.Simplify
import Turnstile.Condition.Property
import Turnstile.Text.Names

/-!
# Compiled conditions

A program is a source with its simplified code.  Programs are compared by their code, so
layout, comments and redundant negations do not matter.
-/

set_option autoImplicit false

namespace Turnstile.Condition

open Time (DateTime)

/-- A compiled condition. -/
structure Program where
  source : String
  code : Code

/-- A source that is no condition. -/
structure CompileError where
  source : String
  diagnostic : Diagnostic
deriving DecidableEq, Repr

/-- The diagnostic shown on the source. -/
def CompileError.message (e : CompileError) : String := e.diagnostic.render e.source

/-- The instant a program runs at: one with a known offset, or a bare date and time. -/
inductive EvaluationTime where
  | aware (instant : DateTime)
  | naive (reading : DateTime)

namespace Program

/-- Compile a source. -/
def compile (source : String) : Except CompileError Program :=
  match Expression.parse source with
  | .ok expression => .ok ⟨source, expression.code.simplify⟩
  | .error diagnostic => .error ⟨source, diagnostic⟩

/-- Equality of programs: equal code. -/
def same (a b : Program) : Bool := a.code.same b.code

/-- What a hash of the program is made from. -/
def keys (p : Program) : List Instr.Key := p.code.map Instr.key

/-- The dotted paths of the variables a program reads, in increasing order. -/
def reads (p : Program) : List String :=
  Text.sortedNames <| p.code.filterMap fun
    | .lookup path => some (Value.Path.dotted path)
    | _ => none

/-- Run a program with the built-in properties and answer the truthiness of its value.
A bare date and time is refused. -/
def run (p : Program) (lookup : Value.Path → Value) (time : EvaluationTime) :
    Except Failure Bool :=
  match time with
  | .naive _ => .error .naiveTime
  | .aware now => do
    let value ← Code.evaluate ⟨lookup, builtIn now⟩ p.code
    pure value.truthy

end Program

end Turnstile.Condition

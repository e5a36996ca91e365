import Turnstile.Value.Path
import Turnstile.Value.Text
import Turnstile.Value.Equality

/-!
# The code of conditions

A condition runs as a list of instructions over a stack of values: loads push, operators
pop their operands (the right one is on top) and push one result.
-/

set_option autoImplicit false

namespace Turnstile.Condition

/-- One instruction. -/
inductive Instr where
  /-- Push a constant. -/
  | literal (value : Value)
  /-- Push the variable at a path. -/
  | lookup (path : Value.Path)
  /-- Pop one argument per preposition, the last on top, then the subject; push the
  property. -/
  | property (adjectives prepositions : List String)
  | equal
  | less
  | greater
  | and
  | or
  | not
  /-- Replace the top by its truthiness. -/
  | toBool

namespace Instr

/-- The written form of an instruction. -/
def text : Instr → String
  | .literal value => "LITERAL " ++ value.text
  | .lookup path => "LOOKUP " ++ Value.Path.dotted path
  | .property adjectives prepositions =>
    " ".intercalate ("PROPERTY" :: (adjectives ++ prepositions))
  | .equal => "EQ"
  | .less => "LT"
  | .greater => "GT"
  | .and => "AND"
  | .or => "OR"
  | .not => "NOT"
  | .toBool => "TO_BOOL"

/-- Equality of instructions: literals by shape and kind of number, all else exactly. -/
def same : Instr → Instr → Bool
  | .literal a, .literal b => a.identical b
  | .lookup a, .lookup b => a == b
  | .property a p, .property b q => a == b && p == q
  | .equal, .equal => true
  | .less, .less => true
  | .greater, .greater => true
  | .and, .and => true
  | .or, .or => true
  | .not, .not => true
  | .toBool, .toBool => true
  | _, _ => false

/-- What tells instructions apart by their written payload: the operation, and for a
literal the text of its value. -/
inductive Key where
  | literal (text : String)
  | lookup (path : Value.Path)
  | property (adjectives prepositions : List String)
  | operator (text : String)
deriving DecidableEq, Repr

/-- The key of an instruction. -/
def key : Instr → Key
  | .literal value => .literal value.text
  | .lookup path => .lookup path
  | .property adjectives prepositions => .property adjectives prepositions
  | other => .operator other.text

/-- Whether the instruction leaves a boolean on top whenever it succeeds. -/
def yieldsBool : Instr → Bool
  | .literal _ => false
  | .lookup _ => false
  | _ => true

end Instr

/-- A list of instructions. -/
abbrev Code := List Instr

/-- Equality of code, instruction by instruction. -/
def Code.same : Code → Code → Bool
  | [], [] => true
  | a :: as, b :: bs => a.same b && Code.same as bs
  | _, _ => false

end Turnstile.Condition

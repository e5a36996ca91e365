import Turnstile.Condition.Code
import Turnstile.Value.Fields

/-!
# Code as documents

An instruction is written as an array: the operation and its payload.
-/

set_option autoImplicit false

namespace Turnstile.Condition

namespace Instr

/-- The instructions without payload. -/
def plain : List Instr := [.equal, .less, .greater, .and, .or, .not, .toBool]

/-- The document of an instruction. -/
def toValue : Instr → Value
  | .literal value => .arr [.str "LITERAL", value]
  | .lookup path => .arr [.str "LOOKUP", .strings path]
  | .property adjectives prepositions =>
    .arr [.str "PROPERTY", .strings adjectives, .strings prepositions]
  | other => .arr [.str other.text]

/-- Read an instruction. -/
def ofValue? : Value → Option Instr
  | .arr [.str operation] => plain.find? fun instr => instr.text = operation
  | .arr [.str "LITERAL", value] => some (.literal value)
  | .arr [.str "LOOKUP", path] => path.strings?.map .lookup
  | .arr [.str "PROPERTY", adjectives, prepositions] => do
    pure (.property (← adjectives.strings?) (← prepositions.strings?))
  | _ => none

end Instr

/-- The document of code. -/
def Code.toValue (code : Code) : Value := .arr (code.map Instr.toValue)

/-- Read code. -/
def Code.ofValue? (v : Value) : Option Code := v.items.mapM Instr.ofValue?

/-- The written forms of the instructions. -/
def Code.texts (code : Code) : List String := code.map Instr.text

end Turnstile.Condition

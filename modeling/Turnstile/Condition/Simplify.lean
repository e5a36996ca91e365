import Turnstile.Condition.Code

/-!
# Simplifying code

Two neighbours fuse when the second only repeats what the first does: two `NOT`s are a
`TO_BOOL`, and a `TO_BOOL` after an instruction that yields a boolean does nothing.  A
pass fuses from left to right; passes are repeated until one changes nothing.
-/

set_option autoImplicit false

namespace Turnstile.Condition

/-- What two neighbours fuse to. -/
def Instr.fuse? : Instr → Instr → Option Instr
  | .not, .not => some .toBool
  | first, .toBool => if first.yieldsBool then some first else none
  | _, _ => none

/-- Fuse neighbours once, from left to right; a fused pair is not fused again. -/
def Code.pass : Code → Code
  | first :: second :: rest =>
    match first.fuse? second with
    | some fused => fused :: Code.pass rest
    | none => first :: Code.pass (second :: rest)
  | short => short

/-- Fuse until a pass leaves the length as it was. -/
def Code.simplify (code : Code) : Code :=
  if code.pass.length < code.length then Code.simplify code.pass else code.pass
termination_by code.length

end Turnstile.Condition

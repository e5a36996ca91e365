import Turnstile.Condition.Program
import Turnstile.Proofs.Condition.Compilation

/-!
# Simplified code means what the code means

Simplifying keeps the value of any code, well formed or not, and keeps its failure,
except that code which is malformed may be malformed for another reason
(`Code.evaluate_simplify`).  This needs properties that are booleans, for a `TO_BOOL`
after a property is dropped; the built-in properties are (`builtIn_yieldsBools`).

The proof goes by instructions, passes, and repeated passes: two neighbours and what
they fuse to do the same to every stack (`Instr.run_fuse`), so a pass does
(`Code.run_pass`), and so do all passes together.
-/

set_option autoImplicit false

namespace Turnstile.Condition

open Time (DateTime)

/-! ## Results up to the reason of a malformation -/

/-- Two results are the same, or both tell of a malformation. -/
inductive Alike {α : Type} : Except Failure α → Except Failure α → Prop
  | refl (result : Except Failure α) : Alike result result
  | malformed (first second : Malformation) :
      Alike (.error (.malformed first)) (.error (.malformed second))

namespace Alike

variable {α β : Type} {first second third : Except Failure α}

/-- To be alike carries over. -/
theorem trans (hfirst : Alike first second) (hsecond : Alike second third) :
    Alike first third := by
  cases hfirst with
  | refl => exact hsecond
  | malformed a b =>
      cases hsecond with
      | refl => exact .malformed a b
      | malformed _ c => exact .malformed a c

/-- What goes on from results that are alike ends alike. -/
theorem bind {next other : α → Except Failure β} (h : Alike first second)
    (hnext : ∀ a, Alike (next a) (other a)) :
    Alike (first.bind next) (second.bind other) := by
  cases h with
  | refl =>
      cases first with
      | error failure => exact .refl _
      | ok a => exact hnext a
  | malformed a b => exact .malformed a b

/-- Results that are alike have the same value, if they have one. -/
theorem ok_iff (h : Alike first second) (a : α) : first = .ok a ↔ second = .ok a := by
  cases h with
  | refl => exact Iff.rfl
  | malformed => constructor <;> intro h <;> cases h

end Alike

/-! ## Booleans -/

/-- All properties of a scope are booleans. -/
def Scope.YieldsBools (scope : Scope) : Prop :=
  ∀ adjectives subject arguments value,
    scope.property adjectives subject arguments = .ok value → ∃ b, value = .bool b

/-- The built-in properties are booleans. -/
theorem builtIn_yieldsBools (lookup : Value.Path → Value) (now : DateTime) :
    Scope.YieldsBools ⟨lookup, builtIn now⟩ := by
  intro adjectives subject arguments value h
  simp only [builtIn] at h
  split at h
  · exact ⟨_, (Except.ok.inj h).symm⟩
  · cases hpassed : hasPassedSince subject _ now with
    | error failure => rw [hpassed] at h; cases h
    | ok b => rw [hpassed] at h; exact ⟨b, (Except.ok.inj h).symm⟩
  · cases hholds : holdsItem _ subject with
    | error failure => rw [hholds] at h; cases h
    | ok b => rw [hholds] at h; exact ⟨b, (Except.ok.inj h).symm⟩
  · cases h

variable {scope : Scope} {stack after : List Value}

/-- An instruction that yields a boolean leaves one on top. -/
theorem Instr.step_yieldsBool (hscope : scope.YieldsBools) {instr : Instr}
    (hyields : instr.yieldsBool = true) (h : instr.step scope stack = .ok after) :
    ∃ b rest, after = .bool b :: rest := by
  unfold Instr.step at h
  split at h
  · cases hyields
  · cases hyields
  · split at h
    · next arguments subject rest htake =>
        simp only [Bind.bind, Except.bind] at h
        split at h
        · cases h
        · next value hvalue =>
            obtain ⟨b, rfl⟩ := hscope _ _ _ _ hvalue
            cases h
            exact ⟨b, rest, rfl⟩
    · cases h
  · cases h; exact ⟨_, _, rfl⟩
  · simp only [Bind.bind, Except.bind] at h
    split at h
    · cases h
    · cases h; exact ⟨_, _, rfl⟩
  · simp only [Bind.bind, Except.bind] at h
    split at h
    · cases h
    · cases h; exact ⟨_, _, rfl⟩
  · cases h; exact ⟨_, _, rfl⟩
  · cases h; exact ⟨_, _, rfl⟩
  · cases h; exact ⟨_, _, rfl⟩
  · cases h; exact ⟨_, _, rfl⟩
  · cases h

/-! ## Fusing -/

/-- Two negations leave the truth of a value. -/
theorem Instr.run_not_not (stack : List Value) :
    Alike (Instr.toBool.step scope stack) (Code.run scope [.not, .not] stack) := by
  cases stack with
  | nil => exact .malformed _ _
  | cons top rest =>
      have htruthy : Code.run scope [.not, .not] (top :: rest) =
          .ok (.bool (!!top.truthy) :: rest) := rfl
      rw [htruthy, Bool.not_not]
      exact .refl _

/-- A `TO_BOOL` leaves a boolean as it is. -/
theorem Instr.run_toBool (hscope : scope.YieldsBools) {instr : Instr}
    (hyields : instr.yieldsBool = true) (stack : List Value) :
    Code.run scope [instr, .toBool] stack = instr.step scope stack := by
  rw [Code.run_cons]
  cases hstep : instr.step scope stack with
  | error failure => rfl
  | ok after =>
      obtain ⟨b, rest, rfl⟩ := instr.step_yieldsBool hscope hyields hstep
      rfl

/-- **Fusing.**  Two neighbours do what they fuse to, on every stack. -/
theorem Instr.run_fuse (hscope : scope.YieldsBools) {first second fused : Instr}
    (h : first.fuse? second = some fused) (stack : List Value) :
    Alike (fused.step scope stack) (Code.run scope [first, second] stack) := by
  unfold Instr.fuse? at h
  split at h
  · cases h
    exact Instr.run_not_not stack
  · split at h
    · next hyields =>
        cases h
        rw [Instr.run_toBool hscope hyields stack]
        exact .refl _
    · cases h
  · cases h

/-- **Passes.**  A pass keeps what code does to every stack. -/
theorem Code.run_pass (hscope : scope.YieldsBools) (code : Code) (stack : List Value) :
    Alike (Code.run scope code.pass stack) (Code.run scope code stack) := by
  fun_induction Code.pass code generalizing stack with
  | case1 first second rest fused hfuse ih =>
      have happend : Code.run scope (first :: second :: rest) stack =
          (Code.run scope [first, second] stack).bind (Code.run scope rest) :=
        Code.run_append [first, second] rest stack
      rw [happend, Code.run_cons]
      exact (Instr.run_fuse hscope hfuse stack).bind ih
  | case2 first second rest hnone ih =>
      rw [Code.run_cons, Code.run_cons first]
      exact (Alike.refl _).bind ih
  | case3 short hshort => exact .refl _

/-- Simplifying keeps what code does to every stack. -/
theorem Code.run_simplify (hscope : scope.YieldsBools) (code : Code)
    (stack : List Value) :
    Alike (Code.run scope code.simplify stack) (Code.run scope code stack) := by
  fun_induction Code.simplify code with
  | case1 code hshorter ih => exact ih.trans (Code.run_pass hscope code stack)
  | case2 code hsame => exact Code.run_pass hscope code stack

/-- **Simplified code means what the code means.**  Any code over any variables,
and over properties that are booleans as the built-in ones are, has the value or
the failure that it has when it is simplified; only the reason why it is malformed
may be another. -/
theorem Code.evaluate_simplify :
    (∀ scope : Scope, scope.YieldsBools → ∀ code : Code,
      Alike (Code.evaluate scope code.simplify) (Code.evaluate scope code)) ∧
    ∀ lookup now, Scope.YieldsBools ⟨lookup, builtIn now⟩ := by
  refine ⟨fun scope hscope code => ?_, builtIn_yieldsBools⟩
  exact (Code.run_simplify hscope code []).bind fun stack => .refl (onlyValue stack)

/-- Negating null three times and asking for its truth is true, with the built-in
properties and however much of it is simplified away. -/
theorem Code.evaluate_simplify_negations :
    let scope : Scope := ⟨fun _ => .null, builtIn ⟨0, ⟨0, 0⟩⟩⟩
    let code : Code := [.lookup ["a"], .not, .not, .not, .toBool]
    Code.evaluate scope code.simplify = .ok (.bool true) := by
  intro scope code
  have hscope : scope.YieldsBools := Code.evaluate_simplify.2 _ _
  exact ((Code.evaluate_simplify.1 scope hscope code).ok_iff (.bool true)).2 rfl

end Turnstile.Condition

import Turnstile.Proofs.Condition.Simplification

/-!
# Why conditions fail

Code fails for itself when it is malformed, and a program when it is run at a bare date
and time.  A compiled program that is run at a known instant fails for neither reason:
it does what its expression does (`Expression.evaluate_code`), which fails only where a
comparison or a property does, and the built-in properties fail for the values that they
are given.
-/

set_option autoImplicit false

namespace Turnstile.Condition

open Time (DateTime)

/-- Failures for which a program or the one who runs it is to blame, and not what it
looks at. -/
inductive Failure.Internal : Failure → Prop
  | malformed (reason : Malformation) : Internal (.malformed reason)
  | naiveTime : Internal .naiveTime

/-- No instant fails for a mistake in code or in time zones. -/
theorem instantOf_external {text : String} {failure : Failure}
    (h : instantOf text = .error failure) :
    ¬ failure.Internal := by
  unfold instantOf at h
  split at h
  · cases h
  · cases h; rintro ⟨⟩

/-- Nor does a duration that has to have passed. -/
theorem hasPassedSince_external {duration epoch : Value} {now : DateTime}
    {failure : Failure} (h : hasPassedSince duration epoch now = .error failure) :
    ¬ failure.Internal := by
  unfold hasPassedSince at h
  split at h
  next n =>
    simp only [bind, Except.bind] at h
    split at h
    · cases h
    next text =>
      cases hinstant : instantOf text with
      | error cause =>
        rw [hinstant] at h
        cases h
        exact instantOf_external hinstant
      | ok instant =>
        rw [hinstant] at h
        simp only [Except.map] at h
        split at h
        · cases h; rintro ⟨⟩
        · split at h <;> cases h
    · cases h; rintro ⟨⟩
  next => cases h; rintro ⟨⟩

/-- Nor does the search for an item. -/
theorem holdsItem_external {container item : Value} {failure : Failure}
    (h : holdsItem container item = .error failure) : ¬ failure.Internal := by
  unfold holdsItem at h
  split at h <;> cases h
  rintro ⟨⟩

/-- The built-in properties fail for what they look at. -/
theorem builtIn_external {now : DateTime} {adjectives : List String} {subject : Value}
    {arguments : List (String × Value)} {failure : Failure}
    (h : builtIn now adjectives subject arguments = .error failure) :
    ¬ failure.Internal := by
  unfold builtIn at h
  split at h
  · cases h
  · cases hpassed : hasPassedSince subject _ now with
    | ok b => rw [hpassed] at h; cases h
    | error cause => rw [hpassed] at h; cases h; exact hasPassedSince_external hpassed
  · cases hholds : holdsItem _ subject with
    | ok b => rw [hholds] at h; cases h
    | error cause => rw [hholds] at h; cases h; exact holdsItem_external hholds
  · cases h; rintro ⟨⟩

/-- A compiled program that runs at a known instant fails for what it looks at. -/
theorem Program.run_external {source : String} {p : Program}
    (hcompile : Program.compile source = .ok p)
    {lookup : Value.Path → Value} {now : DateTime} {failure : Failure}
    (h : p.run lookup (.aware now) = .error failure) : ¬ failure.Internal := by
  unfold Program.compile at hcompile
  split at hcompile
  next e he =>
    cases hcompile
    let scope : Scope := ⟨lookup, builtIn now⟩
    have halike :
        Alike (Code.evaluate scope e.code.simplify) (Code.evaluate scope e.code) :=
      (Code.run_simplify (builtIn_yieldsBools lookup now) e.code []).bind fun stack =>
        .refl (onlyValue stack)
    have hraised : ∀ {cause : Failure}, Code.evaluate scope e.code = .error cause →
        ¬ cause.Internal := by
      intro cause hcause
      rw [e.evaluate_code] at hcause
      cases e.raised_of_error hcause with
      | comparison => rintro ⟨⟩
      | property hanswer => exact builtIn_external hanswer
    have hevaluate : Code.evaluate scope e.code.simplify = .error failure := by
      simp only [Program.run, bind, Except.bind] at h
      split at h
      next cause hcause => cases h; exact hcause
      next => cases h
    rw [hevaluate] at halike
    generalize hplain : Code.evaluate scope e.code = plain at halike
    cases halike with
    | refl => exact hraised hplain
    | malformed first second => exact absurd (.malformed second) (hraised hplain)
  next => cases hcompile

end Turnstile.Condition

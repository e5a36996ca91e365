import Mathlib
import Turnstile.Proofs.Condition.Simplification

/-!
# The normal form of code

Simplified code has nothing left to fuse (`Code.IsNormal`): negations do not follow each
other, and what is coerced was loaded.  All other instructions stay, in their order
(`Code.skeleton`), so a program reads what it read before (`Code.simplify_normal`).

Normal forms are not unique for any code: three negations in front end as `TO_BOOL`,
`NOT`.  Behind one instruction that stays they are: only the parity of the negations
there matters, and whether what was loaded is coerced first (`Code.simplify_block`).
Fusing does not reach over an instruction that stays, so code is simplified block by
block (`Code.simplify_append`).
-/

set_option autoImplicit false

namespace Turnstile.Condition

/-! ## Fusing -/

/-- Whether an instruction only changes the truth of what is on top: `NOT` and
`TO_BOOL`. -/
def Instr.adjusts : Instr → Bool
  | .not | .toBool => true
  | _ => false

/-- Whether an instruction is a `NOT`. -/
def Instr.isNot : Instr → Bool
  | .not => true
  | _ => false

/-- Loads are what yields no boolean. -/
theorem Instr.load_of_yieldsBool {instr : Instr} (h : instr.yieldsBool = false) :
    (∃ value, instr = .literal value) ∨ ∃ path, instr = .lookup path := by
  cases instr <;> simp_all [Instr.yieldsBool]

/-- What two neighbours fuse to, and when. -/
theorem Instr.fuse?_eq_some {first second fused : Instr}
    (h : first.fuse? second = some fused) :
    (first = .not ∧ second = .not ∧ fused = .toBool) ∨
      (second = .toBool ∧ first.yieldsBool = true ∧ fused = first) := by
  unfold Instr.fuse? at h
  split at h
  · exact .inl ⟨rfl, rfl, (Option.some.inj h).symm⟩
  · split at h
    · next hyields => exact .inr ⟨rfl, hyields, (Option.some.inj h).symm⟩
    · cases h
  · cases h

/-- To make a truth value of what is one adds nothing. -/
theorem Instr.fuse?_toBool {first : Instr} (h : first.yieldsBool = true) :
    first.fuse? .toBool = some first := by
  cases first <;> simp_all [Instr.fuse?, Instr.yieldsBool]

/-- Nothing fuses with an instruction that stays. -/
theorem Instr.fuse?_of_stays {first second : Instr} (h : second.adjusts = false) :
    first.fuse? second = none := by
  cases hfuse : first.fuse? second with
  | none => rfl
  | some fused =>
      obtain ⟨-, rfl, -⟩ | ⟨rfl, -, -⟩ := Instr.fuse?_eq_some hfuse <;> cases h

namespace Code

/-! ## Passes -/

/-- Two instructions that do not fuse are kept. -/
theorem pass_cons_cons_none {first second : Instr} {rest : Code}
    (h : first.fuse? second = none) :
    pass (first :: second :: rest) = first :: pass (second :: rest) := by
  rw [pass, h]

/-- Two instructions that fuse become one. -/
theorem pass_cons_cons_some {first second fused : Instr} {rest : Code}
    (h : first.fuse? second = some fused) :
    pass (first :: second :: rest) = fused :: pass rest := by
  rw [pass, h]

/-- A pass makes code no longer. -/
theorem length_pass_le (code : Code) : code.pass.length ≤ code.length := by
  fun_induction pass code with
  | case1 first second rest fused hfuse ih =>
      simp only [List.length_cons]
      omega
  | case2 first second rest hnone ih => exact Nat.succ_le_succ ih
  | case3 short hshort => exact Nat.le_refl _

/-- A pass that does not shorten code leaves it as it is. -/
theorem pass_eq_self {code : Code} (h : code.length ≤ code.pass.length) :
    code.pass = code := by
  fun_induction pass code with
  | case1 first second rest fused hfuse ih =>
      have := length_pass_le rest
      simp only [List.length_cons] at h
      omega
  | case2 first second rest hnone ih => rw [ih (Nat.le_of_succ_le_succ h)]
  | case3 short hshort => rfl

/-- Where a pass changes nothing, no two neighbours fuse. -/
theorem fuse?_of_pass_eq {before after : Code} {first second : Instr}
    (h : pass (before ++ first :: second :: after) = before ++ first :: second :: after) :
    first.fuse? second = none := by
  induction before with
  | nil =>
      cases hfuse : first.fuse? second with
      | none => rfl
      | some fused =>
          have hlength := congrArg List.length h
          have := length_pass_le after
          rw [List.nil_append, pass_cons_cons_some hfuse] at hlength
          simp only [List.length_cons] at hlength
          omega
  | cons head before ih =>
      obtain ⟨next, rest, hrest⟩ : ∃ next rest, before ++ first :: second :: after =
          next :: rest :=
        List.exists_cons_of_ne_nil (by simp)
      rw [List.cons_append, hrest] at h
      rw [hrest] at ih
      cases hfuse : head.fuse? next with
      | none =>
          rw [pass_cons_cons_none hfuse] at h
          exact ih (List.cons.inj h).2
      | some fused =>
          have hlength := congrArg List.length h
          have := length_pass_le rest
          rw [pass_cons_cons_some hfuse] at hlength
          simp only [List.length_cons] at hlength
          omega

/-! ## Simplified code -/

/-- Simplified code is left as it is by a pass. -/
theorem pass_simplify (code : Code) : code.simplify.pass = code.simplify := by
  fun_induction simplify code with
  | case1 code hshorter ih => exact ih
  | case2 code hsame =>
      have hself : code.pass = code := pass_eq_self (Nat.le_of_not_lt hsame)
      rw [hself, hself]

/-- Code that a pass leaves as it is, is simplified. -/
theorem simplify_of_pass_eq {code : Code} (h : code.pass = code) :
    code.simplify = code := by
  rw [simplify, if_neg (by rw [h]; exact Nat.lt_irrefl _), h]

/-- As many passes as there are instructions are enough. -/
theorem iterate_pass {code : Code} {passes : Nat} (h : code.length ≤ passes) :
    pass^[passes] code = code.simplify := by
  fun_induction simplify code generalizing passes with
  | case1 code hshorter ih =>
      obtain ⟨more, rfl⟩ : ∃ more, passes = more + 1 := ⟨passes - 1, by omega⟩
      rw [Function.iterate_succ_apply]
      exact ih (by omega)
  | case2 code hsame =>
      have hself : code.pass = code := pass_eq_self (Nat.le_of_not_lt hsame)
      rw [Function.iterate_fixed hself, hself]

/-- What every pass keeps, simplifying keeps. -/
theorem simplify_of_pass {P : Code → Prop}
    (hpass : ∀ code, P code → P code.pass) {code : Code}
    (h : P code) : P code.simplify := by
  fun_induction simplify code with
  | case1 code hshorter ih => exact ih (hpass code h)
  | case2 code hsame => exact hpass code h

/-- Simplification makes code no longer. -/
theorem length_simplify_le (code : Code) : code.simplify.length ≤ code.length :=
  simplify_of_pass (P := fun other => other.length ≤ code.length)
    (fun other h => (length_pass_le other).trans h) (Nat.le_refl _)

/-- Code in which no negation follows another, and a `TO_BOOL` stands at the front or
follows a load. -/
structure IsNormal (code : Code) : Prop where
  negation : ∀ before after : Code, code ≠ before ++ .not :: .not :: after
  coercion : ∀ (before after : Code) (first : Instr), code =
    before ++ first :: .toBool :: after →
    (∃ value, first = .literal value) ∨ ∃ path, first = .lookup path

/-- Code that a pass leaves alone is normal. -/
theorem isNormal_of_pass_eq {code : Code} (h : code.pass = code) : code.IsNormal where
  negation := by
    rintro before after rfl
    cases fuse?_of_pass_eq h
  coercion := by
    rintro before after first rfl
    have hnone := fuse?_of_pass_eq h
    refine Instr.load_of_yieldsBool (Bool.eq_false_iff.2 fun hyields => ?_)
    rw [Instr.fuse?_toBool hyields] at hnone
    cases hnone

/-- Simplified code is normal. -/
theorem isNormal_simplify (code : Code) : code.simplify.IsNormal :=
  isNormal_of_pass_eq (pass_simplify code)

/-- The rest of normal code is normal. -/
theorem IsNormal.tail {first : Instr} {rest : Code} (h : IsNormal (first :: rest)) :
    IsNormal rest where
  negation before after hrest := h.negation (first :: before) after (congrArg _ hrest)
  coercion before after second hrest :=
    h.coercion (first :: before) after second (congrArg _ hrest)

/-! ## What stays -/

/-- Code without its `NOT` and `TO_BOOL` instructions. -/
def skeleton (code : Code) : Code := code.filter fun instr => !instr.adjusts

/-- The skeleton leaves out what only adjusts a truth value. -/
theorem skeleton_cons (first : Instr) (rest : Code) :
    skeleton (first :: rest) = if first.adjusts then skeleton rest
      else first :: skeleton rest := by
  cases h : first.adjusts <;> simp [skeleton, h]

/-- The skeleton of code in sequence is that of its parts. -/
theorem skeleton_append (first second : Code) :
    skeleton (first ++ second) = skeleton first ++ skeleton second :=
  List.filter_append first second

/-- A pass keeps the skeleton. -/
theorem skeleton_pass (code : Code) : code.pass.skeleton = code.skeleton := by
  fun_induction pass code with
  | case1 first second rest fused hfuse ih =>
      obtain ⟨rfl, rfl, rfl⟩ | ⟨rfl, -, rfl⟩ := Instr.fuse?_eq_some hfuse
      · simp only [skeleton_cons, ih, Instr.adjusts, if_true]
      · simp only [skeleton_cons, ih, Instr.adjusts, if_true]
  | case2 first second rest hnone ih => rw [skeleton_cons, ih, skeleton_cons first]
  | case3 short hshort => rfl

/-- Simplification keeps the skeleton. -/
theorem skeleton_simplify (code : Code) : code.simplify.skeleton = code.skeleton :=
  simplify_of_pass (P := fun other => other.skeleton = code.skeleton)
    (fun other h => (skeleton_pass other).trans h) rfl

/-- What code reads stands in its skeleton. -/
theorem reads_of_skeleton {first second : Code} (h : first.skeleton = second.skeleton)
    (source : String) :
    Program.reads ⟨source, first⟩ = Program.reads ⟨source, second⟩ := by
  have hskeleton : ∀ code : Code, Program.reads ⟨source, code⟩ =
      Program.reads ⟨source, code.skeleton⟩ := by
    intro code
    unfold Program.reads
    rw [skeleton, List.filterMap_filter]
    congr 2
    funext instr
    cases instr <;> rfl
  rw [hskeleton first, h, ← hskeleton second]

/-- **Normal forms.**  Any code is simplified by at most as many passes as it has
instructions, to code that is no longer and normal and that simplifying leaves as it is.
Apart from `NOT` and `TO_BOOL` it has the same instructions in the same order, and it
reads the same variables. -/
theorem simplify_normal (code : Code) :
    (∃ passes ≤ code.length, code.simplify = pass^[passes] code) ∧
      code.simplify.length ≤ code.length ∧
      code.simplify.IsNormal ∧
      code.simplify.simplify = code.simplify ∧
      code.simplify.skeleton = code.skeleton ∧
      ∀ source, Program.reads ⟨source, code.simplify⟩ = Program.reads ⟨source, code⟩ :=
  ⟨⟨code.length, Nat.le_refl _, (iterate_pass (Nat.le_refl _)).symm⟩,
    length_simplify_le code, isNormal_simplify code,
    simplify_of_pass_eq (pass_simplify code), skeleton_simplify code,
    reads_of_skeleton (skeleton_simplify code)⟩

/-! ## Blocks -/

/-- A pass keeps the first instruction, unless it is a negation. -/
theorem pass_cons {first : Instr} (h : first ≠ .not) (rest : Code) :
    ∃ after, pass (first :: rest) = first :: after := by
  cases rest with
  | nil => exact ⟨[], rfl⟩
  | cons second rest =>
      cases hfuse : first.fuse? second with
      | none => exact ⟨_, pass_cons_cons_none hfuse⟩
      | some fused =>
          obtain ⟨hnot, -, -⟩ | ⟨-, -, rfl⟩ := Instr.fuse?_eq_some hfuse
          · exact absurd hnot h
          · exact ⟨_, pass_cons_cons_some hfuse⟩

/-- Passes do not reach over an instruction that stays. -/
theorem pass_append {stay : Instr} (h : stay.adjusts = false) (before rest : Code) :
    pass (before ++ stay :: rest) = pass before ++ pass (stay :: rest) := by
  fun_induction pass before with
  | case1 first second before fused hfuse ih =>
      rw [List.cons_append, List.cons_append, pass_cons_cons_some hfuse, ih,
        List.cons_append]
  | case2 first second before hnone ih =>
      rw [List.cons_append, List.cons_append, pass_cons_cons_none hnone,
        ← List.cons_append, ih, List.cons_append]
  | case3 short hshort =>
      rcases short with _ | ⟨first, _ | ⟨second, before⟩⟩
      · rfl
      · exact pass_cons_cons_none (Instr.fuse?_of_stays h)
      · exact absurd rfl (hshort first second before)

/-- Passes work on each side of an instruction that adjusts nothing. -/
theorem iterate_pass_append {stay : Instr} (h : stay.adjusts = false) (passes : Nat)
    (before rest : Code) :
    pass^[passes] (before ++ stay :: rest) =
      pass^[passes] before ++ pass^[passes] (stay :: rest) := by
  have hne : stay ≠ .not := by rintro rfl; cases h
  induction passes generalizing before rest with
  | zero => rfl
  | succ passes ih =>
      obtain ⟨after, hafter⟩ := pass_cons hne rest
      simp only [Function.iterate_succ_apply, pass_append h, hafter, ih]

/-- **Blocks.**  Code is simplified apart before and from an instruction that stays. -/
theorem simplify_append {stay : Instr} (h : stay.adjusts = false) (before rest : Code) :
    simplify (before ++ stay :: rest) = simplify before ++ simplify (stay :: rest) := by
  have hlength :
      (before ++ stay :: rest).length = before.length + (stay :: rest).length :=
    List.length_append
  rw [← iterate_pass (Nat.le_refl _), iterate_pass_append h,
    iterate_pass (by omega), iterate_pass (by omega)]

/-- The negations of code. -/
def negations (code : Code) : Nat := code.countP Instr.isNot

/-- Negations are counted one by one. -/
theorem negations_cons (first : Instr) (rest : Code) :
    negations (first :: rest) = negations rest + if first.isNot then 1 else 0 :=
  List.countP_cons

/-- The negations of code in sequence are those of its parts. -/
theorem negations_append (first second : Code) :
    negations (first ++ second) = negations first + negations second :=
  List.countP_append

/-- A pass drops negations in pairs. -/
theorem negations_pass (code : Code) : code.pass.negations % 2 = code.negations % 2 := by
  fun_induction pass code with
  | case1 first second rest fused hfuse ih =>
      obtain ⟨rfl, rfl, rfl⟩ | ⟨rfl, -, rfl⟩ := Instr.fuse?_eq_some hfuse
      · simp only [negations_cons, Instr.isNot, if_true, Bool.false_eq_true, if_false]
        omega
      · simp only [negations_cons, Instr.isNot, Bool.false_eq_true, if_false]
        omega
  | case2 first second rest hnone ih =>
      rw [negations_cons, negations_cons first]
      omega
  | case3 short hshort => rfl

/-- Simplification takes negations away by twos. -/
theorem negations_simplify (code : Code) :
    code.simplify.negations % 2 = code.negations % 2 :=
  simplify_of_pass (P := fun other => other.negations % 2 = code.negations % 2)
    (fun other h => (negations_pass other).trans h) rfl

/-- After what yields a boolean, normal code without an instruction that stays has at
most one negation. -/
theorem IsNormal.of_yieldsBool {first : Instr} {rest : Code}
    (h : IsNormal (first :: rest)) (hyields : first.yieldsBool = true)
    (hrest : rest.skeleton = []) : rest = [] ∨ rest = [.not] := by
  have hload : ∀ {instr : Instr} {after : Code} {before : Code},
      first :: rest = before ++ instr :: .toBool :: after → instr.yieldsBool = false := by
    intro instr after before hsplit
    obtain ⟨value, rfl⟩ | ⟨path, rfl⟩ := h.coercion before after instr hsplit <;> rfl
  cases rest with
  | nil => exact .inl rfl
  | cons second rest =>
      refine .inr ?_
      cases second with
      | toBool => exact absurd (@hload first rest [] rfl) (by simp [hyields])
      | not =>
          cases rest with
          | nil => rfl
          | cons third rest =>
              cases third with
              | toBool => cases @hload .not rest [first] rfl
              | not => exact absurd rfl (h.negation [first] rest)
              | _ => simp [skeleton, Instr.adjusts] at hrest
      | _ => simp [skeleton, Instr.adjusts] at hrest

/-- What is left of an instruction that stays and of what adjusts it. -/
theorem simplify_cons {first : Instr} {rest : Code} (hfirst : first ≠ .not)
    (hrest : rest.skeleton = []) :
    ∃ after, simplify (first :: rest) = first :: after ∧ skeleton after = [] ∧
      IsNormal (first :: after) ∧ negations after % 2 = rest.negations % 2 := by
  obtain ⟨after, hafter⟩ : ∃ after, simplify (first :: rest) = first :: after := by
    refine simplify_of_pass (P := fun code => ∃ after, code = first :: after) ?_
      ⟨rest, rfl⟩
    rintro code ⟨after, rfl⟩
    exact pass_cons hfirst after
  have hskeleton : skeleton (first :: after) = skeleton (first :: rest) :=
    hafter ▸ skeleton_simplify _
  have hnegations : negations (first :: after) % 2 = negations (first :: rest) % 2 :=
    hafter ▸ negations_simplify _
  refine ⟨after, hafter, ?_, hafter ▸ isNormal_simplify _, ?_⟩
  · rw [skeleton_cons, skeleton_cons, hrest] at hskeleton
    cases hadjusts : first.adjusts <;> simpa [hadjusts] using hskeleton
  · rw [negations_cons, negations_cons] at hnegations
    omega

/-- What is loaded and coerced stays so. -/
theorem simplify_coerced {load : Instr} (h : load.yieldsBool = false) (rest : Code) :
    ∃ after, simplify (load :: .toBool :: rest) = load :: .toBool :: after := by
  refine simplify_of_pass (P := fun code => ∃ after, code = load :: .toBool :: after) ?_
    ⟨rest, rfl⟩
  rintro code ⟨after, rfl⟩
  obtain ⟨last, hlast⟩ := @pass_cons .toBool (by simp) after
  have hnone : load.fuse? .toBool = none := by
    cases load <;> simp_all [Instr.fuse?, Instr.yieldsBool]
  exact ⟨last, by rw [pass_cons_cons_none hnone, hlast]⟩

/-- **Adjustments.**  What adjusts an instruction that stays counts by the parity of its
negations, if the instruction yields a boolean or is coerced first. -/
theorem simplify_block {stay : Instr} {first second : Code} (hstay : stay.adjusts = false)
    (hfirst : first.skeleton = []) (hsecond : second.skeleton = [])
    (hparity : first.negations % 2 = second.negations % 2)
    (hcoerced : stay.yieldsBool = true ∨
      (∃ rest, first = .toBool :: rest) ∧ ∃ rest, second = .toBool :: rest) :
    simplify (stay :: first) = simplify (stay :: second) := by
  have hne : stay ≠ .not := by rintro rfl; cases hstay
  obtain ⟨a, ha, hskeletona, hnormala, hparitya⟩ := simplify_cons hne hfirst
  obtain ⟨b, hb, hskeletonb, hnormalb, hparityb⟩ := simplify_cons hne hsecond
  have hab : negations a % 2 = negations b % 2 := by omega
  rw [ha, hb]
  cases hyields : stay.yieldsBool with
  | true =>
      rcases hnormala.of_yieldsBool hyields hskeletona with rfl | rfl <;>
        rcases hnormalb.of_yieldsBool hyields hskeletonb with rfl | rfl
      · rfl
      · cases hab
      · cases hab
      · rfl
  | false =>
      obtain ⟨⟨w, rfl⟩, ⟨v, rfl⟩⟩ := hcoerced.resolve_left (by simp [hyields])
      obtain ⟨c, hc⟩ := simplify_coerced hyields w
      obtain ⟨d, hd⟩ := simplify_coerced hyields v
      obtain rfl := (List.cons.inj (ha.symm.trans hc)).2
      obtain rfl := (List.cons.inj (hb.symm.trans hd)).2
      rcases hnormala.tail.of_yieldsBool rfl hskeletona with rfl | rfl <;>
        rcases hnormalb.tail.of_yieldsBool rfl hskeletonb with rfl | rfl
      · rfl
      · cases hab
      · cases hab
      · rfl

end Code

end Turnstile.Condition

import Mathlib
import Turnstile.Proofs.Condition.Layout

/-!
# What programs are hashed by

A program is hashed by the keys of its instructions, and the key of a constant is its
written text.  A table of programs looks for one only among those of its hash, so equal
programs ought to have the same keys.

Constants of compiled programs are scalars.  Equal ones are written alike, with one
exception: the two zeros of doubles are equal numbers, and the text of one has a sign.
So equal programs have the same keys just when they load the negative zero in the same
places (`Program.same_keys_iff`).
-/

set_option autoImplicit false

namespace Turnstile

/-! ## The two zeros -/

namespace Binary64

/-- There are two zeros. -/
theorem isZero_iff {x : Binary64} : x.isZero = true ↔ x = zero ∨ x = negativeZero := by
  constructor
  · intro h
    obtain ⟨negative, magnitude, hfinite⟩ := x
    obtain rfl : magnitude = 0 := by simpa [isZero] using h
    cases negative
    · exact .inl rfl
    · exact .inr rfl
  · rintro (rfl | rfl) <;> rfl

/-- Doubles are equal in value if they are the same, and besides only the two
zeros are. -/
theorem sameValue_iff {x y : Binary64} :
    x.sameValue y = true ↔ x = y ∨ (x.isZero = true ∧ y.isZero = true) := by
  obtain ⟨negative, magnitude, hfinite⟩ := x
  obtain ⟨other, position, hother⟩ := y
  simp only [sameValue, signedMagnitude, isZero, beq_iff_eq, mk.injEq]
  cases negative <;> cases other <;> simp <;> omega

end Binary64

/-- Whether a document is the double `-0.0`. -/
def Value.isNegativeZero : Value → Bool
  | .num (.float x) => x == Binary64.negativeZero
  | _ => false

namespace Condition

open Binary64 (zero negativeZero)

/-- Whether an instruction loads the double `-0.0`. -/
def Instr.loadsNegativeZero : Instr → Bool
  | .literal value => value.isNegativeZero
  | _ => false

/-! ## Constants -/

/-- Equal constants are the same, or they are zeros. -/
theorem IsScalar.eq_or_zeros {a b : Value} (ha : IsScalar a) (h : a.identical b = true) :
    a = b ∨ ∃ x y, x.isZero = true ∧ y.isZero = true ∧ a = .num (.float x) ∧
    b = .num (.float y) := by
  cases a with
  | arr items => cases ha
  | obj fields => cases ha
  | num m =>
      cases b with
      | num n =>
          have hkind : m.sameKind n = true := h
          cases m with
          | int x => cases n <;> simp_all [Number.sameKind]
          | float x =>
              cases n with
              | int y => cases hkind
              | float y =>
                  rcases Binary64.sameValue_iff.1 hkind with rfl | ⟨hx, hy⟩
                  · exact .inl rfl
                  · exact .inr ⟨x, y, hx, hy, rfl, rfl⟩
      | _ => simp [Value.identical, Value.sameBy] at h
  | _ => cases b <;> simp_all [Value.identical, Value.sameBy]

/-- **Constants.**  Equal constants are written alike unless just one of them is the
negative zero. -/
theorem IsScalar.text_eq_iff {a b : Value} (ha : IsScalar a) (h : a.identical b = true) :
    a.text = b.text ↔ a.isNegativeZero = b.isNegativeZero := by
  rcases ha.eq_or_zeros h with rfl | ⟨x, y, hx, hy, rfl, rfl⟩
  · exact iff_of_true rfl rfl
  · rcases Binary64.isZero_iff.1 hx with rfl | rfl <;>
      rcases Binary64.isZero_iff.1 hy with rfl | rfl <;> decide

/-! ## Programs -/

/-- Instructions that are the same have one key unless only one of them loads a negative
zero. -/
theorem Instr.key_eq_iff {a b : Instr} (ha : a.IsPlain) (h : a.same b = true) :
    a.key = b.key ↔ a.loadsNegativeZero = b.loadsNegativeZero := by
  cases a with
  | literal value =>
      cases b with
      | literal other => simpa [key, loadsNegativeZero] using IsScalar.text_eq_iff ha h
      | _ => simp [same] at h
  | _ => cases b <;> simp_all [same, key, loadsNegativeZero]

/-- Code that is the same has the same keys unless negative zeros are loaded at
different places. -/
theorem Code.keys_eq_iff {a b : Code} (ha : ∀ instr ∈ a, instr.IsPlain)
    (h : a.same b = true) :
    a.map Instr.key = b.map Instr.key ↔
      a.map Instr.loadsNegativeZero = b.map Instr.loadsNegativeZero := by
  induction a generalizing b with
  | nil => cases b <;> simp_all [same]
  | cons instr rest ih =>
      cases b with
      | nil => simp [same] at h
      | cons other more =>
          obtain ⟨hinstr, hrest⟩ := List.forall_mem_cons.1 ha
          obtain ⟨hfirst, hmore⟩ := Bool.and_eq_true_iff.1 h
          rw [List.map_cons, List.map_cons, List.map_cons, List.map_cons, List.cons.injEq,
            List.cons.injEq, Instr.key_eq_iff hinstr hfirst, ih hrest hmore]

/-- **Equality and hashing.**  A compiled program has the keys of an equal one, and so
its hash, just when both load the negative zero in the same places. -/
theorem Program.same_keys_iff {source : String} {p q : Program}
    (h : Program.compile source = .ok p) (hsame : p.same q = true) :
    p.keys = q.keys ↔
    p.code.map Instr.loadsNegativeZero = q.code.map Instr.loadsNegativeZero :=
  Code.keys_eq_iff (Program.plain h) hsame

/-- Notations of the negative zero have the same keys. -/
theorem Program.same_keys_iff_level :
    let source := "level < -0.0 # below the sea"
    let other := "(level < -0e7)"
    ∃ p q, Program.compile source = .ok p ∧ Program.compile other = .ok q ∧
      p.same q = true ∧ p.keys = q.keys := by
  intro source other
  let code : Code := [.lookup ["level"], .literal (.num (.float negativeZero)), .less]
  have hp : Program.compile source = .ok ⟨source, code⟩ := by cbv
  have hq : Program.compile other = .ok ⟨other, code⟩ := by cbv
  have hsame : Program.same ⟨source, code⟩ ⟨other, code⟩ = true := by decide
  exact ⟨_, _, hp, hq, hsame, (Program.same_keys_iff hp hsame).2 rfl⟩

/-- The two zeros make equal programs that have different keys. -/
theorem Program.keys_of_zeros :
    ∃ p q, Program.compile "0.0" = .ok p ∧ Program.compile "-0.0" = .ok q ∧
      p.same q = true ∧ p.keys ≠ q.keys := by
  refine ⟨⟨"0.0", [.literal (.num (.float zero))]⟩,
    ⟨"-0.0", [.literal (.num (.float negativeZero))]⟩, ?_⟩
  exact ⟨by cbv, by cbv, by decide, by decide⟩

end Condition

end Turnstile

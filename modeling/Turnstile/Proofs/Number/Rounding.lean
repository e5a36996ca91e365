import Mathlib
import Turnstile.Number.Basic

/-!
# Integers among the doubles

Rounding keeps order (`Binary64.nearestMagnitude_mono`), so the double nearest to an
integer never stands on the wrong side of that of another one.  Near and above `2 ^ 63`
doubles are 1024 and 2048 apart, and integers there may have the same one.

Numbers are compared exactly where both are signed words and through their doubles
otherwise.  So two integers are told apart unless they are blurred (`Number.Blurred`):
one of them is beyond the signed words, and both round to one multiple of 2048, or lie
close to `2 ^ 63` on its two sides.
-/

set_option autoImplicit false

namespace Turnstile

namespace Binary64

/-! ## Rounding a quotient -/

/-- A quotient is rounded up by less than one. -/
theorem roundQuotient_le (num den : Nat) : roundQuotient num den ≤ num / den + 1 := by
  unfold roundQuotient
  dsimp only
  split
  · omega
  split
  · omega
  · have := Nat.mod_lt (num / den) Nat.two_pos
    omega

/-- A quotient is not rounded below its whole part. -/
theorem le_roundQuotient (num den : Nat) : num / den ≤ roundQuotient num den := by
  unfold roundQuotient
  dsimp only
  split
  · omega
  split <;> omega

/-- A greater quotient is not rounded to less. -/
theorem roundQuotient_mono {first second : Nat} (h : first ≤ second) (den : Nat) :
    roundQuotient first den ≤ roundQuotient second den := by
  rcases Nat.lt_or_ge (first / den) (second / den) with hless | hge
  · exact (roundQuotient_le first den).trans
      (Nat.le_trans hless (le_roundQuotient second den))
  · -- with one whole part the remainders decide
    have hwhole : first / den = second / den :=
      Nat.le_antisymm (Nat.div_le_div_right h) hge
    have hrest : first % den ≤ second % den := by
      have hfirst := Nat.div_add_mod first den
      have hsecond := Nat.div_add_mod second den
      rw [hwhole] at hfirst
      omega
    unfold roundQuotient
    dsimp only
    rw [hwhole]
    have := Nat.mod_lt (second / den) Nat.two_pos
    split_ifs <;> omega

/-- Whole numbers need no rounding. -/
theorem roundQuotient_one (n : Nat) : roundQuotient n 1 = n := by
  simp [roundQuotient, Nat.mod_one]

/-! ## The magnitude nearest to a count -/

/-- The leading power of a whole number is its binary logarithm. -/
theorem leadingPower_one {n : Nat} (h : n ≠ 0) : leadingPower n 1 = n.log2 := by
  have hone : Nat.log2 1 = 0 := by decide
  simp [leadingPower, hone, Nat.log2_self_le h]

/-- The significand that a count is rounded to, in units of its last binary digit. -/
def rounded (n : Nat) : Nat :=
  if 52 ≤ n.log2 then roundQuotient n (2 ^ (n.log2 - 52)) else n * 2 ^ (52 - n.log2)

/-- A whole number is rounded within its binade. -/
theorem nearestMagnitude_one {n : Nat} (h : n ≠ 0) :
    nearestMagnitude n 1 = (n.log2 + 1022) * binade + rounded n := by
  have hunit : max (-1074) ((n.log2 : Int) - 52) = (n.log2 : Int) - 52 :=
    max_eq_right (by omega)
  have hscale : ((n.log2 : Int) - 52 + 1074).toNat = n.log2 + 1022 := by omega
  rw [nearestMagnitude, if_neg h]
  simp only [leadingPower_one h, hunit, hscale, rounded]
  by_cases hlarge : 52 ≤ n.log2
  · have hpower : ((n.log2 : Int) - 52).toNat = n.log2 - 52 := by omega
    rw [if_pos hlarge, if_pos (by omega), hpower, Nat.one_mul]
    rfl
  · have hpower : (-((n.log2 : Int) - 52)).toNat = 52 - n.log2 := by omega
    rw [if_neg hlarge, if_neg (by omega), hpower, roundQuotient_one]
    rfl

/-- A significand has 53 binary digits, or it is the least number of 54. -/
theorem rounded_bounds {n : Nat} (h : n ≠ 0) :
    binade ≤ rounded n ∧ rounded n ≤ 2 * binade := by
  have hbinade : binade = 2 ^ 52 := rfl
  have hlow := Nat.log2_self_le h
  have hhigh : n < 2 ^ (n.log2 + 1) := Nat.lt_log2_self
  rw [rounded, hbinade, ← Nat.pow_succ']
  by_cases hlarge : 52 ≤ n.log2
  · rw [if_pos hlarge]
    have hfits : 2 ^ 52 ≤ n / 2 ^ (n.log2 - 52) := by
      rw [Nat.le_div_iff_mul_le (Nat.two_pow_pos _), ← Nat.pow_add,
        Nat.add_sub_cancel' hlarge]
      exact hlow
    have hless : n / 2 ^ (n.log2 - 52) < 2 ^ 53 := by
      rw [Nat.div_lt_iff_lt_mul (Nat.two_pow_pos _), ← Nat.pow_add]
      exact lt_of_lt_of_eq hhigh (congrArg _ (by omega))
    exact ⟨hfits.trans (le_roundQuotient _ _), (roundQuotient_le _ _).trans hless⟩
  · rw [if_neg hlarge]
    have hsum : n.log2 + (52 - n.log2) = 52 := by omega
    constructor
    · calc 2 ^ 52 = 2 ^ n.log2 * 2 ^ (52 - n.log2) := by rw [← Nat.pow_add, hsum]
        _ ≤ n * 2 ^ (52 - n.log2) := Nat.mul_le_mul_right _ hlow
    · calc n * 2 ^ (52 - n.log2) ≤ 2 ^ (n.log2 + 1) * 2 ^ (52 - n.log2) :=
            Nat.mul_le_mul_right _ hhigh.le
        _ = 2 ^ (52 + 1) := by rw [← Nat.pow_add]; exact congrArg _ (by omega)

/-- Within a binade rounding keeps the order. -/
theorem rounded_mono {m n : Nat} (h : m ≤ n) (hlog : m.log2 = n.log2) :
    rounded m ≤ rounded n := by
  rw [rounded, rounded, hlog]
  split
  · exact roundQuotient_mono h _
  · exact Nat.mul_le_mul_right _ h

/-- **Rounding keeps order.** -/
theorem nearestMagnitude_mono {m n : Nat} (h : m ≤ n) :
    nearestMagnitude m 1 ≤ nearestMagnitude n 1 := by
  rcases Nat.eq_zero_or_pos m with rfl | hm
  · exact Nat.zero_le _
  · have hm : m ≠ 0 := hm.ne'
    have hn : n ≠ 0 := fun hzero => hm (Nat.le_zero.1 (hzero ▸ h))
    rw [nearestMagnitude_one hm, nearestMagnitude_one hn]
    have hlog : m.log2 ≤ n.log2 := by
      rw [Nat.log2_eq_log_two, Nat.log2_eq_log_two]
      exact Nat.log_mono_right h
    rcases Nat.lt_or_eq_of_le hlog with hless | hsame
    · -- the largest significand of one power is the least of the next
      have hfirst := (rounded_bounds hm).2
      have hsecond := (rounded_bounds hn).1
      unfold binade at *
      omega
    · rw [hsame]
      exact Nat.add_le_add_left (rounded_mono h hsame) _

/-! ## The doubles of large words -/

/-- Above the signed words doubles are 2048 apart. -/
theorem nearestMagnitude_unsigned {n : Nat} (hlow : 2 ^ 63 ≤ n) (hhigh : n < 2 ^ 64) :
    nearestMagnitude n 1 = 1085 * binade + roundQuotient n 2048 := by
  have hne : n ≠ 0 := by omega
  have hlog : n.log2 = 63 := (Nat.log2_eq_iff hne).2 ⟨hlow, hhigh⟩
  rw [nearestMagnitude_one hne, rounded, hlog]
  rfl

/-- In the upper half of the signed words doubles are 1024 apart. -/
theorem nearestMagnitude_upper {n : Nat} (hlow : 2 ^ 62 ≤ n) (hhigh : n < 2 ^ 63) :
    nearestMagnitude n 1 = 1084 * binade + roundQuotient n 1024 := by
  have hne : n ≠ 0 := by omega
  have hlog : n.log2 = 62 := (Nat.log2_eq_iff hne).2 ⟨hlow, hhigh⟩
  rw [nearestMagnitude_one hne, rounded, hlog]
  rfl

/-- Words are not rounded out of the doubles. -/
theorem signedMagnitude_ofInt {n : Int} (h : n.natAbs < 2 ^ 64) :
    (ofInt n).signedMagnitude =
    if n < 0 then -(nearestMagnitude n.natAbs 1 : Int)
    else nearestMagnitude n.natAbs 1 := by
  have hfinite : nearestMagnitude n.natAbs 1 < finiteLimit := by
    refine lt_of_le_of_lt (nearestMagnitude_mono (Nat.le_of_lt_succ h)) ?_
    rw [nearestMagnitude_unsigned (by decide) (by decide)]
    decide
  rw [ofInt, nearest?, ofMagnitude?, dif_pos hfinite]
  simp [signedMagnitude]

end Binary64

namespace Number

open Binary64 (roundQuotient nearestMagnitude)

/-- The integers that a document can hold: signed and unsigned words. -/
def IsWord (n : Int) : Prop := wordMin ≤ n ∧ n ≤ unsignedMax

instance (n : Int) : Decidable (IsWord n) := inferInstanceAs (Decidable (_ ∧ _))

/-- An integer is rounded to a multiple of 2048: no other is nearer, and of two that are
equally near it is the even one. -/
def RoundsTo (n k : Int) : Prop :=
  2048 * k - 1024 ≤ n ∧ n ≤ 2048 * k + 1024 ∧
    (n = 2048 * k - 1024 ∨ n = 2048 * k + 1024 → k % 2 = 0)

instance (n k : Int) : Decidable (RoundsTo n k) :=
  inferInstanceAs (Decidable (_ ∧ _ ∧ (_ → _)))

/-- Two integers that are not told apart, though they may differ: the greater one is no
signed word, and both are rounded to one multiple of 2048, or they lie close to the end
of the signed words on its two sides. -/
def Blurred (x y : Int) : Prop :=
  wordMax < max x y ∧
    ((wordMax < min x y ∧ ∃ k, RoundsTo x k ∧ RoundsTo y k) ∨
      (min x y ≤ wordMax ∧ wordMax - 511 ≤ min x y ∧ max x y ≤ wordMax + 1025))

/-- A quotient by 2048 is rounded to the nearest multiple. -/
theorem roundQuotient_eq_iff {n k : Nat} : roundQuotient n 2048 = k ↔ RoundsTo n k := by
  unfold roundQuotient RoundsTo
  dsimp only
  split_ifs <;> omega

/-- Counts have one quotient when they are rounded to one multiple. -/
theorem roundQuotient_congr {m n : Nat} :
    roundQuotient m 2048 = roundQuotient n 2048 ↔ ∃ k, RoundsTo m k ∧ RoundsTo n k := by
  constructor
  · intro h
    exact ⟨roundQuotient n 2048, roundQuotient_eq_iff.1 h, roundQuotient_eq_iff.1 rfl⟩
  · rintro ⟨k, hm, hn⟩
    obtain ⟨k, rfl⟩ :=
      Int.eq_ofNat_of_zero_le (show 0 ≤ k by unfold RoundsTo at hm; omega)
    rw [roundQuotient_eq_iff.2 hm, roundQuotient_eq_iff.2 hn]

/-- To be blurred goes both ways. -/
theorem Blurred.symm {x y : Int} (h : Blurred x y) : Blurred y x := by
  unfold Blurred at *
  rw [max_comm, min_comm]
  exact ⟨h.1, h.2.imp_left fun hround => ⟨hround.1, hround.2.imp fun k hk => hk.symm⟩⟩

/-- Blurred integers are close to each other, and one of them is no signed word. -/
theorem Blurred.near {x y : Int} (h : Blurred x y) :
    wordMax < max x y ∧ |x - y| ≤ 2048 := by
  refine ⟨h.1, abs_le.2 ?_⟩
  obtain ⟨-, ⟨-, k, hx, hy⟩ | ⟨-, hlow, hhigh⟩⟩ := h
  · unfold RoundsTo at hx hy
    omega
  · omega

/-- Where the greater integer is no signed word, its double is the greater one unless
both are blurred. -/
theorem signedMagnitude_unsigned {x y : Int} (hx : IsWord x) (hy : IsWord y) (hle : x ≤ y)
    (hlarge : wordMax < y) :
    (Binary64.ofInt x).signedMagnitude ≤ (Binary64.ofInt y).signedMagnitude ∧
      ((Binary64.ofInt x).signedMagnitude = (Binary64.ofInt y).signedMagnitude ↔ x = y ∨
        Blurred x y) := by
  unfold IsWord wordMin unsignedMax at hx hy
  unfold Blurred
  rw [max_eq_right hle, min_eq_left hle]
  unfold wordMax at *
  obtain ⟨n, rfl⟩ := Int.eq_ofNat_of_zero_le (show 0 ≤ y by omega)
  have hn := Binary64.nearestMagnitude_unsigned (n := n) (by omega) (by omega)
  rw [Binary64.signedMagnitude_ofInt (by omega),
    Binary64.signedMagnitude_ofInt (by omega), if_neg (show ¬ (n : Int) < 0 by omega),
    Int.natAbs_natCast, hn]
  have hquotient := Binary64.le_roundQuotient n 2048
  rcases lt_or_ge x (2 ^ 62) with hsmall | hupper
  · have hbound : (if x < 0 then -(nearestMagnitude x.natAbs 1 : Int)
        else nearestMagnitude x.natAbs 1) ≤ 1085 * binade := by
      split
      · omega
      · have hless := Binary64.nearestMagnitude_mono (show x.natAbs ≤ 2 ^ 62 by omega)
        have hend : nearestMagnitude (2 ^ 62) 1 = 1085 * binade := by
          rw [Binary64.nearestMagnitude_upper (Nat.le_refl _) (by decide)]
          rfl
        omega
    unfold binade at *
    constructor <;> omega
  obtain ⟨m, rfl⟩ := Int.eq_ofNat_of_zero_le (show 0 ≤ x by omega)
  rw [if_neg (by omega), Int.natAbs_natCast]
  rcases Nat.lt_or_ge m (2 ^ 63) with hbelow | habove
  · rw [Binary64.nearestMagnitude_upper (by omega) hbelow]
    unfold roundQuotient binade
    dsimp only
    split_ifs <;> constructor <;> omega
  · rw [Binary64.nearestMagnitude_unsigned habove (by omega)]
    have hmono := Binary64.roundQuotient_mono (show m ≤ n by omega) 2048
    have hsame : roundQuotient m 2048 = roundQuotient n 2048 ↔
        ∃ k, RoundsTo m k ∧ RoundsTo n k :=
      roundQuotient_congr
    have hequal : m = n → roundQuotient m 2048 = roundQuotient n 2048 := fun h => h ▸ rfl
    have hlarge' : (2 : Int) ^ 63 - 1 < m := by omega
    constructor
    · omega
    · rw [← hsame]
      omega

/-- The doubles of two integers, one of them no signed word, stand as the integers do
unless these are blurred. -/
theorem signedMagnitude_order {x y : Int} (hx : IsWord x) (hy : IsWord y)
    (hlarge : wordMax < max x y) :
    ((Binary64.ofInt x).signedMagnitude = (Binary64.ofInt y).signedMagnitude ↔ x = y ∨
      Blurred x y) ∧
      ((Binary64.ofInt x).signedMagnitude < (Binary64.ofInt y).signedMagnitude ↔ x < y ∧
        ¬ Blurred x y) := by
  rcases le_total x y with hle | hle
  · rw [max_eq_right hle] at hlarge
    obtain ⟨hmono, hsame⟩ := signedMagnitude_unsigned hx hy hle hlarge
    refine ⟨hsame, ?_⟩
    rw [lt_iff_le_and_ne, and_iff_right hmono, Ne, hsame, not_or, ← Ne, lt_iff_le_and_ne,
      and_iff_right hle]
  · rw [max_eq_left hle] at hlarge
    obtain ⟨hmono, hsame⟩ := signedMagnitude_unsigned hy hx hle hlarge
    have hsymm : Blurred y x ↔ Blurred x y := ⟨Blurred.symm, Blurred.symm⟩
    refine ⟨by rw [eq_comm, hsame, eq_comm, hsymm], ?_⟩
    exact iff_of_false (not_lt.2 hmono) fun h => absurd h.1 (not_lt.2 hle)

/-- An integer that a document can hold is a signed word unless it is too great. -/
theorem word?_int {n : Int} (h : IsWord n) :
    word? (.int n) = if n ≤ wordMax then some n else none := by
  rw [word?]
  exact if_congr (and_iff_right h.1) rfl rfl

/-- Where one of two integers is no signed word, they are compared as doubles. -/
theorem compare_doubles {x y : Int} (hx : IsWord x) (hy : IsWord y)
    (hlarge : wordMax < max x y) :
    compare (.int x) (.int y) = (Binary64.ofInt x).compare (Binary64.ofInt y) ∧
      sameValue (.int x) (.int y) = (Binary64.ofInt x).sameValue (Binary64.ofInt y) := by
  unfold compare sameValue
  rw [word?_int hx, word?_int hy]
  rcases lt_max_iff.1 hlarge with hfirst | hsecond
  · rw [if_neg (not_le.2 hfirst)]
    exact ⟨rfl, rfl⟩
  · rw [if_neg (not_le.2 hsecond)]
    by_cases hfirst : x ≤ wordMax
    · rw [if_pos hfirst]
      exact ⟨rfl, rfl⟩
    · rw [if_neg hfirst]
      exact ⟨rfl, rfl⟩

/-- Two signed words are compared as they are. -/
theorem compare_words {x y : Int} (hx : IsWord x) (hy : IsWord y)
    (hwords : ¬ wordMax < max x y) :
    compare (.int x) (.int y) = Ord.compare x y ∧
    sameValue (.int x) (.int y) = (x == y) := by
  obtain ⟨hfirst, hsecond⟩ := max_le_iff.1 (not_lt.1 hwords)
  unfold compare sameValue
  rw [word?_int hx, word?_int hy, if_pos hfirst, if_pos hsecond]
  exact ⟨rfl, rfl⟩

/-- **Order of integers.**  Integers are in the order of their values, unless they are
blurred. -/
theorem compare_int {x y : Int} (hx : IsWord x) (hy : IsWord y) :
    (compare (.int x) (.int y) = .lt ↔ x < y ∧ ¬ Blurred x y) ∧
      (compare (.int x) (.int y) = .gt ↔ y < x ∧ ¬ Blurred x y) ∧
      (sameValue (.int x) (.int y) = true ↔ x = y ∨ Blurred x y) := by
  by_cases hlarge : wordMax < max x y
  · obtain ⟨hsame, hless⟩ := signedMagnitude_order hx hy hlarge
    obtain ⟨-, hgreater⟩ := signedMagnitude_order hy hx (max_comm x y ▸ hlarge)
    obtain ⟨hcompare, hvalue⟩ := compare_doubles hx hy hlarge
    rw [hcompare, hvalue, Binary64.compare, Binary64.sameValue, compare_lt_iff_lt,
      compare_gt_iff_gt, beq_iff_eq, hless, hgreater, hsame]
    exact ⟨Iff.rfl, and_congr_right' (not_congr ⟨Blurred.symm, Blurred.symm⟩), Iff.rfl⟩
  · obtain ⟨hcompare, hvalue⟩ := compare_words hx hy hlarge
    have hclear : ¬ Blurred x y := fun hblurred => hlarge hblurred.1
    rw [hcompare, hvalue, compare_lt_iff_lt, compare_gt_iff_gt, beq_iff_eq]
    exact ⟨(and_iff_left hclear).symm, (and_iff_left hclear).symm,
      (or_iff_left hclear).symm⟩

end Number

end Turnstile

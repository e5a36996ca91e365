import Mathlib
import Turnstile.Proofs.Condition.Lexeme

/-!
# Durations are exact

The text of a duration is first cut into amounts, whose digits may be of any script, and
the amounts are then added up in signed words.  Reading an amount, taking it times the
seconds of its unit and adding it to the total can each leave the words, and then there
is no duration.

* `Cut` says what a text is cut into, not how.  As no unit is a digit and none is given
  twice, the one cut there is gets found (`durationAmounts?_eq_some_iff`).
* One amount is added just when it is written in ASCII digits and the exact sum is a
  signed word (`addAmount?_eq_some_iff`).  Totals do not fall, so no step on the way to
  a word leaves the words (`addAmounts?_eq_some_iff`).

Hence the seconds are exact, and there are none only for a text of another form or a
total that is no signed word (`durationSeconds?_eq_some_iff`).
-/

set_option autoImplicit false

namespace Turnstile

/-! ## Digits -/

/-- Plain digits are decimal digits. -/
theorem Text.isDecimalDigit_of_isDigit {c : Char} (h : c.isDigit = true) :
    isDecimalDigit c = true := by
  have hrange : '0'.toNat ≤ c.toNat ∧ c.toNat ≤ '9'.toNat := Char.isDigit_iff_toNat.1 h
  have hascii : c.toNat < 0x80 := lt_of_le_of_lt hrange.2 (by decide)
  rw [isDecimalDigit, if_pos hascii]
  exact h

namespace Number

/-- Digits are worth what they are in base ten. -/
theorem digitsValue_eq_ofDigits (digits : List Char) :
    digitsValue digits =
      Nat.ofDigits 10 (digits.reverse.map fun c => c.toNat - '0'.toNat) := by
  induction digits using List.reverseRecOn with
  | nil => rfl
  | append_singleton digits c ih =>
      have hlast : digitsValue (digits ++ [c]) =
          digitsValue digits * 10 + (c.toNat - '0'.toNat) := by
        simp [digitsValue]
      rw [hlast, ih, List.reverse_append, List.reverse_singleton,
        List.singleton_append, List.map_cons, Nat.ofDigits_cons]
      omega

/-- A count is a signed word unless it is too great. -/
theorem word?_natCast_eq_some_iff {n : Nat} {m : Int} :
    (int n).word? = some m ↔ (n : Int) = m ∧ (n : Int) ≤ wordMax := by
  have hleast : wordMin ≤ (n : Int) := le_trans (by decide) (Int.natCast_nonneg n)
  rw [word?]
  by_cases hfits : (n : Int) ≤ wordMax
  · simp [hleast, hfits]
  · simp [hfits]

/-- A word without a sign is an integer if it has plain digits only. -/
theorem integerWord?_unsigned {c : Char} {rest : List Char} (hminus : c ≠ '-')
    (hplus : c ≠ '+') :
    integerWord? (c :: rest) =
      if (c :: rest).all Char.isDigit then (int (digitsValue (c :: rest))).word?
      else none := by
  rw [integerWord?]
  · cases (c :: rest).all Char.isDigit <;> rfl
  · intro more h
    exact hminus (List.cons.inj h).1
  · intro more h
    exact hplus (List.cons.inj h).1

/-- Of decimal digits of any script only those of ASCII are read; no sign stands among
them. -/
theorem integerWord?_digits_eq_some_iff {digits : List Char} {n : Int} (hne : digits ≠ [])
    (hdigits : ∀ c ∈ digits, Text.isDecimalDigit c = true) :
    integerWord? digits = some n ↔ (∀ c ∈ digits, c.isDigit = true) ∧
      (digitsValue digits : Int) = n ∧ (digitsValue digits : Int) ≤ wordMax := by
  obtain ⟨c, rest, rfl⟩ := List.exists_cons_of_ne_nil hne
  have hc : Text.isDecimalDigit c = true := hdigits c List.mem_cons_self
  have hsign : ∀ sign, Text.isDecimalDigit sign = false → c ≠ sign := by
    intro sign hnone h
    rw [← h, hc] at hnone
    cases hnone
  rw [integerWord?_unsigned (hsign '-' (by decide)) (hsign '+' (by decide)),
    ← List.all_eq_true]
  by_cases hplain : (c :: rest).all Char.isDigit = true
  · rw [if_pos hplain, word?_natCast_eq_some_iff, and_iff_right hplain]
  · rw [if_neg hplain]
    exact iff_of_false (by simp) fun h => hplain h.1

end Number

namespace Condition

namespace Duration

/-! ## Cutting a text into amounts -/

/-- Digits of any script. -/
def IsAmount (digits : List Char) : Prop :=
  digits ≠ [] ∧ ∀ c ∈ digits, Text.isDecimalDigit c = true

/-- What a text is cut into: each unit has an amount before it or is missing. -/
inductive Cut : List (Char × Nat) → List Char → List (List Char × Nat) → Prop
  | done : Cut [] [] []
  | missing {unit : Char} {seconds : Nat} {units : List (Char × Nat)} {text : List Char}
      {amounts : List (List Char × Nat)} (h : Cut units text amounts) :
      Cut ((unit, seconds) :: units) text amounts
  | amount {unit : Char} {seconds : Nat} {units : List (Char × Nat)}
      {digits rest : List Char} {amounts : List (List Char × Nat)}
      (hdigits : IsAmount digits) (h : Cut units rest amounts) :
      Cut ((unit, seconds) :: units) (digits ++ unit :: rest)
        ((digits, seconds) :: amounts)

/-- Units that can be told from digits and from each other, and that are worth
something. -/
structure Units (units : List (Char × Nat)) : Prop where
  distinct : (units.map Prod.fst).Nodup
  plain : ∀ unit ∈ units, Text.isDecimalDigit unit.1 = false
  positive : ∀ unit ∈ units, 0 < unit.2

/-- The units of durations are different letters, and not digits. -/
theorem units_durationUnits : Units durationUnits :=
  ⟨by decide, by decide, by decide⟩

variable {units : List (Char × Nat)} {unit : Char} {seconds : Nat}
  {text digits rest : List Char} {amounts : List (List Char × Nat)}

/-- The units after the first are units. -/
theorem Units.tail {unit : Char × Nat} (h : Units (unit :: units)) : Units units where
  distinct := (List.nodup_cons.1 h.distinct).2
  plain := fun unit hunit => h.plain unit (List.mem_cons_of_mem _ hunit)
  positive := fun unit hunit => h.positive unit (List.mem_cons_of_mem _ hunit)

/-- Without units only the empty text is cut. -/
theorem cut_nil_iff : Cut [] text amounts ↔ text = [] ∧ amounts = [] := by
  constructor
  · intro h
    cases h
    exact ⟨rfl, rfl⟩
  · rintro ⟨rfl, rfl⟩
    exact .done

/-- A text is cut with or without an amount of the first unit. -/
theorem cut_cons_iff :
    Cut ((unit, seconds) :: units) text amounts ↔
      Cut units text amounts ∨
        ∃ digits rest more, IsAmount digits ∧ text = digits ++ unit :: rest ∧
          amounts = (digits, seconds) :: more ∧ Cut units rest more := by
  constructor
  · intro h
    cases h with
    | missing h => exact .inl h
    | amount hdigits h => exact .inr ⟨_, _, _, hdigits, rfl, rfl, h⟩
  · rintro (h | ⟨digits, rest, more, hdigits, rfl, rfl, h⟩)
    · exact .missing h
    · exact .amount hdigits h

/-- Amounts and units can be told apart: digits end where something else stands. -/
theorem digits_append_cons_inj {c d : Char} {other more : List Char}
    (hdigits : ∀ c ∈ digits, Text.isDecimalDigit c = true)
    (hc : Text.isDecimalDigit c = false)
    (hother : ∀ c ∈ other, Text.isDecimalDigit c = true)
    (hd : Text.isDecimalDigit d = false) (h : digits ++ c :: rest = other ++ d :: more) :
    digits = other ∧ c = d ∧ rest = more := by
  obtain ⟨htake, hdrop⟩ :=
    @takeWhile_dropWhile (c :: rest) _ digits hdigits (by simpa using hc)
  obtain ⟨hfirst, hsecond⟩ :=
    @takeWhile_dropWhile (d :: more) _ other hother (by simpa using hd)
  rw [h] at htake hdrop
  have hsame : c :: rest = d :: more := hdrop.symm.trans hsecond
  exact ⟨htake.symm.trans hfirst, List.cons.inj hsame⟩

/-- The first character of a cut text that is no digit is one of the units. -/
theorem Cut.mem_units {c : Char} (hunits : Units units) (h : Cut units text amounts)
    (hdigits : ∀ d ∈ digits, Text.isDecimalDigit d = true)
    (hc : Text.isDecimalDigit c = false) (htext : text = digits ++ c :: rest) :
    c ∈ units.map Prod.fst := by
  induction h with
  | done => simp at htext
  | missing h ih => exact List.mem_cons_of_mem _ (ih hunits.tail htext)
  | @amount unit seconds units run behind amounts hrun h ih =>
      have hunit : Text.isDecimalDigit unit = false :=
        hunits.plain (unit, seconds) List.mem_cons_self
      have hsame : unit = c := (digits_append_cons_inj hrun.2 hunit hdigits hc htext).2.1
      rw [hsame]
      exact List.mem_cons_self

/-- An amount before the unit is taken. -/
theorem durationAmounts?_amount (hdigits : IsAmount digits)
    (hunit : Text.isDecimalDigit unit = false) :
    durationAmounts? ((unit, seconds) :: units) (digits ++ unit :: rest) =
      (durationAmounts? units rest).map ((digits, seconds) :: ·) := by
  obtain ⟨htake, hdrop⟩ :=
    @takeWhile_dropWhile (unit :: rest) _ digits hdigits.2 (by simpa using hunit)
  have hsome : digits.isEmpty = false := List.isEmpty_eq_false_iff.2 hdigits.1
  rw [durationAmounts?]
  simp [htake, hdrop, hsome]

/-- A unit without an amount before it is passed over. -/
theorem durationAmounts?_missing
    (h : ∀ digits rest, IsAmount digits → text ≠ digits ++ unit :: rest) :
    durationAmounts? ((unit, seconds) :: units) text = durationAmounts? units text := by
  rw [durationAmounts?]
  cases hdrop : text.dropWhile Text.isDecimalDigit with
  | nil => rfl
  | cons c rest =>
      have htext : text = text.takeWhile Text.isDecimalDigit ++ c :: rest := by
        rw [← hdrop, List.takeWhile_append_dropWhile]
      have hother : ¬ (c = unit ∧ !(text.takeWhile Text.isDecimalDigit).isEmpty) := by
        rintro ⟨rfl, hsome⟩
        refine h _ _ ⟨?_, fun d hd => List.mem_takeWhile_imp hd⟩ htext
        simpa using hsome
      exact if_neg hother

/-- **Cutting.**  A text is cut into amounts just as it can be cut. -/
theorem durationAmounts?_eq_some_iff (hunits : Units units) :
    durationAmounts? units text = some amounts ↔ Cut units text amounts := by
  induction units generalizing text amounts with
  | nil =>
      rw [durationAmounts?, cut_nil_iff]
      cases text <;> simp [eq_comm]
  | cons first units ih =>
      obtain ⟨unit, seconds⟩ := first
      have hunit : Text.isDecimalDigit unit = false :=
        hunits.plain (unit, seconds) List.mem_cons_self
      have hnew : unit ∉ units.map Prod.fst := (List.nodup_cons.1 hunits.distinct).1
      by_cases hamount : ∃ digits rest, IsAmount digits ∧ text = digits ++ unit :: rest
      · obtain ⟨digits, rest, hdigits, rfl⟩ := hamount
        rw [durationAmounts?_amount hdigits hunit, Option.map_eq_some_iff, cut_cons_iff]
        constructor
        · rintro ⟨more, hmore, rfl⟩
          exact .inr ⟨digits, rest, more, hdigits, rfl, rfl, (ih hunits.tail).1 hmore⟩
        · rintro (h | ⟨other, behind, more, hother, htext, rfl, h⟩)
          · -- the units behind cannot take over an amount of this one,
            -- as none of them is the same
            exact absurd (h.mem_units hunits.tail hdigits.2 hunit rfl) hnew
          · obtain ⟨rfl, -, rfl⟩ :=
              digits_append_cons_inj hdigits.2 hunit hother.2 hunit htext
            exact ⟨more, (ih hunits.tail).2 h, rfl⟩
      · have hmissing : ∀ digits rest, IsAmount digits →
            text ≠ digits ++ unit :: rest := by
          intro digits rest hdigits htext
          exact hamount ⟨digits, rest, hdigits, htext⟩
        rw [durationAmounts?_missing hmissing, ih hunits.tail, cut_cons_iff]
        constructor
        · exact .inl
        · rintro (h | ⟨digits, rest, more, hdigits, htext, -, -⟩)
          · exact h
          · exact absurd htext (hmissing digits rest hdigits)

/-- The amounts of a cut are digits of a unit that is worth something. -/
theorem Cut.amounts_valid (hunits : Units units) (h : Cut units text amounts) :
    ∀ amount ∈ amounts, IsAmount amount.1 ∧ 0 < amount.2 := by
  induction h with
  | done => simp
  | missing h ih => exact ih hunits.tail
  | @amount unit seconds units digits rest amounts hdigits h ih =>
      have hpositive : 0 < seconds := hunits.positive (unit, seconds) List.mem_cons_self
      exact List.forall_mem_cons.2 ⟨⟨hdigits, hpositive⟩, ih hunits.tail⟩

/-! ## Adding up amounts -/

/-- An amount in ASCII digits. -/
def IsPlain (digits : List Char) : Prop := ∀ c ∈ digits, c.isDigit = true

/-- The exact seconds of amounts. -/
def exactTotal (amounts : List (List Char × Nat)) : Nat :=
  (amounts.map fun amount => Number.digitsValue amount.1 * amount.2).sum

/-- The first amount is added to the others. -/
theorem exactTotal_cons (amount : List Char × Nat) :
    exactTotal (amount :: amounts) = Number.digitsValue amount.1 * amount.2 +
      exactTotal amounts := by
  simp [exactTotal]

variable {total : Nat} {result : Int}

/-- **One amount.**  It is added exactly, if it is written in ASCII and the sum is a
signed word. -/
theorem addAmount?_eq_some_iff {amount : List Char × Nat}
    (hamount : IsAmount amount.1 ∧ 0 < amount.2) :
    addAmount? total amount = some result ↔
      IsPlain amount.1 ∧ ((total + Number.digitsValue amount.1 * amount.2 : Nat) : Int) =
        result ∧
        ((total + Number.digitsValue amount.1 * amount.2 : Nat) : Int) ≤
          Number.wordMax := by
  obtain ⟨digits, seconds⟩ := amount
  obtain ⟨⟨hne, hdigits⟩, hpositive⟩ := hamount
  have hread : ∀ n, Number.integerWord? digits = some n ↔ IsPlain digits ∧
      (Number.digitsValue digits : Int) = n ∧
      (Number.digitsValue digits : Int) ≤ Number.wordMax :=
    fun n => Number.integerWord?_digits_eq_some_iff hne hdigits
  simp only [addAmount?, Option.bind_eq_bind, Option.bind_eq_some_iff]
  generalize Number.digitsValue digits = value at hread ⊢
  constructor
  · rintro ⟨n, hn, product, hproduct, hsum⟩
    obtain ⟨hplain, rfl, -⟩ := (hread n).1 hn
    rw [← Int.natCast_mul, Number.word?_natCast_eq_some_iff] at hproduct
    obtain ⟨rfl, -⟩ := hproduct
    rw [← Int.natCast_add, Number.word?_natCast_eq_some_iff] at hsum
    exact ⟨hplain, hsum⟩
  · rintro ⟨hplain, hresult, hfits⟩
    -- a sum that fits leaves room for the product, and as a unit is at least a second,
    -- for the amount itself
    have hgrows : value ≤ value * seconds := Nat.le_mul_of_pos_right value hpositive
    have hproduct :
        (Number.int (value * seconds)).word? = some ((value * seconds : Nat) : Int) := by
      rw [← Int.natCast_mul, Number.word?_natCast_eq_some_iff]
      exact ⟨rfl, by omega⟩
    have hsum : (Number.int (total + (value * seconds : Nat))).word? = some result := by
      rw [← Int.natCast_add, Number.word?_natCast_eq_some_iff]
      exact ⟨hresult, hfits⟩
    exact ⟨value, (hread value).2 ⟨hplain, rfl, by omega⟩, _, hproduct, hsum⟩

/-- **All amounts.**  They are added exactly, if all of them are written in ASCII and
their sum is a signed word. -/
theorem addAmounts?_eq_some_iff
    (hamounts : ∀ amount ∈ amounts, IsAmount amount.1 ∧ 0 < amount.2)
    (htotal : (total : Int) ≤ Number.wordMax) :
    amounts.foldlM addAmount? (total : Int) = some result ↔
      (∀ amount ∈ amounts, IsPlain amount.1) ∧
        ((total + exactTotal amounts : Nat) : Int) = result ∧
        ((total + exactTotal amounts : Nat) : Int) ≤ Number.wordMax := by
  induction amounts generalizing total with
  | nil => simpa [exactTotal] using fun _ => htotal
  | cons amount rest ih =>
      obtain ⟨hamount, hrest⟩ := List.forall_mem_cons.1 hamounts
      rw [List.foldlM_cons, Option.bind_eq_bind, Option.bind_eq_some_iff,
        List.forall_mem_cons, exactTotal_cons, ← Nat.add_assoc]
      constructor
      · rintro ⟨middle, hfirst, hmore⟩
        obtain ⟨hplain, rfl, hfits⟩ := (addAmount?_eq_some_iff hamount).1 hfirst
        obtain ⟨hothers, hresult, hsum⟩ := (ih hrest hfits).1 hmore
        exact ⟨⟨hplain, hothers⟩, hresult, hsum⟩
      · rintro ⟨⟨hplain, hothers⟩, hresult, hsum⟩
        -- totals do not fall, so what fits in the end fits here
        have hfits : ((total + Number.digitsValue amount.1 * amount.2 : Nat) : Int) ≤
            Number.wordMax := by
          omega
        exact ⟨_, (addAmount?_eq_some_iff hamount).2 ⟨hplain, rfl, hfits⟩,
          (ih hrest hfits).2 ⟨hothers, hresult, hsum⟩⟩

/-- The amounts are added up just when their digits are plain and the total fits a
signed word. -/
theorem Cut.total_eq_some_iff (hunits : Units units) (h : Cut units text amounts) :
    amounts.foldlM addAmount? 0 = some result ↔
      (∀ amount ∈ amounts, IsPlain amount.1) ∧ (exactTotal amounts : Int) = result ∧
        (exactTotal amounts : Int) ≤ Number.wordMax := by
  have hzero : ((0 : Nat) : Int) ≤ Number.wordMax := by decide
  rw [← Nat.zero_add (exactTotal amounts)]
  exact addAmounts?_eq_some_iff (h.amounts_valid hunits) hzero

/-! ## Written durations -/

/-- `AmountOf unit text n`: the text is ASCII digits with the number `n` before the
unit, or there is no text and the number is zero. -/
inductive AmountOf (unit : Char) : List Char → Nat → Prop
  | missing : AmountOf unit [] 0
  | written {digits : List Char} (hne : digits ≠ [])
      (hdigits : ∀ c ∈ digits, c.isDigit = true) :
      AmountOf unit (digits ++ [unit])
        (Nat.ofDigits 10 (digits.reverse.map fun c => c.toNat - '0'.toNat))

/-- A text of amounts in ASCII, each with one of the units in their order, that come to
`n` seconds. -/
def ComesTo (units : List (Char × Nat)) (text : List Char) (n : Nat) : Prop :=
  ∃ amounts, Cut units text amounts ∧ (∀ amount ∈ amounts, IsPlain amount.1) ∧
    exactTotal amounts = n

/-- Without units only the empty text comes to something, which is nothing. -/
theorem comesTo_nil_iff {n : Nat} : ComesTo [] text n ↔ text = [] ∧ n = 0 := by
  constructor
  · rintro ⟨amounts, hcut, -, rfl⟩
    obtain ⟨rfl, rfl⟩ := cut_nil_iff.1 hcut
    exact ⟨rfl, rfl⟩
  · rintro ⟨rfl, rfl⟩
    exact ⟨[], .done, by simp, rfl⟩

/-- A text comes to an amount of the first unit and to what the rest comes to. -/
theorem comesTo_cons_iff {n : Nat} :
    ComesTo ((unit, seconds) :: units) text n ↔ ∃ first rest amount more,
      text = first ++ rest ∧ AmountOf unit first amount ∧ ComesTo units rest more ∧
        n = amount * seconds + more := by
  constructor
  · rintro ⟨amounts, hcut, hplain, rfl⟩
    rcases cut_cons_iff.1 hcut
      with hbehind | ⟨digits, rest, more, ⟨hne, -⟩, rfl, rfl, hbehind⟩
    · exact ⟨[], text, 0, _, rfl, .missing, ⟨amounts, hbehind, hplain, rfl⟩, by simp⟩
    · obtain ⟨hdigits, hothers⟩ := List.forall_mem_cons.1 hplain
      have hmore : ComesTo units rest (exactTotal more) := ⟨more, hbehind, hothers, rfl⟩
      refine ⟨digits ++ [unit], rest, _, _, by simp, .written hne hdigits, hmore, ?_⟩
      rw [exactTotal_cons, Number.digitsValue_eq_ofDigits]
  · rintro ⟨first, rest, amount, more, rfl, hamount, ⟨amounts, hcut, hplain, rfl⟩, rfl⟩
    cases hamount with
    | missing => exact ⟨amounts, .missing hcut, hplain, by simp⟩
    | @written digits hne hdigits =>
        have hrun : IsAmount digits :=
          ⟨hne, fun c hc => Text.isDecimalDigit_of_isDigit (hdigits c hc)⟩
        refine ⟨(digits, seconds) :: amounts, ?_,
          List.forall_mem_cons.2 ⟨hdigits, hplain⟩, ?_⟩
        · rw [List.append_assoc]
          exact .amount hrun hcut
        · rw [exactTotal_cons, Number.digitsValue_eq_ofDigits]

end Duration

open Duration

/-- A duration is a written one that does not leave the signed words. -/
theorem durationSeconds?_eq_some_iff_comesTo {s : List Char} {n : Nat} :
    durationSeconds? s = some n ↔ s ≠ [] ∧ ComesTo durationUnits s n ∧
    (n : Int) ≤ Number.wordMax := by
  by_cases hempty : s = []
  · simp [durationSeconds?, hempty]
  rw [durationSeconds?, if_neg (by simpa using hempty)]
  simp only [Option.bind_eq_bind, Option.bind_eq_some_iff, Option.pure_def,
    Option.some.injEq, durationAmounts?_eq_some_iff units_durationUnits]
  constructor
  · rintro ⟨amounts, hcut, result, hresult, rfl⟩
    obtain ⟨hplain, rfl, hfits⟩ := (hcut.total_eq_some_iff units_durationUnits).1 hresult
    exact ⟨hempty, ⟨amounts, hcut, hplain, rfl⟩, hfits⟩
  · rintro ⟨-, ⟨amounts, hcut, hplain, rfl⟩, hfits⟩
    exact ⟨amounts, hcut, _,
      (hcut.total_eq_some_iff units_durationUnits).2 ⟨hplain, rfl, hfits⟩, rfl⟩

/-- **Durations.**  A text has seconds just when it is not empty, is made of ASCII
digits before a `d`, an `h`, an `m` and an `s`, in this order and each at most once, and
comes to no more than a signed word holds; they are then the exact total. -/
theorem durationSeconds?_eq_some_iff (s : List Char) (n : Nat) :
    durationSeconds? s = some n ↔
      s ≠ [] ∧ ∃ days hours minutes seconds : List Char, ∃ d h m r : Nat,
        s = days ++ hours ++ minutes ++ seconds ∧
        AmountOf 'd' days d ∧ AmountOf 'h' hours h ∧ AmountOf 'm' minutes m ∧
        AmountOf 's' seconds r ∧
        n = 86400 * d + 3600 * h + 60 * m + r ∧ n ≤ 2 ^ 63 - 1 := by
  have hmax : (n : Int) ≤ Number.wordMax ↔ n ≤ 2 ^ 63 - 1 := by
    rw [Number.wordMax]
    omega
  rw [durationSeconds?_eq_some_iff_comesTo, hmax, durationUnits]
  simp only [comesTo_cons_iff, comesTo_nil_iff]
  constructor
  · rintro ⟨hne,
      ⟨days, _, d, _, rfl, hd, ⟨hours, _, h, _, rfl, hh, ⟨minutes, _, m, _, rfl, hm,
        ⟨seconds, _, r, _, rfl, hr, ⟨rfl, rfl⟩, rfl⟩, rfl⟩, rfl⟩, hn⟩, hfits⟩
    exact ⟨hne, days, hours, minutes, seconds, d, h, m, r, by simp, hd, hh, hm, hr,
      by omega, hfits⟩
  · rintro ⟨hne, days, hours, minutes, seconds, d, h, m, r, hs, hd, hh, hm, hr, hn, hfits⟩
    exact ⟨hne,
      ⟨days, _, d, _, by simpa using hs, hd,
        ⟨hours, _, h, _, rfl, hh, ⟨minutes, _, m, _, rfl,
          hm, ⟨seconds, _, r, _, rfl, hr, ⟨rfl, rfl⟩, rfl⟩, rfl⟩, rfl⟩, by omega⟩, hfits⟩

/-- The longest duration in days, hours, minutes and seconds, with a zero in front, and
one second more. -/
example : durationSeconds? "0106751991167300d15h30m7s".toList = some (2 ^ 63 - 1) ∧
    durationSeconds? "0106751991167300d15h30m8s".toList = none := by
  decide

end Condition

end Turnstile

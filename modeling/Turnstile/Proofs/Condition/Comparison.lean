import Mathlib
import Turnstile.Condition.Evaluation
import Turnstile.Proofs.Number.Rounding
import Turnstile.Proofs.Value.Reordering

/-!
# Equality and order of integers

Equality of documents goes from the leaves upward (`Value.sameBy_iff`): documents are
equal when they have one shape (`Value.Alike`), with numbers at its leaves that are
taken for equal.  Fields are looked up by their keys, but keys are in order and no key
stands twice, so it comes to the same to go through both objects side by side
(`Dictionary.found_iff_forall₂`).

With `Number.compare_int` this settles what conditions say of integers.  Signed words
are told apart everywhere.  Beyond them equality holds of integers that are blurred, and
order of none that are.
-/

set_option autoImplicit false

namespace Turnstile

/-! ## Dictionaries side by side -/

namespace Dictionary

variable {α : Type} {d e : Dictionary α} {R : α → α → Prop}

/-- A dictionary that has all keys of another one of the same length has no more. -/
theorem Sorted.keys_eq (hd : d.Sorted) (he : e.Sorted) (hlength : d.length = e.length)
    (hkeys : d.keys ⊆ e.keys) : d.keys = e.keys := by
  have hperm : d.keys.Perm e.keys := by
    refine (List.subperm_of_subset hd.nodup hkeys).perm_of_length_le ?_
    rw [keys, keys, List.length_map, List.length_map, hlength]
  refine hperm.eq_of_pairwise ?_ hd he
  intro a b _ _ hab hba
  exact absurd (lt_trans hab hba) (lt_irrefl _)

/-- With the same keys, looking up each entry of one dictionary in the other goes
through both side by side. -/
theorem found_iff_forall₂ (hkeys : d.keys = e.keys) (hnodup : d.keys.Nodup) :
    (∀ entry ∈ d, ∃ value, find? e entry.1 = some value ∧ R entry.2 value) ↔
      List.Forall₂ R (d.map Prod.snd) (e.map Prod.snd) := by
  induction d generalizing e with
  | nil =>
      obtain rfl : e = [] := List.map_eq_nil_iff.1 hkeys.symm
      simp
  | cons entry rest ih =>
      cases e with
      | nil => cases hkeys
      | cons other more =>
          obtain ⟨hkey, hmore⟩ := List.cons_eq_cons.1 hkeys
          obtain ⟨hnew, hrest⟩ := List.nodup_cons.1 hnodup
          have hlater :
              ∀ later ∈ rest, find? (other :: more) later.1 = find? more later.1 := by
            intro later hin
            have hdiffer : later.1 ≠ other.1 := by
              rintro hsame
              exact hnew (hkey.trans hsame.symm ▸ List.mem_map_of_mem hin)
            exact if_neg hdiffer
          rw [List.forall_mem_cons, List.map_cons, List.map_cons, List.forall₂_cons,
            ← ih hmore hrest]
          refine and_congr ?_ (forall₂_congr fun later hin => by rw [hlater later hin])
          rw [show find? (other :: more) entry.1 = some other.2 from if_pos hkey]
          simp

end Dictionary

namespace Value

/-! ## Documents of one shape -/

/-- Two documents of one shape, whose integers stand in a relation. -/
inductive Alike (near : Int → Int → Prop) : Value → Value → Prop where
  | null : Alike near .null .null
  | bool (b : Bool) : Alike near (.bool b) (.bool b)
  | int {x y : Int} (h : near x y) : Alike near (.num (.int x)) (.num (.int y))
  | str (s : String) : Alike near (.str s) (.str s)
  | arr {as bs : List Value} (h : List.Forall₂ (Alike near) as bs) :
      Alike near (.arr as) (.arr bs)
  | obj {as bs : List (String × Value)} (hkeys : as.map Prod.fst = bs.map Prod.fst)
      (h : List.Forall₂ (Alike near) (as.map Prod.snd) (bs.map Prod.snd)) :
      Alike near (.obj as) (.obj bs)

/-- Every number of the document is an integer with a property. -/
inductive Integral (fits : Int → Prop) : Value → Prop where
  | null : Integral fits .null
  | bool (b : Bool) : Integral fits (.bool b)
  | int {n : Int} (h : fits n) : Integral fits (.num (.int n))
  | str (s : String) : Integral fits (.str s)
  | arr {items : List Value} (h : ∀ item ∈ items, Integral fits item) :
      Integral fits (.arr items)
  | obj {fields : List (String × Value)} (h : ∀ field ∈ fields, Integral fits field.2) :
      Integral fits (.obj fields)

variable {near : Int → Int → Prop} {fits : Int → Prop}
  {numbers : Number → Number → Bool} {a b : Value}

/-! ## Equality over the leaves -/

/-- Lists are the same item by item. -/
theorem sameItems_iff {as bs : List Value} : sameItems numbers as bs = true ↔
    List.Forall₂ (fun a b => sameBy numbers a b = true) as bs := by
  induction as generalizing bs with
  | nil => cases bs <;> simp [sameItems]
  | cons a as ih => cases bs <;> simp [sameItems, ih]

/-- Fields are the same when each is found in the other object with the same value. -/
theorem sameFields_iff {fields : List (String × Value)} {other : Fields} :
    sameFields numbers fields other = true ↔ ∀ field ∈ fields, ∃ value,
      Dictionary.find? other field.1 = some value ∧
      sameBy numbers field.2 value = true := by
  induction fields with
  | nil => simp [sameFields]
  | cons field rest ih =>
      obtain ⟨key, held⟩ := field
      rw [sameFields, Bool.and_eq_true, ih, List.forall_mem_cons]
      refine and_congr_left' ?_
      cases Dictionary.find? other key <;> simp

/-- Sorted objects are the same with the same keys and, in their order, the same values.
-/
theorem sameBy_obj_iff {as bs : Fields} (ha : Dictionary.Sorted as)
    (hb : Dictionary.Sorted bs) :
    sameBy numbers (.obj as) (.obj bs) = true ↔ as.map Prod.fst = bs.map Prod.fst ∧
      List.Forall₂ (fun a b => sameBy numbers a b = true) (as.map Prod.snd)
        (bs.map Prod.snd) := by
  rw [sameBy, Bool.and_eq_true, beq_iff_eq, sameFields_iff]
  constructor
  · rintro ⟨hlength, hfound⟩
    have hkeys : Dictionary.keys as = Dictionary.keys bs := by
      refine ha.keys_eq hb hlength fun key hkey => ?_
      obtain ⟨entry, hentry, rfl⟩ := List.mem_map.1 hkey
      obtain ⟨value, hvalue, -⟩ := hfound entry hentry
      exact List.mem_map.2 ⟨(entry.1, value), Dictionary.mem_of_find? hvalue, rfl⟩
    exact ⟨hkeys, (Dictionary.found_iff_forall₂ hkeys ha.nodup).1 hfound⟩
  · rintro ⟨hkeys, hvalues⟩
    refine ⟨by simpa using congrArg List.length hkeys, ?_⟩
    exact (Dictionary.found_iff_forall₂ hkeys ha.nodup).2 hvalues

/-- The items of a sorted list are sorted. -/
theorem Sorted.of_mem_arr {items : List Value} {item : Value}
    (h : (Value.arr items).Sorted) (hitem : item ∈ items) : item.Sorted := by
  rw [Sorted] at h
  induction items with
  | nil => cases hitem
  | cons first rest ih =>
      rw [SortedItems] at h
      rcases List.mem_cons.1 hitem with rfl | hrest
      · exact h.1
      · exact ih h.2 hrest

/-- The values of a sorted object are sorted. -/
theorem Sorted.of_mem_obj {fields : List (String × Value)} {field : String × Value}
    (h : (Value.obj fields).Sorted) (hfield : field ∈ fields) : field.2.Sorted :=
  h.of_find? ((sorted_obj_iff.1 h).1.find?_of_mem hfield)

/-- Lists agree in one relation as they do in another one if it is the same for their
members. -/
theorem forall₂_congr_mem {R S : Value → Value → Prop} {as bs : List Value}
    (h : ∀ a ∈ as, ∀ b ∈ bs, (R a b ↔ S a b)) :
    List.Forall₂ R as bs ↔ List.Forall₂ S as bs := by
  induction as generalizing bs with
  | nil => simp
  | cons a as ih =>
      cases bs with
      | nil => simp
      | cons b bs =>
          rw [List.forall₂_cons, List.forall₂_cons,
            h a List.mem_cons_self b List.mem_cons_self]
          refine and_congr_right' (ih fun a ha b hb => ?_)
          exact h a (List.mem_cons_of_mem _ ha) b (List.mem_cons_of_mem _ hb)

/-- **Equality of documents.**  Documents of integers are equal when they have one
shape, and at each leaf integers that are taken for equal. -/
theorem sameBy_iff
    (hnumbers : ∀ x y, fits x → fits y → (numbers (.int x) (.int y) = true ↔ near x y))
    (hsorted : a.Sorted) (hother : b.Sorted) (ha : a.Integral fits)
    (hb : b.Integral fits) :
    sameBy numbers a b = true ↔ Alike near a b := by
  induction ha generalizing b with
  | null =>
      cases hb with
      | null => exact iff_of_true rfl .null
      | _ => exact iff_of_false (by simp [sameBy]) (by rintro ⟨⟩)
  | bool x =>
      cases hb with
      | bool y =>
          rw [sameBy, beq_iff_eq]
          exact ⟨fun h => h ▸ .bool x, by rintro ⟨⟩; rfl⟩
      | _ => exact iff_of_false (by simp [sameBy]) (by rintro ⟨⟩)
  | int hx =>
      cases hb with
      | int hy =>
          rw [sameBy, hnumbers _ _ hx hy]
          exact ⟨.int, by rintro ⟨⟩; assumption⟩
      | _ => exact iff_of_false (by simp [sameBy]) (by rintro ⟨⟩)
  | str s =>
      cases hb with
      | str t =>
          rw [sameBy, beq_iff_eq]
          exact ⟨fun h => h ▸ .str s, by rintro ⟨⟩; rfl⟩
      | _ => exact iff_of_false (by simp [sameBy]) (by rintro ⟨⟩)
  | @arr as _ ih =>
      cases hb with
      | @arr bs hbs =>
          have hitems := forall₂_congr_mem fun a hin b hin' =>
            ih a hin (hsorted.of_mem_arr hin) (hother.of_mem_arr hin') (hbs b hin')
          rw [sameBy, sameItems_iff, hitems]
          exact ⟨.arr, by rintro ⟨⟩; assumption⟩
      | _ => exact iff_of_false (by simp [sameBy]) (by rintro ⟨⟩)
  | @obj as _ ih =>
      cases hb with
      | @obj bs hbs =>
          have hvalues :
              List.Forall₂ (fun a b => sameBy numbers a b = true) (as.map Prod.snd)
                (bs.map Prod.snd) ↔
                List.Forall₂ (Alike near) (as.map Prod.snd) (bs.map Prod.snd) := by
            refine forall₂_congr_mem fun a hin b hin' => ?_
            obtain ⟨field, hfield, rfl⟩ := List.mem_map.1 hin
            obtain ⟨other, hfound, rfl⟩ := List.mem_map.1 hin'
            exact ih field hfield (hsorted.of_mem_obj hfield) (hother.of_mem_obj hfound)
              (hbs other hfound)
          rw [sameBy_obj_iff (sorted_obj_iff.1 hsorted).1
            (sorted_obj_iff.1 hother).1, hvalues]
          exact ⟨fun h => .obj h.1 h.2, by rintro ⟨⟩; constructor <;> assumption⟩
      | _ => exact iff_of_false (by simp [sameBy]) (by rintro ⟨⟩)

/-- A document of integers has its own shape. -/
theorem Integral.alike (ha : a.Integral fits) (hnear : ∀ n, near n n) :
    Alike near a a := by
  induction ha with
  | null => exact .null
  | bool x => exact .bool x
  | int _ => exact .int (hnear _)
  | str s => exact .str s
  | arr _ ih => exact .arr (List.forall₂_same.2 ih)
  | obj _ ih =>
      refine .obj rfl (List.forall₂_same.2 fun value hvalue => ?_)
      obtain ⟨field, hfield, rfl⟩ := List.mem_map.1 hvalue
      exact ih field hfield

/-- Lists are equal when what is related in them is. -/
theorem eq_of_forall₂ {R : Value → Value → Prop} {as bs : List Value}
    (h : List.Forall₂ R as bs) (hsame : ∀ a ∈ as, ∀ b, R a b → a = b) : as = bs := by
  induction h with
  | nil => rfl
  | @cons a b as bs hab _ ih =>
      rw [hsame a List.mem_cons_self b hab,
        ih fun a ha => hsame a (List.mem_cons_of_mem _ ha)]

/-- Documents of one shape with the same integers at the leaves are the same. -/
theorem Integral.eq_of_alike (ha : a.Integral fits) (h : Alike (fun x y => x = y) a b) :
    a = b := by
  induction ha generalizing b with
  | null => cases h; rfl
  | bool x => cases h; rfl
  | int _ =>
      cases h with
      | int h => rw [h]
  | str s => cases h; rfl
  | arr _ ih =>
      cases h with
      | arr h => rw [eq_of_forall₂ h fun item hitem other => ih item hitem]
  | obj _ ih =>
      cases h with
      | obj hkeys h =>
          have hvalues := eq_of_forall₂ h fun value hvalue other hother => by
            obtain ⟨field, hfield, rfl⟩ := List.mem_map.1 hvalue
            exact ih field hfield hother
          rw [List.zip_of_prod hkeys hvalues, ← List.zip_of_prod rfl rfl]

/-- **Exact equality.**  Where integers are taken for equal only if they are, so are
documents. -/
theorem sameBy_iff_eq
    (hnumbers : ∀ x y, fits x → fits y → (numbers (.int x) (.int y) = true ↔ x = y))
    (hsorted : a.Sorted) (hother : b.Sorted) (ha : a.Integral fits)
    (hb : b.Integral fits) :
    sameBy numbers a b = true ↔ a = b := by
  rw [sameBy_iff hnumbers hsorted hother ha hb]
  exact ⟨ha.eq_of_alike, fun h => h ▸ ha.alike fun _ => rfl⟩

end Value

/-! ## Conditions on integers -/

namespace Number

/-- The signed words. -/
def IsSigned (n : Int) : Prop := wordMin ≤ n ∧ n ≤ wordMax

/-- Signed words are compared exactly. -/
theorem sameValue_signed {x y : Int} (hx : IsSigned x) (hy : IsSigned y) :
    sameValue (.int x) (.int y) = true ↔ x = y := by
  have hfits : ∀ n, IsSigned n → IsWord n := fun n hn => ⟨hn.1, hn.2.trans (by decide)⟩
  rw [(compare_words (hfits x hx) (hfits y hy) (not_lt.2 (max_le hx.2 hy.2))).2,
    beq_iff_eq]

end Number

namespace Condition

open Number (IsWord IsSigned Blurred)

variable {x y : Int}

/-- Of the three ways that integers stand to each other one is the case, also when some
pairs count as equal. -/
theorem count_comparisons {same less greater : Bool} {blurred : Prop}
    (hsame : same = true ↔ x = y ∨ blurred) (hless : less = true ↔ x < y ∧ ¬ blurred)
    (hgreater : greater = true ↔ y < x ∧ ¬ blurred) :
    [same, less, greater].count true = 1 := by
  grind

/-- What the three comparisons answer on two integers. -/
theorem step_comparisons (hx : IsWord x) (hy : IsWord y) (scope : Scope)
    (rest : List Value) :
    ∃ same less greater,
      Instr.equal.step scope (.int y :: .int x :: rest) = .ok (.bool same :: rest) ∧
      Instr.less.step scope (.int y :: .int x :: rest) = .ok (.bool less :: rest) ∧
      Instr.greater.step scope (.int y :: .int x :: rest) = .ok (.bool greater :: rest) ∧
      (same = true ↔ x = y ∨ Blurred x y) ∧ (less = true ↔ x < y ∧ ¬ Blurred x y) ∧
      (greater = true ↔ y < x ∧ ¬ Blurred x y) ∧
      [same, less, greater].count true = 1 := by
  obtain ⟨hless, hgreater, hsame⟩ := Number.compare_int hx hy
  rw [← beq_iff_eq] at hless hgreater
  exact ⟨_, _, _, rfl, rfl, rfl, hsame, hless, hgreater,
    count_comparisons hsame hless hgreater⟩

/-- **Comparison of integers.**  Two documents of integers are equal just when they have
one shape with integers at the leaves that are the same or blurred.  So a document is
equal to itself, and if all integers are signed words to no other one.  Of two integers
the order is that of their values unless they are blurred, and then they are equal:
exactly one of the three comparisons holds.  Integers that are blurred are at most 2048
apart, and one of them is beyond the signed words. -/
theorem comparison_of_integers {a b : Value} (hsorted : a.Sorted) (hother : b.Sorted)
    (ha : a.Integral IsWord) (hb : b.Integral IsWord) (hx : IsWord x) (hy : IsWord y)
    (scope : Scope) (rest : List Value) :
    (a.equal b = true ↔ Value.Alike (fun m n => m = n ∨ Blurred m n) a b) ∧
      (a = b → a.equal b = true) ∧
      (a.Integral IsSigned → b.Integral IsSigned → (a.equal b = true ↔ a = b)) ∧
      (∃ same less greater,
        Instr.equal.step scope (.int y :: .int x :: rest) = .ok (.bool same :: rest) ∧
        Instr.less.step scope (.int y :: .int x :: rest) = .ok (.bool less :: rest) ∧
        Instr.greater.step scope (.int y :: .int x :: rest) =
          .ok (.bool greater :: rest) ∧
        (same = true ↔ x = y ∨ Blurred x y) ∧ (less = true ↔ x < y ∧ ¬ Blurred x y) ∧
        (greater = true ↔ y < x ∧ ¬ Blurred x y) ∧ [same, less, greater].count true = 1) ∧
      (Blurred x y → Number.wordMax < max x y ∧ |x - y| ≤ 2048) := by
  have hequal : a.equal b = true ↔ Value.Alike (fun m n => m = n ∨ Blurred m n) a b :=
    Value.sameBy_iff (fun m n hm hn => (Number.compare_int hm hn).2.2)
      hsorted hother ha hb
  refine ⟨hequal, ?_, ?_, step_comparisons hx hy scope rest, Blurred.near⟩
  · rintro rfl
    exact hequal.2 (ha.alike fun _ => .inl rfl)
  · intro hsigned hothers
    exact Value.sameBy_iff_eq (fun m n hm hn => Number.sameValue_signed hm hn) hsorted
      hother hsigned hothers

/-- The records of two accounts are equal although the ids differ, since both ids are
rounded to `2 ^ 64`. -/
theorem comparison_of_integers_accounts :
    let x : Int := 0xfffffffffffffffe
    let y : Int := 0xffffffffffffffff
    let a : Value :=
      .obj [("id", .int x), ("limits", .arr [.int 0x7fffffffffffffff, .null])]
    let b : Value :=
      .obj [("id", .int y), ("limits", .arr [.int 0x7fffffffffffffff, .null])]
    let scope : Scope :=
      ⟨fun _ => .null, fun words _ _ => .error (.unknownProperty words)⟩
    a.Sorted ∧ b.Sorted ∧ a.Integral IsWord ∧ b.Integral IsWord ∧ IsWord x ∧ IsWord y ∧
      a ≠ b ∧ a.equal b = true ∧ Blurred x y ∧ |x - y| ≤ 2048 ∧
      Instr.equal.step scope [.int y, .int x] = .ok [.bool true] ∧
      Instr.less.step scope [.int y, .int x] = .ok [.bool false] ∧
      Instr.greater.step scope [.int y, .int x] = .ok [.bool false] := by
  intro x y a b scope
  have hx : IsWord x := by decide
  have hy : IsWord y := by decide
  have hblurred : Blurred x y := by
    refine ⟨by decide, .inl ⟨by decide, 0x20000000000000, ?_, ?_⟩⟩ <;> decide
  have hkeys : "id" < "limits" := by decide
  have hsorted : a.Sorted := by
    simpa [a, Value.Sorted, Value.SortedFields, Value.SortedItems, Value.int] using hkeys
  have hother : b.Sorted := by
    simpa [b, Value.Sorted, Value.SortedFields, Value.SortedItems, Value.int] using hkeys
  have hrecord : ∀ id, IsWord id → Value.Integral IsWord
      (.obj [("id", .int id), ("limits", .arr [.int 0x7fffffffffffffff, .null])]) := by
    intro id hid
    have hlimits : Value.Integral IsWord (.arr [.int 0x7fffffffffffffff, .null]) := by
      refine .arr fun item hitem => ?_
      simp only [List.mem_cons, List.not_mem_nil, or_false] at hitem
      rcases hitem with rfl | rfl
      · exact .int (by decide)
      · exact .null
    refine .obj fun field hfield => ?_
    simp only [List.mem_cons, List.not_mem_nil, or_false] at hfield
    rcases hfield with rfl | rfl
    · exact .int hid
    · exact hlimits
  obtain ⟨hequal, -, -, hsteps, hnear⟩ :=
    comparison_of_integers hsorted hother (hrecord x hx) (hrecord y hy) hx hy scope []
  obtain ⟨same, less, greater, hsame, hless, hgreater, hequals, hbelow, habove, -⟩ :=
    hsteps
  refine ⟨hsorted, hother, hrecord x hx, hrecord y hy, hx, hy, ?_, hequal.2 ?_, hblurred,
    (hnear hblurred).2, ?_, ?_, ?_⟩
  · simp [a, b, x, y, Value.int]
  · refine .obj rfl (.cons (.int (.inr hblurred)) (.cons (.arr ?_) .nil))
    exact .cons (.int (.inl rfl)) (.cons .null .nil)
  · rw [hsame, hequals.2 (.inr hblurred)]
  · rw [hless, Bool.eq_false_iff.2 fun h => (hbelow.1 h).2 hblurred]
  · rw [hgreater, Bool.eq_false_iff.2 fun h => (habove.1 h).2 hblurred]

/-- The greatest two unsigned words are equal, and the lesser is not less. -/
theorem comparison_of_integers_blurred :
    let scope : Scope :=
      ⟨fun _ => .null, fun words _ _ => .error (.unknownProperty words)⟩
    Value.int 0xfffffffffffffffe ≠ Value.int 0xffffffffffffffff ∧
      (Value.int 0xfffffffffffffffe).equal (.int 0xffffffffffffffff) = true ∧
      (Instr.less.step scope
        [.int 0xffffffffffffffff, .int 0xfffffffffffffffe]).toOption =
        some [.bool false] := by
  intro scope
  exact ⟨by simp [Value.int], by decide +kernel, rfl⟩

end Condition

end Turnstile

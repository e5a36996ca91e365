import Mathlib
import Turnstile.Flow.Blueprint

/-!
# Reports

A check of a whole machine reports a kind of mistake place by place: once for each place
at which something is wrong, and in the order of the places (`Reports`).  Reports are
made of the empty one, of one violation and of longer ones behind each other; the lists
that a check makes are reports by the way they are made, of the elements that fail a
test (`Reports.filter_map`), of what is wrong with each element (`Reports.flatMap`), or
of the names that stood before (`Reports.repeated`).
-/

set_option autoImplicit false

namespace Turnstile

/-- The violations are found place by place: one for each place at which something is
wrong, in the order of the places. -/
def Reports {ι : Type} [LT ι] (wrong : ι → Violation → Prop)
    (found : List Violation) : Prop :=
  ∃ places : List (ι × Violation), places.Pairwise (fun a b => a.1 < b.1) ∧
    (∀ place violation, (place, violation) ∈ places ↔ wrong place violation) ∧
    found = places.map Prod.snd

namespace Reports

variable {ι κ : Type} [LT ι] [LT κ] {wrong other : ι → Violation → Prop}
  {found more : List Violation}

/-- Nothing is found exactly if nothing is wrong at any place. -/
theorem eq_nil_iff (h : Reports wrong found) :
    found = [] ↔ ∀ place violation, ¬ wrong place violation := by
  obtain ⟨places, -, hplaces, rfl⟩ := h
  rw [List.map_eq_nil_iff, List.eq_nil_iff_forall_not_mem]
  constructor
  · intro hnone place violation hwrong
    exact hnone _ ((hplaces place violation).2 hwrong)
  · intro hnone entry hentry
    exact hnone _ _ ((hplaces entry.1 entry.2).1 hentry)

/-- Whatever is wrong is found. -/
theorem mem (h : Reports wrong found) (place : ι) {violation : Violation}
    (hwrong : wrong place violation) :
    violation ∈ found := by
  obtain ⟨places, -, hplaces, rfl⟩ := h
  exact List.mem_map.2 ⟨_, (hplaces place violation).2 hwrong, rfl⟩

/-- What is reported depends only on what is wrong. -/
theorem congr (h : Reports wrong found)
    (hsame : ∀ place violation, wrong place violation ↔ other place violation) :
    Reports other found := by
  obtain ⟨places, hordered, hplaces, hfound⟩ := h
  refine ⟨places, hordered, ?_, hfound⟩
  intro place violation
  exact (hplaces place violation).trans (hsame place violation)

/-- Where nothing is wrong nothing is reported. -/
theorem nil (h : ∀ place violation, ¬ wrong place violation) : Reports wrong [] :=
  ⟨[], .nil, fun place violation => by simp [h place violation], rfl⟩

/-- Something is wrong at one place. -/
theorem single (place : ι) (violation : Violation) :
    Reports (fun i v => i = place ∧ v = violation) [violation] :=
  ⟨[(place, violation)], List.pairwise_singleton _ _, by simp, rfl⟩

/-- What is wrong at later places is found later. -/
theorem append (h : Reports wrong found) (hmore : Reports other more)
    (hlater : ∀ i v j w, wrong i v → other j w → i < j) :
    Reports (fun i v => wrong i v ∨ other i v) (found ++ more) := by
  obtain ⟨first, hfirst, hfirstIn, rfl⟩ := h
  obtain ⟨second, hsecond, hsecondIn, rfl⟩ := hmore
  refine ⟨first ++ second, ?_, ?_, (List.map_append ..).symm⟩
  · refine List.pairwise_append.2 ⟨hfirst, hsecond, ?_⟩
    intro a ha b hb
    exact hlater a.1 a.2 b.1 b.2 ((hfirstIn _ _).1 ha) ((hsecondIn _ _).1 hb)
  · intro place violation
    rw [List.mem_append, hfirstIn, hsecondIn]

/-- Places may be named anew, as long as they keep their order. -/
theorem rename (h : Reports wrong found) (rename : ι → κ)
    (hmono : ∀ i j, i < j → rename i < rename j) :
    Reports (fun k v => ∃ i, rename i = k ∧ wrong i v) found := by
  obtain ⟨places, hordered, hplaces, rfl⟩ := h
  refine ⟨places.map fun entry => (rename entry.1, entry.2), ?_, ?_, ?_⟩
  · exact List.pairwise_map.2 (hordered.imp fun hless => hmono _ _ hless)
  · intro k violation
    constructor
    · intro hin
      obtain ⟨entry, hentry, heq⟩ := List.mem_map.1 hin
      cases heq
      exact ⟨entry.1, rfl, (hplaces _ _).1 hentry⟩
    · intro hin
      obtain ⟨i, rfl, hwrong⟩ := hin
      exact List.mem_map.2 ⟨(i, violation), (hplaces _ _).2 hwrong, rfl⟩
  · rw [List.map_map]
    rfl

/-- All names of an increasing list that are wrong are reported in order. -/
theorem of_names {names : List String} (h : names.Pairwise (· < ·)) (bad : String → Bool)
    (violation : String → Violation) :
    Reports (fun name v => name ∈ names ∧ bad name = true ∧ v = violation name)
      ((names.filter bad).map violation) := by
  refine ⟨(names.filter bad).map fun name => (name, violation name), ?_, ?_, ?_⟩
  · exact List.pairwise_map.2 (h.filter bad)
  · intro name v
    constructor
    · intro hin
      obtain ⟨named, hnamed, heq⟩ := List.mem_map.1 hin
      cases heq
      obtain ⟨hmem, hbad⟩ := List.mem_filter.1 hnamed
      exact ⟨hmem, hbad, rfl⟩
    · intro hin
      obtain ⟨hmem, hbad, rfl⟩ := hin
      exact List.mem_map.2 ⟨name, List.mem_filter.2 ⟨hmem, hbad⟩, rfl⟩
  · rw [List.map_map]
    rfl

/-- The reports on one element come before those on the elements after it. -/
theorem flatMap {α : Type} {report : α → List Violation}
    {mistake : α → κ → Violation → Prop}
    (h : ∀ x, Reports (mistake x) (report x)) (xs : List α) :
    Reports
      (fun (place : Nat ×ₗ κ) v =>
        ∃ x, xs[(ofLex place).1]? = some x ∧ mistake x (ofLex place).2 v)
      (xs.flatMap report) := by
  induction xs with
  | nil => exact nil (by simp)
  | cons x xs ih =>
      have hhere := (h x).rename (fun k => toLex (0, k)) fun i j hless =>
        Prod.Lex.toLex_lt_toLex.2 (.inr ⟨rfl, hless⟩)
      have hthere :=
        ih.rename (fun place => toLex ((ofLex place).1 + 1, (ofLex place).2)) (by
          intro i j hless
          rcases Prod.Lex.lt_iff.1 hless with hbefore | ⟨hsame, hafter⟩
          · exact Prod.Lex.toLex_lt_toLex.2 (.inl (Nat.succ_lt_succ hbefore))
          · exact Prod.Lex.toLex_lt_toLex.2 (.inr ⟨congrArg (· + 1) hsame, hafter⟩))
      have hlater : ∀ i v j w, (∃ k, toLex (0, k) = i ∧ mistake x k v) →
          (∃ place : Nat ×ₗ κ, toLex ((ofLex place).1 + 1, (ofLex place).2) = j ∧
            ∃ y, xs[(ofLex place).1]? = some y ∧ mistake y (ofLex place).2 w) →
            i < j := by
        intro i v j w hi hj
        obtain ⟨k, rfl, -⟩ := hi
        obtain ⟨place, rfl, -⟩ := hj
        exact Prod.Lex.toLex_lt_toLex.2 (.inl (Nat.succ_pos _))
      rw [List.flatMap_cons]
      apply (hhere.append hthere hlater).congr
      intro place v
      constructor
      · intro hwrong
        rcases hwrong with ⟨k, rfl, hmistake⟩ | ⟨place, rfl, y, hy, hmistake⟩
        · exact ⟨x, rfl, hmistake⟩
        · exact ⟨y, hy, hmistake⟩
      · intro hwrong
        obtain ⟨y, hy, hmistake⟩ := hwrong
        obtain ⟨i, k⟩ := place
        cases i with
        | zero =>
            obtain rfl : x = y := Option.some.inj hy
            exact .inl ⟨k, rfl, hmistake⟩
        | succ i => exact .inr ⟨toLex (i, k), rfl, y, hy, hmistake⟩

/-- What is wrong at the first place is found first. -/
theorem cons {wrong : Nat → Violation → Prop} (here : Option Violation)
    (hhere : ∀ violation, wrong 0 violation ↔ here = some violation)
    (hrest : Reports (fun i v => wrong (i + 1) v) found) :
    Reports wrong (here.toList ++ found) := by
  have hfirst : Reports (fun (i : Nat) v => i = 0 ∧ here = some v) here.toList := by
    cases here with
    | none => exact nil (by simp)
    | some violation =>
        exact (single 0 violation).congr fun i v => by
          rw [Option.some.injEq, eq_comm (a := v)]
  have hthere := hrest.rename (· + 1) fun i j hless => Nat.succ_lt_succ hless
  have hlater : ∀ i v j w, i = 0 ∧ here = some v → (∃ k, k + 1 = j ∧ wrong (k + 1) w) →
      i < j := by
    intro i v j w hi hj
    obtain ⟨rfl, -⟩ := hi
    obtain ⟨k, rfl, -⟩ := hj
    exact Nat.succ_pos k
  apply (hfirst.append hthere hlater).congr
  intro i v
  constructor
  · intro hwrong
    rcases hwrong with ⟨rfl, hv⟩ | ⟨k, rfl, hv⟩
    · exact (hhere v).2 hv
    · exact hv
  · intro hwrong
    cases i with
    | zero => exact .inl ⟨rfl, (hhere v).1 hwrong⟩
    | succ i => exact .inr ⟨i, rfl, hwrong⟩

/-- What is wrong with single elements is found in their order. -/
theorem filterMap {α : Type} (report : α → Option Violation) (xs : List α) :
    Reports (fun (i : Nat) v => ∃ x, xs[i]? = some x ∧ report x = some v)
      (xs.filterMap report) := by
  induction xs with
  | nil => exact nil (by simp)
  | cons x xs ih =>
      have hsplit :
          (x :: xs).filterMap report = (report x).toList ++ xs.filterMap report := by
        cases hx : report x with
        | none => rw [List.filterMap_cons_none hx]; rfl
        | some violation => rw [List.filterMap_cons_some hx]; rfl
      rw [hsplit]
      apply cons (report x) _ ih
      intro violation
      simp

/-- Of the elements that are wrong each is found, in their order. -/
theorem filter_map {α : Type} (bad : α → Bool) (violation : α → Violation) (xs : List α) :
    Reports (fun (i : Nat) v => ∃ x, xs[i]? = some x ∧ bad x = true ∧ v = violation x)
      ((xs.filter bad).map violation) := by
  rw [← List.filterMap_eq_map, List.filterMap_filter]
  apply (filterMap _ xs).congr
  intro i v
  apply exists_congr
  intro x
  apply and_congr_right
  intro _
  by_cases hbad : bad x = true
  · simp [hbad, eq_comm]
  · simp [hbad]

/-- Every name that stands at an earlier place too, or among those seen before, is
found. -/
theorem repeated (names seen : List String) (violation : String → Violation) :
    Reports (fun (i : Nat) v => ∃ name, names[i]? = some name ∧
        (name ∈ seen ∨ ∃ j, j < i ∧ names[j]? = some name) ∧ v = violation name)
      ((Turnstile.repeated seen names).map violation) := by
  induction names generalizing seen with
  | nil => exact nil (by simp)
  | cons name rest ih =>
      -- a name stands before a later place when it stands before it in the rest, or is
      -- the first
      have hbefore : ∀ (other : String) (i : Nat),
          (∃ j, j < i + 1 ∧ (name :: rest)[j]? = some other) ↔
            other = name ∨ ∃ j, j < i ∧ rest[j]? = some other := by
        intro other i
        constructor
        · intro h
          obtain ⟨j, hj, hfound⟩ := h
          cases j with
          | zero => exact .inl (Option.some.inj hfound).symm
          | succ j => exact .inr ⟨j, Nat.lt_of_succ_lt_succ hj, hfound⟩
        · intro h
          rcases h with rfl | ⟨j, hj, hfound⟩
          · exact ⟨0, Nat.succ_pos i, rfl⟩
          · exact ⟨j + 1, Nat.succ_lt_succ hj, hfound⟩
      unfold Turnstile.repeated
      split
      · next hseen =>
          have hname : name ∈ seen := List.contains_iff_mem.1 hseen
          apply cons (some (violation name))
          · intro v
            simp [hname, eq_comm]
          · apply (ih seen).congr
            intro i v
            simp only [List.getElem?_cons_succ, hbefore]
            apply exists_congr
            intro other
            have hsame : other = name → other ∈ seen := fun h => h ▸ hname
            tauto
      · next hseen =>
          have hname : name ∉ seen := fun h => hseen (List.contains_iff_mem.2 h)
          apply cons none
          · intro v
            simp [hname]
          · apply (ih (name :: seen)).congr
            intro i v
            simp only [List.getElem?_cons_succ, hbefore, List.mem_cons]
            apply exists_congr
            intro other
            tauto

end Reports

end Turnstile

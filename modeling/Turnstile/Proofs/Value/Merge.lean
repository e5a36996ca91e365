import Mathlib.Data.List.Infix
import Turnstile.Proofs.Flow.Built
import Turnstile.Value.Merge
import Turnstile.Value.Path

/-!
# What a merge leaves at a path

A patch that does not reach a path either stops short of it, at something that is no
object (`Value.Cuts`), or passes by it.  In the first case nothing is left at the path
(`Value.get?_merge_of_cuts`), in the second all that was there
(`Value.get?_merge_of_passes`).
-/

set_option autoImplicit false

namespace Turnstile

namespace Value

/-- The patch stops short of the path: on the way to it, it holds something that is no
object. -/
def Cuts (patch : Value) (path : Path) : Prop :=
  ∃ front, front <+: path ∧ front ≠ path ∧
    ∃ value, patch.get? front = some value ∧ value.isObject = false

variable {base patch value : Value} {fields : Fields} {key : String} {path rest : Path}

/-! ## Fields -/

/-- Keys that increase stand there once. -/
theorem Sorted.nodup_keys (h : (Value.obj fields).Sorted) :
    (fields.map Prod.fst).Nodup := by
  rw [Sorted] at h
  exact List.pairwise_map.2 (h.1.imp fun hless => ne_of_lt hless)

/-- The fields of a sorted object are sorted. -/
theorem Sorted.of_find? (h : (Value.obj fields).Sorted)
    (hfound : Dictionary.find? fields key = some value) :
    value.Sorted := by
  rw [Sorted] at h
  have hall : ∀ {fields : List (String × Value)}, SortedFields fields →
      (key, value) ∈ fields →
      value.Sorted := by
    intro fields hsorted hin
    induction fields with
    | nil => cases hin
    | cons field more ih =>
        obtain ⟨name, held⟩ := field
        obtain ⟨hheld, hmore⟩ := hsorted
        rcases List.mem_cons.1 hin with heq | hin
        · cases heq
          exact hheld
        · exact ih hmore hin
  exact hall h.2 (Dictionary.mem_of_find? hfound)

/-- **Fields of a merge.**  A key of the patch holds what the patch has for it, merged
into what the base had; every other key holds what it held. -/
theorem find?_mergeFields {changes : List (String × Value)}
    (honce : (changes.map Prod.fst).Nodup) (base : Fields) (key : String) :
    Dictionary.find? (mergeFields base changes) key =
      match Dictionary.find? changes key with
      | none => Dictionary.find? base key
      | some value => some ((Dictionary.find? base key).elim value (·.merge value)) := by
  induction changes generalizing base with
  | nil => rw [mergeFields]; rfl
  | cons change more ih =>
      obtain ⟨name, held⟩ := change
      rw [List.map_cons, List.nodup_cons] at honce
      rw [mergeFields, ih honce.2, Dictionary.find?_insert, Dictionary.find?]
      by_cases hkey : key = name
      · subst hkey
        have hlater : Dictionary.find? more key = none := by
          cases hfound : Dictionary.find? more key with
          | none => rfl
          | some value =>
              exact absurd (List.mem_map_of_mem (Dictionary.mem_of_find? hfound)) honce.1
        simp only [hlater, if_true]
        cases Dictionary.find? base key <;> rfl
      · simp only [hkey, if_false]

/-! ## Paths -/

/-- A path into an object goes on from one of its fields. -/
theorem get?_obj_cons : (Value.obj fields).get? (key :: rest) =
    (Dictionary.find? fields key).bind (·.get? rest) := by
  rw [get?]
  cases Dictionary.find? fields key <;> rfl

/-- Below something that is no object there is nothing. -/
theorem get?_cons_of_not_object (h : value.isObject = false) :
    value.get? (key :: rest) = none := by
  cases value <;> first | rfl | cases h

/-- A patch does not cut off the root. -/
theorem not_cuts_nil : ¬ patch.Cuts [] := by
  rintro ⟨front, hfront, hne, -⟩
  exact hne (List.prefix_nil.1 hfront)

/-- What is no object stops short of every key. -/
theorem cuts_cons_of_not_object (h : patch.isObject = false) : patch.Cuts (key :: rest) :=
  ⟨[], List.nil_prefix, by simp, patch, by rw [get?], h⟩

/-- An object stops short of a path where one of its fields does. -/
theorem cuts_obj_cons : (Value.obj fields).Cuts (key :: rest) ↔
    ∃ value, Dictionary.find? fields key = some value ∧ value.Cuts rest := by
  constructor
  · rintro ⟨front, hfront, hne, held, hheld, hobject⟩
    cases front with
    | nil =>
        obtain rfl : Value.obj fields = held := by
          rw [get?] at hheld; exact Option.some.inj hheld
        cases hobject
    | cons first front =>
        obtain ⟨rfl, hshorter⟩ := List.cons_prefix_cons.1 hfront
        rw [get?_obj_cons] at hheld
        obtain ⟨value, hvalue, hbelow⟩ := Option.bind_eq_some_iff.1 hheld
        exact ⟨value, hvalue, front, hshorter,
          fun heq => hne (heq ▸ rfl), held, hbelow, hobject⟩
  · rintro ⟨value, hvalue, front, hfront, hne, held, hheld, hobject⟩
    refine ⟨key :: front, List.cons_prefix_cons.2 ⟨rfl, hfront⟩, by simpa using hne,
      held, ?_, hobject⟩
    rw [get?_obj_cons, hvalue]
    exact hheld

/-- A patch that stops short of a path does not reach it. -/
theorem Cuts.get?_eq_none (h : patch.Cuts path) : patch.get? path = none := by
  induction path generalizing patch with
  | nil => exact absurd h not_cuts_nil
  | cons key rest ih =>
      cases patch with
      | obj fields =>
          obtain ⟨value, hvalue, hcuts⟩ := cuts_obj_cons.1 h
          rw [get?_obj_cons, hvalue]
          exact ih hcuts
      | _ => rfl

/-! ## Merges -/

/-- Objects are merged field by field; otherwise the patch takes the place of the base. -/
theorem merge_cases (base patch : Value) :
    (∃ old changes, base = .obj old ∧ patch = .obj changes) ∨
      (base.isObject = false ∨ patch.isObject = false) ∧ base.merge patch = patch := by
  cases base with
  | obj old =>
      cases patch with
      | obj changes => exact .inl ⟨old, changes, rfl, rfl⟩
      | _ => exact .inr ⟨.inr rfl, by rw [merge]; simp⟩
  | _ => exact .inr ⟨.inl rfl, by rw [merge]; simp⟩

/-- **Cut off.**  Nothing is left at a path that the patch stops short of. -/
theorem get?_merge_of_cuts (hsorted : patch.Sorted) (h : patch.Cuts path) :
    (base.merge patch).get? path = none := by
  induction path generalizing base patch with
  | nil => exact absurd h not_cuts_nil
  | cons key rest ih =>
      rcases merge_cases base patch with ⟨old, changes, rfl, rfl⟩ | ⟨-, hplain⟩
      · obtain ⟨value, hvalue, hcuts⟩ := cuts_obj_cons.1 h
        rw [merge, get?_obj_cons, find?_mergeFields hsorted.nodup_keys, hvalue]
        cases Dictionary.find? old key with
        | none => exact hcuts.get?_eq_none
        | some held => exact ih (hsorted.of_find? hvalue) hcuts
      · rw [hplain]
        exact h.get?_eq_none

/-- **Passed by.**  All is left at a path that the patch neither reaches nor stops
short of. -/
theorem get?_merge_of_passes (hsorted : patch.Sorted) (hreach : patch.get? path = none)
    (hcuts : ¬ patch.Cuts path) : (base.merge patch).get? path = base.get? path := by
  induction path generalizing base patch with
  | nil => rw [get?] at hreach; cases hreach
  | cons key rest ih =>
      rcases merge_cases base patch
        with ⟨old, changes, rfl, rfl⟩ | ⟨hbase | hpatch, hplain⟩
      · rw [get?_obj_cons] at hreach
        rw [merge, get?_obj_cons, get?_obj_cons, find?_mergeFields hsorted.nodup_keys]
        cases hvalue : Dictionary.find? changes key with
        | none => rfl
        | some value =>
            have hpast : value.get? rest = none := by rw [hvalue] at hreach; exact hreach
            cases Dictionary.find? old key with
            | none => exact hpast
            | some held =>
                exact ih (hsorted.of_find? hvalue) hpast fun hless =>
                  hcuts (cuts_obj_cons.2 ⟨value, hvalue, hless⟩)
      · rw [hplain, hreach, get?_cons_of_not_object hbase]
      · exact absurd (cuts_cons_of_not_object hpatch) hcuts

end Value

end Turnstile

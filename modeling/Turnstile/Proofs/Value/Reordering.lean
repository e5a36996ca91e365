import Turnstile.Proofs.Value.Pointwise

/-!
# Patches again, and in another order

A patch that is merged a second time changes nothing, and two patches may change places
when they agree (`Value.Agree`): wherever both go along a path, both hold an object
there, or both hold the same.  An object that is laid over a word counts too, even an
empty one: it takes the word away.

All this is decided key by key.  A sorted object is known by what its keys hold
(`Dictionary.Sorted.ext`), a merge of sorted documents is sorted (`Value.Sorted.merge`),
and `Value.induction_fields` goes from the fields of an object to the object.
-/

set_option autoImplicit false

namespace Turnstile

/-- Dictionaries in which the same is found under every key are the same. -/
theorem Dictionary.Sorted.ext {α : Type} {d e : Dictionary α}
    (hd : d.Sorted) (he : e.Sorted) (h : ∀ key, find? d key = find? e key) : d = e := by
  have hmem : ∀ entry, entry ∈ d ↔ entry ∈ e := by
    intro entry
    constructor
    · intro hin
      exact mem_of_find? ((h entry.1).symm.trans (hd.find?_of_mem hin))
    · intro hin
      exact mem_of_find? ((h entry.1).trans (he.find?_of_mem hin))
  have hless : ∀ {d : Dictionary α}, d.Sorted → d.Pairwise fun a b => a.1 < b.1 :=
    fun hsorted => List.pairwise_map.1 hsorted
  have hnodup : ∀ {d : Dictionary α}, d.Sorted → d.Nodup :=
    fun hsorted => (hless hsorted).imp fun hab hsame => absurd (hsame ▸ hab) (lt_irrefl _)
  have hperm : d.Perm e := (List.perm_ext_iff_of_nodup (hnodup hd) (hnodup he)).2 hmem
  refine hperm.eq_of_pairwise ?_ (hless hd) (hless he)
  intro a b _ _ hab hba
  exact absurd (lt_trans hab hba) (lt_irrefl _)

namespace Value

variable {base p q value held : Value} {fields old changes : Fields} {key : String}

/-! ## Documents by their fields -/

/-- What holds of everything that is no object, and of an object once it holds of what
the fields hold, holds of every document. -/
@[elab_as_elim]
theorem induction_fields {motive : Value → Prop}
    (plain : ∀ value, value.isObject = false → motive value)
    (object : ∀ fields,
      (∀ key value, Dictionary.find? fields key = some value → motive value) →
      motive (.obj fields)) (value : Value) : motive value := by
  cases value with
  | obj fields =>
      apply object
      intro key value hfound
      exact induction_fields plain object value
  | _ => exact plain _ rfl
termination_by sizeOf value
decreasing_by
  subst_vars
  have hless := List.sizeOf_lt_of_mem (Dictionary.mem_of_find? hfound)
  simp only [Prod.mk.sizeOf_spec] at hless
  simp only [obj.sizeOf_spec]
  omega

/-- An object is sorted when its keys are and all that they hold is. -/
theorem sorted_obj_iff : (Value.obj fields).Sorted ↔
    Dictionary.Sorted fields ∧ ∀ key value, Dictionary.find? fields key = some value →
    value.Sorted := by
  constructor
  · intro h
    refine ⟨?_, fun key value hfound => h.of_find? hfound⟩
    rw [Sorted] at h
    exact List.pairwise_map.2 h.1
  · intro h
    obtain ⟨hkeys, hheld⟩ := h
    rw [Sorted]
    refine ⟨List.pairwise_map.1 hkeys, ?_⟩
    have hall : ∀ more : List (String × Value), (∀ field ∈ more, field.2.Sorted) →
        SortedFields more := by
      intro more
      induction more with
      | nil => intro _; trivial
      | cons field more ih =>
          intro hmore
          refine ⟨hmore field List.mem_cons_self, ih ?_⟩
          intro other hother
          exact hmore other (List.mem_cons_of_mem _ hother)
    apply hall
    intro field hfield
    exact hheld field.1 field.2 (hkeys.find?_of_mem hfield)

/-- The keys stay in order when fields are merged. -/
theorem sorted_mergeFields (h : Dictionary.Sorted old) (changes : List (String × Value)) :
    Dictionary.Sorted (mergeFields old changes) := by
  induction changes generalizing old with
  | nil => rw [mergeFields]; exact h
  | cons change more ih =>
      obtain ⟨key, value⟩ := change
      rw [mergeFields]
      exact ih (h.insert _ _)

/-- A merge of sorted documents is sorted. -/
theorem Sorted.merge (hbase : base.Sorted) (hp : p.Sorted) : (base.merge p).Sorted := by
  induction p using induction_fields generalizing base with
  | plain p hplain =>
      rw [merge_of_not_object base hplain]
      exact hp
  | object changes ih =>
      rcases merge_cases base (.obj changes) with ⟨old, _, rfl, ⟨⟩⟩ | ⟨-, hmerge⟩
      · rw [Value.merge]
        refine sorted_obj_iff.2
          ⟨sorted_mergeFields (sorted_obj_iff.1 hbase).1 changes, ?_⟩
        intro key value hvalue
        rw [find?_mergeFields hp.nodup_keys] at hvalue
        cases hchange : Dictionary.find? changes key with
        | none =>
            rw [hchange] at hvalue
            exact hbase.of_find? hvalue
        | some change =>
            rw [hchange] at hvalue
            have hsorted : change.Sorted := hp.of_find? hchange
            cases hkept : Dictionary.find? old key with
            | none =>
                rw [hkept] at hvalue
                cases hvalue
                exact hsorted
            | some kept =>
                rw [hkept] at hvalue
                cases hvalue
                exact ih key change hchange (hbase.of_find? hkept) hsorted
      · rw [hmerge]
        exact hp

/-- Sorted objects whose keys hold the same are the same. -/
theorem obj_ext {first second : Fields} (hfirst : (Value.obj first).Sorted)
    (hsecond : (Value.obj second).Sorted)
    (h : ∀ key, Dictionary.find? first key = Dictionary.find? second key) :
    Value.obj first = Value.obj second :=
  congrArg Value.obj ((sorted_obj_iff.1 hfirst).1.ext (sorted_obj_iff.1 hsecond).1 h)

/-! ## One key of a merge -/

/-- A base that is no object gives way to any patch. -/
theorem merge_of_base_not_object (h : base.isObject = false) (p : Value) :
    base.merge p = p := by
  rcases merge_cases base p with ⟨old, changes, rfl, -⟩ | ⟨-, hmerge⟩
  · cases h
  · exact hmerge

/-- What the fields hold under a key, and null for a key that they do not have. -/
def under (fields : Fields) (key : String) : Value :=
  (Dictionary.find? fields key).getD .null

/-- What stands under a key of a sorted value is sorted. -/
theorem sorted_under (h : (Value.obj fields).Sorted) (key : String) :
    (under fields key).Sorted := by
  unfold under
  cases hfound : Dictionary.find? fields key with
  | none => trivial
  | some value => exact h.of_find? hfound

/-- Under a key stands what is found there. -/
theorem under_of_find? (h : Dictionary.find? fields key = some value) :
    under fields key = value := by
  rw [under, h]
  rfl

/-- A key that the patch does not have is left alone. -/
theorem find?_mergeFields_of_none (hp : (Value.obj changes).Sorted) (old : Fields)
    (h : Dictionary.find? changes key = none) :
    Dictionary.find? (mergeFields old changes) key = Dictionary.find? old key := by
  rw [find?_mergeFields hp.nodup_keys, h]

/-- What the patch has under a key is merged into what was there. -/
theorem find?_mergeFields_of_some (hp : (Value.obj changes).Sorted) (old : Fields)
    (h : Dictionary.find? changes key = some value) :
    Dictionary.find? (mergeFields old changes) key =
      some ((under old key).merge value) := by
  rw [find?_mergeFields hp.nodup_keys, h, under]
  cases Dictionary.find? old key with
  | none => exact congrArg some (merge_of_base_not_object rfl value).symm
  | some held => rfl

/-! ## The same patch twice -/

/-- A document merged into itself is what it was. -/
theorem merge_self (hp : p.Sorted) : p.merge p = p := by
  induction p using induction_fields with
  | plain p hplain => exact merge_of_not_object p hplain
  | object changes ih =>
      have hsorted := hp.merge hp
      rw [merge] at hsorted ⊢
      apply obj_ext hsorted hp
      intro key
      cases hvalue : Dictionary.find? changes key with
      | none => rw [find?_mergeFields_of_none hp changes hvalue, hvalue]
      | some value =>
          rw [find?_mergeFields_of_some hp changes hvalue, under_of_find? hvalue,
            ih key value hvalue (hp.of_find? hvalue)]

/-- A patch that was merged before changes nothing. -/
theorem merge_again (hbase : base.Sorted) (hp : p.Sorted) :
    (base.merge p).merge p = base.merge p := by
  induction p using induction_fields generalizing base with
  | plain p hplain => rw [merge_of_not_object _ hplain, merge_of_not_object _ hplain]
  | object changes ih =>
      rcases merge_cases base (.obj changes) with ⟨old, _, rfl, ⟨⟩⟩ | ⟨-, hmerge⟩
      · have honce := hbase.merge hp
        have htwice := honce.merge hp
        rw [merge] at honce htwice ⊢
        rw [merge] at htwice ⊢
        apply obj_ext htwice honce
        intro key
        cases hvalue : Dictionary.find? changes key with
        | none => rw [find?_mergeFields_of_none hp _ hvalue]
        | some value =>
            have hmerged := find?_mergeFields_of_some hp old hvalue
            rw [find?_mergeFields_of_some hp _ hvalue, under_of_find? hmerged, hmerged,
              ih key value hvalue (sorted_under hbase key) (hp.of_find? hvalue)]
      · rw [hmerge]
        exact merge_self hp

/-! ## Two patches -/

/-- Wherever both documents go along a path, they hold the same there, or an object
each. -/
def Agree (p q : Value) : Prop :=
  ∀ path v w, p.get? path = some v → q.get? path = some w →
    v = w ∨ v.isObject = true ∧ w.isObject = true

/-- Documents that agree do so under every key that both have. -/
theorem Agree.under {others : Fields} (h : Agree (.obj changes) (.obj others))
    (hv : Dictionary.find? changes key = some value)
    (hw : Dictionary.find? others key = some held) :
    Agree value held := by
  intro path v w hleft hright
  apply h (key :: path) v w
  · rw [get?_obj_cons, hv]
    exact hleft
  · rw [get?_obj_cons, hw]
    exact hright

/-- Patches that agree are merged into an object in any order, if that is so under every
key. -/
theorem mergeFields_comm {others : Fields} (hold : (Value.obj old).Sorted)
    (hp : (Value.obj changes).Sorted) (hq : (Value.obj others).Sorted)
    (h : ∀ key value held, Dictionary.find? changes key = some value →
      Dictionary.find? others key = some held →
      ((Value.under old key).merge value).merge held =
        ((Value.under old key).merge held).merge value) :
    ((Value.obj old).merge (.obj changes)).merge (.obj others) =
      ((Value.obj old).merge (.obj others)).merge (.obj changes) := by
  have hleft := (hold.merge hp).merge hq
  have hright := (hold.merge hq).merge hp
  simp only [merge] at hleft hright ⊢
  apply obj_ext hleft hright
  intro key
  cases hvalue : Dictionary.find? changes key with
  | none =>
      rw [find?_mergeFields_of_none hp _ hvalue]
      cases hheld : Dictionary.find? others key with
      | none =>
          rw [find?_mergeFields_of_none hq _ hheld, find?_mergeFields_of_none hq _ hheld,
            find?_mergeFields_of_none hp _ hvalue]
      | some held =>
          rw [find?_mergeFields_of_some hq _ hheld,
            find?_mergeFields_of_some hq _ hheld, under, under,
            find?_mergeFields_of_none hp _ hvalue]
  | some value =>
      have hfirst := find?_mergeFields_of_some hp old hvalue
      rw [find?_mergeFields_of_some hp _ hvalue]
      cases hheld : Dictionary.find? others key with
      | none =>
          rw [find?_mergeFields_of_none hq _ hheld, hfirst, under, under,
            find?_mergeFields_of_none hq _ hheld]
      | some held =>
          rw [find?_mergeFields_of_some hq _ hheld, under_of_find? hfirst,
            under_of_find? (find?_mergeFields_of_some hq old hheld),
            h key value held hvalue hheld]

/-- **Reordering.**  Patches that agree may change places. -/
theorem Agree.merge_comm (h : Agree p q) (hbase : base.Sorted) (hp : p.Sorted)
    (hq : q.Sorted) :
    (base.merge p).merge q = (base.merge q).merge p := by
  induction p using induction_fields generalizing base q with
  | plain p hplain =>
      rcases h [] p q (by rw [get?]) (by rw [get?]) with rfl | ⟨hobject, -⟩
      · rfl
      · rw [hplain] at hobject
        cases hobject
  | object changes ih =>
      rcases h [] _ q (by rw [get?]) (by rw [get?]) with rfl | ⟨-, hobject⟩
      · rfl
      obtain ⟨others, rfl⟩ : ∃ others, q = .obj others := by
        cases q with
        | obj others => exact ⟨others, rfl⟩
        | _ => cases hobject
      have hfields : ∀ old, (Value.obj old).Sorted →
          ((Value.obj old).merge (.obj changes)).merge (.obj others) =
            ((Value.obj old).merge (.obj others)).merge (.obj changes) := by
        intro old hold
        apply mergeFields_comm hold hp hq
        intro key value held hvalue hheld
        exact ih key value hvalue (h.under hvalue hheld) (sorted_under hold key)
          (hp.of_find? hvalue)
          (hq.of_find? hheld)
      rcases merge_cases base (.obj changes) with ⟨old, _, rfl, -⟩ | ⟨hplain | hpatch, -⟩
      · exact hfields old hbase
      · -- a base that is no object gives way like an empty object
        have hempty : (Value.obj []).Sorted :=
          sorted_obj_iff.2 ⟨.nil, by simp [Dictionary.find?]⟩
        have hway : ∀ fields, (Value.obj fields).Sorted →
            base.merge (.obj fields) = (Value.obj []).merge (.obj fields) := by
          intro fields hsorted
          have hmerged := hempty.merge hsorted
          rw [merge_of_base_not_object hplain]
          rw [merge] at hmerged ⊢
          apply obj_ext hsorted hmerged
          intro key
          cases hfound : Dictionary.find? fields key with
          | none => rw [find?_mergeFields_of_none hsorted _ hfound]; rfl
          | some value =>
              rw [find?_mergeFields_of_some hsorted _ hfound]
              exact congrArg some (merge_of_base_not_object rfl value).symm
        rw [hway _ hp, hway _ hq]
        exact hfields [] hempty
      · cases hpatch

/-- Patches that may change places agree, whatever it is that they are merged into. -/
theorem agree_of_merge_comm (hp : p.Sorted) (hq : q.Sorted)
    (h : (base.merge p).merge q = (base.merge q).merge p) : Agree p q := by
  intro path v w hv hw
  have hat := congrArg (·.get? path) h
  simp only [get?_merge_of_reached hq hw, get?_merge_of_reached hp hv, Option.elim_some,
    Option.some.injEq] at hat
  -- what is no object comes through as it is when it is merged last, and is replaced
  -- when it is not
  have hplain : ∀ {v w : Value} (below : Option Value), v.isObject = false →
      (below.elim v (·.merge v)).merge w = (below.elim w (·.merge w)).merge v →
      v = w := by
    intro v w below hv hsame
    have hfirst : below.elim v (·.merge v) = v := by
      cases below with
      | none => rfl
      | some held => exact merge_of_not_object held hv
    rw [hfirst, merge_of_base_not_object hv, merge_of_not_object _ hv] at hsame
    exact hsame.symm
  cases hvobject : v.isObject with
  | false => exact .inl (hplain _ hvobject hat)
  | true =>
      cases hwobject : w.isObject with
      | false => exact .inl (hplain _ hwobject hat.symm).symm
      | true => exact .inr ⟨rfl, rfl⟩

/-- **Updates can be made again and in another order.**  A patch that is merged a second
time changes nothing, and neither does a document merged into itself.  Two patches that
hold objects wherever both go along a path give the same in both orders; and they do so
in no other case than that they hold the same there. -/
theorem merge_retried (hbase : base.Sorted) (hp : p.Sorted) (hq : q.Sorted) :
    (base.merge p).merge p = base.merge p ∧
    p.merge p = p ∧
    ((∀ path v w, p.get? path = some v → q.get? path = some w →
        v.isObject = true ∧ w.isObject = true) →
      (base.merge p).merge q = (base.merge q).merge p) ∧
    ((base.merge p).merge q = (base.merge q).merge p ↔ p.Agree q) := by
  refine ⟨merge_again hbase hp, merge_self hp, ?_, agree_of_merge_comm hp hq, ?_⟩
  · intro hobjects
    have hagree : p.Agree q := fun path v w hv hw => .inr (hobjects path v w hv hw)
    exact hagree.merge_comm hbase hp hq
  · intro hagree
    exact hagree.merge_comm hbase hp hq

/-- One patch makes room in `plan`, where a word was, with an empty object; the other
writes a field there.  The order does not matter. -/
theorem merge_retried_plan :
    let base : Value := .obj [("plan", .str "free")]
    let p : Value := .obj [("mail", .bool true), ("plan", .obj [])]
    let q : Value := .obj [("name", .str "Alice"), ("plan", .obj [("tier", .str "gold")])]
    base.Sorted ∧ p.Sorted ∧ q.Sorted ∧
      (base.merge p).merge p = base.merge p ∧
      (base.merge p).merge q = (base.merge q).merge p ∧
      p.Agree q ∧
      ((base.merge q).merge p).get? ["plan", "tier"] = some (.str "gold") := by
  intro base p q
  have hbase : base.Sorted := by simp [base, Value.Sorted, Value.SortedFields]
  have hp : p.Sorted := by
    have hless : "mail" < "plan" := by decide
    simpa [p, Value.Sorted, Value.SortedFields] using hless
  have hq : q.Sorted := by
    have hless : "name" < "plan" := by decide
    simpa [q, Value.Sorted, Value.SortedFields] using hless
  have hobjects : ∀ path v w, p.get? path = some v → q.get? path = some w →
      v.isObject = true ∧ w.isObject = true := by
    intro path v w hv hw
    rcases path with _ | ⟨key, rest⟩
    · rw [get?] at hv hw
      cases hv
      cases hw
      exact ⟨rfl, rfl⟩
    · -- `plan` is the only key of both, and the first patch has nothing below it
      rw [get?_obj_cons] at hv hw
      by_cases hplan : key = "plan"
      · subst hplan
        cases rest with
        | nil =>
            simp only [Dictionary.find?, Option.bind_some, get?,
              Option.some.injEq, reduceIte, String.reduceEq] at hv hw
            subst hv hw
            exact ⟨rfl, rfl⟩
        | cons next more => simp [Dictionary.find?, get?] at hv
      · by_cases hmail : key = "mail"
        · simp [Dictionary.find?, hmail] at hw
        · simp [Dictionary.find?, hplan, hmail] at hv
  obtain ⟨hagain, -, hcomm, hexact⟩ := merge_retried hbase hp hq
  have hsame := hcomm hobjects
  refine ⟨hbase, hp, hq, hagain, hsame, hexact.1 hsame, ?_⟩
  have htier : q.get? ["plan", "tier"] = some (.str "gold") := by
    simp [q, get?, Dictionary.find?]
  rw [← hsame, get?_merge_of_reached hq htier]
  cases (base.merge p).get? ["plan", "tier"] with
  | none => rfl
  | some held => exact congrArg some (merge_of_not_object held rfl)

end Value

end Turnstile

import Turnstile.Proofs.Value.Merge

/-!
# Merges point by point

What a merge holds at a path is decided there by how far the patch goes along the path.
Where the patch reaches the path, it is laid over what the base has at the path
(`Value.get?_merge_of_reached`).  Where it does not, all depends on the last thing that
it holds on the way (`Value.Farthest`): an object lets the path pass by, anything else
cuts it off (`Value.Farthest.cuts_iff`).  `Value.merge_pointwise` puts the cases
together, and leaves no path out.
-/

set_option autoImplicit false

namespace Turnstile

namespace Value

/-- The patch goes along the path up to `front`, where it holds `held`, and no farther. -/
structure Farthest (patch : Value) (path front : Path) (held : Value) : Prop where
  within : front <+: path
  found : patch.get? front = some held
  longest : ∀ other, other <+: path → patch.reaches other = true →
    other.length ≤ front.length

variable {base patch value held : Value} {path front : Path}

/-! ## Along a path -/

/-- A path is followed part by part. -/
theorem get?_append (document : Value) (front rest : Path) :
    document.get? (front ++ rest) = (document.get? front).bind (·.get? rest) := by
  induction front generalizing document with
  | nil => rw [get?]; rfl
  | cons key front ih =>
      cases document with
      | obj fields =>
          rw [List.cons_append, get?_obj_cons, get?_obj_cons, Option.bind_assoc]
          exact Option.bind_congr fun next _ => ih next
      | _ => rfl

/-- A patch goes no farther than to where the next key of the path leads nowhere. -/
theorem farthest_of_next {key : String} (front rest : Path)
    (hfound : patch.get? front = some held) (hnext : patch.get? (front ++ [key]) = none) :
    patch.Farthest (front ++ key :: rest) front held := by
  refine ⟨List.prefix_append _ _, hfound, ?_⟩
  intro other hother hreached
  by_contra hlonger
  have hbeyond : front ++ [key] <+: other := by
    have hthis : front ++ [key] <+: front ++ key :: rest := ⟨rest, by simp⟩
    apply List.prefix_of_prefix_length_le hthis hother
    rw [List.length_append, List.length_singleton]
    omega
  obtain ⟨more, rfl⟩ := hbeyond
  rw [reaches, get?_append, hnext] at hreached
  cases hreached

/-- Every patch goes some way along a path. -/
theorem exists_farthest (patch : Value) (path : Path) :
    ∃ front held, patch.Farthest path front held := by
  induction path generalizing patch with
  | nil =>
      refine ⟨[], patch, List.nil_prefix, by rw [get?], ?_⟩
      intro other hother _
      rw [List.prefix_nil.1 hother]
  | cons key rest ih =>
      cases hnext : patch.get? [key] with
      | none => exact ⟨[], patch, farthest_of_next [] rest (by rw [get?]) hnext⟩
      | some next =>
          obtain ⟨front, held, hfarthest⟩ := ih next
          have hfollow : ∀ more, patch.get? (key :: more) = next.get? more := by
            intro more
            rw [← List.singleton_append, get?_append, hnext]
            rfl
          refine ⟨key :: front, held, ?_, ?_, ?_⟩
          · exact List.cons_prefix_cons.2 ⟨rfl, hfarthest.within⟩
          · rw [hfollow]
            exact hfarthest.found
          · intro other hother hreached
            rcases List.prefix_cons_iff.1 hother with rfl | ⟨more, rfl, hmore⟩
            · exact Nat.zero_le _
            · rw [reaches, hfollow] at hreached
              exact Nat.succ_le_succ (hfarthest.longest more hmore hreached)

/-- A patch that does not reach a path stops short of it exactly if it goes no farther
than to something that is no object. -/
theorem Farthest.cuts_iff (h : patch.Farthest path front held)
    (hpast : patch.get? path = none) :
    patch.Cuts path ↔ held.isObject = false := by
  constructor
  · rintro ⟨short, hshort, -, stop, hstop, hplain⟩
    have hreached : patch.reaches short = true := by rw [reaches, hstop]; rfl
    have hwithin : short <+: front :=
      List.prefix_of_prefix_length_le hshort h.within (h.longest short hshort hreached)
    obtain ⟨more, rfl⟩ := hwithin
    have hfound := h.found
    rw [get?_append, hstop] at hfound
    cases more with
    | nil =>
        rw [Option.bind_some, get?] at hfound
        rw [← Option.some.inj hfound]
        exact hplain
    | cons key more =>
        rw [Option.bind_some, get?_cons_of_not_object hplain] at hfound
        cases hfound
  · intro hplain
    refine ⟨front, h.within, ?_, held, h.found, hplain⟩
    intro hsame
    rw [← hsame, h.found] at hpast
    cases hpast

/-! ## Merges -/

/-- What is no object takes the place of any base. -/
theorem merge_of_not_object (base : Value) (h : patch.isObject = false) :
    base.merge patch = patch := by
  rcases merge_cases base patch with ⟨old, changes, -, rfl⟩ | ⟨-, hplain⟩
  · cases h
  · exact hplain

/-- **Reached.**  What the patch holds at a path is laid over what the base has there. -/
theorem get?_merge_of_reached (hsorted : patch.Sorted)
    (h : patch.get? path = some value) :
    (base.merge patch).get? path =
      some ((base.get? path).elim value (·.merge value)) := by
  induction path generalizing base patch with
  | nil =>
      rw [get?] at h ⊢
      rw [Option.some.inj h, get?]
      rfl
  | cons key rest ih =>
      rcases merge_cases base patch
        with ⟨old, changes, rfl, rfl⟩ | ⟨hbase | hpatch, hplain⟩
      · rw [get?_obj_cons] at h
        obtain ⟨next, hnext, hbelow⟩ := Option.bind_eq_some_iff.1 h
        rw [merge, get?_obj_cons, get?_obj_cons,
          find?_mergeFields hsorted.nodup_keys, hnext]
        cases Dictionary.find? old key with
        | none => exact hbelow
        | some kept => exact ih (hsorted.of_find? hnext) hbelow
      · rw [hplain, h, get?_cons_of_not_object hbase]
        rfl
      · rw [get?_cons_of_not_object hpatch] at h
        cases h

/-- **A merge touches what the patch says.**  Where the patch reaches a path with
something that is no object, the merge has that there.  Where it reaches the path with
an object, the merge has there what the base had, merged with the object, or the object
itself if the base had nothing.  Where it does not reach the path, there is a longest
part of the path that it does reach: if it holds an object there, base and merge agree
at the path, and otherwise the merge has nothing at it. -/
theorem merge_pointwise (hsorted : patch.Sorted) (base : Value) (path : Path) :
    (∀ value, patch.get? path = some value → value.isObject = false →
      (base.merge patch).get? path = some value) ∧
    (∀ value, patch.get? path = some value → value.isObject = true →
      (∀ old, base.get? path = some old → (base.merge patch).get? path =
        some (old.merge value)) ∧
      (base.get? path = none → (base.merge patch).get? path = some value)) ∧
    (patch.get? path = none →
      (∃ front held, patch.Farthest path front held) ∧
      ∀ front held, patch.Farthest path front held →
        (held.isObject = true → (base.merge patch).get? path = base.get? path) ∧
        (held.isObject = false → (base.merge patch).get? path = none)) := by
  refine ⟨?_, ?_, ?_⟩
  · intro value hvalue hplain
    rw [get?_merge_of_reached hsorted hvalue]
    cases base.get? path with
    | none => rfl
    | some old => exact congrArg some (merge_of_not_object old hplain)
  · intro value hvalue _
    constructor
    · intro old hold
      rw [get?_merge_of_reached hsorted hvalue, hold]
      rfl
    · intro hold
      rw [get?_merge_of_reached hsorted hvalue, hold]
      rfl
  · intro hpast
    refine ⟨exists_farthest patch path, ?_⟩
    intro front held hfarthest
    constructor
    · intro hobject
      have hpasses : ¬ patch.Cuts path := by simp [hfarthest.cuts_iff hpast, hobject]
      exact get?_merge_of_passes hsorted hpast hpasses
    · intro hplain
      exact get?_merge_of_cuts hsorted ((hfarthest.cuts_iff hpast).2 hplain)

/-- A profile whose words and objects change places: `plan` is replaced by a number and
its `tier` is gone, `mail` becomes an object, and `name`, which the patch passes by,
stays. -/
theorem merge_pointwise_profile :
    let base : Value :=
      .obj [("profile", .obj [("mail", .str "off"), ("name", .str "Alice"),
        ("plan", .obj [("tier", .str "gold")])])]
    let mail : Value := .obj [("weekly", .bool true)]
    let patch : Value := .obj [("profile", .obj [("mail", mail), ("plan", .int 7)])]
    patch.Sorted ∧
      (base.merge patch).get? ["profile", "plan"] = some (.int 7) ∧
      (base.merge patch).get? ["profile", "mail"] = some ((Value.str "off").merge mail) ∧
      (base.merge patch).get? ["profile", "mail", "weekly"] = some (.bool true) ∧
      (base.merge patch).get? ["profile", "name"] = some (.str "Alice") ∧
      (base.merge patch).get? ["profile", "plan", "tier"] = none := by
  intro base mail patch
  have hsorted : patch.Sorted := by
    have hless : "mail" < "plan" := by decide
    simpa [patch, mail, int, Value.Sorted, Value.SortedFields] using hless
  have hplan : patch.get? ["profile", "plan"] = some (.int 7) := by
    simp [patch, get?, Dictionary.find?]
  have hname : patch.Farthest ["profile", "name"] ["profile"]
      (.obj [("mail", mail), ("plan", .int 7)]) :=
    farthest_of_next ["profile"] [] (by simp [patch, get?, Dictionary.find?])
      (by simp [patch, get?, Dictionary.find?])
  have htier : patch.Farthest ["profile", "plan", "tier"] ["profile", "plan"] (.int 7) :=
    farthest_of_next ["profile", "plan"] [] hplan
      (by simp [patch, int, get?, Dictionary.find?])
  refine ⟨hsorted, ?_, ?_, ?_, ?_, ?_⟩
  · exact (merge_pointwise hsorted base ["profile", "plan"]).1 _ hplan rfl
  · refine ((merge_pointwise hsorted base ["profile", "mail"]).2.1 mail ?_ rfl).1 _ ?_
    · simp [patch, get?, Dictionary.find?]
    · simp [base, get?, Dictionary.find?]
  · refine (merge_pointwise hsorted base ["profile", "mail", "weekly"]).1 _ ?_ rfl
    simp [patch, mail, get?, Dictionary.find?]
  · have hstays := ((merge_pointwise hsorted base ["profile", "name"]).2.2
      (by simp [patch, get?, Dictionary.find?])).2 _ _ hname
    rw [hstays.1 rfl]
    simp [base, get?, Dictionary.find?]
  · have hgone := ((merge_pointwise hsorted base ["profile", "plan", "tier"]).2.2
      (by simp [patch, int, get?, Dictionary.find?])).2 _ _ htier
    exact hgone.2 rfl

end Value

end Turnstile

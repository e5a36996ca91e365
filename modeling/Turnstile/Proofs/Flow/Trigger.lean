import Turnstile.Context
import Turnstile.Flow.Trigger
import Turnstile.Proofs.Condition.Reads
import Turnstile.Proofs.Value.Merge

/-!
# Triggers on updates

A trigger on a path is there so that a gate is looked at again whenever an update
changes what the gate's condition reads at the path.  Three walks through documents have
to agree for that: the merge of the update, the trigger's question whether a path leads
somewhere, and the look-up of the condition, which takes the path with or without its
namespace (`Context.lookup_eq_watched`).  `Trigger.fires_on_change` says that they do,
and when exactly the trigger fires.
-/

set_option autoImplicit false

namespace Turnstile

open Value (Path)

/-- The path into the metadata that a trigger on a dotted path watches. -/
def Trigger.watched (dotted : String) : Path :=
  Path.ofDotted (Value.metadataRelative dotted)

/-! ## Paths with a namespace -/

namespace Value

/-- A word is split at its first dot. -/
theorem splitDots_append {front : List Char} (h : '.' ∉ front) (rest : List Char) :
    splitDots (front ++ '.' :: rest) = front :: splitDots rest := by
  induction front with
  | nil => simp [splitDots]
  | cons c front ih =>
      rw [List.mem_cons, not_or] at h
      simp [splitDots, ih h.2, Ne.symm h.1]

/-- A split word is its first segment, or goes on with a dot after it. -/
theorem eq_of_splitDots {word segment : List Char} {more : List (List Char)}
    (h : splitDots word = segment :: more) :
    word = segment ∨ ∃ rest, word = segment ++ '.' :: rest := by
  have hword := intercalate_splitDots word
  rw [h] at hword
  cases more with
  | nil => exact .inl (by simpa using hword.symm)
  | cons next more => exact .inr ⟨_, by simpa using hword.symm⟩

/-- A path with the namespace of the metadata, and one without it. -/
theorem ofDotted_cases (dotted : String) :
    Path.ofDotted dotted = "metadata" :: Trigger.watched dotted ∨
      Trigger.watched dotted = Path.ofDotted dotted ∧
        (dotted ≠ "metadata" → (Path.ofDotted dotted).head? ≠ some "metadata") := by
  unfold Trigger.watched metadataRelative
  by_cases hlead : "metadata.".toList.isPrefixOf dotted.toList = true
  · obtain ⟨rest, hrest⟩ := List.isPrefixOf_iff_prefix.1 hlead
    refine .inl ?_
    have hsplit : splitDots dotted.toList = "metadata".toList :: splitDots rest := by
      rw [← hrest, show "metadata.".toList = "metadata".toList ++ ['.'] by decide,
        List.append_assoc]
      exact splitDots_append (by decide) rest
    have hdrop : (String.ofList (dotted.toList.drop "metadata.".toList.length)).toList =
        rest := by
      rw [String.toList_ofList, ← hrest, List.drop_left]
    rw [if_pos hlead, Path.ofDotted, Path.ofDotted, hsplit, hdrop]
    rfl
  · refine .inr ⟨by simp only [hlead]; rfl, fun hbare hhead => hlead ?_⟩
    obtain ⟨segment, more, hsplit⟩ :=
      List.exists_cons_of_ne_nil (splitDots_ne_nil dotted.toList)
    rw [Path.ofDotted, hsplit, List.map_cons, List.head?_cons] at hhead
    obtain rfl : segment = "metadata".toList := by
      rw [← Option.some.inj hhead, String.toList_ofList]
    rcases eq_of_splitDots hsplit with hword | ⟨rest, hword⟩
    · exact absurd (String.toList_inj.1 hword) hbare
    · rw [hword]
      exact List.isPrefixOf_iff_prefix.2 ⟨rest, by simp⟩

end Value

/-- **Look-ups.**  A path that is not in another namespace is looked up in the metadata,
where a trigger on it watches. -/
theorem Context.lookup_eq_watched {dotted : String} (hbare : dotted ≠ "metadata")
    (hfeeds : (Path.ofDotted dotted).head? ≠ some "feeds")
    (hhistory : (Path.ofDotted dotted).head? ≠ some "history") (c : Context) :
    c.lookup (Path.ofDotted dotted) = c.metadata.lookup (Trigger.watched dotted) := by
  unfold Context.lookup Value.lookup
  rcases Value.ofDotted_cases dotted with hnamed | ⟨hplain, hother⟩
  · rw [hnamed, Context.get?]
  · rw [hplain]
    replace hother := hother hbare
    generalize Path.ofDotted dotted = path at hfeeds hhistory hother
    unfold Context.get?
    split <;> simp_all

/-! ## Firing -/

variable {old patch : Value}

/-- **When a trigger fires**: the patch reaches the path, or the path was there and the
patch stops short of it. -/
theorem Trigger.firesOnUpdate_iff (hsorted : patch.Sorted) (old : Value)
    (dotted : String) :
    (Trigger.onUpdate dotted).firesOnUpdate old patch (old.merge patch) = true ↔
      patch.reaches (watched dotted) = true ∨
        old.reaches (watched dotted) = true ∧ patch.Cuts (watched dotted) := by
  change (patch.reaches (watched dotted) || (old.reaches (watched dotted) !=
    (old.merge patch).reaches (watched dotted))) = true ↔ _
  cases hreach : patch.reaches (watched dotted) with
  | true => simp
  | false =>
      have hnone : patch.get? (watched dotted) = none := by
        simpa [Value.reaches] using hreach
      by_cases hcuts : patch.Cuts (watched dotted)
      · simp [Value.reaches, Value.get?_merge_of_cuts hsorted hcuts, hcuts]
      · simp [Value.reaches, Value.get?_merge_of_passes hsorted hnone hcuts, hcuts]

/-- What a trigger watches is left as it is by an update that does not fire it. -/
theorem Trigger.lookup_of_not_fires (hsorted : patch.Sorted) {dotted : String}
    (h : (Trigger.onUpdate dotted).firesOnUpdate old patch (old.merge patch) = false) :
    (old.merge patch).lookup (watched dotted) = old.lookup (watched dotted) := by
  have hsilent := mt (firesOnUpdate_iff hsorted old dotted).2 (by simp [h])
  rw [not_or, not_and] at hsilent
  obtain ⟨hreach, hstays⟩ := hsilent
  have hnone : patch.get? (watched dotted) = none := by simpa [Value.reaches] using hreach
  unfold Value.lookup
  by_cases hcuts : patch.Cuts (watched dotted)
  · have hold : old.get? (watched dotted) = none := by
      simpa [Value.reaches] using fun hold => hstays hold hcuts
    rw [Value.get?_merge_of_cuts hsorted hcuts, hold]
  · rw [Value.get?_merge_of_passes hsorted hnone hcuts]

/-- **No change is missed.**  When an update changes what a condition reads at a path of
the metadata, a trigger on the path fires.  It fires exactly if the patch reaches the
path, or if the path was there and the patch holds something that is no object on the
way to it. -/
theorem Trigger.fires_on_change (hsorted : patch.Sorted) (old : Value) (dotted : String) :
    (dotted ≠ "metadata" → (Path.ofDotted dotted).head? ≠ some "feeds" →
      (Path.ofDotted dotted).head? ≠ some "history" → ∀ context : Context,
      { context with metadata := old }.lookup (Path.ofDotted dotted) ≠
        { context with metadata := old.merge patch }.lookup (Path.ofDotted dotted) →
      (Trigger.onUpdate dotted).firesOnUpdate old patch (old.merge patch) = true) ∧
    ((Trigger.onUpdate dotted).firesOnUpdate old patch (old.merge patch) = true ↔
      patch.reaches (watched dotted) = true ∨ old.reaches (watched dotted) = true ∧
        ∃ front, front <+: watched dotted ∧ front ≠ watched dotted ∧
          ∃ value, patch.get? front = some value ∧ value.isObject = false) := by
  refine ⟨fun hbare hfeeds hhistory context hchanged => ?_,
    firesOnUpdate_iff hsorted old dotted⟩
  rw [Context.lookup_eq_watched hbare hfeeds hhistory,
    Context.lookup_eq_watched hbare hfeeds hhistory] at hchanged
  by_contra hsilent
  exact hchanged (lookup_of_not_fires hsorted (by simpa using hsilent)).symm

/-- A whole profile is replaced by a word, and its address is gone. -/
theorem Trigger.fires_on_change_profile :
    let old : Value := .obj [("profile", .obj [("email", .str "a@example.com")])]
    let patch : Value := .obj [("profile", .str "gone")]
    patch.Sorted ∧
      (∀ context : Context,
        { context with metadata := old }.lookup ["metadata", "profile", "email"] ≠
        { context with metadata := old.merge patch }.lookup
        ["metadata", "profile", "email"]) ∧
      (Trigger.onUpdate "metadata.profile.email").firesOnUpdate old patch
      (old.merge patch) = true ∧
      patch.reaches (watched "metadata.profile.email") = false ∧
      old.reaches (watched "metadata.profile.email") = true := by
  intro old patch
  have hsorted : patch.Sorted := by simp [patch, Value.Sorted, Value.SortedFields]
  have hpath : Path.ofDotted "metadata.profile.email" =
      ["metadata", "profile", "email"] := by decide
  have hchanged : ∀ context : Context,
      { context with metadata := old }.lookup ["metadata", "profile", "email"] ≠
        { context with metadata := old.merge patch }.lookup
        ["metadata", "profile", "email"] := by
    intro context
    simp [Context.lookup, Context.get?, old, patch, Value.merge,
      Value.mergeFields, Value.get?, Dictionary.find?, Dictionary.insert]
  obtain ⟨hfires, hexactly⟩ :=
    Trigger.fires_on_change hsorted old "metadata.profile.email"
  have hfired := hfires (by decide) (by rw [hpath]; decide) (by rw [hpath]; decide)
    ⟨⟨"a", "flow"⟩, .null, [], none⟩ (by rw [hpath]; exact hchanged _)
  have hpast : patch.reaches (watched "metadata.profile.email") = false := by
    rw [show watched "metadata.profile.email" = ["profile", "email"] by decide]
    simp [patch, Value.reaches, Value.get?, Dictionary.find?]
  refine ⟨hsorted, hchanged, hfired, hpast, ?_⟩
  rcases hexactly.1 hfired with hreach | ⟨hold, -⟩
  · rw [hpast] at hreach
    cases hreach
  · exact hold

end Turnstile

import Turnstile.Proofs.Store.Locking

/-!
# Numbers of entries

Every number is drawn from one counter and none is given back, so no two entries of a
store share a number: neither two of the ledger, nor two that are staged, in whatever
transactions, nor one of each.  A transaction that is dropped takes its numbers with it.

* `Store.Numbered` : the invariant.
* `Store.Numbered.served` : every request keeps it.
-/

set_option autoImplicit false

namespace Turnstile

namespace Store

/-- No two entries share a number, committed or staged. -/
structure Numbered (s : Store) : Prop where
  ledger : (s.ledger.map (·.id)).Nodup
  staged : ∀ {c : Client} {t : Transaction}, s.transaction? c = some t →
    (t.entries.map (·.id)).Nodup
  uncommitted : ∀ {c : Client} {t : Transaction}, s.transaction? c = some t →
    ∀ entry ∈ t.entries, ∀ old ∈ s.ledger, old.id ≠ entry.id
  apart : ∀ {c₁ c₂ : Client} {t₁ t₂ : Transaction}, s.transaction? c₁ = some t₁ →
    s.transaction? c₂ = some t₂ → c₁ ≠ c₂ → ∀ entry ∈ t₁.entries, ∀ other ∈ t₂.entries,
      entry.id ≠ other.id

variable {s after : Store} {client : Client} {request : StoreRequest}

/-- In the empty store there are no entries. -/
theorem numbered_empty : ({} : Store).Numbered where
  ledger := List.nodup_nil
  staged h := by cases h
  uncommitted h := by cases h
  apart h := by cases h

/-- Two entries of the ledger with the same number are the same. -/
theorem Numbered.eq_of_id (h : s.Numbered) {entry other : Entry}
    (hentry : entry ∈ s.ledger) (hother : other ∈ s.ledger) (hid : entry.id = other.id) :
    entry = other :=
  List.inj_on_of_nodup_map h.ledger hentry hother hid

/-- Numbers stay apart when every transaction that is left stages what it has staged
before, and the ledger stays as it is. -/
theorem Numbered.of_kept (h : s.Numbered) (hledger : after.ledger = s.ledger)
    (hkept : ∀ {c : Client} {t : Transaction}, after.transaction? c = some t →
      t.entries = [] ∨ ∃ u, s.transaction? c = some u ∧ t.entries = u.entries) :
      after.Numbered where
  ledger := hledger ▸ h.ledger
  staged ht := by
    rcases hkept ht with hnone | ⟨u, hu, hsame⟩
    · simp [hnone]
    · exact hsame ▸ h.staged hu
  uncommitted ht := by
    rcases hkept ht with hnone | ⟨u, hu, hsame⟩
    · simp [hnone]
    · rw [hsame, hledger]
      exact h.uncommitted hu
  apart h₁ h₂ hclients := by
    rcases hkept h₁ with hnone | ⟨u₁, hu₁, hsame₁⟩
    · simp [hnone]
    rcases hkept h₂ with hnone | ⟨u₂, hu₂, hsame₂⟩
    · simp [hnone]
    rw [hsame₁, hsame₂]
    exact h.apart hu₁ hu₂ hclients

/-- What a transaction has staged becomes part of the ledger. -/
theorem Numbered.commit (h : s.Numbered) (client : Client) :
    (s.commit client).Numbered := by
  cases ht : s.transaction? client with
  | none => simpa [Store.commit, ht] using h
  | some t =>
      have hledger : (s.commit client).ledger = s.ledger ++ t.entries := by
        simp [Store.commit, ht]
      have hleft :
          ∀ {c : Client} {u : Transaction}, (s.commit client).transaction? c = some u →
            c ≠ client ∧ s.transaction? c = some u := by
        intro c u hu
        rw [transaction?_commit] at hu
        split at hu
        · cases hu
        · next hother => exact ⟨hother, hu⟩
      refine ⟨?_, fun hu => h.staged (hleft hu).2, ?_,
        fun h₁ h₂ => h.apart (hleft h₁).2 (hleft h₂).2⟩
      · rw [hledger, List.map_append, List.nodup_append]
        refine ⟨h.ledger, h.staged ht, ?_⟩
        intro id hid other hother
        obtain ⟨old, hold, rfl⟩ := List.mem_map.1 hid
        obtain ⟨entry, hentry, rfl⟩ := List.mem_map.1 hother
        exact h.uncommitted ht entry hentry old hold
      · intro c u hu entry hentry old hold
        obtain ⟨hother, hbefore⟩ := hleft hu
        rw [hledger] at hold
        rcases List.mem_append.1 hold with hcommitted | hnew
        · exact h.uncommitted hbefore entry hentry old hcommitted
        · exact h.apart ht hbefore hother.symm old hnew entry hentry

/-- An entry that is added gets a number that no other has. -/
theorem Numbered.append (h : s.Numbered) (hs : s.Sound) (entry : Entry)
    (hid : entry.id = s.nextId) :
    ({ s.update client (adding entry) with nextId := s.nextId + 1 } :
      Store).Numbered := by
  have hfresh : ∀ {old : Int}, old < s.nextId → old ≠ entry.id := by
    intro old hold
    omega
  -- a staged entry is the new one, or was staged before
  have hstaged : ∀ {c : Client} {t : Transaction},
      ({ s.update client (adding entry) with nextId := s.nextId + 1 } :
        Store).transaction? c = some t →
      ∃ u, s.transaction? c = some u ∧
        ((c = client ∧ t.entries = u.entries ++ [entry]) ∨
          (c ≠ client ∧ t.entries = u.entries)) := by
    intro c t ht
    have hclient : ∀ t, (adding entry t).client = t.client := fun _ => rfl
    rcases transaction?_of_update hclient ht with
      ⟨rfl, u, hu, rfl⟩ | ⟨hother, hu⟩
    · exact ⟨u, hu, .inl ⟨rfl, rfl⟩⟩
    · exact ⟨t, hu, .inr ⟨hother, rfl⟩⟩
  refine ⟨h.ledger, ?_, ?_, ?_⟩
  · intro c t ht
    obtain ⟨u, hu, ⟨-, hentries⟩ | ⟨-, hentries⟩⟩ := hstaged ht
    · rw [hentries, List.map_append, List.nodup_append]
      refine ⟨h.staged hu, by simp, ?_⟩
      intro id hold other hother
      obtain ⟨old, hin, rfl⟩ := List.mem_map.1 hold
      obtain rfl : other = entry.id := by simpa using hother
      exact hfresh (hs.stagedIds hu old hin)
    · exact hentries ▸ h.staged hu
  · intro c t ht added hadded old hold
    obtain ⟨u, hu, ⟨-, hentries⟩ | ⟨-, hentries⟩⟩ := hstaged ht
    · rw [hentries] at hadded
      rcases List.mem_append.1 hadded with hbefore | hnew
      · exact h.uncommitted hu added hbefore old hold
      · obtain rfl := List.mem_singleton.1 hnew
        exact hfresh (hs.ledgerIds old hold)
    · exact h.uncommitted hu added (hentries ▸ hadded) old hold
  · intro c₁ c₂ t₁ t₂ h₁ h₂ hclients first hfirst second hsecond
    obtain ⟨u₁, hu₁, ⟨rfl, hentries₁⟩ | ⟨hother₁, hentries₁⟩⟩ := hstaged h₁ <;>
      obtain ⟨u₂, hu₂, ⟨rfl, hentries₂⟩ | ⟨hother₂, hentries₂⟩⟩ := hstaged h₂ <;>
      rw [hentries₁] at hfirst <;> rw [hentries₂] at hsecond
    · exact absurd rfl hclients
    · rcases List.mem_append.1 hfirst with hbefore | hnew
      · exact h.apart hu₁ hu₂ hclients first hbefore second hsecond
      · obtain rfl := List.mem_singleton.1 hnew
        exact (hfresh (hs.stagedIds hu₂ second hsecond)).symm
    · rcases List.mem_append.1 hsecond with hbefore | hnew
      · exact h.apart hu₁ hu₂ hclients first hfirst second hbefore
      · obtain rfl := List.mem_singleton.1 hnew
        exact hfresh (hs.stagedIds hu₁ first hfirst)
    · exact h.apart hu₁ hu₂ hclients first hfirst second hsecond

/-- **Requests keep numbers apart**, whoever makes them and in whatever order. -/
theorem Numbered.served (h : s.Numbered) (hs : s.Sound)
    (hserved : Served s client request after) :
    after.Numbered := by
  have hchanged : ∀ (change : Transaction → Transaction) {c : Client} {t : Transaction},
      (∀ t, (change t).client = t.client) → (∀ t, (change t).entries = t.entries) →
      (s.update client change).transaction? c = some t →
      t.entries = [] ∨ ∃ u, s.transaction? c = some u ∧ t.entries = u.entries := by
    intro change c t hclient hentries ht
    rcases transaction?_of_update hclient ht with ⟨rfl, u, hu, rfl⟩ | ⟨-, hu⟩
    · exact .inr ⟨u, hu, hentries u⟩
    · exact .inr ⟨t, hu, rfl⟩
  cases hserved with
  | same => exact h
  | begun =>
      refine h.of_kept rfl fun {c t} ht => ?_
      rw [transaction?_begin] at ht
      split at ht
      · exact .inl (Option.some.inj ht ▸ rfl)
      · exact .inr ⟨t, ht, rfl⟩
  | committed => exact h.commit client
  | rolledBack =>
      refine h.of_kept rfl fun {c t} ht => ?_
      rw [transaction?_rollback] at ht
      split at ht
      · cases ht
      · exact .inr ⟨t, ht, rfl⟩
  | locked =>
      exact h.of_kept rfl fun ht => hchanged (taking _) (fun _ => rfl) (fun _ => rfl) ht
  | saved =>
      exact h.of_kept rfl fun ht => hchanged (staging _) (fun _ => rfl) (fun _ => rfl) ht
  | @appended move now hheld => exact h.append hs _ rfl

/-- The ledger only grows. -/
theorem Served.ledger_prefix (hserved : Served s client request after) :
    s.ledger <+: after.ledger := by
  rcases hserved.committed_or_same with ⟨-, rfl⟩ | ⟨-, -, hsame⟩
  · unfold Store.commit
    split
    · exact List.prefix_rfl
    · exact List.prefix_append _ _
  · exact hsame ▸ List.prefix_rfl

end Store

end Turnstile

import Mathlib.Data.List.Nodup
import Turnstile.Store.Request

/-!
# The tables of the store

What every operation does to the three things that can be seen of a store: the row of a
label, its committed entries, and the open transaction of a client.

* `findRow_putRow`, `findRow_putRows`: what rows that were put are found under.
* `Store.transaction?_update` and its companions: the transactions of others stay as
  they are.
* `Store.row?_commit`, `Store.history_commit`: a commit makes visible what was staged.
-/

set_option autoImplicit false

namespace Turnstile

open Time (DateTime)

/-! ## Rows and entries -/

/-- The first row of a label is the one that counts. -/
theorem findRow_cons (row : Record) (rows : List Record) (label : Label) :
    findRow (row :: rows) label = if row.label = label then some row
      else findRow rows label := by
  by_cases h : row.label = label <;> simp [findRow, h]

/-- A row that was put is found under its label, and all others stay. -/
theorem findRow_putRow (row : Record) (rows : List Record) (label : Label) :
    findRow (putRow row rows) label = if row.label = label then some row
      else findRow rows label := by
  induction rows with
  | nil => exact findRow_cons row [] label
  | cons other rest ih =>
      by_cases hsame : other.label = row.label
      · simp only [putRow, hsame, if_true, findRow_cons]
        split <;> rfl
      · simp only [putRow, hsame, if_false, findRow_cons, ih]
        by_cases hrow : row.label = label
        · simp [hrow, show other.label ≠ label from fun h => hsame (h.trans hrow.symm)]
        · simp [hrow]

/-- Rows of distinct labels that were put are found; under other labels the old rows
stay. -/
theorem findRow_putRows {staged : List Record} (honce : (staged.map (·.label)).Nodup)
    (rows : List Record) (label : Label) :
    findRow (putRows rows staged) label =
      (findRow staged label).or (findRow rows label) := by
  induction staged generalizing rows with
  | nil => rfl
  | cons row rest ih =>
      rw [List.map_cons, List.nodup_cons] at honce
      change findRow (putRows (putRow row rows) rest) label = _
      rw [ih honce.2, findRow_putRow, findRow_cons]
      by_cases hrow : row.label = label
      · have habsent : findRow rest label = none := by
          rw [findRow, List.find?_eq_none]
          intro other hother hlabel
          exact honce.1 (List.mem_map.2 ⟨other, hother, by simpa [hrow] using hlabel⟩)
        simp [hrow, habsent]
      · simp [hrow]

/-- The labels of rows after one was put: its own is there once. -/
theorem nodup_putRow {rows : List Record} (honce : (rows.map (·.label)).Nodup)
    (row : Record) :
    ((putRow row rows).map (·.label)).Nodup := by
  have hmem : ∀ (rows : List Record) label, label ∈ (putRow row rows).map (·.label) →
      label = row.label ∨ label ∈ rows.map (·.label) := by
    intro rows label
    induction rows with
    | nil => simp [putRow]
    | cons other rest ih =>
        by_cases hsame : other.label = row.label
        · simp [putRow, hsame]
        · simp only [putRow, hsame, if_false, List.map_cons, List.mem_cons]
          grind
  induction rows with
  | nil => simp [putRow]
  | cons other rest ih =>
      rw [List.map_cons, List.nodup_cons] at honce
      by_cases hsame : other.label = row.label
      · simp only [putRow, hsame, if_true, List.map_cons, List.nodup_cons]
        exact ⟨hsame ▸ honce.1, honce.2⟩
      · simp only [putRow, hsame, if_false, List.map_cons, List.nodup_cons]
        refine ⟨fun hin => ?_, ih honce.2⟩
        rcases hmem rest _ hin with h | h
        · exact hsame h
        · exact honce.1 h

/-- A row that is found after one was put is that one or was there before. -/
theorem mem_putRow {row found : Record} {rows : List Record}
    (h : found ∈ putRow row rows) :
    found = row ∨ found ∈ rows := by
  induction rows with
  | nil => simpa [putRow] using h
  | cons other rest ih =>
      by_cases hsame : other.label = row.label
      · simp only [putRow, hsame, if_true, List.mem_cons] at h ⊢
        tauto
      · simp only [putRow, hsame, if_false, List.mem_cons] at h ⊢
        rcases h with rfl | h
        · exact .inr (.inl rfl)
        · exact (ih h).imp id .inr

/-- The entries of a label are found in every part of the ledger. -/
@[simp] theorem entriesOf_append (entries more : List Entry) (label : Label) :
    entriesOf (entries ++ more) label = entriesOf entries label ++ entriesOf more label :=
  List.filter_append ..

/-- The entries of a label are those that are about it. -/
theorem mem_entriesOf {entries : List Entry} {label : Label} {entry : Entry} :
    entry ∈ entriesOf entries label ↔ entry ∈ entries ∧ entry.label = label := by
  simp [entriesOf]

namespace Store

variable {s : Store} {client other : Client} {label : Label}

/-! ## Transactions -/

/-- The transaction of a client is the client's. -/
theorem transaction?_client {t : Transaction} (h : s.transaction? client = some t) :
    t.client = client := by
  simpa using List.find?_some h

/-- A change to one transaction leaves those of others alone. -/
theorem transaction?_update (change : Transaction → Transaction)
    (hchange : ∀ t, (change t).client = t.client) :
    (s.update client change).transaction? other =
      if other = client then (s.transaction? client).map change
      else s.transaction? other := by
  have hpred : (fun t : Transaction => decide (t.client = other)) ∘
      (fun t => if t.client = client then change t else t) =
        fun t => decide (t.client = other) := by
    funext t
    by_cases h : t.client = client <;> simp [h, hchange]
  simp only [transaction?, Store.update, List.find?_map, hpred]
  cases hfound : s.transactions.find? fun t => decide (t.client = other) with
  | none =>
      by_cases h : other = client
      · subst h; simp [hfound]
      · simp [h]
  | some t =>
      have hclient : t.client = other := by simpa using List.find?_some hfound
      by_cases h : other = client
      · subst h; simp [hfound, hclient]
      · simp [h, hclient]

/-- A client's own transaction after a change of it. -/
theorem transaction?_update_self {t : Transaction} (h : s.transaction? client = some t)
    (change : Transaction → Transaction) (hchange : ∀ t, (change t).client = t.client) :
    (s.update client change).transaction? client = some (change t) := by
  rw [transaction?_update change hchange, if_pos rfl, h, Option.map_some]

/-- To roll back ends the transaction of one client. -/
@[simp] theorem transaction?_rollback :
    (s.rollback client).transaction? other =
      if other = client then none else s.transaction? other := by
  simp only [transaction?, rollback, List.find?_filter]
  split
  · next h => subst h; exact List.find?_eq_none.2 fun t _ => by simp
  · next h =>
      congr 1
      funext t
      by_cases ht : t.client = other <;> simp [ht, h]

/-- To begin opens an empty transaction for one client. -/
@[simp] theorem transaction?_begin :
    (s.begin client).transaction? other =
      if other = client then some ⟨client, [], [], []⟩ else s.transaction? other := by
  have happend : (s.begin client).transaction? other =
      ((s.rollback client).transaction? other).or
        ([⟨client, [], [], []⟩].find? fun t : Transaction => decide (t.client = other)) :=
    List.find?_append
  rw [happend, transaction?_rollback]
  by_cases h : other = client
  · simp [h]
  · simp [h, show client ≠ other from fun e => h e.symm]

/-- To commit ends the transaction of one client. -/
@[simp] theorem transaction?_commit :
    (s.commit client).transaction? other =
      if other = client then none else s.transaction? other := by
  unfold Store.commit
  split
  · next h =>
      split
      · next heq => rw [heq, h]
      · rfl
  · exact transaction?_rollback

/-- A client holds what its transaction has locked. -/
theorem holds_iff : s.holds client label = true ↔
    ∃ t, s.transaction? client = some t ∧ label ∈ t.locked := by
  simp [Store.holds, Transaction.holds, Option.any_eq_true]

/-! ## Commits -/

/-- A commit puts the rows that its transaction staged. -/
theorem row?_commit {t : Transaction} (ht : s.transaction? client = some t)
    (honce : (t.rows.map (·.label)).Nodup) :
    (s.commit client).row? label = (findRow t.rows label).or (s.row? label) := by
  simp only [Store.commit, ht, row?]
  exact findRow_putRows honce s.rows label

/-- A commit adds the entries that its transaction staged. -/
theorem history_commit {t : Transaction} (ht : s.transaction? client = some t) :
    (s.commit client).history label = s.history label ++ entriesOf t.entries label := by
  simp only [Store.commit, ht, history, entriesOf_append]

end Store

end Turnstile

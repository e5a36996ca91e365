import Turnstile.Proofs.Store.Locking

/-!
# Listings

A store keeps one row for each label (`Store.Served.rows_nodup`), so a row that is
listed is the one that is found under its label.  The labels in a state and the names of
the live labels are read off the rows: `Store.mem_rowsInState` and `Store.mem_liveNames`
say of a store which labels they are.
-/

set_option autoImplicit false

namespace Turnstile

namespace Store

variable {s after : Store} {client : Client} {request : StoreRequest} {row : Record}
  {label : Label}
variable {machine state name : String}

/-- Rows that are put stay one for each label. -/
theorem nodup_putRows {rows : List Record} (honce : (rows.map (·.label)).Nodup)
    (staged : List Record) :
    ((putRows rows staged).map (·.label)).Nodup := by
  induction staged generalizing rows with
  | nil => exact honce
  | cons row rest ih => exact ih (nodup_putRow honce row)

/-- **One row for each label**, whoever asks for what. -/
theorem Served.rows_nodup (h : Served s client request after)
    (honce : (s.rows.map (·.label)).Nodup) :
    (after.rows.map (·.label)).Nodup := by
  rcases h.committed_or_same with ⟨-, rfl⟩ | ⟨-, hrows, -⟩
  · unfold Store.commit
    split
    · exact honce
    · exact nodup_putRows honce _
  · exact hrows ▸ honce

/-- A row is the one that is found under its label. -/
theorem row?_eq_some_iff (honce : (s.rows.map (·.label)).Nodup) :
    s.row? label = some row ↔ row ∈ s.rows ∧ row.label = label := by
  unfold row? findRow
  constructor
  · intro h
    exact ⟨List.mem_of_find?_eq_some h, by simpa using List.find?_some h⟩
  · rintro ⟨hrow, rfl⟩
    cases hfound : s.rows.find? fun other => other.label = row.label with
    | none => exact absurd (List.find?_eq_none.1 hfound row hrow) (by simp)
    | some other =>
        have hlabel : other.label = row.label := by simpa using List.find?_some hfound
        rw [List.inj_on_of_nodup_map honce (List.mem_of_find?_eq_some hfound) hrow hlabel]

/-- The rows of the live labels in a state. -/
theorem mem_rowsInState (honce : (s.rows.map (·.label)).Nodup) :
    row ∈ s.rowsInState machine state ↔
    s.row? row.label = some row ∧ row.label.machine = machine ∧
      row.deleted = false ∧ s.lastState? row.label = some state := by
  simp only [rowsInState, liveRows, List.mem_mergeSort, List.mem_filter,
    row?_eq_some_iff honce, Bool.and_eq_true, decide_eq_true_eq,
    Bool.not_eq_true', beq_iff_eq]
  tauto

/-- The names of the live labels. -/
theorem mem_liveNames (honce : (s.rows.map (·.label)).Nodup) :
    name ∈ s.liveNames machine ↔
    ∃ row, s.row? ⟨name, machine⟩ = some row ∧ row.deleted = false := by
  simp only [liveNames, liveRows, List.mem_mergeSort, List.mem_map, List.mem_filter,
    row?_eq_some_iff honce, Bool.and_eq_true, decide_eq_true_eq, Bool.not_eq_true']
  constructor
  · rintro ⟨row, ⟨hrow, rfl, hlive⟩, rfl⟩
    exact ⟨row, ⟨hrow, rfl⟩, hlive⟩
  · rintro ⟨row, ⟨hrow, hlabel⟩, hlive⟩
    exact ⟨row, ⟨hrow, by rw [hlabel], hlive⟩, by rw [hlabel]⟩

end Store

end Turnstile

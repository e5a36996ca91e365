import Turnstile.Proofs.Store.Listings
import Turnstile.Proofs.Store.Serial

/-!
# Stores that agree on a label

Two stores are compared, of which the second holds nothing but one label.  They are in
`Accord` when they hold the same row of that label, and entries that differ in their
numbers only.  A client works in both at once while it works on the label, and in the
first alone while it works on another (`Store.Stands`).

* `StoreRequest.Within` : the requests of a transaction on one label, and those that
  only read.
* `StoreRequest.Alike` : answers that are the same up to numbers of entries.
* `Accord.serve_both` : a request about the label is answered alike in both stores,
  which remain in accord.
* `Accord.serve_alone` : a request about another label, made in the first store alone,
  leaves them in accord.
-/

set_option autoImplicit false

namespace Turnstile

open Time (DateTime)

/-! ## Entries up to their numbers -/

/-- What an entry says, apart from its number. -/
def Entry.unnumbered (entry : Entry) : Move × DateTime := (entry.toMove, entry.created)

/-- Where there is an entry there is one that differs in its number only. -/
theorem Entry.unnumbered_cases {found other : Option Entry}
    (h : found.map Entry.unnumbered = other.map Entry.unnumbered) :
    (found = none ∧ other = none) ∨
    ∃ entry entry' : Entry, found = some entry ∧ other = some entry' ∧
      entry.toMove = entry'.toMove ∧ entry.created = entry'.created := by
  cases found with
  | none => exact .inl ⟨rfl, Option.map_eq_none_iff.1 h.symm⟩
  | some entry =>
      obtain ⟨entry', hother, hsame⟩ := Option.map_eq_some_iff.1 h.symm
      exact .inr ⟨entry, entry', rfl, hother, (congrArg Prod.fst hsame).symm,
        (congrArg Prod.snd hsame).symm⟩

/-- Entries that differ in their numbers only, and stand in the order of them. -/
structure Renumbered (entries others : List Entry) : Prop where
  same : entries.map Entry.unnumbered = others.map Entry.unnumbered
  ordered : entries.Pairwise fun a b => a.id < b.id
  ordered_others : others.Pairwise fun a b => a.id < b.id

/-- Entries that differ in their numbers only end in the same state. -/
theorem entered_of_unnumbered {entries others : List Entry}
    (h : entries.map Entry.unnumbered = others.map Entry.unnumbered) :
    entries.getLast?.bind (·.entered) = others.getLast?.bind (·.entered) := by
  have hlast : ∀ entries : List Entry, entries.getLast?.bind (·.entered) =
      (entries.map Entry.unnumbered).getLast?.bind fun told => told.1.entered := by
    intro entries
    rw [List.getLast?_map, Option.bind_map]
    rfl
  rw [hlast entries, h, ← hlast others]

/-! ## Orderly stores -/

namespace Store

variable {s r after : Store} {client other : Client} {label : Label}
  {request : StoreRequest}

/-- What a client sees of a label when it has no transaction. -/
theorem ownHistory_of_none (h : s.transaction? client = none) (label : Label) :
    s.ownHistory client label = s.history label := by
  simp [ownHistory, h, entriesOf]

/-- What a client sees of a label within its transaction. -/
theorem ownHistory_of_some {t : Transaction} (h : s.transaction? client = some t)
    (label : Label) :
    s.ownHistory client label = s.history label ++ entriesOf t.entries label := by
  simp [ownHistory, h]

/-- What is committed is seen by everybody. -/
theorem history_sublist_ownHistory (client : Client) (label : Label) :
    (s.history label).Sublist (s.ownHistory client label) :=
  List.sublist_append_left _ _

/-- What a client sees depends on what is committed and on what it has staged. -/
theorem ownHistory_congr (hledger : after.ledger = s.ledger)
    (hstaged : (after.transaction? client).map Transaction.entries =
      (s.transaction? client).map Transaction.entries) (label : Label) :
    after.ownHistory client label = s.ownHistory client label := by
  rw [ownHistory, hstaged, history, hledger, ownHistory, history]

/-- A change of a transaction that adds no entries changes nothing that its client
sees. -/
theorem ownHistory_update {change : Transaction → Transaction}
    (hclient : ∀ t, (change t).client = t.client)
    (hentries : ∀ t, (change t).entries = t.entries) :
    (s.update client change).ownHistory client label = s.ownHistory client label := by
  have hledger : (s.update client change).ledger = s.ledger := rfl
  refine ownHistory_congr hledger ?_ label
  rw [transaction?_update change hclient, if_pos rfl, Option.map_map]
  exact congrArg (fun f => (s.transaction? client).map f) (funext hentries)

/-- An entry that is added is seen under its label. -/
theorem ownHistory_adding {entry : Entry} (hheld : s.holds client entry.label = true)
    (label : Label) :
    (s.update client (adding entry)).ownHistory client label =
      s.ownHistory client label ++ entriesOf [entry] label := by
  obtain ⟨t, ht, -⟩ := holds_iff.1 hheld
  rw [ownHistory_of_some (transaction?_update_self ht (adding entry) fun _ => rfl),
    ownHistory_of_some ht, adding, entriesOf_append, List.append_assoc]
  rfl

/-- Nobody else holds a lock that a client holds. -/
theorem Sound.holds_other (hs : s.Sound) (hheld : s.holds client label = true)
    (hother : other ≠ client) :
    s.holds other label = false := by
  refine Bool.eq_false_iff.2 fun hheld' => hother ?_
  obtain ⟨t, ht, hin⟩ := holds_iff.1 hheld
  obtain ⟨u, hu, hin'⟩ := holds_iff.1 hheld'
  exact hs.exclusive hu ht hin' hin

/-- What is staged by a client that does not hold the lock of a label leaves out the
label. -/
theorem Sound.entriesOf_unheld (hs : s.Sound) {t : Transaction}
    (ht : s.transaction? client = some t) (hfree : label ∉ t.locked) :
    entriesOf t.entries label = [] := by
  refine List.filter_eq_nil_iff.2 fun entry hentry hlabel => hfree ?_
  exact of_decide_eq_true hlabel ▸ hs.entriesHeld ht entry hentry

/-- Whoever does not hold the lock of a label sees what is committed. -/
theorem Sound.ownHistory_unheld (hs : s.Sound) (hfree : s.holds client label = false) :
    s.ownHistory client label = s.history label := by
  cases ht : s.transaction? client with
  | none => exact ownHistory_of_none ht label
  | some t =>
      have hunlocked : label ∉ t.locked := fun hin =>
        Bool.false_ne_true (hfree.symm.trans (holds_iff.2 ⟨t, ht, hin⟩))
      rw [ownHistory_of_some ht, hs.entriesOf_unheld ht hunlocked, List.append_nil]

/-- What is committed was seen by the client before. -/
theorem history_commit_sublist (s : Store) (client : Client) (label : Label) :
    ((s.commit client).history label).Sublist (s.ownHistory client label) := by
  cases ht : s.transaction? client with
  | none =>
      simp only [commit, ht]
      exact history_sublist_ownHistory client label
  | some t => rw [history_commit ht, ownHistory_of_some ht]

/-- When a client commits, another sees what one of them saw before. -/
theorem Sound.ownHistory_commit (hs : s.Sound) (hother : other ≠ client) (label : Label) :
    ∃ c, ((s.commit client).ownHistory other label).Sublist (s.ownHistory c label) := by
  have hserved : Served s client .commit (s.commit client) := .committed
  have htransaction := hserved.transaction?_other hother
  cases hheld : s.holds client label with
  | true =>
      have hfree : (s.commit client).holds other label = false := by
        rw [holds_congr htransaction]
        exact hs.holds_other hheld hother
      rw [(hs.served hserved).ownHistory_unheld hfree]
      exact ⟨client, history_commit_sublist s client label⟩
  | false =>
      obtain ⟨-, hpast⟩ := hserved.committed_other hs hheld
      rw [ownHistory, hpast, htransaction]
      exact ⟨other, List.Sublist.refl _⟩

/-- **What is seen of a label** after a request was seen by somebody before, or one
entry was added to it, with the next number. -/
theorem Served.ownHistory (hs : s.Sound) (h : Served s client request after)
    (other : Client) (label : Label) :
    (∃ c, (after.ownHistory other label).Sublist (s.ownHistory c label)) ∨
      ∃ entry : Entry, entry.id = s.nextId ∧
        after.ownHistory other label = s.ownHistory other label ++ [entry] := by
  have hkept : ∀ {seen : List Entry}, seen = s.ownHistory other label →
      ∃ c, seen.Sublist (s.ownHistory c label) :=
        fun hsame => ⟨other, hsame ▸ List.Sublist.refl _⟩
  by_cases hother : other = client
  · subst hother
    have hseen : (s.history label).Sublist (s.ownHistory other label) :=
      history_sublist_ownHistory other label
    cases h with
    | same => exact .inl (hkept rfl)
    | begun =>
        refine .inl ⟨other, ?_⟩
        rw [ownHistory_of_some (t := ⟨other, [], [], []⟩) (by simp), entriesOf,
          List.filter_nil, List.append_nil]
        exact hseen
    | rolledBack =>
        refine .inl ⟨other, ?_⟩
        rw [ownHistory_of_none (by simp)]
        exact hseen
    | locked => exact .inl (hkept (ownHistory_update (fun _ => rfl) fun _ => rfl))
    | saved => exact .inl (hkept (ownHistory_update (fun _ => rfl) fun _ => rfl))
    | committed =>
        refine .inl ⟨other, ?_⟩
        rw [ownHistory_of_none (by simp)]
        exact history_commit_sublist s other label
    | @appended move now hheld =>
        let entry : Entry := { move with id := s.nextId, created := now }
        have hadded : (s.update other (adding entry)).ownHistory other label =
            s.ownHistory other label ++ entriesOf [entry] label :=
              ownHistory_adding hheld label
        by_cases hlabel : entry.label = label
        · rw [show entriesOf [entry] label =
            [entry] by simp [entriesOf, hlabel]] at hadded
          exact .inr ⟨entry, rfl, hadded⟩
        · rw [show entriesOf [entry] label = [] by simp [entriesOf, hlabel],
            List.append_nil] at hadded
          exact .inl (hkept hadded)
  · rcases h.committed_or_same with ⟨-, rfl⟩ | ⟨-, -, hledger⟩
    · exact .inl (hs.ownHistory_commit hother label)
    · exact .inl
        (hkept (ownHistory_congr hledger (by rw [h.transaction?_other hother]) label))

/-- A store as its requests leave it: sound, with one row for each label, and what
anybody sees of a label stands in the order of its numbers. -/
structure Orderly (s : Store) : Prop where
  sound : s.Sound
  once : (s.rows.map (·.label)).Nodup
  ordered : ∀ client label, (s.ownHistory client label).Pairwise fun a b => a.id < b.id

/-- The empty store is orderly. -/
theorem orderly_empty : ({} : Store).Orderly where
  sound := sound_empty
  once := List.nodup_nil
  ordered _ _ := List.Pairwise.nil

/-- The committed entries of a label stand in the order of their numbers. -/
theorem Orderly.history (h : s.Orderly) (label : Label) :
    (s.history label).Pairwise fun a b => a.id < b.id :=
  (h.ordered (.worker 0) label).sublist (history_sublist_ownHistory _ _)

/-- Numbers that are seen were drawn from the counter. -/
theorem Sound.ownHistory_lt (hs : s.Sound) {entry : Entry}
    (h : entry ∈ s.ownHistory client label) :
    entry.id < s.nextId := by
  rcases List.mem_append.1 h with hpast | hstaged
  · exact hs.ledgerIds entry (mem_entriesOf.1 hpast).1
  · cases ht : s.transaction? client with
    | none => simp [ht, entriesOf] at hstaged
    | some t =>
        simp only [ht, Option.map_some, Option.getD_some] at hstaged
        exact hs.stagedIds ht entry (mem_entriesOf.1 hstaged).1

/-- **Requests keep a store orderly.** -/
theorem Orderly.served (h : s.Orderly) (hserved : Served s client request after) :
    after.Orderly where
  sound := h.sound.served hserved
  once := hserved.rows_nodup h.once
  ordered other label := by
    rcases hserved.ownHistory h.sound other label with ⟨c, hsub⟩ | ⟨entry, hid, hadded⟩
    · exact (h.ordered c label).sublist hsub
    · rw [hadded, List.pairwise_append]
      refine ⟨h.ordered other label, List.pairwise_singleton _ _,
        fun old hold new hnew => ?_⟩
      rw [List.mem_singleton.1 hnew, hid]
      exact h.sound.ownHistory_lt hold

/-- Of two rows in a state that are listed neither has the label of the other. -/
theorem nodup_rowsInState (honce : (s.rows.map (·.label)).Nodup)
    (machine state : String) :
    ((s.rowsInState machine state).map (·.label)).Nodup := by
  have hperm : (s.rowsInState machine state).Perm _ := List.mergeSort_perm _ _
  refine ((hperm.map _).nodup_iff).2 (honce.sublist (List.Sublist.map _ ?_))
  exact List.filter_sublist.trans List.filter_sublist

/-- What a lock answers that is not taken. -/
theorem serve_lock {t : Transaction} (ht : s.transaction? client = some t)
    (hfree : s.isTaken client label = false) (now : DateTime) :
    (StoreRequest.lock label).serve client now s =
      some (.ok ((findRow t.rows label).or (s.row? label)),
        if s.holds client label then s else s.update client (taking label)) := by
  simp only [StoreRequest.serve, lock?, hfree, Bool.false_eq_true, if_false,
    Option.map_some]
  split
  · rw [ownRow?_eq ht]
  · have hown : (s.update client (taking label)).ownRow? client label =
        (findRow t.rows label).or (s.row? label) :=
      ownRow?_eq (transaction?_update_self ht (taking label) fun _ => rfl)
    exact congrArg
      (fun found => some (Except.ok found, s.update client (taking label))) hown

/-- A row that is found under a label is of the label. -/
theorem label_of_findRow {rows : List Record} {row : Record}
    (h : findRow rows label = some row) :
    row.label = label := by
  simpa using List.find?_some h

/-- The row that a client sees under a label is of the label. -/
theorem label_of_ownRow? {row : Record} (h : s.ownRow? client label = some row) :
    row.label = label := by
  unfold ownRow? at h
  split at h
  · next other hstaged =>
      obtain rfl := Option.some.inj h
      obtain ⟨t, -, hfound⟩ := Option.bind_eq_some_iff.1 hstaged
      exact label_of_findRow hfound
  · exact label_of_findRow h

/-- A change of a transaction leaves it open. -/
theorem isOpen_update (change : Transaction → Transaction)
    (hchange : ∀ t, (change t).client = t.client) :
    (s.update client change).isOpen client = s.isOpen client := by
  rw [isOpen, transaction?_update change hchange, if_pos rfl, Option.isSome_map, isOpen]

end Store

/-! ## Requests about one label -/

namespace StoreRequest

/-- The requests of a transaction on one label, and those that only read; and whether
the transaction is open before and after them. -/
inductive Within (label : Label) : Bool → StoreRequest → Bool → Prop
  | begin : Within label false .begin true
  | lock : Within label true (.lock label) true
  | save {row : Record} (hlabel : row.label = label) : Within label true (.save row) true
  | append {move : Move} (hlabel : move.label = label) :
      Within label true (.append move) true
  | ownHistory : Within label true (.ownHistory label) true
  | commit : Within label true .commit false
  | rollback : Within label true .rollback false
  | row {opened : Bool} : Within label opened (.row label) opened
  | history {opened : Bool} : Within label opened (.history label) opened
  | rowsInState {opened : Bool} {machine state : String} :
      Within label opened (.rowsInState machine state) opened
  | liveNames {opened : Bool} {machine : String} :
      Within label opened (.liveNames machine) opened

/-- Two answers to a request about a label are the same up to numbers of entries, when
the second is given by a store that holds nothing but the label. -/
def Alike (label : Label) : (request : StoreRequest) → Except StoreError request.Result →
    Except StoreError request.Result → Prop
  | .begin, answer, other => answer = .ok () ∧ other = .ok ()
  | .lock _, answer, other =>
      ∃ found : Option Record, answer = .ok found ∧ other = .ok found ∧
        ∀ row, found = some row → row.label = label
  | .save _, answer, other => answer = other
  | .append _, answer, other =>
      (∃ entry entry' : Entry, answer = .ok entry ∧ other = .ok entry' ∧
        entry.unnumbered = entry'.unnumbered) ∨
        ∃ refusal, answer = .error refusal ∧ other = .error refusal
  | .ownHistory _, answer, other =>
      ∃ entries entries', answer = .ok entries ∧ other = .ok entries' ∧
        Renumbered entries entries'
  | .commit, answer, other => answer = .ok () ∧ other = .ok ()
  | .rollback, answer, other => answer = .ok () ∧ other = .ok ()
  | .row _, answer, other =>
      ∃ found : Option Record, answer = .ok found ∧ other = .ok found ∧
        ∀ row, found = some row → row.label = label
  | .history _, answer, other =>
      ∃ entries entries', answer = .ok entries ∧ other = .ok entries' ∧
        Renumbered entries entries'
  | .rowsInState machine _, answer, other => ∃ rows : List Record, answer = .ok rows ∧
      other = .ok (rows.filter fun row => row.label = label) ∧
      ∀ row ∈ rows, row.label.machine = machine
  | .liveNames _, answer, _ => ∃ names, answer = .ok names

end StoreRequest

/-! ## Accord -/

/-- Two transactions have locked at most one label, the same, and have staged the same
for it up to numbers of entries. -/
structure Transaction.Twin (label : Label) (t other : Transaction) : Prop where
  locked : t.locked = other.locked
  confined : ∀ taken ∈ t.locked, taken = label
  rows : t.rows = other.rows
  entries : t.entries.map Entry.unnumbered = other.entries.map Entry.unnumbered

namespace Transaction.Twin

variable {label : Label} {t u : Transaction} {s r : Store} {client : Client}

/-- Transactions begin as twins. -/
theorem begun : Transaction.Twin label ⟨client, [], [], []⟩ ⟨client, [], [], []⟩ :=
  ⟨rfl, fun _ h => (List.not_mem_nil h).elim, rfl, rfl⟩

/-- What a transaction confined to a label has staged is of the label. -/
theorem entriesOf (h : t.Twin label u) (hs : s.Sound)
    (ht : s.transaction? client = some t) :
    Turnstile.entriesOf t.entries label = t.entries :=
  List.filter_eq_self.2 fun entry hentry => by
    simpa using h.confined _ (hs.entriesHeld ht entry hentry)

/-- All that the other transaction has added is about the label. -/
theorem entriesOf_other (h : t.Twin label u) (hs : r.Sound)
    (hu : r.transaction? client = some u) :
    Turnstile.entriesOf u.entries label = u.entries :=
  List.filter_eq_self.2 fun entry hentry => by
    simpa using h.confined _ (h.locked ▸ hs.entriesHeld hu entry hentry)

/-- Twins hold the same locks. -/
theorem holds (h : t.Twin label u) (ht : s.transaction? client = some t)
    (hu : r.transaction? client = some u) (other : Label) :
    s.holds client other = r.holds client other := by
  simp [Store.holds, ht, hu, Transaction.holds, h.locked]

/-- The lock of the label is the only one that twins hold. -/
theorem unheld (h : t.Twin label u) (hu : r.transaction? client = some u) {other : Label}
    (hother : other ≠ label) : r.holds client other = false := by
  refine Bool.eq_false_iff.2 fun hheld => ?_
  obtain ⟨u', hu', hlocked⟩ := Store.holds_iff.1 hheld
  obtain rfl : u = u' := Option.some.inj (hu.symm.trans hu')
  exact hother (h.confined other (h.locked ▸ hlocked))

/-- Twins that lock a label remain twins. -/
theorem taking (h : t.Twin label u) :
    (Store.taking label t).Twin label (Store.taking label u) where
  locked := congrArg (label :: ·) h.locked
  confined taken hin := (List.mem_cons.1 hin).elim id (h.confined taken)
  rows := h.rows
  entries := h.entries

/-- Twins that stage a row remain twins. -/
theorem staging (h : t.Twin label u) (row : Record) :
    (Store.staging row t).Twin label (Store.staging row u) where
  locked := h.locked
  confined := h.confined
  rows := congrArg (putRow row) h.rows
  entries := h.entries

/-- Twins that add entries which differ in their numbers only remain twins. -/
theorem adding (h : t.Twin label u) {entry other : Entry}
    (hsame : entry.unnumbered = other.unnumbered) :
    (Store.adding entry t).Twin label (Store.adding other u) where
  locked := h.locked
  confined := h.confined
  rows := h.rows
  entries := by simp [Store.adding, h.entries, hsame]

end Transaction.Twin

/-- Where a client stands in two stores, by whether it has a transaction in each: it
works on the label in both, or it does not work on the label in the first and has no
transaction in the second. -/
inductive Store.Stands (label : Label) (client : Client) (s r : Store) :
    Bool → Bool → Prop
  | together {t u : Transaction} (ht : s.transaction? client = some t)
      (hu : r.transaction? client = some u) (htwin : t.Twin label u) :
      Stands label client s r true true
  | apart {opened : Bool} (hopen : s.isOpen client = opened)
      (hfree : s.holds client label = false) (hclosed : r.isOpen client = false) :
        Stands label client s r opened false

/-- Without transactions a client does not work on the label. -/
theorem Store.Stands.closed {label : Label} {client : Client} {s r : Store}
    (hs : s.transaction? client = none) (hr : r.transaction? client = none) :
    Store.Stands label client s r false false :=
  .apart (by simp [Store.isOpen, hs]) (by simp [Store.holds, hs])
    (by simp [Store.isOpen, hr])

/-- Two stores hold the same of a label, up to numbers of entries, and the second holds
nothing else. -/
structure Accord (label : Label) (s r : Store) : Prop where
  row : s.row? label = r.row? label
  past : (s.history label).map Entry.unnumbered = (r.history label).map Entry.unnumbered
  only : ∀ other, other ≠ label → r.row? other = none ∧ r.history other = []
  orderly : s.Orderly
  orderly_other : r.Orderly

namespace Accord

variable {label : Label} {s r after after' : Store} {client other : Client}
  {request : StoreRequest}

/-- Empty stores are in accord. -/
theorem empty (label : Label) : Accord label {} {} where
  row := rfl
  past := rfl
  only _ _ := ⟨rfl, rfl⟩
  orderly := Store.orderly_empty
  orderly_other := Store.orderly_empty

/-- The committed entries of the label are the same up to their numbers. -/
theorem renumbered (h : Accord label s r) :
    Renumbered (s.history label) (r.history label) :=
  ⟨h.past, h.orderly.history label, h.orderly_other.history label⟩

/-- What the second store holds is of the label. -/
theorem only_rows (h : Accord label s r) {row : Record} (hrow : row ∈ r.rows) :
    row.label = label := by
  by_contra hother
  have hfound := (Store.row?_eq_some_iff h.orderly_other.once).2 ⟨hrow, rfl⟩
  rw [(h.only row.label hother).1] at hfound
  cases hfound

/-- The label is in the same state in both. -/
theorem lastState? (h : Accord label s r) : s.lastState? label = r.lastState? label :=
  entered_of_unnumbered h.past

/-- **Listings.**  In whatever order the first store lists the labels in a state, the
second lists of them the label alone. -/
theorem rowsInState (h : Accord label s r) {machine state : String} {rows : List Record}
    (hrows : rows.Perm (s.rowsInState machine state)) :
    (rows.filter fun row => row.label = label) = r.rowsInState machine state := by
  have honly : ∀ row ∈ r.rowsInState machine state, row.label = label := by
    intro row hrow
    have hfound := ((Store.mem_rowsInState h.orderly_other.once).1 hrow).1
    exact h.only_rows ((Store.row?_eq_some_iff h.orderly_other.once).1 hfound).1
  have hnodup := (Store.nodup_rowsInState h.orderly_other.once machine state)
  have hperm :
      (rows.filter fun row => row.label = label).Perm (r.rowsInState machine state) := by
    refine (List.perm_ext_iff_of_nodup ?_ (.of_map _ hnodup)).2 fun row => ?_
    · have hlisted := Store.nodup_rowsInState h.orderly.once machine state
      exact ((hrows.nodup_iff).2 (.of_map _ hlisted)).filter _
    · rw [List.mem_filter, hrows.mem_iff, Store.mem_rowsInState h.orderly.once,
        decide_eq_true_eq]
      constructor
      · rintro ⟨⟨hrow, hrest⟩, rfl⟩
        rw [h.row, h.lastState?] at *
        exact (Store.mem_rowsInState h.orderly_other.once).2 ⟨hrow, hrest⟩
      · intro hrow
        obtain rfl := honly row hrow
        obtain ⟨hfound, hrest⟩ := (Store.mem_rowsInState h.orderly_other.once).1 hrow
        rw [← h.row, ← h.lastState?] at *
        exact ⟨⟨hfound, hrest⟩, rfl⟩
  generalize r.rowsInState machine state = listed at honly hnodup hperm
  rcases listed with _ | ⟨first, _ | ⟨second, rest⟩⟩
  · exact hperm.eq_nil
  · exact List.perm_singleton.1 hperm
  · have hsame : first.label = second.label :=
      (honly first (by simp)).trans (honly second (by simp)).symm
    simp [hsame] at hnodup

/-- Stores remain in accord while nothing is committed in them. -/
theorem uncommitted (h : Accord label s r) (hserved : Store.Served s client request after)
    (hserved' : Store.Served r client request after') (hcommit : request ≠ .commit) :
    Accord label after after' := by
  obtain ⟨hrows, hledger⟩ :=
    (hserved.committed_or_same.resolve_left fun hc => hcommit hc.1).2
  obtain ⟨hrows', hledger'⟩ :=
    (hserved'.committed_or_same.resolve_left fun hc => hcommit hc.1).2
  refine ⟨?_, ?_,
    fun other hother => ?_, h.orderly.served hserved, h.orderly_other.served hserved'⟩
  · rw [Store.row?, hrows, Store.row?, hrows']
    exact h.row
  · rw [Store.history, hledger, Store.history, hledger']
    exact h.past
  · rw [Store.row?, hrows', Store.history, hledger']
    exact h.only other hother

/-- Stores remain in accord when twin transactions are committed. -/
theorem commit {t u : Transaction} (h : Accord label s r)
    (ht : s.transaction? client = some t) (hu : r.transaction? client = some u)
    (htwin : t.Twin label u) :
    Accord label (s.commit client) (r.commit client) := by
  have hserved : Store.Served s client .commit (s.commit client) := .committed
  have hserved' : Store.Served r client .commit (r.commit client) := .committed
  refine ⟨?_, ?_,
    fun other hother => ?_, h.orderly.served hserved, h.orderly_other.served hserved'⟩
  · rw [Store.row?_commit ht (h.orderly.sound.rowsOnce ht), htwin.rows, h.row,
      Store.row?_commit hu (h.orderly_other.sound.rowsOnce hu)]
  · rw [Store.history_commit ht, Store.history_commit hu,
      htwin.entriesOf h.orderly.sound ht, htwin.entriesOf_other h.orderly_other.sound hu,
      List.map_append, List.map_append, h.past, htwin.entries]
  · obtain ⟨hrow, hpast⟩ :=
      hserved'.committed_other h.orderly_other.sound (htwin.unheld hu hother)
    rw [hrow, hpast]
    exact h.only other hother

/-- Stores remain in accord when something is done in the first by a client that does
not work on the label. -/
theorem alone (h : Accord label s r) (hserved : Store.Served s client request after)
    (hfree : s.holds client label = false) : Accord label after r := by
  obtain ⟨hrow, hpast⟩ := hserved.committed_other h.orderly.sound hfree
  exact ⟨hrow.trans h.row, hpast ▸ h.past, h.only, h.orderly.served hserved,
    h.orderly_other⟩

/-! ### Requests in both stores -/

variable {opened opened' : Bool} {now : DateTime} {t u : Transaction}

/-- A lock is answered alike, if what is taken in one store is taken in the other. -/
theorem serve_lock {answer : Except StoreError (Option Record)} (h : Accord label s r)
    (ht : s.transaction? client = some t) (hu : r.transaction? client = some u)
    (htwin : t.Twin label u)
    (hwaits : r.isTaken client label = true → s.isTaken client label = true)
    (hserve : (StoreRequest.lock label).serve client now s = some (answer, after)) :
    ∃ answer' after', (StoreRequest.lock label).serve client now r =
      some (answer', after') ∧
      (StoreRequest.lock label).Alike label answer answer' ∧ Accord label after after' ∧
      Store.Stands label client after after' true true := by
  have hfree : s.isTaken client label = false := by
    refine Bool.eq_false_iff.2 fun htaken => ?_
    simp [StoreRequest.serve, Store.lock?, htaken] at hserve
  have hfree' : r.isTaken client label = false :=
    Bool.eq_false_iff.2 fun htaken =>
      Bool.false_ne_true (hfree.symm.trans (hwaits htaken))
  have hserve' := Store.serve_lock hu hfree' now
  have haccord := h.uncommitted (Store.served hserve) (Store.served hserve') (by simp)
  rw [Store.serve_lock ht hfree now] at hserve
  cases hserve
  refine ⟨_, _, hserve', ⟨_, rfl, by rw [htwin.rows, h.row], fun row hrow => ?_⟩,
    haccord, ?_⟩
  · exact Store.label_of_ownRow? ((Store.ownRow?_eq ht).trans hrow)
  rw [htwin.holds ht hu label]
  split
  · exact .together ht hu htwin
  · exact .together (Store.transaction?_update_self ht (Store.taking label) fun _ => rfl)
      (Store.transaction?_update_self hu (Store.taking label) fun _ => rfl) htwin.taking

/-- A save is answered alike. -/
theorem serve_save {row : Record} {answer : Except StoreError Unit} (h : Accord label s r)
    (ht : s.transaction? client = some t) (hu : r.transaction? client = some u)
    (htwin : t.Twin label u)
    (hserve : (StoreRequest.save row).serve client now s = some (answer, after)) :
    ∃ answer' after', (StoreRequest.save row).serve client now r =
      some (answer', after') ∧
      (StoreRequest.save row).Alike label answer answer' ∧ Accord label after after' ∧
      Store.Stands label client after after' true true := by
  by_cases hheld : s.holds client row.label = true
  · have hheld' := htwin.holds ht hu row.label ▸ hheld
    simp only [StoreRequest.serve, Store.save, hheld, if_true] at hserve
    cases hserve
    have hserve' : (StoreRequest.save row).serve client now r =
        some (.ok (), r.update client (Store.staging row)) := by
      simp only [StoreRequest.serve, Store.save, hheld', if_true]
      rfl
    exact ⟨_, _, hserve', rfl,
      h.uncommitted (.saved hheld) (Store.served hserve') (by simp),
      .together (Store.transaction?_update_self ht (Store.staging row) fun _ => rfl)
        (Store.transaction?_update_self hu (Store.staging row) fun _ => rfl)
        (htwin.staging row)⟩
  · have hheld' := htwin.holds ht hu row.label ▸ hheld
    simp only [StoreRequest.serve, Store.save, hheld] at hserve
    cases hserve
    have hserve' : (StoreRequest.save row).serve client now r =
        some (.error (.notLocked row.label), r) := by
      simp only [StoreRequest.serve, Store.save, hheld']
      rfl
    exact ⟨_, _, hserve', rfl, h, .together ht hu htwin⟩

/-- An addition is answered alike, but for the number of the entry. -/
theorem serve_append {move : Move} {answer : Except StoreError Entry}
    (h : Accord label s r) (ht : s.transaction? client = some t)
    (hu : r.transaction? client = some u) (htwin : t.Twin label u)
    (hserve : (StoreRequest.append move).serve client now s = some (answer, after)) :
    ∃ answer' after', (StoreRequest.append move).serve client now r =
      some (answer', after') ∧
      (StoreRequest.append move).Alike label answer answer' ∧ Accord label after after' ∧
      Store.Stands label client after after' true true := by
  by_cases hheld : s.holds client move.label = true
  · have hheld' := htwin.holds ht hu move.label ▸ hheld
    simp only [StoreRequest.serve, Store.append, hheld, if_true] at hserve
    cases hserve
    let entry : Entry := { move with id := s.nextId, created := now }
    let entry' : Entry := { move with id := r.nextId, created := now }
    have hserve' : (StoreRequest.append move).serve client now r =
        some (.ok entry',
          { r.update client (Store.adding entry') with nextId := r.nextId + 1 }) := by
      simp only [StoreRequest.serve, Store.append, hheld', if_true]
      rfl
    exact ⟨_, _, hserve', .inl ⟨entry, entry', rfl, rfl, rfl⟩,
      h.uncommitted (.appended now hheld) (Store.served hserve') (by simp),
      .together (Store.transaction?_update_self ht (Store.adding entry) fun _ => rfl)
        (Store.transaction?_update_self hu (Store.adding entry') fun _ => rfl)
        (htwin.adding rfl)⟩
  · have hheld' := htwin.holds ht hu move.label ▸ hheld
    simp only [StoreRequest.serve, Store.append, hheld] at hserve
    cases hserve
    have hserve' : (StoreRequest.append move).serve client now r =
        some (.error (.notLocked move.label), r) := by
      simp only [StoreRequest.serve, Store.append, hheld']
      rfl
    exact ⟨_, _, hserve', .inr ⟨_, rfl, rfl⟩, h, .together ht hu htwin⟩

/-- **In both stores.**  A request about the label that is answered in the first store
is answered alike in the second, if nobody holds a lock there who does not hold it in
the first. -/
theorem serve_both {answer : Except StoreError request.Result} (h : Accord label s r)
    (hstands : Store.Stands label client s r opened opened)
    (hwithin : request.Within label opened opened')
    (hwaits : r.isTaken client label = true → s.isTaken client label = true)
    (hserve : request.serve client now s = some (answer, after)) :
    ∃ answer' after', request.serve client now r = some (answer', after') ∧
      request.Alike label answer answer' ∧ Accord label after after' ∧
      Store.Stands label client after after' opened' opened' := by
  cases hwithin with
  | begin =>
      cases hserve
      exact ⟨_, _, rfl, ⟨rfl, rfl⟩, h.uncommitted .begun .begun (by simp),
        .together (t := ⟨client, [], [], []⟩) (u := ⟨client, [], [], []⟩) (by simp)
          (by simp) .begun⟩
  | lock =>
      cases hstands with
      | together ht hu htwin => exact h.serve_lock ht hu htwin hwaits hserve
  | save =>
      cases hstands with
      | together ht hu htwin => exact h.serve_save ht hu htwin hserve
  | append =>
      cases hstands with
      | together ht hu htwin => exact h.serve_append ht hu htwin hserve
  | ownHistory =>
      cases hstands with
      | together ht hu htwin =>
          cases hserve
          refine ⟨_, _, rfl, ⟨_, _, rfl, rfl, ?_, h.orderly.ordered client label,
            h.orderly_other.ordered client label⟩, h, .together ht hu htwin⟩
          rw [Store.ownHistory_of_some ht, Store.ownHistory_of_some hu,
            htwin.entriesOf h.orderly.sound ht, htwin.entriesOf_other
              h.orderly_other.sound hu, List.map_append, List.map_append, h.past,
            htwin.entries]
  | commit =>
      cases hstands with
      | together ht hu htwin =>
          cases hserve
          exact ⟨_, _, rfl, ⟨rfl, rfl⟩, h.commit ht hu htwin, .closed (by simp) (by simp)⟩
  | rollback =>
      cases hserve
      exact ⟨_, _, rfl, ⟨rfl, rfl⟩, h.uncommitted .rolledBack .rolledBack (by simp),
        .closed (by simp) (by simp)⟩
  | row =>
      cases hserve
      exact ⟨_, _, rfl, ⟨_, rfl, by rw [h.row], fun row => Store.label_of_findRow⟩,
        h, hstands⟩
  | history =>
      cases hserve
      exact ⟨_, _, rfl, ⟨_, _, rfl, rfl, h.renumbered⟩, h, hstands⟩
  | rowsInState =>
      cases hserve
      refine ⟨_, _, rfl,
        ⟨_, rfl, by rw [h.rowsInState (List.Perm.refl _)], fun row hrow => ?_⟩,
        h, hstands⟩
      exact ((Store.mem_rowsInState h.orderly.once).1 hrow).2.1
  | liveNames =>
      cases hserve
      exact ⟨_, _, rfl, ⟨_, rfl⟩, h, hstands⟩

/-- What an orderly store answers about a label is as it should be. -/
theorem answer_alike {answer : Except StoreError request.Result} (hs : s.Orderly)
    (hwithin : request.Within label opened opened')
    (hserve : request.serve client now s = some (answer, after)) :
    ∃ answer', request.Alike label answer answer' := by
  cases hwithin with
  | begin => cases hserve; exact ⟨_, rfl, rfl⟩
  | lock =>
      obtain ⟨⟨found, next⟩, hlock, heq⟩ := Option.map_eq_some_iff.1 hserve
      cases heq
      refine ⟨_, found, rfl, rfl, fun row hrow => ?_⟩
      unfold Store.lock? at hlock
      split at hlock
      · cases hlock
      · cases hlock
        exact Store.label_of_ownRow? hrow
  | save => exact ⟨_, rfl⟩
  | append =>
      cases answer with
      | ok entry => exact ⟨_, .inl ⟨entry, entry, rfl, rfl, rfl⟩⟩
      | error refusal => exact ⟨_, .inr ⟨refusal, rfl, rfl⟩⟩
  | ownHistory =>
      cases hserve
      exact ⟨_, _, _, rfl, rfl, rfl, hs.ordered client label, hs.ordered client label⟩
  | commit => cases hserve; exact ⟨_, rfl, rfl⟩
  | rollback => cases hserve; exact ⟨_, rfl, rfl⟩
  | row => cases hserve; exact ⟨_, _, rfl, rfl, fun row => Store.label_of_findRow⟩
  | history =>
      cases hserve
      exact ⟨_, _, _, rfl, rfl, rfl, hs.history label, hs.history label⟩
  | rowsInState =>
      cases hserve
      exact ⟨_, _, rfl, rfl, fun row hrow => ((Store.mem_rowsInState hs.once).1 hrow).2.1⟩
  | liveNames => cases hserve; exact ⟨.ok [], _, rfl⟩

/-- A transaction is open after a request as the request leaves it. -/
theorem isOpen_after {answer : Except StoreError request.Result}
    (hopen : s.isOpen client = opened) (hwithin : request.Within label opened opened')
    (hserve : request.serve client now s = some (answer, after)) :
    after.isOpen client = opened' := by
  have hserved := Store.served hserve
  cases hwithin with
  | begin => cases hserve; simp [Store.isOpen]
  | commit => cases hserve; simp [Store.isOpen]
  | rollback => cases hserve; simp [Store.isOpen]
  | lock =>
      cases hserved with
      | same => exact hopen
      | locked => exact (Store.isOpen_update (Store.taking _) fun _ => rfl).trans hopen
  | save =>
      cases hserved with
      | same => exact hopen
      | saved => exact (Store.isOpen_update (Store.staging _) fun _ => rfl).trans hopen
  | append =>
      cases hserved with
      | same => exact hopen
      | appended => exact (Store.isOpen_update (Store.adding _) fun _ => rfl).trans hopen
  | ownHistory => cases hserve; exact hopen
  | row => cases hserve; exact hopen
  | history => cases hserve; exact hopen
  | rowsInState => cases hserve; exact hopen
  | liveNames => cases hserve; exact hopen

/-- A request about another label does not take the lock of the label. -/
theorem unheld_after {about : Label} (hfree : s.holds client label = false)
    (habout : about ≠ label) (hwithin : request.Within about opened opened')
    (hserved : Store.Served s client request after) :
    after.holds client label = false := by
  refine Bool.eq_false_iff.2 fun hheld => ?_
  rcases hserved.holds_before hheld with hbefore | rfl
  · exact Bool.false_ne_true (hfree.symm.trans hbefore)
  · cases hwithin
    exact habout rfl

/-- **In the first store alone.**  A request about another label leaves the stores in
accord, and its answer is as it should be. -/
theorem serve_alone {about : Label} {answer : Except StoreError request.Result}
    (h : Accord label s r) (hstands : Store.Stands label client s r opened false)
    (habout : about ≠ label) (hwithin : request.Within about opened opened')
    (hserve : request.serve client now s = some (answer, after)) :
    (∃ answer', request.Alike about answer answer') ∧ Accord label after r ∧
      Store.Stands label client after r opened' false := by
  have hserved := Store.served hserve
  cases hstands with
  | apart hopen hfree hclosed =>
      exact ⟨answer_alike h.orderly hwithin hserve, h.alone hserved hfree,
        .apart (isOpen_after hopen hwithin hserve)
          (unheld_after hfree habout hwithin hserved) hclosed⟩

end Accord

end Turnstile

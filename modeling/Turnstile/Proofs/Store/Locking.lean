import Turnstile.Proofs.Store.Tables

/-!
# Locking

A store that is used through its requests stays sound: no label is locked by two
transactions, what a transaction stages belongs to labels it has locked, and every
number of an entry was drawn from the counter.

* `Store.Served`: all that a request can do to a store.
* `Store.Sound.served`: every request keeps a store sound.
* `Store.Served.transaction?_other`: a request leaves the transactions of other
  clients alone.
* `Store.Served.committed_other`: a request changes no committed data of a label that
  its client has not locked.
* `Store.Served.holds_before`, `Store.Served.holds_after`: by which requests locks are
  taken and given up.
-/

set_option autoImplicit false

namespace Turnstile

open Time (DateTime)

namespace Store

/-- What every store keeps that began empty. -/
structure Sound (s : Store) : Prop where
  /-- A client has at most one transaction. -/
  oneEach : (s.transactions.map (·.client)).Nodup
  /-- No label is locked by two transactions. -/
  exclusive : ∀ {c₁ c₂ : Client} {t₁ t₂ : Transaction} {label : Label},
    s.transaction? c₁ = some t₁ → s.transaction? c₂ = some t₂ →
      label ∈ t₁.locked → label ∈ t₂.locked → c₁ = c₂
  /-- Rows are staged under a lock. -/
  rowsHeld : ∀ {c : Client} {t : Transaction}, s.transaction? c = some t →
    ∀ row ∈ t.rows, row.label ∈ t.locked
  /-- At most one row is staged for a label. -/
  rowsOnce : ∀ {c : Client} {t : Transaction}, s.transaction? c = some t →
    (t.rows.map (·.label)).Nodup
  /-- Entries are staged under a lock. -/
  entriesHeld : ∀ {c : Client} {t : Transaction}, s.transaction? c = some t →
    ∀ entry ∈ t.entries, entry.label ∈ t.locked
  /-- Numbers of staged entries were drawn from the counter. -/
  stagedIds : ∀ {c : Client} {t : Transaction}, s.transaction? c = some t →
    ∀ entry ∈ t.entries, entry.id < s.nextId
  /-- Numbers of committed entries were drawn from the counter. -/
  ledgerIds : ∀ entry ∈ s.ledger, entry.id < s.nextId

variable {s : Store} {client other : Client} {label : Label}

/-- The empty store is sound. -/
theorem sound_empty : ({} : Store).Sound where
  oneEach := List.nodup_nil
  exclusive h := by cases h
  rowsHeld h := by cases h
  rowsOnce h := by cases h
  entriesHeld h := by cases h
  stagedIds h := by cases h
  ledgerIds _ h := by cases h

/-- In a sound store the open transactions are those of the clients. -/
theorem Sound.transaction?_of_mem (hs : s.Sound) {t : Transaction}
    (ht : t ∈ s.transactions) :
    s.transaction? t.client = some t := by
  have hnodup := hs.oneEach
  unfold Store.transaction?
  generalize s.transactions = ts at ht hnodup
  induction ts with
  | nil => cases ht
  | cons u rest ih =>
      rw [List.map_cons, List.nodup_cons] at hnodup
      rcases List.mem_cons.1 ht with rfl | ht
      · simp
      · have hne : u.client ≠ t.client := fun h => hnodup.1 (h ▸ List.mem_map_of_mem ht)
        simpa [hne] using ih ht hnodup.2

/-- A label is taken when the transaction of another client has locked it. -/
theorem Sound.isTaken_iff (hs : s.Sound) : s.isTaken client label = true ↔
    ∃ c t, c ≠ client ∧ s.transaction? c = some t ∧ label ∈ t.locked := by
  simp only [isTaken, List.any_eq_true, Transaction.holds, Bool.and_eq_true,
    decide_eq_true_eq, List.contains_iff_mem]
  constructor
  · rintro ⟨t, ht, hclient, hlocked⟩
    exact ⟨t.client, t, hclient, hs.transaction?_of_mem ht, hlocked⟩
  · rintro ⟨c, t, hc, ht, hlocked⟩
    exact ⟨t, List.mem_of_find?_eq_some ht, transaction?_client ht ▸ hc, hlocked⟩

/-! ## Requests keep a store sound -/

/-- A label that a client has locked, or that nobody has, is locked by no other client. -/
theorem Sound.notMem_locked_other (hs : s.Sound) {t u : Transaction}
    (ht : s.transaction? client = some t) (hother : other ≠ client)
    (hu : s.transaction? other = some u)
    (hlabel : label ∈ t.locked ∨ s.isTaken client label = false) : label ∉ u.locked := by
  intro hin
  rcases hlabel with hown | hopen
  · exact hother (hs.exclusive hu ht hin hown)
  · rw [← Bool.not_eq_true, hs.isTaken_iff] at hopen
    exact hopen ⟨other, u, hother, hu, hin⟩

/-- A transaction after a change is the changed one, or one of another client. -/
theorem transaction?_of_update {change : Transaction → Transaction}
    {next : Int} {c : Client} {u : Transaction}
    (hchange : ∀ t, (change t).client = t.client)
    (h : ({ s.update client change with nextId := next } : Store).transaction? c =
      some u) :
    (c = client ∧ ∃ t, s.transaction? client = some t ∧ u = change t) ∨
      (c ≠ client ∧ s.transaction? c = some u) := by
  change (s.update client change).transaction? c = some u at h
  rw [transaction?_update change hchange] at h
  split at h
  · next hc =>
      obtain ⟨t, ht, rfl⟩ := Option.map_eq_some_iff.1 h
      exact .inl ⟨hc, t, ht, rfl⟩
  · next hc => exact .inr ⟨hc, h⟩

/-- A change of a transaction that keeps its client changes no client. -/
theorem clients_update {change : Transaction → Transaction}
    (hchange : ∀ t, (change t).client = t.client) :
    (s.update client change).transactions.map (·.client) =
      s.transactions.map (·.client) := by
  simp only [Store.update, List.map_map]
  refine List.map_congr_left fun t _ => ?_
  by_cases h : t.client = client <;> simp [h, hchange]

/-- A change of a client's own transaction keeps a store sound if it takes no lock of
another client, drops none, and stages nothing without a lock. -/
theorem Sound.update (hs : s.Sound) {change : Transaction → Transaction} (next : Int)
    (hchange : ∀ t, (change t).client = t.client) (hnext : s.nextId ≤ next)
    (hlocks : ∀ t, s.transaction? client = some t → ∀ label ∈ (change t).locked,
      label ∈ t.locked ∨ s.isTaken client label = false)
    (hrows : ∀ t, s.transaction? client = some t → ∀ row ∈ (change t).rows,
      row.label ∈ (change t).locked)
    (honce : ∀ t, s.transaction? client = some t → ((change t).rows.map (·.label)).Nodup)
    (hentries : ∀ t, s.transaction? client = some t → ∀ entry ∈ (change t).entries,
      entry.label ∈ (change t).locked ∧ entry.id < next) :
    ({ s.update client change with nextId := next } : Store).Sound := by
  refine ⟨?_, ?_, ?_, ?_, ?_, ?_, ?_⟩
  · change ((s.update client change).transactions.map (·.client)).Nodup
    rw [clients_update hchange]
    exact hs.oneEach
  · intro c₁ c₂ t₁ t₂ label h₁ h₂ hin₁ hin₂
    rcases transaction?_of_update hchange h₁ with ⟨rfl, t, ht, rfl⟩ | ⟨hc₁, hold₁⟩ <;>
      rcases transaction?_of_update hchange h₂ with ⟨rfl, u, hu, rfl⟩ | ⟨hc₂, hold₂⟩
    · rfl
    · exact absurd hin₂ (hs.notMem_locked_other ht hc₂ hold₂ (hlocks t ht label hin₁))
    · exact absurd hin₁ (hs.notMem_locked_other hu hc₁ hold₁ (hlocks u hu label hin₂))
    · exact hs.exclusive hold₁ hold₂ hin₁ hin₂
  · intro c u hu
    rcases transaction?_of_update hchange hu with ⟨rfl, t, ht, rfl⟩ | ⟨-, hu⟩
    · exact hrows t ht
    · exact hs.rowsHeld hu
  · intro c u hu
    rcases transaction?_of_update hchange hu with ⟨rfl, t, ht, rfl⟩ | ⟨-, hu⟩
    · exact honce t ht
    · exact hs.rowsOnce hu
  · intro c u hu entry hentry
    rcases transaction?_of_update hchange hu with ⟨rfl, t, ht, rfl⟩ | ⟨-, hu⟩
    · exact (hentries t ht entry hentry).1
    · exact hs.entriesHeld hu entry hentry
  · intro c u hu entry hentry
    rcases transaction?_of_update hchange hu with ⟨rfl, t, ht, rfl⟩ | ⟨-, hu⟩
    · exact (hentries t ht entry hentry).2
    · exact Int.lt_of_lt_of_le (hs.stagedIds hu entry hentry) hnext
  · exact fun entry hentry => Int.lt_of_lt_of_le (hs.ledgerIds entry hentry) hnext

/-- The transactions that are left when those of a client end. -/
theorem Sound.rollback (hs : s.Sound) (client : Client) : (s.rollback client).Sound := by
  have hfind : ∀ {c t}, (s.rollback client).transaction? c = some t →
      s.transaction? c = some t := by
    intro c t ht
    rw [transaction?_rollback] at ht
    split at ht
    · cases ht
    · exact ht
  exact
    { oneEach := hs.oneEach.sublist (List.filter_sublist.map _)
      exclusive := fun h₁ h₂ => hs.exclusive (hfind h₁) (hfind h₂)
      rowsHeld := fun h => hs.rowsHeld (hfind h)
      rowsOnce := fun h => hs.rowsOnce (hfind h)
      entriesHeld := fun h => hs.entriesHeld (hfind h)
      stagedIds := fun h => hs.stagedIds (hfind h)
      ledgerIds := hs.ledgerIds }

/-- A transaction begins with nothing locked and nothing staged. -/
theorem Sound.begin (hs : s.Sound) (client : Client) : (s.begin client).Sound := by
  have hfind : ∀ {c t}, (s.begin client).transaction? c = some t →
      (c = client ∧ t = ⟨client, [], [], []⟩) ∨ s.transaction? c = some t := by
    intro c t ht
    rw [transaction?_begin] at ht
    split at ht
    · next h => exact .inl ⟨h, (Option.some.inj ht).symm⟩
    · exact .inr ht
  refine ⟨?_, ?_, ?_, ?_, ?_, ?_, hs.ledgerIds⟩
  · change
      ((s.rollback client).transactions ++ [(⟨client, [], [], []⟩ : Transaction)]).map
        _ |>.Nodup
    rw [List.map_append, List.nodup_append]
    refine ⟨(hs.rollback client).oneEach, by simp, ?_⟩
    intro c hc d hd
    obtain ⟨t, ht, rfl⟩ := List.mem_map.1 hc
    obtain rfl : d = client := by simpa using hd
    simpa using (List.mem_filter.1 ht).2
  · intro c₁ c₂ t₁ t₂ label h₁ h₂ hin₁ hin₂
    rcases hfind h₁ with ⟨-, rfl⟩ | h₁
    · cases hin₁
    · rcases hfind h₂ with ⟨-, rfl⟩ | h₂
      · cases hin₂
      · exact hs.exclusive h₁ h₂ hin₁ hin₂
  · intro c t ht
    rcases hfind ht with ⟨-, rfl⟩ | ht
    · simp
    · exact hs.rowsHeld ht
  · intro c t ht
    rcases hfind ht with ⟨-, rfl⟩ | ht
    · simp
    · exact hs.rowsOnce ht
  · intro c t ht
    rcases hfind ht with ⟨-, rfl⟩ | ht
    · simp
    · exact hs.entriesHeld ht
  · intro c t ht
    rcases hfind ht with ⟨-, rfl⟩ | ht
    · simp
    · exact hs.stagedIds ht

/-- What is committed was staged. -/
theorem Sound.commit (hs : s.Sound) (client : Client) : (s.commit client).Sound := by
  unfold Store.commit
  split
  · exact hs
  · next t ht =>
      have hleft := hs.rollback client
      refine ⟨hleft.oneEach, hleft.exclusive, hleft.rowsHeld, hleft.rowsOnce,
        hleft.entriesHeld, hleft.stagedIds, ?_⟩
      intro entry hentry
      rcases List.mem_append.1 hentry with h | h
      · exact hs.ledgerIds entry h
      · exact hs.stagedIds ht entry h

/-! ## What a request can do -/

/-- The change that a lock makes to a transaction. -/
def taking (label : Label) (t : Transaction) : Transaction :=
  { t with locked := label :: t.locked }

/-- The change that staging a row makes to a transaction. -/
def staging (row : Record) (t : Transaction) : Transaction :=
  { t with rows := putRow row t.rows }

/-- The change that staging an entry makes to a transaction. -/
def adding (entry : Entry) (t : Transaction) : Transaction :=
  { t with entries := t.entries ++ [entry] }

/-- All that a request of a client can do to a store. -/
inductive Served (s : Store) (client : Client) : StoreRequest → Store → Prop
  | same {request : StoreRequest} (hrequest : request ≠ .commit) :
      Served s client request s
  | begun : Served s client .begin (s.begin client)
  | committed : Served s client .commit (s.commit client)
  | rolledBack : Served s client .rollback (s.rollback client)
  | locked {label : Label} (hfree : s.isTaken client label = false) :
      Served s client (.lock label) (s.update client (taking label))
  | saved {row : Record} (hheld : s.holds client row.label = true) :
      Served s client (.save row) (s.update client (staging row))
  | appended {move : Move} (now : DateTime) (hheld : s.holds client move.label = true) :
      Served s client (.append move)
        { s.update client (adding { move with id := s.nextId, created := now }) with
          nextId := s.nextId + 1 }

/-- A request that is answered did one of these things. -/
theorem served {now : DateTime} {request : StoreRequest}
    {answer : Except StoreError request.Result} {after : Store}
    (h : request.serve client now s = some (answer, after)) :
    Served s client request after := by
  cases request with
  | begin => cases h; exact .begun
  | commit => cases h; exact .committed
  | rollback => cases h; exact .rolledBack
  | ownHistory label => cases h; exact .same nofun
  | row label => cases h; exact .same nofun
  | history label => cases h; exact .same nofun
  | rowsInState machine state => cases h; exact .same nofun
  | liveNames machine => cases h; exact .same nofun
  | lock label =>
      obtain ⟨⟨found, s'⟩, hlock, heq⟩ := Option.map_eq_some_iff.1 h
      cases heq
      unfold Store.lock? at hlock
      split at hlock
      · cases hlock
      · next hfree =>
          cases hlock
          split
          · exact .same nofun
          · exact .locked (by simpa using hfree)
  | save row =>
      by_cases hheld : s.holds client row.label = true
      · simp only [StoreRequest.serve, Store.save, hheld, if_true] at h
        cases h
        exact .saved hheld
      · simp only [StoreRequest.serve, Store.save, hheld] at h
        cases h
        exact .same nofun
  | append move =>
      by_cases hheld : s.holds client move.label = true
      · simp only [StoreRequest.serve, Store.append, hheld, if_true] at h
        cases h
        exact .appended now hheld
      · simp only [StoreRequest.serve, Store.append, hheld] at h
        cases h
        exact .same nofun

/-- **Requests keep a store sound**, whoever makes them and in whatever order. -/
theorem Sound.served (hs : s.Sound) {request : StoreRequest} {after : Store}
    (h : Served s client request after) : after.Sound := by
  cases h with
  | same => exact hs
  | begun => exact hs.begin client
  | committed => exact hs.commit client
  | rolledBack => exact hs.rollback client
  | @locked label hfree =>
      refine hs.update s.nextId (fun _ => rfl) (Int.le_refl _) ?_ ?_ ?_ ?_
      · intro t ht other hin
        rcases List.mem_cons.1 hin with rfl | hin
        · exact .inr hfree
        · exact .inl hin
      · exact fun t ht row hrow => List.mem_cons_of_mem _ (hs.rowsHeld ht row hrow)
      · exact fun t ht => hs.rowsOnce (t := t) ht
      · exact fun t ht entry hentry =>
          ⟨List.mem_cons_of_mem _ (hs.entriesHeld ht entry hentry),
            hs.stagedIds ht entry hentry⟩
  | @saved row hheld =>
      obtain ⟨own, hown, hlocked⟩ := holds_iff.1 hheld
      refine hs.update s.nextId (fun _ => rfl) (Int.le_refl _) ?_ ?_ ?_ ?_
      · exact fun _ _ _ hin => .inl hin
      · intro t ht found hfound
        obtain rfl : own = t := Option.some.inj (hown.symm.trans ht)
        rcases mem_putRow hfound with rfl | hold
        · exact hlocked
        · exact hs.rowsHeld ht found hold
      · exact fun t ht => nodup_putRow (hs.rowsOnce ht) row
      · exact fun t ht entry hentry =>
          ⟨hs.entriesHeld ht entry hentry, hs.stagedIds ht entry hentry⟩
  | @appended move now hheld =>
      obtain ⟨own, hown, hlocked⟩ := holds_iff.1 hheld
      refine hs.update (s.nextId + 1) (fun _ => rfl) (by omega) ?_ ?_ ?_ ?_
      · exact fun _ _ _ hin => .inl hin
      · exact fun t ht => hs.rowsHeld (t := t) ht
      · exact fun t ht => hs.rowsOnce (t := t) ht
      · intro t ht found hfound
        obtain rfl : own = t := Option.some.inj (hown.symm.trans ht)
        rcases List.mem_append.1 hfound with hold | hnew
        · have := hs.stagedIds ht found hold
          exact ⟨hs.entriesHeld ht found hold, by omega⟩
        · obtain rfl := List.mem_singleton.1 hnew
          exact ⟨hlocked, Int.lt_add_one_of_le (Int.le_refl _)⟩

/-- A request leaves the transactions of other clients as they are. -/
theorem Served.transaction?_other {request : StoreRequest} {after : Store}
    (h : Served s client request after) (hother : other ≠ client) :
    after.transaction? other = s.transaction? other := by
  cases h with
  | same => rfl
  | begun => simp [hother]
  | committed => simp [hother]
  | rolledBack => simp [hother]
  | locked => simp [transaction?_update (taking _) fun _ => rfl, hother]
  | saved => simp [transaction?_update (staging _) fun _ => rfl, hother]
  | appended => exact (transaction?_update (adding _) fun _ => rfl).trans (if_neg hother)

/-- A label that no other client has locked is locked by no other after a request of the
client. -/
theorem Served.free {request : StoreRequest} {after : Store}
    (h : Served s client request after) (hs : s.Sound)
    (hfree : s.isTaken client label = false) : after.isTaken client label = false := by
  refine Bool.eq_false_iff.2 fun htaken => ?_
  obtain ⟨other, t, hother, ht, hlocked⟩ := (hs.served h).isTaken_iff.1 htaken
  rw [h.transaction?_other hother] at ht
  exact absurd (hs.isTaken_iff.2 ⟨other, t, hother, ht, hlocked⟩) (by simp [hfree])

/-- Only for a lock that another client holds has a client to wait. -/
theorem served_of_free {request : StoreRequest}
    (hfree : ∀ label, request = .lock label → s.isTaken client label = false)
    (now : DateTime) :
    ∃ served, request.serve client now s = some served := by
  cases request with
  | lock label => simp [StoreRequest.serve, lock?, hfree label rfl]
  | save row =>
      simp only [StoreRequest.serve]
      split <;> exact ⟨_, rfl⟩
  | append move =>
      simp only [StoreRequest.serve]
      split <;> exact ⟨_, rfl⟩
  | _ => exact ⟨_, rfl⟩

/-- Only a commit changes what is committed. -/
theorem Served.committed_or_same {request : StoreRequest} {after : Store}
    (h : Served s client request after) :
    request = .commit ∧ after = s.commit client ∨
      request ≠ .commit ∧ after.rows = s.rows ∧ after.ledger = s.ledger := by
  cases h with
  | committed => exact .inl ⟨rfl, rfl⟩
  | same hrequest => exact .inr ⟨hrequest, rfl, rfl⟩
  | _ => exact .inr ⟨nofun, rfl, rfl⟩

/-- **Frame.**  A request changes nothing that is committed for a label that its client
has not locked. -/
theorem Served.committed_other (hs : s.Sound) {request : StoreRequest} {after : Store}
    (h : Served s client request after) (hfree : s.holds client label = false) :
    after.row? label = s.row? label ∧ after.history label = s.history label := by
  rcases h.committed_or_same with ⟨-, rfl⟩ | ⟨-, hrows, hledger⟩
  · cases ht : s.transaction? client with
    | none => simp [Store.commit, ht]
    | some t =>
        have hnone : label ∉ t.locked := fun hin =>
          Bool.false_ne_true (hfree.symm.trans (holds_iff.2 ⟨t, ht, hin⟩))
        have hrow : findRow t.rows label = none := by
          refine List.find?_eq_none.2 fun row hrow hlabel => hnone ?_
          simpa using of_decide_eq_true hlabel ▸ hs.rowsHeld ht row hrow
        have hentries : entriesOf t.entries label = [] := by
          refine List.filter_eq_nil_iff.2 fun entry hentry hlabel => hnone ?_
          simpa using of_decide_eq_true hlabel ▸ hs.entriesHeld ht entry hentry
        rw [row?_commit ht (hs.rowsOnce ht), history_commit ht, hrow, hentries]
        simp
  · exact ⟨by rw [row?, row?, hrows], by rw [history, history, hledger]⟩

/-! ## Locks over a request -/

variable {request : StoreRequest} {after : Store}

/-- Which locks a client holds depends on its transaction only. -/
theorem holds_congr (h : after.transaction? client = s.transaction? client)
    (label : Label) :
    after.holds client label = s.holds client label := by
  rw [holds, h, holds]

/-- A lock that a client has after a request was had before, or was asked for. -/
theorem Served.holds_before (h : Served s client request after)
    (hheld : after.holds client label = true) :
    s.holds client label = true ∨ request = .lock label := by
  obtain ⟨t, ht, hlocked⟩ := holds_iff.1 hheld
  have hchanged :
      ∀ change : Transaction → Transaction, (∀ t, (change t).client = t.client) →
        (s.update client change).transaction? client = some t →
        ∃ u, s.transaction? client = some u ∧ change u = t := by
    intro change hclient ht
    rw [transaction?_update change hclient, if_pos rfl] at ht
    exact Option.map_eq_some_iff.1 ht
  cases h with
  | same => exact .inl hheld
  | begun =>
      rw [transaction?_begin, if_pos rfl] at ht
      cases ht
      cases hlocked
  | committed => simp at ht
  | rolledBack => simp at ht
  | @locked asked hfree =>
      obtain ⟨u, hu, rfl⟩ := hchanged (taking asked) (fun _ => rfl) ht
      rcases List.mem_cons.1 hlocked with rfl | hold
      · exact .inr rfl
      · exact .inl (holds_iff.2 ⟨u, hu, hold⟩)
  | @saved row =>
      obtain ⟨u, hu, rfl⟩ := hchanged (staging row) (fun _ => rfl) ht
      exact .inl (holds_iff.2 ⟨u, hu, hlocked⟩)
  | @appended move now =>
      obtain ⟨u, hu, rfl⟩ := hchanged (adding _) (fun _ => rfl) ht
      exact .inl (holds_iff.2 ⟨u, hu, hlocked⟩)

/-- A lock is given up by a request that ends its transaction, and by no other. -/
theorem Served.holds_after (h : Served s client request after)
    (hheld : s.holds client label = true) :
    after.holds client label = true ∨ request = .begin ∨ request = .commit ∨
      request = .rollback := by
  obtain ⟨t, ht, hlocked⟩ := holds_iff.1 hheld
  cases h with
  | same => exact .inl hheld
  | begun => exact .inr (.inl rfl)
  | committed => exact .inr (.inr (.inl rfl))
  | rolledBack => exact .inr (.inr (.inr rfl))
  | locked =>
      exact .inl (holds_iff.2 ⟨_, transaction?_update_self ht (taking _) fun _ => rfl,
        List.mem_cons_of_mem _ hlocked⟩)
  | saved =>
      exact .inl
        (holds_iff.2 ⟨_, transaction?_update_self ht (staging _) fun _ => rfl, hlocked⟩)
  | appended =>
      exact .inl
        (holds_iff.2 ⟨_, transaction?_update_self ht (adding _) fun _ => rfl, hlocked⟩)

end Store

end Turnstile

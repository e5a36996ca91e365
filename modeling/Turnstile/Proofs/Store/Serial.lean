import Turnstile.Proofs.Store.Locking

/-!
# Transactions in turn

Any number of clients make requests of one store, in any order, and any transaction may
be dropped at any point.  `Traffic` says which stores come of it.  The `books` of the
traffic keep, of all that happened, the transactions that were committed, in the order
of their commits, with the requests that each made, and those that are open; a
transaction that was rolled back or dropped is in them no more.

The books account for the whole store (`Traffic.serialisable`):

* what is committed is what the committed transactions leave when they are made in turn,
  one after the other, from the empty store (`Store.inTurn`), but for the numbers and
  the instants of entries;
* what an open transaction has locked and staged is its `Draft`, which is read off its
  own requests;
* what a transaction reads is what is committed, and its draft on top of it.
-/

set_option autoImplicit false

namespace Turnstile

open Time (DateTime)

/-! ## Drafts -/

/-- What a transaction has locked and staged. -/
structure Draft where
  locked : List Label := []
  /-- For each label the last row that was staged. -/
  rows : Label → Option Record := fun _ => none
  moves : List Move := []

namespace Draft

/-- The draft after a further request.  A row or a move of a label that is not locked is
refused, and leaves no mark. -/
def add (d : Draft) : StoreRequest → Draft
  | .lock label => { d with locked := label :: d.locked }
  | .save row =>
    if row.label ∈ d.locked then
      { d with rows := fun label => if row.label = label then some row else d.rows label }
    else d
  | .append move =>
      if move.label ∈ d.locked then { d with moves := d.moves ++ [move] } else d
  | _ => d

/-- The draft of a transaction that made these requests. -/
def ofRequests (requests : List StoreRequest) : Draft := requests.foldl add {}

/-- The staged moves of a label. -/
def movesOf (d : Draft) (label : Label) : List Move :=
  d.moves.filter fun move => move.label = label

/-- One more request is added to the draft. -/
@[simp] theorem ofRequests_append (requests : List StoreRequest)
    (request : StoreRequest) :
    ofRequests (requests ++ [request]) = (ofRequests requests).add request := by
  simp [ofRequests]

end Draft

/-- The request begins or ends a transaction. -/
def StoreRequest.IsBoundary (request : StoreRequest) : Prop :=
  request = .begin ∨ request = .commit ∨ request = .rollback

/-- A transaction has locked and staged what a draft says. -/
structure Transaction.Drafted (t : Transaction) (d : Draft) : Prop where
  locked : ∀ label, label ∈ t.locked ↔ label ∈ d.locked
  rows : ∀ label, findRow t.rows label = d.rows label
  moves : t.entries.map Entry.toMove = d.moves

/-- The moves of one label's entries are the label's moves. -/
theorem map_toMove_entriesOf (entries : List Entry) (label : Label) :
    (entriesOf entries label).map Entry.toMove =
      (entries.map Entry.toMove).filter fun move => move.label = label := by
  simp only [entriesOf, List.filter_map]
  rfl

namespace Transaction.Drafted

variable {t : Transaction} {d : Draft} {label : Label}

/-- A transaction that has just begun has an empty draft. -/
theorem begun (client : Client) : (Transaction.mk client [] [] []).Drafted {} where
  locked _ := Iff.rfl
  rows _ := rfl
  moves := rfl

/-- The staged moves of a label. -/
theorem movesOf (h : t.Drafted d) (label : Label) :
    (entriesOf t.entries label).map Entry.toMove = d.movesOf label := by
  rw [map_toMove_entriesOf, h.moves]
  rfl

/-- A transaction that locks a label is drafted with that lock. -/
theorem taking (h : t.Drafted d) (label : Label) :
    (Store.taking label t).Drafted (d.add (.lock label)) where
  locked other := by simp [Store.taking, Draft.add, h.locked]
  rows := h.rows
  moves := h.moves

/-- To lock a label that is locked changes nothing. -/
theorem retaking (h : t.Drafted d) (hheld : label ∈ t.locked) :
    t.Drafted (d.add (.lock label)) where
  locked other := by
    have hown : label ∈ d.locked := (h.locked label).1 hheld
    simp only [Draft.add, List.mem_cons, h.locked]
    constructor
    · exact .inr
    · rintro (rfl | hin)
      · exact hown
      · exact hin
  rows := h.rows
  moves := h.moves

/-- A transaction that stages a row of its own is drafted with that save. -/
theorem staging {row : Record} (h : t.Drafted d) (hheld : row.label ∈ t.locked) :
    (Store.staging row t).Drafted (d.add (.save row)) := by
  have hown : row.label ∈ d.locked := (h.locked _).1 hheld
  simp only [Draft.add, hown, if_true]
  refine ⟨h.locked, fun label => ?_, h.moves⟩
  rw [Store.staging, findRow_putRow, h.rows]

/-- A transaction that adds to a history of its own is drafted with that addition. -/
theorem adding {entry : Entry} (h : t.Drafted d) (hheld : entry.label ∈ t.locked) :
    (Store.adding entry t).Drafted (d.add (.append entry.toMove)) := by
  have hown : entry.label ∈ d.locked := (h.locked _).1 hheld
  simp only [Draft.add, hown, if_true]
  exact ⟨h.locked, h.rows, by simp [Store.adding, h.moves]⟩

end Transaction.Drafted

namespace Store

variable {s after : Store} {client : Client} {t : Transaction} {d : Draft}
  {now : DateTime} {request : StoreRequest} {answer : Except StoreError request.Result}

/-- **A request within a transaction** adds to the draft of the transaction, whatever
else is in the store. -/
theorem drafted_served (ht : s.transaction? client = some t) (hd : t.Drafted d)
    (hinside : ¬ request.IsBoundary)
    (hserve : request.serve client now s = some (answer, after)) :
    ∃ u, after.transaction? client = some u ∧ u.Drafted (d.add request) := by
  cases request with
  | begin => exact absurd (.inl rfl) hinside
  | commit => exact absurd (.inr (.inl rfl)) hinside
  | rollback => exact absurd (.inr (.inr rfl)) hinside
  | ownHistory label => cases hserve; exact ⟨t, ht, hd⟩
  | row label => cases hserve; exact ⟨t, ht, hd⟩
  | history label => cases hserve; exact ⟨t, ht, hd⟩
  | rowsInState machine state => cases hserve; exact ⟨t, ht, hd⟩
  | liveNames machine => cases hserve; exact ⟨t, ht, hd⟩
  | lock label =>
      obtain ⟨⟨found, s'⟩, hlock, heq⟩ := Option.map_eq_some_iff.1 hserve
      cases heq
      unfold Store.lock? at hlock
      split at hlock
      · cases hlock
      · cases hlock
        by_cases hheld : s.holds client label = true
        · obtain ⟨own, hown, hlocked⟩ := holds_iff.1 hheld
          obtain rfl : own = t := Option.some.inj (hown.symm.trans ht)
          simp only [hheld, if_true]
          exact ⟨own, ht, hd.retaking hlocked⟩
        · simp only [hheld]
          exact ⟨_, transaction?_update_self ht (taking label) fun _ => rfl,
            hd.taking label⟩
  | save row =>
      by_cases hheld : s.holds client row.label = true
      · obtain ⟨own, hown, hlocked⟩ := holds_iff.1 hheld
        obtain rfl : own = t := Option.some.inj (hown.symm.trans ht)
        simp only [StoreRequest.serve, Store.save, hheld, if_true] at hserve
        cases hserve
        exact ⟨_, transaction?_update_self ht (staging row) fun _ => rfl,
          hd.staging hlocked⟩
      · have hfree : row.label ∉ d.locked := fun hin =>
          hheld (holds_iff.2 ⟨t, ht, (hd.locked _).2 hin⟩)
        simp only [StoreRequest.serve, Store.save, hheld] at hserve
        cases hserve
        exact ⟨t, ht, by simpa only [Draft.add, hfree, if_false] using hd⟩
  | append move =>
      by_cases hheld : s.holds client move.label = true
      · obtain ⟨own, hown, hlocked⟩ := holds_iff.1 hheld
        obtain rfl : own = t := Option.some.inj (hown.symm.trans ht)
        simp only [StoreRequest.serve, Store.append, hheld, if_true] at hserve
        cases hserve
        let entry : Entry := { move with id := s.nextId, created := now }
        exact ⟨_, transaction?_update_self ht (adding entry) fun _ => rfl,
          hd.adding hlocked⟩
      · have hfree : move.label ∉ d.locked := fun hin =>
          hheld (holds_iff.2 ⟨t, ht, (hd.locked _).2 hin⟩)
        simp only [StoreRequest.serve, Store.append, hheld] at hserve
        cases hserve
        exact ⟨t, ht, by simpa only [Draft.add, hfree, if_false] using hd⟩

/-- The row that a client sees is the one it has staged, or the committed one. -/
theorem ownRow?_eq (ht : s.transaction? client = some t) {label : Label} :
    s.ownRow? client label = (findRow t.rows label).or (s.row? label) := by
  rw [Store.ownRow?, ht, Option.bind_some]
  cases findRow t.rows label <;> rfl

/-- A client without a transaction gets none by a request that does not begin one. -/
theorem closed_served (ht : s.transaction? client = none) (hinside : ¬ request.IsBoundary)
    (hserve : request.serve client now s = some (answer, after)) :
    after.transaction? client = none := by
  have hclosed :
      ∀ change : Transaction → Transaction, (∀ t, (change t).client = t.client) →
        (s.update client change).transaction? client = none := by
    intro change hchange
    rw [transaction?_update change hchange, if_pos rfl, ht, Option.map_none]
  cases served hserve with
  | same => exact ht
  | begun => exact absurd (.inl rfl) hinside
  | committed => exact absurd (.inr (.inl rfl)) hinside
  | rolledBack => exact absurd (.inr (.inr rfl)) hinside
  | locked => exact hclosed _ fun _ => rfl
  | saved => exact hclosed _ fun _ => rfl
  | appended => exact hclosed _ fun _ => rfl

end Store

namespace Store

/-- A lock waits for a transaction of another client that holds it. -/
theorem Sound.lock_waits_iff {s : Store} (hs : s.Sound) {client : Client} {now : DateTime}
    {label : Label} : (StoreRequest.lock label).serve client now s = none ↔
      ∃ other, other ≠ client ∧ s.holds other label = true := by
  have hwaits : (StoreRequest.lock label).serve client now s = none ↔
      s.isTaken client label = true := by
    simp only [StoreRequest.serve, Option.map_eq_none_iff, Store.lock?]
    split <;> simp_all
  rw [hwaits, hs.isTaken_iff]
  constructor
  · rintro ⟨other, t, hother, ht, hin⟩
    exact ⟨other, hother, holds_iff.2 ⟨t, ht, hin⟩⟩
  · rintro ⟨other, hother, hheld⟩
    obtain ⟨t, ht, hin⟩ := holds_iff.1 hheld
    exact ⟨other, t, hother, ht, hin⟩

end Store

/-! ## Traffic -/

/-- Something that happens to a store. -/
inductive StoreEvent where
  /-- A request of a client is answered. -/
  | served (client : Client) (request : StoreRequest)
  /-- The transaction of a client is dropped. -/
  | dropped (client : Client)

/-- What happened to a store that was empty.  A client that has to wait for a lock is
answered when the lock is free. -/
inductive Traffic : List StoreEvent → Store → Prop
  | empty : Traffic [] {}
  | serve {past : List StoreEvent} {s after : Store} (traffic : Traffic past s)
      (client : Client) (now : DateTime) (request : StoreRequest)
      {answer : Except StoreError request.Result}
      (hserve : request.serve client now s = some (answer, after)) :
      Traffic (past ++ [.served client request]) after
  | drop {past : List StoreEvent} {s : Store} (traffic : Traffic past s)
      (client : Client) :
      Traffic (past ++ [.dropped client]) (s.rollback client)

/-- The transactions of some traffic, and how many numbers of entries were drawn. -/
structure Books where
  /-- The committed transactions in the order of their commits, each with its client and
  its requests. -/
  committed : List (Client × List StoreRequest) := []
  /-- The requests of each client's open transaction, if it has one. -/
  opened : Client → Option (List StoreRequest) := fun _ => none
  drawn : Nat := 0

namespace Books

/-- The books with another open transaction of a client, or none. -/
def put (b : Books) (client : Client) (requests : Option (List StoreRequest)) : Books :=
  { b with opened := fun c => if c = client then requests else b.opened c }

/-- How many numbers a request draws. -/
def draws (b : Books) (client : Client) : StoreRequest → Nat
  | .append move =>
    if (b.opened client).any fun requests =>
      move.label ∈ (Draft.ofRequests requests).locked then 1
    else 0
  | _ => 0

/-- The books after a further event. -/
def enter (b : Books) : StoreEvent → Books
  | .served client .begin => b.put client (some [])
  | .served client .rollback => b.put client none
  | .served client .commit =>
    match b.opened client with
    | some requests =>
        { b.put client none with committed := b.committed ++ [(client, requests)] }
    | none => b
  | .served client request =>
    { b.put client ((b.opened client).map (· ++ [request])) with
      drawn := b.drawn + b.draws client request }
  | .dropped client => b.put client none

variable (b : Books) (client other : Client)

@[simp] theorem put_opened (requests : Option (List StoreRequest)) :
    (b.put client requests).opened other = if other = client then requests
      else b.opened other := rfl

/-- A request within a transaction is entered with the others of the transaction. -/
theorem enter_inside {request : StoreRequest} (h : ¬ request.IsBoundary) :
    b.enter (.served client request) =
      { b.put client ((b.opened client).map (· ++ [request])) with
        drawn := b.drawn + b.draws client request } := by
  cases request with
  | begin => exact absurd (.inl rfl) h
  | commit => exact absurd (.inr (.inl rfl)) h
  | rollback => exact absurd (.inr (.inr rfl)) h
  | _ => rfl

end Books

/-- The books of some traffic. -/
def books (past : List StoreEvent) : Books := past.foldl Books.enter {}

/-- Books are kept event by event. -/
@[simp] theorem books_append (past : List StoreEvent) (event : StoreEvent) :
    books (past ++ [event]) = (books past).enter event := by
  simp [books]

/-! ## One transaction after the other -/

namespace Store

/-- The store after a request of a client, unless the client has to wait. -/
def ask (now : DateTime) (s : Store) (asked : Client × StoreRequest) : Option Store :=
  (asked.2.serve asked.1 now s).map Prod.snd

/-- The store after one whole transaction. -/
def transact (now : DateTime) (s : Store) (made : Client × List StoreRequest) :
    Option Store := do
  let begun ← ask now s (made.1, .begin)
  let last ← (made.2.map (made.1, ·)).foldlM (ask now) begun
  ask now last (made.1, .commit)

/-- The store after some transactions, one after the other, from the empty store. -/
def inTurn (now : DateTime) (committed : List (Client × List StoreRequest)) :
    Option Store :=
  committed.foldlM (transact now) {}

/-- In two stores the same rows are committed, and the same moves in the same order. -/
structure Alike (s other : Store) : Prop where
  rows : ∀ label, s.row? label = other.row? label
  moves :
    ∀ label, (s.history label).map Entry.toMove = (other.history label).map Entry.toMove

/-- Nobody but a client has a transaction. -/
def OnlyOf (s : Store) (client : Client) : Prop := ∀ t ∈ s.transactions, t.client = client

variable {s u after : Store} {client : Client} {t : Transaction} {d : Draft}
  {now : DateTime} {request : StoreRequest}

/-- Where only one client has a transaction, no label is taken from it. -/
theorem OnlyOf.isTaken (h : s.OnlyOf client) (label : Label) :
    s.isTaken client label = false := by
  refine List.any_eq_false.2 fun t ht => ?_
  simp [h t ht]

/-- Whoever is alone never waits. -/
theorem OnlyOf.serve (h : s.OnlyOf client) (now : DateTime) (request : StoreRequest) :
    ∃ answer after, request.serve client now s = some (answer, after) := by
  cases request with
  | lock label => simp [StoreRequest.serve, Store.lock?, h.isTaken]
  | save row =>
      by_cases hheld : s.holds client row.label = true <;>
        simp [StoreRequest.serve, Store.save, hheld]
  | append move =>
      by_cases hheld : s.holds client move.label = true <;>
        simp [StoreRequest.serve, Store.append, hheld]
  | _ => exact ⟨_, _, rfl⟩

/-- Whoever is alone remains so. -/
theorem OnlyOf.served (h : s.OnlyOf client) (hserved : Served s client request after) :
    after.OnlyOf client := by
  have hupdate :
      ∀ change : Transaction → Transaction, (∀ t, (change t).client = t.client) →
        (s.update client change).OnlyOf client := by
    intro change hchange t ht
    obtain ⟨own, hown, rfl⟩ := List.mem_map.1 ht
    split
    · exact (hchange own).trans (h own hown)
    · exact h own hown
  have hleft : (s.rollback client).OnlyOf client :=
    fun t ht => h t (List.mem_filter.1 ht).1
  cases hserved with
  | same => exact h
  | rolledBack => exact hleft
  | locked => exact hupdate _ fun _ => rfl
  | saved => exact hupdate _ fun _ => rfl
  | appended => exact hupdate _ fun _ => rfl
  | begun =>
      intro t ht
      rcases List.mem_append.1 ht with hold | hnew
      · exact hleft t hold
      · rw [List.mem_singleton.1 hnew]
  | committed =>
      unfold Store.commit
      split
      · exact h
      · exact hleft

/-- **Replay.**  Whoever is alone in a store can make any requests within a transaction;
they leave the draft of the requests, and nothing is committed by them. -/
theorem replay (now : DateTime) {requests : List StoreRequest} (hs : s.Sound)
    (honly : s.OnlyOf client) (ht : s.transaction? client = some t) (hd : t.Drafted d)
    (hinside : ∀ request ∈ requests, ¬ request.IsBoundary) :
    ∃ after u, (requests.map (client, ·)).foldlM (ask now) s = some after ∧ after.Sound ∧
      after.OnlyOf client ∧ after.transaction? client = some u ∧
      u.Drafted (requests.foldl Draft.add d) ∧ after.rows = s.rows ∧
      after.ledger = s.ledger := by
  induction requests generalizing s t d with
  | nil => exact ⟨s, t, rfl, hs, honly, ht, hd, rfl, rfl⟩
  | cons request rest ih =>
      obtain ⟨answer, next, hserve⟩ := honly.serve now request
      have hserved : Served s client request next := Store.served hserve
      have hopen : ¬ request.IsBoundary := hinside request List.mem_cons_self
      obtain ⟨u, hu, hdraft⟩ := drafted_served ht hd hopen hserve
      have hkept : next.rows = s.rows ∧ next.ledger = s.ledger := by
        rcases hserved.committed_or_same with ⟨hcommit, -⟩ | ⟨-, hrows, hledger⟩
        · exact absurd (.inr (.inl hcommit)) hopen
        · exact ⟨hrows, hledger⟩
      obtain ⟨after, v, hfold, hsound, honly', hv, hlast, hrows, hledger⟩ :=
        ih (hs.served hserved) (honly.served hserved) hu hdraft
          fun other hin => hinside other (List.mem_cons_of_mem _ hin)
      refine ⟨after, v, ?_, hsound, honly', hv, hlast, hrows.trans hkept.1,
        hledger.trans hkept.2⟩
      simpa [ask, hserve] using hfold

/-- What a commit shows is the draft of its transaction, on top of what was committed. -/
theorem commit_drafted (hs : s.Sound) (ht : s.transaction? client = some t)
    (hd : t.Drafted d) (label : Label) :
    (s.commit client).row? label = (d.rows label).or (s.row? label) ∧
      ((s.commit client).history label).map Entry.toMove =
        (s.history label).map Entry.toMove ++ d.movesOf label := by
  constructor
  · rw [row?_commit ht (hs.rowsOnce ht), hd.rows]
  · rw [history_commit ht, List.map_append, hd.movesOf]

/-- **A whole transaction** in a store where nothing else goes on is never kept waiting;
it leaves its draft on top of what was committed. -/
theorem transact_eq_some (now : DateTime) (client : Client) {requests : List StoreRequest}
    (hs : s.Sound) (hidle : s.transactions = [])
    (hinside : ∀ request ∈ requests, ¬ request.IsBoundary) :
    ∃ after, transact now s (client, requests) = some after ∧ after.Sound ∧
      after.transactions = [] ∧ ∀ label,
        after.row? label = ((Draft.ofRequests requests).rows label).or (s.row? label) ∧
        (after.history label).map Entry.toMove =
          (s.history label).map Entry.toMove ++
            (Draft.ofRequests requests).movesOf label := by
  have hserved : Served s client .begin (s.begin client) := .begun
  have honly : (s.begin client).OnlyOf client :=
    OnlyOf.served (fun t ht => by simp [hidle] at ht) hserved
  have hopen : (s.begin client).transaction? client = some ⟨client, [], [], []⟩ := by simp
  obtain ⟨last, t, hfold, hsound, honly', ht, hdraft, hrows, hledger⟩ :=
    replay now (hs.served hserved) honly hopen (.begun client) hinside
  have hcommitted : Served last client .commit (last.commit client) := .committed
  refine ⟨last.commit client, ?_, hsound.served hcommitted, ?_, fun label => ?_⟩
  · have hbegin : ask now s (client, .begin) = some (s.begin client) := rfl
    have hcommit : ask now last (client, .commit) = some (last.commit client) := rfl
    simp only [transact, hbegin, Option.bind_eq_bind, Option.bind_some, hfold, hcommit]
  · refine List.eq_nil_iff_forall_not_mem.2 fun other hin => ?_
    simp only [Store.commit, ht, rollback] at hin
    obtain ⟨hold, hother⟩ := List.mem_filter.1 hin
    simp [honly' other hold] at hother
  · obtain ⟨hrow, hmoves⟩ := commit_drafted hsound ht hdraft label
    have hsame : last.row? label = s.row? label ∧ last.history label = s.history label :=
      ⟨congrArg (findRow · label) hrows, congrArg (entriesOf · label) hledger⟩
    rw [hrow, hmoves, hsame.1, hsame.2]
    exact ⟨rfl, rfl⟩

end Store

/-! ## The books account for the store -/

/-- What a client reads when its transaction has a draft. -/
structure Store.Reads (s : Store) (client : Client) (d : Draft) : Prop where
  /-- The row of a label is the one that was staged last, or the committed one. -/
  row : ∀ label now answer after,
    (StoreRequest.lock label).serve client now s = some (answer, after) →
      answer = .ok ((d.rows label).or (s.row? label))
  /-- The entries of a label are the committed ones, and behind them those that were
  staged. -/
  entries : ∀ label now answer after,
    (StoreRequest.ownHistory label).serve client now s = some (answer, after) →
      ∃ own, answer = .ok (s.history label ++ own) ∧
        own.map Entry.toMove = d.movesOf label

/-- The books account for a store. -/
structure Balanced (now : DateTime) (b : Books) (s : Store) : Prop where
  sound : s.Sound
  serial : ∃ u, Store.inTurn now b.committed = some u ∧ u.Sound ∧ u.transactions = [] ∧
    u.Alike s
  opened : ∀ {client requests}, b.opened client = some requests →
    ∃ t, s.transaction? client = some t ∧ t.Drafted (Draft.ofRequests requests)
  closed : ∀ {client}, b.opened client = none → s.transaction? client = none
  /-- Transactions do not begin or end within each other. -/
  inside : ∀ {client requests}, b.opened client = some requests →
    ∀ request ∈ requests, ¬ request.IsBoundary
  drawn : s.nextId = 1 + b.drawn

namespace Balanced

variable {b : Books} {s after : Store} {client : Client} {now instant : DateTime}
  {request : StoreRequest} {answer : Except StoreError request.Result}

/-- The books of an empty store are true. -/
theorem empty (now : DateTime) : Balanced now {} {} where
  sound := Store.sound_empty
  serial := ⟨{}, rfl, Store.sound_empty, rfl, ⟨fun _ => rfl, fun _ => rfl⟩⟩
  opened h := by cases h
  closed _ := rfl
  inside h := by cases h
  drawn := rfl

/-- The books of all other clients remain true when one client's transaction changes and
nothing is committed. -/
theorem put {requests : Option (List StoreRequest)} {drawn : Nat} (h : Balanced now b s)
    (hsound : after.Sound) (hrows : after.rows = s.rows)
    (hledger : after.ledger = s.ledger)
    (hothers : ∀ other, other ≠ client → after.transaction? other = s.transaction? other)
    (hopened : ∀ made, requests = some made → (∃ t, after.transaction? client = some t ∧
      t.Drafted (Draft.ofRequests made)) ∧ ∀ request ∈ made, ¬ request.IsBoundary)
    (hclosed : requests = none → after.transaction? client = none)
    (hdrawn : after.nextId = 1 + drawn) :
    Balanced now { b.put client requests with drawn := drawn } after := by
  obtain ⟨u, hu, husound, hidle, halike⟩ := h.serial
  refine ⟨hsound, ⟨u, hu, husound, hidle, ?_, ?_⟩, ?_, ?_, ?_, hdrawn⟩
  · intro label
    rw [halike.rows, Store.row?, Store.row?, hrows]
  · intro label
    rw [halike.moves, Store.history, Store.history, hledger]
  · intro other made hmade
    by_cases hother : other = client
    · subst hother
      exact (hopened made (by simpa using hmade)).1
    · rw [hothers other hother]
      exact h.opened (by simpa [hother] using hmade)
  · intro other hmade
    by_cases hother : other = client
    · subst hother
      exact hclosed (by simpa using hmade)
    · rw [hothers other hother]
      exact h.closed (by simpa [hother] using hmade)
  · intro other made hmade
    by_cases hother : other = client
    · subst hother
      exact (hopened made (by simpa using hmade)).2
    · exact h.inside (by simpa [hother] using hmade)

/-- A client holds the lock of a label when its requests have locked it. -/
theorem holds_iff (h : Balanced now b s) {label : Label} : s.holds client label = true ↔
    ((b.opened client).any fun requests => label ∈ (Draft.ofRequests requests).locked) =
      true := by
  rw [Store.holds_iff]
  cases hmade : b.opened client with
  | none => simp [h.closed hmade]
  | some requests =>
      obtain ⟨t, ht, hdraft⟩ := h.opened hmade
      simp [ht, hdraft.locked]

/-- A request draws a number when the store makes an entry for it. -/
theorem nextId_served (h : Balanced now b s)
    (hserve : request.serve client instant s = some (answer, after)) :
    after.nextId = s.nextId + b.draws client request := by
  cases request with
  | append move =>
      by_cases hheld : s.holds client move.label = true
      · have hdrawn := h.holds_iff.1 hheld
        simp only [StoreRequest.serve, Store.append, hheld, if_true] at hserve
        cases hserve
        simp only [Books.draws, hdrawn, if_true]
        rfl
      · have hfree := mt h.holds_iff.2 hheld
        simp only [StoreRequest.serve, Store.append, hheld] at hserve
        cases hserve
        simp only [Books.draws, hfree]
        exact (Int.add_zero _).symm
  | lock label =>
      obtain ⟨⟨found, s'⟩, hlock, heq⟩ := Option.map_eq_some_iff.1 hserve
      cases heq
      unfold Store.lock? at hlock
      split at hlock
      · cases hlock
      · cases hlock
        split <;> exact (Int.add_zero _).symm
  | save row =>
      by_cases hheld : s.holds client row.label = true <;>
        simp only [StoreRequest.serve, Store.save, hheld, if_true] at hserve <;>
        cases hserve <;>
        exact (Int.add_zero _).symm
  | commit =>
      cases hserve
      simp only [Store.commit]
      split <;> exact (Int.add_zero _).symm
  | _ => cases hserve; exact (Int.add_zero _).symm

/-- Dropping a transaction takes it from the books. -/
theorem drop (h : Balanced now b s) (client : Client) :
    Balanced now (b.put client none) (s.rollback client) := by
  have hserved : Store.Served s client .rollback (s.rollback client) := .rolledBack
  exact h.put (h.sound.served hserved) rfl rfl (fun other => hserved.transaction?_other)
    (fun _ hmade => by cases hmade) (fun _ => by simp) h.drawn

/-- A commit enters its transaction as the last of the committed ones. -/
theorem commit (h : Balanced now b s) (client : Client) :
    Balanced now (b.enter (.served client .commit)) (s.commit client) := by
  have hserved : Store.Served s client .commit (s.commit client) := .committed
  cases hmade : b.opened client with
  | none =>
      have hidle : s.commit client = s := by simp [Store.commit, h.closed hmade]
      simpa only [Books.enter, hmade, hidle] using h
  | some requests =>
      obtain ⟨t, ht, hdraft⟩ := h.opened hmade
      obtain ⟨u, hu, husound, huidle, halike⟩ := h.serial
      obtain ⟨next, hnext, hsound, hidle, hdone⟩ := Store.transact_eq_some now client
        husound huidle (h.inside hmade)
      have hshown := Store.commit_drafted h.sound ht hdraft
      have hleft := h.drop client
      simp only [Books.enter, hmade]
      refine ⟨h.sound.served hserved, ⟨next, ?_, hsound, hidle, ?_, ?_⟩, ?_, ?_,
        hleft.inside, ?_⟩
      · have hturn : Store.inTurn now (b.committed ++ [(client, requests)]) =
            (Store.inTurn now b.committed).bind fun u =>
              Store.transact now u (client, requests) := by
          simp [Store.inTurn, List.foldlM_append]
        rw [hturn, hu, Option.bind_some, hnext]
      · intro label
        rw [(hdone label).1, (hshown label).1, halike.rows]
      · intro label
        rw [(hdone label).2, (hshown label).2, halike.moves]
      · intro other made hother
        obtain ⟨t', ht', hdraft'⟩ := hleft.opened hother
        exact ⟨t', by simpa using ht', hdraft'⟩
      · intro other hother
        simpa using hleft.closed hother
      · have hsame : (s.commit client).nextId = s.nextId := by
          simp only [Store.commit, ht]
          rfl
        rw [hsame]
        exact h.drawn

/-- **Step.**  A request that is answered leaves the books true. -/
theorem serve (h : Balanced now b s)
    (hserve : request.serve client instant s = some (answer, after)) :
    Balanced now (b.enter (.served client request)) after := by
  have hserved : Store.Served s client request after := Store.served hserve
  by_cases hboundary : request.IsBoundary
  · rcases hboundary with rfl | rfl | rfl
    · cases hserve
      refine h.put (h.sound.served hserved) rfl rfl
        (fun other => hserved.transaction?_other) ?_
        (fun hnone => by cases hnone) h.drawn
      rintro made hmade
      obtain rfl := Option.some.inj hmade
      exact ⟨⟨_, by simp, .begun client⟩, by simp⟩
    · cases hserve
      exact h.commit client
    · cases hserve
      exact h.drop client
  · obtain ⟨hrows, hledger⟩ : after.rows = s.rows ∧ after.ledger = s.ledger := by
      rcases hserved.committed_or_same with ⟨hcommit, -⟩ | ⟨-, hrows, hledger⟩
      · exact absurd (.inr (.inl hcommit)) hboundary
      · exact ⟨hrows, hledger⟩
    rw [Books.enter_inside _ _ hboundary]
    refine h.put (h.sound.served hserved) hrows hledger
      (fun other => hserved.transaction?_other)
      ?_ ?_ ?_
    · intro made hmade
      obtain ⟨requests, hrequests, rfl⟩ := Option.map_eq_some_iff.1 hmade
      obtain ⟨t, ht, hdraft⟩ := h.opened hrequests
      refine ⟨?_, fun other hin => ?_⟩
      · simpa using Store.drafted_served ht hdraft hboundary hserve
      · rcases List.mem_append.1 hin with hold | hnew
        · exact h.inside hrequests other hold
        · rw [List.mem_singleton.1 hnew]
          exact hboundary
    · intro hnone
      exact Store.closed_served (h.closed (Option.map_eq_none_iff.1 hnone))
        hboundary hserve
    · rw [h.nextId_served hserve, h.drawn]
      push_cast
      omega

/-- What is read within a transaction. -/
theorem reads (h : Balanced now b s) {requests : List StoreRequest}
    (hmade : b.opened client = some requests) :
    s.Reads client (Draft.ofRequests requests) := by
  obtain ⟨t, ht, hdraft⟩ := h.opened hmade
  refine ⟨?_, ?_⟩
  · intro label instant answer after hserve
    obtain ⟨⟨found, s'⟩, hlock, heq⟩ := Option.map_eq_some_iff.1 hserve
    cases heq
    unfold Store.lock? at hlock
    split at hlock
    · cases hlock
    · cases hlock
      refine congrArg Except.ok ?_
      by_cases hheld : s.holds client label = true
      · simp only [hheld, if_true]
        rw [Store.ownRow?_eq ht, hdraft.rows]
      · simp only [hheld]
        rw [← hdraft.rows]
        exact Store.ownRow?_eq
          (Store.transaction?_update_self ht (Store.taking label) fun _ => rfl)
  · intro label instant answer after hserve
    cases hserve
    refine ⟨entriesOf t.entries label, ?_, hdraft.movesOf label⟩
    simp [Store.ownHistory, ht]

end Balanced

/-- In all traffic the books account for the store. -/
theorem Traffic.balanced {past : List StoreEvent} {s : Store} (traffic : Traffic past s)
    (now : DateTime) : Balanced now (books past) s := by
  induction traffic with
  | empty => exact .empty now
  | serve _ client instant request hserve ih => rw [books_append]; exact ih.serve hserve
  | drop _ client ih => rw [books_append]; exact ih.drop client

/-- **Transactions are serialisable.**  Whatever clients ask of a store, in whatever
order they are answered, and whichever transactions are dropped:

* no label is locked by two transactions, and a lock waits only for a transaction that
  holds it;
* the committed transactions, made one after the other in the order of their commits,
  are never kept waiting, and they leave the rows and the moves that are committed;
* what else is in the store are the open transactions, each with the draft of its own
  requests, and each reads its draft on top of what is committed;
* of all that was rolled back or dropped only the numbers remain that were drawn. -/
theorem Traffic.serialisable {past : List StoreEvent} {s : Store}
    (traffic : Traffic past s) (now : DateTime) :
    (∀ label first second, s.holds first label = true → s.holds second label = true →
      first = second) ∧
    (∀ client instant label, (StoreRequest.lock label).serve client instant s = none ↔
      ∃ other, other ≠ client ∧ s.holds other label = true) ∧
    (∃ serial, Store.inTurn now (books past).committed = some serial ∧
      serial.transactions = [] ∧ serial.Alike s) ∧
    (∀ client, (books past).opened client = none → s.transaction? client = none) ∧
    (∀ client requests, (books past).opened client = some requests →
      (∃ t, s.transaction? client = some t ∧ t.Drafted (Draft.ofRequests requests)) ∧
        s.Reads client (Draft.ofRequests requests)) ∧
    s.nextId = 1 + (books past).drawn := by
  have h : Balanced now (books past) s := traffic.balanced now
  refine ⟨?_, ?_, ?_, fun client => h.closed, ?_, h.drawn⟩
  · intro label first second hfirst hsecond
    obtain ⟨t, ht, hin⟩ := Store.holds_iff.1 hfirst
    obtain ⟨u, hu, hin'⟩ := Store.holds_iff.1 hsecond
    exact h.sound.exclusive ht hu hin hin'
  · intro client instant label
    exact h.sound.lock_waits_iff
  · obtain ⟨serial, hserial, -, hidle, halike⟩ := h.serial
    exact ⟨serial, hserial, hidle, halike⟩
  · intro client requests hmade
    exact ⟨h.opened hmade, h.reads hmade⟩

/-- Two transactions at a time, of which the one that began last commits first, and a
third one that is dropped. -/
theorem Traffic.serialisable_crossing : ∃ past s serial,
    Traffic past s ∧ (books past).committed.map Prod.fst = [.worker 1, .worker 0] ∧
      Store.inTurn ⟨0, ⟨0, 0⟩⟩ (books past).committed = some serial ∧
      (serial.row? ⟨"x", "m"⟩).map Record.metadata = some (.obj []) ∧
      (s.history ⟨"x", "m"⟩).map Entry.toMove = [.creation ⟨"x", "m"⟩ "new"] ∧
      s.transaction? (.worker 2) = none ∧ s.nextId = 1 + (books past).drawn := by
  let now : DateTime := ⟨0, ⟨0, 0⟩⟩
  let a : Client := .worker 0
  let b : Client := .worker 1
  let c : Client := .worker 2
  let x : Label := ⟨"x", "m"⟩
  let y : Label := ⟨"y", "m"⟩
  have hadded : Traffic _ ⟨[], [], 3,
      [⟨a, [x], [⟨x, .obj [], false, true⟩], [⟨.creation x "new", 1, now⟩]⟩,
        ⟨b, [y], [⟨y, .obj [], false, true⟩], [⟨.creation y "new", 2, now⟩]⟩]⟩ :=
    (((((((Traffic.empty.serve a now .begin rfl).serve b now .begin rfl).serve a
      now (.lock x)
      rfl).serve b now (.lock y) rfl).serve a now (.save ⟨x, .obj [], false, true⟩)
      rfl).serve b now
      (.save ⟨y, .obj [], false, true⟩) rfl).serve a now (.append (.creation x "new"))
      rfl).serve b now
      (.append (.creation y "new")) rfl
  have hcommitted : Traffic _ ⟨[⟨y, .obj [], false, true⟩, ⟨x, .obj [], false, true⟩],
      [⟨.creation y "new", 2, now⟩, ⟨.creation x "new", 1, now⟩], 3, []⟩ :=
    (hadded.serve b now .commit rfl).serve a now .commit rfl
  have hstaged : Traffic _ ⟨[⟨y, .obj [], false, true⟩, ⟨x, .obj [], false, true⟩],
      [⟨.creation y "new", 2, now⟩, ⟨.creation x "new", 1, now⟩], 3,
      [⟨c, [x], [⟨x, .null, true, true⟩], []⟩]⟩ :=
    ((hcommitted.serve c now .begin rfl).serve c now (.lock x) rfl).serve c now
      (.save ⟨x, .null, true, true⟩) rfl
  have hdropped := hstaged.drop c
  obtain ⟨-, -, ⟨serial, hserial, -, halike⟩, hclosed, -, hdrawn⟩ :=
    Traffic.serialisable hdropped now
  refine ⟨_, _, serial, hdropped, ?_, hserial, ?_, rfl, hclosed c ?_, hdrawn⟩
  · simp [books, Books.enter, Books.put, a, b]
  · rw [halike.rows]
    rfl
  · simp [books, Books.enter, Books.put]

end Turnstile

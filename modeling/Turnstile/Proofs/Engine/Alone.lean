import Turnstile.Proofs.Engine.Desk
import Turnstile.Proofs.Store.Accord

/-!
# One client alone

One client works, and all others hold still: the store answers its requests, and
whatever else it asks is answered by its `Surroundings`.

* `Store.engaged` : a store in which the client has a transaction open.  Committing it
  writes what was staged (`commit_engaged`), dropping it gives the store back
  (`rollback_engaged`).
* `Work.Asks` : what a piece of work can ask.  Work that asks nothing of the store
  leaves it as it is (`Surroundings.does_offline`).
* `Surroundings.lockLive_alone` : what a lone client finds when it looks a label up.
-/

set_option autoImplicit false

namespace Turnstile

open Time (DateTime)

/-! ## What work can ask -/

/-- All requests of some work, whatever is answered, are among the allowed ones. -/
inductive Work.Asks {α : Type} (allowed : Request → Prop) : Work α → Prop
  | done (a : α) : Asks allowed (.done a)
  | ask {r : Request} {next : r.Answer → Work α} (hr : allowed r)
      (hnext : ∀ answer, Asks allowed (next answer)) :
      Asks allowed (.ask r next)

section Asks

variable {α β : Type} {allowed : Request → Prop}

namespace Work

theorem asks_pure (a : α) : (pure a : Work α).Asks allowed := .done a

/-- A request asks for itself only. -/
theorem asks_request {r : Request} (hr : allowed r) : (request r).Asks allowed :=
  .ask hr .done

theorem Asks.bind {work : Work α} {next : α → Work β} (h : work.Asks allowed)
    (hnext : ∀ a, (next a).Asks allowed) : (work >>= next).Asks allowed := by
  induction h with
  | done a => exact hnext a
  | ask hr _ ih => exact .ask hr ih

theorem Asks.mono {more : Request → Prop} {work : Work α} (h : work.Asks allowed)
    (hmore : ∀ r, allowed r → more r) : work.Asks more := by
  induction h with
  | done a => exact .done a
  | ask hr _ ih => exact .ask (hmore _ hr) ih

end Work

namespace Attempt

/-- `Work.Asks` for work that can fail. -/
def Asks (allowed : Request → Prop) (attempt : Attempt α) : Prop :=
  attempt.run.Asks allowed

theorem asks_pure (a : α) : (pure a : Attempt α).Asks allowed := .done _

theorem asks_throw (error : EngineError) : (throw error : Attempt α).Asks allowed :=
  .done _

theorem Asks.bind {attempt : Attempt α} {next : α → Attempt β} (h : attempt.Asks allowed)
    (hnext : ∀ a, (next a).Asks allowed) : (attempt >>= next).Asks allowed := by
  refine Work.Asks.bind h fun result => ?_
  cases result with
  | ok a => exact hnext a
  | error error => exact .done _

/-- A request of the store asks for itself only. -/
theorem asks_ofStore {request : StoreRequest} (h : allowed (.store request)) :
    (ofStore request).Asks allowed := by
  refine (Work.asks_request h).bind fun answer => ?_
  cases answer <;> exact .done _

/-- Work asks the same inside an attempt. -/
theorem asks_ofWork {work : Work α} (h : work.Asks allowed) :
    (ofWork work).Asks allowed :=
  h.bind fun _ => .done _

theorem asks_ofExcept {ε : Type} (wrap : ε → EngineError) (result : Except ε α) :
    (ofExcept wrap result).Asks allowed := .done _

end Attempt

end Asks

/-- A request that is not for the store. -/
def Request.Offline (r : Request) : Prop := ∀ request, r ≠ .store request

/-! ## The store of a lone client -/

namespace Store

variable {s : Store} {client : Client} {label : Label} {t : Transaction}

/-- The store with one more open transaction. -/
def engaged (s : Store) (t : Transaction) : Store :=
  { s with transactions := s.transactions ++ [t] }

/-- The store with rows and entries written at once. -/
def written (s : Store) (rows : List Record) (entries : List Entry) : Store :=
  { s with
    rows := putRows s.rows rows
    ledger := s.ledger ++ entries
    nextId := s.nextId + entries.length }

@[simp] theorem row?_engaged : (s.engaged t).row? label = s.row? label := rfl

@[simp] theorem history_engaged : (s.engaged t).history label = s.history label := rfl

/-- Nothing is left for a second rollback. -/
@[simp] theorem rollback_rollback :
    (s.rollback client).rollback client = s.rollback client := by
  simp [rollback, List.filter_filter]

/-- No open transaction belongs to an idle client. -/
theorem client_ne_of_mem (hidle : s.transaction? client = none) {u : Transaction}
    (hu : u ∈ s.transactions) :
    u.client ≠ client := by
  simpa using List.find?_eq_none.1 hidle u hu

/-- A client that was idle has the transaction it engages in. -/
theorem transaction?_engaged (hidle : s.transaction? client = none)
    (ht : t.client = client) :
    (s.engaged t).transaction? client = some t := by
  have happend : (s.engaged t).transaction? client =
      (s.transaction? client).or
      ([t].find? fun u : Transaction => decide (u.client = client)) :=
    List.find?_append
  rw [happend, hidle, List.find?_singleton]
  simp [ht]

/-- A client's own transaction keeps no label from it. -/
theorem isTaken_engaged (ht : t.client = client) :
    (s.engaged t).isTaken client label = s.isTaken client label := by
  simp [isTaken, engaged, ht]

/-- The client holds what its transaction has locked. -/
theorem holds_engaged (hidle : s.transaction? client = none) (ht : t.client = client) :
    (s.engaged t).holds client label = t.holds label := by
  rw [holds, transaction?_engaged hidle ht, Option.any_some]

/-- Only the client's own transaction changes with it. -/
theorem update_engaged (hidle : s.transaction? client = none) (ht : t.client = client)
    (change : Transaction → Transaction) :
    (s.engaged t).update client change = s.engaged (change t) := by
  have hothers : (s.transactions.map fun u => if u.client = client then change u else u) =
      s.transactions := by
    conv_rhs => rw [← List.map_id s.transactions]
    exact List.map_congr_left fun u hu => if_neg (client_ne_of_mem hidle hu)
  simp only [Store.update, engaged, List.map_append, List.map_cons, List.map_nil,
    hothers, ht, if_true]

/-- Dropping the transaction gives the store back. -/
theorem rollback_engaged (hidle : s.transaction? client = none) (ht : t.client = client) :
    (s.engaged t).rollback client = s := by
  have hothers : (s.transactions.filter fun u => u.client ≠ client) = s.transactions :=
    List.filter_eq_self.2 fun u hu => by simpa using client_ne_of_mem hidle hu
  simp only [rollback, engaged, List.filter_append, hothers]
  simp [ht]

/-- Committing the transaction writes what it staged. -/
theorem commit_engaged (hidle : s.transaction? client = none) (ht : t.client = client) :
    (s.engaged t).commit client =
      { s with rows := putRows s.rows t.rows, ledger := s.ledger ++ t.entries } := by
  simp only [commit, transaction?_engaged hidle ht, rollback_engaged hidle ht]
  rfl

/-- A client that dropped its transaction has none. -/
theorem transaction?_rollback_self (s : Store) (client : Client) :
    (s.rollback client).transaction? client = none := by
  rw [transaction?_rollback, if_pos rfl]

/-- An idle client has nothing to roll back. -/
theorem rollback_of_idle (hidle : s.transaction? client = none) :
    s.rollback client = s := by
  have hothers : (s.transactions.filter fun u => u.client ≠ client) = s.transactions :=
    List.filter_eq_self.2 fun u hu => by simpa using client_ne_of_mem hidle hu
  simp only [rollback, hothers]

end Store

/-! ## Surroundings -/

/-- What a lone client meets outside the store: the instant that the store's clock
shows, and the answers to its requests.  Both depend on a state of affairs, which
changes with every request. -/
structure Surroundings (σ : Type) where
  clock : σ → DateTime
  answer : (r : Request) → σ → r.Answer × σ

/-- Why a lone client does not get a lock that another holds: nobody else moves, so it
is never given free. -/
def heldForEver : StoreError := .backend "the lock is held for ever"

namespace Surroundings

variable {σ α β : Type} (around : Surroundings σ) (client : Client)

/-- Answer a request of the client to the store. -/
def serveStore (request : StoreRequest) (s : Store) (x : σ) :
    Except StoreError request.Result × (Store × σ) :=
  match request.serve client (around.clock x) s with
  | some (answer, after) => (answer, after, (around.answer (.store request) x).2)
  | none => (.error heldForEver, s, (around.answer (.store request) x).2)

/-- Answer a request of the client. -/
def serve : (r : Request) → Store × σ → r.Answer × (Store × σ)
  | .store request, (s, x) => around.serveStore client request s x
  | .deliver delivery, (s, x) =>
      ((around.answer (.deliver delivery) x).1, s,
        (around.answer (.deliver delivery) x).2)
  | .fetch url, (s, x) =>
      ((around.answer (.fetch url) x).1, s, (around.answer (.fetch url) x).2)
  | .notify notice, (s, x) =>
      ((around.answer (.notify notice) x).1, s, (around.answer (.notify notice) x).2)
  | .log event, (s, x) =>
      ((around.answer (.log event) x).1, s, (around.answer (.log event) x).2)
  | .now, (s, x) => ((around.answer .now x).1, s, (around.answer .now x).2)
  | .stopRequested, (s, x) =>
      ((around.answer .stopRequested x).1, s, (around.answer .stopRequested x).2)
  | .nextTick, (s, x) => ((around.answer .nextTick x).1, s, (around.answer .nextTick x).2)

/-- Do work alone: its result, and what is left. -/
def does (work : Work α) (s : Store) (x : σ) : α × (Store × σ) :=
  work.runWith (around.serve client) (s, x)

variable {around client} {s s' : Store} {x x' : σ}

/-- Requests that are not for the store leave it as it is. -/
theorem serve_offline {r : Request} (hr : r.Offline) :
    around.serve client r (s, x) = ((around.answer r x).1, s, (around.answer r x).2) := by
  cases r with
  | store request => exact absurd rfl (hr request)
  | _ => rfl

variable (around client s x) in
/-- **Offline work** leaves the store as it is, and what comes of it does not depend on
the store. -/
theorem does_offline {work : Work α} (h : work.Asks Request.Offline) :
    around.does client work s x =
      ((work.runWith around.answer x).1, s, (work.runWith around.answer x).2) := by
  unfold does
  induction h generalizing x with
  | done a => rfl
  | @ask r next hr _ ih =>
      simp only [Work.runWith]
      rw [serve_offline hr]
      exact ih _ _

/-- Work in sequence is done in sequence. -/
theorem does_bind {work : Work α} {a : α} (h : around.does client work s x = (a, s', x'))
    (next : α → Work β) :
    around.does client (work >>= next) s x = around.does client (next a) s' x' := by
  unfold does at *
  exact (Work.runWith_bind _ _ _ _).trans (by rw [h])

/-- An attempt that succeeds is followed by the next. -/
theorem does_ok_bind {attempt : Attempt α} {a : α}
    (h : around.does client attempt.run s x = (.ok a, s', x'))
    (next : α → Attempt β) :
    around.does client (attempt >>= next).run s x =
      around.does client (next a).run s' x' :=
  does_bind h _

/-- An attempt that fails is the last. -/
theorem does_error_bind {attempt : Attempt α} {error : EngineError}
    (h : around.does client attempt.run s x = (.error error, s', x'))
    (next : α → Attempt β) :
    around.does client (attempt >>= next).run s x = (.error error, s', x') :=
  does_bind h _

/-! ## Requests within a transaction -/

variable {label : Label} {t : Transaction}

/-- The store answers a request. -/
theorem does_ofStore {request : StoreRequest} {a : request.Result}
    (h : request.serve client (around.clock x) s = some (.ok a, s')) :
    around.does client (Attempt.ofStore request).run s x =
      (.ok a, s', (around.answer (.store request) x).2) := by
  change around.does client (Work.ask (.store request) _) s x = _
  simp only [does, Work.runWith, serve, serveStore, h]
  rfl

/-- The store lets the client wait. -/
theorem does_ofStore_waits {request : StoreRequest}
    (h : request.serve client (around.clock x) s = none) :
    around.does client (Attempt.ofStore request).run s x =
      (.error (.store heldForEver), s, (around.answer (.store request) x).2) := by
  change around.does client (Work.ask (.store request) _) s x = _
  simp only [does, Work.runWith, serve, serveStore, h]
  rfl

end Surroundings

/-- What a lone client finds when it looks a label up that should be live. -/
def Store.inquire (s : Store) (client : Client) (label : Label) :
    Except EngineError (Record × History) :=
  if s.isTaken client label then .error (.store heldForEver)
  else
    match s.row? label with
    | none => .error (.unknownLabel label)
    | some row =>
      if row.deleted then .error (.deletedLabel label)
      else .ok (row, History.ofEntries (s.history label))

/-- An inquiry succeeds for labels that are live, with all that was recorded of them. -/
theorem Store.inquire_eq_ok {s : Store} {client : Client} {label : Label} {row : Record}
    {history : History} (h : s.inquire client label = .ok (row, history)) :
    s.row? label = some row ∧ row.deleted = false ∧
    history = History.ofEntries (s.history label) := by
  unfold inquire at h
  split at h
  · cases h
  · split at h
    · cases h
    · next found hrow =>
        split at h
        · cases h
        · next hlive =>
            cases h
            exact ⟨hrow, by simpa using hlive, rfl⟩

namespace Surroundings

variable {σ : Type} {around : Surroundings σ} {client : Client} {s : Store} {x : σ}
  {label : Label}

variable (label) in
/-- A lock that is free is taken, and the committed row is read. -/
theorem serve_lock_engaged (hidle : s.transaction? client = none)
    (hfree : s.isTaken client label = false) (locked : List Label) (now : DateTime) :
    ∃ locked', label ∈ locked' ∧
      (StoreRequest.lock label).serve client now (s.engaged ⟨client, locked, [], []⟩) =
        some (.ok (s.row? label), s.engaged ⟨client, locked', [], []⟩) := by
  have hserve := Store.serve_lock
    (Store.transaction?_engaged (t := ⟨client, locked, [], []⟩) hidle rfl)
    ((Store.isTaken_engaged rfl).trans hfree) now
  rw [Store.holds_engaged hidle rfl, Store.update_engaged hidle rfl] at hserve
  by_cases hheld : label ∈ locked
  · exact ⟨locked, hheld, hserve.trans (by simp [Transaction.holds, hheld, findRow])⟩
  · exact ⟨label :: locked, List.mem_cons_self,
      hserve.trans (by simp [Transaction.holds, hheld, findRow, Store.taking])⟩

variable (around x label) in
/-- A client that has staged no entries reads the committed ones. -/
theorem does_readOwnHistory (hidle : s.transaction? client = none) (locked : List Label) :
    ∃ x', around.does client (readOwnHistory label).run
      (s.engaged ⟨client, locked, [], []⟩) x =
      (.ok (History.ofEntries (s.history label)),
        s.engaged ⟨client, locked, [], []⟩, x') := by
  have hserve : (StoreRequest.ownHistory label).serve client (around.clock x)
      (s.engaged ⟨client, locked, [], []⟩) =
      some (.ok (s.history label), s.engaged ⟨client, locked, [], []⟩) := by
    rw [StoreRequest.serve,
      Store.ownHistory_of_some (Store.transaction?_engaged hidle rfl)]
    simp [entriesOf]
  refine ⟨(around.answer (.store (.ownHistory label)) x).2, ?_⟩
  unfold readOwnHistory
  rw [does_ok_bind (does_ofStore hserve)]
  rfl

variable (around x label) in
/-- **A lone client looks a label up** in its transaction. -/
theorem lockLive_alone (hidle : s.transaction? client = none) (locked : List Label) :
    ∃ locked' x', around.does client (lockLive label).run
      (s.engaged ⟨client, locked, [], []⟩) x =
        (s.inquire client label, s.engaged ⟨client, locked', [], []⟩, x') ∧
      ∀ found, s.inquire client label = .ok found → label ∈ locked' := by
  cases htaken : s.isTaken client label with
  | true =>
      have hwaits : (StoreRequest.lock label).serve client (around.clock x)
          (s.engaged ⟨client, locked, [], []⟩) =
            none := by
        simp [StoreRequest.serve, Store.lock?, Store.isTaken_engaged, htaken]
      have hfound : s.inquire client label = .error (.store heldForEver) := by
        simp [Store.inquire, htaken]
      refine ⟨locked, (around.answer (.store (.lock label)) x).2, ?_,
        fun found h => by simp [hfound] at h⟩
      rw [hfound]
      exact does_error_bind (does_ofStore_waits hwaits) _
  | false =>
      obtain ⟨locked', hheld, hserve⟩ :=
        serve_lock_engaged label hidle htaken locked (around.clock x)
      refine ⟨locked', ?_⟩
      unfold lockLive lockRow
      rw [does_ok_bind (does_ofStore hserve)]
      simp only [Store.inquire, htaken, Bool.false_eq_true, if_false]
      cases s.row? label with
      | none => exact ⟨_, rfl, by simp⟩
      | some row =>
          cases hdeleted : row.deleted with
          | true =>
              simp only [hdeleted, if_true]
              exact ⟨_, rfl, by simp⟩
          | false =>
              obtain ⟨x', hread⟩ :=
                does_readOwnHistory around (around.answer (.store (.lock label)) x).2
                  label hidle locked'
              refine ⟨x', ?_, fun _ _ => hheld⟩
              simp only [hdeleted, Bool.false_eq_true, if_false]
              rw [does_ok_bind hread]
              rfl

/-! ## Writing -/

variable {t : Transaction}

/-- A row whose label is locked is staged. -/
theorem does_saveRow {row : Record} (hidle : s.transaction? client = none)
    (ht : t.client = client) (hheld : row.label ∈ t.locked) :
    ∃ x', around.does client (saveRow row).run (s.engaged t) x =
      (.ok (), s.engaged (Store.staging row t), x') := by
  have hserve : (StoreRequest.save row).serve client (around.clock x) (s.engaged t) =
      some (.ok (), s.engaged (Store.staging row t)) := by
    have hholds : (s.engaged t).holds client row.label = true := by
      simpa [Store.holds_engaged hidle ht, Transaction.holds] using hheld
    simp only [StoreRequest.serve, Store.save, hholds, if_true,
      Store.update_engaged hidle ht]
    rfl
  exact ⟨_, does_ofStore hserve⟩

variable (around x) in
/-- A move of a label that is locked is staged, with the next number and the instant on
the clock. -/
theorem does_appendMove (move : Move) (hidle : s.transaction? client = none)
    (ht : t.client = client) (hheld : move.label ∈ t.locked) :
    ∃ x', around.does client (appendMove move).run (s.engaged t) x =
      (.ok ⟨move, s.nextId, around.clock x⟩,
        Store.engaged { s with nextId := s.nextId + 1 }
          (Store.adding ⟨move, s.nextId, around.clock x⟩ t), x') := by
  have hserve : (StoreRequest.append move).serve client (around.clock x) (s.engaged t) =
      some (.ok ⟨move, s.nextId, around.clock x⟩,
        Store.engaged { s with nextId := s.nextId + 1 }
          (Store.adding ⟨move, s.nextId, around.clock x⟩ t)) := by
    have hholds : (s.engaged t).holds client move.label = true := by
      simpa [Store.holds_engaged hidle ht, Transaction.holds] using hheld
    simp only [StoreRequest.serve, Store.append, hholds, if_true,
      Store.update_engaged hidle ht]
    rfl
  exact ⟨_, does_ofStore hserve⟩

end Surroundings

/-! ## Transactions -/

/-- The store after a transaction: what it staged is kept if it has a result. -/
def Store.settled {α : Type} (s : Store) (client : Client) : Except EngineError α → Store
  | .ok _ => s.commit client
  | .error _ => s.rollback client

namespace Surroundings

variable {σ α : Type} {around : Surroundings σ} {client : Client} {s after : Store}
  {x x' : σ}

/-- **A lone client's transaction** is begun, made and settled. -/
theorem does_inTransaction {attempt : Attempt α} {result : Except EngineError α}
    (h : around.does client attempt.run ((s.rollback client).engaged ⟨client, [], [], []⟩)
      (around.answer (.store .begin) x).2 = (result, after, x')) :
    ∃ x'', around.does client (inTransaction attempt).run s x =
      (result, after.settled client result, x'') := by
  have hbegun : around.does client (inTransaction attempt).run s x =
      around.does client (attempt.run >>= settle)
        ((s.rollback client).engaged ⟨client, [], [], []⟩)
        (around.answer (.store .begin) x).2 := rfl
  rw [hbegun, does_bind h]
  cases result with
  | ok a => exact ⟨_, rfl⟩
  | error error => exact ⟨_, rfl⟩

end Surroundings

end Turnstile

import Turnstile.Proofs.Engine.Calls
import Turnstile.Proofs.Store.Locking

/-!
# What workers know is true

The contract of a call speaks of what its worker knows.  Here the knowledge is tied to
the store: the store answers as the contract says (`Stance.Agrees.answered`), and what
other clients do does not change what a worker knows, for they cannot touch the label
that it has locked (`Stance.Agrees.frame`).

So in every run every call keeps its contract (`Run.faithful`), and a commit is a deed
(`Faithful.step_cases`).
-/

set_option autoImplicit false

namespace Turnstile

open Time (DateTime)

/-! ## Desks and stores -/

/-- The store holds what lies on the desk of its client. -/
structure Desk.Shown (s : Store) (client : Client) (d : Desk) : Prop where
  transaction : s.transaction? client = some ⟨client, [d.label], d.saved.toList, d.added⟩
  row : s.row? d.label = d.row
  past : s.history d.label = d.past

/-- The store agrees with where its client stands. -/
def Stance.Agrees (s : Store) (client : Client) : Stance → Prop
  | .idle => s.transaction? client = none
  | .begun => s.transaction? client = some ⟨client, [], [], []⟩
  | .holding d => d.Shown s client

variable {app : App} {call : Call} {s after : Store} {client other : Client} {d : Desk}
  {v : View}

@[simp] theorem agrees_holding : (Stance.holding d).Agrees s client ↔
    d.Shown s client := Iff.rfl

namespace Desk.Shown

/-- The client holds the lock of the label, and no other. -/
theorem holds_iff (h : d.Shown s client) {label : Label} :
    s.holds client label = true ↔ label = d.label := by
  simp [Store.holds_iff, h.transaction]

/-- A staged row is of the label. -/
theorem saved_label (h : d.Shown s client) (hs : s.Sound) {row : Record}
    (hrow : d.saved = some row) :
    row.label = d.label := by
  simpa using hs.rowsHeld h.transaction row (by simp [hrow])

/-- A staged entry is of the label. -/
theorem added_label (h : d.Shown s client) (hs : s.Sound) {entry : Entry}
    (hentry : entry ∈ d.added) :
    entry.label = d.label := by
  simpa using hs.entriesHeld h.transaction entry hentry

/-- The staged row, found. -/
theorem findRow_saved (h : d.Shown s client) (hs : s.Sound) :
    findRow d.saved.toList d.label = d.saved := by
  cases hsaved : d.saved with
  | none => rfl
  | some row => simp [findRow_cons, h.saved_label hs hsaved]

/-- The staged entries are all of the label. -/
theorem entriesOf_added (h : d.Shown s client) (hs : s.Sound) :
    entriesOf d.added d.label = d.added :=
  List.filter_eq_self.2 fun _ hentry => by simpa using h.added_label hs hentry

/-- The row that the client sees. -/
theorem ownRow? (h : d.Shown s client) (hs : s.Sound) :
    s.ownRow? client d.label = d.rowAfter := by
  simp only [Store.ownRow?, h.transaction, Option.bind_some, h.findRow_saved hs,
    h.row, Desk.rowAfter]
  cases d.saved <;> rfl

/-- The entries that the client sees. -/
theorem ownHistory (h : d.Shown s client) (hs : s.Sound) :
    s.ownHistory client d.label = d.pastAfter := by
  simp [Store.ownHistory, h.transaction, h.entriesOf_added hs, h.past, Desk.pastAfter]

/-- The numbers of the entries that the client sees were drawn from the counter. -/
theorem id_lt (h : d.Shown s client) (hs : s.Sound) {entry : Entry}
    (hentry : entry ∈ d.pastAfter) :
    entry.id < s.nextId := by
  rcases List.mem_append.1 hentry with hpast | hadded
  · rw [← h.past] at hpast
    exact hs.ledgerIds entry (mem_entriesOf.1 hpast).1
  · exact hs.stagedIds h.transaction entry hadded

/-- The commit of the client makes the row and the entries what they are on the desk,
and leaves other labels as they are. -/
theorem commit (h : d.Shown s client) (hs : s.Sound) :
    (s.commit client).row? d.label = d.rowAfter ∧
      (s.commit client).history d.label = d.pastAfter ∧
      ∀ label, label ≠ d.label → (s.commit client).row? label = s.row? label ∧
        (s.commit client).history label = s.history label := by
  refine ⟨?_, ?_, fun label hother => ?_⟩
  · rw [Store.row?_commit h.transaction (hs.rowsOnce h.transaction),
      h.findRow_saved hs, h.row, Desk.rowAfter]
  · rw [Store.history_commit h.transaction, h.entriesOf_added hs, h.past, Desk.pastAfter]
  · have hserved : Store.Served s client .commit (s.commit client) := .committed
    refine hserved.committed_other hs ?_
    exact Bool.eq_false_iff.2 fun hheld => hother (h.holds_iff.1 hheld)

end Desk.Shown

namespace Stance.Agrees

variable {stance : Stance}

/-- **Frame.**  What another client asks of the store does not change what a worker
knows. -/
theorem frame {request : StoreRequest} (h : stance.Agrees s other) (hs : s.Sound)
    (hserved : Store.Served s client request after) (hother : other ≠ client) :
    stance.Agrees after other := by
  cases stance with
  | idle => exact (hserved.transaction?_other hother).trans h
  | begun => exact (hserved.transaction?_other hother).trans h
  | holding d =>
      have hfree : s.holds client d.label = false := by
        refine Bool.eq_false_iff.2 fun hheld => ?_
        obtain ⟨t, ht, hlocked⟩ := Store.holds_iff.1 hheld
        exact hother (hs.exclusive (Desk.Shown.transaction h) ht (by simp) hlocked)
      obtain ⟨hrow, hpast⟩ := hserved.committed_other hs hfree
      exact ⟨(hserved.transaction?_other hother).trans (Desk.Shown.transaction h),
        hrow.trans (Desk.Shown.row h), hpast.trans (Desk.Shown.past h)⟩

/-- What was heard outside the store does not matter to the store. -/
theorem hear (h : v.stance.Agrees s client) (exchange : Exchange) :
    (v.hear exchange).stance.Agrees s client ∧ (v.hear exchange).commits = v.commits := by
  unfold View.hear
  split
  · next d hd =>
      have hshown : d.Shown s client := agrees_holding.1 (hd ▸ h)
      exact ⟨⟨hshown.transaction, hshown.row, hshown.past⟩, rfl⟩
  · exact ⟨h, rfl⟩

end Stance.Agrees

/-! ## The store answers as the contract says -/

/-- A request of the store is answered as the contract says, and the store agrees with
what its client knows then. -/
def Answers (app : App) (client : Client) (v : View) (r : Request) (answer : r.Answer)
    (after : Store) : Prop :=
  ∃ w, v.Reply app r answer w ∧ w.stance.Agrees after client ∧
    w.commits = v.commits + ((Happening.said client ⟨r, answer⟩).isCommitOf client).toNat

section Answers

variable {now : DateTime}

/-- A lock is answered with the row as it was last committed. -/
theorem answers_lock {label : Label} {answer : Except StoreError (Option Record)}
    (h : v.stance.Agrees s client) (hs : s.Sound)
    (hlawful : Lawful app label (s.row? label) (s.history label))
    (hmay : v.stance = .begun ∨ v.Holds label)
    (hserve : (StoreRequest.lock label).serve client now s = some (answer, after)) :
    Answers app client v (.store (.lock label)) answer after := by
  obtain ⟨⟨found, s'⟩, hlock, heq⟩ := Option.map_eq_some_iff.1 hserve
  cases heq
  unfold Store.lock? at hlock
  split at hlock
  · cases hlock
  · next hfree =>
      rcases hmay with hbegun | ⟨d, hd, rfl⟩
      · rw [hbegun] at h
        have hopen : s.transaction? client = some ⟨client, [], [], []⟩ := h
        have hunheld : s.holds client label = false := by
          simp [Store.holds, hopen, Transaction.holds]
        have hserved :
            Store.Served s client (.lock label) (s.update client (Store.taking label)) :=
          .locked (by simpa using hfree)
        have hshown : (Desk.mk label (s.row? label) (s.history label) none [] []).Shown
            (s.update client (Store.taking label)) client :=
          ⟨Store.transaction?_update_self hopen (Store.taking label)
            fun _ => rfl, rfl, rfl⟩
        simp only [hunheld] at hlock
        cases hlock
        exact ⟨⟨v.commits, .holding _⟩, .inl ⟨hbegun, _, _, hlawful,
          congrArg _ (hshown.ownRow? (hs.served hserved)), rfl⟩, hshown, rfl⟩
      · have hshown : d.Shown s client := by rwa [hd] at h
        simp only [hshown.holds_iff.2 rfl, if_true] at hlock
        cases hlock
        exact ⟨v, .inr ⟨d, hd, congrArg _ (hshown.ownRow? hs), rfl⟩, h, rfl⟩

/-- A row that is saved replaces what was saved before. -/
theorem answers_save {row : Record} {answer : Except StoreError Unit}
    (h : v.stance.Agrees s client) (hs : s.Sound) (hmay : v.Holds row.label)
    (hserve : (StoreRequest.save row).serve client now s = some (answer, after)) :
    Answers app client v (.store (.save row)) answer after := by
  obtain ⟨d, hd, hlabel⟩ := hmay
  have hshown : d.Shown s client := by rwa [hd] at h
  simp only [StoreRequest.serve, Store.save, hshown.holds_iff.2 hlabel.symm,
    if_true] at hserve
  cases hserve
  have hput : putRow row d.saved.toList = [row] := by
    cases hsaved : d.saved with
    | none => rfl
    | some old => simp [putRow, hshown.saved_label hs hsaved, hlabel]
  refine ⟨⟨v.commits, .holding { d with saved := some row }⟩, ⟨d, hd, rfl, rfl⟩,
    ⟨?_, hshown.row, hshown.past⟩, rfl⟩
  refine (Store.transaction?_update_self hshown.transaction (Store.staging row) fun _ =>
    rfl).trans ?_
  simp [Store.staging, hput]

/-- An entry that is appended has the number next to come, and the move. -/
theorem answers_append {move : Move} {answer : Except StoreError Entry}
    (h : v.stance.Agrees s client) (hs : s.Sound) (hmay : v.Holds move.label)
    (hserve : (StoreRequest.append move).serve client now s = some (answer, after)) :
    Answers app client v (.store (.append move)) answer after := by
  obtain ⟨d, hd, hlabel⟩ := hmay
  have hshown : d.Shown s client := by rwa [hd] at h
  simp only [StoreRequest.serve, Store.append, hshown.holds_iff.2 hlabel.symm,
    if_true] at hserve
  cases hserve
  let entry : Entry := { move with id := s.nextId, created := now }
  refine ⟨⟨v.commits, .holding { d with added := d.added ++ [entry] }⟩,
    ⟨d, entry, hd, rfl, fun earlier hin => hshown.id_lt hs hin, rfl, rfl⟩,
    ⟨?_, hshown.row, hshown.past⟩, rfl⟩
  exact Store.transaction?_update_self hshown.transaction
    (Store.adding entry) fun _ => rfl

/-- **The store answers as the contract says.** -/
theorem answers_store {request : StoreRequest} {answer : Except StoreError request.Result}
    (h : v.stance.Agrees s client) (hs : s.Sound)
    (hlawful : ∀ label, Lawful app label (s.row? label) (s.history label))
    (hmay : v.May app call (.store request))
    (hserve : request.serve client now s = some (answer, after)) :
    Answers app client v (.store request) answer after := by
  cases request with
  | lock label => exact answers_lock h hs (hlawful label) hmay hserve
  | save row => exact answers_save h hs hmay hserve
  | append move => exact answers_append h hs hmay hserve
  | begin =>
      cases hserve
      exact ⟨{ v with stance := .begun }, ⟨rfl, rfl⟩, by simp [Stance.Agrees], rfl⟩
  | ownHistory label =>
      obtain ⟨d, hd, rfl⟩ := hmay
      have hshown : d.Shown s client := by rwa [hd] at h
      cases hserve
      exact ⟨v, ⟨d, hd, congrArg _ (hshown.ownHistory hs), rfl⟩, h, rfl⟩
  | commit =>
      cases hserve
      exact ⟨⟨v.commits + 1, .idle⟩, ⟨rfl, rfl⟩, by simp [Stance.Agrees],
        by simp [Happening.isCommitOf]⟩
  | rollback =>
      cases hserve
      exact ⟨{ v with stance := .idle }, ⟨rfl, rfl⟩, by simp [Stance.Agrees], rfl⟩
  | row label => cases hserve; exact ⟨v, ⟨⟨_, rfl⟩, rfl⟩, h, rfl⟩
  | history label => cases hserve; exact ⟨v, ⟨⟨_, rfl⟩, rfl⟩, h, rfl⟩
  | rowsInState machine state => cases hserve; exact ⟨v, ⟨⟨_, rfl⟩, rfl⟩, h, rfl⟩
  | liveNames machine => cases hserve; exact ⟨v, ⟨⟨_, rfl⟩, rfl⟩, h, rfl⟩

/-- **The world answers as the contract says.** -/
theorem answers {r : Request} {answer : r.Answer}
    (h : v.stance.Agrees s client) (hs : s.Sound)
    (hlawful : ∀ label, Lawful app label (s.row? label) (s.history label))
    (hmay : v.May app call r) (hanswer : r.Answered client now s answer after) :
    Answers app client v r answer after := by
  cases r with
  | store request => exact answers_store h hs hlawful hmay hanswer
  | deliver delivery => cases hanswer; exact ⟨_, rfl, h.hear _⟩
  | fetch url => cases hanswer; exact ⟨_, rfl, h.hear _⟩
  | now => cases hanswer; exact ⟨_, rfl, h.hear _⟩
  | notify notice => cases hanswer; exact ⟨v, rfl, h, rfl⟩
  | log event => cases hanswer; exact ⟨v, rfl, h, rfl⟩
  | stopRequested => cases hanswer; exact ⟨v, rfl, h, rfl⟩
  | nextTick => cases hanswer; exact ⟨v, rfl, h, rfl⟩

end Answers

/-! ## What was heard -/

/-- On the desk of a worker lies what was heard in its transaction. -/
def Stance.Heard (heard : List Exchange) : Stance → Prop
  | .idle => True
  | .begun => heard = []
  | .holding d => d.heard = heard

/-- What a worker hears outside the store is put on its desk. -/
theorem View.Reply.heard {r : Request} {answer : r.Answer} {w : View}
    {heard : List Exchange} (hreply : v.Reply app r answer w) (hmay : v.May app call r)
    (h : v.stance.Heard heard) :
    w.stance.Heard ((Exchange.mk r answer).heardAfter heard) := by
  have hhear : ∀ {d : Desk} {exchange : Exchange}, v.stance = .holding d →
      (v.hear exchange).stance.Heard (heard ++ [exchange]) := by
    intro d exchange hd
    rw [hd] at h
    simp only [View.hear, hd]
    exact congrArg (· ++ [exchange]) h
  cases r with
  | store request =>
      cases request with
      | begin => exact hreply.2 ▸ rfl
      | lock label =>
          rcases hreply with ⟨hbegun, row, past, -, -, rfl⟩ | ⟨d, -, -, rfl⟩
          · rw [hbegun] at h
            exact h.symm
          · exact h
      | save row =>
          obtain ⟨d, hd, -, rfl⟩ := hreply
          rwa [hd] at h
      | append move =>
          obtain ⟨d, entry, hd, -, -, -, rfl⟩ := hreply
          rwa [hd] at h
      | ownHistory label =>
          obtain ⟨d, -, -, rfl⟩ := hreply
          exact h
      | commit => exact hreply.2 ▸ trivial
      | rollback => exact hreply.2 ▸ trivial
      | row label => exact hreply.2 ▸ h
      | history label => exact hreply.2 ▸ h
      | rowsInState machine state => exact hreply.2 ▸ h
      | liveNames machine => exact hreply.2 ▸ h
  | deliver delivery =>
      obtain ⟨d, m, action, row, entry, hd, -⟩ := hmay
      exact hreply ▸ hhear hd
  | fetch url =>
      obtain ⟨d, m, gate, row, feed, hd, -⟩ := hmay
      exact hreply ▸ hhear hd
  | now =>
      obtain ⟨d, hd⟩ := hmay
      exact hreply ▸ hhear hd
  | notify notice => exact hreply ▸ h
  | log event => exact hreply ▸ h
  | stopRequested => exact hreply ▸ h
  | nextTick => exact hreply ▸ h

/-! ## Runs -/

/-- A call keeps its contract and its worker knows what the store holds for it, and what
it has heard; when the call has vanished it has left no transaction. -/
def Task.Keeps (app : App) (past : List Happening) (s : Store)
    (client : Client) (task : Task) : Prop :=
  match task.rest with
  | some rest =>
      ∃ v : View, v.commits = commitsOf client past ∧ v.stance.Agrees s client ∧
        v.stance.Heard (heardOf client past) ∧
        rest.Follows (protocol app task.call) (fun _ after => after.stance = .idle) v
  | none => s.transaction? client = none

/-- In a system every call keeps its contract, and every history is lawful. -/
structure Faithful (app : App) (past : List Happening) (s : System) : Prop where
  sound : s.store.Sound
  lawful : ∀ label, Lawful app label (s.store.row? label) (s.store.history label)
  called : ∀ {client task}, s.tasks client = some task →
    task.Keeps app past s.store client
  uncalled : ∀ {client}, s.tasks client = none →
    s.store.transaction? client = none ∧ commitsOf client past = 0

/-- A call commits what lies on the desk of its client, and it is a deed. -/
structure Committed (app : App) (past : List Happening) (before : System)
    (client : Client) (call : Call) (d : Desk) (after : System) : Prop where
  working : ∃ rest, before.tasks client = some ⟨call, some rest⟩
  shown : d.Shown before.store client
  heard : d.heard = heardOf client past
  deed : call.Deed app (commitsOf client past) d
  row : after.store.row? d.label = d.rowAfter
  entries : after.store.history d.label = d.pastAfter
  other : ∀ label, label ≠ d.label → after.store.row? label = before.store.row? label ∧
    after.store.history label = before.store.history label

/-- What happens is a commit, or it changes nothing that is committed. -/
inductive System.Effect (app : App) (past : List Happening) (before : System) :
    Happening → System → Prop
  | commit {client : Client} {call : Call} {d : Desk} {answer : Except StoreError Unit}
      {after : System} (hcommitted : Committed app past before client call d after) :
      Effect app past before (.said client ⟨.store .commit, answer⟩) after
  | none {happening : Happening} {after : System}
      (hsilent : ∀ client, happening.isCommitOf client = false)
      (hsame : ∀ label, after.store.row? label = before.store.row? label ∧
        after.store.history label = before.store.history label) :
      Effect app past before happening after

namespace Faithful

variable {past : List Happening} {before after : System} {happening : Happening}

/-- The empty system is faithful. -/
theorem empty : Faithful app [] {} where
  sound := Store.sound_empty
  lawful _ := .unborn
  called h := by cases h
  uncalled _ := ⟨rfl, rfl⟩

/-- **A commit is a deed**, and nothing else changes what is committed. -/
theorem effect (h : Faithful app past before)
    (hstep : System.Step app before happening after) :
    System.Effect app past before happening after := by
  cases hstep with
  | call client call hnew => exact .none (fun _ => rfl) fun _ => ⟨rfl, rfl⟩
  | vanish htask => exact .none (fun _ => rfl) fun _ => ⟨rfl, rfl⟩
  | @say call r next answer store client now htask hanswer =>
      obtain ⟨v, hcommits, hagrees, hheard, hmay, -⟩ := h.called htask
      cases r with
      | store request =>
          rcases (Store.served hanswer).committed_or_same with
            ⟨rfl, rfl⟩ | ⟨hrequest, hrows, hledger⟩
          · obtain ⟨d, hd, hdeed⟩ : ∃ d, v.stance = .holding d ∧
                call.Deed app v.commits d := hmay
            rw [hd] at hagrees hheard
            obtain ⟨hrow, hpast, hother⟩ := Desk.Shown.commit hagrees h.sound
            exact .commit
              ⟨⟨_, htask⟩, hagrees, hheard, hcommits ▸ hdeed, hrow, hpast, hother⟩
          · refine .none (fun _ => ?_) fun label => ⟨?_, ?_⟩
            · cases request <;> first | rfl | exact absurd rfl hrequest
            · exact congrArg (findRow · label) hrows
            · exact congrArg (entriesOf · label) hledger
      | _ => cases hanswer; exact .none (fun _ => rfl) fun _ => ⟨rfl, rfl⟩

/-- Histories stay lawful. -/
theorem lawful_after (happ : app.Built) (h : Faithful app past before)
    (hstep : System.Step app before happening after) (label : Label) :
    Lawful app label (after.store.row? label) (after.store.history label) := by
  cases h.effect hstep with
  | none _ hsame =>
      rw [(hsame label).1, (hsame label).2]
      exact h.lawful label
  | @commit client call d _ _ hcommitted =>
      by_cases hlabel : label = d.label
      · subst hlabel
        rw [hcommitted.row, hcommitted.entries]
        have hbefore : Lawful app d.label d.row d.past := by
          rw [← hcommitted.shown.row, ← hcommitted.shown.past]
          exact h.lawful d.label
        exact hbefore.after_deed happ hcommitted.deed
      · rw [(hcommitted.other label hlabel).1, (hcommitted.other label hlabel).2]
        exact h.lawful label

/-- A change of one call leaves a system faithful if the call keeps its contract after
it and other clients do not notice. -/
theorem assign {client : Client} {task : Task} {store : Store}
    (h : Faithful app past before) (hsound : store.Sound)
    (hlawful : ∀ label, Lawful app label (store.row? label) (store.history label))
    (hothers : ∀ {other : Client} {stance : Stance}, other ≠ client →
      stance.Agrees before.store other → stance.Agrees store other)
    (hunsaid : ∀ {other : Client} {exchange : Exchange}, other ≠ client →
      happening ≠ .said other exchange)
    (htask : task.Keeps app (past ++ [happening]) store client) :
    Faithful app (past ++ [happening])
      ({ before with store := store }.assign client task) := by
  have hsame : ∀ {other : Client}, other ≠ client →
      commitsOf other (past ++ [happening]) = commitsOf other past ∧
        heardOf other (past ++ [happening]) = heardOf other past := by
    intro other hother
    have hcommit : happening.isCommitOf other = false := by
      cases happening with
      | said c exchange =>
          exact Happening.isCommitOf_other fun hsame =>
            hunsaid hother (congrArg (Happening.said · exchange) hsame.symm)
      | _ => rfl
    refine ⟨by simp [hcommit], ?_⟩
    rw [heardOf, exchangesOf_unsaid fun _ => hunsaid hother, ← heardOf]
  refine ⟨hsound, hlawful, ?_, ?_⟩
  · intro other found hfound
    by_cases hother : other = client
    · subst hother
      obtain rfl : task = found := by simpa [System.assign] using hfound
      exact htask
    · have hold : before.tasks other = some found := by
        simpa [System.assign, hother] using hfound
      have hbefore := h.called hold
      obtain ⟨call, rest⟩ := found
      cases rest with
      | none =>
          exact hothers hother (show Stance.idle.Agrees before.store other from hbefore)
      | some rest =>
          obtain ⟨v, hcount, hagrees, hheard, hfollows⟩ := hbefore
          exact ⟨v, hcount.trans (hsame hother).1.symm, hothers hother hagrees,
            (hsame hother).2 ▸ hheard, hfollows⟩
  · intro other hfound
    by_cases hother : other = client
    · simp [System.assign, hother] at hfound
    · have hold : before.tasks other = none := by
        simpa [System.assign, hother] using hfound
      obtain ⟨hidle, hcount⟩ := h.uncalled hold
      exact ⟨hothers hother (show Stance.idle.Agrees before.store other from hidle),
        (hsame hother).1.trans hcount⟩

/-- **Step.**  What happens in a faithful system leaves it faithful. -/
theorem step (happ : app.Built) (h : Faithful app past before)
    (hstep : System.Step app before happening after) :
    Faithful app (past ++ [happening]) after := by
  have hlawful := h.lawful_after happ hstep
  cases hstep with
  | call client call hnew =>
      obtain ⟨hidle, hcount⟩ := h.uncalled hnew
      refine h.assign h.sound hlawful (fun _ hagrees => hagrees) (fun _ => by simp) ?_
      refine ⟨⟨0, .idle⟩, ?_, hidle, trivial, Call.perform_follows happ call⟩
      simp [hcount, Happening.isCommitOf]
  | @vanish client call rest htask =>
      have hserved :
          Store.Served before.store client .rollback (before.store.rollback client) :=
        .rolledBack
      exact h.assign (h.sound.served hserved) hlawful
        (fun hother hagrees => hagrees.frame h.sound hserved hother) (fun _ => by simp)
        (by simp [Task.Keeps])
  | @say call r next answer store client now htask hanswer =>
      obtain ⟨v, hcommits, hagrees, hheard, hmay, hnext⟩ := h.called htask
      obtain ⟨w, hreply, hafter, hcount⟩ := answers hagrees h.sound h.lawful hmay hanswer
      refine h.assign ?_ hlawful ?_ ?_ ?_
      · cases r with
        | store request => exact h.sound.served (Store.served hanswer)
        | _ => cases hanswer; exact h.sound
      · intro other stance hother hbefore
        cases r with
        | store request => exact hbefore.frame h.sound (Store.served hanswer) hother
        | _ => cases hanswer; exact hbefore
      · rintro other exchange hother heq
        cases heq
        exact hother rfl
      · refine ⟨w, by rw [hcount, hcommits, commitsOf_append], hafter, ?_,
          hnext answer w hreply⟩
        rw [heardOf_said]
        exact hreply.heard hmay hheard

end Faithful

/-- **Runs are faithful.** -/
theorem Run.faithful (happ : app.Built) {past : List Happening} {s : System}
    (run : Run app past s) : Faithful app past s := by
  induction run with
  | empty => exact .empty
  | step _ hstep ih => exact ih.step happ hstep

end Turnstile

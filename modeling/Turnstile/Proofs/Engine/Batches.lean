import Turnstile.Proofs.Engine.Atomicity
import Turnstile.Proofs.Engine.Errands
import Turnstile.Proofs.Engine.Visits

/-!
# Labels of a batch are isolated from one another

A lone client runs a batch.  What it does for one label leaves all others as they are
(`does_attend`), and depends on the label alone: in two stores that hold the same of it,
up to the numbers of entries, the same comes of it (`attend_isolated`).  So a label
fares in its turn as it would have fared if it alone had been attended to
(`batch_isolates`).
-/

set_option autoImplicit false

namespace Turnstile

variable {σ α β : Type} {around : Surroundings σ} {client : Client} {app : App}
  {m : Machine} {state : State} {label : Label} {opened opened' closing : Bool}
  {origin s r : Store}

/-! ## Work on one label -/

/-- The same is committed of a label as before. -/
structure Store.Leaves (s after : Store) (label : Label) : Prop where
  row : after.row? label = s.row? label
  past : after.history label = s.history label

theorem Store.Leaves.refl (s : Store) (label : Label) : s.Leaves s label := ⟨rfl, rfl⟩

/-- What two changes leave alone is left alone by both together. -/
theorem Store.Leaves.trans {s middle after : Store} (h : s.Leaves middle label)
    (h' : middle.Leaves after label) :
    s.Leaves after label := ⟨h'.row.trans h.row, h'.past.trans h.past⟩

/-- A lone client works on a label in a store, since the store was as at its origin. -/
structure Confined (client : Client) (label : Label) (opened : Bool)
    (origin s : Store) : Prop where
  orderly : s.Orderly
  only : s.OnlyOf client
  isOpen : s.isOpen client = opened
  unheld : ∀ other, other ≠ label → s.holds client other = false
  leaves : ∀ other, other ≠ label → origin.Leaves s other

variable (around) in
/-- A lone client is answered at once. -/
theorem Surroundings.serve_only (honly : s.OnlyOf client) (x : σ)
    (request : StoreRequest) :
    ∃ answer after, request.serve client (around.clock x) s = some (answer, after) ∧
      around.serve client (.store request) (s, x) =
        (answer, after, (around.answer (.store request) x).2) := by
  obtain ⟨answer, after, hserve⟩ := honly.serve (around.clock x) request
  refine ⟨answer, after, hserve, ?_⟩
  simp only [serve, serveStore, hserve]

variable (around) in
/-- **One request** about the label. -/
theorem Confined.serve (h : Confined client label opened origin s) {q : Request}
    (hwithin : q.Within label opened opened') (hstop : q ≠ .stopRequested) (x : σ) :
    Confined client label opened' origin (around.serve client q (s, x)).2.1 ∧
      ∃ answer', q.Alike label (around.serve client q (s, x)).1 answer' := by
  cases hwithin with
  | @store request _ _ hwithin =>
      obtain ⟨answer, after, hserve, heq⟩ :=
        Surroundings.serve_only around h.only x request
      have hserved := Store.served hserve
      rw [heq]
      refine ⟨⟨h.orderly.served hserved, h.only.served hserved,
        Accord.isOpen_after h.isOpen hwithin hserve, ?_, ?_⟩,
        Accord.answer_alike h.orderly hwithin hserve⟩
      · intro other hother
        exact Accord.unheld_after (h.unheld other hother) hother.symm hwithin hserved
      · intro other hother
        obtain ⟨hrow, hpast⟩ :=
          hserved.committed_other h.orderly.sound (h.unheld other hother)
        exact (h.leaves other hother).trans ⟨hrow, hpast⟩
  | stopRequested => exact absurd rfl hstop
  | _ => exact ⟨h, _, rfl⟩

variable (around) in
/-- **Work on a label** leaves what is committed of all others. -/
theorem Confined.does {same : α → β → Prop} {work : Work α} {other : Work β}
    (h : Confined client label opened origin s)
    (htwins : work.Twins label closing same opened other)
    (hasks : work.Asks (· ≠ .stopRequested)) (x : σ) :
    Confined client label closing origin (around.does client work s x).2.1 := by
  unfold Surroundings.does
  induction htwins generalizing s x with
  | done hsame => exact h
  | @ask opened opened' r next next' hwithin _ ih =>
      cases hasks with
      | ask hstop hnext =>
          obtain ⟨hafter, answer', halike⟩ := h.serve around hwithin hstop x
          exact ih _ answer' halike hafter (hnext _) _
  | deliver halike _ ih =>
      cases hasks with
      | ask hstop hnext => exact ih _ h (hnext _) _

/-! ## The same work in two stores -/

/-- The surroundings do not look at the tokens of deliveries. -/
def Surroundings.Blind (around : Surroundings σ) : Prop :=
  ∀ {delivery other : Delivery}, delivery.Alike other → ∀ x,
    around.answer (.deliver delivery) x = around.answer (.deliver other) x

/-- A lone client works on a label in two stores at once, of which the second holds
nothing else. -/
structure Abreast (client : Client) (label : Label) (opened : Bool)
    (s r : Store) : Prop where
  accord : Accord label s r
  stands : Store.Stands label client s r opened opened
  only : s.OnlyOf client
  only_other : r.OnlyOf client

variable (around) in
/-- **One request** is answered alike in both stores. -/
theorem Abreast.serve (h : Abreast client label opened s r) {q : Request}
    (hwithin : q.Within label opened opened') (hstop : q ≠ .stopRequested) (x : σ) :
    q.Alike label (around.serve client q (s, x)).1 (around.serve client q (r, x)).1 ∧
      Abreast client label opened' (around.serve client q (s, x)).2.1
        (around.serve client q (r, x)).2.1 ∧
      (around.serve client q (s, x)).2.2 = (around.serve client q (r, x)).2.2 := by
  cases hwithin with
  | @store request _ _ hwithin =>
      obtain ⟨answer, after, hserve, heq⟩ :=
        Surroundings.serve_only around h.only x request
      obtain ⟨answer', after', hserve', halike, haccord, hstands⟩ :=
        h.accord.serve_both h.stands hwithin
          (fun htaken => by simp [h.only_other.isTaken] at htaken) hserve
      have heq' : around.serve client (.store request) (r, x) =
          (answer', after', (around.answer (.store request) x).2) := by
        simp only [Surroundings.serve, Surroundings.serveStore, hserve']
      rw [heq, heq']
      exact ⟨halike, ⟨haccord, hstands, h.only.served (Store.served hserve),
        h.only_other.served (Store.served hserve')⟩, rfl⟩
  | stopRequested => exact absurd rfl hstop
  | _ => exact ⟨rfl, h, rfl⟩

/-- **Twins** come to the same in both stores. -/
theorem Abreast.does {same : α → β → Prop} {work : Work α} {other : Work β}
    (hblind : around.Blind) (h : Abreast client label opened s r)
    (htwins : work.Twins label closing same opened other)
    (hasks : work.Asks (· ≠ .stopRequested)) (x : σ) :
    same (around.does client work s x).1 (around.does client other r x).1 ∧
      Abreast client label closing (around.does client work s x).2.1
        (around.does client other r x).2.1 := by
  unfold Surroundings.does
  induction htwins generalizing s r x with
  | done hsame => exact ⟨hsame, h⟩
  | @ask opened opened' q next next' hwithin _ ih =>
      cases hasks with
      | ask hstop hnext =>
          have hserve := h.serve around hwithin hstop x
          simp only [Work.runWith]
          generalize around.serve client q (s, x) = left at hserve
          generalize around.serve client q (r, x) = right at hserve
          obtain ⟨answer, after, y⟩ := left
          obtain ⟨answer', after', y'⟩ := right
          obtain ⟨halike, hafter, rfl⟩ := hserve
          exact ih answer answer' halike hafter (hnext answer) y
  | @deliver opened delivery delivery' next next' halike _ ih =>
      cases hasks with
      | ask hstop hnext =>
          simp only [Work.runWith, Surroundings.serve, hblind halike x]
          exact ih _ h (hnext _) _

/-! ## Attending to a label -/

/-- Two visits that see the same of their label do the same to it. -/
theorem twins_attend :
    (attend app m state label).Twins label false Eq false (attend app m state label) := by
  apply (twins_stepOnce state).onward
  intro first
  split
  · apply twins_drain.onward
    exact fun _ => Work.twins_pure rfl
  · exact Work.twins_pure rfl

/-- Steps never ask whether to stop. -/
theorem Request.OfStep.goesOn {r : Request} (h : r.OfStep) : r ≠ .stopRequested := by
  rintro rfl
  cases h with
  | outward h => exact h

/-- Neither do drains. -/
theorem asks_drainFrom (limit remaining : Nat) :
    (drainFrom app m label limit remaining).Asks (· ≠ .stopRequested) := by
  induction remaining with
  | zero => exact (Attempt.asks_ofWork (Work.asks_request nofun)).bind fun _ =>
      Attempt.asks_pure _
  | succ remaining ih =>
      apply Work.Asks.bind
        ((asks_inTransaction asks_stepCurrent).mono fun _ => Request.OfStep.goesOn)
      intro result
      split
      · exact ih
      · exact .done _
      · exact .done _
      · exact .done _

/-- Whoever attends to a label does not ask whether to go on. -/
theorem asks_attend : (attend app m state label).Asks (· ≠ .stopRequested) := by
  apply Work.Asks.bind
    ((asks_inTransaction (asks_stepIn state)).mono fun _ => Request.OfStep.goesOn)
  intro first
  split
  · apply Work.Asks.bind ((Attempt.asks_ofExcept _ _).bind fun _ => asks_drainFrom _ _)
    exact fun _ => .done _
  · exact .done _

/-- An orderly store in which nobody has a transaction open. -/
structure Store.Idle (s : Store) : Prop where
  orderly : s.Orderly
  idle : s.transactions = []

namespace Store.Idle

theorem transaction? (h : s.Idle) (client : Client) : s.transaction? client = none := by
  simp [Store.transaction?, h.idle]

theorem onlyOf (h : s.Idle) (client : Client) : s.OnlyOf client := by
  intro t ht
  rw [h.idle] at ht
  cases ht

theorem confined (h : s.Idle) (client : Client) (label : Label) :
    Confined client label false s s where
  orderly := h.orderly
  only := h.onlyOf client
  isOpen := by simp [Store.isOpen, h.transaction?]
  unheld _ _ := by simp [Store.holds, h.transaction?]
  leaves other _ := .refl s other

end Store.Idle

/-- When the work is over nobody has a transaction open. -/
theorem Confined.idle (h : Confined client label false origin s) : s.Idle where
  orderly := h.orderly
  idle := by
    have hclosed : s.transaction? client = none := by simpa [Store.isOpen] using h.isOpen
    refine List.eq_nil_iff_forall_not_mem.2 fun t ht => ?_
    exact Store.client_ne_of_mem hclosed ht (h.only t ht)

variable (around client app m state) in
/-- **Who attends to a label** leaves what is committed of all others, and no
transaction open. -/
theorem does_attend (h : s.Idle) (label : Label) (x : σ) :
    (around.does client (attend app m state label) s x).2.1.Idle ∧
      ∀ other, other ≠ label →
        s.Leaves (around.does client (attend app m state label) s x).2.1 other := by
  have htwins : (attend app m state label).Twins label false Eq false
      (attend app m state label) := twins_attend
  have hafter := (h.confined client label).does around htwins asks_attend x
  exact ⟨hafter.idle, hafter.leaves⟩

/-- The store as it were if it held a label alone. -/
def Store.kept (s : Store) (label : Label) : Store :=
  ⟨s.rows.filter fun row => row.label = label, s.history label, s.nextId, []⟩

namespace Store

/-- A store cut down to one label has the rows of no other. -/
theorem row?_kept (s : Store) (label : Label) :
    (s.kept label).row? label = s.row? label := by
  unfold row? findRow kept
  rw [List.find?_filter]
  simp

/-- A store cut down to one label has the past of no other. -/
theorem history_kept (s : Store) (label other : Label) :
    (s.kept label).history other = if other = label then s.history label else [] := by
  change entriesOf (s.history label) other = _
  split
  · next h =>
      rw [h]
      exact List.filter_eq_self.2 fun entry hentry => (List.mem_filter.1 hentry).2
  · next h =>
      apply List.filter_eq_nil_iff.2
      intro entry hentry hother
      have hlabel := (mem_entriesOf.1 hentry).2
      exact h ((of_decide_eq_true hother).symm.trans hlabel)

/-- A store without transactions is orderly if it has one row for each label and its
ledger is in the order of the numbers. -/
theorem Idle.of_ledger {rows : List Record} {ledger : List Entry} {nextId : Int}
    (honce : (rows.map (·.label)).Nodup)
    (hordered : ledger.Pairwise fun a b => a.id < b.id)
    (hids : ∀ entry ∈ ledger, entry.id < nextId) :
    Idle ⟨rows, ledger, nextId, []⟩ where
  idle := rfl
  orderly := {
    sound := {
      oneEach := List.nodup_nil
      exclusive := by intro _ _ _ _ _ h; cases h
      rowsHeld := by intro _ _ h; cases h
      rowsOnce := by intro _ _ h; cases h
      entriesHeld := by intro _ _ h; cases h
      stagedIds := by intro _ _ h; cases h
      ledgerIds := hids }
    once := honce
    ordered := by
      intro client label
      rw [ownHistory_of_none rfl]
      exact hordered.sublist List.filter_sublist }

/-- What a store holds of one label is orderly as the whole is. -/
theorem Idle.kept (h : s.Idle) (label : Label) : (s.kept label).Idle := by
  apply Idle.of_ledger
  · exact h.orderly.once.sublist (List.filter_sublist.map _)
  · exact h.orderly.history label
  · intro entry hentry
    exact h.orderly.sound.ledgerIds entry (List.mem_filter.1 hentry).1

/-- A store holds of a label what it would hold if it held nothing else. -/
theorem Idle.accord (h : s.Idle) {t : Store} (ht : t.Idle)
    (hrow : t.row? label = s.row? label)
    (hpast : (t.history label).map Entry.unnumbered =
      (s.history label).map Entry.unnumbered) :
    Accord label t (s.kept label) where
  row := by rw [row?_kept, hrow]
  past := by
    rw [history_kept, if_pos rfl]
    exact hpast
  only other hother := by
    refine ⟨List.find?_eq_none.2 fun row hrow => ?_, by rw [history_kept, if_neg hother]⟩
    have hlabel : row.label = label := by simpa using (List.mem_filter.1 hrow).2
    simpa [hlabel] using hother.symm
  orderly := ht.orderly
  orderly_other := (h.kept label).orderly

end Store

/-- Idle stores that tell the same of a label are abreast on it. -/
theorem Store.Idle.abreast (h : s.Idle) (client : Client) {t : Store} (ht : t.Idle)
    (hrow : t.row? label = s.row? label)
    (hpast : (t.history label).map Entry.unnumbered =
      (s.history label).map Entry.unnumbered) :
    Abreast client label false t (s.kept label) where
  accord := h.accord ht hrow hpast
  stands := .closed (ht.transaction? client) rfl
  only := ht.onlyOf client
  only_other := (h.kept label).onlyOf client

variable (client app m state) in
/-- **What comes of a label depends on the label alone**: on its row, on its history up
to the numbers of the entries, and on what the surroundings answer. -/
theorem attend_isolated (hblind : around.Blind) {t : Store} (hs : s.Idle) (ht : t.Idle)
    (hsame : Store.SameOf label t s) (x : σ) :
    (around.does client (attend app m state label) t x).1 =
      (around.does client (attend app m state label) s x).1 ∧
      Store.SameOf label (around.does client (attend app m state label) t x).2.1
        (around.does client (attend app m state label) s x).2.1 := by
  have hasks : (attend app m state label).Asks (· ≠ .stopRequested) := asks_attend
  obtain ⟨hreport, habreast⟩ :=
    (hs.abreast client ht hsame.row hsame.past).does hblind twins_attend hasks x
  obtain ⟨hreport', habreast'⟩ :=
    (hs.abreast client hs rfl rfl).does hblind twins_attend hasks x
  refine ⟨hreport.trans hreport'.symm, ?_, ?_⟩
  · exact habreast.accord.row.trans habreast'.accord.row.symm
  · exact habreast.accord.past.trans habreast'.accord.past.symm

/-! ## The labels of a batch -/

/-- A turn of a lone client's batch, which began in a store and left another at
its end. -/
structure Turn.Taken (turn : Turn (Store × σ)) (around : Surroundings σ) (client : Client)
    (app : App) (m : Machine) (state : State) (s last : Store) : Prop where
  idle : turn.before.1.Idle
  attended : around.does client (attend app m state turn.report.label)
    turn.before.1 turn.before.2 =
    (turn.report, turn.after)
  before : s.Leaves turn.before.1 turn.report.label
  after : turn.after.1.Leaves last turn.report.label

/-- What a lone client tells the log leaves the store as it is. -/
theorem does_tellIfAny {event : Option LogEvent} {x : σ} {w : Store × σ}
    (h : (tellIfAny event).runWith (around.serve client) (s, x) = ((), w)) : w.1 = s := by
  cases event with
  | none => exact congrArg (fun ran : Unit × (Store × σ) => ran.2.1) h.symm
  | some event => exact congrArg (fun ran : Unit × (Store × σ) => ran.2.1) h.symm

/-- **Turns of a lone client** leave all labels to which they are not given as
they were, and each label that has one has been left so before it, and is left so
after it. -/
theorem Rounds.alone {names : List String} {w last : Store × σ}
    {turns : List (Turn (Store × σ))} {interrupted : Bool}
    (h : Rounds (around.serve client) app m state names w turns interrupted last)
    (hidle : w.1.Idle) (honce : names.Nodup) :
    (∀ label, (∀ turn ∈ turns, turn.report.label ≠ label) → w.1.Leaves last.1 label) ∧
      ∀ turn ∈ turns, turn.Taken around client app m state w.1 last.1 := by
  induction h with
  | finished w => exact ⟨fun label _ => .refl _ label, by simp⟩
  | @stopped name rest w last hstop =>
      have hstore : last.1 = w.1 :=
        congrArg (fun ran : Bool × (Store × σ) => ran.2.1) hstop.symm
      refine ⟨fun label _ => ?_, by simp⟩
      rw [hstore]
      exact .refl _ label
  | @turn name rest w after last turn turns interrupted hgo hattend htold hrest ih =>
      obtain ⟨hname, hrestonce⟩ := List.nodup_cons.1 honce
      have hbegun : turn.before.1 = w.1 :=
        congrArg (fun ran : Bool × (Store × σ) => ran.2.1) hgo.symm
      have hended : after.1 = turn.after.1 := does_tellIfAny htold
      have hlabel : turn.report.label = ⟨name, m.name⟩ := label_of_attend hattend
      have hattended : around.does client (attend app m state turn.report.label)
          turn.before.1 turn.before.2 =
            (turn.report, turn.after) := by
        rw [hlabel]
        exact hattend
      rw [← hbegun] at hidle ⊢
      obtain ⟨hafter, hothers⟩ :=
        does_attend around client app m state hidle turn.report.label
          turn.before.2
      rw [hattended] at hafter hothers
      obtain ⟨hleaves, htaken⟩ := ih (by rw [hended]; exact hafter) hrestonce
      rw [hended] at hleaves htaken
      have hlater : ∀ later ∈ turns, later.report.label ≠ turn.report.label := by
        rw [hlabel]
        exact hrest.label_ne hname
      refine ⟨?_, ?_⟩
      · intro label hnot
        have hother : label ≠ turn.report.label := (hnot turn List.mem_cons_self).symm
        exact (hothers label hother).trans
          (hleaves label fun later hmem => hnot later (List.mem_cons_of_mem _ hmem))
      · intro other hother
        rcases List.mem_cons.1 hother with rfl | hmem
        · exact ⟨hidle, hattended, .refl _ _, hleaves _ hlater⟩
        · obtain ⟨hidle', hattended', hbefore', hafter'⟩ := htaken other hmem
          exact ⟨hidle', hattended',
            (hothers _ (hlater other hmem)).trans hbefore', hafter'⟩

/-- What a lone client's batch on a state leaves of each label. -/
structure Isolated (around : Surroundings σ) (client : Client) (app : App) (m : Machine)
    (state : State) (s : Store) (turns : List (Turn (Store × σ)))
    (last : Store) : Prop where
  /-- A label that has no turn is left as it was. -/
  untouched : ∀ label, (∀ turn ∈ turns, turn.report.label ≠ label) → s.Leaves last label
  /-- A label is as it was until its turn, in which it is attended to, and stays as it
  is then. -/
  taken : ∀ turn ∈ turns, turn.Taken around client app m state s last
  /-- If the surroundings do not look at tokens, the same comes of a label as if it
  alone were attended to. -/
  alone : around.Blind → ∀ turn ∈ turns,
    (around.does client (attend app m state turn.report.label) s turn.before.2).1 =
      turn.report ∧
      Store.SameOf turn.report.label
        (around.does client (attend app m state turn.report.label) s turn.before.2).2.1
        last

/-- **Isolation.**  Each label that is visited fares as it would in a store of its own.
-/
theorem Rounds.isolated {names : List String} {x : σ} {last : Store × σ}
    {turns : List (Turn (Store × σ))} {interrupted : Bool}
    (h : Rounds (around.serve client) app m state names (s, x) turns interrupted last)
    (hidle : s.Idle) (honce : names.Nodup) :
    Isolated around client app m state s turns last.1 := by
  obtain ⟨huntouched, htaken⟩ := h.alone hidle honce
  refine ⟨huntouched, htaken, fun hblind turn hturn => ?_⟩
  obtain ⟨hbegun, hattended, hbefore, hafter⟩ := htaken turn hturn
  have hsame : Store.SameOf turn.report.label turn.before.1 s :=
    ⟨hbefore.row, congrArg (List.map Entry.unnumbered) hbefore.past⟩
  obtain ⟨hreport, hleft⟩ :=
    attend_isolated client app m state hblind hidle hbegun hsame turn.before.2
  rw [hattended] at hreport hleft
  refine ⟨hreport.symm, hleft.row.symm.trans hafter.row.symm, hleft.past.symm.trans ?_⟩
  exact congrArg (List.map Entry.unnumbered) hafter.past.symm

/-- **Labels of a batch are isolated from one another.**  A batch on a state that is not
terminal has a summary, whatever the surroundings answer and whatever others do
meanwhile.  It gives turns to the selected labels in the state, in the order of their
names, each once, and stops before the first turn before which an end is asked for; the
summary tells of the turns.  If nobody else is at work, a label that has no turn is left
as it was, and what comes of a label in its turn is what would have come of it if it
alone had been attended to. -/
theorem batch_isolates (around : Surroundings σ) (client : Client) (app : App)
    (m : Machine) (state : State) (selection : Selection) (s : Store) (x : σ)
    (hopen : state.isTerminal = false) (honce : (s.rows.map (·.label)).Nodup) :
    (s.candidates m state selection).Pairwise (· < ·) ∧
      (∀ name, name ∈ s.candidates m state selection ↔
        ∃ row, s.row? ⟨name, m.name⟩ = some row ∧
        row.deleted = false ∧ s.lastState? ⟨name, m.name⟩ = some state.name ∧
        selection.admits row = true) ∧
      ∀ others : Others σ, ∃ turns summary last,
        (runBatch app m state selection (Work.request .stopRequested)).run.runWith
          (around.among client others) (s, x) = (.ok summary, last) ∧
        Rounds (around.among client others) app m state (s.candidates m state selection)
          (around.among client others (.store (.rowsInState m.name state.name)) (s, x)).2
            turns summary.interrupted
          last ∧
        Tally m (s.candidates m state selection) turns summary ∧
        (others = .nobody σ → s.Idle →
          Isolated around client app m state s turns last.1) := by
  have hordered : (s.candidates m state selection).Pairwise (· < ·) :=
    Store.candidates_ordered honce
  refine ⟨hordered, fun name => Store.mem_candidates honce, fun others => ?_⟩
  obtain ⟨turns, summary, last, hrun, hrounds, htally⟩ :=
    runBatch_among around client others app m state selection s x hopen honce
  refine ⟨turns, summary, last, hrun, hrounds, htally, ?_⟩
  rintro rfl hidle
  rw [Surroundings.among_nobody] at hrounds
  exact Rounds.isolated hrounds hidle (hordered.imp fun hlt => String.ne_of_lt hlt)

/-! ## Drivers who wait in a row -/

/-- An application of the junction in which a label makes no step after its first. -/
def layby : App := .ofMachines [junction] { maxTransitions := 0 } true

namespace Layby

def now : Time.DateTime := ⟨0, ⟨0, 0⟩⟩

def driver (name : String) : Label := ⟨name, "junction"⟩

/-- Where the drivers wait. -/
def asked : State :=
  .action ⟨"asked", "https://example.com", .byValue "ready" [⟨.bool true, "asked"⟩]⟩

/-- The first driver of three is not ready. -/
def row : Store where
  rows :=
    [⟨driver "a", .obj [], false, true⟩,
      ⟨driver "b", .obj [("ready", .bool true)], false, true⟩,
      ⟨driver "c", .obj [("ready", .bool true)], false, true⟩]
  ledger :=
    [⟨.creation (driver "a") "asked", 1, now⟩, ⟨.creation (driver "b") "asked", 2, now⟩,
      ⟨.creation (driver "c") "asked", 3, now⟩]
  nextId := 4

theorem row_idle : row.Idle := .of_ledger (by decide) (by decide) (by decide)

theorem candidates_row : row.candidates junction asked .all = ["a", "b", "c"] := by cbv

/-- Everything is accepted, and an end is asked for after two drivers. -/
def impatient : Surroundings Nat where
  clock _ := now
  answer r polls :=
    match r with
    | .stopRequested => (decide (2 ≤ polls), polls + 1)
    | r => (agreeable now r, polls)

/-- Somebody takes the second driver away. -/
def takenAway : Others Nat where
  act w :=
    ({ w.1 with rows := w.1.rows.map fun row =>
      { row with deleted := row.deleted || row.label = driver "b" } }, w.2)
  keep w label h := by
    simp only [Store.row?, findRow] at h ⊢
    rw [List.find?_map, Option.isSome_map]
    exact h

end Layby

open Layby in
/-- The first driver is led nowhere, which is a failure, the second goes on, and the
third does not have a turn; if the second is taken away before its turn, that is not a
failure. -/
theorem batch_isolates_layby :
    asked.isTerminal = false ∧ (row.rows.map (·.label)).Nodup ∧ row.Idle ∧
    (∃ turns last,
      (runBatch layby junction asked .all (Work.request .stopRequested)).run.runWith
        (impatient.among (.worker 0) (.nobody Nat)) (row, 0) =
          (.ok ⟨2, 1, 1, true⟩, last) ∧
      Tally junction ["a", "b", "c"] turns ⟨2, 1, 1, true⟩ ∧
      Isolated impatient (.worker 0) layby junction asked row turns last.1) ∧
    ∃ (turns : List (Turn (Store × Nat))) (last : Store × Nat),
      (runBatch layby junction asked .all (Work.request .stopRequested)).run.runWith
        (impatient.among (.worker 0) takenAway) (row, 0) = (.ok ⟨2, 0, 1, true⟩, last) ∧
      Tally junction ["a", "b", "c"] turns ⟨2, 0, 1, true⟩ := by
  have hopen : asked.isTerminal = false := rfl
  have honce : (row.rows.map (·.label)).Nodup := by decide
  obtain ⟨-, -, hbatch⟩ :=
    batch_isolates impatient (.worker 0) layby junction asked .all row 0 hopen honce
  rw [candidates_row] at hbatch
  have hsummary : ∀ others summary last,
      (runBatch layby junction asked .all (Work.request .stopRequested)).run.runWith
        (impatient.among (.worker 0) others) (row, 0) = (.ok summary, last) →
        summary =
          ((visitAll layby junction asked (Work.request .stopRequested)
            {} ["a", "b", "c"]).runWith
            (impatient.among (.worker 0) others)
              (impatient.among (.worker 0) others
                (.store (.rowsInState "junction" "asked")) (row, 0)).2).1 := by
    intro others summary last hrun
    rw [runBatch_run impatient (.worker 0) others layby junction asked .all row 0 hopen,
      candidates_row] at hrun
    exact (Except.ok.inj (congrArg Prod.fst hrun)).symm
  refine ⟨hopen, honce, row_idle, ?_, ?_⟩
  · obtain ⟨turns, summary, last, hrun, -, htally, hisolated⟩ := hbatch (.nobody Nat)
    obtain rfl : summary = ⟨2, 1, 1, true⟩ :=
      (hsummary _ _ _ hrun).trans (by decide +kernel)
    exact ⟨turns, last, hrun, htally, hisolated rfl row_idle⟩
  · obtain ⟨turns, summary, last, hrun, -, htally, -⟩ := hbatch takenAway
    obtain rfl : summary = ⟨2, 0, 1, true⟩ :=
      (hsummary _ _ _ hrun).trans (by decide +kernel)
    exact ⟨turns, last, hrun, htally⟩

end Turnstile

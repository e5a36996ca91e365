import Turnstile.Proofs.Engine.Updates

/-!
# Metadata triggers are taken to their gates

An update that fires a trigger of the gate that its label is in clears the mark of the
row, and a step on the gate sets it again.  Both hold the lock of the label while they
decide, so a row is marked only if nothing has fired a trigger since the label entered
the gate, or a look at the gate has taken the lock after all that did
(`Chronicle.watched`): the mark of the row never says more than was done.
-/

set_option autoImplicit false

namespace Turnstile

open Time (DateTime)

/-! ## What is to be shown -/

/-- An update that is committed at a moment fires a trigger of a gate. -/
def Moment.Fires (label : Label) (gate : Gate) (m : Moment) : Prop :=
  ∃ patch row, m.patch? label = some patch ∧ m.before.store.row? label = some row ∧
    gate.triggers.any
      (·.firesOnUpdate row.metadata patch (row.metadata.merge patch)) = true

/-- A label enters a state at a moment, with an entry. -/
def Moment.Enters (label : Label) (entry : Entry) (m : Moment) : Prop :=
  m.after.store.history label = m.before.store.history label ++ [entry]

/-- A client looks at a gate for a label that has entered it with an entry: at a moment
it takes the lock of the label and is told the row, which is not marked; it keeps the
lock, and at another moment commits a step on the gate that marks the row.  In between
it has found the exit condition false of that row, unless the gate is one that labels
cannot leave. -/
structure Look (app : App) (label : Label) (machine : Machine)
    (gate : Gate) (entry : Entry) (start : Moment) (between : List Moment) (done : Moment)
    (client : Client) (row : Record) : Prop where
  locked : start.happening = .said client ⟨.store (.lock label), .ok (some row)⟩
  stored : start.before.store.row? label = some row
  kept : ∀ m ∈ start :: between, m.after.store.holds client label = true
  committed : done.happening.isCommitOf client = true
  stepped : ∃ call d, d.label = label ∧
    Committed app done.past done.before client call d done.after ∧
    StepDeed app d (.gate gate) .stayed
  marks : row.triggersProcessed = false ∧
    done.after.store.row? label = some { row with triggersProcessed := true }
  found : gate.route.isTerminal = true ∨ ∃ context now,
    Gathered machine (heardOf client done.past) ⟨label, row.metadata, [], some entry⟩
      (Feed.referenced gate.reads) context ∧
    ⟨.now, now⟩ ∈ heardOf client done.past ∧
    gate.exit.run context.lookup (.aware now) = .ok false

/-- All that has fired a trigger of a gate among these moments has been taken to
the gate: nothing has, or after the last of it a look at the gate was begun and
committed. -/
def TakenToGate (app : App) (label : Label) (machine : Machine)
    (gate : Gate) (entry : Entry) (since : List Moment) : Prop :=
  (∀ m ∈ since, ¬ m.Fires label gate) ∨
    ∃ earlier start between done later,
      since = earlier ++ start :: (between ++ done :: later) ∧
      (∃ client row, Look app label machine gate entry start between done client row) ∧
      ∀ m ∈ start :: (between ++ done :: later), ¬ m.Fires label gate

/-- The moments of a chronicle since a label has entered the state that it is in, and
what of them was taken to the gate, if it is in one and its row is marked. -/
def Watched (app : App) (label : Label) (moments : List Moment) (history : List Entry)
    (marked : Prop) : Prop :=
  ∀ entry, history.getLast? = some entry →
    ∃ earlier entering since, moments = earlier ++ entering :: since ∧
      entering.Enters label entry ∧
      (∀ m ∈ since, m.after.store.history label = m.before.store.history label) ∧
      (marked → ∀ machine gate, app.machine label.machine = .ok machine →
        .gate gate ∈ machine.states → entry.entered = some gate.name →
        TakenToGate app label machine gate entry since)

variable {app : App} {past : List Happening} {before after s : System}
  {happening : Happening}
variable {client : Client} {label : Label} {moments : List Moment} {call : Call}
  {d : Desk}
variable {history : List Entry} {entry : Entry} {marked marked' : Prop} {new : Moment}
variable {machine : Machine} {gate : Gate}

/-! ## What one more moment does -/

/-- What is taken to a gate stays so while nothing fires a trigger. -/
theorem TakenToGate.quiet {since : List Moment}
    (h : TakenToGate app label machine gate entry since)
    (hquiet : ¬ new.Fires label gate) :
    TakenToGate app label machine gate entry (since ++ [new]) := by
  have hstill : ∀ {ms : List Moment}, (∀ m ∈ ms, ¬ m.Fires label gate) →
      ∀ m ∈ ms ++ [new], ¬ m.Fires label gate := by
    intro ms hms m hm
    rcases List.mem_append.1 hm with hold | hnow
    · exact hms m hold
    · exact List.mem_singleton.1 hnow ▸ hquiet
  rcases h with hnone | ⟨earlier, start, between, done, later, rfl, hlook, hnone⟩
  · exact .inl (hstill hnone)
  · refine .inr ⟨earlier, start, between, done, later ++ [new], by simp, hlook, ?_⟩
    simpa using hstill hnone

/-- A label that stays where it is is watched on, unless its row is still marked though
a trigger was fired. -/
theorem Watched.stay (h : Watched app label moments history marked)
    (hmarked : marked' → marked)
    (hsame : new.after.store.history label = new.before.store.history label)
    (hquiet : marked' → ∀ machine gate, app.machine label.machine = .ok machine →
      .gate gate ∈ machine.states → history.getLast?.bind (·.entered) = some gate.name →
      ¬ new.Fires label gate) :
    Watched app label (moments ++ [new]) history marked' := by
  intro entry hentry
  obtain ⟨earlier, entering, since, rfl, henters, hstays, htaken⟩ := h entry hentry
  refine ⟨earlier, entering, since ++ [new], by simp, henters, ?_, ?_⟩
  · intro m hm
    rcases List.mem_append.1 hm with hold | hnow
    · exact hstays m hold
    · exact List.mem_singleton.1 hnow ▸ hsame
  · intro hafter machine gate hmachine hmember hhere
    refine (htaken (hmarked hafter) machine gate hmachine hmember hhere).quiet ?_
    exact hquiet hafter machine gate hmachine hmember (by rw [hentry]; exact hhere)

/-- A label that moves is watched from then on. -/
theorem Watched.enter (henters : new.Enters label entry) :
    Watched app label (moments ++ [new]) (history ++ [entry]) marked := by
  intro other hother
  obtain rfl : entry = other := by simpa using hother
  refine ⟨moments, new, [], rfl, henters, by simp, ?_⟩
  exact fun _ _ _ _ _ _ => .inl (by simp)

/-- No trigger is fired where no update is committed. -/
theorem Moment.not_fires {m : Moment} (h : m.patch? label = none) :
    ¬ m.Fires label gate := by
  rintro ⟨patch, row, hpatch, -⟩
  cases h.symm.trans hpatch

/-- While a client holds the lock of a label, no update of the label is committed. -/
theorem Faithful.patch?_eq_none (h : Faithful app past before)
    (hstep : System.Step app before happening after)
    (hbefore : before.store.holds client label = true)
    (hafter : after.store.holds client label = true) :
    (Moment.mk past before happening after).patch? label = none := by
  cases h.effect hstep with
  | none hsilent _ =>
      exact (Moment.creation?_patch?_eq_none (m := ⟨past, before, happening, after⟩)
        hsilent label).2
  | @commit other _ d answer _ hcommitted =>
      rw [(hcommitted.creation?_patch? answer label).2]
      refine (hcommitted.deed.other fun hlabel => ?_).2
      obtain ⟨t, ht, hlocked⟩ := Store.holds_iff.1 hbefore
      obtain rfl : other = client :=
        h.sound.exclusive hcommitted.shown.transaction ht
          (List.mem_singleton.2 hlabel) hlocked
      have hunlocked : after.store.holds other label = false :=
        hstep.unlocked (by simp [Happening.isCommitOf]) label
      exact Bool.false_ne_true (hunlocked.symm.trans hafter)

/-- A lock that is held at the end of a chronicle was taken since the label has entered
its state, and no trigger was fired since then. -/
theorem Watched.locked (happ : app.Built) (chronicle : Chronicle app moments past s)
    (hheld : s.store.holds client label = true) {earlier since : List Moment}
    {entering : Moment} (hmoments : moments = earlier ++ entering :: since)
    (henters : entering.Enters label entry) :
    ∃ before start between, since = before ++ start :: between ∧
      start.happening = .said client ⟨.store (.lock label), .ok (s.store.row? label)⟩ ∧
      start.before.store.row? label = s.store.row? label ∧
      (∀ m ∈ start :: between, m.after.store.holds client label = true) ∧
      ∀ m ∈ start :: between, m.patch? label = none := by
  obtain ⟨front, start, between, hsplit, hstart, hwas, hkept, hbetween⟩ :=
    chronicle.locked happ hheld
  have hnotIn : entering ∉ start :: between := by
    intro hin
    have hsame := (hkept entering hin).2.2
    rw [henters] at hsame
    simpa using congrArg List.length hsame
  have hpatch : ∀ m ∈ start :: between, m.patch? label = none := by
    intro m hm
    rcases List.mem_cons.1 hm with rfl | hin
    · simp [Moment.patch?, Moment.commit?, hstart]
    · obtain ⟨hfaithful, hstep⟩ := chronicle.at_moment happ
        (hsplit ▸ List.mem_append_right front hm)
      exact hfaithful.patch?_eq_none hstep (hbetween m hin) (hkept m hm).1
  rcases List.append_eq_append_iff.1 (hmoments.symm.trans hsplit) with
    ⟨middle, rfl, hmiddle⟩ | ⟨middle, rfl, hmiddle⟩
  · cases middle with
    | nil =>
        exact absurd (List.cons.inj hmiddle).1 fun h => hnotIn (h ▸ List.mem_cons_self)
    | cons first rest =>
        obtain ⟨rfl, rfl⟩ := List.cons.inj hmiddle
        exact ⟨rest, start, between, rfl, hstart, hwas,
          fun m hm => (hkept m hm).1, hpatch⟩
  · exact absurd (hmiddle ▸ List.mem_append_right middle List.mem_cons_self) hnotIn

/-- A commit that adds no entry leaves the history of its label as it is. -/
theorem Committed.history_kept (h : Committed app past before client call d after)
    (hadded : d.added = []) :
    after.store.history d.label = before.store.history d.label := by
  rw [h.entries, Desk.pastAfter, hadded, List.append_nil, h.shown.past]

/-- A label that was looked at and stays is watched on, and its row may be marked. -/
theorem Watched.after_look (happ : app.Built)
    (chronicle : Chronicle app moments past before) {row : Record}
    {answer : Except StoreError Unit} (h : Watched app d.label moments d.past marked)
    (hcommitted : Committed app past before client call d after)
    (hpatch : (Moment.mk past before (.said client ⟨.store .commit, answer⟩) after).patch?
      d.label = none)
    (hat : d.At app machine (.gate gate) row) (hunmarked : row.triggersProcessed = false)
    (hsaved : d.saved = row.marked) (hadded : d.added = [])
    (hclosed : gate.route.isTerminal = true ∨
      ∃ context now, d.Saw machine gate row context now ∧
      gate.exit.run context.lookup (.aware now) = .ok false) :
    Watched app d.label
      (moments ++ [⟨past, before, .said client ⟨.store .commit, answer⟩, after⟩])
      d.past marked' := by
  have hshown := hcommitted.shown
  have hrow : before.store.row? d.label = some row := hshown.row.trans hat.live.1
  let done : Moment := ⟨past, before, .said client ⟨.store .commit, answer⟩, after⟩
  intro entry hentry
  have hcurrent : d.current? = some entry := hentry
  obtain ⟨earlier, entering, since, hmoments, henters, hstays, -⟩ := h entry hentry
  obtain ⟨front, start, between, rfl, hstart, hwas, hkept, hquiet⟩ :=
    Watched.locked happ chronicle (hshown.holds_iff.2 rfl) hmoments henters
  refine ⟨earlier, entering, front ++ start :: (between ++ [done]),
    by simp [hmoments, done], henters, ?_, ?_⟩
  · intro m hm
    rw [← List.cons_append, ← List.append_assoc] at hm
    rcases List.mem_append.1 hm with hold | hnow
    · exact hstays m hold
    · exact List.mem_singleton.1 hnow ▸ hcommitted.history_kept hadded
  · intro _ machine' gate' hmachine hmember hhere
    obtain rfl : machine = machine' := by simpa using hat.machine.symm.trans hmachine
    have hat' : d.At app machine (.gate gate') row :=
      ⟨hmachine, hmember, hat.live, by rw [Desk.state?, hcurrent]; exact hhere⟩
    obtain rfl : gate = gate' := State.gate.inj (hat.unique happ hat')
    refine .inr ⟨front, start, between, done, [], rfl, ⟨client, row, ?_⟩, ?_⟩
    · exact {
        locked := by rw [hstart, hrow]
        stored := hwas.trans hrow
        kept := hkept
        committed := by simp [done, Happening.isCommitOf]
        stepped := ⟨call, d, rfl, hcommitted, .looked hat hsaved hadded hclosed⟩
        marks := ⟨hunmarked, hcommitted.row.trans (Desk.rowAfter_marked hat.live hsaved)⟩
        found := by
          refine hclosed.imp_right ?_
          rintro ⟨context, now, ⟨hgathered, hnow⟩, hshut⟩
          rw [hcurrent, hcommitted.heard] at hgathered
          exact ⟨context, now, hgathered, hcommitted.heard ▸ hnow, hshut⟩ }
    · intro m hm
      rw [← List.cons_append] at hm
      rcases List.mem_append.1 hm with hold | hnow
      · exact Moment.not_fires (hquiet m hold)
      · exact List.mem_singleton.1 hnow ▸ Moment.not_fires hpatch

/-! ## What a deed does -/

/-- An update that leaves its row marked has fired no trigger of the gate that the label
is in. -/
theorem Desk.Updated.not_fires (happ : app.Built) {patch : Value} {row : Record}
    (h : d.Updated app patch) (hrow : d.row = some row)
    (hmachine : app.machine d.label.machine = .ok machine)
    (hmember : .gate gate ∈ machine.states) (hhere : d.state? = some gate.name)
    (hmarked : ∃ row, d.rowAfter = some row ∧ row.triggersProcessed = true) :
    ¬ gate.triggers.any (·.firesOnUpdate row.metadata patch (row.metadata.merge patch)) =
      true := by
  intro hfires
  obtain ⟨m, known, hknown, hlive, hsaved⟩ := h.saved
  obtain rfl : m = machine := by simpa using hknown.symm.trans hmachine
  obtain rfl : known = row := Option.some.inj (hlive.1.symm.trans hrow)
  have htriggered :
      triggeredGate? m ⟨d.past⟩ known.metadata patch (known.metadata.merge patch) =
        some gate := by
    have hstate : (History.mk d.past).state? = some gate.name := hhere
    have hfound : m.state? gate.name = some (.gate gate) :=
      (happ.machine hmachine).1.state?_of_mem hmember
    simpa [triggeredGate?, hstate, hfound, State.gate?] using hfires
  obtain ⟨after, hafter, hmark⟩ := hmarked
  rw [Desk.rowAfter, hsaved] at hafter
  obtain rfl : d.updated m known patch = after := Option.some.inj hafter
  simp [Desk.updated, htriggered] at hmark

/-- The row of a label is marked: all that its updates have fired was taken to its
gate. -/
def Marked (s : System) (label : Label) : Prop :=
  ∃ row, s.store.row? label = some row ∧ row.triggersProcessed = true

section Commits

variable {answer : Except StoreError Unit}

/-- A label is watched from the commit of a move on. -/
theorem Watched.after_move {move : Move}
    (hcommitted : Committed app past before client call d after)
    (hadds : d.Adds move) :
    Watched app d.label
      (moments ++ [⟨past, before, .said client ⟨.store .commit, answer⟩, after⟩])
      d.pastAfter marked := by
  obtain ⟨entry, hadded, -⟩ := hadds
  rw [Desk.pastAfter, hadded]
  refine Watched.enter ?_
  rw [Moment.Enters, hcommitted.entries, Desk.pastAfter, hadded, hcommitted.shown.past]

/-- A label is watched on when nothing was staged. -/
theorem Watched.after_nothing
    (h : Watched app d.label moments d.past (Marked before d.label))
    (hcommitted : Committed app past before client call d after)
    (hpatch : (Moment.mk past before (.said client ⟨.store .commit, answer⟩) after).patch?
      d.label = none)
    (hsaved : d.saved = none) (hadded : d.added = []) :
    Watched app d.label
      (moments ++ [⟨past, before, .said client ⟨.store .commit, answer⟩, after⟩])
      d.past (Marked after d.label) := by
  refine h.stay ?_ (hcommitted.history_kept hadded) fun _ _ _ _ _ _ =>
    Moment.not_fires hpatch
  rintro ⟨row, hrow, hmark⟩
  refine ⟨row, ?_, hmark⟩
  rw [hcommitted.shown.row, ← hrow, hcommitted.row, Desk.rowAfter, hsaved, Option.none_or]

/-- A label is watched on after an update: it has fired nothing, or the row is not
marked any more. -/
theorem Watched.after_update (happ : app.Built) {patch : Value}
    (h : Watched app d.label moments d.past (Marked before d.label))
    (hcommitted : Committed app past before client call d after)
    (hpatch : (Moment.mk past before (.said client ⟨.store .commit, answer⟩) after).patch?
      d.label =
      some patch)
    (hupdated : d.Updated app patch) :
    Watched app d.label
      (moments ++ [⟨past, before, .said client ⟨.store .commit, answer⟩, after⟩])
      d.past (Marked after d.label) := by
  have hshown := hcommitted.shown
  obtain ⟨m, known, -, hlive, hsaved⟩ := hupdated.saved
  refine h.stay ?_ (hcommitted.history_kept hupdated.added) ?_
  · rintro ⟨row, hrow, hmark⟩
    rw [hcommitted.row, Desk.rowAfter, hsaved] at hrow
    obtain rfl : d.updated m known patch = row := Option.some.inj hrow
    exact ⟨known, hshown.row.trans hlive.1, (Bool.and_eq_true _ _ ▸ hmark).1⟩
  · rintro ⟨row, hrow, hmark⟩ machine gate hmachine hmember hhere
      ⟨fired, old, hfired, hold, hfires⟩
    obtain rfl : patch = fired := Option.some.inj (hpatch.symm.trans hfired)
    refine hupdated.not_fires happ (hshown.row.symm.trans hold) hmachine hmember hhere
      ⟨row, hcommitted.row.symm.trans hrow, hmark⟩ hfires

/-- **Commits keep a label watched.**  A move begins a new watch; an update goes on with
it if it fires nothing, and unmarks the row otherwise; a look at a gate takes all there
is to it. -/
theorem Watched.after_commit (happ : app.Built)
    (chronicle : Chronicle app moments past before)
    (hcommitted : Committed app past before client call d after)
    (h : Watched app d.label moments d.past (Marked before d.label)) :
    Watched app d.label
      (moments ++ [⟨past, before, .said client ⟨.store .commit, answer⟩, after⟩])
      d.pastAfter (Marked after d.label) := by
  have hstays : d.added = [] → d.pastAfter = d.past := by
    intro hadded
    rw [Desk.pastAfter, hadded, List.append_nil]
  have hdeed := hcommitted.deed.onDesk
  have hpatch := (hcommitted.creation?_patch? answer d.label).2
  generalize call.creation? d.label (commitsOf client past) = creation at hdeed
  generalize call.patch? d.label (commitsOf client past) = patch at hdeed hpatch
  cases hdeed with
  | created hcreated =>
      obtain ⟨m, first, -, -, hadds⟩ := hcreated.added
      exact Watched.after_move hcommitted hadds
  | updated hupdated =>
      rw [hstays hupdated.added]
      exact h.after_update happ hcommitted hpatch hupdated
  | deleted hdeleted =>
      cases hdeleted with
      | before hrow hdeleted hsaved hadded =>
          rw [hstays hadded]
          exact h.after_nothing hcommitted hpatch hsaved hadded
      | now hheard hlive hsaved hadds => exact Watched.after_move hcommitted hadds
  | demanded hdemanded => exact Watched.after_move hcommitted hdemanded.added
  | stepped hstep =>
      cases hstep with
      | stayed hidle hquiet hsaved hadded =>
          rw [hstays hadded]
          exact h.after_nothing hcommitted hpatch hsaved hadded
      | @looked m gate row hat hsaved hadded hclosed =>
          rw [hstays hadded]
          cases hmark : row.triggersProcessed with
          | true =>
              rw [Record.marked, if_pos hmark] at hsaved
              exact h.after_nothing hcommitted hpatch hsaved hadded
          | false =>
              exact h.after_look happ chronicle hcommitted hpatch hat hmark
                hsaved hadded hclosed
      | passed hat hsaved hsaw hopen hnext hadds =>
          exact Watched.after_move hcommitted hadds
      | accepted hat hcurrent hsaved hheard hnext hadds =>
          exact Watched.after_move hcommitted hadds

end Commits

/-- **Labels are watched in every run.** -/
theorem Chronicle.watched (happ : app.Built) (chronicle : Chronicle app moments past s)
    (label : Label) :
    Watched app label moments (s.store.history label) (Marked s label) := by
  induction chronicle with
  | empty =>
      intro entry hentry
      cases hentry
  | @step moments past before after happening chronicle hstep ih =>
      have hquiet : ∀ new : Moment, new.patch? label = none →
          new.after.store.row? label = new.before.store.row? label →
          new.after.store.history label = new.before.store.history label →
          Watched app label moments (new.before.store.history label)
            (Marked new.before label) →
          Watched app label (moments ++ [new]) (new.after.store.history label)
            (Marked new.after label) := by
        intro new hpatch hrow hpast h
        rw [hpast]
        refine h.stay ?_ hpast fun _ _ _ _ _ _ => Moment.not_fires hpatch
        rintro ⟨row, hfound, hmark⟩
        exact ⟨row, hrow ▸ hfound, hmark⟩
      cases (chronicle.faithful happ).effect hstep with
      | none hsilent hsame =>
          exact hquiet ⟨past, before, happening, after⟩
            (Moment.creation?_patch?_eq_none hsilent label).2 (hsame label).1
            (hsame label).2 ih
      | @commit client call d answer _ hcommitted =>
          by_cases hlabel : label = d.label
          · subst hlabel
            rw [hcommitted.shown.past] at ih
            rw [hcommitted.entries]
            exact ih.after_commit happ chronicle hcommitted
          · refine hquiet ⟨past, before, _, after⟩ ?_ (hcommitted.other label hlabel).1
              (hcommitted.other label hlabel).2 ih
            rw [(hcommitted.creation?_patch? answer label).2]
            exact (hcommitted.deed.other hlabel).2

end Turnstile

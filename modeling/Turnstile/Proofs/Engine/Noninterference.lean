import Turnstile.Proofs.Engine.Chronicle
import Turnstile.Proofs.Engine.Errands
import Turnstile.Proofs.Engine.Tokens

/-!
# Labels do not interfere

What becomes of a label is decided by the work that is done on it, whatever is done on
other labels, before, after or between: by operations on them, and by the batches that
visit them too.

Errands one after the other were treated before; here any number of calls go forward at
the same time.  A run has a `Mirror` on a label: a run of the calls that concern the
label, in which each goes forward when it works on the label, and waits while the same
call works on another.  Step by step the mirror does the same work on the label, and it
holds nothing else (`Mirror.step`).  So the whole run has an `Extract`, and
`labels_independent` says both of errands and of runs.
-/

set_option autoImplicit false

namespace Turnstile

open Time (DateTime)

/-! ## What is to be shown -/

/-- Two exchanges are the same up to numbers of entries and tokens. -/
inductive Exchange.Alike (label : Label) : Exchange → Exchange → Prop
  | same {r : Request} {answer answer' : r.Answer} (h : r.Alike label answer answer') :
      Alike label ⟨r, answer⟩ ⟨r, answer'⟩
  | deliver {delivery delivery' : Delivery} (h : delivery.Alike delivery')
      (result : Delivered) :
      Alike label ⟨.deliver delivery, result⟩ ⟨.deliver delivery', result⟩

/-- An exchange in a world of habits, in which nobody asks for an end. -/
def Exchange.Keeps (habits : Habits) : Exchange → Prop
  | ⟨.deliver delivery, answer⟩ => answer = habits.deliver delivery.url delivery.body
  | ⟨.fetch url, answer⟩ => answer = habits.fetch url
  | ⟨.now, answer⟩ => answer = habits.now
  | ⟨.stopRequested, answer⟩ => answer = false
  | ⟨.store (.append _), .ok entry⟩ => entry.created = habits.now
  | _ => True

/-- All that is said is said in a world of habits. -/
def Keeps (habits : Habits) (past : List Happening) : Prop :=
  ∀ client exchange, .said client exchange ∈ past → exchange.Keeps habits

/-- Whether it is a lock of a label. -/
def Exchange.isLockOf (label : Label) : Exchange → Bool
  | ⟨.store (.lock taken), _⟩ => taken = label
  | _ => false

/-- The work on a label at a moment: what is said with a client that takes the lock of
the label, or holds it. -/
def Moment.work (label : Label) (m : Moment) : List (Client × Exchange) :=
  match m.happening with
  | .said client exchange =>
    if m.before.store.holds client label || exchange.isLockOf label then
      [(client, exchange)]
    else []
  | _ => []

/-- All the work on a label, in its order. -/
def workOn (label : Label) (moments : List Moment) : List (Client × Exchange) :=
  moments.flatMap (Moment.work label)

/-- The same is said with the same client. -/
def SameWork (label : Label) (made other : Client × Exchange) : Prop :=
  made.1 = other.1 ∧ made.2.Alike label other.2

/-- The call that is made, and by whom. -/
def Happening.call? : Happening → Option (Client × Call)
  | .called client call => some (client, call)
  | _ => none

/-- All calls, in their order. -/
def callsOf (past : List Happening) : List (Client × Call) :=
  past.filterMap Happening.call?

/-- A run keeps of another the work that is done on a label: it makes the calls that
concern the label, does the same work on the label in the same order, and holds nothing
else; calls that have come to their end come to their end. -/
structure Extract (app : App) (label : Label) (moments : List Moment)
    (past : List Happening) (s : System) (moments' : List Moment) (past' : List Happening)
    (s' : System) : Prop where
  chronicle : Chronicle app moments' past' s'
  calls : callsOf past' = (callsOf past).filter fun made => made.2.Concerns label
  work : List.Forall₂ (SameWork label) (workOn label moments) (workOn label moments')
  only : ∀ other, other ≠ label → s'.store.row? other = none ∧ s'.store.history other = []
  ended : ∀ client call result, call.Concerns label →
    s.tasks client = some ⟨call, some (.done result)⟩ →
    ∃ result', s'.tasks client = some ⟨call, some (.done result')⟩
  same : Store.SameOf label s.store s'.store

/-! ## Mirrors -/

/-- A task and its mirror image on a label, while their clients have transactions open
or not. -/
inductive Task.Mirrors (label : Label) : Bool → Bool → Option Task → Option Task → Prop
  | uncalled : Mirrors label false false none none
  | kept {call : Call} {work work' : Work (Except EngineError CallResult)}
      {opened opened' : Bool} (hconcerns : call.Concerns label)
      (h : work.Shadows label opened opened' work') :
      Mirrors label opened opened' (some ⟨call, some work⟩) (some ⟨call, some work'⟩)
  | left {call : Call} {work : Work (Except EngineError CallResult)} {opened : Bool}
      (hapart : ¬ call.Concerns label)
      (h : work.Shadows label opened false
        (Work.done (.ok () : Except EngineError Unit))) :
      Mirrors label opened false (some ⟨call, some work⟩) none
  | vanished {call : Call} (hconcerns : call.Concerns label) :
      Mirrors label false false (some ⟨call, none⟩) (some ⟨call, none⟩)
  | gone {call : Call} (hapart : ¬ call.Concerns label) :
      Mirrors label false false (some ⟨call, none⟩) none

/-- A client in a system and in its mirror. -/
def MirroredBy (label : Label) (s r : System) (client : Client) : Prop :=
  ∃ opened opened', Store.Stands label client s.store r.store opened opened' ∧
    Task.Mirrors label opened opened' (s.tasks client) (r.tasks client)

/-- The second system is a mirror of the first on a label. -/
structure Mirror (label : Label) (s r : System) : Prop where
  accord : Accord label s.store r.store
  clients : ∀ client, MirroredBy label s r client

/-- The same happens in a system and in its mirror. -/
inductive Happening.Alike (label : Label) : Happening → Happening → Prop
  | called (client : Client) {call : Call} (hconcerns : call.Concerns label) :
      Alike label (.called client call) (.called client call)
  | said (client : Client) {exchange exchange' : Exchange}
      (h : exchange.Alike label exchange') :
      Alike label (.said client exchange) (.said client exchange')
  | vanished (client : Client) : Alike label (.vanished client) (.vanished client)

/-- What happens does not concern a label: a call that does not, or something that is
not said by whoever holds the lock of the label. -/
structure Happening.Elsewhere (label : Label) (s : System)
    (happening : Happening) : Prop where
  calls : ∀ client call, happening = .called client call → ¬ call.Concerns label
  unheld : ∀ client exchange, happening = .said client exchange →
    s.store.holds client label = false ∧ exchange.isLockOf label = false

variable {app : App} {label : Label} {s r s' r' : System} {client other : Client}
  {happening : Happening}

/-! ## Answers -/

/-- Whatever is answered to one client, the transactions of others stay as they are. -/
theorem Request.Answered.transaction?_other {q : Request} {now : DateTime}
    {before after : Store} {answer : q.Answer}
    (h : q.Answered client now before answer after) (hother : other ≠ client) :
    after.transaction? other = before.transaction? other := by
  cases q with
  | store request => exact (Store.served h).transaction?_other hother
  | _ => cases h; rfl

namespace Accord

variable {u v after : Store} {q : Request} {answer : q.Answer} {now : DateTime}
  {opened opened' : Bool} {habits : Habits}

/-- **In both systems.**  Whatever is answered about the label can be answered alike in
the mirror. -/
theorem answered_both (h : Accord label u v)
    (hstands : Store.Stands label client u v opened opened)
    (hwithin : q.Within label opened opened')
    (hwaits : v.isTaken client label = true → u.isTaken client label = true)
    (hkeeps : (Exchange.mk q answer).Keeps habits)
    (hanswer : q.Answered client now u answer after) :
    ∃ answer' after', q.Answered client now v answer' after' ∧
      q.Alike label answer answer' ∧ Accord label after after' ∧
      Store.Stands label client after after' opened' opened' := by
  cases hwithin with
  | store hwithin => exact h.serve_both hstands hwithin hwaits hanswer
  | stopRequested => cases hanswer; exact ⟨false, v, rfl, ⟨hkeeps, rfl⟩, h, hstands⟩
  | _ => cases hanswer; exact ⟨answer, v, rfl, rfl, h, hstands⟩

/-- **In the first system alone.** -/
theorem answered_alone {about : Label} (h : Accord label u v)
    (hstands : Store.Stands label client u v opened false) (habout : about ≠ label)
    (hwithin : q.Within about opened opened')
    (hkeeps : (Exchange.mk q answer).Keeps habits)
    (hanswer : q.Answered client now u answer after) :
    (∃ answer', q.Alike about answer answer') ∧ Accord label after v ∧
      Store.Stands label client after v opened' false := by
  cases hwithin with
  | store hwithin => exact h.serve_alone hstands habout hwithin hanswer
  | stopRequested => cases hanswer; exact ⟨⟨false, hkeeps, rfl⟩, h, hstands⟩
  | _ => cases hanswer; exact ⟨⟨answer, rfl⟩, h, hstands⟩

end Accord

namespace Store.Stands

variable {u v after after' : Store} {opened opened' : Bool}

/-- A client stands where it stood while nobody touches its transactions. -/
theorem congr (h : Stands label client u v opened opened')
    (hafter : after.transaction? client = u.transaction? client)
    (hafter' : after'.transaction? client = v.transaction? client) :
    Stands label client after after' opened opened' := by
  cases h with
  | together ht hu htwin => exact .together (hafter.trans ht) (hafter'.trans hu) htwin
  | apart hopen hfree hclosed =>
      refine .apart ?_ ((Store.holds_congr hafter label).trans hfree) ?_
      · rw [Store.isOpen, hafter]; exact hopen
      · rw [Store.isOpen, hafter']; exact hclosed

/-- A client holds the lock of the label in both stores, or in neither. -/
theorem holds (h : Stands label client u v opened opened') :
    u.holds client label = v.holds client label := by
  cases h with
  | together ht hu htwin => exact htwin.holds ht hu label
  | apart hopen hfree hclosed =>
      have hnone : v.transaction? client = none := by simpa [Store.isOpen] using hclosed
      rw [hfree, Store.holds, hnone, Option.any_none]

/-- Whoever has no transaction in the second store does not hold the lock in the first. -/
theorem unheld (h : Stands label client u v opened false) :
    u.holds client label = false := by
  cases h with
  | apart hopen hfree hclosed => exact hfree

end Store.Stands

/-! ## Steps -/

namespace Mirror

variable {store store' : Store} {task task' : Task} {opened opened' : Bool}
  {habits : Habits}

/-- Nobody waits in the mirror for a lock of the label who does not wait for it in the
system. -/
theorem waits (h : Mirror label s r) (htaken : r.store.isTaken client label = true) :
    s.store.isTaken client label = true := by
  obtain ⟨c, t, hc, ht, hlocked⟩ := h.accord.orderly_other.sound.isTaken_iff.1 htaken
  obtain ⟨opened, opened', hstands, -⟩ := h.clients c
  obtain ⟨u, hu, hin⟩ :=
    Store.holds_iff.1 (hstands.holds.trans (Store.holds_iff.2 ⟨t, ht, hlocked⟩))
  exact h.accord.orderly.sound.isTaken_iff.2 ⟨c, u, hc, hu, hin⟩

/-- A client goes forward in both systems. -/
theorem both (h : Mirror label s r) (haccord : Accord label store store')
    (hstands : Store.Stands label client store store' opened opened')
    (hmirrors : Task.Mirrors label opened opened' (some task) (some task'))
    (hothers : ∀ other, other ≠ client → store.transaction? other =
      s.store.transaction? other)
    (hothers' : ∀ other, other ≠ client → store'.transaction? other =
      r.store.transaction? other) :
    Mirror label ({ s with store := store }.assign client task)
      ({ r with store := store' }.assign client task') where
  accord := haccord
  clients other := by
    by_cases hother : other = client
    · subst hother
      exact ⟨opened, opened', hstands, by simpa [System.assign] using hmirrors⟩
    · obtain ⟨o, o', hstood, hwas⟩ := h.clients other
      exact ⟨o, o', hstood.congr (hothers other hother) (hothers' other hother),
        by simpa [System.assign, hother] using hwas⟩

/-- A client goes forward in the system, and waits in the mirror. -/
theorem alone (h : Mirror label s r) (haccord : Accord label store r.store)
    (hstands : Store.Stands label client store r.store opened opened')
    (hmirrors : Task.Mirrors label opened opened' (some task) (r.tasks client))
    (hothers : ∀ other, other ≠ client → store.transaction? other =
      s.store.transaction? other) :
    Mirror label ({ s with store := store }.assign client task) r where
  accord := haccord
  clients other := by
    by_cases hother : other = client
    · subst hother
      exact ⟨opened, opened', hstands, by simpa [System.assign] using hmirrors⟩
    · obtain ⟨o, o', hstood, hwas⟩ := h.clients other
      exact ⟨o, o', hstood.congr (hothers other hother) rfl,
        by simpa [System.assign, hother] using hwas⟩

/-- The empty system is its own mirror. -/
theorem empty (label : Label) : Mirror label {} {} where
  accord := .empty label
  clients _ := ⟨false, false, .apart rfl rfl rfl, .uncalled⟩

/-- What happens in a system happens in its mirror too, or it happens elsewhere. -/
def Follows (app : App) (label : Label) (s r : System) (happening : Happening)
    (s' : System) : Prop :=
  (happening.Elsewhere label s ∧ Mirror label s' r) ∨
    ∃ happening' r', System.Step app r happening' r' ∧
      Happening.Alike label happening happening' ∧ Mirror label s' r'

/-- Calls that have nothing to do with the label are not made in the mirror. -/
theorem call (happ : app.Built) (h : Mirror label s r) (client : Client) (call : Call)
    (hnew : s.tasks client = none) :
    Follows app label s r (.called client call)
      (s.assign client ⟨call, some (call.perform app).run⟩) := by
  obtain ⟨opened, opened', hstands, hmirrors⟩ := h.clients client
  rw [hnew] at hmirrors
  generalize himage : r.tasks client = image at hmirrors
  cases hmirrors with
  | uncalled =>
      by_cases hconcerns : call.Concerns label
      · refine .inr ⟨_, _, .call client call himage, .called client hconcerns, ?_⟩
        exact h.both h.accord hstands (.kept hconcerns (Call.shadows happ hconcerns))
          (fun _ _ => rfl)
          fun _ _ => rfl
      · refine .inl ⟨⟨?_, by simp⟩, ?_⟩
        · rintro _ _ heq
          cases heq
          exact hconcerns
        · have hleft : Task.Mirrors label false false
              (some ⟨call, some (call.perform app).run⟩) none :=
            .left hconcerns (Call.shadows_nothing happ hconcerns)
          exact h.alone h.accord hstands (himage ▸ hleft) fun _ _ => rfl

/-- A caller that vanishes does so in the mirror. -/
theorem vanish (h : Mirror label s r) {call : Call}
    {rest : Work (Except EngineError CallResult)}
    (htask : s.tasks client = some ⟨call, some rest⟩) :
    Follows app label s r (.vanished client)
      ({ s with store := s.store.rollback client }.assign client ⟨call, none⟩) := by
  obtain ⟨opened, opened', hstands, hmirrors⟩ := h.clients client
  rw [htask] at hmirrors
  generalize himage : r.tasks client = image at hmirrors
  have hothers : ∀ {s : Store} (other : Client), other ≠ client →
      (s.rollback client).transaction? other = s.transaction? other :=
        fun other hother => by simp [hother]
  cases hmirrors with
  | kept hconcerns hshadows =>
      refine .inr ⟨_, _, .vanish himage, .vanished client, ?_⟩
      exact h.both (h.accord.uncommitted .rolledBack .rolledBack (by simp))
        (.closed (by simp) (by simp))
        (.vanished hconcerns) hothers hothers
  | left hapart hshadows =>
      refine .inl ⟨⟨by simp, by simp⟩, ?_⟩
      have haccord := h.accord.alone (.rolledBack) hstands.unheld
      cases hstands with
      | apart hopen hfree hclosed =>
          have hgone : Task.Mirrors label false false (some ⟨call, none⟩) none :=
            .gone hapart
          have hnone : r.store.transaction? client = none := by
            simpa [Store.isOpen] using hclosed
          exact h.alone haccord (.closed (by simp) hnone) (himage ▸ hgone) hothers

/-- An exchange about the label is mirrored with its answer, and others by nothing. -/
theorem say (h : Mirror label s r) {call : Call} {q : Request}
    {answer : q.Answer} {store : Store} {now : DateTime}
    {next : q.Answer → Work (Except EngineError CallResult)}
    (htask : s.tasks client = some ⟨call, some (.ask q next)⟩)
    (hanswer : q.Answered client now s.store answer store)
    (hkeeps : (Exchange.mk q answer).Keeps habits) :
    Follows app label s r (.said client ⟨q, answer⟩)
      ({ s with store := store }.assign client ⟨call, some (next answer)⟩) := by
  obtain ⟨opened, opened', hstands, hmirrors⟩ := h.clients client
  rw [htask] at hmirrors
  generalize himage : r.tasks client = image at hmirrors
  have hothers := fun other (hother : other ≠ client) => hanswer.transaction?_other hother
  -- work on another label: the mirror waits
  have halone : ∀ {about : Label} {o o' : Bool}, about ≠ label → q.Within about o o' →
      Store.Stands label client s.store r.store o false →
      ((∃ answer', q.Alike about answer answer') →
        Task.Mirrors label o' false (some ⟨call, some (next answer)⟩) image) →
      Follows app label s r (.said client ⟨q, answer⟩)
        ({ s with store := store }.assign client ⟨call, some (next answer)⟩) := by
    intro about o o' habout hwithin hstands hmirrors
    obtain ⟨halike, haccord, hafter⟩ :=
      h.accord.answered_alone hstands habout hwithin hkeeps hanswer
    refine .inl ⟨⟨by simp, ?_⟩, h.alone haccord hafter (himage ▸ hmirrors halike) hothers⟩
    rintro _ _ heq
    cases heq
    refine ⟨hstands.unheld, ?_⟩
    cases hwithin with
    | store hwithin =>
        cases hwithin with
        | lock => exact decide_eq_false habout
        | _ => rfl
    | _ => rfl
  cases hmirrors with
  | kept hconcerns hshadows =>
      cases hshadows with
      | both hwithin hnext =>
          obtain ⟨answer', store', hanswer', halike, haccord, hafter⟩ :=
            h.accord.answered_both hstands hwithin h.waits hkeeps hanswer
          refine .inr
            ⟨_, _, .say client now himage hanswer', .said client (.same halike), ?_⟩
          exact h.both haccord hafter (.kept hconcerns (hnext _ _ halike)) hothers
            fun _ hother => hanswer'.transaction?_other hother
      | @deliver _ delivery delivery' _ _ halike hnext =>
          cases hanswer
          have hanswer' : (Request.deliver delivery').Answered client now r.store
              answer r.store := rfl
          refine .inr ⟨_, _, .say client now himage hanswer',
            .said client (.deliver halike answer), ?_⟩
          exact h.both h.accord hstands (.kept hconcerns (hnext answer))
            (fun _ _ => rfl) fun _ _ => rfl
      | alone habout hwithin hnext =>
          exact halone habout hwithin hstands fun ⟨_, halike⟩ =>
            .kept hconcerns (hnext _ _ halike)
  | left hapart hshadows =>
      cases hshadows with
      | alone habout hwithin hnext =>
          exact halone habout hwithin hstands fun ⟨_, halike⟩ =>
            .left hapart (hnext _ _ halike)

/-- **Step.**  Whatever happens in a system happens in its mirror too, or it happens
elsewhere. -/
theorem step (happ : app.Built) (h : Mirror label s r)
    (hstep : System.Step app s happening s')
    (hkeeps : ∀ client exchange, happening = .said client exchange →
      exchange.Keeps habits) :
    Follows app label s r happening s' := by
  cases hstep with
  | call client call hnew => exact h.call happ client call hnew
  | say client now htask hanswer => exact h.say htask hanswer (hkeeps _ _ rfl)
  | vanish htask => exact h.vanish htask

end Mirror

/-! ## Runs -/

section Runs

variable {habits : Habits} {moments : List Moment} {past past' : List Happening}

/-- What is the same up to numbers and tokens is said in a world of the same habits. -/
theorem Exchange.Alike.keeps {exchange exchange' : Exchange}
    (h : exchange.Alike label exchange') (hkeeps : exchange.Keeps habits) :
    exchange'.Keeps habits := by
  cases h with
  | deliver halike result =>
      simp only [Exchange.Keeps, halike.url, halike.body] at hkeeps ⊢
      exact hkeeps
  | @same q answer answer' halike =>
      cases q with
      | store request =>
          cases request with
          | append move =>
              rcases halike with ⟨entry, entry', rfl, rfl, hsame⟩ | ⟨refusal, rfl, rfl⟩
              · exact (congrArg Prod.snd hsame).symm.trans hkeeps
              · trivial
          | _ => trivial
      | stopRequested => exact halike.2
      | notify notice => trivial
      | log event => trivial
      | nextTick => trivial
      | _ => exact halike ▸ hkeeps

/-- Exchanges that are alike lock the same. -/
theorem Exchange.Alike.isLockOf {exchange exchange' : Exchange}
    (h : exchange.Alike label exchange') (taken : Label) :
    exchange.isLockOf taken = exchange'.isLockOf taken := by
  cases h with
  | deliver => rfl
  | @same q answer answer' halike =>
      cases q with
      | store request => cases request <;> rfl
      | _ => rfl

/-- In a mirror the same work is done on the label. -/
theorem Mirror.work {happening' : Happening} (h : Mirror label s r)
    (halike : Happening.Alike label happening happening') (past past' : List Happening) :
    List.Forall₂ (SameWork label) ((Moment.mk past s happening s').work label)
      ((Moment.mk past' r happening' r').work label) := by
  cases halike with
  | called client hconcerns => exact .nil
  | vanished client => exact .nil
  | said client halike =>
      obtain ⟨opened, opened', hstands, -⟩ := h.clients client
      simp only [Moment.work, hstands.holds, halike.isLockOf]
      split
      · exact .cons ⟨rfl, halike⟩ .nil
      · exact .nil

/-- What happens elsewhere is no work on the label. -/
theorem Happening.Elsewhere.work (h : happening.Elsewhere label s)
    (past : List Happening) :
    (Moment.mk past s happening s').work label = [] := by
  cases happening with
  | said client exchange =>
      obtain ⟨hfree, hlock⟩ := h.unheld client exchange rfl
      simp [Moment.work, hfree, hlock]
  | _ => rfl

theorem callsOf_append (past : List Happening) (happening : Happening) :
    callsOf (past ++ [happening]) = callsOf past ++ happening.call?.toList := by
  cases happening <;> simp [callsOf, Happening.call?]

theorem workOn_append (moments : List Moment) (m : Moment) :
    workOn label (moments ++ [m]) = workOn label moments ++ m.work label := by
  rw [workOn, List.flatMap_append, List.flatMap_singleton, workOn]

/-- **Runs.**  Every run has a mirror on every label. -/
theorem Chronicle.mirror (happ : app.Built) (chronicle : Chronicle app moments past s)
    (hkeeps : Keeps habits past) (label : Label) :
    ∃ moments' past' s', Chronicle app moments' past' s' ∧ Mirror label s s' ∧
      callsOf past' = (callsOf past).filter (fun made => made.2.Concerns label) ∧
      List.Forall₂ (SameWork label) (workOn label moments) (workOn label moments') ∧
      Keeps habits past' := by
  induction chronicle with
  | empty => exact ⟨[], [], {}, .empty, .empty label, rfl, .nil, hkeeps⟩
  | @step moments past before after happening chronicle hstep ih =>
      have hbefore : Keeps habits past := fun client exchange hin =>
        hkeeps client exchange (List.mem_append_left _ hin)
      have hnow : ∀ client exchange, happening = .said client exchange →
          exchange.Keeps habits :=
        fun client exchange heq => hkeeps client exchange (by simp [heq])
      obtain ⟨moments', past', s', hchronicle, hmirror, hcalls, hwork, hkept⟩ :=
        ih hbefore
      rcases hmirror.step happ hstep hnow
        with ⟨helse, hmirror'⟩ | ⟨happening', r', hstep', halike, hmirror'⟩
      · refine ⟨moments', past', s', hchronicle, hmirror', ?_, ?_, hkept⟩
        · rw [hcalls, callsOf_append, List.filter_append]
          cases happening with
          | called client call => simp [Happening.call?, helse.calls client call rfl]
          | _ => simp [Happening.call?]
        · rw [workOn_append, helse.work, List.append_nil]
          exact hwork
      · refine ⟨_, _, r', hchronicle.step hstep', hmirror', ?_, ?_, ?_⟩
        · rw [callsOf_append, callsOf_append, List.filter_append, hcalls]
          cases halike with
          | called client hconcerns => simp [Happening.call?, hconcerns]
          | _ => simp [Happening.call?]
        · rw [workOn_append, workOn_append]
          exact List.rel_append hwork (hmirror.work halike past past')
        · intro client exchange hin
          rcases List.mem_append.1 hin with hold | hlast
          · exact hkept client exchange hold
          · obtain rfl := List.mem_singleton.1 hlast
            cases halike with
            | said _ halike => exact halike.keeps (hnow _ _ rfl)

/-- A mirror at the end of a run is what the run leaves of the label. -/
theorem Mirror.ended (h : Mirror label s r) {call : Call}
    {result : Except EngineError CallResult} (hconcerns : call.Concerns label)
    (htask : s.tasks client = some ⟨call, some (.done result)⟩) :
    ∃ result', r.tasks client = some ⟨call, some (.done result')⟩ := by
  obtain ⟨opened, opened', hstands, hmirrors⟩ := h.clients client
  rw [htask] at hmirrors
  generalize himage : r.tasks client = image at hmirrors
  cases hmirrors with
  | kept _ hshadows =>
      cases hshadows with
      | done => exact ⟨_, rfl⟩
  | left hapart _ => exact absurd hconcerns hapart

/-- **Labels do not interfere.**  What becomes of a label is what becomes of it when
only the work on the label is done: when errands are done one after the other, for those
that concern the label, in whatever order batches visit their labels; and when any
number of calls go forward at the same time, for a run of the calls that concern the
label, with the same work on the label in the same order.  So errands that concern no
label in common may change places. -/
theorem labels_independent (happ : app.Built) (habits : Habits) (label : Label) :
    (∀ errands,
      Store.SameOf label (habits.after app errands)
        (habits.after app (kept label errands)) ∧
      ∀ other, other ≠ label → (habits.after app (kept label errands)).row? other = none ∧
        (habits.after app (kept label errands)).history other = []) ∧
    (∀ errands others, Rearranged errands others →
      Store.SameOf label (habits.after app errands) (habits.after app others)) ∧
    ∀ moments past s, Chronicle app moments past s → Keeps habits past →
      ∃ moments' past' s', Extract app label moments past s moments' past' s' ∧
        Keeps habits past' := by
  refine ⟨habits.after_kept happ label,
    fun errands others h => h.after habits happ label, ?_⟩
  intro moments past s chronicle hkeeps
  obtain ⟨moments', past', s', hchronicle, hmirror, hcalls, hwork, hkept⟩ :=
    chronicle.mirror happ hkeeps label
  have haccord := hmirror.accord
  exact ⟨moments', past', s', ⟨hchronicle, hcalls, hwork, haccord.only,
    fun _ _ _ hconcerns htask => hmirror.ended hconcerns htask,
      ⟨haccord.row, haccord.past⟩⟩, hkept⟩

end Runs

/-! ## Two letters at the same time -/

/-- The world of habits. -/
def Habits.world (habits : Habits) : (r : Request) → r.Answer
  | .store _ => .error (.backend "asked of the world")
  | .deliver delivery => habits.deliver delivery.url delivery.body
  | .fetch url => habits.fetch url
  | .notify _ => ()
  | .log _ => ()
  | .now => habits.now
  | .stopRequested => false
  | .nextTick => false

section Stories

variable {habits : Habits} {story : Story} {world : (r : Request) → r.Answer}
  {exchange : Exchange}

/-- The store gives an entry the time at which it is asked. -/
theorem created_of_serve {move : Move} {now : DateTime} {u after : Store} {entry : Entry}
    (h : (StoreRequest.append move).serve client now u = some (.ok entry, after)) :
    entry.created = now := by
  by_cases hheld : u.holds client move.label = true <;>
    simp only [StoreRequest.serve, Store.append, hheld, if_true] at h
  · cases h
    rfl
  · cases h

/-- What is answered in the world of habits keeps them. -/
theorem keeps_of_answer?
    (h : s.answer? habits.world client habits.now = some (.said other exchange, s')) :
    exchange.Keeps habits := by
  unfold System.answer? at h
  split at h
  · next call request next htask =>
      obtain ⟨⟨answer, store⟩, hserve, heq⟩ := Option.map_eq_some_iff.1 h
      cases heq
      cases request with
      | append move =>
          cases answer with
          | ok entry => exact created_of_serve hserve
          | error refusal => trivial
      | _ => trivial
  · next call q next hstore htask =>
      cases h
      cases q with
      | store request => exact (hstore request next rfl HEq.rfl).elim
      | deliver delivery => rfl
      | fetch url => rfl
      | now => rfl
      | stopRequested => rfl
      | _ => trivial
  · cases h

/-- A client that is driven in the world of habits keeps them. -/
theorem Keeps.drive (h : Keeps habits story.past) (client : Client) (times : Nat) :
    Keeps habits (story.drive habits.world client habits.now times).past := by
  induction times generalizing story with
  | zero => exact h
  | succ times ih =>
      unfold Story.drive
      split
      · exact h
      · next happening after hanswer =>
          refine ih fun other exchange hin => ?_
          rcases List.mem_append.1 hin with hold | hnow
          · exact h other exchange hold
          · obtain rfl := List.mem_singleton.1 hnow
            exact keeps_of_answer? hanswer

theorem Keeps.call (h : Keeps habits story.past) (client : Client) (call : Call) :
    Keeps habits (story.call app client call).past := by
  intro other exchange hin
  rcases List.mem_append.1 hin with hold | hnow
  · exact h other exchange hold
  · cases List.mem_singleton.1 hnow

end Stories

namespace Postroom

def parcel : Label := ⟨"b", "letters"⟩

/-- Every webhook puts off what it gets. -/
def habits : Habits where
  now := now
  deliver _ _ := .retry
  fetch url := .error (.status url 404)

/-- An operation. -/
def errand (op : Operation) : Errand := ⟨.operation op, id, List.Perm.refl⟩

/-- Both are posted, the letter is taken back, and what is left is tried again. -/
def errands : List Errand :=
  [errand (.create letter (.obj [])), errand (.create parcel (.obj [])),
    errand (.delete letter),
    ⟨.batch "letters" "sent" .all, List.reverse, List.reverse_perm⟩]

/-- The parcel is posted first. -/
def others : List Errand :=
  [errand (.create parcel (.obj [])), errand (.create letter (.obj [])),
    errand (.delete letter), ⟨.batch "letters" "sent" .all, id, List.Perm.refl⟩]

/-- The letter and the parcel change places, and the batch takes its labels in another
order. -/
theorem rearranged : Rearranged errands others := by
  refine .trans (.swap fun label hboth => ?_) (.cons _ (.cons _ (.cons _ (.revisit rfl))))
  obtain ⟨hletter, hparcel⟩ := hboth
  exact absurd ((Option.some.inj hletter).trans (Option.some.inj hparcel).symm)
    (by decide)

/-- Both are posted at the same time. -/
def posted : Story :=
  let story := Story.call {} postroom (.worker 0) (.operation (.create letter (.obj [])))
  let story := story.call postroom (.worker 1) (.operation (.create parcel (.obj [])))
  let story := story.drive habits.world (.worker 0) now 5
  let story := story.drive habits.world (.worker 1) now 8
  let story := story.drive habits.world (.worker 0) now 20
  story.drive habits.world (.worker 1) now 20

theorem chronicle_posted :
    Chronicle postroom posted.moments posted.past posted.system := by
  have hletter :=
    @Chronicle.opening postroom (.worker 0) (.operation (.create letter (.obj [])))
  have hparcel := hletter.call (.worker 1) (.operation (.create parcel (.obj []))) rfl
  exact (((hparcel.drive _ _ _ _).drive _ _ _ _).drive _ _ _ _).drive _ _ _ _

theorem keeps_posted : Keeps habits posted.past := by
  have hempty : Keeps habits ({} : Story).past :=
    fun _ _ hin => (List.not_mem_nil hin).elim
  exact (((((hempty.call _ _).call _ _).drive _ _).drive _ _).drive _ _).drive _ _

end Postroom

open Postroom in
/-- The parcel gets another number when the letter is posted too, and goes the
same way. -/
theorem labels_independent_postroom : postroom.Built ∧ Rearranged errands others ∧
    ((habits.after postroom errands).history parcel).map (·.id) = [2] ∧
    ((habits.after postroom (kept parcel errands)).history parcel).map (·.id) = [1] ∧
    Store.SameOf parcel (habits.after postroom errands)
      (habits.after postroom (kept parcel errands)) ∧
    Store.SameOf parcel (habits.after postroom errands) (habits.after postroom others) ∧
    Chronicle postroom posted.moments posted.past posted.system ∧
    Keeps habits posted.past ∧
    (posted.system.store.history parcel).map (·.id) = [2] ∧
    ∃ moments' past' s', Extract postroom parcel posted.moments posted.past posted.system
      moments' past' s' ∧
      Keeps habits past' := by
  obtain ⟨hkept, hrearranged, hruns⟩ := labels_independent postroom_built habits parcel
  exact ⟨postroom_built, rearranged, by decide +kernel, by decide +kernel,
    (hkept errands).1, hrearranged errands others rearranged, chronicle_posted,
    keeps_posted, by decide +kernel, hruns _ _ _ chronicle_posted keeps_posted⟩

end Turnstile

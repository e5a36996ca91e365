import Turnstile.Proofs.Engine.Conversation
import Turnstile.Proofs.Engine.Faithful

/-!
# Chronicles

A run says what has happened and what has come of it.  Its chronicle also keeps the
system before and after each thing that happened, as a list of moments, so that one can
speak of what was committed, and of who held which lock, when something was said.

A lock is taken by asking for it, and is held until its transaction ends
(`Faithful.lock_taken`, `Faithful.lock_kept`); meanwhile nothing is committed for its
label (`Faithful.lock_guards`).  So whoever holds a lock has once been told the row that
is still committed (`Chronicle.locked`).

What a call says does not depend on who else is there, so what is true of every
transcript of its work is true of what is said with its client
(`Run.follows_transcript`).  A `Story` is a chronicle that is made by driving clients
one after the other.
-/

set_option autoImplicit false

namespace Turnstile

open Time (DateTime)

/-- One thing that happens in a run: what has happened before it, and the systems
around it. -/
structure Moment where
  past : List Happening
  before : System
  happening : Happening
  after : System

/-- The moments of a run, in their order. -/
inductive Chronicle (app : App) : List Moment → List Happening → System → Prop
  | empty : Chronicle app [] [] {}
  | step {moments : List Moment} {past : List Happening} {before after : System}
      {happening : Happening} (chronicle : Chronicle app moments past before)
      (hstep : System.Step app before happening after) :
      Chronicle app (moments ++ [⟨past, before, happening, after⟩])
        (past ++ [happening]) after

variable {app : App} {past : List Happening} {before after s : System}
  {happening : Happening}
variable {client : Client} {label : Label} {moments : List Moment}

/-- Every run has a chronicle. -/
theorem Run.chronicle (run : Run app past s) :
    ∃ moments, Chronicle app moments past s := by
  induction run with
  | empty => exact ⟨[], .empty⟩
  | step _ hstep ih =>
      obtain ⟨moments, chronicle⟩ := ih
      exact ⟨_, chronicle.step hstep⟩

/-- A chronicle is one of a run. -/
theorem Chronicle.run (chronicle : Chronicle app moments past s) : Run app past s := by
  induction chronicle with
  | empty => exact .empty
  | step _ hstep ih => exact ih.step hstep

theorem Chronicle.faithful (happ : app.Built) (chronicle : Chronicle app moments past s) :
    Faithful app past s := chronicle.run.faithful happ

/-- A step does to the store what a request does, or nothing. -/
theorem System.Step.served (hstep : System.Step app before happening after) :
    after.store = before.store ∨
      ∃ client request, Store.Served before.store client request after.store := by
  cases hstep with
  | call client call hnew => exact .inl rfl
  | @vanish client call rest htask => exact .inr ⟨client, .rollback, .rolledBack⟩
  | @say call r next answer store client now htask hanswer =>
      cases r with
      | store request => exact .inr ⟨client, request, Store.served hanswer⟩
      | _ => cases hanswer; exact .inl rfl

/-- **Up to a moment.**  What comes before a moment of a chronicle is the chronicle of
the system before it, and the moment is a step of that system. -/
theorem Chronicle.upTo {earlier later : List Moment} {m : Moment}
    (chronicle : Chronicle app (earlier ++ m :: later) past s) :
    Chronicle app earlier m.past m.before ∧ System.Step app m.before m.happening m.after ∧
      Chronicle app (earlier ++ [m]) (m.past ++ [m.happening]) m.after := by
  generalize hmoments : earlier ++ m :: later = moments at chronicle
  induction chronicle generalizing later with
  | empty => simp at hmoments
  | step chronicle hstep ih =>
      rcases later.eq_nil_or_concat with rfl | ⟨front, last, rfl⟩
      · obtain ⟨rfl, rfl⟩ := List.append_singleton_inj.1 hmoments
        exact ⟨chronicle, hstep, chronicle.step hstep⟩
      · rw [List.concat_eq_append, ← List.cons_append, ← List.append_assoc] at hmoments
        obtain ⟨hfront, -⟩ := List.append_singleton_inj.1 hmoments
        exact ih hfront

/-- At a moment of a chronicle the system is faithful, and takes a step. -/
theorem Chronicle.at_moment (happ : app.Built)
    (chronicle : Chronicle app moments past s) {m : Moment}
    (hm : m ∈ moments) :
    Faithful app m.past m.before ∧ System.Step app m.before m.happening m.after := by
  obtain ⟨earlier, later, rfl⟩ := List.append_of_mem hm
  obtain ⟨chronicleBefore, hstep, -⟩ := chronicle.upTo
  exact ⟨chronicleBefore.faithful happ, hstep⟩

/-- **From a moment on.**  What is so right after a moment, and is kept by every step
that follows, is so at the end of the chronicle. -/
theorem Chronicle.onward {P : List Moment → List Happening → System → Prop}
    {earlier since : List Moment} {m : Moment}
    (chronicle : Chronicle app (earlier ++ m :: since) past s)
    (hfirst : P [] (m.past ++ [m.happening]) m.after)
    (hnext : ∀ {since past before happening after},
      Chronicle app (earlier ++ m :: since) past before →
      System.Step app before happening after → P since past before →
      P (since ++ [⟨past, before, happening, after⟩]) (past ++ [happening]) after) :
    P since past s := by
  generalize hmoments : earlier ++ m :: since = moments at chronicle
  induction chronicle generalizing since with
  | empty => simp at hmoments
  | step chronicle hstep ih =>
      rcases since.eq_nil_or_concat with rfl | ⟨front, last, rfl⟩
      · obtain ⟨-, rfl⟩ := List.append_singleton_inj.1 hmoments
        exact hfirst
      · rw [List.concat_eq_append, ← List.cons_append, ← List.append_assoc] at hmoments
        obtain ⟨rfl, rfl⟩ := List.append_singleton_inj.1 hmoments
        rw [List.concat_eq_append]
        exact hnext chronicle hstep (ih rfl)

/-- A call that was made before a moment remains the same call. -/
theorem Chronicle.task_kept {earlier since : List Moment} {m : Moment} {call : Call}
    (chronicle : Chronicle app (earlier ++ m :: since) past s)
    (h : ∃ rest, m.before.tasks client = some ⟨call, rest⟩) :
    ∃ rest, s.tasks client = some ⟨call, rest⟩ :=
  chronicle.onward (P := fun _ _ s => ∃ rest, s.tasks client = some ⟨call, rest⟩)
    (chronicle.upTo.2.1.task_kept h) fun _ hstep hkept => hstep.task_kept hkept

/-! ## Locks -/

/-- A client works on a label: it holds the lock, and knows what lies on its desk. -/
structure Working (app : App) (past : List Happening) (s : System)
    (client : Client) (call : Call) (rest : Work (Except EngineError CallResult))
    (d : Desk) : Prop where
  task : s.tasks client = some ⟨call, some rest⟩
  shown : d.Shown s.store client
  heard : d.heard = heardOf client past
  follows : rest.Follows (protocol app call) (fun _ after => after.stance = .idle)
    ⟨commitsOf client past, .holding d⟩

/-- Whoever holds a lock works on its label. -/
theorem Faithful.working (h : Faithful app past s)
    (hheld : s.store.holds client label = true) :
    ∃ call rest d, d.label = label ∧ Working app past s client call rest d := by
  obtain ⟨t, ht, hlocked⟩ := Store.holds_iff.1 hheld
  cases htask : s.tasks client with
  | none => cases (h.uncalled htask).1.symm.trans ht
  | some task =>
      have hkeeps := h.called htask
      obtain ⟨call, rest⟩ := task
      cases rest with
      | none => cases hkeeps.symm.trans ht
      | some rest =>
          obtain ⟨⟨commits, stance⟩, rfl, hagrees, hheard, hfollows⟩ := hkeeps
          cases stance with
          | idle => cases hagrees.symm.trans ht
          | begun =>
              cases hagrees.symm.trans ht
              cases hlocked
          | holding d =>
              have hshown : d.Shown s.store client := hagrees
              exact ⟨call, rest, d, (hshown.holds_iff.1 hheld).symm, htask, hshown,
                hheard, hfollows⟩

/-- Whoever says something may say it, by what it knows. -/
theorem Faithful.asking {exchange : Exchange} (h : Faithful app past before)
    (hstep : System.Step app before (.said client exchange) after) :
    ∃ (call : Call) (v : View), v.May app call exchange.request ∧
      v.stance.Agrees before.store client ∧ v.stance.Heard (heardOf client past) := by
  cases hstep with
  | @say call _ _ _ _ _ now htask hanswer =>
      obtain ⟨v, -, hagrees, hheard, hmay, -⟩ := h.called htask
      exact ⟨call, v, hmay, hagrees, hheard⟩

/-- Whoever works on a label and says something may say it, by what lies on its desk. -/
theorem Working.may {call : Call} {rest : Work (Except EngineError CallResult)} {d : Desk}
    {exchange : Exchange} (h : Working app past before client call rest d)
    (hstep : System.Step app before (.said client exchange) after) :
    View.May app call ⟨commitsOf client past, .holding d⟩ exchange.request := by
  cases hstep with
  | say _ now htask hanswer =>
      cases h.task.symm.trans htask
      exact h.follows.1

/-- A lock of a client is one that it had, or one that it has just asked for; then it
was told the committed row. -/
theorem Faithful.lock_taken (h : Faithful app past before)
    (hstep : System.Step app before happening after)
    (hheld : after.store.holds client label = true) :
    before.store.holds client label = true ∨
      happening = .said client ⟨.store (.lock label), .ok (before.store.row? label)⟩ := by
  cases hstep with
  | call other call hnew => exact .inl hheld
  | @vanish other call rest htask =>
      have hserved :
          Store.Served before.store other .rollback (before.store.rollback other) :=
        .rolledBack
      by_cases hother : client = other
      · subst hother
        exact .inl ((hserved.holds_before hheld).resolve_right (by simp))
      · exact .inl (Store.holds_congr (hserved.transaction?_other hother) label ▸ hheld)
  | @say call r next answer store other now htask hanswer =>
      cases r with
      | store request =>
          have hserved := Store.served hanswer
          by_cases hother : client = other
          · subst hother
            by_cases hbefore : before.store.holds client label = true
            · exact .inl hbefore
            · obtain rfl := (hserved.holds_before hheld).resolve_left hbefore
              obtain ⟨v, -, hagrees, -, hfollows⟩ := h.called htask
              have hmay : v.May app call (.store (.lock label)) := hfollows.1
              obtain ⟨w, hreply, hafter, -⟩ :=
                answers hagrees h.sound h.lawful hmay hanswer
              have hrow : store.row? label = before.store.row? label := by
                rcases hserved.committed_or_same with ⟨hrequest, -⟩ | ⟨-, hrows, -⟩
                · cases hrequest
                · exact congrArg (findRow · label) hrows
              rcases hreply with ⟨-, row, known, -, rfl, rfl⟩ | ⟨d, hd, -, rfl⟩
              · have hshown : (Desk.mk label row known none [] []).Shown store client :=
                  hafter
                rw [← hrow, hshown.row]
                exact .inr rfl
              · rw [hd] at hagrees hafter
                exact absurd (hagrees.holds_iff.2 (hafter.holds_iff.1 hheld)) hbefore
          · exact .inl
              (Store.holds_congr (hserved.transaction?_other hother) label ▸ hheld)
      | _ => cases hanswer; exact .inl hheld

/-- A lock is held until its transaction ends. -/
theorem Faithful.lock_kept (h : Faithful app past before)
    (hstep : System.Step app before happening after)
    (hheld : before.store.holds client label = true) :
    after.store.holds client label = true ∨ happening.isCommitOf client = true ∨
      (∃ answer, happening = .said client ⟨.store .rollback, answer⟩) ∨
      happening = .vanished client := by
  cases hstep with
  | call other call hnew => exact .inl hheld
  | @vanish other call rest htask =>
      have hserved :
          Store.Served before.store other .rollback (before.store.rollback other) :=
        .rolledBack
      by_cases hother : client = other
      · exact .inr (.inr (.inr (congrArg _ hother.symm)))
      · exact .inl
          ((Store.holds_congr (hserved.transaction?_other hother) label).trans hheld)
  | @say call r next answer store other now htask hanswer =>
      cases r with
      | store request =>
          have hserved := Store.served hanswer
          by_cases hother : client = other
          · subst hother
            rcases hserved.holds_after hheld with hkept | rfl | rfl | rfl
            · exact .inl hkept
            · obtain ⟨_, _, d, -, hworking⟩ := h.working hheld
              cases hworking.may (.say client now htask hanswer)
            · exact .inr (.inl (by simp [Happening.isCommitOf]))
            · exact .inr (.inr (.inl ⟨answer, rfl⟩))
          · exact .inl
              ((Store.holds_congr (hserved.transaction?_other hother) label).trans hheld)
      | _ => cases hanswer; exact .inl hheld

/-- A commit gives up all locks of its client. -/
theorem System.Step.unlocked (hstep : System.Step app before happening after)
    (hcommit : happening.isCommitOf client = true) (label : Label) :
    after.store.holds client label = false := by
  cases hstep with
  | call other call hnew => cases hcommit
  | vanish htask => cases hcommit
  | @say call r next answer store other now htask hanswer =>
      unfold Happening.isCommitOf at hcommit
      split at hcommit
      · next heq =>
          cases heq
          obtain rfl : other = client := of_decide_eq_true hcommit
          cases hanswer
          change (before.store.commit other).holds other label = false
          simp [Store.holds]
      · cases hcommit

/-- **A lock guards its label**: until its client commits nothing is committed for it. -/
theorem Faithful.lock_guards (h : Faithful app past before)
    (hstep : System.Step app before happening after)
    (hheld : before.store.holds client label = true)
    (hcommit : happening.isCommitOf client = false) :
    after.store.row? label = before.store.row? label ∧
      after.store.history label = before.store.history label := by
  cases h.effect hstep with
  | none _ hsame => exact hsame label
  | @commit other call d answer after hcommitted =>
      refine hcommitted.other label fun hlabel => ?_
      have hshown := hcommitted.shown
      obtain ⟨t, ht, hlocked⟩ := Store.holds_iff.1 hheld
      obtain rfl : other = client :=
        h.sound.exclusive hshown.transaction ht (List.mem_singleton.2 hlabel) hlocked
      simp [Happening.isCommitOf] at hcommit

/-- **The row of a lock is the committed one.**  Whoever holds the lock of a label has
asked for it at a moment of the chronicle, has held it ever since, and was told then the
row that is still committed. -/
theorem Chronicle.locked (happ : app.Built) (chronicle : Chronicle app moments past s)
    (hheld : s.store.holds client label = true) :
    ∃ earlier start since, moments = earlier ++ start :: since ∧
      start.happening = .said client ⟨.store (.lock label), .ok (s.store.row? label)⟩ ∧
      start.before.store.row? label = s.store.row? label ∧
      (∀ m ∈ start :: since, m.after.store.holds client label = true ∧
        m.after.store.row? label = m.before.store.row? label ∧
        m.after.store.history label = m.before.store.history label) ∧
      ∀ m ∈ since, m.before.store.holds client label = true := by
  induction chronicle with
  | empty => cases hheld
  | @step moments past before after happening chronicle hstep ih =>
      have hfaithful := chronicle.faithful happ
      by_cases hbefore : before.store.holds client label = true
      · have hcommit : happening.isCommitOf client = false := by
          refine Bool.eq_false_iff.2 fun hcommit => ?_
          exact Bool.false_ne_true ((hstep.unlocked hcommit label).symm.trans hheld)
        obtain ⟨hrow, hpast⟩ := hfaithful.lock_guards hstep hbefore hcommit
        obtain ⟨earlier, start, since, rfl, hstart, hwas, hkept, hsince⟩ := ih hbefore
        refine ⟨earlier, start, since ++ [⟨past, before, happening, after⟩],
          by simp, hrow ▸ hstart, hwas.trans hrow.symm, ?_, ?_⟩
        · intro m hm
          rw [← List.cons_append] at hm
          rcases List.mem_append.1 hm with hold | hnow
          · exact hkept m hold
          · obtain rfl := List.mem_singleton.1 hnow
            exact ⟨hheld, hrow, hpast⟩
        · intro m hm
          rcases List.mem_append.1 hm with hold | hnow
          · exact hsince m hold
          · obtain rfl := List.mem_singleton.1 hnow
            exact hbefore
      · obtain rfl := (hfaithful.lock_taken hstep hheld).resolve_left hbefore
        have hsame : ∀ label, after.store.row? label = before.store.row? label ∧
            after.store.history label = before.store.history label := by
          cases hfaithful.effect hstep with
          | none _ hsame => exact hsame
        refine ⟨moments, ⟨past, before, _, after⟩, [], rfl, by rw [(hsame label).1],
          (hsame label).1.symm, ?_, by simp⟩
        intro m hm
        obtain rfl := List.mem_singleton.1 hm
        exact ⟨hheld, hsame label⟩

/-! ## Transcripts -/

/-- The protocol that lets a worker ask for anything, and remembers all that was said. -/
def transcript : Protocol (List Exchange) where
  may _ _ := True
  reply known r answer after := after = known ++ [⟨r, answer⟩]

/-- A transcript grows. -/
theorem Work.follows_transcript {α : Type} (work : Work α) (known : List Exchange) :
    work.Follows transcript (fun _ after => known <+: after) known := by
  induction work generalizing known with
  | done a => exact List.prefix_rfl
  | ask r next ih =>
      refine ⟨trivial, ?_⟩
      rintro answer after rfl
      exact (ih answer _).mono fun _ _ h => (List.prefix_append _ _).trans h

/-- Nothing was said with a client that has not called. -/
theorem Run.exchangesOf_uncalled (run : Run app past s) (htask : s.tasks client = none) :
    exchangesOf client past = [] := by
  induction run with
  | empty => rfl
  | @step past before after happening run hstep ih =>
      have hsilent : ∀ exchange, happening ≠ .said client exchange := by
        rintro exchange rfl
        cases hstep
        simp [System.assign] at htask
      rw [exchangesOf_unsaid hsilent]
      refine ih ?_
      cases hstep with
      | call other call hnew =>
          by_cases hother : client = other
          · exact hother ▸ hnew
          · simpa [System.assign, hother] using htask
      | say other now hwas hanswer =>
          by_cases hother : client = other
          · simp [System.assign, hother] at htask
          · simpa [System.assign, hother] using htask
      | @vanish other call rest hwas =>
          by_cases hother : client = other
          · simp [System.assign, hother] at htask
          · simpa [System.assign, hother] using htask

/-- **What is true of every transcript of a call is true of what is said with its
client.** -/
theorem Run.follows_transcript {call : Call} {rest : Work (Except EngineError CallResult)}
    {goal : Except EngineError CallResult → List Exchange → Prop} (run : Run app past s)
    (htask : s.tasks client = some ⟨call, some rest⟩)
    (h : (call.perform app).run.Follows transcript goal []) :
    rest.Follows transcript goal (exchangesOf client past) := by
  induction run generalizing rest with
  | empty => cases htask
  | @step past before after happening run hstep ih =>
      rcases hstep.work_cases htask with
        ⟨rfl, hnew, rfl⟩ | ⟨r, next, answer, rfl, hwas, rfl⟩ | ⟨hwas, hsilent⟩
      · rwa [exchangesOf_unsaid (by simp), run.exchangesOf_uncalled hnew]
      · rw [exchangesOf_said]
        exact (ih hwas).2 answer _ rfl
      · rw [exchangesOf_unsaid hsilent]
        exact ih hwas

/-- What is said with a client of a run is what its call says, also if the call
vanishes. -/
theorem Run.conversation {call : Call}
    {rest : Option (Work (Except EngineError CallResult))}
    (run : Run app past s) (htask : s.tasks client = some ⟨call, rest⟩) :
    ∃ left, (call.perform app).run.Leads (exchangesOf client past) left ∧
      ∀ work, rest = some work → work = left := by
  induction run generalizing rest with
  | empty => cases htask
  | @step past before after happening run hstep ih =>
      cases hstep with
      | call other made hnew =>
          rw [exchangesOf_unsaid (by simp)]
          by_cases hother : client = other
          · subst hother
            obtain ⟨rfl, rfl⟩ : made = call ∧ some (made.perform app).run = rest := by
              simpa [System.assign] using htask
            exact ⟨_, run.exchangesOf_uncalled hnew ▸ .here _,
              fun _ hwork => (Option.some.inj hwork).symm⟩
          · exact ih (by simpa [System.assign, hother] using htask)
      | @say made r next answer store other now hwas hanswer =>
          by_cases hother : client = other
          · subst hother
            obtain ⟨rfl, rfl⟩ : made = call ∧ some (next answer) = rest := by
              simpa [System.assign] using htask
            obtain ⟨left, hleads, hleft⟩ := ih hwas
            obtain rfl := hleft _ rfl
            rw [exchangesOf_said]
            exact ⟨_, hleads.trans (.said (.here _)),
              fun _ hwork => (Option.some.inj hwork).symm⟩
          · rw [exchangesOf_unsaid (by rintro exchange ⟨⟩; exact hother rfl)]
            exact ih (by simpa [System.assign, hother] using htask)
      | @vanish other made work hwas =>
          rw [exchangesOf_unsaid (by simp)]
          by_cases hother : client = other
          · subst hother
            obtain ⟨rfl, rfl⟩ : made = call ∧ none = rest := by
              simpa [System.assign] using htask
            obtain ⟨left, hleads, -⟩ := ih hwas
            exact ⟨left, hleads, by simp⟩
          · exact ih (by simpa [System.assign, hother] using htask)

/-- Whatever was said was said at a moment. -/
theorem Chronicle.exchange_at {front back : List Exchange} {exchange : Exchange}
    (chronicle : Chronicle app moments past s)
    (h : exchangesOf client past = front ++ exchange :: back) :
    ∃ earlier m later, moments = earlier ++ m :: later ∧
      m.happening = .said client exchange ∧ exchangesOf client m.past = front := by
  induction chronicle generalizing back with
  | empty => simp [exchangesOf] at h
  | @step moments past before after happening chronicle hstep ih =>
      have hold : ∀ back, exchangesOf client past = front ++ exchange :: back →
          ∃ earlier m later, moments ++ [⟨past, before, happening, after⟩] =
            earlier ++ m :: later ∧
            m.happening = .said client exchange ∧ exchangesOf client m.past = front := by
        intro back h
        obtain ⟨earlier, m, later, rfl, hm⟩ := ih h
        exact ⟨earlier, m, later ++ [⟨past, before, happening, after⟩], by simp, hm⟩
      by_cases hsaid : ∃ said, happening = .said client said
      · obtain ⟨said, rfl⟩ := hsaid
        rw [exchangesOf_said] at h
        rcases back.eq_nil_or_concat with rfl | ⟨more, last, rfl⟩
        · obtain ⟨hfront, rfl⟩ := List.append_singleton_inj.1 h
          exact ⟨moments, _, [], rfl, rfl, hfront⟩
        · rw [List.concat_eq_append, ← List.cons_append, ← List.append_assoc] at h
          exact hold more (List.append_singleton_inj.1 h).1
      · rw [exchangesOf_unsaid fun said h => hsaid ⟨said, h⟩] at h
        exact hold back h

/-! ## Driving clients -/

/-- What a client asks is answered at an instant: by the store, or else by a world. -/
def System.answer? (world : (r : Request) → r.Answer) (client : Client)
    (now : DateTime) (s : System) :
    Option (Happening × System) :=
  match s.tasks client with
  | some ⟨call, some (.ask (.store request) next)⟩ =>
    (request.serve client now s.store).map fun (answer, store) =>
      (.said client ⟨.store request, answer⟩,
        { s with store := store }.assign client ⟨call, some (next answer)⟩)
  | some ⟨call, some (.ask r next)⟩ =>
    some (.said client ⟨r, world r⟩, s.assign client ⟨call, some (next (world r))⟩)
  | _ => none

/-- A chronicle, with what has happened and the system at its end. -/
structure Story where
  moments : List Moment := []
  past : List Happening := []
  system : System := {}

/-- The story goes on by a step. -/
def Story.andThen (story : Story) (happening : Happening) (after : System) : Story :=
  ⟨story.moments ++ [⟨story.past, story.system, happening, after⟩],
    story.past ++ [happening], after⟩

/-- The story goes on by a call of a client. -/
def Story.call (story : Story) (app : App) (client : Client) (call : Call) : Story :=
  story.andThen (.called client call)
    (story.system.assign client ⟨call, some (call.perform app).run⟩)

/-- The story goes on by what one client asks, at most so often. -/
def Story.drive (world : (r : Request) → r.Answer) (client : Client) (now : DateTime) :
    Nat → Story → Story
  | 0, story => story
  | times + 1, story =>
    match story.system.answer? world client now with
    | none => story
    | some (happening, after) =>
        (story.andThen happening after).drive world client now times

/-- A world in which every webhook accepts, every feed is empty, and nobody asks for an
end. -/
def agreeable (now : DateTime) : (r : Request) → r.Answer
  | .store _ => .error (.backend "asked of the world")
  | .deliver _ => .success
  | .fetch _ => .ok (.obj [])
  | .notify _ => ()
  | .log _ => ()
  | .now => now
  | .stopRequested => false
  | .nextTick => false

/-- What is answered is said. -/
theorem System.step_of_answer? {world : (r : Request) → r.Answer} {now : DateTime}
    (h : s.answer? world client now = some (happening, after)) :
    System.Step app s happening after := by
  unfold System.answer? at h
  split at h
  · next call request next htask =>
      obtain ⟨⟨answer, store⟩, hserve, heq⟩ := Option.map_eq_some_iff.1 h
      cases heq
      exact .say client now htask hserve
  · next call r next hstore htask =>
      cases h
      refine .say client now htask ?_
      cases r with
      | store request => exact (hstore request next rfl HEq.rfl).elim
      | _ => rfl
  · cases h

/-- Who asks is answered, unless the store lets it wait. -/
theorem System.answered {call : Call} {r : Request}
    {next : r.Answer → Work (Except EngineError CallResult)}
    (htask : s.tasks client = some ⟨call, some (.ask r next)⟩)
    (world : (r : Request) → r.Answer) (now : DateTime)
    (hserved : ∀ request, r = .store request →
      ∃ served, request.serve client now s.store = some served) :
    ∃ answer after, r.Answered client now s.store answer after ∧
      s.answer? world client now = some (.said client ⟨r, answer⟩,
        { s with store := after }.assign client ⟨call, some (next answer)⟩) := by
  cases r with
  | store request =>
      obtain ⟨⟨answer, after⟩, hserve⟩ := hserved request rfl
      exact ⟨answer, after, hserve, by simp [System.answer?, htask, hserve]⟩
  | _ => exact ⟨world _, s.store, rfl, by simp only [System.answer?, htask]⟩

/-- Answers are given to the client that asks. -/
theorem System.said_of_answer? {world : (r : Request) → r.Answer} {now : DateTime}
    (h : s.answer? world client now = some (happening, after)) :
    ∃ exchange, happening = .said client exchange := by
  unfold System.answer? at h
  split at h
  · obtain ⟨_, -, heq⟩ := Option.map_eq_some_iff.1 h
    cases heq
    exact ⟨_, rfl⟩
  · cases h
    exact ⟨_, rfl⟩
  · cases h

section Stories

variable {story : Story}

/-- A new client may call. -/
theorem Chronicle.call (chronicle : Chronicle app story.moments story.past story.system)
    (client : Client) (call : Call) (hnew : story.system.tasks client = none) :
    Chronicle app (story.call app client call).moments (story.call app client call).past
      (story.call app client call).system :=
  chronicle.step (.call client call hnew)

/-- A story may open with a call. -/
theorem Chronicle.opening (client : Client) (call : Call) :
    Chronicle app (Story.call {} app client call).moments
      (Story.call {} app client call).past
      (Story.call {} app client call).system :=
  have hempty :
      Chronicle app ({} : Story).moments ({} : Story).past ({} : Story).system := .empty
  hempty.call client call rfl

/-- A client may be driven on. -/
theorem Chronicle.drive (chronicle : Chronicle app story.moments story.past story.system)
    (world : (r : Request) → r.Answer) (client : Client) (now : DateTime) (times : Nat) :
    Chronicle app (story.drive world client now times).moments
      (story.drive world client now times).past
        (story.drive world client now times).system := by
  induction times generalizing story with
  | zero => exact chronicle
  | succ times ih =>
      unfold Story.drive
      split
      · exact chronicle
      · next happening after hanswer =>
          exact ih (chronicle.step (System.step_of_answer? hanswer))

/-- While a client is driven nothing happens but what it says. -/
theorem Story.drive_moments (world : (r : Request) → r.Answer) (client : Client)
    (now : DateTime) (times : Nat) :
    ∃ during, (story.drive world client now times).moments = story.moments ++ during ∧
      ∀ m ∈ during, ∃ exchange, m.happening = .said client exchange := by
  induction times generalizing story with
  | zero => exact ⟨[], by simp [Story.drive], by simp⟩
  | succ times ih =>
      unfold Story.drive
      split
      · exact ⟨[], by simp, by simp⟩
      · next happening after hanswer =>
          obtain ⟨during, hmoments, hduring⟩ := @ih (story.andThen happening after)
          refine ⟨⟨story.past, story.system, happening, after⟩ :: during, ?_, ?_⟩
          · rw [hmoments, Story.andThen, List.append_assoc]
            rfl
          · exact List.forall_mem_cons.2 ⟨System.said_of_answer? hanswer, hduring⟩

/-- Answers to a client take no lock from it that it could have. -/
theorem Request.Answered.free {r : Request} {answer : r.Answer}
    {now : DateTime} {store : Store} (h : r.Answered client now s.store answer store)
    (hsound : s.store.Sound) :
    store.Sound ∧ ∀ label, s.store.isTaken client label = false →
    store.isTaken client label = false := by
  cases r with
  | store request =>
      have hserved := Store.served h
      exact ⟨hsound.served hserved, fun label => hserved.free hsound⟩
  | _ => cases h; exact ⟨hsound, fun _ => id⟩

/-- **Driven to the end.**  A client that is driven on ends, if something is so of the
system that remains so whatever the client is answered, and the store lets nobody wait
meanwhile. -/
theorem Story.drive_ends {P : System → Prop} {call : Call}
    {work : Work (Except EngineError CallResult)}
    (world : (r : Request) → r.Answer) (now : DateTime)
    (hserved : ∀ (s : System) (request : StoreRequest) next, P s →
      s.tasks client = some ⟨call, some (.ask (.store request) next)⟩ →
      ∃ served, request.serve client now s.store = some served)
    (hkept : ∀ (s : System) (r : Request) next (answer : r.Answer) after, P s →
      s.tasks client = some ⟨call, some (.ask r next)⟩ →
      r.Answered client now s.store answer after →
      P ({ s with store := after }.assign client ⟨call, some (next answer)⟩))
    (htask : story.system.tasks client = some ⟨call, some work⟩)
    (hstory : P story.system) :
    ∃ times result, P (story.drive world client now times).system ∧
      (story.drive world client now times).system.tasks client =
        some ⟨call, some (.done result)⟩ := by
  induction work generalizing story with
  | done result => exact ⟨0, result, hstory, htask⟩
  | ask r next ih =>
      obtain ⟨answer, after, hanswer, hdriven⟩ :=
        System.answered htask world now fun request hr => by
          subst hr; exact hserved _ request next hstory htask
      obtain ⟨times, result, hends⟩ :=
        @ih answer (story.andThen (.said client ⟨r, answer⟩) _)
          (by simp [Story.andThen]) (hkept _ r next answer after hstory htask hanswer)
      refine ⟨times + 1, result, ?_⟩
      rw [Story.drive, hdriven]
      exact hends

end Stories

end Turnstile

import Turnstile.Proofs.Engine.Moves
import Turnstile.Proofs.Engine.Solitary
import Turnstile.Proofs.Store.Listings

/-!
# Deletion is final

A label that is deleted has ended.  Nothing is ever committed for it again, because
whoever works on it holds its lock and has been told the row (`Desk.Deed.after_end`); so
its row and its history stay as they are (`Faithful.ended_kept`), and it is in no list
(`Run.unlisted`).  Nothing is delivered or fetched for it, for that is done for live
labels only (`Chronicle.unasked`).

An operation that comes after the end of its label is told so, once its own arguments
are in order (`Operation.Belated`).  The contract `ended` says what such an operation
asks and what it is answered: `ended_perform` follows the operations through it, and
`Late` carries it through a run, where the others go on.  A belated operation stages
nothing, and it ends if it is not kept waiting for the lock (`Late.ends`).
-/

set_option autoImplicit false

namespace Turnstile

open Time (DateTime)

/-! ## What is to be shown -/

/-- What an operation ends with that comes after the end of its label.  It is told first
what is wrong with its own arguments. -/
inductive Operation.Belated (app : App) :
    Operation → Except EngineError OperationResult → Prop
  | created {label : Label} {metadata : Value} (hobject : metadata.isObject = true) :
      Belated app (.create label metadata) (.error (.labelExists label))
  | misdescribed {label : Label} {metadata : Value}
      (hobject : metadata.isObject = false) :
      Belated app (.create label metadata) (.error (.invalidMetadata label))
  | updated {label : Label} {patch : Value} (hobject : patch.isObject = true) :
      Belated app (.update label patch) (.error (.deletedLabel label))
  | mispatched {label : Label} {patch : Value} (hobject : patch.isObject = false) :
      Belated app (.update label patch) (.error (.invalidMetadata label))
  | deleted {label : Label} : Belated app (.delete label) (.ok .nothing)
  | forced {m : Machine} {label : Label} {state : String}
      (hmachine : app.machine label.machine = .ok m)
      (hstate : (m.state? state).isSome) :
        Belated app (.force label state) (.error (.deletedLabel label))
  | misdirected {m : Machine} {label : Label} {state : String}
      (hmachine : app.machine label.machine = .ok m) (hstate : m.state? state = none) :
      Belated app (.force label state) (.error (.unknownState label.machine state))
  | metadata {label : Label} :
      Belated app (.metadata label) (.error (.deletedLabel label))
  | state {label : Label} : Belated app (.state label) (.error (.deletedLabel label))
  | drained {label : Label} :
      Belated app (.drain label) (.ok (.drained ⟨0, app.settings.maxTransitions == 0⟩))

/-- After a moment the row of a label says that it was deleted, and nothing more;
neither the row nor the history of the label is changed again. -/
def RowFinal (label : Label) (m : Moment) (since : List Moment) : Prop :=
  ∃ processed, ∀ later ∈ m :: since,
    later.after.store.row? label = some ⟨label, .obj [], true, processed⟩ ∧
      later.after.store.history label = m.after.store.history label

/-- Whatever is delivered or fetched is for another label. -/
def Unasked (app : App) (label : Label) (since : List Moment) : Prop :=
  ∀ m ∈ since,
    (∀ client delivery answer, m.happening = .said client ⟨.deliver delivery, answer⟩ →
      ∃ other machine action row entry, other ≠ label ∧
        m.Delivers app client other machine action row entry answer) ∧
    ∀ client url answer, m.happening = .said client ⟨.fetch url, answer⟩ →
      ∃ other machine gate row entry feed, other ≠ label ∧
        m.WorksOn app client other machine (.gate gate) row entry ∧ feed ∈ machine.feeds ∧
        url = feed.urlFor other

/-- The label is in no list. -/
def Unlisted (label : Label) (moments : List Moment) : Prop :=
  ∀ m ∈ moments,
    (∀ machine state,
      ∀ row ∈ m.after.store.rowsInState machine state, row.label ≠ label) ∧
      label.name ∉ m.after.store.liveNames label.machine

/-- An operation on the label that is called for after a moment writes nothing, ends as
it should, and does end when it goes on and nobody else holds the lock of the label. -/
def Belated (app : App) (label : Label) (since : List Moment) (s : System) : Prop :=
  ∀ client op, op.label? = some label → op ≠ .history label →
    (∀ before start rest, since = before ++ start :: rest →
      start.happening = .called client (.operation op) →
      (∀ later ∈ rest, ∀ exchange, later.happening = .said client exchange →
        later.before.store.Unchanged later.after.store) ∧
      ∀ result, s.tasks client = some ⟨.operation op, some (.done result)⟩ →
        ∃ answer, op.Belated app answer ∧ result = answer.map .operation) ∧
    (s.tasks client = none → s.store.isTaken client label = false →
      ∀ world now story, Story.system story = s → ∃ times answer, op.Belated app answer ∧
        ((story.call app client (.operation op)).drive world client now
          times).system.tasks client =
          some ⟨.operation op, some (.done (answer.map .operation))⟩)

/-! ## Work on a label that has ended -/

/-- The contract of an operation on a label that has ended: it looks at the label, and
stages nothing. -/
def ended (label : Label) (row : Record) : Protocol Unit where
  may _
    | .store .begin => True
    | .store (.lock other) => other = label
    | .store (.row other) => other = label
    | .store .commit => True
    | .store .rollback => True
    | .log _ => True
    | _ => False
  reply _ r answer _ := match r, answer with
    | .store .begin, answer => answer = .ok ()
    | .store (.lock _), answer => answer = .ok (some row)
    | .store (.row _), answer => answer = .ok (some row)
    | .store .commit, answer => answer = .ok ()
    | .store .rollback, answer => answer = .ok ()
    | _, _ => True

/-- On a label that has ended the attempt ends with this result. -/
def Attempt.EndsWith {α : Type} (label : Label) (row : Record) (attempt : Attempt α)
    (result : Except EngineError α) : Prop :=
  attempt.Follows (ended label row) (fun found _ => found = result) ()

variable {app : App} {m : Machine} {label : Label} {row : Record} {α β : Type}
variable {result : Except EngineError α} {error : EngineError}

/-- An attempt ends as its rest does, once its first part succeeds. -/
theorem Attempt.EndsWith.ok_bind {first : Attempt β} {next : β → Attempt α} {b : β}
    (h : first.EndsWith label row (.ok b)) (hnext : (next b).EndsWith label row result) :
    (first >>= next).EndsWith label row result :=
  Attempt.follows_bind.2 (h.mono fun _ _ hfound => hfound ▸ hnext)

/-- An attempt ends with the first error. -/
theorem Attempt.EndsWith.error_bind {first : Attempt β} {next : β → Attempt α}
    (h : first.EndsWith label row (.error error)) :
    (first >>= next).EndsWith label row (.error error) :=
  Attempt.follows_bind.2 (h.mono fun _ _ hfound => hfound ▸ rfl)

theorem ended_ofExcept {ε : Type} {wrap : ε → EngineError} {result : Except ε α} :
    (Attempt.ofExcept wrap result).EndsWith label row (result.mapError wrap) := rfl

/-- The deleted row is what a lock finds. -/
theorem ended_lockRow : (lockRow label).EndsWith label row (.ok (some row)) := by
  refine Attempt.follows_ofStore.2 ⟨rfl, ?_⟩
  rintro answer _ rfl
  rfl

/-- It is also what a reader finds. -/
theorem ended_readRow : (readRow label).EndsWith label row (.ok (some row)) := by
  refine Attempt.follows_ofStore.2 ⟨rfl, ?_⟩
  rintro answer _ rfl
  rfl

/-- A transaction ends with what ends within it. -/
theorem ended_inTransaction {attempt : Attempt α}
    (h : attempt.EndsWith label row result) :
    (inTransaction attempt).EndsWith label row result := by
  change (Work.request (.store .begin) >>= _).Follows _ _ _
  rw [Work.follows_bind, Work.follows_request]
  refine ⟨trivial, ?_⟩
  rintro answer _ rfl
  rw [Work.follows_bind]
  refine Work.Follows.mono h ?_
  rintro found _ rfl
  cases found with
  | ok a =>
      rw [settle, Work.follows_bind, Work.follows_request]
      refine ⟨trivial, ?_⟩
      rintro answer _ rfl
      rfl
  | error error =>
      rw [settle, Work.follows_bind, Work.follows_request]
      refine ⟨trivial, ?_⟩
      rintro answer _ rfl
      rfl

section Operations

variable (hdeleted : row.deleted = true) (hmachine : app.machine label.machine = .ok m)
include hdeleted

/-- For want of a live row a lock ends in an error. -/
theorem ended_lockLive :
    (lockLive label).EndsWith label row (.error (.deletedLabel label)) := by
  refine ended_lockRow.ok_bind ?_
  simp only [hdeleted, if_true]
  rfl

/-- Readers of live rows end in the same error. -/
theorem ended_readLive :
    (readLive label).EndsWith label row (.error (.deletedLabel label)) := by
  refine ended_readRow.ok_bind ?_
  simp only [hdeleted, if_true]
  rfl

/-- A second deletion stages nothing, and succeeds. -/
theorem ended_stageDeletion : (stageDeletion label).EndsWith label row (.ok ()) := by
  refine ended_lockRow.ok_bind ?_
  simp only [hdeleted, if_true]
  rfl

include hmachine

/-- A label that has ended makes no steps. -/
theorem ended_drain :
    (drain app label).EndsWith label row (.ok ⟨0, app.settings.maxTransitions == 0⟩) := by
  unfold drain
  rw [hmachine]
  refine ended_ofExcept.ok_bind ?_
  cases hlimit : app.settings.maxTransitions with
  | zero => exact ⟨trivial, fun _ _ _ => rfl⟩
  | succ remaining =>
      change ((inTransaction (stepCurrent app m label)).run >>= _).Follows _ _ _
      rw [Work.follows_bind]
      refine Work.Follows.mono
        (ended_inTransaction (ended_lockLive hdeleted).error_bind) ?_
      rintro found _ rfl
      simp

omit hdeleted in
/-- Creations find the label taken, if their metadata is an object. -/
theorem ended_createLabel (happ : app.Built) (metadata : Value) :
    (createLabel app label metadata).EndsWith label row
      (.error (if metadata.isObject then .labelExists label
        else .invalidMetadata label)) := by
  unfold createLabel
  rw [hmachine]
  refine ended_ofExcept.ok_bind ?_
  cases metadata.isObject with
  | false => exact rfl
  | true =>
      obtain ⟨first, hfirst⟩ : ∃ first, m.firstState = .ok first := by
        obtain ⟨first, rest, hstates⟩ :=
          List.exists_cons_of_ne_nil (happ.machine hmachine).1.states_ne_nil
        exact ⟨first, by simp [Machine.firstState, Machine.initial?, hstates]⟩
      rw [hfirst]
      refine ended_ofExcept.ok_bind ?_
      have hstaged : (stageCreation label metadata first.name).EndsWith label row
          (.error (.labelExists label)) := ended_lockRow.ok_bind rfl
      exact (ended_inTransaction hstaged).error_bind

/-- Updates find the label deleted, if their patch is an object. -/
theorem ended_updateLabel (patch : Value) :
    (updateLabel app label patch).EndsWith label row
      (.error (if patch.isObject then .deletedLabel label
        else .invalidMetadata label)) := by
  unfold updateLabel
  rw [hmachine]
  refine ended_ofExcept.ok_bind ?_
  cases patch.isObject with
  | false => exact rfl
  | true => exact (ended_inTransaction (ended_lockLive hdeleted).error_bind).error_bind

/-- A second deletion succeeds. -/
theorem ended_deleteLabel : (deleteLabel app label).EndsWith label row (.ok ()) := by
  unfold deleteLabel
  rw [hmachine]
  exact ended_ofExcept.ok_bind (ended_inTransaction (ended_stageDeletion hdeleted))

/-- Demands find the label deleted, if the machine has the state. -/
theorem ended_forceLabel (happ : app.Built) (state : String) :
    (forceLabel app label state).EndsWith label row (.error
      (if (m.state? state).isSome then .deletedLabel label
        else .unknownState label.machine state)) := by
  unfold forceLabel
  rw [hmachine]
  refine ended_ofExcept.ok_bind ?_
  unfold Machine.stateNamed
  cases m.state? state with
  | none => exact (happ.machine hmachine).2 ▸ ended_ofExcept.error_bind
  | some known =>
      refine ended_ofExcept.ok_bind ?_
      exact (ended_inTransaction (ended_lockLive hdeleted).error_bind).error_bind

/-- Metadata is not told of deleted labels. -/
theorem ended_labelMetadata :
    (labelMetadata app label).EndsWith label row (.error (.deletedLabel label)) := by
  unfold labelMetadata
  rw [hmachine]
  exact ended_ofExcept.ok_bind (ended_readLive hdeleted).error_bind

/-- Neither is the state. -/
theorem ended_labelState :
    (labelState app label).EndsWith label row (.error (.deletedLabel label)) := by
  unfold labelState
  rw [hmachine]
  exact ended_ofExcept.ok_bind (ended_readLive hdeleted).error_bind

/-- **Belated operations.**  An operation on a label that has ended ends as it should,
and stages nothing. -/
theorem ended_perform (happ : app.Built) {op : Operation}
    (hlabel : op.label? = some label) (hhistory : op ≠ .history label) :
    ∃ answer, op.Belated app answer ∧ (op.perform app).EndsWith label row answer := by
  cases op with
  | create other metadata =>
      cases hlabel
      have h : (createLabel app label metadata).EndsWith label row _ :=
        ended_createLabel hmachine happ metadata
      cases hobject : metadata.isObject with
      | true => exact ⟨_, .created hobject, (hobject ▸ h).error_bind⟩
      | false => exact ⟨_, .misdescribed hobject, (hobject ▸ h).error_bind⟩
  | update other patch =>
      cases hlabel
      have h := ended_updateLabel hdeleted hmachine patch
      cases hobject : patch.isObject with
      | true => exact ⟨_, .updated hobject, (hobject ▸ h).error_bind⟩
      | false => exact ⟨_, .mispatched hobject, (hobject ▸ h).error_bind⟩
  | delete other =>
      cases hlabel
      exact ⟨_, .deleted, (ended_deleteLabel hdeleted hmachine).ok_bind rfl⟩
  | force other state =>
      cases hlabel
      have h := ended_forceLabel hdeleted hmachine happ state
      cases hstate : m.state? state with
      | none => exact ⟨_, .misdirected hmachine hstate, (hstate ▸ h).error_bind⟩
      | some known =>
          exact ⟨_, .forced hmachine (by simp [hstate]), (hstate ▸ h).error_bind⟩
  | metadata other =>
      cases hlabel
      exact ⟨_, .metadata, (ended_labelMetadata hdeleted hmachine).error_bind⟩
  | state other =>
      cases hlabel
      exact ⟨_, .state, (ended_labelState hdeleted hmachine).error_bind⟩
  | history other =>
      exact absurd (congrArg Operation.history (Option.some.inj hlabel)) hhistory
  | drain other =>
      cases hlabel
      exact ⟨_, .drained, (ended_drain hdeleted hmachine).ok_bind rfl⟩
  | list machine => cases hlabel

end Operations

/-! ## Rows of labels that have ended -/

variable {past : List Happening} {before after s : System} {happening : Happening}
  {client : Client}

section Deeds

variable {d : Desk} {creation patch : Option Value}

/-- Nothing is staged for a label that has ended. -/
theorem Desk.Deed.after_end (hdeed : d.Deed app creation patch) (hrow : d.row = some row)
    (hdeleted : row.deleted = true) : d.rowAfter = d.row ∧ d.pastAfter = d.past := by
  have hdead : ∀ {row' : Record}, ¬ d.Live row' := by
    rintro row' ⟨hrow', hlive⟩
    cases hrow.symm.trans hrow'
    cases hdeleted.symm.trans hlive
  have hkept : d.saved = none → d.added = [] →
      d.rowAfter = d.row ∧ d.pastAfter = d.past := by
    intro hsaved hadded
    simp [Desk.rowAfter, Desk.pastAfter, hsaved, hadded]
  cases hdeed with
  | created hcreated => cases hcreated.unborn.symm.trans hrow
  | updated hupdated =>
      obtain ⟨_, _, -, hlive, -⟩ := hupdated.saved
      exact absurd hlive hdead
  | deleted hdeleted =>
      cases hdeleted with
      | before _ _ hsaved hadded => exact hkept hsaved hadded
      | now _ hlive => exact absurd hlive hdead
  | demanded hdemanded =>
      obtain ⟨_, hlive⟩ := hdemanded.live
      exact absurd hlive hdead
  | stepped hstep =>
      cases hstep with
      | stayed _ _ hsaved hadded => exact hkept hsaved hadded
      | looked hat => exact absurd hat.live hdead
      | passed hat => exact absurd hat.live hdead
      | accepted hat => exact absurd hat.live hdead

/-- The row of a label that has ended by a deed has no metadata. -/
theorem Desk.Deed.cleared (hdeed : d.Deed app creation patch)
    (hbefore : ∀ row, d.row = some row → row.deleted = true → row.metadata = .obj [])
    (hrow : d.rowAfter = some row) (hdeleted : row.deleted = true) :
    row.metadata = .obj [] := by
  have hlive : ∀ {row' : Record}, d.rowAfter = some row' → row'.deleted = false →
      row.metadata = .obj [] := by
    intro row' hrow' hlive
    cases hrow.symm.trans hrow'
    cases hdeleted.symm.trans hlive
  have hkept : d.saved = none → row.metadata = .obj [] := by
    intro hsaved
    refine hbefore row ?_ hdeleted
    simpa [Desk.rowAfter, hsaved] using hrow
  have hsaid : ∀ {row' : Record}, d.saved = some row' → d.rowAfter = some row' := by
    intro row' hsaved
    simp [Desk.rowAfter, hsaved]
  cases hdeed with
  | created hcreated => exact hlive (hsaid hcreated.saved) rfl
  | updated hupdated =>
      obtain ⟨_, _, -, halive, hsaved⟩ := hupdated.saved
      exact hlive (hsaid hsaved) halive.2
  | deleted hdeleted =>
      cases hdeleted with
      | before _ _ hsaved => exact hkept hsaved
      | now _ _ hsaved =>
          cases hrow.symm.trans (hsaid hsaved)
          rfl
  | demanded hdemanded => exact hkept hdemanded.saved
  | stepped hstep =>
      cases hstep with
      | stayed _ _ hsaved => exact hkept hsaved
      | looked hat hsaved => exact hlive (Desk.rowAfter_marked hat.live hsaved) hat.live.2
      | passed hat hsaved => exact hlive (Desk.rowAfter_marked hat.live hsaved) hat.live.2
      | accepted hat _ hsaved => exact hkept hsaved

end Deeds

/-- **Step.**  What happens does not change the row or the history of a label that has
ended. -/
theorem Faithful.ended_kept (h : Faithful app past before)
    (hstep : System.Step app before happening after)
    (hrow : before.store.row? label = some row) (hdeleted : row.deleted = true) :
    after.store.row? label = some row ∧
    after.store.history label = before.store.history label := by
  cases h.effect hstep with
  | none _ hsame => exact ⟨(hsame label).1.trans hrow, (hsame label).2⟩
  | @commit client call d _ _ hcommitted =>
      by_cases hlabel : label = d.label
      · subst hlabel
        have hshown := hcommitted.shown
        obtain ⟨hrowAfter, hpastAfter⟩ :=
          hcommitted.deed.onDesk.after_end (hshown.row.symm.trans hrow) hdeleted
        rw [hcommitted.row, hcommitted.entries, hrowAfter, hpastAfter, hshown.past,
          ← hshown.row, hrow]
        exact ⟨rfl, rfl⟩
      · obtain ⟨hrowOther, hpastOther⟩ := hcommitted.other label hlabel
        exact ⟨hrowOther.trans hrow, hpastOther⟩

/-- In every run the row of a label that has ended has no metadata. -/
theorem Run.cleared (happ : app.Built) (run : Run app past s)
    (hrow : s.store.row? label = some row) (hdeleted : row.deleted = true) :
    row.metadata = .obj [] := by
  induction run generalizing row with
  | empty => cases hrow
  | @step past before after happening run hstep ih =>
      cases (run.faithful happ).effect hstep with
      | none _ hsame => exact ih ((hsame label).1.symm.trans hrow) hdeleted
      | @commit client call d _ _ hcommitted =>
          by_cases hlabel : label = d.label
          · subst hlabel
            refine hcommitted.deed.onDesk.cleared (fun old hold => ?_)
              (hcommitted.row.symm.trans hrow) hdeleted
            exact ih (hcommitted.shown.row.trans hold)
          · exact ih ((hcommitted.other label hlabel).1.symm.trans hrow) hdeleted

/-- A store of a run keeps one row for each label. -/
theorem Run.rows_nodup (run : Run app past s) : (s.store.rows.map (·.label)).Nodup := by
  induction run with
  | empty => exact List.nodup_nil
  | step run hstep ih =>
      rcases hstep.served with hsame | ⟨_, _, hserved⟩
      · exact hsame ▸ ih
      · exact hserved.rows_nodup ih

/-- A label that has ended is in no list. -/
theorem Run.unlisted (run : Run app past s) (hrow : s.store.row? label = some row)
    (hdeleted : row.deleted = true) :
    (∀ machine state,
      ∀ listed ∈ s.store.rowsInState machine state, listed.label ≠ label) ∧
      label.name ∉ s.store.liveNames label.machine := by
  have honce := run.rows_nodup
  constructor
  · rintro machine state listed hlisted rfl
    obtain ⟨hfound, -, hlive, -⟩ := (Store.mem_rowsInState honce).1 hlisted
    cases hrow.symm.trans hfound
    cases hdeleted.symm.trans hlive
  · intro hlisted
    obtain ⟨listed, hfound, hlive⟩ := (Store.mem_liveNames honce).1 hlisted
    cases hrow.symm.trans hfound
    cases hdeleted.symm.trans hlive

/-! ## Belated calls -/

/-- A client has staged nothing. -/
def Store.Clean (s : Store) (client : Client) : Prop :=
  ∀ t, s.transaction? client = some t → t.rows = [] ∧ t.entries = []

/-- What a client sees that has staged nothing is what is committed. -/
theorem Store.Clean.ownRow? {s : Store} (h : s.Clean client) (label : Label) :
    s.ownRow? client label = s.row? label := by
  unfold Store.ownRow?
  cases ht : s.transaction? client with
  | none => rfl
  | some t => simp [(h t ht).1, findRow]

/-- As long as a client stages nothing, nothing comes of what it asks. -/
theorem Store.Served.clean {s after : Store} {request : StoreRequest}
    (h : Served s client request after) (hclean : s.Clean client)
    (hsave : ∀ row, request ≠ .save row) (happend : ∀ move, request ≠ .append move) :
    after.Clean client ∧ s.Unchanged after := by
  cases h with
  | same => exact ⟨hclean, .refl s⟩
  | begun =>
      refine ⟨fun t ht => ?_, ⟨rfl, rfl⟩⟩
      rw [Store.transaction?_begin, if_pos rfl] at ht
      cases ht
      exact ⟨rfl, rfl⟩
  | committed =>
      refine ⟨fun t ht => by simp at ht, ?_⟩
      unfold Store.commit
      split
      · exact .refl s
      · next t ht =>
          obtain ⟨hrows, hentries⟩ := hclean t ht
          exact ⟨by simp [hrows, putRows], by simp [hentries]⟩
  | rolledBack => exact ⟨fun t ht => by simp at ht, ⟨rfl, rfl⟩⟩
  | @locked label hfree =>
      have hclient : ∀ t, (Store.taking label t).client = t.client := fun _ => rfl
      refine ⟨fun t ht => ?_, ⟨rfl, rfl⟩⟩
      rcases Store.transaction?_of_update hclient ht with ⟨-, u, hu, rfl⟩ | ⟨hother, -⟩
      · exact hclean u hu
      · exact absurd rfl hother
  | @saved row => exact absurd rfl (hsave row)
  | @appended move => exact absurd rfl (happend move)

/-- **The store answers an operation on a label that has ended as the contract says**,
and nothing comes of it. -/
theorem ended_answered {s after : Store} {now : DateTime} {r : Request}
    {answer : r.Answer} (hmay : (ended label row).may () r)
    (hanswer : r.Answered client now s answer after)
    (hclean : s.Clean client) (hrow : s.row? label = some row) :
    (ended label row).reply () r answer () ∧ after.Clean client ∧ s.Unchanged after := by
  cases r with
  | store request =>
      have hserved : s.Served client request after := Store.served hanswer
      cases request with
      | begin =>
          cases hanswer
          exact ⟨rfl, hserved.clean hclean (by simp) (by simp)⟩
      | lock other =>
          obtain rfl : other = label := hmay
          obtain ⟨hafter, hsame⟩ := hserved.clean hclean (by simp) (by simp)
          refine ⟨?_, hafter, hsame⟩
          obtain ⟨⟨found, s'⟩, hlock, heq⟩ := Option.map_eq_some_iff.1 hanswer
          cases heq
          unfold Store.lock? at hlock
          split at hlock
          · cases hlock
          · obtain ⟨rfl, rfl⟩ := Prod.mk.inj (Option.some.inj hlock)
            exact congrArg Except.ok
              ((hafter.ownRow? other).trans ((hsame.row? other).trans hrow))
      | commit =>
          cases hanswer
          exact ⟨rfl, hserved.clean hclean (by simp) (by simp)⟩
      | rollback =>
          cases hanswer
          exact ⟨rfl, hserved.clean hclean (by simp) (by simp)⟩
      | row other =>
          obtain rfl : other = label := hmay
          cases hanswer
          exact ⟨congrArg Except.ok hrow, hclean, .refl s⟩
      | _ => exact hmay.elim
  | log event =>
      cases hanswer
      exact ⟨trivial, hclean, .refl s⟩
  | _ => exact hmay.elim

variable {goal : Except EngineError CallResult → Unit → Prop} {call : Call}

/-- The call of a client that comes after the end of a label. -/
structure Late (label : Label) (row : Record)
    (goal : Except EngineError CallResult → Unit → Prop)
    (client : Client) (call : Call) (s : System) : Prop where
  stored : s.store.row? label = some row
  task : ∃ rest, s.tasks client = some ⟨call, rest⟩ ∧
    ∀ work, rest = some work → work.Follows (ended label row) goal ()
  clean : s.store.Clean client

/-- A belated call goes on as it began when it is answered, and nothing comes of it. -/
theorem Late.said {r : Request} {next : r.Answer → Work (Except EngineError CallResult)}
    {answer : r.Answer} {after : Store} {now : DateTime}
    (h : Late label row goal client call s)
    (htask : s.tasks client = some ⟨call, some (.ask r next)⟩)
    (hanswer : r.Answered client now s.store answer after) :
    s.store.Unchanged after ∧
      Late label row goal client call
        ({ s with store := after }.assign client ⟨call, some (next answer)⟩) := by
  obtain ⟨rest, hrest, hfollows⟩ := h.task
  cases htask.symm.trans hrest
  obtain ⟨hmay, hnext⟩ := hfollows _ rfl
  obtain ⟨hreply, hclean, hsame⟩ := ended_answered hmay hanswer h.clean h.stored
  refine ⟨hsame, (hsame.row? label).trans h.stored,
    ⟨some (next answer), by simp [System.assign], ?_⟩, hclean⟩
  rintro work hwork
  exact Option.some.inj hwork ▸ hnext answer () hreply

/-- **Step.**  A belated call remains one, whatever happens, and nothing comes of it. -/
theorem Late.step (h : Late label row goal client call before)
    (hstep : System.Step app before happening after)
    (hkept : after.store.row? label = some row) :
    Late label row goal client call after ∧
      ∀ exchange, happening = .said client exchange →
        before.store.Unchanged after.store := by
  obtain ⟨rest, hrest, hfollows⟩ := h.task
  cases hstep with
  | call other made hnew =>
      have hother : client ≠ other := by
        rintro rfl
        cases hrest.symm.trans hnew
      exact ⟨⟨hkept, ⟨rest, by simpa [System.assign, hother] using hrest, hfollows⟩,
        h.clean⟩, by simp⟩
  | @vanish other made work htask =>
      refine ⟨⟨hkept, ?_, ?_⟩, by simp⟩
      · by_cases hother : client = other
        · subst hother
          cases hrest.symm.trans htask
          exact ⟨none, by simp [System.assign], by simp⟩
        · exact ⟨rest, by simpa [System.assign, hother] using hrest, hfollows⟩
      · intro t ht
        change (before.store.rollback other).transaction? client = some t at ht
        rw [Store.transaction?_rollback] at ht
        split at ht
        · cases ht
        · exact h.clean t ht
  | @say made r next answer store other now htask hanswer =>
      by_cases hother : client = other
      · subst hother
        cases hrest.symm.trans htask
        obtain ⟨hsame, hlate⟩ := h.said htask hanswer
        exact ⟨hlate, fun _ _ => hsame⟩
      · refine ⟨⟨hkept,
          ⟨rest, by simpa [System.assign, hother] using hrest, hfollows⟩, ?_⟩, ?_⟩
        · intro t ht
          refine h.clean t ?_
          cases r with
          | store request =>
              exact ((Store.served hanswer).transaction?_other hother).symm.trans ht
          | _ => cases hanswer; exact ht
        · rintro exchange heq
          cases heq
          exact absurd rfl hother

/-- A call that comes after the end of its label. -/
theorem Late.called (happ : app.Built) (hfaithful : Faithful app past s) {op : Operation}
    (hstored : s.store.row? label = some row) (hdeleted : row.deleted = true)
    (hlabel : op.label? = some label) (hhistory : op ≠ .history label)
    (hnew : s.tasks client = none) :
    ∃ answer, op.Belated app answer ∧
      Late label row (fun result _ => result = answer.map .operation)
        client (.operation op)
        (s.assign client
          ⟨.operation op, some (Call.perform app (.operation op)).run⟩) := by
  obtain ⟨m, _, hmachine, -⟩ := (hstored ▸ hfaithful.lawful label).of_row
  obtain ⟨answer, hbelated, hends⟩ := ended_perform hdeleted hmachine happ hlabel hhistory
  refine ⟨answer, hbelated, hstored,
    ⟨some (Call.perform app (.operation op)).run, by simp [System.assign], ?_⟩, ?_⟩
  · intro work hwork
    rw [← Option.some.inj hwork]
    change (op.perform app >>= fun result =>
      Pure.pure (CallResult.operation result)).EndsWith label row _
    cases answer with
    | ok result => exact hends.ok_bind rfl
    | error error => exact hends.error_bind
  · intro t ht
    cases (hfaithful.uncalled hnew).1.symm.trans ht

/-- A belated call is answered, unless somebody else holds the lock of the label. -/
theorem Late.served {request : StoreRequest}
    {next : (Request.store request).Answer → Work (Except EngineError CallResult)}
    (h : Late label row goal client call s)
    (htask : s.tasks client = some ⟨call, some (.ask (.store request) next)⟩)
    (hfree : s.store.isTaken client label = false) (now : DateTime) :
    ∃ served, request.serve client now s.store = some served := by
  obtain ⟨rest, hrest, hfollows⟩ := h.task
  cases htask.symm.trans hrest
  have hmay := (hfollows _ rfl).1
  refine Store.served_of_free ?_ now
  rintro other rfl
  obtain rfl : other = label := hmay
  exact hfree

/-- **A belated call ends** when it goes on and nobody else holds the lock of the
label. -/
theorem Late.ends {work : Work (Except EngineError CallResult)} {story : Story}
    (h : Late label row goal client call story.system)
    (htask : story.system.tasks client = some ⟨call, some work⟩)
    (hsound : story.system.store.Sound)
    (hfree : story.system.store.isTaken client label = false)
    (world : (r : Request) → r.Answer) (now : DateTime) :
    ∃ times result, goal result () ∧
      (story.drive world client now times).system.tasks client =
        some ⟨call, some (.done result)⟩ := by
  refine (Story.drive_ends
    (P := fun s => Late label row goal client call s ∧ s.store.Sound ∧
      s.store.isTaken client label = false) world now
      (fun _ _ _ h hasked => h.1.served hasked h.2.2 now) ?_
      htask ⟨h, hsound, hfree⟩).imp ?_
  · intro s r next answer after ⟨hlate, hsound, hfree⟩ hasked hanswer
    obtain ⟨hafter, hstill⟩ := hanswer.free hsound
    exact ⟨(hlate.said hasked hanswer).2, hafter, hstill label hfree⟩
  · rintro times ⟨result, ⟨hlate, -⟩, hends⟩
    obtain ⟨rest, hrest, hfollows⟩ := hlate.task
    cases hends.symm.trans hrest
    exact ⟨result, hfollows _ rfl, hends⟩

/-! ## In a chronicle -/

section Chronicles

variable {earlier since front back : List Moment} {m start later : Moment}

/-- Up to a moment after the end of the label. -/
theorem Chronicle.upTo_since
    (chronicle : Chronicle app (earlier ++ m :: (front ++ later :: back)) past s) :
    Chronicle app (earlier ++ m :: front) later.past later.before ∧
      System.Step app later.before later.happening later.after ∧
      Chronicle app (earlier ++ m :: (front ++ [later])) (later.past ++ [later.happening])
        later.after := by
  rw [← List.cons_append, ← List.append_assoc] at chronicle
  obtain ⟨hbefore, hstep, hafter⟩ := chronicle.upTo
  rw [List.append_assoc, List.cons_append] at hafter
  exact ⟨hbefore, hstep, hafter⟩

/-- The label remains as it has ended, at all moments. -/
theorem Chronicle.ended_kept (happ : app.Built)
    (chronicle : Chronicle app (earlier ++ m :: since) past s)
    (hrow : m.after.store.row? label = some row) (hdeleted : row.deleted = true) :
    s.store.row? label = some row ∧ s.store.history label = m.after.store.history label :=
  chronicle.onward (P := fun _ _ s => s.store.row? label = some row ∧
      s.store.history label = m.after.store.history label) ⟨hrow, rfl⟩
    fun chronicle hstep ⟨hstored, hpast⟩ =>
      have hkept := (chronicle.faithful happ).ended_kept hstep hstored hdeleted
      ⟨hkept.1, hkept.2.trans hpast⟩

/-- What is true after every moment since can be shown at the end of a chronicle. -/
theorem Chronicle.moment_since {P : System → Prop}
    (chronicle : Chronicle app (earlier ++ m :: since) past s)
    (h : ∀ {since past s}, Chronicle app (earlier ++ m :: since) past s → P s)
    (hlater : later ∈ m :: since) : P later.after := by
  rcases List.mem_cons.1 hlater with rfl | hlater
  · exact h chronicle.upTo.2.2
  · obtain ⟨front, back, rfl⟩ := List.append_of_mem hlater
    exact h chronicle.upTo_since.2.2

/-- **The row is final**: at every later moment it is the one that was deleted. -/
theorem Chronicle.rowFinal (happ : app.Built)
    (chronicle : Chronicle app (earlier ++ m :: since) past s)
    (hrow : m.after.store.row? label = some row) (hdeleted : row.deleted = true) :
    RowFinal label m since := by
  have hupTo := chronicle.upTo.2.2
  obtain ⟨_, _, -, hlabel, -⟩ := (hrow ▸ (hupTo.faithful happ).lawful label).of_row
  have hcleared := hupTo.run.cleared happ hrow hdeleted
  refine ⟨row.triggersProcessed, fun later hlater => ?_⟩
  obtain ⟨hstored, hpast⟩ :=
    chronicle.moment_since (P := fun s => s.store.row? label = some row ∧
      s.store.history label = m.after.store.history label)
      (fun chronicle => chronicle.ended_kept happ hrow hdeleted) hlater
  refine ⟨hstored.trans ?_, hpast⟩
  obtain ⟨_, _, _, _⟩ := row
  cases hlabel
  cases hcleared
  cases hdeleted
  rfl

/-- **Unlisted**: no listing or batch after the deletion has the label. -/
theorem Chronicle.unlisted (happ : app.Built)
    (chronicle : Chronicle app (earlier ++ m :: since) past s)
    (hrow : m.after.store.row? label = some row) (hdeleted : row.deleted = true) :
    Unlisted label (m :: since) := fun _ hlater =>
  chronicle.moment_since (P := fun s =>
    (∀ machine state, ∀ row ∈ s.store.rowsInState machine state, row.label ≠ label) ∧
      label.name ∉ s.store.liveNames label.machine)
    (fun chronicle => chronicle.run.unlisted (chronicle.ended_kept happ hrow hdeleted).1
      hdeleted) hlater

/-- **Unasked**: nothing is fetched or delivered for the label from then on. -/
theorem Chronicle.unasked (happ : app.Built)
    (chronicle : Chronicle app (earlier ++ m :: since) past s)
    (hrow : m.after.store.row? label = some row) (hdeleted : row.deleted = true) :
    Unasked app label since := by
  intro later hlater
  obtain ⟨hdelivers, hfetches, -⟩ :=
    chronicle.terminalRests happ later
      (List.mem_append_right _ (List.mem_cons_of_mem _ hlater))
  -- before the moment the label has ended, and whoever works on a label works on
  -- a live one
  have hother : ∀ {client other machine state row' entry},
      later.WorksOn app client other machine state row' entry → other ≠ label := by
    rintro client other machine state row' entry hworks rfl
    obtain ⟨front, back, rfl⟩ := List.append_of_mem hlater
    have hstored := (chronicle.upTo_since.1.ended_kept happ hrow hdeleted).1
    cases hstored.symm.trans hworks.stored
    cases hdeleted.symm.trans hworks.live
  constructor
  · intro client delivery answer hsaid
    obtain ⟨other, machine, action, row, entry, hdelivered, -⟩ :=
      hdelivers client delivery answer hsaid
    exact ⟨other, machine, action, row, entry, hother hdelivered.toWorksOn, hdelivered⟩
  · intro client url answer hsaid
    obtain ⟨other, machine, gate, row, entry, feed, hworks, -, hfeed, hurl⟩ :=
      hfetches client url answer hsaid
    exact ⟨other, machine, gate, row, entry, feed, hother hworks, hworks, hfeed, hurl⟩

/-- **A belated call of a run** writes nothing, and ends as it should. -/
theorem Chronicle.belated_called (happ : app.Built)
    (chronicle : Chronicle app (earlier ++ m :: (front ++ start :: back)) past s)
    (hrow : m.after.store.row? label = some row) (hdeleted : row.deleted = true)
    {op : Operation} (hlabel : op.label? = some label) (hhistory : op ≠ .history label)
    (hcalled : start.happening = .called client (.operation op)) :
    ∃ answer, op.Belated app answer ∧
      Late label row (fun result _ => result = answer.map .operation) client
        (.operation op) s ∧
      ∀ later ∈ back, ∀ exchange, later.happening = .said client exchange →
        later.before.store.Unchanged later.after.store := by
  obtain ⟨hbefore, hstep, -⟩ := chronicle.upTo_since
  have hnew : start.before.tasks client = none ∧ start.after =
      start.before.assign client
        ⟨.operation op, some (Call.perform app (.operation op)).run⟩ := by
    generalize start.after = after at hstep ⊢
    rw [hcalled] at hstep
    cases hstep with
    | call _ _ hnew => exact ⟨hnew, rfl⟩
  obtain ⟨answer, hbelated, hlate⟩ := Late.called happ (hbefore.faithful happ)
    (hbefore.ended_kept happ hrow hdeleted).1 hdeleted hlabel hhistory hnew.1
  refine ⟨answer, hbelated, ?_⟩
  rw [← List.cons_append, ← List.append_assoc] at chronicle
  refine chronicle.onward (P := fun back _ s =>
    Late label row (fun result _ => result = answer.map .operation) client
      (.operation op) s ∧
    ∀ later ∈ back, ∀ exchange, later.happening = .said client exchange →
      later.before.store.Unchanged later.after.store) ⟨hnew.2 ▸ hlate, by simp⟩ ?_
  intro back past before happening after hchronicle hstep ⟨hlate, hquiet⟩
  have hkept := ((hchronicle.faithful happ).ended_kept hstep hlate.stored hdeleted).1
  obtain ⟨hafter, hsaid⟩ := hlate.step hstep hkept
  refine ⟨hafter, fun later hlater => ?_⟩
  rcases List.mem_append.1 hlater with hold | hnow
  · exact hquiet later hold
  · obtain rfl := List.mem_singleton.1 hnow
    exact hsaid

/-- **Belated calls** end as the deleted row has them end. -/
theorem Chronicle.belated (happ : app.Built)
    (chronicle : Chronicle app (earlier ++ m :: since) past s)
    (hrow : m.after.store.row? label = some row) (hdeleted : row.deleted = true) :
    Belated app label since s := by
  intro client op hlabel hhistory
  constructor
  · rintro before start rest rfl hcalled
    obtain ⟨answer, hbelated, hlate, hquiet⟩ :=
      chronicle.belated_called happ hrow hdeleted hlabel hhistory hcalled
    refine ⟨hquiet, fun result hdone => ⟨answer, hbelated, ?_⟩⟩
    obtain ⟨_, hrest, hfollows⟩ := hlate.task
    cases hdone.symm.trans hrest
    exact hfollows _ rfl
  · rintro hnew hfree world now story rfl
    have hfaithful := chronicle.faithful happ
    have hstored := (chronicle.ended_kept happ hrow hdeleted).1
    obtain ⟨answer, hbelated, hlate⟩ :=
      Late.called happ hfaithful hstored hdeleted hlabel hhistory hnew
    have hcalled : (story.call app client (.operation op)).system.tasks client =
        some ⟨.operation op, some (Call.perform app (.operation op)).run⟩ := by
      simp [Story.call, Story.andThen, System.assign]
    obtain ⟨times, _, rfl, hends⟩ :=
      Late.ends hlate hcalled hfaithful.sound hfree world now
    exact ⟨times, answer, hbelated, hends⟩

/-- **Deletion is final.**  In every run, however its calls are interleaved and
whatever they are answered: after a moment that leaves a label deleted its row and
history are not changed again, nothing is delivered or fetched for it, it is in no
list, and operations on it that are called for then write nothing, end as they
should, and do end. -/
theorem Chronicle.deletion (happ : app.Built)
    (chronicle : Chronicle app (earlier ++ m :: since) past s)
    (hrow : m.after.store.row? label = some row) (hdeleted : row.deleted = true) :
    RowFinal label m since ∧ Unasked app label since ∧ Unlisted label (m :: since) ∧
      Belated app label since s :=
  ⟨chronicle.rowFinal happ hrow hdeleted, chronicle.unasked happ hrow hdeleted,
    chronicle.unlisted happ hrow hdeleted, chronicle.belated happ hrow hdeleted⟩

end Chronicles

/-! ## A stored thing is removed -/

namespace Storehouse

/-- The thing is removed, while whoever has created it still works on it. -/
def removed : Story :=
  (created.call storehouse (.worker 1) (.operation (.delete stored))).drive
    (agreeable now) (.worker 1) now 6

/-- Whoever has created it goes on, and then an update comes too late. -/
def mourned : Story :=
  ((removed.drive (agreeable now) (.worker 0) now 9).call storehouse (.worker 2)
    (.operation (.update stored patch))).drive (agreeable now) (.worker 2) now 9

/-- Somebody creates it again, with metadata that are none. -/
def replaced : Story :=
  removed.call storehouse (.worker 2) (.operation (.create stored .null))

theorem chronicle_removed :
    Chronicle storehouse removed.moments removed.past removed.system := by
  have hnew : (created.system.tasks (.worker 1)).isNone = true := by decide +kernel
  exact (chronicle_created.call _ _ (Option.isNone_iff_eq_none.1 hnew)).drive _ _ _ _

theorem chronicle_mourned :
    Chronicle storehouse mourned.moments mourned.past mourned.system := by
  have hnew :
      ((removed.drive (agreeable now) (.worker 0) now 9).system.tasks (.worker 2)).isNone
        = true := by
    decide +kernel
  exact ((chronicle_removed.drive _ _ _ _).call _ _
    (Option.isNone_iff_eq_none.1 hnew)).drive _ _ _ _

/-- It is removed at a moment, and all that happens then comes after that moment. -/
theorem removed_at : ∃ earlier m since, mourned.moments = earlier ++ m :: since ∧
    removed.moments = earlier ++ [m] ∧
    m.after.store.row? stored = some ⟨stored, .obj [], true, true⟩ := by
  have hsome : removed.moments.getLast?.isSome = true := by decide +kernel
  obtain ⟨earlier, hremoved⟩ := List.getLast?_eq_some_iff.1 (Option.some_get hsome).symm
  obtain ⟨first, hfirst, -⟩ :=
    @Story.drive_moments removed (agreeable now) (.worker 0) now 9
  obtain ⟨last, hlast, -⟩ := @Story.drive_moments
    ((removed.drive (agreeable now) (.worker 0) now 9).call storehouse (.worker 2)
      (.operation (.update stored patch))) (agreeable now) (.worker 2) now 9
  have hmourned : ∃ more, mourned.moments = removed.moments ++ more :=
    ⟨_, by
      rw [mourned, hlast, Story.call, Story.andThen, hfirst, List.append_assoc,
        List.append_assoc]⟩
  obtain ⟨more, hmourned⟩ := hmourned
  exact ⟨earlier, _, more,
    hmourned.trans ((congrArg (· ++ more) hremoved).trans (List.append_assoc ..)),
    hremoved, by with_unfolding_all rfl⟩

end Storehouse

open Storehouse in
/-- After the deletion an update is refused, and a drain that is called for later makes
no move. -/
theorem Chronicle.deletion_storehouse : storehouse.Built ∧
    Chronicle storehouse mourned.moments mourned.past mourned.system ∧
    ∃ earlier m since, mourned.moments = earlier ++ m :: since ∧
      m.after.store.row? stored = some ⟨stored, .obj [], true, true⟩ ∧
      RowFinal stored m since ∧ Unasked storehouse stored since ∧
      Unlisted stored (m :: since) ∧
      mourned.system.tasks (.worker 2) = some ⟨.operation (.update stored patch),
        some (.done (.error (.deletedLabel stored)))⟩ ∧
      ∃ times,
        ((mourned.call storehouse (.worker 3) (.operation (.drain stored))).drive
          (agreeable now)
        (.worker 3) now times).system.tasks (.worker 3) =
          some ⟨.operation (.drain stored),
          some (.done (.ok (.operation (.drained ⟨0, false⟩))))⟩ := by
  obtain ⟨earlier, m, since, hmoments, -, hrow⟩ := removed_at
  obtain ⟨hfinal, hunasked, hunlisted, hbelated⟩ :=
    Chronicle.deletion storehouse_built (hmoments ▸ chronicle_mourned) hrow rfl
  have hnew : (mourned.system.tasks (.worker 3)).isNone = true := by decide +kernel
  obtain ⟨times, answer, hanswer, hends⟩ :=
    (hbelated (.worker 3) (.drain stored) rfl (by simp)).2
      (Option.isNone_iff_eq_none.1 hnew) (by decide +kernel)
      (agreeable now) now mourned rfl
  cases hanswer
  refine ⟨storehouse_built, chronicle_mourned, earlier, m, since, hmoments, hrow,
    hfinal, hunasked, hunlisted, by with_unfolding_all rfl, times, hends⟩

open Storehouse in
/-- **Arguments come first.**  Whoever creates a label that has ended with metadata that
are none is told so, and not that the label exists. -/
theorem Chronicle.deletion_misdescribed : storehouse.Built ∧
    Chronicle storehouse replaced.moments replaced.past replaced.system ∧
    removed.system.store.row? stored = some ⟨stored, .obj [], true, true⟩ ∧
    removed.system.tasks (.worker 2) = none ∧
    replaced.system.tasks (.worker 2) = some ⟨.operation (.create stored .null),
      some (.done (.error (.invalidMetadata stored)))⟩ := by
  have hnew : (removed.system.tasks (.worker 2)).isNone = true := by decide +kernel
  have hnone := Option.isNone_iff_eq_none.1 hnew
  exact ⟨storehouse_built, chronicle_removed.call _ _ hnone,
    by with_unfolding_all rfl, hnone, by with_unfolding_all rfl⟩

end Turnstile

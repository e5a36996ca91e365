import Turnstile.Proofs.Engine.Desk
import Turnstile.Proofs.Store.Accord

/-!
# Work on one label

What is done for a label depends on nothing but that label: on its row, on its history
up to the numbers of the entries, and on what the world answers.  `Work.Twins` says so
of two pieces of work: they ask for the same, about one label and at most up to the
token of a delivery, and go on in the same way after any two answers that are the same
up to numbers.

The rules compose with the work, and every function of the engine has one lemma, up to
the operations of a label (`Operation.twins_perform`) and the visit of a batch
(`twins_visit`).
-/

set_option autoImplicit false

namespace Turnstile

open Time (DateTime)

/-! ## Requests -/

/-- Deliveries that differ in their tokens only. -/
structure Delivery.Alike (delivery other : Delivery) : Prop where
  url : delivery.url = other.url
  contentType : delivery.contentType = other.contentType
  body : delivery.body = other.body

namespace Request

/-- The requests of work on one label; and whether a transaction is open before and
after them. -/
inductive Within (label : Label) : Bool → Request → Bool → Prop
  | store {request : StoreRequest} {opened opened' : Bool}
      (h : request.Within label opened opened') :
      Within label opened (.store request) opened'
  | deliver {opened : Bool} (delivery : Delivery) :
      Within label opened (.deliver delivery) opened
  | fetch {opened : Bool} (url : String) : Within label opened (.fetch url) opened
  | notify {opened : Bool} (notice : Notice) : Within label opened (.notify notice) opened
  | log {opened : Bool} (event : LogEvent) : Within label opened (.log event) opened
  | now {opened : Bool} : Within label opened .now opened
  | stopRequested {opened : Bool} : Within label opened .stopRequested opened

/-- Two answers to a request about a label are the same up to numbers of entries; nobody
asks for an end. -/
def Alike (label : Label) : (r : Request) → r.Answer → r.Answer → Prop
  | .store request, answer, other => request.Alike label answer other
  | .stopRequested, answer, other => answer = false ∧ other = false
  | .deliver _, answer, other => answer = other
  | .fetch _, answer, other => answer = other
  | .notify _, answer, other => answer = other
  | .log _, answer, other => answer = other
  | .now, answer, other => answer = other
  | .nextTick, answer, other => answer = other

end Request

/-! ## Twins -/

variable {α β γ δ : Type}

/-- Two pieces of work ask for the same about a label, and end with results that are the
same, if they are answered alike.  A transaction is open at the start if `opened`, and
at the end if `closing`. -/
inductive Work.Twins (label : Label) (closing : Bool) (same : α → β → Prop) :
    Bool → Work α → Work β → Prop
  | done {a : α} {b : β} (h : same a b) :
      Twins label closing same closing (.done a) (.done b)
  | ask {opened opened' : Bool} {r : Request} {next : r.Answer → Work α}
      {next' : r.Answer → Work β} (hwithin : r.Within label opened opened')
      (hnext : ∀ answer answer', r.Alike label answer answer' →
        Twins label closing same opened' (next answer) (next' answer')) :
      Twins label closing same opened (.ask r next) (.ask r next')
  | deliver {opened : Bool} {delivery delivery' : Delivery} {next : Delivered → Work α}
      {next' : Delivered → Work β} (halike : delivery.Alike delivery')
      (hnext : ∀ result, Twins label closing same opened (next result) (next' result)) :
      Twins label closing same opened (.ask (.deliver delivery) next)
        (.ask (.deliver delivery') next')

namespace Work

variable {label : Label} {opened middle closing : Bool} {same : α → β → Prop}
  {after : γ → δ → Prop}

theorem twins_pure {a : α} {b : β} (h : same a b) :
    (pure a : Work α).Twins label closing same closing (pure b) := .done h

/-- **Sequencing.** -/
theorem Twins.bind {work : Work α} {other : Work β} {next : α → Work γ}
    {next' : β → Work δ} (h : work.Twins label middle same opened other)
    (hnext : ∀ a b, same a b → (next a).Twins label closing after middle (next' b)) :
    (work >>= next).Twins label closing after opened (other >>= next') := by
  induction h with
  | done hsame => exact hnext _ _ hsame
  | ask hwithin _ ih => exact .ask hwithin ih
  | deliver halike _ ih => exact .deliver halike ih

/-- A single request. -/
theorem twins_request {r : Request} {same : r.Answer → r.Answer → Prop}
    (hwithin : r.Within label opened closing)
    (h : ∀ answer answer', r.Alike label answer answer' → same answer answer') :
    (request r).Twins label closing same opened (request r) :=
  .ask hwithin fun answer answer' halike => .done (h answer answer' halike)

end Work

/-- Two results are the same: both are results and the same, or both are the same
failure. -/
inductive SameResult {ε : Type} (same : α → β → Prop) : Except ε α → Except ε β → Prop
  | ok {a : α} {b : β} (h : same a b) : SameResult same (.ok a) (.ok b)
  | error (cause : ε) : SameResult same (.error cause) (.error cause)

/-- Equal results are the same. -/
theorem SameResult.of_eq {ε : Type} (result : Except ε α) :
    SameResult Eq result result := by
  cases result with
  | ok a => exact .ok rfl
  | error cause => exact .error cause

/-- `Work.Twins` for work that can fail. -/
def Attempt.Twins (label : Label) (closing : Bool) (same : α → β → Prop) (opened : Bool)
    (attempt : Attempt α) (other : Attempt β) : Prop :=
  attempt.run.Twins label closing (SameResult same) opened other.run

namespace Attempt

variable {label : Label} {opened middle closing : Bool} {same : α → β → Prop}
  {after : γ → δ → Prop}

theorem twins_pure {a : α} {b : β} (h : same a b) :
    (pure a : Attempt α).Twins label closing same closing (pure b) := .done (.ok h)

theorem twins_throw (error : EngineError) :
    (throw error : Attempt α).Twins label closing same closing
    (throw error : Attempt β) :=
  .done (.error error)

/-- Attempts in sequence: both fail, or both go on. -/
theorem Twins.bind {first : Attempt α} {other : Attempt β} {next : α → Attempt γ}
    {next' : β → Attempt δ} (h : first.Twins label closing same opened other)
    (hnext : ∀ a b, same a b → (next a).Twins label closing after closing (next' b)) :
    (first >>= next).Twins label closing after opened (other >>= next') := by
  simp only [Attempt.Twins, ExceptT.run_bind]
  refine Work.Twins.bind h ?_
  rintro _ _ (⟨hsame⟩ | cause)
  · exact hnext _ _ hsame
  · exact .done (.error cause)

/-- An attempt to ask the store. -/
theorem twins_ofStore {request : StoreRequest}
    {same : request.Result → request.Result → Prop}
    (hwithin : request.Within label opened closing)
    (h : ∀ answer answer', request.Alike label answer answer' →
      SameResult same (answer.mapError EngineError.store)
        (answer'.mapError EngineError.store)) :
    (ofStore request).Twins label closing same opened (ofStore request) := by
  refine Work.Twins.bind (Work.twins_request (.store hwithin) fun _ _ halike => halike) ?_
  intro answer answer' halike
  have hsame := h answer answer' halike
  cases answer <;> cases answer' <;> exact .done hsame

/-- Work that cannot fail. -/
theorem twins_ofWork {work : Work α} {other : Work β}
    (h : work.Twins label closing same opened other) :
    (ofWork work).Twins label closing same opened (ofWork other) :=
  h.bind fun _ _ hsame => .done (.ok hsame)

theorem twins_ofExcept {ε : Type} {wrap : ε → EngineError} {result : Except ε α}
    {other : Except ε β} (h : SameResult same result other) :
    (ofExcept wrap result).Twins label closing same closing (ofExcept wrap other) := by
  cases h with
  | ok hsame => exact .done (.ok hsame)
  | error cause => exact .done (.error (wrap cause))

/-- What follows on a choice is the same, or the choice fails. -/
theorem twins_choose {ε : Type} {wrap : ε → EngineError} {choice : Except ε α}
    {next : α → Attempt γ} {next' : α → Attempt δ}
    (h : ∀ a, (next a).Twins label closing after closing (next' a)) :
    (ofExcept wrap choice >>= next).Twins label closing after closing
      (ofExcept wrap choice >>= next') := by
  cases choice with
  | ok a => exact h a
  | error cause => exact .done (.error (wrap cause))

end Attempt

/-! ## Steps -/

variable {label : Label} {app : App} {m : Machine} {opened : Bool}

/-- Histories that differ in the numbers of their entries only. -/
def History.Alike (history other : History) : Prop :=
  Renumbered history.entries other.entries

/-- Contexts that show the same: their entries differ in their numbers only. -/
structure Context.Alike (context other : Context) : Prop where
  label : context.label = other.label
  metadata : context.metadata = other.metadata
  feeds : context.feeds = other.feeds
  entry : context.entry.map Entry.unnumbered = other.entry.map Entry.unnumbered

/-- What `lockLive` finds is the same, and is of the label. -/
def SameRow (label : Label) (found other : Record × History) : Prop :=
  found.1 = other.1 ∧ found.1.label = label ∧ found.2.Alike other.2

namespace History.Alike

variable {history other : History}

/-- Alike histories end alike. -/
theorem current? (h : history.Alike other) :
    history.current?.map Entry.unnumbered = other.current?.map Entry.unnumbered := by
  rw [History.current?, ← List.getLast?_map, h.same, List.getLast?_map, History.current?]

/-- Alike histories are in the same state. -/
theorem state? (h : history.Alike other) : history.state? = other.state? :=
  entered_of_unnumbered h.same

end History.Alike

/-- Entries in the order of their numbers are a history as they stand. -/
theorem History.ofEntries_of_ordered {entries : List Entry}
    (h : entries.Pairwise fun a b => a.id < b.id) :
    History.ofEntries entries = ⟨entries⟩ := by
  have hsorted : entries.Pairwise fun a b => decide (a.id ≤ b.id) = true :=
    h.imp fun hlt => by simpa using Int.le_of_lt hlt
  rw [History.ofEntries, List.mergeSort_of_pairwise hsorted]

theorem Renumbered.ofEntries {entries others : List Entry}
    (h : Renumbered entries others) :
    (History.ofEntries entries).Alike (History.ofEntries others) := by
  rw [History.ofEntries_of_ordered h.ordered,
    History.ofEntries_of_ordered h.ordered_others]
  exact h

/-- **What is seen.**  Paths do not lead to the number of an entry. -/
theorem Context.Alike.lookup {context other : Context} (h : context.Alike other) :
    context.lookup = other.lookup := by
  have hhistory : ∀ field, (context.entry.bind fun entry => historyField? entry field) =
      other.entry.bind fun entry => historyField? entry field := by
    intro field
    rcases Entry.unnumbered_cases h.entry with
      ⟨hleft, hright⟩ | ⟨entry, entry', hleft, hright, hmove, hcreated⟩
    · rw [hleft, hright]
    · rw [hleft, hright, Option.bind_some, Option.bind_some, historyField?, hmove,
        hcreated, historyField?]
  funext path
  rw [Context.lookup, Context.lookup]
  congr 1
  unfold Context.get?
  split
  · rw [h.metadata]
  · rw [h.feeds]
  · rfl
  · exact hhistory _
  · rfl
  · rw [h.metadata]

/-- A feed adds the same to contexts that show the same. -/
theorem Context.Alike.withFeed {context other : Context}
    (h : context.Alike other) (name : String) (document : Value) :
    (context.withFeed name document).Alike (other.withFeed name document) where
  label := h.label
  metadata := h.metadata
  feeds := congrArg (Dictionary.insert · name document) h.feeds
  entry := h.entry

theorem twins_tell (notice : Notice) :
    (tell notice).Twins label opened Eq opened (tell notice) :=
  Work.twins_request (.notify notice) fun _ _ h => h

theorem twins_tellLog (event : LogEvent) :
    (tellLog event).Twins label opened Eq opened (tellLog event) :=
  Work.twins_request (.log event) fun _ _ h => h

theorem twins_now :
    (Work.request .now).Twins label opened Eq opened (Work.request .now) :=
  Work.twins_request .now fun _ _ h => h

theorem twins_fetch (url : String) :
    (Work.request (.fetch url)).Twins label opened Eq opened
      (Work.request (.fetch url)) :=
  Work.twins_request (.fetch url) fun _ _ h => h

/-- Twins find the same row under the lock. -/
theorem twins_lockRow : (lockRow label).Twins label true
    (fun found other => found = other ∧ ∀ row, found = some row → row.label = label) true
    (lockRow label) := by
  refine Attempt.twins_ofStore .lock ?_
  rintro _ _ ⟨found, rfl, rfl, hlabel⟩
  exact .ok ⟨rfl, hlabel⟩

/-- Twins save the same row. -/
theorem twins_saveRow {row : Record} (hlabel : row.label = label) :
    (saveRow row).Twins label true Eq true (saveRow row) := by
  refine Attempt.twins_ofStore (.save hlabel) ?_
  rintro answer _ rfl
  exact .of_eq _

/-- Twins are given the same entry, up to its number. -/
theorem twins_appendMove {move : Move} (hlabel : move.label = label) :
    (appendMove move).Twins label true
      (fun entry other => entry.unnumbered = other.unnumbered) true
      (appendMove move) := by
  refine Attempt.twins_ofStore (.append hlabel) ?_
  rintro _ _ (⟨entry, other, rfl, rfl, hsame⟩ | ⟨refusal, rfl, rfl⟩)
  · exact .ok hsame
  · exact .error _

/-- Twins read alike histories. -/
theorem twins_readOwnHistory :
    (readOwnHistory label).Twins label true History.Alike true
      (readOwnHistory label) := by
  have hread : (Attempt.ofStore (.ownHistory label)).Twins label true Renumbered true
      (Attempt.ofStore (.ownHistory label)) := by
    refine Attempt.twins_ofStore .ownHistory ?_
    rintro _ _ ⟨entries, others, rfl, rfl, hsame⟩
    exact .ok hsame
  exact hread.bind fun _ _ h => Attempt.twins_pure h.ofEntries

theorem twins_lockLive :
    (lockLive label).Twins label true (SameRow label) true (lockLive label) := by
  refine twins_lockRow.bind ?_
  rintro found _ ⟨rfl, hlabel⟩
  cases found with
  | none => exact Attempt.twins_throw _
  | some row =>
      cases hdeleted : row.deleted with
      | true => simp only [hdeleted, if_true]; exact Attempt.twins_throw _
      | false =>
          simp only [hdeleted, Bool.false_eq_true, if_false]
          exact twins_readOwnHistory.bind fun _ _ h =>
            Attempt.twins_pure ⟨rfl, hlabel row rfl, h⟩

/-- The same feeds are fetched for contexts that show the same. -/
theorem twins_gatherFeeds {context other : Context} (h : context.Alike other)
    (names : List String) :
    (gatherFeeds m context names).Twins label opened (SameResult Context.Alike) opened
      (gatherFeeds m other names) := by
  induction names generalizing context other with
  | nil => exact Work.twins_pure (.ok h)
  | cons name rest ih =>
      unfold gatherFeeds
      cases hfeed : m.feed? name with
      | none => exact Work.twins_pure (.error _)
      | some feed =>
          obtain ⟨about, metadata, feeds, entry⟩ := context
          obtain ⟨_, _, _, entry'⟩ := other
          obtain ⟨rfl, rfl, rfl, hentry⟩ := id h
          refine (twins_tell _).bind fun _ _ _ => ?_
          refine (twins_fetch _).bind ?_
          rintro answer _ rfl
          cases answer with
          | error error =>
              exact (twins_tell _).bind fun _ _ _ => Work.twins_pure (.error error)
          | ok document =>
              exact (twins_tell _).bind fun _ _ _ => ih (h.withFeed name document)

theorem twins_markProcessed {row : Record} (hlabel : row.label = label) :
    (markProcessed row).Twins label true Eq true (markProcessed row) := by
  unfold markProcessed
  split
  · exact Attempt.twins_pure rfl
  · exact twins_saveRow hlabel

/-- Twins leave a state by the same route, for alike contexts match the same. -/
theorem twins_leave {context other : Context} (h : context.Alike other) (source : String)
    (route : Route) : (leave label source route context).Twins label true Eq true
      (leave label source route other) := by
  unfold leave
  rw [h.lookup]
  refine Attempt.twins_choose fun target => ?_
  have happend :=
    twins_appendMove (show (Move.transition label source target).label = label from rfl)
  exact happend.bind fun _ _ _ => Attempt.twins_pure rfl

/-- **A look at a gate.** -/
theorem twins_stepGate (gate : Gate) :
    (stepGate m gate label).Twins label true Eq true (stepGate m gate label) := by
  refine twins_lockLive.bind ?_
  rintro ⟨row, history⟩ ⟨_, other⟩ ⟨rfl, hlabel, hhistory⟩
  simp only [hhistory.state?]
  split
  · exact Attempt.twins_pure rfl
  · refine (twins_markProcessed hlabel).bind fun _ _ _ => ?_
    split
    · exact Attempt.twins_pure rfl
    · refine (Attempt.twins_ofWork twins_now).bind ?_
      rintro now _ rfl
      have hbare : (Context.mk label row.metadata [] history.current?).Alike
          ⟨label, row.metadata, [], other.current?⟩ := ⟨rfl, rfl, rfl, hhistory.current?⟩
      refine (Attempt.twins_ofWork (twins_gatherFeeds hbare _)).bind
        fun gathered gathered' hgathered => ?_
      refine (Attempt.twins_ofExcept hgathered).bind fun context context' hcontext => ?_
      rw [hcontext.lookup]
      refine Attempt.twins_choose fun passed => ?_
      cases passed with
      | false => exact Attempt.twins_pure rfl
      | true => exact twins_leave hcontext _ _

/-- A delivery for entries that differ in their numbers differs in its token only. -/
theorem twins_deliver (action : Action) (metadata : Value) (entry other : Entry) :
    (deliver m action label metadata entry).Twins label opened Eq opened
      (deliver m action label metadata other) := by
  refine (twins_tell _).bind fun _ _ _ => ?_
  let sent (entry : Entry) : Delivery := ⟨action.webhook, Webhook.contentType,
    Webhook.payload label.name metadata, Webhook.token label entry.id⟩
  have hdeliver : (Work.request (.deliver (sent entry))).Twins label opened Eq opened
      (Work.request (.deliver (sent other))) :=
        .deliver ⟨rfl, rfl, rfl⟩ fun _ => .done rfl
  refine hdeliver.bind ?_
  rintro result _ rfl
  exact (twins_tell _).bind fun _ _ _ => Work.twins_pure rfl

/-- Histories that are alike entered a state by entries that are. -/
theorem History.Alike.entryInto? {history other : History} (h : history.Alike other)
    (state : String) :
    (history.entryInto? state).map Entry.unnumbered =
      (other.entryInto? state).map Entry.unnumbered := by
  unfold History.entryInto?
  rcases Entry.unnumbered_cases h.current? with
    ⟨hleft, hright⟩ | ⟨entry, entry', hleft, hright, hmove, hcreated⟩
  · rw [hleft, hright]
  · rw [hleft, hright]
    by_cases hstate : entry'.entered = some state <;>
      simp [Option.filter, hmove, hstate, Entry.unnumbered, hcreated]

/-- **An action.** -/
theorem twins_stepAction (action : Action) :
    (stepAction app m action label).Twins label true Eq true
      (stepAction app m action label) := by
  refine twins_lockLive.bind ?_
  rintro ⟨row, history⟩ ⟨_, other⟩ ⟨rfl, hlabel, hhistory⟩
  have hentered := hhistory.entryInto? action.name
  simp only
  rcases Entry.unnumbered_cases hentered
    with ⟨hleft, hright⟩ | ⟨entry, entry', hleft, hright, -⟩
  · rw [hleft, hright]
    exact Attempt.twins_pure rfl
  · rw [hleft, hright]
    simp only
    split
    · exact Attempt.twins_pure rfl
    · split
      · exact Attempt.twins_throw _
      · refine
          (Attempt.twins_ofWork (twins_deliver action row.metadata entry entry')).bind ?_
        rintro result _ rfl
        cases result with
        | success =>
            have hcontext : (Context.mk label row.metadata [] (some entry)).Alike
                ⟨label, row.metadata, [], some entry'⟩ :=
                ⟨rfl, rfl, rfl, hleft ▸ hright ▸ hentered⟩
            exact twins_leave hcontext _ _
        | retry => exact Attempt.twins_pure rfl
        | fail => exact Attempt.twins_pure rfl

/-- Twins take the same step. -/
theorem twins_stepIn (state : State) :
    (stepIn app m state label).Twins label true Eq true (stepIn app m state label) := by
  cases state with
  | gate gate => exact twins_stepGate gate
  | action action => exact twins_stepAction action

theorem twins_stepCurrent :
    (stepCurrent app m label).Twins label true Eq true (stepCurrent app m label) := by
  refine twins_lockLive.bind ?_
  rintro ⟨row, history⟩ ⟨_, other⟩ ⟨rfl, -, hhistory⟩
  simp only [hhistory.state?]
  cases other.state? with
  | none => exact Attempt.twins_throw _
  | some name =>
      refine Attempt.twins_choose fun state => ?_
      exact twins_stepIn state

/-- **Transactions.** -/
theorem twins_inTransaction {attempt other : Attempt α}
    (h : attempt.Twins label true Eq true other) :
    (inTransaction attempt).Twins label false Eq false (inTransaction other) := by
  refine Work.Twins.bind (Work.twins_request (.store .begin) fun _ _ halike => halike) ?_
  rintro _ _ ⟨rfl, rfl⟩
  refine Work.Twins.bind h ?_
  rintro _ _ (⟨hsame⟩ | cause)
  · refine Work.Twins.bind
      (Work.twins_request (.store .commit) fun _ _ halike => halike) ?_
    rintro _ _ ⟨rfl, rfl⟩
    exact .done (.ok hsame)
  · refine Work.Twins.bind
      (Work.twins_request (.store .rollback) fun _ _ halike => halike) ?_
    rintro _ _ ⟨rfl, rfl⟩
    exact .done (.error cause)

/-! ## Draining and visits -/

/-- Twins take the same steps of a drain. -/
theorem twins_drainFrom (limit remaining : Nat) :
    (drainFrom app m label limit remaining).Twins label false Eq false
      (drainFrom app m label limit remaining) := by
  induction remaining with
  | zero => exact (Attempt.twins_ofWork (twins_tellLog _)).bind fun _ _ _ =>
      Attempt.twins_pure rfl
  | succ remaining ih =>
      refine Work.Twins.bind (twins_inTransaction twins_stepCurrent) ?_
      rintro _ _ (⟨rfl⟩ | cause)
      · next outcome =>
          cases outcome with
          | moved source target => exact ih
          | stayed => exact .done (.ok rfl)
      · cases cause with
        | deletedLabel other => exact .done (.ok rfl)
        | _ => exact .done (.error _)

theorem twins_drain : (drain app label).Twins label false Eq false (drain app label) := by
  refine Attempt.twins_choose fun m => ?_
  exact twins_drainFrom _ _

theorem twins_stepOnce (state : State) :
    (stepOnce app m state label).Twins label false Eq false
      (stepOnce app m state label) :=
  twins_inTransaction (twins_stepIn state)

/-- What follows on an attempt is the same, for it depends on the result only. -/
theorem Attempt.Twins.onward {attempt : Attempt α} {next : Except EngineError α → Work β}
    (h : attempt.Twins label false Eq false attempt)
    (hnext : ∀ result, (next result).Twins label false Eq false (next result)) :
    (attempt.run >>= next).Twins label false Eq false (attempt.run >>= next) := by
  refine Work.Twins.bind h ?_
  rintro _ _ (⟨rfl⟩ | cause)
  · exact hnext _
  · exact hnext _

theorem twins_telling (event : LogEvent) (result : α) :
    (do tellLog event; pure result : Work α).Twins label opened Eq opened
      (do tellLog event; pure result) :=
  (twins_tellLog event).bind fun _ _ _ => Work.twins_pure rfl

theorem twins_drainMoved :
    (drainMoved app label).Twins label false Eq false (drainMoved app label) := by
  refine twins_drain.onward fun result => ?_
  split
  · exact Work.twins_pure rfl
  · exact Work.twins_pure rfl
  · exact twins_telling _ _

/-- **A visit of a batch.** -/
theorem twins_visit (state : State) :
    (visit app m state label).Twins label false Eq false (visit app m state label) := by
  refine (twins_stepOnce state).onward fun result => ?_
  split
  · refine twins_drainMoved.bind ?_
    rintro failed _ rfl
    exact Work.twins_pure rfl
  · exact Work.twins_pure rfl
  · exact Work.twins_pure rfl
  · exact Work.twins_pure rfl
  · exact twins_telling _ _

/-! ## Operations -/

theorem twins_stageCreation (metadata : Value) (state : String) :
    (stageCreation label metadata state).Twins label true Eq true
      (stageCreation label metadata state) := by
  refine twins_lockRow.bind ?_
  rintro found _ ⟨rfl, -⟩
  cases found with
  | some row => exact Attempt.twins_throw _
  | none =>
      have hsave := twins_saveRow
        (show (Record.mk label metadata false true).label = label from rfl)
      have happend :=
        twins_appendMove (show (Move.creation label state).label = label from rfl)
      exact hsave.bind fun _ _ _ => happend.bind fun _ _ _ => Attempt.twins_pure rfl

theorem twins_drainCreated :
    (drainCreated app label).Twins label false Eq false (drainCreated app label) := by
  refine twins_drain.onward fun result => ?_
  split
  · exact Work.twins_pure rfl
  · exact Work.twins_pure rfl
  · exact twins_tellLog _

/-- Creations of the same label are twins. -/
theorem twins_createLabel (metadata : Value) :
    (createLabel app label metadata).Twins label false Eq false
      (createLabel app label metadata) := by
  refine Attempt.twins_choose fun m => ?_
  split
  · exact Attempt.twins_throw _
  · refine Attempt.twins_choose fun first => ?_
    refine (twins_inTransaction (twins_stageCreation _ _)).bind fun _ _ _ => ?_
    exact (Attempt.twins_ofWork twins_drainCreated).bind fun _ _ _ =>
      Attempt.twins_pure rfl

theorem twins_stageUpdate (patch : Value) :
    (stageUpdate m label patch).Twins label true Eq true (stageUpdate m label patch) := by
  refine twins_lockLive.bind ?_
  rintro ⟨row, history⟩ ⟨_, other⟩ ⟨rfl, hlabel, hhistory⟩
  have hgate : triggeredGate? m history row.metadata patch (row.metadata.merge patch) =
      triggeredGate? m other row.metadata patch (row.metadata.merge patch) := by
    unfold triggeredGate?
    rw [hhistory.state?]
  simp only [hgate]
  exact Attempt.Twins.bind (twins_saveRow (by exact hlabel)) fun _ _ _ =>
    Attempt.twins_pure rfl

theorem twins_drainUpdated :
    (drainUpdated app label).Twins label false Eq false (drainUpdated app label) := by
  refine twins_drain.onward fun result => ?_
  split
  · exact Work.twins_pure rfl
  · exact twins_tellLog _

theorem twins_takeToGate (gate : Gate) :
    (takeToGate app m label gate).Twins label false Eq false
      (takeToGate app m label gate) := by
  refine (twins_stepOnce _).onward fun result => ?_
  split
  · exact twins_drainUpdated
  · exact Work.twins_pure rfl
  · exact Work.twins_pure rfl
  · exact twins_tellLog _

/-- Updates of the same label are twins. -/
theorem twins_updateLabel (patch : Value) :
    (updateLabel app label patch).Twins label false Eq false
      (updateLabel app label patch) := by
  refine Attempt.twins_choose fun m => ?_
  split
  · exact Attempt.twins_throw _
  · refine (twins_inTransaction (twins_stageUpdate patch)).bind ?_
    rintro ⟨merged, gate?⟩ _ rfl
    cases gate? with
    | none => exact Attempt.twins_pure rfl
    | some gate =>
        exact (Attempt.twins_ofWork (twins_takeToGate gate)).bind fun _ _ _ =>
          Attempt.twins_pure rfl

theorem twins_stageDeletion :
    (stageDeletion label).Twins label true Eq true (stageDeletion label) := by
  refine twins_lockRow.bind ?_
  rintro found _ ⟨rfl, hlabel⟩
  cases found with
  | none => exact Attempt.twins_throw _
  | some row =>
      simp only
      split
      · exact Attempt.twins_pure rfl
      · refine twins_readOwnHistory.bind fun history other hhistory => ?_
        rw [hhistory.state?]
        refine Attempt.Twins.bind (twins_saveRow (by exact hlabel row rfl))
          fun _ _ _ => ?_
        have happend := twins_appendMove
          (show (Move.deletion label other.state?).label = label from rfl)
        exact happend.bind fun _ _ _ => Attempt.twins_pure rfl

/-- Deletions of the same label are twins. -/
theorem twins_deleteLabel :
    (deleteLabel app label).Twins label false Eq false (deleteLabel app label) :=
  Attempt.twins_choose fun _ => twins_inTransaction twins_stageDeletion

theorem twins_stageDemand (state : String) :
    (stageDemand label state).Twins label true Eq true (stageDemand label state) := by
  refine twins_lockLive.bind ?_
  rintro ⟨row, history⟩ ⟨_, other⟩ ⟨rfl, -, hhistory⟩
  simp only [hhistory.state?]
  have happend := twins_appendMove
    (show (Move.demanded label other.state? state).label = label from rfl)
  exact happend.bind fun _ _ _ => Attempt.twins_pure rfl

/-- Demands on the same label are twins. -/
theorem twins_forceLabel (state : String) :
    (forceLabel app label state).Twins label false Eq false
      (forceLabel app label state) := by
  refine Attempt.twins_choose fun m => ?_
  refine Attempt.twins_choose fun _ => ?_
  refine (twins_inTransaction (twins_stageDemand state)).bind fun _ _ _ => ?_
  exact twins_drain.bind fun _ _ _ => Attempt.twins_pure rfl

theorem twins_readRow : (readRow label).Twins label false Eq false (readRow label) := by
  refine Attempt.twins_ofStore .row ?_
  rintro _ _ ⟨found, rfl, rfl, -⟩
  exact .ok rfl

theorem twins_readHistory :
    (readHistory label).Twins label false History.Alike false (readHistory label) := by
  have hread : (Attempt.ofStore (.history label)).Twins label false Renumbered false
      (Attempt.ofStore (.history label)) := by
    refine Attempt.twins_ofStore .history ?_
    rintro _ _ ⟨entries, others, rfl, rfl, hsame⟩
    exact .ok hsame
  exact hread.bind fun _ _ h => Attempt.twins_pure h.ofEntries

theorem twins_readLive :
    (readLive label).Twins label false Eq false (readLive label) := by
  refine twins_readRow.bind ?_
  rintro found _ rfl
  cases found with
  | none => exact Attempt.twins_throw _
  | some row =>
      simp only
      split
      · exact Attempt.twins_throw _
      · exact Attempt.twins_pure rfl

theorem twins_labelMetadata :
    (labelMetadata app label).Twins label false Eq false (labelMetadata app label) := by
  refine Attempt.twins_choose fun _ => twins_readLive.bind ?_
  rintro row _ rfl
  exact Attempt.twins_pure rfl

theorem twins_labelState :
    (labelState app label).Twins label false Eq false (labelState app label) := by
  refine Attempt.twins_choose fun _ => twins_readLive.bind fun _ _ _ => ?_
  refine twins_readHistory.bind fun history other hhistory => ?_
  rw [hhistory.state?]
  cases other.state? with
  | none => exact Attempt.twins_throw _
  | some state => exact Attempt.twins_pure rfl

theorem twins_labelHistory :
    (labelHistory app label).Twins label false History.Alike false
      (labelHistory app label) := by
  refine Attempt.twins_choose fun _ => twins_readRow.bind ?_
  rintro found _ rfl
  cases found with
  | none => exact Attempt.twins_throw _
  | some row => exact twins_readHistory

/-- **Operations.**  An operation on a label depends on nothing but the label. -/
theorem Operation.twins_perform {op : Operation} (hlabel : op.label? = some label) :
    (op.perform app).Twins label false (fun _ _ => True) false (op.perform app) := by
  cases op with
  | list machine => cases hlabel
  | create _ metadata =>
      cases hlabel
      exact (twins_createLabel metadata).bind fun _ _ _ => Attempt.twins_pure trivial
  | update _ patch =>
      cases hlabel
      exact (twins_updateLabel patch).bind fun _ _ _ => Attempt.twins_pure trivial
  | delete _ =>
      cases hlabel; exact twins_deleteLabel.bind fun _ _ _ => Attempt.twins_pure trivial
  | force _ state =>
      cases hlabel
      exact (twins_forceLabel state).bind fun _ _ _ => Attempt.twins_pure trivial
  | metadata _ =>
      cases hlabel; exact twins_labelMetadata.bind fun _ _ _ => Attempt.twins_pure trivial
  | state _ =>
      cases hlabel; exact twins_labelState.bind fun _ _ _ => Attempt.twins_pure trivial
  | history _ =>
      cases hlabel; exact twins_labelHistory.bind fun _ _ _ => Attempt.twins_pure trivial
  | drain _ =>
      cases hlabel; exact twins_drain.bind fun _ _ _ => Attempt.twins_pure trivial

end Turnstile

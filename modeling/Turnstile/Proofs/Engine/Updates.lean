import Turnstile.Proofs.Engine.Chronicle
import Turnstile.Proofs.Engine.Histories

/-!
# Updates of metadata

Of all that a run commits for a label, only creations, updates and deletions touch its
metadata: gates save the row of a label too, but only to mark it, and they have read it
under its lock.  So the metadata of a live label are those of its creation with the
patches of its updates merged into them, each once and in the order of their commits;
and what an update returns is what it has committed (`Chronicle.updates`).
-/

set_option autoImplicit false

namespace Turnstile

/-! ## Creations and patches -/

/-- The metadata that a call creates a label with by a commit, after so many others: a
creation does so by its first. -/
def Call.creation? (label : Label) : Call → Nat → Option Value
  | .operation (.create created metadata), 0 =>
      if created = label then some metadata else none
  | _, _ => none

/-- The patch that a call merges into the metadata of a label by a commit, after so many
others: an update does so by its first. -/
def Call.patch? (label : Label) : Call → Nat → Option Value
  | .operation (.update updated patch), 0 => if updated = label then some patch else none
  | _, _ => none

namespace Moment

/-- The call that commits a transaction at a moment, and how many it has committed
before. -/
def commit? (m : Moment) : Option (Call × Nat) :=
  match m.happening with
  | .said client ⟨.store .commit, _⟩ =>
    (m.before.tasks client).map fun task => (task.call, commitsOf client m.past)
  | _ => none

/-- The metadata that a label is created with at a moment. -/
def creation? (label : Label) (m : Moment) : Option Value :=
  m.commit?.bind fun (call, commits) => call.creation? label commits

/-- The patch of the update of a label that is committed at a moment. -/
def patch? (label : Label) (m : Moment) : Option Value :=
  m.commit?.bind fun (call, commits) => call.patch? label commits

end Moment

variable {app : App} {past : List Happening} {before after s : System}
  {happening : Happening}
variable {client : Client} {label : Label} {moments : List Moment} {call : Call}
  {d : Desk}

/-- The commit of a call, as a moment. -/
theorem Committed.commit? {answer : Except StoreError Unit}
    (h : Committed app past before client call d after) :
    (Moment.mk past before (.said client ⟨.store .commit, answer⟩) after).commit? =
      some (call, commitsOf client past) := by
  obtain ⟨rest, htask⟩ := h.working
  simp [Moment.commit?, htask]

/-- What a commit creates and updates is what its call does. -/
theorem Committed.creation?_patch? (h : Committed app past before client call d after)
    (answer : Except StoreError Unit) (label : Label) :
    (Moment.mk past before (.said client ⟨.store .commit, answer⟩) after).creation?
      label =
        call.creation? label (commitsOf client past) ∧
      (Moment.mk past before (.said client ⟨.store .commit, answer⟩) after).patch? label =
        call.patch? label (commitsOf client past) := by
  rw [Moment.creation?, Moment.patch?, h.commit?]
  exact ⟨rfl, rfl⟩

/-- Where nobody commits, nothing is created and nothing is updated. -/
theorem Moment.creation?_patch?_eq_none {m : Moment}
    (h : ∀ client, m.happening.isCommitOf client = false) (label : Label) :
    m.creation? label = none ∧ m.patch? label = none := by
  have hnobody : m.commit? = none := by
    unfold Moment.commit?
    split
    · next client answer heq =>
        have := h client
        simp [heq, Happening.isCommitOf] at this
    · rfl
  rw [Moment.creation?, Moment.patch?, hnobody]
  exact ⟨rfl, rfl⟩

/-- What a deed is to the label on its desk: the metadata that the label is created
with, the patch that is merged into its metadata, or neither. -/
inductive Desk.Deed (app : App) (d : Desk) : Option Value → Option Value → Prop
  | created {metadata : Value} (hcreated : d.Created app metadata) :
      Deed app d (some metadata) none
  | updated {patch : Value} (hupdated : d.Updated app patch) :
      Deed app d none (some patch)
  | deleted (hdeleted : d.Deleted) : Deed app d none none
  | demanded {state : String} (hdemanded : d.Demanded app state) : Deed app d none none
  | stepped {state : State} {outcome : Outcome} (hstep : StepDeed app d state outcome) :
      Deed app d none none

/-- **What calls commit.** -/
theorem Call.Deed.onDesk {commits : Nat} (h : call.Deed app commits d) :
    d.Deed app (call.creation? d.label commits) (call.patch? d.label commits) := by
  unfold Call.Deed at h
  split at h
  · obtain ⟨rfl, hcreated⟩ := h
    simpa [Call.creation?, Call.patch?] using Desk.Deed.created hcreated
  · obtain ⟨rfl, hupdated⟩ := h
    simpa [Call.creation?, Call.patch?] using Desk.Deed.updated hupdated
  · exact .deleted h.2
  · exact .demanded h.2
  · next hcreate hupdate _ _ =>
      obtain ⟨-, state, outcome, hstep⟩ := h
      have hcreation : call.creation? d.label commits = none := by
        unfold Call.creation?
        split
        · exact absurd rfl (hcreate _ _ rfl)
        · rfl
      have hpatch : call.patch? d.label commits = none := by
        unfold Call.patch?
        split
        · exact absurd rfl (hupdate _ _ rfl)
        · rfl
      rw [hcreation, hpatch]
      exact .stepped hstep

/-- A deed stages nothing, or one entry with a number greater than all before it. -/
theorem Desk.Deed.adds {creation patch : Option Value}
    (hdeed : d.Deed app creation patch) :
    d.added =
      [] ∨ ∃ entry, d.added = [entry] ∧ ∀ earlier ∈ d.past, earlier.id < entry.id := by
  have hstaged : ∀ {move : Move}, d.Adds move →
      ∃ entry, d.added = [entry] ∧ ∀ earlier ∈ d.past, earlier.id < entry.id := by
    rintro move ⟨entry, hadded, -, hlater⟩
    exact ⟨entry, hadded, hlater⟩
  cases hdeed with
  | created hcreated =>
      obtain ⟨m, first, -, -, hadds⟩ := hcreated.added
      exact .inr (hstaged hadds)
  | updated hupdated => exact .inl hupdated.added
  | deleted hdeleted =>
      cases hdeleted with
      | before hrow hdeleted hsaved hadded => exact .inl hadded
      | now hheard hlive hsaved hadds => exact .inr (hstaged hadds)
  | demanded hdemanded => exact .inr (hstaged hdemanded.added)
  | stepped hstep =>
      cases hstep with
      | stayed hidle hquiet hsaved hadded => exact .inl hadded
      | looked hat hsaved hadded => exact .inl hadded
      | passed hat hsaved hsaw hopen hnext hadds => exact .inr (hstaged hadds)
      | accepted hat hcurrent hsaved hheard hnext hadds => exact .inr (hstaged hadds)

/-- A deed creates and updates the label on the desk only. -/
theorem Call.Deed.other {commits : Nat} (h : call.Deed app commits d)
    (hother : label ≠ d.label) :
    call.creation? label commits = none ∧ call.patch? label commits = none := by
  unfold Call.creation? Call.patch?
  split
  · next created metadata =>
      obtain ⟨rfl, -⟩ : d.label = created ∧ d.Created app metadata := h
      simp [Ne.symm hother]
  · split
    · next updated patch _ =>
        obtain ⟨rfl, -⟩ : d.label = updated ∧ d.Updated app patch := h
        simp [Ne.symm hother]
    · exact ⟨rfl, rfl⟩

/-! ## The account of a label's metadata -/

/-- The metadata of a label that is live are those of its only creation, with these
patches merged into them; a label that was never created was never updated. -/
def Accounted (creations patches : List Value) : Option Record → Prop
  | none => creations = [] ∧ patches = []
  | some row => row.deleted = false →
      ∃ metadata, creations = [metadata] ∧
        row.metadata = patches.foldl Value.merge metadata

variable {creations patches : List Value}

/-- An account depends on whether a row is live, and on its metadata. -/
theorem Accounted.congr {row other : Record} (h : Accounted creations patches (some row))
    (hdeleted : other.deleted = row.deleted) (hmetadata : other.metadata = row.metadata) :
    Accounted creations patches (some other) := by
  intro hlive
  rw [hmetadata]
  exact h (hdeleted ▸ hlive)

/-- A step touches no metadata. -/
theorem Accounted.after_step {state : State} {outcome : Outcome}
    (h : Accounted creations patches d.row) (hdeed : StepDeed app d state outcome) :
    Accounted creations patches d.rowAfter := by
  have hmarked : ∀ {row : Record}, d.Live row → d.saved = row.marked →
      Accounted creations patches d.rowAfter := by
    intro row hlive hsaved
    rw [Desk.rowAfter_marked hlive hsaved]
    exact (hlive.1 ▸ h).congr rfl rfl
  cases hdeed with
  | stayed hidle hquiet hsaved hadded => simpa [Desk.rowAfter, hsaved] using h
  | looked hat hsaved hadded hclosed => exact hmarked hat.live hsaved
  | passed hat hsaved hsaw hopen hnext hadded => exact hmarked hat.live hsaved
  | accepted hat hcurrent hsaved hheard hnext hadded =>
      simpa [Desk.rowAfter, hsaved] using h

/-- **Deeds keep the account.**  A creation opens it, an update adds its patch to it,
and no other deed touches the metadata of a label that stays live. -/
theorem Accounted.after_deed {creation patch : Option Value}
    (h : Accounted creations patches d.row) (hdeed : d.Deed app creation patch) :
    Accounted (creations ++ creation.toList) (patches ++ patch.toList) d.rowAfter := by
  cases hdeed with
  | @created metadata hcreated =>
      rw [hcreated.unborn] at h
      obtain ⟨rfl, rfl⟩ := h
      rw [Desk.rowAfter, hcreated.saved]
      intro _
      exact ⟨metadata, rfl, rfl⟩
  | @updated patch hupdated =>
      obtain ⟨m, row, -, hlive, hsaved⟩ := hupdated.saved
      rw [hlive.1] at h
      obtain ⟨metadata, rfl, hmetadata⟩ := h hlive.2
      rw [Desk.rowAfter, hsaved]
      intro _
      exact ⟨metadata, rfl, by simp [Desk.updated, hmetadata]⟩
  | deleted hdeleted =>
      simp only [Option.toList_none, List.append_nil]
      cases hdeleted with
      | before hrow hdeleted hsaved hadded => simpa [Desk.rowAfter, hsaved] using h
      | now hheard hlive hsaved hadded =>
          rw [Desk.rowAfter, hsaved]
          intro hfalse
          cases hfalse
  | demanded hdemanded => simpa [Desk.rowAfter, hdemanded.saved] using h
  | stepped hstep => simpa using h.after_step hstep

/-- What is picked from a list that grows at its end. -/
theorem filterMap_concat {α β : Type} (f : α → Option β) (l : List α) (a : α) :
    (l ++ [a]).filterMap f = l.filterMap f ++ (f a).toList := by
  cases h : f a <;> simp [h]

/-- **The account holds in every run.** -/
theorem Chronicle.accounted (happ : app.Built) (chronicle : Chronicle app moments past s)
    (label : Label) :
    Accounted (moments.filterMap (Moment.creation? label))
      (moments.filterMap (Moment.patch? label))
      (s.store.row? label) := by
  induction chronicle with
  | empty => exact ⟨rfl, rfl⟩
  | @step moments past before after happening chronicle hstep ih =>
      let m : Moment := ⟨past, before, happening, after⟩
      rw [filterMap_concat, filterMap_concat]
      cases (chronicle.faithful happ).effect hstep with
      | none hsilent hsame =>
          obtain ⟨hcreation, hpatch⟩ :=
            Moment.creation?_patch?_eq_none (m := m) hsilent label
          rw [(hsame label).1, hcreation, hpatch]
          simpa using ih
      | @commit client call d answer _ hcommitted =>
          obtain ⟨hcreation, hpatch⟩ := hcommitted.creation?_patch? answer label
          rw [hcreation, hpatch]
          by_cases hlabel : label = d.label
          · subst hlabel
            rw [hcommitted.shown.row] at ih
            rw [hcommitted.row]
            exact ih.after_deed hcommitted.deed.onDesk
          · obtain ⟨hcreation, hpatch⟩ := hcommitted.deed.other hlabel
            rw [(hcommitted.other label hlabel).1, hcreation, hpatch]
            simpa using ih

/-! ## What an update returns -/

/-- What is said in a call of an update that returns metadata: the label is locked, its
row is saved with these metadata, and that is committed. -/
def SaidOfUpdate (label : Label) (value : Value) (said : List Exchange) : Prop :=
  ∃ begun locked past row committed more, row.metadata = value ∧
    said = ([⟨.store .begin, begun⟩, ⟨.store (.lock label), locked⟩,
      ⟨.store (.ownHistory label), past⟩] ++ [⟨.store (.save row), .ok ()⟩]) ++
      ⟨.store .commit, committed⟩ :: more

/-- What is said in a transaction that succeeds is said between its beginning and its
commit. -/
theorem said_inTransaction {α : Type} {attempt : Attempt α} {known : List Exchange}
    {goal : Except EngineError α → List Exchange → Prop}
    (herror : ∀ error after, goal (.error error) after)
    (h : ∀ begun, attempt.Follows transcript
      (fun r after => ∀ a, r = .ok a →
        ∀ committed, goal (.ok a) (after ++ [⟨.store .commit, committed⟩]))
      (known ++ [⟨.store .begin, begun⟩])) :
    (inTransaction attempt).Follows transcript goal known := by
  change (Work.request (.store .begin) >>= _).Follows _ _ _
  rw [Work.follows_bind, Work.follows_request]
  refine ⟨trivial, ?_⟩
  rintro begun after rfl
  cases begun with
  | error refusal => exact herror _ _
  | ok _ =>
      rw [Work.follows_bind]
      refine Work.Follows.mono (h (.ok _)) fun result after hafter => ?_
      cases result with
      | ok a =>
          rw [settle, Work.follows_bind, Work.follows_request]
          refine ⟨trivial, ?_⟩
          rintro committed after rfl
          cases committed with
          | ok _ => exact hafter a rfl _
          | error refusal => exact herror _ _
      | error error =>
          rw [settle, Work.follows_bind, Work.follows_request]
          refine ⟨trivial, ?_⟩
          rintro answer after rfl
          cases answer with
          | ok _ => exact herror _ _
          | error refusal => exact ⟨trivial, fun _ _ _ => herror _ _⟩

/-- An attempt to ask the store, as it is said; a refusal ends the whole. -/
theorem said_ofStore {request : StoreRequest} {known : List Exchange}
    {goal : Except EngineError request.Result → List Exchange → Prop}
    (herror : ∀ error after, goal (.error error) after)
    (h : ∀ answer, goal (.ok answer) (known ++ [⟨.store request, .ok answer⟩])) :
    (Attempt.ofStore request).Follows transcript goal known := by
  refine Attempt.follows_ofStore.2 ⟨trivial, ?_⟩
  rintro answer after rfl
  cases answer with
  | ok answer => exact h answer
  | error refusal => exact herror _ _

/-- The talk of an update that succeeds, up to its commit. -/
theorem stageUpdate_said {m : Machine} {patch : Value} (begun : Except StoreError Unit) :
    (stageUpdate m label patch).Follows transcript
      (fun r after => ∀ a, r = .ok a → ∀ committed,
        SaidOfUpdate label a.1 (after ++ [⟨.store .commit, committed⟩]))
          [⟨.store .begin, begun⟩] := by
  have hfailure :
      ∀ (error : EngineError) (after : List Exchange) (a : Value × Option Gate),
        .error error = Except.ok a → ∀ committed,
          SaidOfUpdate label a.1 (after ++ [⟨.store .commit, committed⟩]) := by
    intro error after a h
    cases h
  refine Attempt.follows_bind.2
    (Attempt.follows_bind.2 (said_ofStore hfailure fun found => ?_))
  cases found with
  | none => exact hfailure _ _
  | some row =>
      simp only [afterward]
      split
      · exact hfailure _ _
      · refine Attempt.follows_bind.2
          (Attempt.follows_bind.2 (said_ofStore hfailure fun past => ?_))
        refine Attempt.follows_bind.2 (said_ofStore hfailure fun _ => ?_)
        rintro a hresult committed
        cases hresult
        exact ⟨begun, _, _, _, committed, [], rfl, rfl⟩

/-- **What an update says.** -/
theorem updateLabel_said {patch : Value} :
    (updateLabel app label patch).Follows transcript
      (fun r after => ∀ value, r = .ok value → SaidOfUpdate label value after) [] := by
  have hfailure : ∀ (error : EngineError) (after : List Exchange) (value : Value),
      .error error = Except.ok value → SaidOfUpdate label value after := by
    intro error after value h
    cases h
  refine Attempt.follows_bind.2 (Attempt.follows_ofExcept.2 ?_)
  cases app.machine label.machine with
  | error error => exact hfailure _ _
  | ok m =>
      simp only [Except.mapError, afterward]
      split
      · exact hfailure _ _
      · refine Attempt.follows_bind.2 (said_inTransaction hfailure fun begun => ?_)
        refine (stageUpdate_said begun).mono
          fun result after hafter a hresult committed => ?_
        obtain ⟨merged, gate?⟩ := a
        have hsaid := hafter _ hresult committed
        cases gate? with
        | none =>
            rintro value hvalue
            cases hvalue
            exact hsaid
        | some gate =>
            refine Attempt.follows_bind.2 (Attempt.follows_ofWork.2 ?_)
            refine (Work.follows_transcript _ _).mono
              fun _ later hgrown value hvalue => ?_
            cases hvalue
            obtain ⟨more, rfl⟩ := hgrown
            obtain ⟨begun, locked, past, row, committed, rest, hrow, hall⟩ := hsaid
            exact ⟨begun, locked, past, row, committed, rest ++ more,
              hrow, by simp [hall]⟩

/-- A client whose last words saved a row has staged it, or has vanished since. -/
theorem Run.staged {front : List Exchange} {row : Record} (run : Run app past s)
    (hsaid : exchangesOf client past = front ++ [⟨.store (.save row), .ok ()⟩]) :
    (∃ t, s.store.transaction? client = some t ∧ findRow t.rows row.label = some row) ∨
      ∃ call, s.tasks client = some ⟨call, none⟩ := by
  induction run with
  | empty => simp [exchangesOf] at hsaid
  | @step past before after happening run hstep ih =>
      cases hstep with
      | call other made hnew =>
          rw [exchangesOf_unsaid (by simp)] at hsaid
          refine (ih hsaid).imp_right ?_
          rintro ⟨call, htask⟩
          have hother : client ≠ other := by
            rintro rfl
            cases hnew.symm.trans htask
          exact ⟨call, by simpa [System.assign, hother] using htask⟩
      | @vanish other made work hwas =>
          rw [exchangesOf_unsaid (by simp)] at hsaid
          by_cases hother : client = other
          · exact .inr ⟨made, by simp [System.assign, hother]⟩
          · refine (ih hsaid).imp ?_ ?_
            · rintro ⟨t, ht, hfound⟩
              exact ⟨t,
                Store.transaction?_rollback.trans ((if_neg hother).trans ht), hfound⟩
            · rintro ⟨call, htask⟩
              exact ⟨call, by simpa [System.assign, hother] using htask⟩
      | @say made r next answer store other now hwas hanswer =>
          by_cases hother : client = other
          · subst hother
            rw [exchangesOf_said] at hsaid
            cases (List.append_singleton_inj.1 hsaid).2
            by_cases hheld : before.store.holds client row.label = true
            · obtain ⟨t, ht, -⟩ := Store.holds_iff.1 hheld
              simp only [Request.Answered, StoreRequest.serve, Store.save, hheld,
                if_true] at hanswer
              cases hanswer
              refine .inl
                ⟨_, Store.transaction?_update_self ht (Store.staging row)
                  fun _ => rfl, ?_⟩
              exact (findRow_putRow row t.rows row.label).trans (if_pos rfl)
            · simp only [Request.Answered, StoreRequest.serve, Store.save,
                hheld] at hanswer
              cases hanswer
          · have hsilent :
                ∀ exchange, Happening.said other ⟨r, answer⟩ ≠ .said client exchange := by
              rintro exchange heq
              cases heq
              exact hother rfl
            rw [exchangesOf_unsaid hsilent] at hsaid
            refine (ih hsaid).imp ?_ ?_
            · rintro ⟨t, ht, hfound⟩
              refine ⟨t, ?_, hfound⟩
              cases r with
              | store request =>
                  exact ((Store.served hanswer).transaction?_other hother).trans ht
              | _ => cases hanswer; exact ht
            · rintro ⟨call, htask⟩
              exact ⟨call, by simpa [System.assign, hother] using htask⟩

/-- What lies staged on a desk when the last words of its client saved a row. -/
theorem Committed.saved {front : List Exchange} {row : Record} (run : Run app past before)
    (h : Committed app past before client call d after)
    (hsaid : exchangesOf client past = front ++ [⟨.store (.save row), .ok ()⟩]) :
    d.saved = some row := by
  obtain ⟨rest, htask⟩ := h.working
  rcases run.staged hsaid with ⟨t, ht, hfound⟩ | ⟨call, hvanished⟩
  · cases h.shown.transaction.symm.trans ht
    cases hsaved : d.saved with
    | none => simp [hsaved, findRow] at hfound
    | some other =>
        rw [hsaved, Option.toList_some, findRow_cons] at hfound
        split at hfound
        · exact hfound
        · cases hfound
  · cases htask.symm.trans hvanished

/-- What is said before a first commit: nobody has committed yet. -/
theorem commitsOf_eq_zero {past : List Happening}
    (h : ∀ answer, ⟨.store .commit, answer⟩ ∉ exchangesOf client past) :
    commitsOf client past = 0 := by
  refine Nat.eq_zero_of_not_pos fun hpos => ?_
  obtain ⟨answer, hsaid⟩ := commitsOf_pos.1 hpos
  exact h answer (List.mem_filterMap.2 ⟨_, hsaid, by simp [Happening.exchange?]⟩)

/-- What an update says, as a call. -/
theorem Call.update_said {patch : Value} :
    ((Call.operation (.update label patch)).perform app).run.Follows transcript
      (fun r after => ∀ result, r = .ok result →
        ∃ value, result = .operation (.document value) ∧
          SaidOfUpdate label value after) [] := by
  refine Attempt.follows_bind.2 (Attempt.follows_bind.2 (updateLabel_said.mono
    fun r after hsaid => ?_))
  cases r with
  | error error =>
      rintro result hresult
      cases hresult
  | ok value =>
      rintro result hresult
      cases hresult
      exact ⟨value, rfl, hsaid value rfl⟩

/-- **An update returns what it has committed.** -/
theorem Chronicle.updated (happ : app.Built)
    (chronicle : Chronicle app moments past s) {patch : Value}
    {result : CallResult}
    (htask : s.tasks client =
      some ⟨.operation (.update label patch), some (.done (.ok result))⟩) :
    ∃ earlier m later row, moments = earlier ++ m :: later ∧
      m.happening.isCommitOf client = true ∧ m.patch? label = some patch ∧
      m.after.store.row? label = some row ∧
      result = .operation (.document row.metadata) := by
  obtain ⟨value, rfl, begun, locked, known, row, committed, more, rfl, hsaid⟩ :=
    chronicle.run.follows_transcript htask Call.update_said result rfl
  obtain ⟨earlier, m, later, rfl, hcommit, hbefore⟩ := chronicle.exchange_at hsaid
  obtain ⟨chronicleBefore, hstep, -⟩ := chronicle.upTo
  have heffect := (chronicleBefore.faithful happ).effect hstep
  obtain ⟨mPast, mBefore, happening, mAfter⟩ := m
  obtain rfl : happening = .said client ⟨.store .commit, committed⟩ := hcommit
  cases heffect with
  | none hsilent _ => exact absurd (hsilent client) (by simp [Happening.isCommitOf])
  | @commit _ call d _ _ hcommitted =>
      obtain ⟨work, hworking⟩ := hcommitted.working
      obtain ⟨rest, hkept⟩ := chronicle.task_kept ⟨_, hworking⟩
      obtain rfl : call = .operation (.update label patch) := by
        simpa using congrArg (Option.map Task.call) (hkept.symm.trans htask)
      have hfirst : commitsOf client mPast = 0 := commitsOf_eq_zero (by simp [hbefore])
      have hdeed := hcommitted.deed
      rw [hfirst] at hdeed
      obtain ⟨rfl, -⟩ := hdeed
      have hsaved : d.saved = some row := hcommitted.saved chronicleBefore.run hbefore
      refine ⟨earlier, _, later, row, rfl, by simp [Happening.isCommitOf], ?_, ?_, rfl⟩
      · rw [(hcommitted.creation?_patch? committed d.label).2, hfirst]
        simp [Call.patch?]
      · rw [hcommitted.row, Desk.rowAfter, hsaved]
        rfl

/-- **No update is lost and none is made twice.**  In every run, however its calls are
interleaved: a label that is live was created once, and its committed metadata are those
of its creation with the patches of the updates that were committed for it merged into
them, one after the other in the order of their commits; and an update that succeeds
returns the metadata that it has committed. -/
theorem Chronicle.updates (happ : app.Built) (chronicle : Chronicle app moments past s)
    (label : Label) :
    (∀ row, s.store.row? label = some row → row.deleted = false →
      ∃ metadata, moments.filterMap (Moment.creation? label) = [metadata] ∧
        row.metadata =
          (moments.filterMap (Moment.patch? label)).foldl Value.merge metadata) ∧
      ∀ client patch result,
        s.tasks client =
          some ⟨.operation (.update label patch), some (.done (.ok result))⟩ →
        ∃ earlier m later row, moments = earlier ++ m :: later ∧
          m.happening.isCommitOf client = true ∧ m.patch? label = some patch ∧
          m.after.store.row? label = some row ∧
          result = .operation (.document row.metadata) := by
  refine ⟨fun row hrow hlive => ?_,
    fun client patch result htask => chronicle.updated happ htask⟩
  have haccounted := chronicle.accounted happ label
  rw [hrow] at haccounted
  exact haccounted hlive

namespace Storehouse

def now : Time.DateTime := ⟨0, ⟨0, 0⟩⟩

def stored : Label := ⟨"a", "storage"⟩

def patch : Value := .obj [("k", .str "v")]

/-- A label is created in the storehouse. -/
def created : Story :=
  (Story.call {} storehouse (.worker 0) (.operation (.create stored (.obj [])))).drive
    (agreeable now) (.worker 0) now 5

theorem chronicle_created :
    Chronicle storehouse created.moments created.past created.system :=
  (Chronicle.opening (.worker 0) (.operation (.create stored (.obj [])))).drive _ _ _ _

/-- Its metadata are updated. -/
def amended : Story :=
  (created.call storehouse (.worker 1) (.operation (.update stored patch))).drive
    (agreeable now) (.worker 1) now 5

end Storehouse

open Storehouse in
/-- An update is answered with the metadata of the creation into which its patch was
merged, and they are those of the row. -/
theorem Chronicle.updates_storehouse : storehouse.Built ∧
    Chronicle storehouse amended.moments amended.past amended.system ∧
    (∃ metadata, amended.moments.filterMap (Moment.creation? stored) = [metadata] ∧
      amended.moments.filterMap (Moment.patch? stored) = [patch] ∧
      amended.system.store.row? stored =
        some ⟨stored, metadata.merge patch, false, true⟩) ∧
    ∃ earlier m later row, amended.moments = earlier ++ m :: later ∧
      m.patch? stored = some patch ∧ m.after.store.row? stored = some row ∧
      amended.system.tasks (.worker 1) = some ⟨.operation (.update stored patch),
        some (.done (.ok (.operation (.document row.metadata))))⟩ := by
  have hempty : Chronicle storehouse ({} : Story).moments ({} : Story).past
      ({} : Story).system := .empty
  have hcreated : Chronicle storehouse created.moments created.past created.system :=
    (hempty.call (.worker 0) (.operation (.create stored (.obj []))) rfl).drive _ _ _ _
  have hnew : (created.system.tasks (.worker 1)).isNone = true := by decide +kernel
  have hamended : Chronicle storehouse amended.moments amended.past amended.system :=
    (hcreated.call _ _ (Option.isNone_iff_eq_none.1 hnew)).drive _ _ _ _
  have hrow : amended.system.store.row? stored = some ⟨stored, patch, false, true⟩ := by
    with_unfolding_all rfl
  have hdone : amended.system.tasks (.worker 1) = some ⟨.operation (.update stored patch),
      some (.done (.ok (.operation (.document patch))))⟩ := by
    with_unfolding_all rfl
  have hpatches : amended.moments.filterMap (Moment.patch? stored) = [patch] := by
    with_unfolding_all rfl
  obtain ⟨hfold, hreturns⟩ := Chronicle.updates storehouse_built hamended stored
  obtain ⟨metadata, hcreation, hmetadata⟩ := hfold _ hrow rfl
  obtain ⟨earlier, m, later, row, hmoments, -, hpatch, hafter, hresult⟩ :=
    hreturns (.worker 1) patch _ hdone
  rw [hpatches] at hmetadata
  have hmerged : patch = metadata.merge patch := hmetadata
  refine ⟨storehouse_built, hamended, ⟨metadata, hcreation, hpatches, hmerged ▸ hrow⟩,
    earlier, m, later, row, hmoments, hpatch, hafter, ?_⟩
  rw [hdone, hresult]

end Turnstile

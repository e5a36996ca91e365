import Turnstile.Proofs.Engine.Faithful

/-!
# Histories of labels

In every run, whatever is called and however the calls are interleaved, the committed
history of a label that was created is consistent with its machine, and the committed
row of the label tells whether the history has ended (`Run.histories`).  A label is
created at most once.
-/

set_option autoImplicit false

namespace Turnstile

open Time (DateTime)

/-- The row and the history of a label that was created fit each other and the label's
machine. -/
structure Consistent (m : Machine) (row : Record) (history : List Entry) : Prop where
  flawless : (History.ofEntries history).flaw? m = none
  /-- Numbers increase. -/
  ids : history.Pairwise fun earlier later => earlier.id < later.id
  /-- The first entry is the only one that leaves no state; it enters the first state of
  the machine. -/
  creation : ∃ first rest, history = first :: rest ∧ first.left = none ∧
    (∃ initial, m.initial? = some initial ∧ first.entered = some initial.name) ∧
    ∀ entry ∈ rest, entry.left ≠ none
  /-- Only states of the machine are entered. -/
  states : ∀ entry ∈ history, ∀ state, entry.entered = some state →
    (m.state? state).isSome
  /-- The row says whether the last entry has ended the label. -/
  deleted : row.deleted = true ↔
    ∃ last, history.getLast? = some last ∧ last.entered = none

/-- A walk is consistent. -/
theorem Walk.consistent {m : Machine} {row : Record} {past : List Entry}
    {state : Option String} (walk : Walk m past state)
    (hdeleted : row.deleted = true ↔ state = none) :
    Consistent m row past where
  flawless := by rw [walk.ofEntries, walk.flaw?_eq_none]
  ids := walk.ids
  creation := walk.creation_first
  states := walk.entered_state
  deleted := by
    obtain ⟨last, hlast⟩ :=
      Option.isSome_iff_exists.1 (List.getLast?_isSome.2 walk.ne_nil)
    have hstate : last.entered = state := by simpa [hlast] using walk.last
    simp [hdeleted, hlast, hstate]

/-- A client has called for the creation of a label and has committed. -/
def Creates (past : List Happening) (label : Label) (client : Client) : Prop :=
  (∃ metadata, .called client (.operation (.create label metadata)) ∈ past) ∧
    ∃ answer, .said client ⟨.store .commit, answer⟩ ∈ past

variable {app : App} {past : List Happening} {before after : System}
  {happening : Happening}

/-- A label that has a row keeps one. -/
theorem Faithful.row_kept (h : Faithful app past before)
    (hstep : System.Step app before happening after) {label : Label}
    (hrow : (before.store.row? label).isSome) : (after.store.row? label).isSome := by
  cases h.effect hstep with
  | none _ hsame => rwa [(hsame label).1]
  | @commit client call d _ _ hcommitted =>
      by_cases hlabel : label = d.label
      · subst hlabel
        rw [hcommitted.shown.row] at hrow
        rw [hcommitted.row, Desk.rowAfter, Option.isSome_or, hrow, Bool.or_true]
      · rwa [(hcommitted.other label hlabel).1]

/-- A creation that was committed had been committed before, or it is the first deed for
its label. -/
theorem Faithful.creates_step (h : Faithful app past before) (run : Run app past before)
    (hstep : System.Step app before happening after) {label : Label} {client : Client}
    (hcreates : Creates (past ++ [happening]) label client) :
    Creates past label client ∨ before.store.row? label = none ∧
      (after.store.row? label).isSome ∧ happening.isCommitOf client = true := by
  obtain ⟨⟨metadata, hcalled⟩, hsaid⟩ := hcreates
  obtain ⟨rest, htask⟩ := (run.step hstep).task_of_called hcalled
  by_cases hfirst : commitsOf client past = 0
  · have hcommit : happening.isCommitOf client = true := by
      have hpos := commitsOf_pos.2 hsaid
      rw [commitsOf_append, hfirst, Nat.zero_add] at hpos
      cases hnot : happening.isCommitOf client with
      | true => rfl
      | false => exact absurd hpos (by rw [hnot]; exact Nat.lt_irrefl 0)
    cases h.effect hstep with
    | none hsilent _ => exact absurd hcommit (by simp [hsilent client])
    | @commit other call d answer after hcommitted =>
        obtain rfl : other = client := of_decide_eq_true hcommit
        obtain ⟨work, hworking⟩ := hcommitted.working
        obtain ⟨kept, hkept⟩ := hstep.task_kept ⟨_, hworking⟩
        obtain rfl : call = .operation (.create label metadata) := by
          simpa using congrArg (Option.map Task.call) (hkept.symm.trans htask)
        have hdeed := hcommitted.deed
        rw [hfirst] at hdeed
        obtain ⟨rfl, hcreated⟩ := hdeed
        refine .inr ⟨hcommitted.shown.row.trans hcreated.unborn, ?_, hcommit⟩
        rw [hcommitted.row, Desk.rowAfter, hcreated.saved]
        rfl
  · refine .inl ⟨⟨metadata, ?_⟩, commitsOf_pos.1 (Nat.pos_of_ne_zero hfirst)⟩
    rcases List.mem_append.1 hcalled with hold | hnow
    · exact hold
    · obtain rfl := List.mem_singleton.1 hnow
      cases hstep with
      | call _ _ hnew => exact absurd (h.uncalled hnew).2 hfirst

/-- A label whose creation was committed has a row, and its creation was committed by
one client only. -/
theorem Run.creates_once (happ : app.Built) {s : System}
    (run : Run app past s) {label : Label} {client : Client}
    (hcreates : Creates past label client) :
    (s.store.row? label).isSome ∧ ∀ other, Creates past label other → other = client := by
  induction run generalizing client with
  | empty =>
      obtain ⟨-, answer, hsaid⟩ := hcreates
      cases hsaid
  | @step past before after happening run hstep ih =>
      have hfaithful := run.faithful happ
      rcases hfaithful.creates_step run hstep hcreates with hold | ⟨hnone, hsome, hcommit⟩
      · obtain ⟨hrow, honly⟩ := ih hold
        refine ⟨hfaithful.row_kept hstep hrow, fun other hother => ?_⟩
        rcases hfaithful.creates_step run hstep hother with hother | ⟨hnone, -⟩
        · exact honly other hother
        · simp [hnone] at hrow
      · refine ⟨hsome, fun other hother => ?_⟩
        rcases hfaithful.creates_step run hstep hother with hother | ⟨-, -, hsame⟩
        · simpa [hnone] using (ih hother).1
        · exact Happening.isCommitOf_unique hcommit hsame

/-- **Histories are consistent in every run.**  Whatever calls are made on an
application of built machines, by however many clients, whatever the world answers them
and however they are interleaved: a label has neither a row nor a history, or its row
and its history fit each other and its machine; and of all calls that create it at most
one commits. -/
theorem Run.histories (happ : app.Built) {s : System} (run : Run app past s)
    (label : Label) :
    (s.store.row? label = none ∧ s.store.history label = [] ∨
      ∃ m row, app.machine label.machine = .ok m ∧ s.store.row? label = some row ∧
        Consistent m row (s.store.history label)) ∧
      ∀ first second, Creates past label first → Creates past label second →
        first = second := by
  refine ⟨?_,
    fun first second hfirst hsecond => (run.creates_once happ hsecond).2 first hfirst⟩
  cases hrow : s.store.row? label with
  | none =>
      have hlawful := (run.faithful happ).lawful label
      rw [hrow] at hlawful
      exact .inl ⟨rfl, hlawful.past_eq_nil⟩
  | some row =>
      have hlawful := (run.faithful happ).lawful label
      rw [hrow] at hlawful
      obtain ⟨m, state, hmachine, -, walk, hdeleted⟩ := hlawful.of_row
      exact .inr ⟨m, row, hmachine, rfl, walk.consistent hdeleted⟩

/-- A machine in which labels are stored and stay. -/
def storage : Machine :=
  ⟨"storage", [.action ⟨"stored", "https://example.com", .stay⟩], [], []⟩

theorem storage_built : storage.Built := by
  have hreached : reachedNames storage.states = ["stored"] := by
    change reachFrom storage.states ["stored"] [] = _
    rw [reachFrom, dif_neg (by decide)]
    split
    · next h => cases h
    · next s h => cases h; rw [show _ ++ _ = [] from rfl, reachFrom]
  have hvalid : violations storage.states storage.feeds = [] := by
    rw [violations, unreachableStates, hreached]
    decide
  exact ⟨⟨"storage", [.action "stored" (some "https://example.com") .stay], [], []⟩,
    Blueprint.build_eq_ok rfl rfl hvalid⟩

/-- An application of that machine alone. -/
def storehouse : App := .ofMachines [storage] {} true

theorem storehouse_built : storehouse.Built :=
  ⟨[storage], {}, true, [], rfl, fun _ hm => List.mem_singleton.1 hm ▸ storage_built⟩

/-- Somebody creates a label in it. -/
theorem storehouse_run :
    ∃ past s, Run storehouse past s ∧ (s.store.row? ⟨"a", "storage"⟩).isSome := by
  let client : Client := .worker 0
  let now : DateTime := ⟨0, ⟨0, 0⟩⟩
  have hcalled : Run storehouse _ _ :=
    Run.empty.step (.call client (.operation (.create ⟨"a", "storage"⟩ (.obj []))) rfl)
  have hbegun := hcalled.step (.say client now rfl rfl)
  have hlocked := hbegun.step (.say client now rfl rfl)
  have hsaved := hlocked.step (.say client now rfl rfl)
  have hadded := hsaved.step (.say client now rfl rfl)
  have hcommitted := hadded.step (.say client now rfl rfl)
  exact ⟨_, _, hcommitted, rfl⟩

/-- A created label has a row, and a history that agrees with it. -/
theorem Run.histories_storehouse :
    ∃ past s m row, storehouse.Built ∧ Run storehouse past s ∧
    storehouse.machine "storage" = .ok m ∧ s.store.row? ⟨"a", "storage"⟩ = some row ∧
    Consistent m row (s.store.history ⟨"a", "storage"⟩) := by
  obtain ⟨past, s, run, hrow⟩ := storehouse_run
  rcases (Run.histories storehouse_built run ⟨"a", "storage"⟩).1 with
    ⟨hnone, -⟩ | ⟨m, row, hmachine, hrow, hconsistent⟩
  · simp [hnone] at hrow
  · exact ⟨past, s, m, row, storehouse_built, run, hmachine, hrow, hconsistent⟩

end Turnstile

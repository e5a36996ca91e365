import Turnstile.Proofs.Engine.Deletion

/-!
# Where a label is

The state of a live label can be learned in several ways: from the list of the labels in
a state, from the label itself, from its last committed entry, or from the entry with
the greatest number.  Numbers are drawn before entries are committed, and others commit
in between; still the entries of one label are committed in the order of their numbers,
for its history is a walk (`Run.faithful`).  So all these ways agree, in every system
that a run reaches (`Run.whereabouts`), and the lists of a machine's states are the list
of its live labels, taken apart (`Store.Listed`).
-/

set_option autoImplicit false

namespace Turnstile

open Time (DateTime)

/-! ## Sorting -/

/-- What is sorted by a key is in the order of the key. -/
theorem pairwise_mergeSort_key {α κ : Type} [LE κ] [DecidableLE κ]
    [Std.IsLinearPreorder κ] (key : α → κ) (elements : List α) :
    (elements.mergeSort fun a b => key a ≤ key b).Pairwise fun a b => key a ≤ key b := by
  have hsorted := @List.pairwise_mergeSort _ (fun a b => decide (key a ≤ key b))
    (fun a b c hab hbc => by
      simpa using Std.le_trans (of_decide_eq_true hab) (of_decide_eq_true hbc))
    (fun a b => by simpa using Std.le_total (a := key a) (b := key b)) elements
  exact hsorted.imp of_decide_eq_true

/-- Names that are sorted and different increase. -/
theorem pairwise_lt_of_le {names : List String} (hsorted : names.Pairwise (· ≤ ·))
    (honce : names.Nodup) :
    names.Pairwise (· < ·) :=
  (hsorted.and honce).imp fun ⟨hle, hne⟩ =>
    String.not_le.1 fun hge => hne (String.le_antisymm hle hge)

/-! ## Walks in another order -/

namespace Walk

variable {m : Machine} {past entries : List Entry} {state : Option String}

/-- The entries of a walk are put in their order from any other. -/
theorem ofEntries_perm (walk : Walk m past state) (h : entries.Perm past) :
    History.ofEntries entries = ⟨past⟩ := by
  have hpast : past.Pairwise fun a b => a.id ≤ b.id := walk.ids.imp Int.le_of_lt
  have hperm : (entries.mergeSort fun a b => a.id ≤ b.id).Perm past :=
    (List.mergeSort_perm ..).trans h
  have honce : (past.map Entry.id).Nodup :=
    List.pairwise_map.2 (walk.ids.imp Int.ne_of_lt)
  exact congrArg History.mk (hperm.eq_of_pairwise
    (fun a b ha hb hle hge => List.inj_on_of_nodup_map honce (hperm.mem_iff.1 ha) hb
      (Int.le_antisymm hle hge)) (pairwise_mergeSort_key Entry.id entries) hpast)

/-- The last entry of a walk has the greatest number, and has entered the state
after it. -/
theorem greatest (walk : Walk m past state) : ∃ entry ∈ past, entry.entered = state ∧
    ∀ other ∈ past, other ≠ entry → other.id < entry.id := by
  obtain ⟨front, entry, rfl⟩ : ∃ front entry, past = front ++ [entry] :=
    ⟨_, _, (List.dropLast_concat_getLast walk.ne_nil).symm⟩
  refine ⟨entry, by simp, by simpa using walk.last, fun other hother hne => ?_⟩
  rcases List.mem_append.1 hother with hfront | hlast
  · exact (List.pairwise_append.1 walk.ids).2.2 other hfront entry (by simp)
  · exact absurd (List.mem_singleton.1 hlast) hne

end Walk

/-! ## Lists of labels -/

namespace Store

variable {s : Store} {machine state name : String} {rows : List Record}

/-- The names of the live labels in a state. -/
def namesInState (s : Store) (machine state : String) : List String :=
  (s.rowsInState machine state).map (·.label.name)

/-- Listed are the names of the live labels in the state. -/
theorem mem_namesInState (honce : (s.rows.map (·.label)).Nodup) :
    name ∈ s.namesInState machine state ↔ ∃ row, s.row? ⟨name, machine⟩ = some row ∧
      row.deleted = false ∧ s.lastState? ⟨name, machine⟩ = some state := by
  unfold namesInState
  rw [List.mem_map]
  constructor
  · rintro ⟨row, hlisted, rfl⟩
    obtain ⟨hrow, rfl, hlive, hlast⟩ := (mem_rowsInState honce).1 hlisted
    exact ⟨row, hrow, hlive, hlast⟩
  · rintro ⟨row, hrow, hlive, hlast⟩
    obtain ⟨-, hlabel⟩ := (row?_eq_some_iff honce).1 hrow
    have hlisted : row ∈ s.rowsInState machine state :=
      (mem_rowsInState honce).2 ⟨hlabel ▸ hrow, by rw [hlabel], hlive, hlabel ▸ hlast⟩
    exact ⟨row, hlisted, by rw [hlabel]⟩

/-- The live labels of a machine have different names. -/
theorem nodup_liveRows (honce : (s.rows.map (·.label)).Nodup) :
    (s.liveRows machine).Pairwise fun a b => a.label.name ≠ b.label.name := by
  have hrows : (s.liveRows machine).Pairwise fun a b => a.label ≠ b.label :=
    (List.pairwise_map.1 honce).filter _
  have hmachine : ∀ row ∈ s.liveRows machine, row.label.machine = machine :=
    fun row hrow => by
      have hlive := (List.mem_filter.1 hrow).2
      simp only [Bool.and_eq_true, decide_eq_true_eq] at hlive
      exact hlive.1
  refine hrows.imp_of_mem fun {a b} ha hb hne hsame => hne ?_
  exact Label.mk.injEq .. ▸ ⟨hsame, (hmachine a ha).trans (hmachine b hb).symm⟩

/-- The live labels of a machine are listed by name, each once. -/
theorem liveNames_ordered (honce : (s.rows.map (·.label)).Nodup) (machine : String) :
    (s.liveNames machine).Pairwise (· < ·) := by
  refine pairwise_lt_of_le (pairwise_mergeSort_key id _) ?_
  exact (List.mergeSort_perm ..).nodup_iff.2 (List.pairwise_map.2 (nodup_liveRows honce))

/-- The live labels in a state are listed by name, each once. -/
theorem namesInState_ordered (honce : (s.rows.map (·.label)).Nodup)
    (machine state : String) :
    (s.namesInState machine state).Pairwise (· < ·) := by
  refine pairwise_lt_of_le
    (List.pairwise_map.2 (pairwise_mergeSort_key (fun row : Record => row.label.name) _))
    (List.pairwise_map.2 ?_)
  exact (List.mergeSort_perm ..).symm.pairwise ((nodup_liveRows honce).filter _) Ne.symm

/-- The live labels of a machine are listed by name, each once, and each of them in one
of the machine's states. -/
structure Listed (s : Store) (m : Machine) : Prop where
  ordered : (s.liveNames m.name).Pairwise (· < ·)
  sorted : ∀ state, (s.namesInState m.name state).Pairwise (· < ·)
  union : ∀ name, name ∈ s.liveNames m.name ↔
    ∃ state ∈ m.states, name ∈ s.namesInState m.name state.name
  disjoint : m.states.Pairwise fun first second =>
    (s.namesInState m.name first.name).Disjoint (s.namesInState m.name second.name)

end Store

/-! ## Looking at a store -/

/-- The contract of work that only looks at what a store holds. -/
def looking (s : Store) : Protocol Unit where
  may _
    | .store (.row _) => True
    | .store (.history _) => True
    | _ => False
  reply _ r answer _ := match r, answer with
    | .store (.row label), answer => answer = .ok (s.row? label)
    | .store (.history label), answer => answer = .ok (s.history label)
    | _, _ => True

variable {app : App} {past : List Happening} {s : System} {client : Client}
  {label : Label} {row : Record}
variable {state : String}

/-- **Looking ends**, for nobody has to wait who only looks, and it ends as it should. -/
theorem Work.Follows.looked {call : Call} {found : Except EngineError CallResult}
    {work : Work (Except EngineError CallResult)} {story : Story}
    (h : work.Follows (looking story.system.store) (fun result _ => result = found) ())
    (htask : story.system.tasks client = some ⟨call, some work⟩)
    (world : (r : Request) → r.Answer) (now : DateTime) :
    ∃ times, (story.drive world client now times).system.tasks client =
      some ⟨call, some (.done found)⟩ := by
  have hfollows : ∀ other, story.system.tasks client = some ⟨call, some other⟩ →
      other.Follows (looking story.system.store) (fun result _ => result = found) () := by
    intro other hother
    cases htask.symm.trans hother
    exact h
  refine (Story.drive_ends (P := fun s => s.store = story.system.store ∧
    ∀ work, s.tasks client = some ⟨call, some work⟩ →
      work.Follows (looking story.system.store) (fun result _ => result = found) ())
      world now ?_ ?_ htask
    ⟨rfl, hfollows⟩).imp ?_
  · intro s request next ⟨_, hlooks⟩ hasked
    refine Store.served_of_free ?_ now
    rintro label rfl
    exact (hlooks _ hasked).1.elim
  · intro s r next answer after ⟨hsame, hlooks⟩ hasked hanswer
    obtain ⟨hmay, hnext⟩ := hlooks _ hasked
    have hread : after = s.store ∧ (looking story.system.store).reply () r answer () := by
      cases r with
      | store request =>
          cases request with
          | row label => cases hanswer; exact ⟨rfl, hsame ▸ rfl⟩
          | history label => cases hanswer; exact ⟨rfl, hsame ▸ rfl⟩
          | _ => exact hmay.elim
      | _ => exact hmay.elim
    refine ⟨hread.1.trans hsame, fun work hwork => ?_⟩
    obtain rfl : next answer = work := by simpa [System.assign] using hwork
    exact hnext answer () hread.2
  · rintro times ⟨result, ⟨-, hlooks⟩, hends⟩
    obtain rfl : result = found := hlooks _ hends
    exact hends

/-- Whoever asks a live label for its state is told the one that its history leads to. -/
theorem looking_labelState {m : Machine} {store : Store}
    (hmachine : app.machine label.machine = .ok m)
    (hrow : store.row? label = some row) (hlive : row.deleted = false)
    (hstate : (History.ofEntries (store.history label)).state? = some state) :
    (labelState app label).Follows (looking store)
      (fun result _ => result = .ok state) () := by
  unfold labelState
  rw [hmachine]
  refine Attempt.follows_bind.2 (Attempt.follows_ofExcept.2 (Attempt.follows_bind.2 ?_))
  refine Attempt.follows_bind.2 (Attempt.follows_ofStore.2 ⟨trivial, ?_⟩)
  rintro _ _ rfl
  simp only [hrow, Except.mapError, afterward, hlive, Bool.false_eq_true, if_false]
  refine Attempt.follows_bind.2
    (Attempt.follows_bind.2 (Attempt.follows_ofStore.2 ⟨trivial, ?_⟩))
  rintro _ _ rfl
  simp only [Except.mapError, Attempt.follows_pure, afterward, hstate]

/-! ## Where a label is -/

/-- However it is asked for, the label is in this state. -/
structure Whereabouts (app : App) (s : System) (label : Label)
    (state : String) : Prop where
  /-- It is a state of the label's machine. -/
  known : ∃ m, app.machine label.machine = .ok m ∧ (m.state? state).isSome
  /-- The label is listed in the state, and in no other. -/
  listed : ∀ other, label.name ∈ s.store.namesInState label.machine other ↔ other = state
  /-- Whoever asks the label is told the state. -/
  told : ∀ client, s.tasks client = none →
    ∀ world now story, Story.system story = s → ∃ times,
    ((story.call app client (.operation (.state label))).drive world client now
      times).system.tasks client =
      some ⟨.operation (.state label), some (.done (.ok (.operation (.state state))))⟩
  /-- The entry with the greatest number has entered the state. -/
  greatest : ∃ entry ∈ s.store.history label, entry.entered = some state ∧
    ∀ other ∈ s.store.history label, other ≠ entry → other.id < entry.id
  /-- So has the last committed entry. -/
  last : s.store.lastState? label = some state

/-- A live label is in a state of its machine. -/
theorem Lawful.state_of_live {past : List Entry} (h : Lawful app label (some row) past)
    (hlive : row.deleted = false) : ∃ m state, app.machine label.machine = .ok m ∧
      (m.state? state).isSome ∧ Walk m past (some state) := by
  obtain ⟨m, state?, hmachine, -, walk, hdeleted⟩ := h.of_row
  cases state? with
  | none => simp [hdeleted.2 rfl] at hlive
  | some state =>
      obtain ⟨entry, hentry, hentered, -⟩ := walk.greatest
      exact ⟨m, state, hmachine, walk.entered_state entry hentry state hentered, walk⟩

/-- The entries of a label are put in their order from any other. -/
theorem Lawful.ofEntries_perm {found : Option Record} {past entries : List Entry}
    (h : Lawful app label found past) (hperm : entries.Perm past) :
    History.ofEntries entries = ⟨past⟩ := by
  cases h with
  | unborn => simp [hperm.eq_nil, History.ofEntries]
  | born _ _ walk => exact walk.ofEntries_perm hperm

/-- A live label is in exactly one state, in which all readings of the store agree. -/
theorem Run.whereabouts_label (happ : app.Built) (run : Run app past s)
    (hrow : s.store.row? label = some row) (hlive : row.deleted = false) :
    ∃ state, Whereabouts app s label state := by
  obtain ⟨m, state, hmachine, hknown, walk⟩ :=
    (hrow ▸ (run.faithful happ).lawful label).state_of_live hlive
  have hlast : s.store.lastState? label = some state := walk.last
  have hstate : (History.ofEntries (s.store.history label)).state? = some state := by
    rw [walk.ofEntries]
    exact walk.last
  refine ⟨state, ⟨m, hmachine, hknown⟩, fun other => ?_, ?_, walk.greatest, hlast⟩
  · rw [Store.mem_namesInState run.rows_nodup]
    constructor
    · rintro ⟨_, -, -, hother⟩
      exact Option.some.inj (hother.symm.trans hlast)
    · rintro rfl
      exact ⟨row, hrow, hlive, hlast⟩
  · rintro client hnew world now story rfl
    have hlooked : (Call.perform app (.operation (.state label))).run.Follows
        (looking (story.call app client (.operation (.state label))).system.store)
        (fun result _ => result = .ok (.operation (.state state))) () := by
      refine Attempt.follows_bind.2 (Attempt.follows_bind.2 ?_)
      refine (looking_labelState hmachine hrow hlive hstate).mono ?_
      rintro _ _ rfl
      rfl
    exact hlooked.looked (by simp [Story.call, Story.andThen, System.assign]) world now

/-- Each live label is in one of the lists of its machine's states. -/
theorem Run.listed (happ : app.Built) (run : Run app past s) {name : String} {m : Machine}
    (hmachine : app.machine name = .ok m) : s.store.Listed m := by
  have honce := run.rows_nodup
  obtain ⟨hbuilt, rfl⟩ := happ.machine hmachine
  refine ⟨Store.liveNames_ordered honce _, Store.namesInState_ordered honce _,
    fun name => ?_, ?_⟩
  · rw [Store.mem_liveNames honce]
    simp only [Store.mem_namesInState honce]
    constructor
    · rintro ⟨row, hrow, hlive⟩
      obtain ⟨m', state, hmachine', hknown, walk⟩ :=
        (hrow ▸ (run.faithful happ).lawful ⟨name, m.name⟩).state_of_live hlive
      cases hmachine.symm.trans hmachine'
      obtain ⟨found, hfound⟩ := Option.isSome_iff_exists.1 hknown
      obtain ⟨hmember, rfl⟩ := Machine.mem_of_state? hfound
      exact ⟨found, hmember, row, hrow, hlive, walk.last⟩
    · rintro ⟨state, -, row, hrow, hlive, -⟩
      exact ⟨row, hrow, hlive⟩
  · refine (List.pairwise_map.1 hbuilt.names.1).imp fun {first second} hnames => ?_
    intro name hfirst hsecond
    obtain ⟨-, -, -, hlast⟩ := (Store.mem_namesInState honce).1 hfirst
    obtain ⟨-, -, -, hlast'⟩ := (Store.mem_namesInState honce).1 hsecond
    exact hnames (Option.some.inj (hlast.symm.trans hlast'))

/-- **All ways to learn a state agree.**  In every system that a run reaches the live
labels of a machine are listed by name, each once and in one state of the machine; a
live label is in one state, however it is asked for; and the entries of any label make
one history, in whatever order they come. -/
theorem Run.whereabouts (happ : app.Built) (run : Run app past s) :
    (∀ name m, app.machine name = .ok m → s.store.Listed m) ∧
    (∀ label row, s.store.row? label = some row → row.deleted = false →
      ∃ state, Whereabouts app s label state) ∧
    ∀ label entries, entries.Perm (s.store.history label) →
      History.ofEntries entries = ⟨s.store.history label⟩ := by
  refine ⟨fun name m hmachine => run.listed happ hmachine,
    fun label row hrow hlive => run.whereabouts_label happ hrow hlive,
      fun label entries hperm => ?_⟩
  exact ((run.faithful happ).lawful label).ofEntries_perm hperm

open Storehouse in
/-- A stored thing is where it was stored. -/
theorem Run.whereabouts_storehouse :
    storehouse.Built ∧ Run storehouse created.past created.system ∧
    created.system.store.Listed storage ∧
    created.system.store.row? stored = some ⟨stored, .obj [], false, true⟩ ∧
    Whereabouts storehouse created.system stored "stored" ∧
    "a" ∈ created.system.store.liveNames "storage" := by
  have run := chronicle_created.run
  have hrow : created.system.store.row? stored = some ⟨stored, .obj [], false, true⟩ := by
    with_unfolding_all rfl
  have hlast : created.system.store.lastState? stored = some "stored" := by
    with_unfolding_all rfl
  obtain ⟨hlisted, hlabels, -⟩ := Run.whereabouts storehouse_built run
  obtain ⟨state, hwhere⟩ := hlabels stored _ hrow rfl
  obtain rfl : state = "stored" := Option.some.inj (hwhere.last.symm.trans hlast)
  refine ⟨storehouse_built, run, hlisted "storage" storage rfl, hrow, hwhere, ?_⟩
  exact ((hlisted "storage" storage rfl).union "a").2
    ⟨.action ⟨"stored", "https://example.com", .stay⟩, by simp [storage],
      (hwhere.listed "stored").2 rfl⟩

end Turnstile

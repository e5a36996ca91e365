import Turnstile.Proofs.Engine.Deliberation
import Turnstile.Proofs.Engine.Protocol

/-!
# A client in company

Others may be at work in the store in which a client works (`Surroundings.among`).  They
commit what they like, but they remove no row; so a label that has a row keeps it, and
no step or drain of it fails because the label is unknown (`certain_stepIn`,
`certain_drain`).
-/

set_option autoImplicit false

namespace Turnstile

/-! ## Others at work -/

/-- Others at work in the store of a client: what they have done after each of its
requests.  They remove no row. -/
structure Others (σ : Type) where
  act : Store × σ → Store × σ
  keep : ∀ w label, (w.1.row? label).isSome → ((act w).1.row? label).isSome

/-- Nobody else is at work. -/
def Others.nobody (σ : Type) : Others σ := ⟨id, fun _ _ h => h⟩

/-- Answer a request of a client among others.  A client that has to wait for a lock
waits while the others act on the request before; if they have not released the lock by
then, they never do. -/
def Surroundings.among {σ : Type} (around : Surroundings σ) (client : Client)
    (others : Others σ) (r : Request) (w : Store × σ) : r.Answer × (Store × σ) :=
  ((around.serve client r w).1, others.act (around.serve client r w).2)

/-- In nobody's company a client is served alone. -/
theorem Surroundings.among_nobody {σ : Type} (around : Surroundings σ) (client : Client) :
    around.among client (.nobody σ) = around.serve client := rfl

namespace Store

variable {s after : Store} {client : Client} {label : Label}

/-- A row that is there remains there when rows are put. -/
theorem findRow_putRows_isSome (staged : List Record) {rows : List Record}
    (h : (findRow rows label).isSome) :
    (findRow (putRows rows staged) label).isSome := by
  induction staged generalizing rows with
  | nil => exact h
  | cons row rest ih =>
      apply ih
      rw [findRow_putRow]
      split
      · rfl
      · exact h

/-- No request removes a row. -/
theorem Served.row?_isSome {request : StoreRequest} (h : Served s client request after)
    (hrow : (s.row? label).isSome) : (after.row? label).isSome := by
  rcases h.committed_or_same with ⟨-, rfl⟩ | ⟨-, hrows, -⟩
  · unfold Store.commit
    split
    · exact hrow
    · exact findRow_putRows_isSome _ hrow
  · rw [row?, hrows]
    exact hrow

/-- Whoever locks a label that has a row finds one. -/
theorem lock?_isSome {found : Option Record}
    (h : s.lock? client label = some (found, after))
    (hrow : (s.row? label).isSome) : found.isSome := by
  unfold lock? at h
  split at h
  · cases h
  · cases h
    have hkept : ∀ s : Store, (s.row? label).isSome →
        (s.ownRow? client label).isSome := by
      intro s hrow
      unfold ownRow?
      split
      · rfl
      · exact hrow
    apply hkept
    split
    · exact hrow
    · exact hrow

end Store

/-! ## A label that is there is found -/

/-- Whoever locks the label is not told that it has no row. -/
def Exchange.FindsRow (label : Label) : Exchange → Prop
  | ⟨.store (.lock taken), answer⟩ => taken = label → answer ≠ .ok none
  | _ => True

/-- The protocol of a world in which a label has a row. -/
def present (label : Label) : Protocol Unit where
  may _ _ := True
  reply _ r answer _ := Exchange.FindsRow label ⟨r, answer⟩

/-- Among others too a row that is there is found. -/
theorem present_keptBy {σ : Type} (around : Surroundings σ) (client : Client)
    (others : Others σ) (label : Label) :
    (present label).KeptBy (around.among client others) fun _ w =>
      (w.1.row? label).isSome := by
  rintro ⟨⟩ ⟨s, x⟩ r hrow -
  refine ⟨(), ?_⟩
  cases r with
  | store request =>
      simp only [Surroundings.among, Surroundings.serve, Surroundings.serveStore]
      cases hserve : request.serve client (around.clock x) s with
      | none =>
          refine ⟨?_, others.keep _ _ hrow⟩
          cases request with
          | lock taken =>
              intro _ hnone
              cases hnone
          | _ => trivial
      | some served =>
          obtain ⟨answer, after⟩ := served
          refine ⟨?_, others.keep _ _ ((Store.served hserve).row?_isSome hrow)⟩
          cases request with
          | lock taken =>
              rintro rfl rfl
              obtain ⟨⟨found, next⟩, hlock, heq⟩ := Option.map_eq_some_iff.1 hserve
              cases heq
              cases Store.lock?_isSome hlock hrow
          | _ => trivial
  | _ => exact ⟨trivial, others.keep _ _ hrow⟩

section Certain

variable {α β : Type} {app : App} {m : Machine} {label : Label} {metadata : Value}
  {history : History}

/-- While a label has a row, the attempt does not fail because a label is unknown. -/
def Attempt.Certain (label : Label) (attempt : Attempt α) : Prop :=
  attempt.Follows (present label)
    (fun result _ => ∀ other, result ≠ .error (.unknownLabel other)) ()

/-- Rows are never taken away, whatever the work. -/
theorem follows_present (work : Work α) :
    work.Follows (present label) (fun _ _ => True) () := by
  induction work with
  | done a => trivial
  | ask r next ih => exact ⟨trivial, fun answer _ _ => ih answer⟩

/-- Whatever a client does among others, a label that has a row keeps it. -/
theorem row?_isSome_among {σ : Type} {around : Surroundings σ} {client : Client}
    {others : Others σ} {work : Work α} {w after : Store × σ} {result : α}
    (h : work.runWith (around.among client others) w = (result, after))
    (hrow : (w.1.row? label).isSome) : (after.1.row? label).isSome := by
  obtain ⟨-, -, hafter⟩ :=
    (follows_present work).runWith (present_keptBy around client others label) hrow
  rw [h] at hafter
  exact hafter

namespace Attempt.Certain

theorem pure (a : α) : (Pure.pure a : Attempt α).Certain label := fun _ => nofun

theorem throw {error : EngineError} (h : ∀ other, error ≠ .unknownLabel other) :
    (MonadExcept.throw error : Attempt α).Certain label :=
  fun other heq => h other (Except.error.inj heq)

theorem bind {first : Attempt β} {next : β → Attempt α} (hfirst : first.Certain label)
    (hnext : ∀ b, (next b).Certain label) : (first >>= next).Certain label := by
  apply Attempt.follows_bind.2
  apply hfirst.mono
  intro result _ hresult
  cases result with
  | ok b => exact hnext b
  | error error => exact fun other heq => hresult other (by rw [Except.error.inj heq])

theorem ofStore (request : StoreRequest) : (Attempt.ofStore request).Certain label := by
  apply Attempt.follows_ofStore.2
  refine ⟨trivial, fun answer _ _ other => ?_⟩
  cases answer <;> nofun

theorem ofWork (work : Work α) : (Attempt.ofWork work).Certain label :=
  Attempt.follows_ofWork.2 ((follows_present work).mono fun _ _ _ _ => nofun)

theorem ofExcept {ε : Type} {wrap : ε → EngineError} (result : Except ε α)
    (h : ∀ cause other, wrap cause ≠ .unknownLabel other) :
    (Attempt.ofExcept wrap result).Certain label := by
  apply Attempt.follows_ofExcept.2
  intro other
  cases result with
  | ok a => nofun
  | error cause => exact fun heq => h cause other (Except.error.inj heq)

end Attempt.Certain

/-- A row known to be there is found when it is locked. -/
theorem certain_lockLive : (lockLive label).Certain label := by
  apply Attempt.follows_bind.2
  apply Attempt.follows_ofStore.2
  refine ⟨trivial, fun answer _ hfound => ?_⟩
  cases answer with
  | error refusal => nofun
  | ok found =>
      cases found with
      | none => exact absurd rfl (hfound rfl)
      | some row =>
          dsimp only [afterward, Except.mapError]
          split
          · exact Attempt.Certain.throw nofun
          · exact ((Attempt.Certain.ofStore _).bind fun _ => .pure _).bind fun _ =>
              .pure _

theorem certain_consider (state : State) :
    (state.consider app m label metadata history).Certain label := by
  cases state with
  | gate gate =>
      simp only [State.consider, Gate.consider]
      split
      · exact .pure _
      · apply (Attempt.Certain.ofWork _).bind
        intro now
        apply (Attempt.Certain.ofWork _).bind
        intro gathered
        apply (Attempt.Certain.ofExcept _ nofun).bind
        intro context
        apply (Attempt.Certain.ofExcept _ nofun).bind
        intro passed
        cases passed with
        | false => exact .pure _
        | true => exact (Attempt.Certain.ofExcept _ nofun).bind fun _ => .pure _
  | action action =>
      simp only [State.consider, Action.consider]
      split
      · exact .pure _
      · split
        · exact .pure _
        · split
          · exact .throw nofun
          · apply (Attempt.Certain.ofWork _).bind
            intro result
            cases result with
            | success => exact (Attempt.Certain.ofExcept _ nofun).bind fun _ => .pure _
            | retry => exact .pure _
            | fail => exact .pure _

/-- Steps do not miss the label they were called for. -/
theorem certain_stepIn (state : State) : (stepIn app m state label).Certain label := by
  rw [stepIn_eq]
  apply certain_lockLive.bind
  rintro ⟨row, history⟩
  dsimp only
  split
  · apply Attempt.Certain.bind
    · cases state.marks row with
      | none => exact .pure _
      | some marked => exact .ofStore _
    · intro _
      apply (certain_consider state).bind
      intro decision
      cases decision with
      | none => exact .pure _
      | some target => exact (Attempt.Certain.ofStore _).bind fun _ => .pure _
  · exact .pure _

theorem certain_stepCurrent : (stepCurrent app m label).Certain label := by
  apply certain_lockLive.bind
  rintro ⟨row, history⟩
  dsimp only
  split
  · exact .throw nofun
  · next name _ =>
      apply Attempt.follows_bind.2
      apply Attempt.follows_ofExcept.2
      unfold Machine.stateNamed
      split
      · exact certain_stepIn _
      · exact fun other => nofun

/-- A transaction fails as what is done in it. -/
theorem certain_inTransaction {attempt : Attempt α} (h : attempt.Certain label) :
    (inTransaction attempt).Certain label := by
  apply Work.follows_bind.2
  refine ⟨trivial, fun begun _ _ => ?_⟩
  cases begun with
  | error refusal => exact fun _ => nofun
  | ok _ =>
      apply Work.follows_bind.2
      apply Work.Follows.mono h
      intro result _ hresult
      cases result with
      | ok a =>
          apply Work.follows_bind.2
          refine ⟨trivial, fun ended _ _ => ?_⟩
          cases ended <;> exact fun _ => nofun
      | error error =>
          apply Work.follows_bind.2
          refine ⟨trivial, fun ended _ _ => ?_⟩
          cases ended with
          | ok _ => exact hresult
          | error refusal => exact ⟨trivial, fun _ _ _ => hresult⟩

/-- Drains do not miss it either. -/
theorem certain_drainFrom (limit remaining : Nat) :
    (drainFrom app m label limit remaining).Certain label := by
  induction remaining with
  | zero => exact (Attempt.Certain.ofWork _).bind fun _ => .pure _
  | succ remaining ih =>
      apply Work.follows_bind.2
      apply Work.Follows.mono (certain_inTransaction certain_stepCurrent)
      intro result _ hresult
      split
      · exact ih
      · exact fun _ => nofun
      · exact fun _ => nofun
      · exact fun other heq => hresult other (by rw [Except.error.inj heq])

theorem certain_drain : (drain app label).Certain label := by
  apply Attempt.follows_bind.2
  apply Attempt.follows_ofExcept.2
  unfold App.machine
  split
  · exact certain_drainFrom _ _
  · exact fun _ => nofun

end Certain

end Turnstile

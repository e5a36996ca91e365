import Turnstile.Proofs.Engine.Run

/-!
# Conversations

Work talks with the world by exchanges.  `Work.Leads` says what is left of work after
some exchanges: what is left is again work, and nothing else decides on it than the
answers.
-/

set_option autoImplicit false

namespace Turnstile

variable {α β : Type}

/-- After these exchanges this is left of the work. -/
inductive Work.Leads : Work α → List Exchange → Work α → Prop
  | here (work : Work α) : Leads work [] work
  | said {r : Request} {next : r.Answer → Work α} {answer : r.Answer}
      {talk : List Exchange} {rest : Work α} (more : Leads (next answer) talk rest) :
      Leads (.ask r next) (⟨r, answer⟩ :: talk) rest

namespace Work

/-- Work that is over says nothing. -/
theorem leads_done {a : α} {talk : List Exchange} {rest : Work α} :
    (Work.done a).Leads talk rest ↔ talk = [] ∧ rest = .done a := by
  constructor
  · rintro ⟨⟩; exact ⟨rfl, rfl⟩
  · rintro ⟨rfl, rfl⟩; exact .here _

/-- Work that asks goes on with the answer. -/
theorem leads_ask {r : Request} {next : r.Answer → Work α} {talk : List Exchange}
    {rest : Work α} :
    (Work.ask r next).Leads talk rest ↔ (talk = [] ∧ rest = .ask r next) ∨
      ∃ answer more, talk = ⟨r, answer⟩ :: more ∧ (next answer).Leads more rest := by
  constructor
  · rintro (_ | more)
    · exact .inl ⟨rfl, rfl⟩
    · exact .inr ⟨_, _, rfl, more⟩
  · rintro (⟨rfl, rfl⟩ | ⟨answer, more, rfl, hmore⟩)
    · exact .here _
    · exact .said hmore

/-- When nothing was said, all of the work is left. -/
theorem leads_nil {work rest : Work α} : work.Leads [] rest ↔ rest = work := by
  constructor
  · rintro ⟨⟩; rfl
  · rintro rfl; exact .here _

/-- Before it was told the last answer, the work had asked for it. -/
theorem Leads.before_last {work rest : Work α} {talk : List Exchange} {r : Request}
    {answer : r.Answer} (h : work.Leads (talk ++ [⟨r, answer⟩]) rest) :
    ∃ next : r.Answer → Work α, work.Leads talk (.ask r next) ∧ rest = next answer := by
  induction talk generalizing work with
  | nil =>
    cases h with
    | said more => exact ⟨_, .here _, leads_nil.1 more⟩
  | cons first talk ih =>
    cases h with
    | said more =>
      obtain ⟨next, hnext, hrest⟩ := ih more
      exact ⟨next, .said hnext, hrest⟩

/-- Work in sequence that is over has done its first part, and then the rest. -/
theorem leads_bind_done {work : Work α} {next : α → Work β} {talk : List Exchange} {b : β}
    (h : (work.bind next).Leads talk (.done b)) :
    ∃ a front back, talk = front ++ back ∧ work.Leads front (.done a) ∧
      (next a).Leads back (.done b) := by
  induction work generalizing talk with
  | done a => exact ⟨a, [], talk, rfl, .here _, h⟩
  | ask r rest ih =>
    rcases leads_ask.1 h with ⟨-, hnever⟩ | ⟨answer, more, rfl, hmore⟩
    · cases hnever
    · obtain ⟨a, front, back, rfl, hfront, hback⟩ := ih answer hmore
      exact ⟨a, ⟨r, answer⟩ :: front, back, rfl, .said hfront, hback⟩

/-- Conversations go on. -/
theorem Leads.trans {first middle last : Work α} {talk more : List Exchange}
    (h : first.Leads talk middle) (hmore : middle.Leads more last) :
    first.Leads (talk ++ more) last := by
  induction h with
  | here => exact hmore
  | said _ ih => exact .said (ih hmore)

end Work

end Turnstile

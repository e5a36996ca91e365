import Turnstile.Proofs.Engine.Moves
import Turnstile.Proofs.Store.Numbering

/-!
# Tokens name visits

The token of a delivery is made from the names of the machine and of the label and from
the number of the label's current entry.  The names may hold anything, colons and digits
included: the number is what follows the last colon, and it alone tells entries apart,
because no two entries of a store share a number (`Run.numbered`).

So deliveries carry the same token exactly when they are made for the same label while
its current entry is the same (`Chronicle.tokens`): attempts that are made again carry
it again, and a label that comes back to an action, however it does, has a new entry and
so a new token.
-/

set_option autoImplicit false

namespace Turnstile

open Time (DateTime)

/-! ## Names of visits -/

namespace Webhook

/-- Numbers are written differently. -/
theorem digits_injective {n m : Nat} (h : Number.digits n = Number.digits m) : n = m := by
  have hread := congrArg (fun digits => Nat.ofDigitChars 10 digits 0) h
  simpa [Number.digits] using hread

/-- Decimal digits are written without signs and without colons. -/
theorem isDigit_of_mem_digits {n : Nat} {c : Char} (h : c ∈ Number.digits n) :
    c.isDigit = true :=
  Nat.isDigit_of_mem_toDigits (by decide) (by decide) h

/-- No colon is written in a number. -/
theorem colon_notMem_integerText (id : Int) : ':' ∉ Number.integerText id := by
  intro hcolon
  unfold Number.integerText at hcolon
  split at hcolon
  · rcases List.mem_cons.1 hcolon with hsign | hdigits
    · cases hsign
    · cases isDigit_of_mem_digits hdigits
  · cases isDigit_of_mem_digits hcolon

/-- Integers with the same decimal text are the same. -/
theorem integerText_injective {n m : Int}
    (h : Number.integerText n = Number.integerText m) : n = m := by
  have hsign : ∀ k l : Nat, '-' :: Number.digits k ≠ Number.digits l := by
    intro k l heq
    have hdash : '-' ∈ Number.digits l := heq ▸ List.mem_cons_self
    cases isDigit_of_mem_digits hdash
  unfold Number.integerText at h
  split at h <;> split at h
  · have habs := digits_injective (List.cons.inj h).2
    omega
  · exact absurd h (hsign _ _)
  · exact absurd h.symm (hsign _ _)
  · have habs := digits_injective h
    omega

/-- What follows the last colon is the same in texts that are the same. -/
theorem after_colon {front back front' back' : List Char} (hback : ':' ∉ back)
    (hback' : ':' ∉ back') (h : front ++ ':' :: back = front' ++ ':' :: back') :
    back = back' := by
  have hlast : ∀ {front back : List Char}, ':' ∉ back →
      (front ++ ':' :: back).reverse.takeWhile (· ≠ ':') = back.reverse := by
    intro front back hfree
    rw [List.reverse_append, List.reverse_cons, List.append_assoc,
      List.takeWhile_append_of_pos]
    · simp
    · intro c hc
      have hin : c ∈ back := List.mem_reverse.1 hc
      simpa using fun heq : c = ':' => hfree (heq ▸ hin)
  have hrest := congrArg (fun text : List Char => text.reverse.takeWhile (· ≠ ':')) h
  simp only [hlast hback, hlast hback'] at hrest
  exact List.reverse_inj.1 hrest

/-- **The number decides.**  Names of visits are the same only for the same number. -/
theorem id_of_tokenKey {label other : Label} {id id' : Int}
    (h : tokenKey label id = tokenKey other id') : id = id' := by
  have htexts := congrArg String.toList h
  simp only [tokenKey, String.toList_append, String.toList_ofList] at htexts
  have hcolon : ":".toList = [':'] := by decide
  rw [hcolon, List.append_assoc _ [':'] (Number.integerText id),
    List.append_assoc _ [':'] (Number.integerText id')] at htexts
  exact integerText_injective
    (after_colon (colon_notMem_integerText id) (colon_notMem_integerText id') htexts)

end Webhook

/-! ## What is to be shown -/

/-- The labels that a client's transaction has locked. -/
def Store.lockedBy (s : Store) (client : Client) : List Label :=
  ((s.transaction? client).map Transaction.locked).getD []

/-- The current entries of the labels for which a delivery is made at a moment, those
that its client has locked, each with its label. -/
def Moment.visits (m : Moment) : List (Label × Entry) :=
  match m.happening with
  | .said client ⟨.deliver _, _⟩ =>
      (m.before.store.lockedBy client).filterMap fun label =>
        (m.before.store.history label).getLast?.map fun entry => (label, entry)
  | _ => []

/-- The names from which tokens are made in a chronicle. -/
def tokenKeys (moments : List Moment) : List String :=
  (moments.flatMap Moment.visits).map fun visit => Webhook.tokenKey visit.1 visit.2.id

/-- A delivery that is made at a moment. -/
def Moment.Sends (m : Moment) (delivery : Delivery) : Prop :=
  ∃ client answer, m.happening = .said client ⟨.deliver delivery, answer⟩

variable {app : App} {past : List Happening} {before after s : System}
  {happening : Happening}
variable {client : Client} {label : Label} {moments : List Moment}

/-! ## Numbers in runs -/

/-- **No two entries of a store share a number**, whoever has written them. -/
theorem Run.numbered (happ : app.Built) (run : Run app past s) : s.store.Numbered := by
  induction run with
  | empty => exact Store.numbered_empty
  | @step past before after happening run hstep ih =>
      rcases hstep.served with hsame | ⟨client, request, hserved⟩
      · exact hsame ▸ ih
      · exact ih.served (run.faithful happ).sound hserved

/-- What is committed before a moment is committed at the end of the chronicle. -/
theorem Chronicle.ledger_prefix (chronicle : Chronicle app moments past s) {m : Moment}
    (hm : m ∈ moments) : m.before.store.ledger <+: s.store.ledger := by
  induction chronicle with
  | empty => cases hm
  | @step moments past before after happening chronicle hstep ih =>
      have hgrows : before.store.ledger <+: after.store.ledger := by
        rcases hstep.served with hsame | ⟨client, request, hserved⟩
        · exact hsame ▸ List.prefix_rfl
        · exact hserved.ledger_prefix
      rcases List.mem_append.1 hm with hold | hnow
      · exact (ih hold).trans hgrows
      · obtain rfl := List.mem_singleton.1 hnow
        exact hgrows

/-! ## Visits of deliveries -/

/-- A client that works on a label has locked this one only. -/
theorem Desk.Shown.lockedBy {d : Desk} {s : Store} (h : d.Shown s client) :
    s.lockedBy client = [d.label] := by
  simp [Store.lockedBy, h.transaction]

/-- **A delivery is made for one visit**, and its token is made from it. -/
theorem Chronicle.visits_of_sends (happ : app.Built)
    (chronicle : Chronicle app moments past s)
    {m : Moment} (hm : m ∈ moments) {delivery : Delivery} (hsends : m.Sends delivery) :
    ∃ label entry, m.visits = [(label, entry)] ∧ entry ∈ m.before.store.ledger ∧
      entry.label = label ∧ delivery.token = Webhook.token label entry.id := by
  obtain ⟨client, answer, hsaid⟩ := hsends
  obtain ⟨hfaithful, hstep⟩ := chronicle.at_moment happ hm
  obtain ⟨call, v, ⟨d, machine, action, row, entry, hd, -, -, hcurrent, -, rfl⟩,
      hagrees, -⟩ :=
    hfaithful.asking (hsaid ▸ hstep)
  have hshown : d.Shown m.before.store client := by
    rw [hd] at hagrees
    exact hagrees
  have hlast : (m.before.store.history d.label).getLast? = some entry := by
    rw [hshown.past]
    exact hcurrent
  obtain ⟨hin, hlabel⟩ := mem_entriesOf.1 (List.mem_of_getLast? hlast)
  refine ⟨d.label, entry, ?_, hin, hlabel, rfl⟩
  simp [Moment.visits, hsaid, hshown.lockedBy, hlast]

/-- **Tokens name visits.**  In every run, however its calls are interleaved and
whatever they are answered, no two entries of the store share a number, and every
delivery is made for one visit: for the label that its client has locked, while one
entry is the current one of the label.  Two deliveries carry the same token if and only
if they are made for the same visit, provided that identifiers tell apart the names from
which the tokens of this run are made. -/
theorem Chronicle.tokens (happ : app.Built) (chronicle : Chronicle app moments past s)
    (hnames : ∀ key ∈ tokenKeys moments, ∀ other ∈ tokenKeys moments,
      Digest.nameId key = Digest.nameId other → key = other) :
    (s.store.ledger.map (·.id)).Nodup ∧
      ∀ m ∈ moments, ∀ m' ∈ moments, ∀ delivery delivery', m.Sends delivery →
        m'.Sends delivery' →
        ∃ visit visit', m.visits = [visit] ∧ m'.visits = [visit'] ∧
          (delivery.token = delivery'.token ↔ visit = visit') := by
  have hnumbered := chronicle.run.numbered happ
  refine ⟨hnumbered.ledger, ?_⟩
  intro m hm m' hm' delivery delivery' hsends hsends'
  obtain ⟨label, entry, hvisits, hin, hlabel, htoken⟩ :=
    chronicle.visits_of_sends happ hm hsends
  obtain ⟨label', entry', hvisits', hin', hlabel', htoken'⟩ :=
    chronicle.visits_of_sends happ hm' hsends'
  refine ⟨(label, entry), (label', entry'), hvisits, hvisits', ?_⟩
  constructor
  · intro hsame
    have hkey : ∀ {m : Moment} {label : Label} {entry : Entry}, m ∈ moments →
        m.visits = [(label, entry)] →
        Webhook.tokenKey label entry.id ∈ tokenKeys moments := by
      intro m label entry hm hvisits
      refine List.mem_map.2 ⟨(label, entry), List.mem_flatMap.2 ⟨m, hm, ?_⟩, rfl⟩
      exact hvisits ▸ List.mem_cons_self
    rw [htoken, htoken'] at hsame
    have hid : entry.id = entry'.id :=
      Webhook.id_of_tokenKey (hnames _ (hkey hm hvisits) _ (hkey hm' hvisits') hsame)
    obtain rfl : entry = entry' :=
      hnumbered.eq_of_id ((chronicle.ledger_prefix hm).subset hin)
        ((chronicle.ledger_prefix hm').subset hin') hid
    rw [← hlabel, ← hlabel']
  · intro hsame
    cases hsame
    exact htoken.trans htoken'.symm

/-! ## Two letters -/

/-- What is visited by a delivery is visited by a delivery. -/
theorem Moment.sends_of_visits {m : Moment} {visit : Label × Entry}
    (h : visit ∈ m.visits) :
    ∃ delivery, m.Sends delivery := by
  unfold Moment.visits at h
  split at h
  · next delivery answer hsaid => exact ⟨delivery, _, answer, hsaid⟩
  · cases h

/-- A world that is agreeable, but in which every webhook asks to be tried again. -/
def hesitant (now : DateTime) : (r : Request) → r.Answer
  | .deliver _ => .retry
  | r => agreeable now r

namespace Postroom

def now : DateTime := ⟨0, ⟨0, 0⟩⟩

def letter : Label := ⟨"a", "letters"⟩

/-- It is named like the first visit of the other. -/
def reply : Label := ⟨"a:1", "letters"⟩

/-- A letter is written, and is not accepted yet. -/
def written : Story :=
  (Story.call {} postroom (.worker 0) (.operation (.create letter (.obj [])))).drive
    (hesitant now) (.worker 0) now 15

/-- It is sent again. -/
def sent : Story :=
  (written.call postroom (.worker 1) (.operation (.drain letter))).drive (agreeable now)
  (.worker 1) now 9

/-- It is answered. -/
def answered : Story :=
  (sent.call postroom (.worker 2) (.operation (.create reply (.obj [])))).drive
    (agreeable now) (.worker 2) now 15

theorem chronicle_written :
    Chronicle postroom written.moments written.past written.system :=
  (Chronicle.opening (.worker 0) (.operation (.create letter (.obj [])))).drive _ _ _ _

theorem chronicle_answered :
    Chronicle postroom answered.moments answered.past answered.system := by
  have hfirst : (written.system.tasks (.worker 1)).isNone = true := by decide +kernel
  have hsent : Chronicle postroom sent.moments sent.past sent.system :=
    (chronicle_written.call _ _ (Option.isNone_iff_eq_none.1 hfirst)).drive _ _ _ _
  have hnext : (sent.system.tasks (.worker 2)).isNone = true := by decide +kernel
  exact (hsent.call _ _ (Option.isNone_iff_eq_none.1 hnext)).drive _ _ _ _

/-- The first visit is tried twice with one key, and the second visit has another. -/
theorem tokenKeys_answered :
    tokenKeys answered.moments = ["letters:a:1", "letters:a:1", "letters:a:1:3"] := by
  decide +kernel

/-- A letter is delivered for a visit after so much has happened. -/
theorem delivery_after (visit : Label × Entry) (after : Nat)
    (h : (answered.moments.any fun m => m.visits = [visit] ∧ m.past.length = after) =
      true) :
    ∃ m ∈ answered.moments, ∃ delivery, m.Sends delivery ∧ m.visits = [visit] ∧
      m.past.length = after := by
  obtain ⟨m, hm, hvisit⟩ := List.any_eq_true.1 h
  obtain ⟨hvisits, hlength⟩ := of_decide_eq_true hvisit
  obtain ⟨delivery, hsends⟩ :=
    Moment.sends_of_visits (hvisits ▸ List.mem_singleton_self visit)
  exact ⟨m, hm, delivery, hsends, hvisits, hlength⟩

end Postroom

open Postroom in
/-- Two deliveries of one visit have one token, and that of another label has another.
-/
theorem Chronicle.tokens_postroom : postroom.Built ∧
    Chronicle postroom answered.moments answered.past answered.system ∧
    (∀ key ∈ tokenKeys answered.moments, ∀ other ∈ tokenKeys answered.moments,
      Digest.nameId key = Digest.nameId other → key = other) ∧
    ∃ first ∈ answered.moments, ∃ again ∈ answered.moments, ∃ other ∈ answered.moments,
      ∃ delivery delivery' delivery'', first.Sends delivery ∧ again.Sends delivery' ∧
        other.Sends delivery'' ∧ first.past.length < again.past.length ∧
        delivery.token = delivery'.token ∧ delivery.token ≠ delivery''.token := by
  let visit : Label × Entry := (letter, ⟨.creation letter "sent", 1, now⟩)
  let visit' : Label × Entry := (reply, ⟨.creation reply "sent", 3, now⟩)
  have hnames : ∀ key ∈ tokenKeys answered.moments, ∀ other ∈ tokenKeys answered.moments,
      Digest.nameId key = Digest.nameId other → key = other := by
    rw [tokenKeys_answered]
    decide +kernel
  obtain ⟨first, hfirst, delivery, hsends, hvisits, hearly⟩ :=
    delivery_after visit 12 (by decide +kernel)
  obtain ⟨again, hagain, delivery', hsends', hvisits', hlate⟩ :=
    delivery_after visit 22 (by decide +kernel)
  obtain ⟨other, hother, delivery'', hsends'', hvisits'', -⟩ :=
    delivery_after visit' 37 (by decide +kernel)
  obtain ⟨-, htokens⟩ := Chronicle.tokens postroom_built chronicle_answered hnames
  refine ⟨postroom_built, chronicle_answered, hnames, first, hfirst, again,
    hagain, other, hother, delivery, delivery', delivery'', hsends, hsends', hsends'',
    by omega, ?_, ?_⟩
  · obtain ⟨_, _, hfirstOf, hagainOf, hiff⟩ :=
      htokens first hfirst again hagain _ _ hsends hsends'
    rw [hvisits] at hfirstOf
    rw [hvisits'] at hagainOf
    exact hiff.2
      ((List.singleton_inj.1 hfirstOf).symm.trans (List.singleton_inj.1 hagainOf))
  · obtain ⟨_, _, hfirstOf, hotherOf, hiff⟩ :=
      htokens first hfirst other hother _ _ hsends hsends''
    rw [hvisits] at hfirstOf
    rw [hvisits''] at hotherOf
    intro hsame
    have hvisit : visit = visit' := (List.singleton_inj.1 hfirstOf).trans
      ((hiff.1 hsame).trans (List.singleton_inj.1 hotherOf).symm)
    exact absurd (congrArg (fun v => v.2.id) hvisit) (by decide)

end Turnstile

import Mathlib
import Turnstile.Proofs.Condition.Acceptance
import Turnstile.Proofs.Condition.Equations

/-!
# Where conditions go wrong

Every reader of the grammar takes a sentence that the next token does not go on with, or
fails just behind what can still be completed to a sentence (`IsFarthest.of_fuel`).  So
a source that has tokens but is no expression is refused at its first token that no
expression has there, or at its end if there is no such token
(`Expression.parse_misplaced`).

There is one lemma for each reader, which follows the equation of its nonterminal.
-/

set_option autoImplicit false

namespace Turnstile.Condition

/-! ## Optional parts -/

section

variable {heads P : Token.Kind → Prop} {L : Language Token.Kind} {stop : Nat}
  {token : Token} {rest : List Token} {α : Type}

/-- An optional part that is there. -/
theorem Reaches.optionally_cons {x : Except Diagnostic (Found α)}
    (hhead : heads token.kind) (hfollow : ¬ P token.kind) (h : Reaches L P stop rest x) :
    Reaches (optionally heads L) P stop (token :: rest) x :=
  .cons (fun _ => cons_mem_optionally.trans (and_iff_right hhead)) (fun _ => hfollow) h

/-- An optional part that is not there. -/
theorem Reaches.optionally_absent {found : α} (h : ¬ heads token.kind) :
    Reaches (optionally heads L) P stop (token :: rest) (.ok (found, token :: rest)) :=
  .absent nil_mem_optionally fun _ hmore => h (cons_mem_optionally.1 hmore).1

/-- An optional part that is not there at the end. -/
theorem Reaches.optionally_nil {found : α} :
    Reaches (optionally heads L) P stop [] (.ok (found, [])) :=
  .absent_nil nil_mem_optionally

end

/-! ## What stands behind a copula -/

/-- A `not` ends before what is no further one. -/
theorem delimited_nots : Delimited nots (· ≠ .not) := by
  rintro _ _ after other ⟨negated, rfl⟩ ⟨denied, rfl⟩ hafter hother h
  obtain ⟨rfl, rfl⟩ := Derivation.notWord_unique (fun hnot => hafter _ hnot rfl)
    (fun hnot => hother _ hnot rfl) h
  exact ⟨rfl, rfl⟩

/-- No adjective, whatever its segments. -/
theorem noAtom_iff {after : List Token.Kind} :
    NoAtom after ↔ after ∈ follow (∀ path, · ≠ .atom path) := by
  cases after with
  | nil => simp [NoAtom, mem_follow]
  | cons kind rest => simp [NoAtom]

/-- Adjectives end before what is no atom. -/
theorem delimited_adjectiveLists : Delimited adjectiveLists (∀ path, · ≠ .atom path) := by
  rintro _ _ after other ⟨adjectives, rfl⟩ ⟨more, rfl⟩ hafter hother h
  obtain ⟨rfl, rfl⟩ :=
    Derivation.adjectives_unique (noAtom_iff.2 hafter) (noAtom_iff.2 hother) h
  exact ⟨rfl, rfl⟩

/-- What follows a body ends it before a `not`. -/
theorem rest_mul_follow :
    adjectiveLists * sentences .arguments * follow (·.rank ≤ Nonterminal.arguments.rank) ≤
      follow (· ≠ .not) := by
  rintro _ ⟨_, ⟨_, ⟨adjectives, rfl⟩, _, ⟨arguments, rfl⟩, rfl⟩, after, hafter, rfl⟩
  cases adjectives with
  | cons adjective adjectives => exact cons_mem_follow.2 (by simp)
  | nil =>
      cases arguments with
      | argument preposition place arguments => exact cons_mem_follow.2 (by simp)
      | noArgument =>
          rintro kind hkind rfl
          simpa [Token.Kind.rank, Nonterminal.rank] using hafter _ hkind

/-- Neither arguments nor what follows them begins with an atom. -/
theorem arguments_mul_follow :
    sentences .arguments * follow (·.rank ≤ Nonterminal.arguments.rank) ≤
      follow (∀ path, · ≠ .atom path) := by
  rintro _ ⟨_, ⟨arguments, rfl⟩, after, hafter, rfl⟩
  exact noAtom_iff.1 (arguments.noAtom_arguments hafter)

/-- What is said of a subject ends as its arguments do. -/
theorem delimited_bodies : Delimited bodies (·.rank ≤ Nonterminal.arguments.rank) :=
  delimited_nots.mul (delimited_adjectiveLists.mul (delimited_sentences .arguments)
    arguments_mul_follow) rest_mul_follow

section

variable {stop fuel : Nat} {tokens : List Token}

/-- A `not` is read if it is there. -/
theorem reaches_readNot : Reaches nots (· ≠ .not) stop tokens (.ok (readNot tokens)) := by
  rw [nots_eq]
  cases tokens with
  | nil => exact .optionally_nil
  | cons token rest =>
      rw [readNot]
      split
      · next hkind =>
          exact .optionally_cons hkind (by simp [hkind]) .one
      · next hkind => exact .optionally_absent hkind

/-- Adjectives are read up to the first token that is none. -/
theorem reaches_readAdjectives :
    Reaches adjectiveLists (∀ path, · ≠ .atom path) stop tokens
      (readAdjectives tokens) := by
  induction tokens with
  | nil =>
      rw [adjectiveLists_eq]
      exact .optionally_nil
  | cons token rest ih =>
      rw [readAdjectives, adjectiveLists_eq]
      split
      · next word hkind =>
          exact .optionally_cons ⟨word, hkind⟩ (fun h => h [word] hkind)
            (ih.map fun words last => ⟨word :: words, rfl⟩)
      · next path hpath hkind =>
          -- An atom of several segments is no adjective, and nothing else that can
          -- stand there either.
          refine .stuck completable_optionally rfl (fun _ => by simp [hkind])
            fun more hmore => ?_
          obtain ⟨⟨word, hword⟩, -⟩ := cons_mem_optionally.1 hmore
          exact hpath word (Token.Kind.atom.inj (hkind.symm.trans hword))
      · next hword hatom =>
          refine .optionally_absent ?_
          rintro ⟨word, h⟩
          exact hword word h

end

/-! ## One lemma for each reader -/

/-- The readers of some fuel reach as far as the tokens are viable, if there are few
enough of them. -/
def IsFarthest (stop fuel : Nat) : Prop :=
  ∀ ⦃s : Nonterminal⦄ ⦃tokens : List Token⦄, s ≠ .value →
    8 * tokens.length + s.slack ≤ fuel →
    Reaches (sentences s) (·.rank ≤ s.rank) stop tokens
      (readNonterminal stop fuel s tokens)

/-- What stands behind a copula, read in three steps. -/
def readBody (stop fuel : Nat) (tokens : List Token) :
    Except Diagnostic (Found (Bool × List String × List (String × Expression))) := do
  let (negated, words) ← pure (readNot tokens)
  let (adjectives, after) ← readAdjectives words
  let (arguments, last) ← readArguments stop fuel after
  pure ((negated, adjectives, arguments), last)

/-- A clause about a subject: what stands behind the copula, if there is an adjective or
an argument. -/
def readClause (stop fuel : Nat) (subject : Expression) (copula : String)
    (tokens : List Token) :
    Except Diagnostic (Found Expression) := do
  let ((negated, adjectives, arguments), last) ← readBody stop fuel tokens
  if adjectives.isEmpty && arguments.isEmpty then
    match last with
    | next :: _ => .error ⟨.propertyExpected copula, next.extent⟩
    | [] => .error (endOfInput stop)
  else pure (.clause subject negated adjectives arguments, last)

section

variable {stop fuel : Nat} {tokens : List Token} {connective : Connective}

/-- Further operands, and what can follow them, can follow an operand. -/
theorem more_mul_follow :
    sentences (.more connective) * follow (·.rank ≤ (Nonterminal.more connective).rank) ≤
      follow (·.rank ≤ (Nonterminal.operand connective).rank) := by
  rw [sentences_more]
  refine optionally_mul_follow ?_ fun kind hkind => Nat.le_trans hkind ?_
  · rintro kind rfl
    cases connective <;> decide
  · cases connective <;> decide

/-- The reader of chains goes as far as can be. -/
theorem IsFarthest.chain (h : IsFarthest stop fuel)
    (hfuel : 8 * tokens.length + (Nonterminal.chain connective).slack ≤ fuel + 1) :
    Reaches (sentences (.chain connective))
      (·.rank ≤ (Nonterminal.chain connective).rank) stop tokens
      (readChain stop (fuel + 1) connective tokens) := by
  have hslack : (Nonterminal.operand connective).slack + 1 =
      (Nonterminal.chain connective).slack := by
    cases connective <;> rfl
  have hone :
      (Nonterminal.more connective).slack ≤ (Nonterminal.operand connective).slack := by
    cases connective <;> decide
  have hrank :
      (Nonterminal.chain connective).rank = (Nonterminal.more connective).rank := by
    cases connective <;> rfl
  rw [readChain, sentences_chain, hrank]
  refine .mul (delimited_sentences _) more_mul_follow (completable_nil _)
    (h (s := .operand connective) (by simp) (by omega)) fun first rest _ hlength => ?_
  exact (h (s := .more connective) (by simp) (by omega)).map fun more last => ⟨_, rfl⟩

/-- So does the reader of operands. -/
theorem IsFarthest.operand (h : IsFarthest stop fuel)
    (hfuel : 8 * tokens.length + (Nonterminal.operand connective).slack ≤ fuel + 1) :
    Reaches (sentences (.operand connective))
      (·.rank ≤ (Nonterminal.operand connective).rank) stop
      tokens (readOperand stop (fuel + 1) connective tokens) := by
  cases connective with
  | or =>
      simp only [Nonterminal.slack] at hfuel
      rw [readOperand, sentences_disjunct]
      exact h (s := .chain .and) (by simp) (by simp only [Nonterminal.slack]; omega)
  | and =>
      simp only [Nonterminal.slack] at hfuel
      rw [readOperand, sentences_conjunct]
      exact h (s := .comparison) (by simp) (by simp only [Nonterminal.slack]; omega)

/-- So does the reader of further operands. -/
theorem IsFarthest.more (h : IsFarthest stop fuel)
    (hfuel : 8 * tokens.length + (Nonterminal.more connective).slack ≤ fuel + 1) :
    Reaches (sentences (.more connective))
      (·.rank ≤ (Nonterminal.more connective).rank) stop tokens
      (readMore stop (fuel + 1) connective tokens) := by
  have hslack : (Nonterminal.operand connective).slack ≤ 5 := by
    cases connective <;> decide
  cases tokens with
  | nil =>
      rw [readMore, sentences_more]
      exact .optionally_nil
  | cons token words =>
      simp only [List.length_cons, Nonterminal.slack] at hfuel
      rw [readMore, sentences_more]
      split
      · next hword =>
          have hkind : token.kind = connective.word := Derivation.isWord_iff.1 hword
          have hfresh : ¬ token.kind.rank ≤ (Nonterminal.more connective).rank := by
            rw [hkind]
            cases connective <;> decide
          refine .optionally_cons hkind hfresh ?_
          refine .mul (delimited_sentences _) more_mul_follow (completable_nil _)
            (h (s := .operand connective) (by simp) (by omega))
              fun operand rest _ hlength => ?_
          exact
            (h (s := .more connective) (by simp)
              (by simp only [Nonterminal.slack]; omega)).map
            fun more last => ⟨_, rfl⟩
      · next hword =>
          exact .optionally_absent fun hkind => hword (Derivation.isWord_iff.2 hkind)

/-- So does the reader of comparisons. -/
theorem IsFarthest.comparison (h : IsFarthest stop fuel)
    (hfuel : 8 * tokens.length + Nonterminal.comparison.slack ≤ fuel + 1) :
    Reaches (sentences .comparison) (·.rank ≤ Nonterminal.comparison.rank) stop tokens
      (readComparison stop (fuel + 1) tokens) := by
  simp only [Nonterminal.slack] at hfuel
  rw [readComparison, sentences_comparison]
  refine .mul (delimited_sentences _) ?_ completable_optionally
    (h (s := .property) (by simp) (by simp only [Nonterminal.slack]; omega))
    fun left rest _ hlength => ?_
  · refine optionally_mul_follow ?_ fun kind hkind => Nat.le_trans hkind (by decide)
    rintro kind ⟨o, rfl⟩
    simp [Token.Kind.rank, Nonterminal.rank]
  · cases rest with
    | nil => exact .optionally_nil
    | cons token after =>
        rw [List.length_cons] at hlength
        dsimp only
        split
        · next operator hkind =>
            have hfresh : ¬ token.kind.rank ≤ Nonterminal.comparison.rank := by
              simp [hkind, Token.Kind.rank, Nonterminal.rank]
            split
            · next hnone =>
                refine .stuck completable_optionally rfl (fun _ => hfresh)
                  fun more hmore => ?_
                obtain ⟨⟨o, ho⟩, -⟩ := cons_mem_optionally.1 hmore
                rw [hkind] at ho
                cases ho
                simp [Operator.relation?_text] at hnone
            · next relation negated hrelation =>
                obtain ⟨o, ho, -⟩ := Operator.exists_of_relation? hrelation
                refine .optionally_cons ⟨o, by rw [hkind, ho]⟩ hfresh ?_
                have hright :=
                  @h .property after (by simp) (by simp only [Nonterminal.slack]; omega)
                exact (hright.mono (delimited_sentences _)
                  fun kind hkind => Nat.le_trans hkind (by decide)).map fun right last =>
                    ⟨_, rfl⟩
        · next hother =>
            refine .optionally_absent ?_
            rintro ⟨o, ho⟩
            exact hother _ ho

/-- So does the reader of arguments. -/
theorem IsFarthest.arguments (h : IsFarthest stop fuel)
    (hfuel : 8 * tokens.length + Nonterminal.arguments.slack ≤ fuel + 1) :
    Reaches (sentences .arguments) (·.rank ≤ Nonterminal.arguments.rank) stop tokens
      (readArguments stop (fuel + 1) tokens) := by
  cases tokens with
  | nil =>
      rw [readArguments, sentences_arguments]
      exact .optionally_nil
  | cons token words =>
      simp only [List.length_cons, Nonterminal.slack] at hfuel
      rw [readArguments, sentences_arguments]
      split
      · next preposition hkind =>
          have hfresh : ¬ token.kind.rank ≤ Nonterminal.arguments.rank := by
            simp [hkind, Token.Kind.rank, Nonterminal.rank]
          refine .optionally_cons ⟨preposition, hkind⟩ hfresh ?_
          refine .mul (delimited_sentences _) (fun after _ => ends_unary)
            (completable_nil _)
            (h (s := .unary) (by simp) (by simp only [Nonterminal.slack]; omega))
            fun place rest _ hlength => ?_
          exact
            (h (s := .arguments) (by simp) (by simp only [Nonterminal.slack]; omega)).map
            fun more last => ⟨_, rfl⟩
      · next hother =>
          refine .optionally_absent ?_
          rintro ⟨preposition, h⟩
          exact hother _ h

/-- The three steps behind a copula reach as far as they can. -/
theorem IsFarthest.body (h : IsFarthest stop fuel)
    (hfuel : 8 * tokens.length + Nonterminal.arguments.slack ≤ fuel) :
    Reaches bodies (·.rank ≤ Nonterminal.arguments.rank) stop tokens
      (readBody stop fuel tokens) := by
  simp only [Nonterminal.slack] at hfuel
  have hrest : Completable (adjectiveLists * sentences .arguments) [] :=
    .of_mem ⟨[], ⟨[], rfl⟩, [], ⟨.noArgument, rfl⟩, rfl⟩
  refine .mul delimited_nots rest_mul_follow hrest reaches_readNot
    fun negated words _ hwords => ?_
  refine .mul delimited_adjectiveLists arguments_mul_follow (completable_nil _)
    reaches_readAdjectives fun adjectives after _ hafter => ?_
  exact (h (s := .arguments) (by simp) (by simp only [Nonterminal.slack]; omega)).map
    fun arguments last => ⟨_, rfl⟩

/-- The tokens of a body that is read. -/
theorem kinds_body {taken last : List Token} {negated : Bool} {adjectives : List String}
    {arguments : List (String × Expression)}
    (h : readBody stop fuel tokens = .ok ((negated, adjectives, arguments), last))
    (htokens : tokens = taken ++ last) :
    ∃ c : Derivation .arguments, c.meaning = arguments ∧
      kinds taken = notWord negated ++ (adjectiveWords adjectives ++ c.sentence) := by
  obtain ⟨⟨negated, words⟩, hnot, h⟩ := bind_eq_ok h
  obtain ⟨⟨adjectives, there⟩, hadjectives, h⟩ := bind_eq_ok h
  obtain ⟨⟨arguments, last⟩, harguments, h⟩ := bind_eq_ok h
  cases h
  obtain ⟨c, hmeaning, hc⟩ :=
    IsSound.of_fuel stop fuel (s := .arguments) (by simp) harguments
  refine ⟨c, hmeaning, ?_⟩
  have hkinds := kinds_readNot tokens
  rw [Except.ok.inj hnot, kinds_readAdjectives hadjectives, hc, htokens,
    kinds_append] at hkinds
  exact List.append_cancel_right (by simpa using hkinds)

/-- So does the reader of what follows a copula. -/
theorem IsFarthest.clause {subject : Expression} {copula : String}
    (h : IsFarthest stop fuel)
    (hfuel : 8 * tokens.length + Nonterminal.arguments.slack ≤ fuel) :
    Reaches (bodies - nots) (·.rank ≤ Nonterminal.property.rank) stop tokens
      (readClause stop fuel subject copula tokens) := by
  refine (h.body hfuel).restrict delimited_bodies (fun _ h => h.1)
    (fun _ => completable_body) ?_
  rintro ⟨negated, adjectives, arguments⟩ taken last hread htokens hsentence
  obtain ⟨c, rfl, hc⟩ := kinds_body hread htokens
  by_cases hnone : adjectives = [] ∧ c = .noArgument
  · obtain ⟨rfl, rfl⟩ := hnone
    refine Or.inr ⟨fun h => h.2 (hc ▸ body_mem_nots.2 ⟨rfl, rfl⟩), ?_⟩
    cases last <;> exact ⟨_, rfl, rfl⟩
  · refine Or.inl ⟨⟨hsentence, fun h => hnone (body_mem_nots.1 (hc ▸ h))⟩, ?_⟩
    cases adjectives with
    | cons adjective adjectives => exact ⟨_, rfl⟩
    | nil =>
        cases c with
        | noArgument => exact absurd ⟨rfl, rfl⟩ hnone
        | argument preposition place arguments => exact ⟨_, rfl⟩

/-- So does the reader of properties. -/
theorem IsFarthest.property (h : IsFarthest stop fuel)
    (hfuel : 8 * tokens.length + Nonterminal.property.slack ≤ fuel + 1) :
    Reaches (sentences .property) (·.rank ≤ Nonterminal.property.rank) stop tokens
      (readProperty stop (fuel + 1) tokens) := by
  simp only [Nonterminal.slack] at hfuel
  rw [readProperty, sentences_property]
  refine .mul (delimited_sentences _) (fun after _ => ends_unary) completable_optionally
    (h (s := .unary) (by simp) (by simp only [Nonterminal.slack]; omega))
    fun subject rest _ hlength => ?_
  cases rest with
  | nil => exact .optionally_nil
  | cons token after =>
      rw [List.length_cons] at hlength
      dsimp only
      split
      · next copula hkind =>
          have hfresh : ¬ token.kind.rank ≤ Nonterminal.property.rank := by
            simp [hkind, Token.Kind.rank, Nonterminal.rank]
          have hclause :
              Reaches (bodies - nots) (·.rank ≤ Nonterminal.property.rank) stop after
                (readClause stop fuel subject copula after) :=
            h.clause (by simp only [Nonterminal.slack]; omega)
          refine .optionally_cons ⟨copula, hkind⟩ hfresh ?_
          simp only [readClause, readBody, bind_assoc, pure_bind] at hclause
          exact hclause
      · next hother =>
          refine .optionally_absent ?_
          rintro ⟨copula, h⟩
          exact hother _ h

/-- A closing parenthesis can follow a disjunction. -/
theorem closing_mul_follow :
    closing * follow (·.rank ≤ Nonterminal.unary.rank) ≤
      follow (·.rank ≤ (Nonterminal.chain .or).rank) := by
  rintro _ ⟨_, rfl, after, hafter, rfl⟩
  exact cons_mem_follow.2 (Nat.le_refl 0)

/-- So does the reader of unaries. -/
theorem IsFarthest.unary (h : IsFarthest stop fuel)
    (hfuel : 8 * tokens.length ≤ fuel + 1) :
    Reaches (sentences .unary) (·.rank ≤ Nonterminal.unary.rank) stop tokens
      (readUnary stop (fuel + 1) tokens) := by
  cases tokens with
  | nil =>
      rw [readUnary]
      exact .stuck_nil (completable_nil _) rfl
  | cons token words =>
      rw [List.length_cons] at hfuel
      have hnil : [] ∈ sentences .unary → ¬ token.kind.rank ≤ Nonterminal.unary.rank :=
        fun h => absurd h nil_notMem_unary
      have hcons : ∀ rest, token.kind :: rest ∈ sentences .unary ↔
          rest ∈ behind token.kind :=
        fun rest => cons_mem_unary
      rw [readUnary]
      split
      · next hkind =>
          refine .cons hcons hnil ?_
          rw [hkind]
          exact (h (s := .unary) (by simp) (by simp only [Nonterminal.slack]; omega)).map
            fun operand last => ⟨_, rfl⟩
      · next path hkind => exact .cons hcons hnil (by rw [hkind]; exact .one)
      · next value hkind => exact .cons hcons hnil (by rw [hkind]; exact .one)
      · next value hkind => exact .cons hcons hnil (by rw [hkind]; exact .one)
      · next seconds hkind => exact .cons hcons hnil (by rw [hkind]; exact .one)
      · next hkind =>
          refine .cons hcons hnil ?_
          rw [hkind]
          refine .mul (delimited_sentences _) closing_mul_follow completable_closing
            (h (s := .chain .or) (by simp) (by simp only [Nonterminal.slack]; omega))
            fun inner rest _ _ => ?_
          cases rest with
          | nil => exact .stuck_nil completable_closing rfl
          | cons close after =>
              dsimp only
              split
              · next hclose =>
                  exact .cons (fun rest => cons_mem_closing.trans (and_iff_right hclose))
                    (fun h => absurd h nil_notMem_closing) .one
              · next hother =>
                  exact .stuck completable_closing rfl
                    (fun h => absurd h nil_notMem_closing)
                    fun more hmore => hother (cons_mem_closing.1 hmore).1
      · next hnot hatom hnumber hliteral hduration hparen =>
          refine .stuck (completable_nil _) rfl hnil fun more hmore => ?_
          rw [hcons] at hmore
          cases hkind : token.kind <;> simp_all [behind]

/-- **Readers get as far as they can.**  With enough fuel, every reader takes a sentence
that the next token does not go on with, or fails at the first token that no sentence
has there. -/
theorem IsFarthest.of_fuel (stop fuel : Nat) : IsFarthest stop fuel := by
  induction fuel with
  | zero =>
      intro s tokens hs hfuel
      cases s with
      | unary =>
          obtain rfl : tokens = [] := List.length_eq_zero_iff.1 (by omega)
          exact .stuck_nil (completable_nil _) rfl
      | value => exact absurd rfl hs
      | chain connective => cases connective <;> simp [Nonterminal.slack] at hfuel
      | operand connective => cases connective <;> simp [Nonterminal.slack] at hfuel
      | _ => simp [Nonterminal.slack] at hfuel
  | succ fuel ih =>
      intro s tokens hs hfuel
      cases s with
      | chain connective => exact ih.chain hfuel
      | operand connective => exact ih.operand hfuel
      | more connective => exact ih.more hfuel
      | comparison => exact ih.comparison hfuel
      | property => exact ih.property hfuel
      | arguments => exact ih.arguments hfuel
      | unary => exact ih.unary hfuel
      | value => exact absurd rfl hs

end

/-! ## Expressions -/

/-- What is viable without anything behind it is viable with what may follow. -/
theorem Viable.followed {L : Language Token.Kind} {P : Token.Kind → Prop}
    {text : List Token.Kind} (h : Viable L text) : Viable (L * follow P) text :=
  h.mono fun sentence hsentence =>
    ⟨sentence, hsentence, [], nil_mem_follow, List.append_nil _⟩

/-- A list of tokens that is no expression is refused behind what is viable. -/
theorem readTokens_misplaced {stop : Nat} {tokens : List Token} {diagnostic : Diagnostic}
    (h : readTokens stop tokens = .error diagnostic) :
    ∃ taken rest, tokens = taken ++ rest ∧ diagnostic.extent = placeOf stop rest ∧
      Completable (sentences (.chain .or)) (kinds taken) ∧
      ∀ kind ∈ (kinds rest).head?,
        ¬ Viable (sentences (.chain .or)) (kinds taken ++ [kind]) := by
  have hreaches :
      Reaches (sentences (.chain .or)) (·.rank ≤ (Nonterminal.chain .or).rank) stop tokens
        (readChain stop (readingFuel tokens) .or tokens) :=
    IsFarthest.of_fuel stop (readingFuel tokens) (s := .chain .or) (by simp)
      (by simp only [Nonterminal.slack, readingFuel]; omega)
  rw [readTokens] at h
  generalize readChain stop (readingFuel tokens) .or tokens = x at hreaches h
  cases hreaches with
  | failed taken rest htokens hextent hbegun hnext =>
      cases h
      exact ⟨taken, rest, htokens, hextent, hbegun,
        fun kind hkind h => hnext kind hkind h.followed⟩
  | read taken rest htokens hsentence hnext =>
      cases rest with
      | nil => cases h
      | cons token after =>
          cases h
          refine ⟨taken, token :: after, htokens, rfl, .of_mem hsentence, ?_⟩
          -- The sentence that was read ends before the token, so no longer one has it
          -- as a prefix.
          rintro kind hkind hviable
          have hends : kind.rank ≤ (Nonterminal.chain .or).rank :=
            hnext kind hkind hviable.followed
          obtain ⟨more, hmore⟩ := hviable
          obtain ⟨-, hnone⟩ :=
            (delimited_sentences _).next hsentence hends hmore nil_mem_follow
              (List.append_nil _)
          cases hnone

/-- **Errors stand where conditions go wrong.**  A source that has tokens but is no
expression is refused at a token, where the tokens before it can be extended to a
sentence and those up to and with it cannot, or at its end, where all its tokens can.
Tokens `x` and `)` are enough to extend them. -/
theorem Expression.parse_misplaced {source : String} {diagnostic : Diagnostic}
    (hscan : (scan source).flaw = none)
    (h : Expression.parse source = .error diagnostic) :
    (∃ before token after, (scan source).tokens = before ++ token :: after ∧
      diagnostic.extent = token.extent ∧
      Completable (sentences (.chain .or)) (kinds before) ∧
      ¬ Viable (sentences (.chain .or)) (kinds (before ++ [token]))) ∨
    (diagnostic.extent = ⟨source.utf8ByteSize, source.utf8ByteSize⟩ ∧
      Completable (sentences (.chain .or)) (kinds (scan source).tokens)) := by
  rw [Expression.parse, hscan] at h
  obtain ⟨taken, rest, htokens, hextent, hbegun, hnext⟩ := readTokens_misplaced h
  cases rest with
  | nil =>
      rw [List.append_nil] at htokens
      exact Or.inr ⟨hextent, by rwa [htokens]⟩
  | cons token after =>
      refine Or.inl ⟨taken, token, after, htokens, hextent, hbegun, ?_⟩
      rw [kinds_append]
      exact hnext token.kind (by simp)

/-- In a group, a dotted path where an adjective could stand. -/
theorem Expression.parse_misplaced_adjective :
    (scan "not (door is open a.b) and x").flaw = none ∧
    Expression.parse "not (door is open a.b) and x" =
      .error ⟨.adjectiveExpected "a.b", ⟨18, 21⟩⟩ ∧
    ∃ before token after,
      (scan "not (door is open a.b) and x").tokens = before ++ token :: after ∧
      token.extent = ⟨18, 21⟩ ∧
      Completable (sentences (.chain .or)) (kinds before) ∧
      ¬ Viable (sentences (.chain .or)) (kinds (before ++ [token])) := by
  have hscan : (scan "not (door is open a.b) and x").flaw = none := by cbv
  have hparse : Expression.parse "not (door is open a.b) and x" =
      .error ⟨.adjectiveExpected "a.b", ⟨18, 21⟩⟩ := by cbv
  refine ⟨hscan, hparse, ?_⟩
  obtain ⟨before, token, after, htokens, hextent, hbegun, hnot⟩ | ⟨hextent, -⟩ :=
    Expression.parse_misplaced hscan hparse
  · exact ⟨before, token, after, htokens, hextent.symm, hbegun, hnot⟩
  · exact absurd hextent (by decide)

end Turnstile.Condition

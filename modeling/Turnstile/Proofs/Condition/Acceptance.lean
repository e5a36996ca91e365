import Mathlib
import Turnstile.Proofs.Condition.Reading

/-!
# The language of conditions

What a reader takes has a derivation, and what it makes of it is the meaning
(`IsSound.of_fuel`).  Together with `Derivation.read` and `Derivation.unique`: a source
that can be scanned is an expression just when its tokens have a derivation, which is
then the only one, and the code of the expression is the postfix code of that derivation
(`Expression.parse_grammar`).
-/

set_option autoImplicit false

namespace Turnstile.Condition

/-- Two steps succeed when the first one does, and the second one from what the first
one answered. -/
theorem bind_eq_ok {ε α β : Type} {x : Except ε α} {f : α → Except ε β} {b : β}
    (h : x >>= f = .ok b) :
    ∃ a, x = .ok a ∧ f a = .ok b := by
  cases x with
  | error flaw => cases h
  | ok a => exact ⟨a, rfl, h⟩

/-- The tokens before `rest` have a derivation that means `found`. -/
def Derived (s : Nonterminal) (tokens : List Token) (found : s.Meaning)
    (rest : List Token) : Prop :=
  ∃ d : Derivation s, d.meaning = found ∧ kinds tokens = d.sentence ++ kinds rest

/-- What the readers of some fuel take has a derivation. -/
def IsSound (stop fuel : Nat) : Prop :=
  ∀ ⦃s : Nonterminal⦄ ⦃tokens : List Token⦄ ⦃found : s.Meaning⦄ ⦃rest : List Token⦄, s ≠
    .value →
    readNonterminal stop fuel s tokens = .ok (found, rest) → Derived s tokens found rest

section

variable {stop fuel : Nat} {tokens rest : List Token} {e : Expression}
  {connective : Connective}

/-- A chain is an operand and what follows it. -/
theorem IsSound.chain (h : IsSound stop fuel)
    (hread : readChain stop (fuel + 1) connective tokens = .ok (e, rest)) :
    Derived (.chain connective) tokens e rest := by
  rw [readChain] at hread
  obtain ⟨⟨first, words⟩, hfirst, hread⟩ := bind_eq_ok hread
  obtain ⟨⟨more, last⟩, hmore, hread⟩ := bind_eq_ok hread
  cases hread
  obtain ⟨d, rfl, hd⟩ := h (s := .operand connective) (by simp) hfirst
  obtain ⟨c, rfl, hc⟩ := h (s := .more connective) (by simp) hmore
  exact ⟨.chain d c, rfl, by rw [hd, hc, Derivation.sentence, List.append_assoc]⟩

/-- The operands of `or` are chains of `and`, and those of `and` are comparisons. -/
theorem IsSound.operand (h : IsSound stop fuel)
    (hread : readOperand stop (fuel + 1) connective tokens = .ok (e, rest)) :
    Derived (.operand connective) tokens e rest := by
  cases connective with
  | or =>
      rw [readOperand] at hread
      obtain ⟨d, rfl, hd⟩ := h (s := .chain .and) (by simp) hread
      exact ⟨.disjunct d, rfl, hd⟩
  | and =>
      rw [readOperand] at hread
      obtain ⟨d, rfl, hd⟩ := h (s := .comparison) (by simp) hread
      exact ⟨.conjunct d, rfl, hd⟩

/-- Further operands stand after the word of their connective. -/
theorem IsSound.more {operands : List Expression} (h : IsSound stop fuel)
    (hread : readMore stop (fuel + 1) connective tokens = .ok (operands, rest)) :
    Derived (.more connective) tokens operands rest := by
  cases tokens with
  | nil =>
      rw [readMore] at hread
      cases hread
      exact ⟨.noMore, rfl, rfl⟩
  | cons token words =>
      rw [readMore] at hread
      split at hread
      · next hword =>
          obtain ⟨⟨operand, others⟩, hoperand, hread⟩ := bind_eq_ok hread
          obtain ⟨⟨more, last⟩, hmore, hread⟩ := bind_eq_ok hread
          cases hread
          obtain ⟨d, rfl, hd⟩ := h (s := .operand connective) (by simp) hoperand
          obtain ⟨c, rfl, hc⟩ := h (s := .more connective) (by simp) hmore
          refine ⟨.oneMore d c, rfl, ?_⟩
          rw [kinds_cons, Derivation.isWord_iff.1 hword, hd, hc, Derivation.sentence,
            List.cons_append, List.append_assoc]
      · cases hread
        exact ⟨.noMore, rfl, rfl⟩

/-- A comparison has one operator at most. -/
theorem IsSound.comparison (h : IsSound stop fuel)
    (hread : readComparison stop (fuel + 1) tokens = .ok (e, rest)) :
    Derived .comparison tokens e rest := by
  rw [readComparison] at hread
  obtain ⟨⟨left, words⟩, hleft, hread⟩ := bind_eq_ok hread
  obtain ⟨d, rfl, hd⟩ := h (s := .property) (by simp) hleft
  cases words with
  | nil =>
      cases hread
      exact ⟨.alone d, rfl, hd⟩
  | cons token after =>
      dsimp only at hread
      split at hread
      · next operator hkind =>
          split at hread
          · cases hread
          · next relation negated hrelation =>
              obtain ⟨⟨right, last⟩, hright, hread⟩ := bind_eq_ok hread
              cases hread
              obtain ⟨c, rfl, hc⟩ := h (s := .property) (by simp) hright
              obtain ⟨o, rfl, ho⟩ := Operator.exists_of_relation? hrelation
              cases ho
              refine ⟨.compared d o c, rfl, ?_⟩
              rw [hd, kinds_cons, hkind, hc, Derivation.sentence, List.append_assoc,
                List.cons_append]
      · cases hread
        exact ⟨.alone d, rfl, hd⟩

/-- What `readNot` takes is a `not`, or nothing. -/
theorem kinds_readNot (tokens : List Token) :
    kinds tokens = notWord (readNot tokens).1 ++ kinds (readNot tokens).2 := by
  cases tokens with
  | nil => rfl
  | cons token words =>
      rw [readNot]
      split
      · next hkind =>
          rw [kinds_cons, hkind]
          rfl
      · rfl

/-- What `readAdjectives` takes are adjectives. -/
theorem kinds_readAdjectives {adjectives : List String}
    (h : readAdjectives tokens = .ok (adjectives, rest)) :
    kinds tokens = adjectiveWords adjectives ++ kinds rest := by
  induction tokens generalizing adjectives with
  | nil =>
      cases h
      rfl
  | cons token words ih =>
      rw [readAdjectives] at h
      split at h
      · next word hkind =>
          obtain ⟨⟨others, last⟩, hothers, h⟩ := bind_eq_ok h
          cases h
          rw [kinds_cons, hkind, ih hothers]
          rfl
      · cases h
      · cases h
        rfl

/-- After a copula a clause has an adjective or an argument. -/
theorem IsSound.property (h : IsSound stop fuel)
    (hread : readProperty stop (fuel + 1) tokens = .ok (e, rest)) :
    Derived .property tokens e rest := by
  rw [readProperty] at hread
  obtain ⟨⟨subject, words⟩, hsubject, hread⟩ := bind_eq_ok hread
  obtain ⟨d, rfl, hd⟩ := h (s := .unary) (by simp) hsubject
  cases words with
  | nil =>
      cases hread
      exact ⟨.plain d, rfl, hd⟩
  | cons token after =>
      dsimp only at hread
      split at hread
      · next copula hkind =>
          obtain ⟨⟨adjectives, there⟩, hadjectives, hread⟩ := bind_eq_ok hread
          obtain ⟨⟨arguments, last⟩, harguments, hread⟩ := bind_eq_ok hread
          obtain ⟨c, rfl, hc⟩ := h (s := .arguments) (by simp) harguments
          have hclause : kinds tokens = d.sentence ++ .copula copula ::
              (notWord (readNot after).1 ++ (adjectiveWords adjectives ++
                (c.sentence ++ kinds last))) := by
            rw [hd, kinds_cons, hkind, kinds_readNot after,
              kinds_readAdjectives hadjectives, hc]
          dsimp only at hread
          split at hread
          · split at hread <;> cases hread
          · next hsome =>
              cases hread
              cases adjectives with
              | cons adjective adjectives =>
                  refine ⟨.described d copula (readNot after).1 adjective
                    adjectives c, rfl, ?_⟩
                  simp only [hclause, Derivation.sentence, List.append_assoc,
                    List.cons_append]
              | nil =>
                  -- Without an adjective there is an argument.
                  cases c with
                  | noArgument => exact absurd rfl hsome
                  | argument preposition place arguments =>
                      refine ⟨.placed d copula (readNot after).1 preposition
                        place arguments, rfl, ?_⟩
                      simp only [hclause, Derivation.sentence, List.append_assoc,
                        List.cons_append]
                      rfl
      · cases hread
        exact ⟨.plain d, rfl, hd⟩

/-- Arguments are read as long as prepositions come. -/
theorem IsSound.arguments {arguments : List (String × Expression)} (h : IsSound stop fuel)
    (hread : readArguments stop (fuel + 1) tokens = .ok (arguments, rest)) :
    Derived .arguments tokens arguments rest := by
  cases tokens with
  | nil =>
      rw [readArguments] at hread
      cases hread
      exact ⟨.noArgument, rfl, rfl⟩
  | cons token words =>
      rw [readArguments] at hread
      split at hread
      · next preposition hkind =>
          obtain ⟨⟨place, others⟩, hplace, hread⟩ := bind_eq_ok hread
          obtain ⟨⟨more, last⟩, hmore, hread⟩ := bind_eq_ok hread
          cases hread
          obtain ⟨d, rfl, hd⟩ := h (s := .unary) (by simp) hplace
          obtain ⟨c, rfl, hc⟩ := h (s := .arguments) (by simp) hmore
          refine ⟨.argument preposition d c, rfl, ?_⟩
          rw [kinds_cons, hkind, hd, hc, Derivation.sentence, List.cons_append,
            List.append_assoc]
      · cases hread
        exact ⟨.noArgument, rfl, rfl⟩

/-- A value of one token has a derivation. -/
theorem Derived.word {token : Token} (v : Derivation .value)
    (h : v.sentence = [token.kind]) :
    Derived .unary (token :: rest) v.meaning rest :=
  ⟨.value v, rfl, by rw [Derivation.sentence, h, kinds_cons, List.singleton_append]⟩

/-- A unary is a negation, a value of one token, or a group. -/
theorem IsSound.unary (h : IsSound stop fuel)
    (hread : readUnary stop (fuel + 1) tokens = .ok (e, rest)) :
    Derived .unary tokens e rest := by
  cases tokens with
  | nil =>
      rw [readUnary] at hread
      cases hread
  | cons token words =>
      rw [readUnary] at hread
      split at hread
      · next hkind =>
          obtain ⟨⟨operand, last⟩, hoperand, hread⟩ := bind_eq_ok hread
          cases hread
          obtain ⟨d, rfl, hd⟩ := h (s := .unary) (by simp) hoperand
          exact ⟨.negation d, rfl, by rw [kinds_cons, hkind, hd]; rfl⟩
      · next path hkind =>
          cases hread
          exact .word (.atom path) (by rw [hkind]; rfl)
      · next value hkind =>
          cases hread
          exact .word (.number value) (by rw [hkind]; rfl)
      · next value hkind =>
          cases hread
          exact .word (.literal value) (by rw [hkind]; rfl)
      · next seconds hkind =>
          cases hread
          exact .word (.duration seconds) (by rw [hkind]; rfl)
      · next hkind =>
          obtain ⟨⟨inner, last⟩, hinner, hread⟩ := bind_eq_ok hread
          obtain ⟨d, rfl, hd⟩ := h (s := .chain .or) (by simp) hinner
          cases last with
          | nil => cases hread
          | cons close after =>
              dsimp only at hread
              split at hread
              · next hclose =>
                  cases hread
                  refine ⟨.value (.group d), rfl, ?_⟩
                  rw [kinds_cons, hkind, hd, kinds_cons, hclose]
                  simp only [Derivation.sentence, List.cons_append, List.append_assoc,
                    List.nil_append]
              · cases hread
      · cases hread

end

/-- Readers without fuel only take what is empty. -/
theorem IsSound.zero {stop : Nat} : IsSound stop 0 := by
  intro s tokens found rest hs hread
  cases s with
  | more connective =>
      change readMore stop 0 connective tokens = _ at hread
      cases tokens with
      | nil =>
          rw [readMore] at hread
          cases hread
          exact ⟨.noMore, rfl, rfl⟩
      | cons token words => cases hread
  | arguments =>
      change readArguments stop 0 tokens = _ at hread
      cases tokens with
      | nil =>
          rw [readArguments] at hread
          cases hread
          exact ⟨.noArgument, rfl, rfl⟩
      | cons token words => cases hread
  | unary => cases tokens <;> cases hread
  | value => exact absurd rfl hs
  | _ => cases hread

/-- **What is read is derived.**  With any fuel, what a reader takes has a derivation,
and what it answers is the meaning. -/
theorem IsSound.of_fuel (stop fuel : Nat) : IsSound stop fuel := by
  induction fuel with
  | zero => exact .zero
  | succ fuel ih =>
      intro s tokens found rest hs hread
      cases s with
      | chain connective => exact ih.chain hread
      | operand connective => exact ih.operand hread
      | more connective => exact ih.more hread
      | comparison => exact ih.comparison hread
      | property => exact ih.property hread
      | arguments => exact ih.arguments hread
      | unary => exact ih.unary hread
      | value => exact absurd rfl hs

/-- A list of tokens is read as an expression just when the expression is the meaning of
one of its derivations. -/
theorem readTokens_eq_ok {stop : Nat} {tokens : List Token} {e : Expression} :
    readTokens stop tokens = .ok e ↔
      ∃ d : Derivation (.chain .or), d.sentence = kinds tokens ∧ d.meaning = e := by
  constructor
  · intro h
    rw [readTokens] at h
    obtain ⟨⟨found, rest⟩, hread, h⟩ := bind_eq_ok h
    cases rest with
    | cons token rest => cases h
    | nil =>
        cases h
        have hsound := IsSound.of_fuel stop (readingFuel tokens)
        obtain ⟨d, hmeaning, hsentence⟩ := hsound (s := .chain .or) (by simp) hread
        rw [kinds_nil, List.append_nil] at hsentence
        exact ⟨d, hsentence.symm, hmeaning⟩
  · rintro ⟨d, hsentence, rfl⟩
    have hfuel :
        8 * tokens.length + (Nonterminal.chain .or).slack ≤ readingFuel tokens := by
      simp only [Nonterminal.slack, readingFuel]
      omega
    have hend : Ends (.chain .or) (kinds []) := ends_nil
    have hread : readChain stop (readingFuel tokens) .or (tokens ++ []) =
        .ok (d.meaning, []) :=
      d.read stop hsentence.symm hend hfuel
    rw [List.append_nil] at hread
    rw [readTokens, hread]
    rfl

/-- Tokens have at most one derivation. -/
theorem Derivation.unique_of_kinds {tokens : List Token} {d c : Derivation (.chain .or)}
    (hd : d.sentence = kinds tokens) (hc : c.sentence = kinds tokens) : d = c := by
  have hsame : d.sentence ++ [] = c.sentence ++ [] := by rw [hd, hc]
  exact (d.unique hsame ends_nil ends_nil).1

/-- A source that is an expression is the sentence of a derivation that means the
expression. -/
theorem Expression.derivation_of_parse {source : String} {e : Expression}
    (h : Expression.parse source = .ok e) : ∃ d : Derivation (.chain .or),
      d.sentence = kinds (scan source).tokens ∧ d.meaning = e ∧ d.code = e.code := by
  unfold Expression.parse at h
  dsimp only at h
  split at h
  · cases h
  · obtain ⟨d, hd, rfl⟩ := readTokens_eq_ok.1 h
    exact ⟨d, hd, rfl, d.code_meaning.symm⟩

/-- **The language of conditions.**  A source that can be scanned is an expression just
when its tokens have a derivation.  They have no other, and the expression is its
meaning, with its postfix code. -/
theorem Expression.parse_grammar {source : String} (h : (scan source).flaw = none) :
    ((∃ e, Expression.parse source = .ok e) ↔
      ∃ d : Derivation (.chain .or), d.sentence = kinds (scan source).tokens) ∧
    (∀ d c : Derivation (.chain .or), d.sentence = kinds (scan source).tokens →
      c.sentence = kinds (scan source).tokens → d = c) ∧
    ∀ (e : Expression) (d : Derivation (.chain .or)), Expression.parse source = .ok e →
      d.sentence = kinds (scan source).tokens → d.meaning = e ∧ d.code = e.code := by
  refine ⟨⟨?_, ?_⟩, fun d c => Derivation.unique_of_kinds, ?_⟩
  · rintro ⟨e, he⟩
    obtain ⟨d, hd, -⟩ := Expression.derivation_of_parse he
    exact ⟨d, hd⟩
  · rintro ⟨d, hd⟩
    refine ⟨d.meaning, ?_⟩
    rw [Expression.parse, h]
    exact readTokens_eq_ok.2 ⟨d, hd, rfl⟩
  · intro e d he hd
    obtain ⟨c, hc, hfound⟩ := Expression.derivation_of_parse he
    obtain rfl := Derivation.unique_of_kinds hd hc
    exact hfound

/-- A clause in a negated group, joined to a comparison. -/
theorem Expression.parse_grammar_door :
    (scan "not (door is open since 5m) and count >= 3").flaw = none ∧
    ∃ d : Derivation (.chain .or),
      d.sentence = kinds (scan "not (door is open since 5m) and count >= 3").tokens ∧
      d.code =
        [.lookup ["door"], .literal (.int 300), .property ["open"] ["since"],
          .toBool, .not, .toBool, .lookup ["count"], .literal (.int 3),
          .less, .not, .toBool, .and] := by
  have hscan : (scan "not (door is open since 5m) and count >= 3").flaw = none := by cbv
  obtain ⟨hderived, -, hcode⟩ := Expression.parse_grammar hscan
  obtain ⟨e, he, hpostfix⟩ : ∃ e,
      Expression.parse "not (door is open since 5m) and count >= 3" = .ok e ∧
        e.code = [.lookup ["door"], .literal (.int 300), .property ["open"] ["since"],
          .toBool, .not, .toBool, .lookup ["count"], .literal (.int 3),
          .less, .not, .toBool, .and] :=
    ⟨_, by cbv, rfl⟩
  obtain ⟨d, hd⟩ := hderived.1 ⟨e, he⟩
  exact ⟨hscan, d, hd, (hcode e d he hd).2.trans hpostfix⟩

end Turnstile.Condition

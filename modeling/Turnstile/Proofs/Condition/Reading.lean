import Turnstile.Proofs.Condition.Unambiguous

/-!
# Readers read what the grammar derives

A reader that is given the tokens of a derivation and then some, where the derivation
ends before those, takes the tokens of the derivation and makes its meaning of them
(`Derivation.read`).

Readers carry fuel.  Eight units for every token are enough, together with the `slack`
of the nonterminal: the readers that call each other before a token is taken.
-/

set_option autoImplicit false

namespace Turnstile.Condition

/-- The kinds of tokens. -/
def kinds (tokens : List Token) : List Token.Kind := tokens.map Token.kind

@[simp] theorem kinds_nil : kinds [] = [] := rfl

@[simp] theorem kinds_cons (token : Token) (tokens : List Token) :
    kinds (token :: tokens) = token.kind :: kinds tokens := rfl

@[simp] theorem kinds_append (tokens more : List Token) :
    kinds (tokens ++ more) = kinds tokens ++ kinds more := List.map_append

/-- Without kinds there are no tokens. -/
theorem kinds_eq_nil {tokens : List Token} (h : kinds tokens = []) : tokens = [] :=
  List.map_eq_nil_iff.1 h

/-- The first kind is that of the first token. -/
theorem kinds_eq_cons {tokens : List Token} {kind : Token.Kind} {more : List Token.Kind}
    (h : kinds tokens = kind :: more) :
    ∃ token rest, tokens = token :: rest ∧ token.kind = kind ∧ kinds rest = more :=
  List.map_eq_cons_iff.1 h

/-- Where kinds are split tokens can be split. -/
theorem kinds_eq_append {tokens : List Token} {first second : List Token.Kind}
    (h : kinds tokens = first ++ second) :
    ∃ a b, tokens = a ++ b ∧ kinds a = first ∧ kinds b = second :=
  List.map_eq_append_iff.1 h

/-- The reader of a nonterminal. -/
def readNonterminal (stop fuel : Nat) :
    (s : Nonterminal) → List Token → Except Diagnostic (Found s.Meaning)
  | .chain connective => readChain stop fuel connective
  | .operand connective => readOperand stop fuel connective
  | .more connective => readMore stop fuel connective
  | .comparison => readComparison stop fuel
  | .property => readProperty stop fuel
  | .arguments => readArguments stop fuel
  | .unary | .value => readUnary stop fuel

/-- How many readers call each other before a token is taken. -/
def Nonterminal.slack : Nonterminal → Nat
  | .chain .or => 6
  | .operand .or => 5
  | .chain .and => 4
  | .operand .and => 3
  | .comparison => 2
  | .property | .more _ | .arguments => 1
  | .unary | .value => 0

/-! ## What is derived is read -/

namespace Derivation

variable {s : Nonterminal} {stop : Nat}

/-- The reader takes the tokens of a derivation, whatever follows that the derivation
ends before. -/
def IsRead (stop : Nat) (d : Derivation s) : Prop :=
  ∀ ⦃fuel : Nat⦄ ⦃taken rest : List Token⦄, kinds taken = d.sentence →
    Ends s (kinds rest) →
    8 * taken.length + s.slack ≤ fuel →
      readNonterminal stop fuel s (taken ++ rest) = .ok (d.meaning, rest)

/-- A chain is read if its operands are. -/
theorem IsRead.chain {connective : Connective} {first : Derivation (.operand connective)}
    {more : Derivation (.more connective)} (hfirst : first.IsRead stop)
    (hmore : more.IsRead stop) :
    (Derivation.chain first more).IsRead stop := by
  intro fuel taken rest htaken hends hfuel
  obtain ⟨a, b, rfl, ha, hb⟩ := kinds_eq_append htaken
  have hoperand : (Nonterminal.operand connective).slack + 1 =
      (Nonterminal.chain connective).slack := by
    cases connective <;> decide
  have hone :
      (Nonterminal.more connective).slack ≤ (Nonterminal.operand connective).slack := by
    cases connective <;> decide
  have hrank :
      (Nonterminal.chain connective).rank ≤ (Nonterminal.more connective).rank := by
    cases connective <;> decide
  have hpos : 0 < (Nonterminal.chain connective).slack := by cases connective <;> decide
  rw [List.length_append] at hfuel
  cases fuel with
  | zero => omega
  | succ fuel =>
      have hread : readOperand stop fuel connective (a ++ (b ++ rest)) =
          .ok (first.meaning, b ++ rest) := by
        refine hfirst ha ?_ (by omega)
        rw [kinds_append, hb]
        exact more.ends_more hends
      have hmore : readMore stop fuel connective (b ++ rest) = .ok (more.meaning, rest) :=
        hmore hb (hends.mono hrank) (by omega)
      change readChain stop (fuel + 1) connective (a ++ b ++ rest) = _
      rw [List.append_assoc, readChain, hread]
      simp only [bind, Except.bind, hmore]
      rfl

/-- An operand of `or` is read as a chain. -/
theorem IsRead.disjunct {conjunction : Derivation (.chain .and)}
    (h : conjunction.IsRead stop) :
    (Derivation.disjunct conjunction).IsRead stop := by
  intro fuel taken rest htaken hends hfuel
  cases fuel with
  | zero => simp [Nonterminal.slack] at hfuel
  | succ fuel =>
      simp only [Nonterminal.slack] at hfuel
      exact h htaken hends (by simp only [Nonterminal.slack]; omega)

/-- An operand of `and` is read as a comparison. -/
theorem IsRead.conjunct {comparison : Derivation .comparison}
    (h : comparison.IsRead stop) :
    (Derivation.conjunct comparison).IsRead stop := by
  intro fuel taken rest htaken hends hfuel
  cases fuel with
  | zero => simp [Nonterminal.slack] at hfuel
  | succ fuel =>
      simp only [Nonterminal.slack] at hfuel
      exact h htaken hends (by simp only [Nonterminal.slack]; omega)

/-- The words of a connective are those that its reader looks for. -/
theorem isWord_iff {connective : Connective} {kind : Token.Kind} :
    connective.isWord kind = true ↔ kind = connective.word := by
  cases connective <;> cases kind <;> simp [Connective.isWord, Connective.word]

/-- Where no connective comes no operand is read. -/
theorem IsRead.noMore {connective : Connective} :
    (Derivation.noMore : Derivation (.more connective)).IsRead stop := by
  intro fuel taken rest htaken hends hfuel
  obtain rfl := kinds_eq_nil htaken
  cases rest with
  | nil => cases fuel <;> rfl
  | cons token rest =>
      cases fuel with
      | zero => simp [Nonterminal.slack] at hfuel
      | succ fuel =>
          have hword : connective.isWord token.kind ≠ true := fun h => by
            rw [kinds_cons, isWord_iff.1 h] at hends
            exact not_ends_word hends
          change readMore stop (fuel + 1) connective (token :: rest) = _
          rw [readMore, if_neg hword]
          rfl

/-- After a connective one more operand is read. -/
theorem IsRead.oneMore {connective : Connective}
    {operand : Derivation (.operand connective)}
    {more : Derivation (.more connective)} (hoperand : operand.IsRead stop)
    (hmore : more.IsRead stop) : (Derivation.oneMore operand more).IsRead stop := by
  intro fuel taken rest htaken hends hfuel
  obtain ⟨token, words, rfl, htoken, hwords⟩ := kinds_eq_cons htaken
  obtain ⟨a, b, rfl, ha, hb⟩ := kinds_eq_append hwords
  have hrank :
      (Nonterminal.more connective).rank ≤ (Nonterminal.chain connective).rank := by
    cases connective <;> decide
  have hslack : (Nonterminal.operand connective).slack ≤ 5 := by
    cases connective <;> decide
  simp only [List.length_cons, List.length_append, Nonterminal.slack] at hfuel
  cases fuel with
  | zero => omega
  | succ fuel =>
      have hread : readOperand stop fuel connective (a ++ (b ++ rest)) =
          .ok (operand.meaning, b ++ rest) := by
        refine hoperand ha ?_ (by omega)
        rw [kinds_append, hb]
        exact more.ends_more (hends.mono hrank)
      have hmore : readMore stop fuel connective (b ++ rest) = .ok (more.meaning, rest) :=
        hmore hb hends (by simp only [Nonterminal.slack]; omega)
      change readMore stop (fuel + 1) connective (token :: (a ++ b ++ rest)) = _
      rw [List.append_assoc, readMore, if_pos (isWord_iff.2 htoken), hread]
      simp only [bind, Except.bind, hmore]
      rfl

/-- A property without an operator is read alone. -/
theorem IsRead.alone {property : Derivation .property} (h : property.IsRead stop) :
    (Derivation.alone property).IsRead stop := by
  intro fuel taken rest htaken hends hfuel
  simp only [Nonterminal.slack] at hfuel
  cases fuel with
  | zero => omega
  | succ fuel =>
      have hread : readProperty stop fuel (taken ++ rest) =
          .ok (property.meaning, rest) :=
        h htaken (hends.mono (by decide)) (by simp only [Nonterminal.slack]; omega)
      change readComparison stop (fuel + 1) (taken ++ rest) = _
      rw [readComparison, hread]
      simp only [bind, Except.bind]
      cases rest with
      | nil => rfl
      | cons token after =>
          dsimp only
          split
          · next operator hkind =>
              rw [kinds_cons, hkind] at hends
              exact absurd hends not_ends_operator
          · rfl

/-- A comparison is read if both sides are. -/
theorem IsRead.compared {left right : Derivation .property} (hleft : left.IsRead stop)
    (hright : right.IsRead stop) (operator : Operator) :
    (Derivation.compared left operator right).IsRead stop := by
  intro fuel taken rest htaken hends hfuel
  obtain ⟨a, words, rfl, ha, hwords⟩ := kinds_eq_append htaken
  obtain ⟨token, b, rfl, htoken, hb⟩ := kinds_eq_cons hwords
  simp only [List.length_append, List.length_cons, Nonterminal.slack] at hfuel
  cases fuel with
  | zero => omega
  | succ fuel =>
      have hread : readProperty stop fuel (a ++ (token :: (b ++ rest))) =
          .ok (left.meaning, token :: (b ++ rest)) := by
        refine hleft ha ?_ (by simp only [Nonterminal.slack]; omega)
        rw [kinds_cons, htoken]
        exact ends_cons.2 (Nat.le_refl 3)
      have hlast : readProperty stop fuel (b ++ rest) = .ok (right.meaning, rest) :=
        hright hb (hends.mono (by decide)) (by simp only [Nonterminal.slack]; omega)
      change readComparison stop (fuel + 1) (a ++ token :: b ++ rest) = _
      rw [List.append_assoc, List.cons_append, readComparison, hread]
      simp only [bind, Except.bind, htoken, operator.relation?_text, hlast]
      rfl

/-- A subject without a copula is read as it is. -/
theorem IsRead.plain {subject : Derivation .unary} (h : subject.IsRead stop) :
    (Derivation.plain subject).IsRead stop := by
  intro fuel taken rest htaken hends hfuel
  simp only [Nonterminal.slack] at hfuel
  cases fuel with
  | zero => omega
  | succ fuel =>
      have hread : readUnary stop fuel (taken ++ rest) = .ok (subject.meaning, rest) :=
        h htaken ends_unary (by simp only [Nonterminal.slack]; omega)
      change readProperty stop (fuel + 1) (taken ++ rest) = _
      rw [readProperty, hread]
      simp only [bind, Except.bind]
      cases rest with
      | nil => rfl
      | cons token after =>
          dsimp only
          split
          · next copula hkind =>
              rw [kinds_cons, hkind] at hends
              exact absurd hends not_ends_copula
          · rfl

/-! ### Clauses -/

/-- A `not` is read, and its absence. -/
theorem readNot_notWord {tokens rest : List Token} {negated : Bool}
    (htokens : kinds tokens = notWord negated) (hrest : (kinds rest).head? ≠ some .not) :
    readNot (tokens ++ rest) = (negated, rest) := by
  cases negated with
  | false =>
      obtain rfl := kinds_eq_nil htokens
      cases rest with
      | nil => rfl
      | cons token rest =>
          rw [List.nil_append, readNot]
          split
          · next hkind => exact absurd (congrArg some hkind) hrest
          · rfl
  | true =>
      obtain ⟨token, more, rfl, htoken, hmore⟩ := kinds_eq_cons htokens
      obtain rfl := kinds_eq_nil hmore
      rw [List.cons_append, readNot, htoken]
      rfl

/-- Adjectives are read up to what is no atom. -/
theorem readAdjectives_words {tokens rest : List Token} {adjectives : List String}
    (htokens : kinds tokens = adjectiveWords adjectives) (hrest : NoAtom (kinds rest)) :
    readAdjectives (tokens ++ rest) = .ok (adjectives, rest) := by
  induction adjectives generalizing tokens with
  | nil =>
      obtain rfl := kinds_eq_nil htokens
      cases rest with
      | nil => rfl
      | cons token rest =>
          have hkind : ∀ path, token.kind ≠ .atom path :=
            fun path h => hrest path (kinds rest) (by rw [kinds_cons, h])
          rw [List.nil_append, readAdjectives]
          split
          · next h => exact absurd h (hkind _)
          · next h => exact absurd h (hkind _)
          · rfl
  | cons adjective adjectives ih =>
      obtain ⟨token, more, rfl, htoken, hmore⟩ := kinds_eq_cons htokens
      rw [List.cons_append, readAdjectives, htoken]
      simp only [ih hmore, bind, Except.bind]
      rfl

/-- A subject, a copula, and adjectives or arguments make a clause. -/
theorem readProperty_clause {fuel : Nat}
    {tokens said words after rest : List Token} {token : Token}
    {subject : Expression} {copula : String} {negated : Bool} {adjectives : List String}
    {arguments : List (String × Expression)}
    (hsubject : readUnary stop fuel tokens = .ok (subject, token :: said))
    (htoken : token.kind = .copula copula) (hnot : readNot said = (negated, words))
    (hadjectives : readAdjectives words = .ok (adjectives, after))
    (harguments : readArguments stop fuel after = .ok (arguments, rest))
    (hsome : (adjectives.isEmpty && arguments.isEmpty) = false) :
    readProperty stop (fuel + 1) tokens =
      .ok (.clause subject negated adjectives arguments, rest) := by
  rw [readProperty, hsubject]
  simp only [bind, Except.bind, htoken, hnot, hadjectives, harguments, hsome]
  rfl

/-- A clause with adjectives is read. -/
theorem IsRead.described {subject : Derivation .unary} {arguments : Derivation .arguments}
    (hsubject : subject.IsRead stop) (harguments : arguments.IsRead stop)
    (copula : String) (negated : Bool) (adjective : String) (adjectives : List String) :
    (Derivation.described subject copula negated adjective adjectives arguments).IsRead
      stop := by
  intro fuel taken rest htaken hends hfuel
  obtain ⟨a, clause, rfl, ha, hclause⟩ := kinds_eq_append htaken
  obtain ⟨token, said, rfl, htoken, hsaid⟩ := kinds_eq_cons hclause
  obtain ⟨n, words, rfl, hn, hwords⟩ := kinds_eq_append hsaid
  obtain ⟨w, b, rfl, hw, hb⟩ := kinds_eq_append hwords
  simp only [List.length_append, List.length_cons, Nonterminal.slack] at hfuel
  cases fuel with
  | zero => omega
  | succ fuel =>
      change readProperty stop (fuel + 1) (a ++ token :: (n ++ (w ++ b)) ++ rest) = _
      simp only [List.append_assoc, List.cons_append]
      refine readProperty_clause (hsubject ha ends_unary ?_) htoken
        (readNot_notWord hn ?_) (readAdjectives_words hw ?_)
        (harguments hb (hends.mono ?_) ?_) rfl
      · simp only [Nonterminal.slack]
        omega
      · rw [kinds_append, hw]
        simp [adjectiveWords]
      · rw [kinds_append, hb]
        exact arguments.noAtom_arguments hends
      · decide
      · simp only [Nonterminal.slack]
        omega

/-- Where no preposition comes no argument is read. -/
theorem IsRead.noArgument : Derivation.noArgument.IsRead stop := by
  intro fuel taken rest htaken hends hfuel
  obtain rfl := kinds_eq_nil htaken
  cases rest with
  | nil => cases fuel <;> rfl
  | cons token rest =>
      cases fuel with
      | zero => simp [Nonterminal.slack] at hfuel
      | succ fuel =>
          change readArguments stop (fuel + 1) (token :: rest) = _
          rw [readArguments]
          split
          · next hkind =>
              rw [kinds_cons, hkind] at hends
              exact absurd hends not_ends_preposition
          · rfl

/-- After a preposition an argument is read. -/
theorem IsRead.argument {place : Derivation .unary} {arguments : Derivation .arguments}
    (hplace : place.IsRead stop) (harguments : arguments.IsRead stop)
    (preposition : String) :
    (Derivation.argument preposition place arguments).IsRead stop := by
  intro fuel taken rest htaken hends hfuel
  obtain ⟨token, there, rfl, htoken, hthere⟩ := kinds_eq_cons htaken
  obtain ⟨a, b, rfl, ha, hb⟩ := kinds_eq_append hthere
  simp only [List.length_cons, List.length_append, Nonterminal.slack] at hfuel
  cases fuel with
  | zero => omega
  | succ fuel =>
      have hread : readUnary stop fuel (a ++ (b ++ rest)) =
          .ok (place.meaning, b ++ rest) :=
        hplace ha ends_unary (by simp only [Nonterminal.slack]; omega)
      have hmore : readArguments stop fuel (b ++ rest) = .ok (arguments.meaning, rest) :=
        harguments hb hends (by simp only [Nonterminal.slack]; omega)
      change readArguments stop (fuel + 1) (token :: (a ++ b ++ rest)) = _
      rw [List.append_assoc, readArguments, htoken]
      simp only [hread, hmore, bind, Except.bind]
      rfl

/-- A clause with arguments alone is read. -/
theorem IsRead.placed {subject place : Derivation .unary}
    {arguments : Derivation .arguments} (hsubject : subject.IsRead stop)
    (hplace : place.IsRead stop) (harguments : arguments.IsRead stop) (copula : String)
    (negated : Bool) (preposition : String) :
    (Derivation.placed subject copula negated preposition place arguments).IsRead
      stop := by
  intro fuel taken rest htaken hends hfuel
  obtain ⟨a, clause, rfl, ha, hclause⟩ := kinds_eq_append htaken
  obtain ⟨token, said, rfl, htoken, hsaid⟩ := kinds_eq_cons hclause
  obtain ⟨n, there, rfl, hn, hthere⟩ := kinds_eq_append hsaid
  simp only [List.length_append, List.length_cons, Nonterminal.slack] at hfuel
  cases fuel with
  | zero => omega
  | succ fuel =>
      -- The preposition and its place are the first of the arguments.
      have hall : kinds (there ++ rest) = .preposition preposition ::
          (place.sentence ++ (arguments.sentence ++ kinds rest)) := by
        rw [kinds_append, hthere]
        simp
      have hnone : readAdjectives (there ++ rest) = .ok ([], there ++ rest) := by
        refine @readAdjectives_words [] (there ++ rest) [] rfl ?_
        rw [hall]
        exact fun path more h => absurd (List.cons.inj h).1 (by simp)
      change readProperty stop (fuel + 1) (a ++ token :: (n ++ there) ++ rest) = _
      simp only [List.append_assoc, List.cons_append]
      refine readProperty_clause (hsubject ha ends_unary ?_) htoken
        (readNot_notWord hn ?_) hnone
        (hplace.argument harguments preposition hthere (hends.mono ?_) ?_) rfl
      · simp only [Nonterminal.slack]
        omega
      · simp [hall]
      · decide
      · simp only [Nonterminal.slack]
        omega

/-! ### Values -/

/-- After a `not` a unary is read. -/
theorem IsRead.negation {operand : Derivation .unary} (h : operand.IsRead stop) :
    (Derivation.negation operand).IsRead stop := by
  intro fuel taken rest htaken hends hfuel
  obtain ⟨token, a, rfl, htoken, ha⟩ := kinds_eq_cons htaken
  simp only [List.length_cons, Nonterminal.slack] at hfuel
  cases fuel with
  | zero => omega
  | succ fuel =>
      have hread : readUnary stop fuel (a ++ rest) = .ok (operand.meaning, rest) :=
        h ha ends_unary (by simp only [Nonterminal.slack]; omega)
      change readUnary stop (fuel + 1) (token :: (a ++ rest)) = _
      rw [readUnary, htoken]
      simp only [hread, bind, Except.bind]
      rfl

/-- A value of one token is read by that token. -/
theorem IsRead.word {v : Derivation .value} {kind : Token.Kind}
    (hsentence : v.sentence = [kind])
    (h : ∀ (fuel : Nat) (token : Token) (rest : List Token), token.kind = kind →
      readUnary stop (fuel + 1) (token :: rest) = .ok (v.meaning, rest)) :
      v.IsRead stop := by
  intro fuel taken rest htaken hends hfuel
  rw [hsentence] at htaken
  obtain ⟨token, more, rfl, htoken, hmore⟩ := kinds_eq_cons htaken
  obtain rfl := kinds_eq_nil hmore
  cases fuel with
  | zero => simp at hfuel
  | succ fuel => exact h fuel token rest htoken

/-- A group is read up to its closing parenthesis. -/
theorem IsRead.group {inner : Derivation (.chain .or)} (h : inner.IsRead stop) :
    (Derivation.group inner).IsRead stop := by
  intro fuel taken rest htaken hends hfuel
  obtain ⟨token, words, rfl, htoken, hwords⟩ := kinds_eq_cons htaken
  obtain ⟨a, last, rfl, ha, hlast⟩ := kinds_eq_append hwords
  obtain ⟨close, none, rfl, hclose, hnone⟩ := kinds_eq_cons hlast
  obtain rfl := kinds_eq_nil hnone
  simp only [List.length_cons, List.length_append, Nonterminal.slack] at hfuel
  cases fuel with
  | zero => omega
  | succ fuel =>
      have hread : readChain stop fuel .or (a ++ (close :: rest)) =
          .ok (inner.meaning, close :: rest) := by
        refine h ha ?_ (by simp only [Nonterminal.slack]; omega)
        rw [kinds_cons, hclose]
        exact ends_cons.2 (Nat.le_refl 0)
      change readUnary stop (fuel + 1) (token :: (a ++ [close] ++ rest)) = _
      rw [List.append_assoc, List.singleton_append, readUnary, htoken]
      simp only [hread, hclose, bind, Except.bind]
      rfl

/-- **What is derived is read.**  A reader takes the tokens of a derivation, where the
derivation ends before what follows them, and answers its meaning. -/
theorem read (d : Derivation s) (stop : Nat) : d.IsRead stop := by
  induction d with
  | chain first more hfirst hmore => exact .chain hfirst hmore
  | disjunct conjunction ih => exact .disjunct ih
  | conjunct comparison ih => exact .conjunct ih
  | noMore => exact .noMore
  | oneMore operand more hoperand hmore => exact .oneMore hoperand hmore
  | alone property ih => exact .alone ih
  | compared left operator right hleft hright => exact .compared hleft hright operator
  | plain subject ih => exact .plain ih
  | described subject copula negated adjective adjectives arguments hsubject harguments =>
      exact .described hsubject harguments copula negated adjective adjectives
  | placed subject copula negated preposition place arguments hsubject
      hplace harguments =>
        exact .placed hsubject hplace harguments copula negated preposition
  | noArgument => exact .noArgument
  | argument preposition place arguments hplace harguments =>
      exact .argument hplace harguments preposition
  | negation operand ih => exact .negation ih
  | value inner ih => exact ih
  | atom path => exact .word rfl fun fuel token rest h => by rw [readUnary, h]; rfl
  | literal v => exact .word rfl fun fuel token rest h => by rw [readUnary, h]; rfl
  | number v => exact .word rfl fun fuel token rest h => by rw [readUnary, h]; rfl
  | duration seconds => exact .word rfl fun fuel token rest h => by rw [readUnary, h]; rfl
  | group inner ih => exact .group ih

end Derivation

end Turnstile.Condition

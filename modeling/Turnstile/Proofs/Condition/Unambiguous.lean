import Turnstile.Proofs.Condition.Derivation

/-!
# Sentences have one derivation

Derivations are read off their sentences, also where a sentence stands within a text,
provided that no derivation could go on with what follows it (`Derivation.unique`).
What can follow a nonterminal is told by ranks: a kind of token can follow the
nonterminals whose rank is not less than its own (`Ends`).

The proof has one lemma for each form of a derivation: the parts are unique, and what
stands after a part is where the part ends.
-/

set_option autoImplicit false

namespace Turnstile.Condition

/-! ## What can follow -/

/-- The ranks of the kinds of tokens that end something. -/
def Token.Kind.rank : Token.Kind → Nat
  | .rightParen => 0
  | .or => 1
  | .and => 2
  | .operator _ => 3
  | _ => 4

/-- The rank of a nonterminal: kinds of greater rank cannot follow it, they would go on
with it. -/
def Nonterminal.rank : Nonterminal → Nat
  | .chain .or | .more .or => 0
  | .chain .and | .more .and | .operand .or => 1
  | .operand .and | .comparison => 2
  | .property | .arguments => 3
  | .unary | .value => 4

/-- A nonterminal ends before what follows it. -/
def Ends (s : Nonterminal) (after : List Token.Kind) : Prop :=
  ∀ kind ∈ after.head?, kind.rank ≤ s.rank

@[simp] theorem ends_nil {s : Nonterminal} : Ends s [] := by simp [Ends]

@[simp] theorem ends_cons {s : Nonterminal} {kind : Token.Kind} {rest : List Token.Kind} :
    Ends s (kind :: rest) ↔ kind.rank ≤ s.rank := by simp [Ends]

/-- Further operands do not end before another one. -/
theorem not_ends_word {connective : Connective} {rest : List Token.Kind} :
    ¬ Ends (.more connective) (connective.word :: rest) := by
  cases connective <;> simp [Connective.word, Token.Kind.rank, Nonterminal.rank]

/-- A comparison does not end before an operator. -/
theorem not_ends_operator {operator : String} {rest : List Token.Kind} :
    ¬ Ends .comparison (.operator operator :: rest) := by
  simp [Token.Kind.rank, Nonterminal.rank]

/-- A property does not end before a copula. -/
theorem not_ends_copula {copula : String} {rest : List Token.Kind} :
    ¬ Ends .property (.copula copula :: rest) := by
  simp [Token.Kind.rank, Nonterminal.rank]

/-- Arguments do not end before a preposition. -/
theorem not_ends_preposition {preposition : String} {rest : List Token.Kind} :
    ¬ Ends .arguments (.preposition preposition :: rest) := by
  simp [Token.Kind.rank, Nonterminal.rank]

/-- What ends before some kinds also ends before them if it binds tighter. -/
theorem Ends.mono {s t : Nonterminal} {after : List Token.Kind} (h : Ends s after)
    (hrank : s.rank ≤ t.rank) : Ends t after :=
  fun kind hkind => Nat.le_trans (h kind hkind) hrank

/-- Values and negations end before anything. -/
theorem ends_unary {after : List Token.Kind} : Ends .unary after := by
  intro kind _
  cases kind <;> simp [Token.Kind.rank, Nonterminal.rank]

/-- No adjective stands in front. -/
def NoAtom (kinds : List Token.Kind) : Prop := ∀ path rest, kinds ≠ .atom path :: rest

namespace Derivation

variable {s : Nonterminal} {after other : List Token.Kind}

/-- An operand ends before the operands that follow it. -/
theorem ends_more {connective : Connective} (more : Derivation (.more connective))
    (h : Ends (.chain connective) after) :
    Ends (.operand connective) (more.sentence ++ after) := by
  cases more with
  | noMore =>
      refine h.mono ?_
      cases connective <;> simp [Nonterminal.rank]
  | oneMore operand more =>
      cases connective <;>
        simp [sentence, Connective.word, Token.Kind.rank, Nonterminal.rank]

/-- Arguments and what follows a clause are no adjectives. -/
theorem noAtom_arguments (arguments : Derivation .arguments) (h : Ends .property after) :
    NoAtom (arguments.sentence ++ after) := by
  intro path rest heq
  cases arguments with
  | noArgument =>
      rw [sentence, List.nil_append] at heq
      subst heq
      simp [Token.Kind.rank, Nonterminal.rank] at h
  | argument preposition place arguments => simp [sentence] at heq

/-- Adjectives are told from what follows them. -/
theorem adjectives_unique {adjectives more : List String} (hafter : NoAtom after)
    (hother : NoAtom other)
    (h : adjectiveWords adjectives ++ after = adjectiveWords more ++ other) :
    adjectives = more ∧ after = other := by
  induction adjectives generalizing more with
  | nil =>
      cases more with
      | nil => exact ⟨rfl, h⟩
      | cons word more => exact absurd h (hafter _ _)
  | cons adjective adjectives ih =>
      cases more with
      | nil => exact absurd h.symm (hother _ _)
      | cons word more =>
          simp only [adjectiveWords, List.map_cons, List.cons_append, List.cons.injEq,
            Token.Kind.atom.injEq, and_true] at h
          obtain ⟨rfl, rfl⟩ := ih h.2
          exact ⟨by rw [h.1], rfl⟩

/-- A value does not begin with a negation. -/
theorem value_ne_not (v : Derivation .value) (rest : List Token.Kind) :
    v.sentence ++ after ≠ .not :: rest := by
  cases v <;> simp [sentence]

/-- A `not` in front is told from its absence. -/
theorem notWord_unique {negated denied : Bool} (hafter : after.head? ≠ some .not)
    (hother : other.head? ≠ some .not)
    (h : notWord negated ++ after = notWord denied ++ other) :
    negated = denied ∧ after = other := by
  cases negated <;> cases denied <;> simp [notWord] at h ⊢
  · exact h
  · exact hafter (by simp [h])
  · exact hother (by simp [← h])
  · exact h

/-! ## Unique derivations -/

/-- Every derivation whose sentence begins the same text, and ends before what follows
it there, is this one. -/
def IsUnique (d : Derivation s) : Prop :=
  ∀ ⦃e : Derivation s⦄ ⦃after other : List Token.Kind⦄, d.sentence ++ after =
    e.sentence ++ other →
    Ends s after → Ends s other → d = e ∧ after = other

/-- A chain has one derivation if its operands have. -/
theorem IsUnique.chain {connective : Connective}
    {first : Derivation (.operand connective)}
    {more : Derivation (.more connective)} (hfirst : first.IsUnique)
    (hmore : more.IsUnique) :
    (Derivation.chain first more).IsUnique := by
  intro e after other h hafter hother
  cases e with
  | chain first' more' =>
      simp only [sentence, List.append_assoc] at h
      obtain ⟨rfl, hrest⟩ := hfirst h (more.ends_more hafter) (more'.ends_more hother)
      have hrank :
          (Nonterminal.chain connective).rank ≤ (Nonterminal.more connective).rank := by
        cases connective <;> simp [Nonterminal.rank]
      obtain ⟨rfl, rfl⟩ := hmore hrest (hafter.mono hrank) (hother.mono hrank)
      exact ⟨rfl, rfl⟩

/-- Where no connective comes there is no operand. -/
theorem IsUnique.noMore {connective : Connective} :
    (Derivation.noMore : Derivation (.more connective)).IsUnique := by
  intro e after other h hafter hother
  cases e with
  | noMore => exact ⟨rfl, h⟩
  | oneMore operand more =>
      obtain rfl : after = _ := h
      exact absurd hafter not_ends_word

/-- After a connective there is one more operand. -/
theorem IsUnique.oneMore {connective : Connective}
    {operand : Derivation (.operand connective)}
    {more : Derivation (.more connective)} (hoperand : operand.IsUnique)
    (hmore : more.IsUnique) :
    (Derivation.oneMore operand more).IsUnique := by
  intro e after other h hafter hother
  have hrank :
      (Nonterminal.more connective).rank ≤ (Nonterminal.chain connective).rank := by
    cases connective <;> simp [Nonterminal.rank]
  cases e with
  | noMore =>
      obtain rfl : other = _ := h.symm
      exact absurd hother not_ends_word
  | oneMore operand' more' =>
      simp only [sentence, List.cons_append, List.append_assoc,
        List.cons.injEq, true_and] at h
      obtain ⟨rfl, hrest⟩ := hoperand h (more.ends_more (hafter.mono hrank))
        (more'.ends_more (hother.mono hrank))
      obtain ⟨rfl, rfl⟩ := hmore hrest hafter hother
      exact ⟨rfl, rfl⟩

/-- A property without an operator stands alone. -/
theorem IsUnique.alone {property : Derivation .property} (hproperty : property.IsUnique) :
    (Derivation.alone property).IsUnique := by
  intro e after other h hafter hother
  cases e with
  | alone property' =>
      obtain ⟨rfl, rfl⟩ := hproperty h (hafter.mono (by decide)) (hother.mono (by decide))
      exact ⟨rfl, rfl⟩
  | compared left operator right =>
      simp only [sentence, List.append_assoc, List.cons_append] at h
      obtain ⟨-, rfl⟩ :=
        hproperty h (hafter.mono (by decide)) (ends_cons.2 (Nat.le_refl 3))
      exact absurd hafter not_ends_operator

/-- The operator of a comparison tells its sides apart. -/
theorem IsUnique.compared {left right : Derivation .property} (hleft : left.IsUnique)
    (hright : right.IsUnique) (operator : Operator) :
    (Derivation.compared left operator right).IsUnique := by
  intro e after other h hafter hother
  cases e with
  | alone property =>
      simp only [sentence, List.append_assoc, List.cons_append] at h
      obtain ⟨-, rfl⟩ := hleft h (ends_cons.2 (Nat.le_refl 3)) (hother.mono (by decide))
      exact absurd hother not_ends_operator
  | compared left' operator' right' =>
      simp only [sentence, List.append_assoc, List.cons_append] at h
      obtain ⟨rfl, hrest⟩ :=
        hleft h (ends_cons.2 (Nat.le_refl 3)) (ends_cons.2 (Nat.le_refl 3))
      obtain ⟨hoperator, hlast⟩ := List.cons.inj hrest
      obtain rfl := Operator.text_injective (Token.Kind.operator.inj hoperator)
      obtain ⟨rfl, rfl⟩ :=
        hright hlast (hafter.mono (by decide)) (hother.mono (by decide))
      exact ⟨rfl, rfl⟩

/-- A subject without a copula stands alone. -/
theorem IsUnique.plain {subject : Derivation .unary} (hsubject : subject.IsUnique) :
    (Derivation.plain subject).IsUnique := by
  intro e after other h hafter hother
  cases e with
  | plain subject' =>
      obtain ⟨rfl, rfl⟩ := hsubject h ends_unary ends_unary
      exact ⟨rfl, rfl⟩
  | described subject' copula negated adjective adjectives arguments =>
      simp only [sentence, List.append_assoc, List.cons_append] at h
      obtain ⟨-, rfl⟩ := hsubject h ends_unary ends_unary
      exact absurd hafter not_ends_copula
  | placed subject' copula negated preposition place arguments =>
      simp only [sentence, List.append_assoc, List.cons_append] at h
      obtain ⟨-, rfl⟩ := hsubject h ends_unary ends_unary
      exact absurd hafter not_ends_copula

/-- An adjective tells a description apart. -/
theorem IsUnique.described {subject : Derivation .unary}
    {arguments : Derivation .arguments} (hsubject : subject.IsUnique)
    (harguments : arguments.IsUnique) (copula : String)
    (negated : Bool) (adjective : String) (adjectives : List String) :
    (Derivation.described subject copula negated adjective adjectives
      arguments).IsUnique := by
  intro e after other h hafter hother
  cases e with
  | plain subject' =>
      simp only [sentence, List.append_assoc, List.cons_append] at h
      obtain ⟨-, rfl⟩ := hsubject h ends_unary ends_unary
      exact absurd hother not_ends_copula
  | described subject' copula' negated' adjective' adjectives' arguments' =>
      simp only [sentence, List.append_assoc, List.cons_append] at h
      obtain ⟨rfl, hclause⟩ := hsubject h ends_unary ends_unary
      obtain ⟨hcopula, hsaid⟩ := List.cons.inj hclause
      obtain ⟨rfl, hwords⟩ := notWord_unique (by simp [adjectiveWords])
        (by simp [adjectiveWords]) hsaid
      obtain ⟨hadjectives, hlast⟩ := adjectives_unique (arguments.noAtom_arguments hafter)
        (arguments'.noAtom_arguments hother) hwords
      cases hcopula
      cases hadjectives
      obtain ⟨rfl, rfl⟩ := harguments hlast hafter hother
      exact ⟨rfl, rfl⟩
  | placed subject' copula' negated' preposition place arguments' =>
      simp only [sentence, List.append_assoc, List.cons_append] at h
      obtain ⟨rfl, hclause⟩ := hsubject h ends_unary ends_unary
      obtain ⟨-, hwords⟩ := notWord_unique (by simp [adjectiveWords]) (by simp)
        (List.cons.inj hclause).2
      cases (List.cons.inj hwords).1

/-- A preposition right after the copula tells a place apart. -/
theorem IsUnique.placed {subject place : Derivation .unary}
    {arguments : Derivation .arguments} (hsubject : subject.IsUnique)
    (hplace : place.IsUnique) (harguments : arguments.IsUnique)
    (copula : String) (negated : Bool) (preposition : String) :
    (Derivation.placed subject copula negated preposition place arguments).IsUnique := by
  intro e after other h hafter hother
  cases e with
  | plain subject' =>
      simp only [sentence, List.append_assoc, List.cons_append] at h
      obtain ⟨-, rfl⟩ := hsubject h ends_unary ends_unary
      exact absurd hother not_ends_copula
  | described subject' copula' negated' adjective adjectives arguments' =>
      simp only [sentence, List.append_assoc, List.cons_append] at h
      obtain ⟨rfl, hclause⟩ := hsubject h ends_unary ends_unary
      obtain ⟨-, hwords⟩ := notWord_unique (by simp) (by simp [adjectiveWords])
        (List.cons.inj hclause).2
      cases (List.cons.inj hwords).1
  | placed subject' copula' negated' preposition' place' arguments' =>
      simp only [sentence, List.append_assoc, List.cons_append] at h
      obtain ⟨rfl, hclause⟩ := hsubject h ends_unary ends_unary
      obtain ⟨hcopula, hsaid⟩ := List.cons.inj hclause
      obtain ⟨rfl, hwords⟩ := notWord_unique (by simp) (by simp) hsaid
      obtain ⟨hpreposition, hthere⟩ := List.cons.inj hwords
      obtain ⟨rfl, hlast⟩ := hplace hthere ends_unary ends_unary
      cases hcopula
      cases hpreposition
      obtain ⟨rfl, rfl⟩ := harguments hlast hafter hother
      exact ⟨rfl, rfl⟩

/-- Where no preposition comes there is no argument. -/
theorem IsUnique.noArgument : Derivation.noArgument.IsUnique := by
  intro e after other h hafter hother
  cases e with
  | noArgument => exact ⟨rfl, h⟩
  | argument preposition place arguments =>
      obtain rfl : after = _ := h
      exact absurd hafter not_ends_preposition

/-- After a preposition there is an argument. -/
theorem IsUnique.argument {place : Derivation .unary} {arguments : Derivation .arguments}
    (hplace : place.IsUnique) (harguments : arguments.IsUnique) (preposition : String) :
    (Derivation.argument preposition place arguments).IsUnique := by
  intro e after other h hafter hother
  cases e with
  | noArgument =>
      obtain rfl : other = _ := h.symm
      exact absurd hother not_ends_preposition
  | argument preposition' place' arguments' =>
      simp only [sentence, List.cons_append, List.append_assoc] at h
      obtain ⟨hpreposition, hthere⟩ := List.cons.inj h
      obtain ⟨rfl, hlast⟩ := hplace hthere ends_unary ends_unary
      cases hpreposition
      obtain ⟨rfl, rfl⟩ := harguments hlast hafter hother
      exact ⟨rfl, rfl⟩

/-- After a `not` there is a unary. -/
theorem IsUnique.negation {operand : Derivation .unary} (hoperand : operand.IsUnique) :
    (Derivation.negation operand).IsUnique := by
  intro e after other h hafter hother
  cases e with
  | negation operand' =>
      obtain ⟨rfl, rfl⟩ := hoperand (List.cons.inj h).2 ends_unary ends_unary
      exact ⟨rfl, rfl⟩
  | value inner => exact absurd h.symm (inner.value_ne_not _)

/-- A unary without a `not` is a value. -/
theorem IsUnique.value {inner : Derivation .value} (hinner : inner.IsUnique) :
    (Derivation.value inner).IsUnique := by
  intro e after other h hafter hother
  cases e with
  | negation operand => exact absurd h (inner.value_ne_not _)
  | value inner' =>
      obtain ⟨rfl, rfl⟩ := hinner h ends_unary ends_unary
      exact ⟨rfl, rfl⟩

/-- A group ends at its own closing parenthesis. -/
theorem IsUnique.group {inner : Derivation (.chain .or)} (hinner : inner.IsUnique) :
    (Derivation.group inner).IsUnique := by
  intro e after other h _ _
  cases e with
  | group inner' =>
      simp only [sentence, List.cons_append, List.append_assoc] at h
      obtain ⟨rfl, hclose⟩ := hinner (List.cons.inj h).2 (ends_cons.2 (Nat.le_refl 0))
        (ends_cons.2 (Nat.le_refl 0))
      exact ⟨rfl, (List.cons.inj hclose).2⟩
  | _ => simp [sentence] at h

/-- **Unique derivations.**  Two derivations of one nonterminal whose sentences begin
one text, and end before what follows them there, are the same. -/
theorem unique (d : Derivation s) : d.IsUnique := by
  induction d with
  | chain first more hfirst hmore => exact .chain hfirst hmore
  | disjunct conjunction ih =>
      intro e after other h hafter hother
      cases e with
      | disjunct conjunction' =>
          obtain ⟨rfl, rfl⟩ := ih h hafter hother
          exact ⟨rfl, rfl⟩
  | conjunct comparison ih =>
      intro e after other h hafter hother
      cases e with
      | conjunct comparison' =>
          obtain ⟨rfl, rfl⟩ := ih h hafter hother
          exact ⟨rfl, rfl⟩
  | noMore => exact .noMore
  | oneMore operand more hoperand hmore => exact .oneMore hoperand hmore
  | alone property ih => exact .alone ih
  | compared left operator right hleft hright => exact .compared hleft hright operator
  | plain subject ih => exact .plain ih
  | described subject copula negated adjective adjectives arguments hsubject harguments =>
      exact .described hsubject harguments copula negated adjective adjectives
  | placed subject copula negated preposition place arguments hsubject
      hplace harguments =>
        exact .placed hsubject hplace harguments copula negated preposition
  | noArgument => exact .noArgument
  | argument preposition place arguments hplace harguments =>
      exact .argument hplace harguments preposition
  | negation operand ih => exact .negation ih
  | value inner ih => exact .value ih
  | atom path =>
      intro e after other h _ _
      cases e <;> simp_all [sentence]
  | literal v =>
      intro e after other h _ _
      cases e <;> simp_all [sentence]
  | number v =>
      intro e after other h _ _
      cases e <;> simp_all [sentence]
  | duration seconds =>
      intro e after other h _ _
      cases e <;> simp_all [sentence]
  | group inner ih => exact .group ih

end Derivation

end Turnstile.Condition

import Turnstile.Condition.Grammar

/-!
# Derivations

The grammar of conditions, with its derivations as trees:

    or         := and ("or" and)*
    and        := comparison ("and" comparison)*
    comparison := property [OPERATOR property]
    property   := unary [COPULA ["not"] ADJECTIVE* (PREPOSITION unary)*]
    unary      := "not" unary | value
    value      := ATOM | LITERAL | NUMBER | DURATION | "(" or ")"

A `Derivation` of a nonterminal has a sentence, the kinds of the tokens it derives; a
meaning, what a reader makes of it; and a code, its postfix translation.  The code of
the meaning is the code (`Derivation.code_meaning`).
-/

set_option autoImplicit false

namespace Turnstile.Condition

/-- The operators of comparisons. -/
inductive Operator where
  | equal
  | unequal
  | less
  | greater
  | atMost
  | atLeast
deriving DecidableEq

namespace Operator

/-- How an operator is written. -/
def text : Operator → String
  | .equal => "="
  | .unequal => "/="
  | .less => "<"
  | .greater => ">"
  | .atMost => "<="
  | .atLeast => ">="

/-- The relation that an operator tests. -/
def relation : Operator → Relation
  | .equal | .unequal => .equal
  | .less | .atLeast => .less
  | .greater | .atMost => .greater

/-- Whether an operator holds when its relation does not. -/
def negated : Operator → Bool
  | .equal | .less | .greater => false
  | .unequal | .atMost | .atLeast => true

/-- The instructions of an operator. -/
def code : Operator → Code
  | .equal => [.equal]
  | .unequal => [.equal, .not]
  | .less => [.less]
  | .greater => [.greater]
  | .atMost => [.greater, .not]
  | .atLeast => [.less, .not]

/-- The text of an operator is read as its relation. -/
theorem relation?_text (o : Operator) :
    relation? o.text = some (o.relation, o.negated) := by
  cases o <;> rfl

/-- Operators are written differently. -/
theorem text_injective {o p : Operator} (h : o.text = p.text) : o = p := by
  cases o <;> cases p <;> first | rfl | exact absurd h (by decide)

/-- What is read as a relation is the text of an operator. -/
theorem exists_of_relation? {text : String} {found : Relation × Bool}
    (h : relation? text = some found) :
    ∃ o : Operator, o.text = text ∧ (o.relation, o.negated) = found := by
  unfold relation? at h
  split at h
  · next htext => cases h; exact ⟨.equal, htext.symm, rfl⟩
  split at h
  · next htext => cases h; exact ⟨.unequal, htext.symm, rfl⟩
  split at h
  · next htext => cases h; exact ⟨.less, htext.symm, rfl⟩
  split at h
  · next htext => cases h; exact ⟨.greater, htext.symm, rfl⟩
  split at h
  · next htext => cases h; exact ⟨.atMost, htext.symm, rfl⟩
  split at h
  · next htext => cases h; exact ⟨.atLeast, htext.symm, rfl⟩
  · cases h

end Operator

/-! ## Trees -/

/-- The nonterminals.  `chain .or` and `chain .and` are `or` and `and`; `operand` is an
operand of a chain, and `more` what follows the first one. -/
inductive Nonterminal where
  | chain (connective : Connective)
  | operand (connective : Connective)
  | more (connective : Connective)
  | comparison
  | property
  | arguments
  | unary
  | value

/-- The derivations of a nonterminal.  A clause has an adjective (`described`) or a
preposition (`placed`). -/
inductive Derivation : Nonterminal → Type where
  | chain {connective : Connective} (first : Derivation (.operand connective))
      (more : Derivation (.more connective)) : Derivation (.chain connective)
  | disjunct (conjunction : Derivation (.chain .and)) : Derivation (.operand .or)
  | conjunct (comparison : Derivation .comparison) : Derivation (.operand .and)
  | noMore {connective : Connective} : Derivation (.more connective)
  | oneMore {connective : Connective} (operand : Derivation (.operand connective))
      (more : Derivation (.more connective)) : Derivation (.more connective)
  | alone (property : Derivation .property) : Derivation .comparison
  | compared (left : Derivation .property) (operator : Operator)
      (right : Derivation .property) :
      Derivation .comparison
  | plain (subject : Derivation .unary) : Derivation .property
  | described (subject : Derivation .unary) (copula : String) (negated : Bool)
      (adjective : String) (adjectives : List String)
      (arguments : Derivation .arguments) : Derivation .property
  | placed (subject : Derivation .unary) (copula : String) (negated : Bool)
      (preposition : String) (place : Derivation .unary)
      (arguments : Derivation .arguments) : Derivation .property
  | noArgument : Derivation .arguments
  | argument (preposition : String) (place : Derivation .unary)
      (arguments : Derivation .arguments) : Derivation .arguments
  | negation (operand : Derivation .unary) : Derivation .unary
  | value (value : Derivation .value) : Derivation .unary
  | atom (path : Value.Path) : Derivation .value
  | literal (value : Value) : Derivation .value
  | number (value : Value) : Derivation .value
  | duration (seconds : Nat) : Derivation .value
  | group (inner : Derivation (.chain .or)) : Derivation .value

/-- The word of a connective. -/
def Connective.word : Connective → Token.Kind
  | .and => .and
  | .or => .or

/-- The word of a negation, if there is one. -/
def notWord (negated : Bool) : List Token.Kind := if negated then [.not] else []

/-- The adjectives of a clause, each an atom of one segment. -/
def adjectiveWords (adjectives : List String) : List Token.Kind :=
  adjectives.map fun word => .atom [word]

namespace Derivation

/-- The sentence of a derivation. -/
@[simp] def sentence {s : Nonterminal} : Derivation s → List Token.Kind
  | .chain first more => first.sentence ++ more.sentence
  | .disjunct conjunction => conjunction.sentence
  | .conjunct comparison => comparison.sentence
  | .noMore => []
  | @oneMore connective operand more =>
      connective.word :: (operand.sentence ++ more.sentence)
  | .alone property => property.sentence
  | .compared left operator right =>
      left.sentence ++ .operator operator.text :: right.sentence
  | .plain subject => subject.sentence
  | .described subject copula negated adjective adjectives arguments =>
    subject.sentence ++ .copula copula ::
      (notWord negated ++
        (adjectiveWords (adjective :: adjectives) ++ arguments.sentence))
  | .placed subject copula negated preposition place arguments =>
    subject.sentence ++ .copula copula ::
      (notWord negated ++ .preposition preposition ::
        (place.sentence ++ arguments.sentence))
  | .noArgument => []
  | .argument preposition place arguments =>
    .preposition preposition :: (place.sentence ++ arguments.sentence)
  | .negation operand => .not :: operand.sentence
  | .value inner => inner.sentence
  | .atom path => [.atom path]
  | .literal v => [.literal v]
  | .number v => [.number v]
  | .duration seconds => [.duration seconds]
  | .group inner => .leftParen :: (inner.sentence ++ [.rightParen])

/-- The prepositions of arguments, in order. -/
def prepositions {s : Nonterminal} : Derivation s → List String
  | .argument preposition _ arguments => preposition :: arguments.prepositions
  | _ => []

/-- The postfix code of a derivation. -/
def code {s : Nonterminal} : Derivation s → Code
  | .chain first .noMore => first.code
  | @chain connective first (.oneMore second more) =>
    first.code ++ .toBool :: (second.code ++ .toBool :: connective.instr :: more.code)
  | .disjunct conjunction => conjunction.code
  | .conjunct comparison => comparison.code
  | .noMore => []
  | @oneMore connective operand more =>
      operand.code ++ .toBool :: connective.instr :: more.code
  | .alone property => property.code
  | .compared left operator right => left.code ++ right.code ++ operator.code
  | .plain subject => subject.code
  | .described subject _ negated adjective adjectives arguments =>
    subject.code ++ arguments.code ++
      .property (adjective :: adjectives) arguments.prepositions ::
        Condition.negation negated
  | .placed subject _ negated preposition place arguments =>
    subject.code ++ (place.code ++ arguments.code) ++
      .property [] (preposition :: arguments.prepositions) :: Condition.negation negated
  | .noArgument => []
  | .argument _ place arguments => place.code ++ arguments.code
  | .negation operand => operand.code ++ [.toBool, .not]
  | .value inner => inner.code
  | .atom path => [.lookup path]
  | .literal v => [.literal v]
  | .number v => [.literal v]
  | .duration seconds => [.literal (.int seconds)]
  | .group inner => inner.code

end Derivation

/-- What a reader makes of a nonterminal. -/
abbrev Nonterminal.Meaning : Nonterminal → Type
  | .more _ => List Expression
  | .arguments => List (String × Expression)
  | _ => Expression

/-- The meaning of a derivation. -/
def Derivation.meaning {s : Nonterminal} : Derivation s → s.Meaning
  | @chain connective first more =>
      Expression.joined connective first.meaning more.meaning
  | .disjunct conjunction => conjunction.meaning
  | .conjunct comparison => comparison.meaning
  | .noMore => ([] : List Expression)
  | .oneMore operand more => (operand.meaning :: more.meaning : List Expression)
  | .alone property => property.meaning
  | .compared left operator right =>
    Expression.comparison operator.relation operator.negated left.meaning right.meaning
  | .plain subject => subject.meaning
  | .described subject _ negated adjective adjectives arguments =>
    Expression.clause subject.meaning negated (adjective :: adjectives) arguments.meaning
  | .placed subject _ negated preposition place arguments =>
    Expression.clause subject.meaning negated []
      ((preposition, place.meaning) :: arguments.meaning)
  | .noArgument => ([] : List (String × Expression))
  | .argument preposition place arguments =>
    ((preposition, place.meaning) :: arguments.meaning : List (String × Expression))
  | .negation operand => Expression.negation operand.meaning
  | .value inner => inner.meaning
  | .atom path => Expression.variable path
  | .literal v => Expression.constant v
  | .number v => Expression.constant v
  | .duration seconds => Expression.constant (.int seconds)
  | .group inner => inner.meaning

/-! ## Codes of meanings -/

/-- The code of what a reader makes of a nonterminal. -/
def Nonterminal.codeOf : (s : Nonterminal) → s.Meaning → Code
  | .more connective, operands => operandsCode connective operands
  | .arguments, found => argumentsCode found
  | .chain _, e | .operand _, e | .comparison, e | .property, e | .unary, e | .value, e =>
    Expression.code e

namespace Derivation

variable {s : Nonterminal}

/-- The arguments of a clause stand with their prepositions. -/
theorem prepositions_meaning : (d : Derivation .arguments) →
    List.map Prod.fst (d.meaning : List (String × Expression)) = d.prepositions
  | .noArgument => rfl
  | .argument preposition _ arguments =>
      congrArg (preposition :: ·) arguments.prepositions_meaning

/-- An operator is the instruction of its relation, negated if need be. -/
theorem code_operator (o : Operator) :
    o.relation.instr :: Condition.negation o.negated = o.code := by
  cases o <;> rfl

/-- **Postfix code.**  The code of the meaning of a derivation is the postfix code of
the derivation. -/
theorem code_meaning (d : Derivation s) : s.codeOf d.meaning = d.code := by
  induction d with
  | @chain connective first more ihfirst ihmore =>
      have hfirst : Expression.code first.meaning = first.code := ihfirst
      cases more with
      | noMore => exact hfirst
      | oneMore second more =>
          have hmore : operandsCode connective (second.meaning :: more.meaning) =
              (Derivation.oneMore second more).code := ihmore
          change Expression.code first.meaning ++ .toBool ::
            operandsCode connective (second.meaning :: more.meaning) = _
          rw [hfirst, hmore]
          rfl
  | disjunct conjunction ih => exact ih
  | conjunct comparison ih => exact ih
  | noMore => rfl
  | @oneMore connective operand more ihoperand ihmore =>
      have hoperand : Expression.code operand.meaning = operand.code := ihoperand
      have hmore : operandsCode connective more.meaning = more.code := ihmore
      change Expression.code operand.meaning ++ .toBool :: connective.instr ::
        operandsCode connective more.meaning = _
      rw [hoperand, hmore]
      rfl
  | alone property ih => exact ih
  | compared left operator right ihleft ihright =>
      have hleft : Expression.code left.meaning = left.code := ihleft
      have hright : Expression.code right.meaning = right.code := ihright
      change Expression.code left.meaning ++ Expression.code right.meaning ++
        operator.relation.instr :: Condition.negation operator.negated = _
      rw [hleft, hright, code_operator]
      rfl
  | plain subject ih => exact ih
  | described subject copula negated adjective adjectives arguments
      ihsubject iharguments =>
        have hsubject : Expression.code subject.meaning = subject.code := ihsubject
        have harguments : argumentsCode arguments.meaning = arguments.code := iharguments
        change
          Expression.code subject.meaning ++ argumentsCode arguments.meaning ++
            .property (adjective :: adjectives)
              (List.map Prod.fst arguments.meaning) :: _ = _
        rw [hsubject, harguments, prepositions_meaning]
        rfl
  | placed subject copula negated preposition place arguments ihsubject
      ihplace iharguments =>
        have hsubject : Expression.code subject.meaning = subject.code := ihsubject
        have hplace : Expression.code place.meaning = place.code := ihplace
        have harguments : argumentsCode arguments.meaning = arguments.code := iharguments
        change
          Expression.code subject.meaning ++
          (Expression.code place.meaning ++ argumentsCode arguments.meaning) ++
            .property [] (preposition :: List.map Prod.fst arguments.meaning) :: _ = _
        rw [hsubject, hplace, harguments, prepositions_meaning]
        rfl
  | noArgument => rfl
  | argument preposition place arguments ihplace iharguments =>
      have hplace : Expression.code place.meaning = place.code := ihplace
      have harguments : argumentsCode arguments.meaning = arguments.code := iharguments
      change Expression.code place.meaning ++ argumentsCode arguments.meaning = _
      rw [hplace, harguments]
      rfl
  | negation operand ih =>
      have hoperand : Expression.code operand.meaning = operand.code := ih
      change Expression.code operand.meaning ++ [.toBool, .not] = _
      rw [hoperand]
      rfl
  | value inner ih => exact ih
  | atom path => rfl
  | literal v => rfl
  | number v => rfl
  | duration seconds => rfl
  | group inner ih => exact ih

end Derivation

end Turnstile.Condition

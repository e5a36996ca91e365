import Turnstile.Condition.Evaluation

/-!
# The expressions of conditions

An expression is the tree that a condition's text stands for.

* `Expression.code` writes it as postfix code.
* `Expression.value` is its meaning: every part is evaluated, from left to right and
  without short circuits, and the first failure wins.
-/

set_option autoImplicit false

namespace Turnstile.Condition

/-- The words that join conditions. -/
inductive Connective where
  | and
  | or
deriving DecidableEq, Repr

/-- The relations of comparisons. -/
inductive Relation where
  | equal
  | less
  | greater
deriving DecidableEq, Repr

/-- An expression. -/
inductive Expression where
  | constant (value : Value)
  | variable (path : Value.Path)
  | negation (operand : Expression)
  /-- `left = right`, or with `negated` the opposite. -/
  | comparison (relation : Relation) (negated : Bool) (left right : Expression)
  /-- `subject is [not] adjectives preposition argument ...`. -/
  | clause (subject : Expression) (negated : Bool) (adjectives : List String)
      (arguments : List (String × Expression))
  /-- At least two operands joined by one connective. -/
  | chain (connective : Connective) (first second : Expression) (more : List Expression)

/-- The instruction of a connective. -/
def Connective.instr : Connective → Instr
  | .and => .and
  | .or => .or

/-- The instruction of a relation. -/
def Relation.instr : Relation → Instr
  | .equal => .equal
  | .less => .less
  | .greater => .greater

/-- A `NOT`, if the condition is negated. -/
def negation (negated : Bool) : Code := if negated then [.not] else []

mutual

/-- The postfix code of an expression. -/
def Expression.code : Expression → Code
  | .constant value => [.literal value]
  | .variable path => [.lookup path]
  | .negation operand => operand.code ++ [.toBool, .not]
  | .comparison relation negated left right =>
    left.code ++ right.code ++ relation.instr :: negation negated
  | .clause subject negated adjectives arguments =>
    subject.code ++ argumentsCode arguments ++
      .property adjectives (arguments.map Prod.fst) :: negation negated
  | .chain connective first second more =>
    first.code ++ .toBool :: (second.code ++ .toBool :: connective.instr ::
      operandsCode connective more)

/-- The code of the arguments of a clause, in their order. -/
def argumentsCode : List (String × Expression) → Code
  | [] => []
  | (_, argument) :: rest => argument.code ++ argumentsCode rest

/-- The code of further operands of a chain, each joined to what stands before it. -/
def operandsCode (connective : Connective) : List Expression → Code
  | [] => []
  | operand :: rest =>
      operand.code ++ .toBool :: connective.instr :: operandsCode connective rest

end

/-- Join two truth values. -/
def Connective.join : Connective → Bool → Bool → Bool
  | .and, a, b => a && b
  | .or, a, b => a || b

/-- Whether two values stand in a relation. -/
def Relation.holds : Relation → Value → Value → Except Failure Bool
  | .equal, left, right => .ok (left.equal right)
  | .less, left, right => do
    let order ← compareValues left right
    pure (order == .lt)
  | .greater, left, right => do
    let order ← compareValues left right
    pure (order == .gt)

mutual

/-- The value of an expression. -/
def Expression.value (scope : Scope) : Expression → Except Failure Value
  | .constant value => .ok value
  | .variable path => .ok (scope.lookup path)
  | .negation operand => do
    let value ← operand.value scope
    pure (.bool (!value.truthy))
  | .comparison relation negated left right => do
    let left ← left.value scope
    let right ← right.value scope
    let holds ← relation.holds left right
    pure (.bool (if negated then !holds else holds))
  | .clause subject negated adjectives arguments => do
    let subject ← subject.value scope
    let arguments ← argumentValues scope arguments
    let value ← scope.property adjectives subject arguments
    pure (if negated then .bool (!value.truthy) else value)
  | .chain connective first second more => do
    let first ← first.value scope
    let second ← second.value scope
    chainValue scope connective (connective.join first.truthy second.truthy) more

/-- The values of arguments, with their prepositions. -/
def argumentValues (scope : Scope) :
    List (String × Expression) → Except Failure (List (String × Value))
  | [] => .ok []
  | (word, argument) :: rest => do
    let value ← argument.value scope
    let rest ← argumentValues scope rest
    pure ((word, value) :: rest)

/-- The value of a chain whose operands so far have been joined to a truth value. -/
def chainValue (scope : Scope) (connective : Connective) (sofar : Bool) :
    List Expression → Except Failure Value
  | [] => .ok (.bool sofar)
  | operand :: rest => do
    let value ← operand.value scope
    chainValue scope connective (connective.join sofar value.truthy) rest

end

end Turnstile.Condition

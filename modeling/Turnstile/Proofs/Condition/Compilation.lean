import Mathlib
import Turnstile.Proofs.Condition.Acceptance

/-!
# Code means what its expression means

The postfix code of an expression, run on any stack, pushes the value of the expression,
or fails as the expression does (`Expression.run_code`).  Code never looks below what it
has pushed, so code in sequence is code after code (`Code.run_append`), and the proof
follows the tree.

Failures of an expression are failures of its parts (`Expression.raised_of_error`): a
comparison of what has no order, or an answer of the scope.  In particular code from a
source never runs out of operands.

`Expression.evaluate_parsed` carries this over to sources: their code runs to the value
of what their tokens derive.
-/

set_option autoImplicit false

namespace Turnstile.Condition

variable {scope : Scope}

/-! ## Running code -/

/-- Code runs its first instruction and then the rest. -/
theorem Code.run_cons (instr : Instr) (rest : Code) (stack : List Value) :
    Code.run scope (instr :: rest) stack =
      (instr.step scope stack).bind (Code.run scope rest) := rfl

/-- Code in sequence runs one part after the other. -/
theorem Code.run_append (first second : Code) (stack : List Value) :
    Code.run scope (first ++ second) stack =
      (Code.run scope first stack).bind (Code.run scope second) := by
  induction first generalizing stack with
  | nil => rfl
  | cons instr rest ih =>
      rw [List.cons_append, Code.run_cons, Code.run_cons]
      cases instr.step scope stack with
      | error failure => rfl
      | ok after => exact ih after

/-! ## Instructions of operators -/

/-- The instruction of a relation tests the two values on top. -/
theorem Relation.step_instr (relation : Relation) (left right : Value)
    (stack : List Value) :
    relation.instr.step scope (right :: left :: stack) =
      (relation.holds left right).map fun holds => .bool holds :: stack := by
  cases relation with
  | equal => rfl
  | less =>
      simp only [Relation.instr, Instr.step, Relation.holds]
      cases compareValues left right <;> rfl
  | greater =>
      simp only [Relation.instr, Instr.step, Relation.holds]
      cases compareValues left right <;> rfl

/-- An operand of a chain is joined by its truth to the truth value of the operands
before it. -/
theorem Connective.run_instr (connective : Connective) (value : Value)
    (sofar : Bool) (rest : Code) (stack : List Value) :
    Code.run scope (.toBool :: connective.instr :: rest) (value :: .bool sofar :: stack) =
      Code.run scope rest (.bool (connective.join sofar value.truthy) :: stack) := by
  cases connective <;> rfl

/-- A negated condition ends with a `NOT`. -/
theorem run_negation (negated : Bool) (value : Value) (stack : List Value) :
    Code.run scope (negation negated) (value :: stack) =
      .ok ((if negated then .bool (!value.truthy) else value) :: stack) := by
  cases negated <;> rfl

/-- The arguments of a property lie on the stack in the order of their prepositions. -/
theorem takeArguments_reverse (arguments : List (String × Value)) (stack : List Value) :
    takeArguments (arguments.map Prod.fst) ((arguments.map Prod.snd).reverse ++ stack) =
      some (arguments, stack) := by
  have hlength : ((arguments.map Prod.snd).reverse).length =
      (arguments.map Prod.fst).length := by
    simp
  have hzip : arguments = (arguments.map Prod.fst).zip (arguments.map Prod.snd) :=
    List.zip_of_prod rfl rfl
  rw [takeArguments, if_neg (by simp), ← hlength, List.take_left, List.drop_left,
    List.reverse_reverse, ← hzip]

/-- The values of arguments stand with the arguments' prepositions. -/
theorem argumentValues_words {arguments : List (String × Expression)}
    {values : List (String × Value)} (h : argumentValues scope arguments = .ok values) :
    values.map Prod.fst = arguments.map Prod.fst := by
  induction arguments generalizing values with
  | nil =>
      rw [argumentValues] at h
      cases h
      rfl
  | cons argument rest ih =>
      obtain ⟨word, expression⟩ := argument
      simp only [argumentValues, bind, Except.bind] at h
      split at h
      · cases h
      · next value hvalue =>
          split at h
          · cases h
          · next more hmore =>
              cases h
              simp [ih hmore]

/-! ## Expressions -/

mutual

/-- **Expressions.**  The code of an expression pushes the value of the expression on
any stack, or fails as the expression does. -/
theorem Expression.run_code : (e : Expression) → (stack : List Value) →
    Code.run scope e.code stack = (e.value scope).map fun value => value :: stack
  | .constant value, stack => rfl
  | .variable path, stack => rfl
  | .negation operand, stack => by
      rw [Expression.code, Expression.value, Code.run_append, operand.run_code stack]
      cases operand.value scope <;> rfl
  | .comparison relation negated left right, stack => by
      rw [Expression.code, Expression.value, Code.run_append, Code.run_append,
        left.run_code stack]
      cases left.value scope with
      | error failure => rfl
      | ok a =>
          simp only [Except.map, Except.bind, bind, right.run_code (a :: stack)]
          cases right.value scope with
          | error failure => rfl
          | ok b =>
              simp only [Code.run_cons, Relation.step_instr]
              cases relation.holds a b with
              | error failure => rfl
              | ok holds => cases negated <;> rfl
  | .clause subject negated adjectives arguments, stack => by
      rw [Expression.code, Expression.value, Code.run_append, Code.run_append,
        subject.run_code stack]
      cases subject.value scope with
      | error failure => rfl
      | ok a =>
          simp only [Except.map, Except.bind, bind,
            run_argumentsCode arguments (a :: stack)]
          cases hvalues : argumentValues scope arguments with
          | error failure => rfl
          | ok values =>
              have htake : takeArguments (arguments.map Prod.fst)
                  ((values.map Prod.snd).reverse ++ a :: stack) =
                    some (values, a :: stack) := by
                rw [← argumentValues_words hvalues]
                exact takeArguments_reverse values (a :: stack)
              simp only [Code.run_cons, Instr.step, htake]
              cases scope.property adjectives a values with
              | error failure => rfl
              | ok answer => exact run_negation negated answer stack
  | .chain connective first second more, stack => by
      rw [Expression.code, Expression.value, Code.run_append, first.run_code stack]
      cases first.value scope with
      | error failure => rfl
      | ok a =>
          change Code.run scope (second.code ++ _) (.bool a.truthy :: stack) = _
          rw [Code.run_append, second.run_code (.bool a.truthy :: stack)]
          cases second.value scope with
          | error failure => rfl
          | ok b =>
              change Code.run scope (.toBool :: connective.instr :: _) (b :: _) = _
              rw [Connective.run_instr]
              exact run_operandsCode connective more _ stack

/-- The code of arguments pushes their values, the last on top. -/
theorem run_argumentsCode :
    (arguments : List (String × Expression)) → (stack : List Value) →
    Code.run scope (argumentsCode arguments) stack =
      (argumentValues scope arguments).map fun values =>
        (values.map Prod.snd).reverse ++ stack
  | [], stack => rfl
  | (word, argument) :: rest, stack => by
      rw [argumentsCode, argumentValues, Code.run_append, argument.run_code stack]
      cases argument.value scope with
      | error failure => rfl
      | ok value =>
          simp only [Except.map, Except.bind, bind,
            run_argumentsCode rest (value :: stack)]
          cases argumentValues scope rest with
          | error failure => rfl
          | ok values => simp [pure, Except.pure]

/-- The code of further operands joins them to the truth value on top. -/
theorem run_operandsCode (connective : Connective) :
    (operands : List Expression) → (sofar : Bool) →
    (stack : List Value) →
    Code.run scope (operandsCode connective operands) (.bool sofar :: stack) =
      (chainValue scope connective sofar operands).map fun value => value :: stack
  | [], sofar, stack => rfl
  | operand :: rest, sofar, stack => by
      rw [operandsCode, chainValue, Code.run_append,
        operand.run_code (.bool sofar :: stack)]
      cases operand.value scope with
      | error failure => rfl
      | ok value =>
          change Code.run scope (.toBool :: connective.instr :: _) (value :: _) = _
          rw [Connective.run_instr]
          exact run_operandsCode connective rest _ stack

end

/-- Code runs to the value of its expression. -/
theorem Expression.evaluate_code (e : Expression) :
    Code.evaluate scope e.code = e.value scope := by
  rw [Code.evaluate, e.run_code []]
  cases e.value scope <;> rfl

/-! ## Failures -/

/-- A failure that a part of an expression can have: two values have no order, or the
scope has answered with it. -/
inductive Raised (scope : Scope) : Failure → Prop
  | comparison {left right : Value} (horder : left.compare? right = none) :
      Raised scope (.incomparable left.kindName right.kindName)
  | property {adjectives : List String} {subject : Value}
      {arguments : List (String × Value)} {failure : Failure}
      (hanswer : scope.property adjectives subject arguments = .error failure) :
      Raised scope failure

/-- A comparison fails only for want of an order. -/
theorem Raised.of_compareValues {left right : Value} {failure : Failure}
    (h : compareValues left right = .error failure) : Raised scope failure := by
  unfold compareValues at h
  split at h
  · cases h
  · next horder =>
      cases h
      exact .comparison horder

/-- So does a relation. -/
theorem Raised.of_holds {relation : Relation} {left right : Value} {failure : Failure}
    (h : relation.holds left right = .error failure) : Raised scope failure := by
  cases relation with
  | equal => cases h
  | less =>
      simp only [Relation.holds, bind, Except.bind] at h
      split at h
      · next hcompare => cases h; exact .of_compareValues hcompare
      · cases h
  | greater =>
      simp only [Relation.holds, bind, Except.bind] at h
      split at h
      · next hcompare => cases h; exact .of_compareValues hcompare
      · cases h

mutual

/-- **Failures.**  An expression fails only where a comparison or a property of it
does. -/
theorem Expression.raised_of_error {failure : Failure} : (e : Expression) →
    e.value scope = .error failure → Raised scope failure
  | .constant _, h => by cases h
  | .variable _, h => by cases h
  | .negation operand, h => by
      simp only [Expression.value, bind, Except.bind] at h
      split at h
      · next hoperand => cases h; exact operand.raised_of_error hoperand
      · cases h
  | .comparison relation negated left right, h => by
      simp only [Expression.value, bind, Except.bind] at h
      split at h
      · next hleft => cases h; exact left.raised_of_error hleft
      · split at h
        · next hright => cases h; exact right.raised_of_error hright
        · split at h
          · next hholds => cases h; exact .of_holds hholds
          · cases h
  | .clause subject negated adjectives arguments, h => by
      simp only [Expression.value, bind, Except.bind] at h
      split at h
      · next hsubject => cases h; exact subject.raised_of_error hsubject
      · split at h
        · next harguments => cases h; exact raised_of_argumentValues arguments harguments
        · split at h
          · next hanswer => cases h; exact .property hanswer
          · cases h
  | .chain connective first second more, h => by
      simp only [Expression.value, bind, Except.bind] at h
      split at h
      · next hfirst => cases h; exact first.raised_of_error hfirst
      · split at h
        · next hsecond => cases h; exact second.raised_of_error hsecond
        · exact raised_of_chainValue connective more _ h

theorem raised_of_argumentValues {failure : Failure} :
    (arguments : List (String × Expression)) →
    argumentValues scope arguments = .error failure → Raised scope failure
  | [], h => by rw [argumentValues] at h; cases h
  | (word, argument) :: rest, h => by
      simp only [argumentValues, bind, Except.bind] at h
      split at h
      · next hargument => cases h; exact argument.raised_of_error hargument
      · split at h
        · next hrest => cases h; exact raised_of_argumentValues rest hrest
        · cases h

theorem raised_of_chainValue (connective : Connective) {failure : Failure} :
    (operands : List Expression) → (sofar : Bool) →
      chainValue scope connective sofar operands = .error failure → Raised scope failure
  | [], sofar, h => by rw [chainValue] at h; cases h
  | operand :: rest, sofar, h => by
      simp only [chainValue, bind, Except.bind] at h
      split at h
      · next hoperand => cases h; exact operand.raised_of_error hoperand
      · exact raised_of_chainValue connective rest _ h

end

/-! ## Sources -/

/-- **The code of a source means what the source says.**  The tokens of a source that
was read have a derivation.  Whatever variables and properties stand for, the code of
the source, the derivation's postfix code, runs to the value of what the derivation
means, and fails as that does; it is malformed only if a property says so. -/
theorem Expression.evaluate_parsed {source : String} {e : Expression}
    (hparse : Expression.parse source = .ok e) (scope : Scope) :
    ∃ d : Derivation (.chain .or), d.sentence = kinds (scan source).tokens ∧
      d.meaning = e ∧ d.code = e.code ∧
      Code.evaluate scope e.code = Expression.value scope d.meaning ∧
      (∀ failure, Code.evaluate scope e.code = .error failure → Raised scope failure) ∧
      ∀ reason, (∀ adjectives subject arguments,
        scope.property adjectives subject arguments ≠ .error (.malformed reason)) →
          Code.evaluate scope e.code ≠ .error (.malformed reason) := by
  obtain ⟨d, hd, rfl, hcode⟩ := Expression.derivation_of_parse hparse
  have hvalue : Code.evaluate scope d.meaning.code = d.meaning.value scope :=
    d.meaning.evaluate_code
  refine ⟨d, hd, rfl, hcode, hvalue, fun failure h => ?_, fun reason hscope h => ?_⟩
  · rw [hvalue] at h
    exact Expression.raised_of_error _ h
  · rw [hvalue] at h
    cases Expression.raised_of_error _ h with
    | property hanswer => exact hscope _ _ _ hanswer

/-- Where every variable is `b`, `not a is in "abc" or 2h` negates `b` before it looks
for it, and is true of the two hours. -/
theorem Expression.evaluate_parsed_membership :
    let e : Expression := .chain .or
      (.clause (.negation (.variable ["a"])) false [] [("in", .constant (.str "abc"))])
      (.constant (.int 7200)) []
    let scope : Scope := ⟨fun _ => .str "b", fun _ subject _ => .ok subject⟩
    Expression.parse "not a is in \"abc\" or 2h" = .ok e ∧
      (∃ d : Derivation (.chain .or), d.meaning = e ∧
        Code.evaluate scope e.code = Expression.value scope d.meaning) ∧
      Code.evaluate scope e.code = .ok (.bool true) := by
  intro e scope
  have hparse : Expression.parse "not a is in \"abc\" or 2h" = .ok e := by cbv
  obtain ⟨d, -, hmeaning, -, hvalue, -⟩ := Expression.evaluate_parsed hparse scope
  refine ⟨hparse, ⟨d, hmeaning, hvalue⟩, ?_⟩
  rw [hvalue, hmeaning]
  rfl

end Turnstile.Condition

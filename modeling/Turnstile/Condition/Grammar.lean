import Turnstile.Condition.Expression
import Turnstile.Condition.Token

/-!
# Reading expressions

The grammar, loosest binding first:

    or         := and ("or" and)*
    and        := comparison ("and" comparison)*
    comparison := property [OPERATOR property]
    property   := unary [COPULA ["not"] ADJECTIVE* (PREPOSITION unary)*]
    unary      := "not" unary | value
    value      := ATOM | LITERAL | NUMBER | DURATION | "(" or ")"

An adjective is an atom of one segment, and a copula needs at least one adjective or
preposition.  Each reader takes the tokens before it and answers an expression with the
tokens it left.  Readers that can meet a parenthesis carry fuel; `readingFuel` is more
than any list of tokens needs.
-/

set_option autoImplicit false

namespace Turnstile.Condition

/-- What a reader found, with the tokens it left. -/
abbrev Found (α : Type) := α × List Token

/-- The diagnostic that a token does not fit. -/
def Token.unexpected (token : Token) : Diagnostic :=
  ⟨.unexpectedToken token.text, token.extent⟩

/-- The diagnostic that the source ends too early, at its end. -/
def endOfInput (stop : Nat) : Diagnostic := ⟨.endOfInput, ⟨stop, stop⟩⟩

/-- The relation an operator stands for, and whether it is negated. -/
def relation? (operator : String) : Option (Relation × Bool) :=
  if operator = "=" then some (.equal, false)
  else if operator = "/=" then some (.equal, true)
  else if operator = "<" then some (.less, false)
  else if operator = ">" then some (.greater, false)
  else if operator = "<=" then some (.greater, true)
  else if operator = ">=" then some (.less, true)
  else none

/-- Operands joined by a connective; one operand alone stands for itself. -/
def Expression.joined (connective : Connective) (first : Expression) :
    List Expression → Expression
  | [] => first
  | second :: more => .chain connective first second more

/-- Whether a token is the word of a connective. -/
def Connective.isWord : Connective → Token.Kind → Bool
  | .and, .and => true
  | .or, .or => true
  | _, _ => false

/-- The adjectives at the front of a list of tokens. -/
def readAdjectives : List Token → Except Diagnostic (Found (List String))
  | [] => .ok ([], [])
  | token :: rest =>
    match token.kind with
    | .atom [word] => do
      let (words, rest) ← readAdjectives rest
      pure (word :: words, rest)
    | .atom _ => .error ⟨.adjectiveExpected token.text, token.extent⟩
    | _ => .ok ([], token :: rest)

/-- A `not` at the front of a list of tokens, if there is one. -/
def readNot : List Token → Bool × List Token
  | [] => (false, [])
  | token :: rest =>
    match token.kind with
    | .not => (true, rest)
    | _ => (false, token :: rest)

mutual

/-- Read operands joined by a connective.  The operands of `or` are chains of `and`. -/
def readChain (stop : Nat) :
    Nat → Connective → List Token → Except Diagnostic (Found Expression)
  | 0, _, _ => .error (endOfInput stop)
  | fuel + 1, connective, tokens => do
    let (first, rest) ← readOperand stop fuel connective tokens
    let (more, rest) ← readMore stop fuel connective rest
    pure (.joined connective first more, rest)

/-- Read one operand of a connective. -/
def readOperand (stop : Nat) :
    Nat → Connective → List Token → Except Diagnostic (Found Expression)
  | 0, _, _ => .error (endOfInput stop)
  | fuel + 1, .or, tokens => readChain stop fuel .and tokens
  | fuel + 1, .and, tokens => readComparison stop fuel tokens

/-- Read further operands, each after the word of the connective. -/
def readMore (stop : Nat) :
    Nat → Connective → List Token → Except Diagnostic (Found (List Expression))
  | _, _, [] => .ok ([], [])
  | 0, _, _ :: _ => .error (endOfInput stop)
  | fuel + 1, connective, token :: rest =>
    if connective.isWord token.kind then do
      let (operand, rest) ← readOperand stop fuel connective rest
      let (more, rest) ← readMore stop fuel connective rest
      pure (operand :: more, rest)
    else .ok ([], token :: rest)

/-- Read a property, and with an operator after it one more. -/
def readComparison (stop : Nat) : Nat → List Token → Except Diagnostic (Found Expression)
  | 0, _ => .error (endOfInput stop)
  | fuel + 1, tokens => do
    let (left, rest) ← readProperty stop fuel tokens
    match rest with
    | [] => pure (left, [])
    | token :: after =>
      match token.kind with
      | .operator operator =>
        match relation? operator with
        | none => .error ⟨.unknownOperator operator, token.extent⟩
        | some (relation, negated) => do
          let (right, rest) ← readProperty stop fuel after
          pure (.comparison relation negated left right, rest)
      | _ => pure (left, token :: after)

/-- Read a unary, and with a copula after it a clause about it. -/
def readProperty (stop : Nat) : Nat → List Token → Except Diagnostic (Found Expression)
  | 0, _ => .error (endOfInput stop)
  | fuel + 1, tokens => do
    let (subject, rest) ← readUnary stop fuel tokens
    match rest with
    | [] => pure (subject, [])
    | token :: after =>
      match token.kind with
      | .copula copula => do
        let (negated, after) := readNot after
        let (adjectives, after) ← readAdjectives after
        let (arguments, after) ← readArguments stop fuel after
        if adjectives.isEmpty && arguments.isEmpty then
          match after with
          | next :: _ => .error ⟨.propertyExpected copula, next.extent⟩
          | [] => .error (endOfInput stop)
        else pure (.clause subject negated adjectives arguments, after)
      | _ => pure (subject, token :: after)

/-- Read prepositions, each with the unary after it. -/
def readArguments (stop : Nat) :
    Nat → List Token → Except Diagnostic (Found (List (String × Expression)))
  | _, [] => .ok ([], [])
  | 0, _ :: _ => .error (endOfInput stop)
  | fuel + 1, token :: rest =>
    match token.kind with
    | .preposition word => do
      let (argument, rest) ← readUnary stop fuel rest
      let (more, rest) ← readArguments stop fuel rest
      pure ((word, argument) :: more, rest)
    | _ => .ok ([], token :: rest)

/-- Read a value behind any number of negations. -/
def readUnary (stop : Nat) : Nat → List Token → Except Diagnostic (Found Expression)
  | _, [] => .error (endOfInput stop)
  | 0, _ :: _ => .error (endOfInput stop)
  | fuel + 1, token :: rest =>
    match token.kind with
    | .not => do
      let (operand, rest) ← readUnary stop fuel rest
      pure (.negation operand, rest)
    | .atom path => .ok (.variable path, rest)
    | .number value => .ok (.constant value, rest)
    | .literal value => .ok (.constant value, rest)
    | .duration seconds => .ok (.constant (.int seconds), rest)
    | .leftParen => do
      let (inner, rest) ← readChain stop fuel .or rest
      match rest with
      | [] => .error ⟨.parenthesisOpen, ⟨stop, stop⟩⟩
      | close :: after =>
        match close.kind with
        | .rightParen => pure (inner, after)
        | _ => .error close.unexpected
    | _ => .error token.unexpected

end

/-- Fuel enough for a list of tokens: between two tokens at most six readers call each
other. -/
def readingFuel (tokens : List Token) : Nat := 8 * (tokens.length + 1)

/-- Read a whole list of tokens of a source that ends at byte `stop`. -/
def readTokens (stop : Nat) (tokens : List Token) : Except Diagnostic Expression := do
  let (expression, rest) ← readChain stop (readingFuel tokens) .or tokens
  match rest with
  | [] => pure expression
  | token :: _ => .error token.unexpected

/-- The expression a source stands for.  A flaw of the tokens comes before any other. -/
def Expression.parse (source : String) : Except Diagnostic Expression :=
  let scanned := scan source
  match scanned.flaw with
  | some diagnostic => .error diagnostic
  | none => readTokens source.utf8ByteSize scanned.tokens

end Turnstile.Condition

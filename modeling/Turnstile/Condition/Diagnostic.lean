import Turnstile.Text.Bytes
import Turnstile.Text.Quoted

/-!
# What is wrong with a condition's text

A diagnostic names a cause and the extent of the source, in bytes, that it is about.
`underline` shows it: the number of the line, the line itself, and below it a caret with
tildes under the extent.
-/

set_option autoImplicit false

namespace Turnstile.Condition

/-- A half-open range of byte positions of a source. -/
structure Extent where
  start : Nat
  stop : Nat
deriving DecidableEq, Repr

/-- Why a source is not a condition. -/
inductive Flaw where
  | unexpectedCharacter (c : Char)
  | unterminatedString
  | invalidIdentifier (text : String)
  | unknownOperator (text : String)
  | adjectiveExpected (found : String)
  | propertyExpected (copula : String)
  | unexpectedToken (text : String)
  | parenthesisOpen
  | endOfInput
deriving DecidableEq, Repr

/-- The wording of a flaw. -/
def Flaw.message : Flaw → String
  | .unexpectedCharacter c => "Unexpected character " ++ Text.quotedChar c
  | .unterminatedString => "Unterminated string"
  | .invalidIdentifier text => "Invalid identifier '" ++ text ++ "'"
  | .unknownOperator text => "Unknown operator '" ++ text ++ "'"
  | .adjectiveExpected found => "Expected an adjective, found '" ++ found ++ "'"
  | .propertyExpected copula => "Expected a property after '" ++ copula ++ "'"
  | .unexpectedToken text => "Unexpected '" ++ text ++ "'"
  | .parenthesisOpen => "Expected ')' before end of input"
  | .endOfInput => "Unexpected end of input"

/-- A flaw and where it is. -/
structure Diagnostic where
  flaw : Flaw
  extent : Extent
deriving DecidableEq, Repr

/-- The layout of a message under the line it is about. -/
structure Underline where
  lineNumber : Nat
  line : List Char
  indent : Nat
  marks : Nat
deriving DecidableEq, Repr

/-- Where to draw the underline of an extent.  The extent is moved into the source
first, and cut off at the end of the line in which it starts. -/
def underline (source : List Char) (extent : Extent) : Underline :=
  let (before, after) := Text.cut source extent.start
  let indent := (before.reverse.takeWhile (· ≠ '\n')).reverse
  let rest := after.takeWhile (· ≠ '\n')
  let marked := (Text.cut rest (extent.stop - Text.bytes before)).1
  { lineNumber := before.count '\n' + 1
    line := indent ++ rest
    indent := indent.length
    marks := max 1 marked.length }

/-- A message with the line it is about and the underline. -/
def renderMessage (message : String) (extent : Extent) (source : String) : String :=
  let u := underline source.toList extent
  "Error on line " ++ toString u.lineNumber ++ ": " ++ message ++ "\n" ++
    String.ofList u.line ++
    "\n" ++ String.ofList
      (List.replicate u.indent ' ' ++ '^' :: List.replicate (u.marks - 1) '~')

/-- A diagnostic shown on the source it came from. -/
def Diagnostic.render (d : Diagnostic) (source : String) : String :=
  renderMessage d.flaw.message d.extent source

end Turnstile.Condition

import Turnstile.Text.Category
import Turnstile.Text.Extender
import Turnstile.Number.Basic

/-!
# Quoted characters and strings in messages

Messages show a character between single quotes and a string between double quotes.  The
quote of the kind, the backslash and the usual control characters have short escapes;
characters without a shape and those that would attach to the one before them are
written by code point.
-/

set_option autoImplicit false

namespace Turnstile.Text

/-- Whether characters of a category have a shape: all but controls, formats, separators
and what is unassigned, private or a surrogate. -/
def Category.hasShape : Category → Bool
  | .cc | .cf | .cs | .co | .cn | .zs | .zl | .zp => false
  | _ => true

/-- Whether a character shows on its own. -/
def isVisible (c : Char) : Bool :=
  if c.toNat < 0x80 then 0x20 ≤ c.toNat && c.toNat < 0x7f
  else (Category.ofChar c).hasShape && !extenders.contains c.toNat

/-- A character inside quotes of the given kind. -/
def shown (quote : Char) (c : Char) : List Char :=
  if c = quote ∨ c = '\\' then ['\\', c]
  else if c = '\n' then ['\\', 'n']
  else if c = '\t' then ['\\', 't']
  else if c = '\r' then ['\\', 'r']
  else if c = '\x00' then ['\\', '0']
  else if isVisible c then [c]
  else ['\\', 'u', '\x7b'] ++ Nat.toDigits 16 c.toNat ++ ['\x7d']

/-- A character between single quotes. -/
def quotedChar (c : Char) : String :=
  String.ofList ('\x27' :: (shown '\x27' c ++ ['\x27']))

/-- A string between double quotes. -/
def quotedString (s : String) : String :=
  String.ofList ('"' :: (s.toList.flatMap (shown '"') ++ ['"']))

/-- An optional string: `None`, or `Some` of the quoted string. -/
def quotedOption : Option String → String
  | none => "None"
  | some s => "Some(" ++ quotedString s ++ ")"

end Turnstile.Text

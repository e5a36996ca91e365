import Turnstile.Value.Basic

/-!
# The compact text of a document

Documents are written without spaces, object keys in increasing order.  In strings the
quote, the backslash and the characters below a space are escaped; every other character
stands for itself.
-/

set_option autoImplicit false

namespace Turnstile.Value

/-- A lowercase hexadecimal digit. -/
def hexDigit (n : Nat) : Char := Nat.digitChar (n % 16)

/-- The written form of one character inside a string. -/
def escaped (c : Char) : List Char :=
  if c = '"' then ['\\', '"']
  else if c = '\\' then ['\\', '\\']
  else if c = '\x08' then ['\\', 'b']
  else if c = '\x0c' then ['\\', 'f']
  else if c = '\n' then ['\\', 'n']
  else if c = '\r' then ['\\', 'r']
  else if c = '\t' then ['\\', 't']
  else if c.toNat <
    0x20 then ['\\', 'u', '0', '0', hexDigit (c.toNat / 16), hexDigit c.toNat]
  else [c]

/-- A string in quotes. -/
def quoted (s : String) : List Char :=
  '"' :: (s.toList.flatMap escaped ++ ['"'])

mutual

/-- The compact text of a document, as characters. -/
def chars : Value → List Char
  | .null => "null".toList
  | .bool true => "true".toList
  | .bool false => "false".toList
  | .num n => n.text
  | .str s => quoted s
  | .arr items => '[' :: (charsItems items ++ [']'])
  | .obj fields => '\x7b' :: (charsFields fields ++ ['\x7d'])

/-- The items of an array, separated by commas. -/
def charsItems : List Value → List Char
  | [] => []
  | [v] => chars v
  | v :: rest => chars v ++ ',' :: charsItems rest

/-- The fields of an object, separated by commas. -/
def charsFields : List (String × Value) → List Char
  | [] => []
  | [(k, v)] => quoted k ++ ':' :: chars v
  | (k, v) :: rest => quoted k ++ ':' :: (chars v ++ ',' :: charsFields rest)

end

/-- The compact text of a document. -/
def text (v : Value) : String := String.ofList v.chars

end Turnstile.Value

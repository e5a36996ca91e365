import Turnstile.Toml.Scalar
import Turnstile.Toml.Table

/-!
# Reading TOML

A text is a sequence of lines: keys with values, headers, comments and blank lines.
Arrays may go over several lines, inline tables may not.

* `Toml.parse?` reads a text into a document.
* Values are nested less than `nestingLimit` deep, and keys have fewer parts than that.
-/

set_option autoImplicit false

namespace Turnstile.Toml

/-- Nesting from which on a text is refused. -/
def nestingLimit : Nat := 80

/-- Characters of keys without quotes. -/
def isKeyChar (c : Char) : Bool := c.isAlphanum || c = '_' || c = '-'

/-- One part of a key. -/
def readKeyPart? (s : List Char) : Option (String × List Char) :=
  match s with
  | '"' :: rest =>
    (readLine '"' true (rest.length + 1) rest).map fun (text, rest) =>
    (String.ofList text, rest)
  | '\x27' :: rest =>
    (readLine '\x27' false (rest.length + 1) rest).map fun (text, rest) =>
      (String.ofList text, rest)
  | _ =>
    let text := s.takeWhile isKeyChar
    if text.isEmpty then none else some (String.ofList text, s.dropWhile isKeyChar)

/-- The parts of a dotted key, with spaces around each. -/
def readKeyParts : Nat → List Char → Option (List String × List Char)
  | 0, _ => none
  | fuel + 1, s => do
    let (part, s) ← readKeyPart? (skipSpace s)
    match skipSpace s with
    | '.' :: rest => do
      let (parts, rest) ← readKeyParts fuel rest
      pure (part :: parts, rest)
    | rest => pure ([part], rest)

/-- A dotted key. -/
def readKey? (s : List Char) : Option (List String × List Char) := do
  let (parts, rest) ← readKeyParts (s.length + 1) s
  if parts.length < nestingLimit then pure (parts, rest) else none

/-- Drop spaces, line breaks and comments; a comment must end with its line. -/
def skipBetween (inComment : Bool) : List Char → Option (List Char)
  | [] => if inComment then none else some []
  | '\n' :: rest => skipBetween false rest
  | '\r' :: '\n' :: rest => skipBetween false rest
  | c :: rest =>
    if inComment then if isPlain c then skipBetween true rest else none
    else if c = ' ' ∨ c = '\t' then skipBetween false rest
    else if c = '#' then skipBetween true rest
    else some (c :: rest)

/-- Put a value under a dotted key of a table. -/
def putDotted (parts : List String) (v : Value) (t : Table) : Option Table := do
  let key ← parts.getLast?
  Table.putKey key v true parts.dropLast t

mutual

/-- A value; `depth` more levels of arrays and inline tables are allowed. -/
def readValue : Nat → Nat → List Char → Option (Value × List Char)
  | 0, _, _ => none
  | fuel + 1, depth, s =>
    match s with
    | '[' :: rest =>
      match depth with
      | 0 => none
      | depth + 1 =>
          (readItems fuel depth rest).map fun (items, rest) => (.arr items, rest)
    | '\x7b' :: rest =>
      match depth with
      | 0 => none
      | depth + 1 =>
        match skipSpace rest with
        | '\x7d' :: rest => some (.obj [], rest)
        | rest =>
          (readPairs fuel depth [] rest).map fun (t, rest) =>
          (.obj (itemsToFields t), rest)
    | 't' :: 'r' :: 'u' :: 'e' :: rest => some (.bool true, rest)
    | 'f' :: 'a' :: 'l' :: 's' :: 'e' :: rest => some (.bool false, rest)
    | c :: _ =>
      if c = '"' ∨ c = '\x27' then
        (readQuoted? s).map fun (text, rest) => (.str (String.ofList text), rest)
      else readNumeric? s
    | [] => none

/-- The items of an array after its bracket or after a comma. -/
def readItems : Nat → Nat → List Char → Option (List Value × List Char)
  | 0, _, _ => none
  | fuel + 1, depth, s => do
    match ← skipBetween false s with
    | ']' :: rest => pure ([], rest)
    | s => do
      let (item, s) ← readValue fuel depth s
      match ← skipBetween false s with
      | ',' :: rest => do
        let (items, rest) ← readItems fuel depth rest
        pure (item :: items, rest)
      | ']' :: rest => pure ([item], rest)
      | _ => none

/-- The keys and values of an inline table after its brace or after a comma. -/
def readPairs : Nat → Nat → Table → List Char → Option (Table × List Char)
  | 0, _, _, _ => none
  | fuel + 1, depth, t, s => do
    let (parts, s) ← readKey? s
    let s ← after? '=' s
    let (v, s) ← readValue fuel depth (skipSpace s)
    let t ← putDotted parts v t
    match skipSpace s with
    | ',' :: rest => readPairs fuel depth t rest
    | '\x7d' :: rest => pure (t, rest)
    | _ => none

end

/-- What follows the end of a line, which may have a comment before it. -/
def endLine? (s : List Char) : Option (List Char) :=
  let s :=
    match skipSpace s with
    | '#' :: rest => rest.dropWhile isPlain
    | rest => rest
  if s.isEmpty then some [] else lineBreak? s

/-- Read the lines of a text into a table; `path` is that of the last header. -/
def readText : Nat → List String → Table → List Char → Option Table
  | 0, _, _, _ => none
  | fuel + 1, path, t, s =>
    match skipSpace s with
    | [] => some t
    | '#' :: rest => do
      let rest ← endLine? ('#' :: rest)
      readText fuel path t rest
    | '[' :: '[' :: rest => do
      let (parts, rest) ← readKey? rest
      let rest ← (after? ']' rest).bind (after? ']')
      let t ← Table.openArray parts t
      let rest ← endLine? rest
      readText fuel parts t rest
    | '[' :: rest => do
      let (parts, rest) ← readKey? rest
      let rest ← after? ']' rest
      let t ← Table.openTable parts t
      let rest ← endLine? rest
      readText fuel parts t rest
    | c :: rest =>
      match lineBreak? (c :: rest) with
      | some rest => readText fuel path t rest
      | none => do
        let (parts, rest) ← readKey? (c :: rest)
        let rest ← after? '=' rest
        let (v, rest) ← readValue (4 * s.length + 4) (nestingLimit - 1) (skipSpace rest)
        let t ← Table.within (putDotted parts v) path t
        let rest ← endLine? rest
        readText fuel path t rest

/-- The text without a mark of its byte order. -/
def withoutMark : List Char → List Char
  | c :: rest => if c.toNat = 0xFEFF then rest else c :: rest
  | [] => []

/-- Read a text. -/
def parse? (text : String) : Option Value :=
  let s := withoutMark text.toList
  (readText (s.length + 1) [] [] s).map fun t => .obj (itemsToFields t)

end Turnstile.Toml

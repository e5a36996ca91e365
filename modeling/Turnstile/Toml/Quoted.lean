import Turnstile.Value.Reader

/-!
# Strings of TOML

Strings stand between quotes: double quotes with escapes or single quotes without.
Three quotes begin a string of several lines.  Every reader takes what follows the
opening quotes and answers the text and what follows the closing ones.
-/

set_option autoImplicit false

namespace Turnstile.Toml

/-- Characters that may stand anywhere but in a line break: no control characters but
tabs. -/
def isPlain (c : Char) : Bool := c = '\t' || (0x20 ≤ c.toNat && c.toNat ≠ 0x7f)

/-- The character of a code in hexadecimal digits, unless it is a surrogate or too
large. -/
def codeChar? (digits : List Char) : Option Char := do
  let values ← digits.mapM Value.hexValue?
  let code := values.foldl (fun n d => n * 16 + d) 0
  if code < 0xD800 ∨ (0xE000 ≤ code ∧ code < 0x110000) then some (Char.ofNat code)
  else none

/-- The character a short escape stands for. -/
def shortEscape? (c : Char) : Option Char :=
  if c = '"' ∨ c = '\\' then some c
  else if c = 'b' then some '\x08'
  else if c = 't' then some '\t'
  else if c = 'n' then some '\n'
  else if c = 'f' then some '\x0c'
  else if c = 'r' then some '\r'
  else none

/-- The character of an escape, given what follows the backslash, and the rest. -/
def escape? : List Char → Option (Char × List Char)
  | 'u' :: rest => (codeChar? (rest.take 4)).bind fun c =>
    if (rest.take 4).length = 4 then some (c, rest.drop 4) else none
  | 'U' :: rest => (codeChar? (rest.take 8)).bind fun c =>
    if (rest.take 8).length = 8 then some (c, rest.drop 8) else none
  | c :: rest => (shortEscape? c).map fun c => (c, rest)
  | [] => none

/-- A string on one line.  `fuel` exceeds the length of the text. -/
def readLine (quote : Char) (escapes : Bool) :
    Nat → List Char → Option (List Char × List Char)
  | 0, _ => none
  | _, [] => none
  | fuel + 1, c :: rest =>
    if c = quote then some ([], rest)
    else if escapes && c = '\\' then do
      let (c, rest) ← escape? rest
      let (text, rest) ← readLine quote escapes fuel rest
      pure (c :: text, rest)
    else if isPlain c then do
      let (text, rest) ← readLine quote escapes fuel rest
      pure (c :: text, rest)
    else none

/-- Drop spaces, tabs and line breaks. -/
def skipLayout : List Char → List Char
  | '\r' :: '\n' :: rest => skipLayout rest
  | c :: rest => if c = ' ' ∨ c = '\t' ∨ c = '\n' then skipLayout rest else c :: rest
  | [] => []

/-- Drop spaces and tabs. -/
def skipSpace (s : List Char) : List Char := s.dropWhile fun c => c = ' ' || c = '\t'

/-- What follows a line break. -/
def lineBreak? : List Char → Option (List Char)
  | '\n' :: rest => some rest
  | '\r' :: '\n' :: rest => some rest
  | _ => none

/-- How many of a run of quotes belong to the text: those before the three that close
it, but never more than two. -/
def quotesInside (run : Nat) : Nat := if run < 3 then run else min (run - 3) 2

/-- A string of several lines.  Line breaks are read as line feeds; a backslash at the
end of a line joins it with the next text.  `fuel` exceeds the length of the text. -/
def readLines (quote : Char) (escapes : Bool) :
    Nat → List Char → Option (List Char × List Char)
  | 0, _ => none
  | _, [] => none
  | fuel + 1, c :: rest =>
    if c = quote then
      let run := 1 + (rest.takeWhile (· = quote)).length
      let inside := quotesInside run
      let after := (c :: rest).drop inside
      if run < 3 then do
        let (text, rest) ← readLines quote escapes fuel after
        pure (List.replicate inside quote ++ text, rest)
      else some (List.replicate inside quote, after.drop 3)
    else if escapes && c = '\\' then
      match lineBreak? (skipSpace rest) with
      | some next => readLines quote escapes fuel (skipLayout next)
      | none => do
        let (c, rest) ← escape? rest
        let (text, rest) ← readLines quote escapes fuel rest
        pure (c :: text, rest)
    else
      match lineBreak? (c :: rest) with
      | some next => do
        let (text, rest) ← readLines quote escapes fuel next
        pure ('\n' :: text, rest)
      | none =>
        if isPlain c then do
          let (text, rest) ← readLines quote escapes fuel rest
          pure (c :: text, rest)
        else none

/-- A string of several lines from its opening quotes on; a line break right after them
does not count. -/
def readBlock (quote : Char) (escapes : Bool) (s : List Char) :
    Option (List Char × List Char) :=
  readLines quote escapes (s.length + 1) ((lineBreak? s).getD s)

/-- A string from its opening quote on. -/
def readQuoted? : List Char → Option (List Char × List Char)
  | '"' :: '"' :: '"' :: rest => readBlock '"' true rest
  | '"' :: rest => readLine '"' true (rest.length + 1) rest
  | '\x27' :: '\x27' :: '\x27' :: rest => readBlock '\x27' false rest
  | '\x27' :: rest => readLine '\x27' false (rest.length + 1) rest
  | _ => none

end Turnstile.Toml

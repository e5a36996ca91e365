import Turnstile.Pattern.Matching
import Turnstile.Text.Script
import Turnstile.Value.Reader

/-!
# Reading patterns

`Pattern.parse?` reads the written form of a pattern: literals, `.`, classes in
brackets, the escapes `\d`, `\s`, `\w` and `\p`, anchors and word boundaries, groups
with flags, alternatives and repetitions.  There are no references to groups and no
look-around.  A text that is not a pattern is refused.
-/

set_option autoImplicit false

namespace Turnstile

/-- A pattern with its written form. -/
structure Pattern where
  source : String
  node : Pattern.Node

namespace Pattern

/-- The settings that groups can change. -/
structure Flags where
  caseless : Bool := false
  multiLine : Bool := false
  dotAll : Bool := false
  swapGreed : Bool := false
  unicode : Bool := true
  verbose : Bool := false
  returns : Bool := false

/-- The place in the written form: the flags in force, the names of groups so far, and
the rest. -/
structure Cursor where
  flags : Flags
  names : List String
  rest : List Char

/-- Go on with another rest. -/
def Cursor.at_ (cur : Cursor) (rest : List Char) : Cursor := { cur with rest := rest }

/-- Skip blanks and comments; `comment` holds while inside a comment. -/
def skipVerbose (comment : Bool) : List Char → List Char
  | [] => []
  | c :: rest =>
    if comment then skipVerbose (c ≠ '\n') rest
    else if c = '#' then skipVerbose true rest
    else if Text.isBlank c then skipVerbose false rest
    else c :: rest

/-- Skip what does not count in verbose patterns. -/
def Cursor.skip (cur : Cursor) : Cursor :=
  if cur.flags.verbose then cur.at_ (skipVerbose false cur.rest) else cur

/-- Any character. -/
def anyChar : CharSet := .range 0 0x10ffff

/-- A range of characters under the flags in force. -/
def Flags.range? (flags : Flags) (low high : Nat) : Option CharSet :=
  if !flags.unicode && 0x80 ≤ high then none
  else if flags.caseless then some (.caseless low high)
  else some (.range low high)

/-- The complement of a set; without Unicode it would hold parts of characters and is
refused. -/
def Flags.complement? (flags : Flags) (s : CharSet) : Option CharSet :=
  if flags.unicode then some (.complement s) else none

/-- The set of several ranges. -/
def rangesSet (ranges : List (Char × Char)) : CharSet :=
  ranges.foldr (fun r s => .union (.range r.1.toNat r.2.toNat) s) .empty

/-- The set of the escapes `\d`, `\s` and `\w`. -/
def Flags.perlSet? (flags : Flags) (c : Char) : Option CharSet :=
  if flags.unicode then
    if c = 'd' then some .digit
    else if c = 's' then some .blank
    else if c = 'w' then some .word
    else none
  else if c = 'd' then some (rangesSet [('0', '9')])
  else if c = 's' then some (rangesSet [('\t', '\r'), (' ', ' ')])
  else if c = 'w' then some (rangesSet [('0', '9'), ('A', 'Z'), ('_', '_'), ('a', 'z')])
  else none

/-- The sets of the names in brackets and colons. -/
def namedRanges : List (String × List (Char × Char)) := [
  ("alnum", [('0', '9'), ('A', 'Z'), ('a', 'z')]),
  ("alpha", [('A', 'Z'), ('a', 'z')]),
  ("ascii", [('\x00', '\x7f')]),
  ("blank", [('\t', '\t'), (' ', ' ')]),
  ("cntrl", [('\x00', '\x1f'), ('\x7f', '\x7f')]),
  ("digit", [('0', '9')]),
  ("graph", [('!', '~')]),
  ("lower", [('a', 'z')]),
  ("print", [(' ', '~')]),
  ("punct", [('!', '/'), (':', '@'), ('[', '\x60'), ('\x7b', '~')]),
  ("space", [('\t', '\r'), (' ', ' ')]),
  ("upper", [('A', 'Z')]),
  ("word", [('0', '9'), ('A', 'Z'), ('_', '_'), ('a', 'z')]),
  ("xdigit", [('0', '9'), ('A', 'F'), ('a', 'f')])]

/-- A name without case, blanks, dashes and underscores. -/
def plainName (name : List Char) : List Char :=
  (name.filter fun c => c ≠ ' ' && c ≠ '-' && c ≠ '_').map Char.toLower

/-- The longer names of the general categories and of their groups. -/
def categoryNames : List (String × List String) := [
  ("letter", ["l"]), ("casedletter", ["lc"]), ("uppercaseletter", ["lu"]),
  ("lowercaseletter", ["ll"]), ("titlecaseletter", ["lt"]), ("modifierletter", ["lm"]),
  ("otherletter", ["lo"]), ("mark", ["m"]), ("combiningmark", ["m"]),
  ("nonspacingmark", ["mn"]), ("spacingmark", ["mc"]), ("enclosingmark", ["me"]),
  ("number", ["n"]), ("decimalnumber", ["nd"]), ("digit", ["nd"]),
  ("letternumber", ["nl"]), ("othernumber", ["no"]), ("punctuation", ["p"]),
  ("punct", ["p"]), ("connectorpunctuation", ["pc"]), ("dashpunctuation", ["pd"]),
  ("openpunctuation", ["ps"]), ("closepunctuation", ["pe"]),
  ("initialpunctuation", ["pi"]), ("finalpunctuation", ["pf"]),
  ("otherpunctuation", ["po"]), ("symbol", ["s"]), ("mathsymbol", ["sm"]),
  ("currencysymbol", ["sc"]), ("modifiersymbol", ["sk"]), ("othersymbol", ["so"]),
  ("separator", ["z"]), ("spaceseparator", ["zs"]), ("lineseparator", ["zl"]),
  ("paragraphseparator", ["zp"]), ("other", ["c"]), ("control", ["cc"]),
  ("cntrl", ["cc"]), ("format", ["cf"]), ("surrogate", ["cs"]), ("privateuse", ["co"]),
  ("unassigned", ["cn"])]

/-- The categories whose names start with a short name. -/
def categorySet? (short : List Char) : Option CharSet :=
  let members :=
    if short = ['l', 'c'] then [.lu, .ll, .lt]
    else Text.Category.all.filter fun k =>
      short.isPrefixOf (k.name.toList.map Char.toLower)
  if short.isEmpty || members.isEmpty then none
  else some (members.foldr (fun k s => .union (.category k) s) .empty)

/-- The set of a named property of characters. -/
def propertySet? (name : List Char) : Option CharSet :=
  let value := (name.reverse.takeWhile fun c => c ≠ '=' && c ≠ ':').reverse
  let plain := plainName value
  let word := String.ofList plain
  if word = "any" then some anyChar
  else if word = "ascii" then some (.range 0 0x7f)
  else if word = "alphabetic" ∨ word = "alpha" then some .letter
  else if word = "whitespace" ∨ word = "space" then some .blank
  else
    match categorySet? plain with
    | some s => some s
    | none =>
      match categoryNames.lookup word with
      | some (short :: _) => categorySet? short.toList
      | _ =>
        match Text.scripts.find? fun script => plainName script.1.toList = plain with
        | some script => some (.codes script.2)
        | none => none

/-- The value of hexadecimal digits, if they name a character. -/
def hexChar? (ds : List Char) : Option Nat :=
  let value? := ds.foldl
    (fun acc c => do
      let n ← acc
      let d ← Value.hexValue? c
      pure (n * 16 + d)) (some 0)
  match value? with
  | some n => if !ds.isEmpty && n.isValidChar then some n else none
  | none => none

/-- What an escape stands for. -/
inductive Escape where
  | code (n : Nat)
  | set (s : CharSet)
  | look (l : Look)

/-- A hexadecimal escape: digits in braces, or exactly `width` of them. -/
def readHex (width : Nat) (rest : List Char) : Option (Nat × List Char) :=
  match rest with
  | '\x7b' :: rest =>
    let ds := rest.takeWhile (· ≠ '\x7d')
    match rest.drop ds.length with
    | _ :: rest => (hexChar? ds).map fun n => (n, rest)
    | [] => none
  | _ =>
    let ds := rest.take width
    if ds.length = width then (hexChar? ds).map fun n => (n, rest.drop width) else none

/-- The letters of the names of word boundaries. -/
def isBoundaryNameChar (c : Char) : Bool := c.isAlpha || c = '-'

/-- A word boundary after `\b`, which may be followed by a name in braces. -/
def readBoundary (flags : Flags) (rest : List Char) : Option (Look × List Char) :=
  let ascii := !flags.unicode
  match rest with
  | '\x7b' :: c :: after =>
    if isBoundaryNameChar c then
      let name := (c :: after).takeWhile isBoundaryNameChar
      match (c :: after).drop name.length with
      | '\x7d' :: rest =>
        let word := String.ofList name
        if word = "start" then some (.words ascii (some false) (some true), rest)
        else if word = "end" then some (.words ascii (some true) (some false), rest)
        else if word = "start-half" then some (.words ascii (some false) none, rest)
        else if word = "end-half" then some (.words ascii none (some false), rest)
        else none
      | _ => none
    else some (.boundary ascii false, rest)
  | ['\x7b'] => none
  | _ => some (.boundary ascii false, rest)

/-- Read an escape after its backslash. -/
def readEscape (flags : Flags) : List Char → Option (Escape × List Char)
  | [] => none
  | c :: rest =>
    let ascii := !flags.unicode
    let lower := c.toLower
    if c = 'x' then (readHex 2 rest).map fun (n, rest) => (.code n, rest)
    else if c = 'u' then (readHex 4 rest).map fun (n, rest) => (.code n, rest)
    else if c = 'U' then (readHex 8 rest).map fun (n, rest) => (.code n, rest)
    else if lower = 'd' ∨ lower = 's' ∨ lower = 'w' then do
      let s ← flags.perlSet? lower
      let s ← if c = lower then some s else flags.complement? s
      pure (.set s, rest)
    else if lower = 'p' then
      if !flags.unicode then none
      else
        let (name, rest) :=
          match rest with
          | '\x7b' :: rest =>
            let name := rest.takeWhile (· ≠ '\x7d')
            (some name, rest.drop name.length)
          | c :: rest => (some [c], '\x7d' :: rest)
          | [] => (none, [])
        match name, rest with
        | some name, _ :: rest =>
          (propertySet? name).map fun s =>
          (.set (if c = 'p' then s else .complement s), rest)
        | _, _ => none
    else if c = 'b' then (readBoundary flags rest).map fun (l, rest) => (.look l, rest)
    else if c = 'B' then some (.look (.boundary ascii true), rest)
    else if c = 'A' then some (.look .textStart, rest)
    else if c = 'z' then some (.look .textEnd, rest)
    else if c = '<' then some (.look (.words ascii (some false) (some true)), rest)
    else if c = '>' then some (.look (.words ascii (some true) (some false)), rest)
    else if c = 'a' then some (.code 0x07, rest)
    else if c = 'f' then some (.code 0x0c, rest)
    else if c = 't' then some (.code 0x09, rest)
    else if c = 'n' then some (.code 0x0a, rest)
    else if c = 'r' then some (.code 0x0d, rest)
    else if c = 'v' then some (.code 0x0b, rest)
    else if c.toNat < 0x80 && !c.isAlphanum then some (.code c.toNat, rest)
    else none

/-- One item of a class: a character that can start a range, or a set. -/
inductive ClassItem where
  | code (n : Nat)
  | set (s : CharSet)

/-- Read one item of a class. -/
def readClassItem (flags : Flags) : List Char → Option (ClassItem × List Char)
  | [] => none
  | '\\' :: rest =>
    match readEscape flags rest with
    | some (.code n, rest) => some (.code n, rest)
    | some (.set s, rest) => some (.set s, rest)
    | _ => none
  | c :: rest => some (.code c.toNat, rest)

/-- Read an item of a class, or a range of characters. -/
def readClassRange (cur : Cursor) : Option (CharSet × Cursor) := do
  let (first, rest) ← readClassItem cur.flags cur.rest
  let cur := (cur.at_ rest).skip
  let single : Option (CharSet × Cursor) :=
    match first with
    | .code n => (cur.flags.range? n n).map fun s => (s, cur)
    | .set s => some (s, cur)
  match cur.rest with
  | [] => none
  | '-' :: after =>
    let after := ((cur.at_ after).skip).rest
    match after with
    | ']' :: _ => single
    | '-' :: _ => single
    | [] => none
    | _ => do
      let (second, rest) ← readClassItem cur.flags after
      match first, second with
      | .code low, .code high =>
        if low ≤ high then (cur.flags.range? low high).map fun s => (s, cur.at_ rest)
        else none
      | _, _ => none
  | _ => single

/-- Operations between the parts of a class. -/
inductive ClassOp where
  | inter
  | minus
  | differ

/-- Apply an operation that waits for its right side. -/
def applyOp (pending : Option (ClassOp × CharSet)) (right : CharSet) : CharSet :=
  match pending with
  | none => right
  | some (.inter, left) => .inter left right
  | some (.minus, left) => .inter left (.complement right)
  | some (.differ, left) =>
    .union (.inter left (.complement right)) (.inter right (.complement left))

/-- A named set `[:name:]`, without its first bracket. -/
def readNamedSet (flags : Flags) (rest : List Char) : Option (CharSet × List Char) :=
  match rest with
  | ':' :: rest =>
    let (negated, rest) :=
      match rest with
      | '^' :: rest => (true, rest)
      | _ => (false, rest)
    let name := rest.takeWhile (· ≠ ':')
    match rest.drop name.length, namedRanges.lookup (String.ofList name) with
    | ':' :: ']' :: rest, some ranges =>
      let set := ranges.foldr
        (fun r s =>
          .union (if flags.caseless then .caseless r.1.toNat r.2.toNat
            else .range r.1.toNat r.2.toNat) s) CharSet.empty
      if negated then (flags.complement? set).map fun s => (s, rest) else some (set, rest)
    | _, _ => none
  | _ => none

/-- The dashes at the start of a class, which stand for themselves. -/
def leadingDashes (cur : Cursor) (set : CharSet) : Nat → CharSet × Cursor
  | 0 => (set, cur)
  | fuel + 1 =>
    match cur.rest with
    | '-' :: rest =>
      leadingDashes (cur.at_ rest).skip (.union set (.range '-'.toNat '-'.toNat)) fuel
    | _ => (set, cur)

mutual

/-- Read a class after its opening bracket. -/
def readClass : Nat → Cursor → Option (CharSet × Cursor)
  | 0, _ => none
  | fuel + 1, cur =>
    let cur := cur.skip
    let (negated, cur) :=
      match cur.rest with
      | '^' :: rest => (true, (cur.at_ rest).skip)
      | _ => (false, cur)
    let (set, cur) :=
      match leadingDashes cur .empty cur.rest.length with
      | (.empty, cur) =>
        match cur.rest with
        | ']' :: rest =>
          ((.range ']'.toNat ']'.toNat : CharSet), (cur.at_ rest).skip)
        | _ => (.empty, cur)
      | other => other
    match readClassItems fuel none set cur with
    | some (set, cur) =>
      if negated then (cur.flags.complement? set).map fun s => (s, cur)
      else some (set, cur)
    | none => none

/-- Read the items of a class up to its closing bracket. -/
def readClassItems : Nat → Option (ClassOp × CharSet) → CharSet → Cursor →
    Option (CharSet × Cursor)
  | 0, _, _, _ => none
  | fuel + 1, pending, set, cur =>
    let cur := cur.skip
    match cur.rest with
    | [] => none
    | ']' :: rest => some (applyOp pending set, cur.at_ rest)
    | '[' :: rest =>
      match readNamedSet cur.flags rest with
      | some (named, rest) =>
          readClassItems fuel pending (.union set named) (cur.at_ rest)
      | none =>
        match readClass fuel (cur.at_ rest) with
        | some (inner, cur) => readClassItems fuel pending (.union set inner) cur
        | none => none
    | '&' :: '&' :: rest =>
      readClassItems fuel (some (.inter, applyOp pending set)) .empty (cur.at_ rest)
    | '-' :: '-' :: rest =>
      readClassItems fuel (some (.minus, applyOp pending set)) .empty (cur.at_ rest)
    | '~' :: '~' :: rest =>
      readClassItems fuel (some (.differ, applyOp pending set)) .empty (cur.at_ rest)
    | _ =>
      match readClassRange cur with
      | some (item, cur) => readClassItems fuel pending (.union set item) cur
      | none => none

end

/-- Change one flag. -/
def Flags.set? (flags : Flags) (c : Char) (on : Bool) : Option Flags :=
  if c = 'i' then some { flags with caseless := on }
  else if c = 'm' then some { flags with multiLine := on }
  else if c = 's' then some { flags with dotAll := on }
  else if c = 'U' then some { flags with swapGreed := on }
  else if c = 'u' then some { flags with unicode := on }
  else if c = 'x' then some { flags with verbose := on }
  else if c = 'R' then some { flags with returns := on }
  else none

/-- Read flags up to `:` or `)`; `seen` are those read so far, `negative` holds after a
dash and `dangling` right after it. -/
def readFlags (flags : Flags) (seen : List Char) (negative dangling : Bool) :
    List Char → Option (Flags × Bool × List Char)
  | [] => none
  | c :: rest =>
    if c = ':' ∨ c = ')' then
      if dangling then none else some (flags, !seen.isEmpty, c :: rest)
    else if c = '-' then
      if negative then none else readFlags flags ('-' :: seen) true true rest
    else if c ∈ seen then none
    else
      match flags.set? c (!negative) with
      | some flags => readFlags flags (c :: seen) negative false rest
      | none => none

/-- Whether a text is a name of a group. -/
def isGroupName : List Char → Bool
  | [] => false
  | c :: rest =>
    (c = '_' || Text.isLetter c) &&
      rest.all fun c =>
        c = '_' || c = '.' || c = '[' || c = ']' || Text.isLetter c || Text.isNumeral c

/-- A number in braces, with blanks around it; below `2 ^ 32`. -/
def readCount (s : List Char) : Option (Option Nat × List Char) :=
  let s := s.dropWhile Text.isBlank
  let ds := s.takeWhile Char.isDigit
  let rest := (s.drop ds.length).dropWhile Text.isBlank
  if ds.isEmpty then some (none, rest)
  else
    let n := Number.digitsValue ds
    if n < 0x100000000 then some (some n, rest) else none

/-- Read a counted repetition after its opening brace. -/
def readCounts (cur : Cursor) : Option (Nat × Option Nat × Cursor) := do
  let cur := cur.skip
  let (least, rest) ← readCount cur.rest
  let least ← least
  match rest with
  | '\x7d' :: rest => pure (least, some least, cur.at_ rest)
  | ',' :: rest =>
    match ((cur.at_ rest).skip).rest with
    | '\x7d' :: rest => pure (least, none, cur.at_ rest)
    | rest => do
      let (most, rest) ← readCount rest
      let most ← most
      match rest with
      | '\x7d' :: rest =>
          if least ≤ most then pure (least, some most, cur.at_ rest) else none
      | _ => none
  | _ => none

/-- Skip the mark of a reluctant repetition, which reaches the same places. -/
def Cursor.skipReluctant (cur : Cursor) : Cursor :=
  match cur.rest with
  | '?' :: rest => cur.at_ rest
  | _ => cur

/-- Read the repetitions after an item. -/
def readRepeats : Nat → Node → Cursor → Option (Node × Cursor)
  | 0, _, _ => none
  | fuel + 1, node, cur =>
    let cur := cur.skip
    match cur.rest with
    | '?' :: rest =>
        readRepeats fuel (.times 0 (some 1) node) (cur.at_ rest).skipReluctant
    | '*' :: rest => readRepeats fuel (.times 0 none node) (cur.at_ rest).skipReluctant
    | '+' :: rest => readRepeats fuel (.times 1 none node) (cur.at_ rest).skipReluctant
    | '\x7b' :: rest =>
      match readCounts (cur.at_ rest) with
      | some (least, most, cur) =>
          readRepeats fuel (.times least most node) cur.skip.skipReluctant
      | none => none
    | _ => some (node, cur)

/-- The set of the point: any character but the end of a line, unless the flags say
otherwise. -/
def Flags.dot? (flags : Flags) : Option CharSet :=
  if flags.dotAll then (if flags.unicode then some anyChar else none)
  else if flags.returns then
    flags.complement? (.union (.range 0x0a 0x0a) (.range 0x0d 0x0d))
  else flags.complement? (.range 0x0a 0x0a)

/-- The condition of `^`. -/
def Flags.caret (flags : Flags) : Look :=
  if !flags.multiLine then .textStart else if flags.returns then .returnLineStart
  else .lineStart

/-- The condition of `$`. -/
def Flags.dollar (flags : Flags) : Look :=
  if !flags.multiLine then .textEnd else if flags.returns then .returnLineEnd
  else .lineEnd

mutual

/-- Read alternatives up to the end of their group; `depth` counts the groups around
them. -/
def readAlternatives : Nat → Nat → Cursor → Option (Node × Cursor)
  | 0, _, _ => none
  | fuel + 1, depth, cur =>
    match readBranch fuel depth .empty cur with
    | some (node, cur) =>
      match cur.rest with
      | '|' :: rest =>
        match readAlternatives fuel depth (cur.at_ rest) with
        | some (other, cur) => some (.alt node other, cur)
        | none => none
      | _ => some (node, cur)
    | none => none

/-- Read items up to the end of an alternative, after those already read. -/
def readBranch : Nat → Nat → Node → Cursor → Option (Node × Cursor)
  | 0, _, _, _ => none
  | fuel + 1, depth, sofar, cur =>
    let cur := cur.skip
    match cur.rest with
    | [] => some (sofar, cur)
    | '|' :: _ => some (sofar, cur)
    | ')' :: _ => some (sofar, cur)
    | '?' :: _ => none
    | '*' :: _ => none
    | '+' :: _ => none
    | '\x7b' :: _ => none
    | '(' :: rest =>
      match readGroup fuel depth (cur.at_ rest) with
      | some (some node, cur) =>
        match readRepeats fuel node cur with
        | some (node, cur) => readBranch fuel depth (.seq sofar node) cur
        | none => none
      | some (none, cur) => readBranch fuel depth sofar cur
      | none => none
    | c :: rest =>
      let item? : Option (Node × Cursor) :=
        if c = '[' then (readClass fuel (cur.at_ rest)).map fun (s, cur) => (.one s, cur)
        else if c = '.' then cur.flags.dot?.map fun s => (.one s, cur.at_ rest)
        else if c = '^' then some (.look cur.flags.caret, cur.at_ rest)
        else if c = '$' then some (.look cur.flags.dollar, cur.at_ rest)
        else if c = '\\' then
          match readEscape cur.flags rest with
          | some (.code n, rest) =>
              (cur.flags.range? n n).map fun s => (.one s, cur.at_ rest)
          | some (.set s, rest) => some (.one s, cur.at_ rest)
          | some (.look l, rest) => some (.look l, cur.at_ rest)
          | none => none
        else (cur.flags.range? c.toNat c.toNat).map fun s => (.one s, cur.at_ rest)
      match item? with
      | some (node, cur) =>
        match readRepeats fuel node cur with
        | some (node, cur) => readBranch fuel depth (.seq sofar node) cur
        | none => none
      | none => none

/-- Read a group after its opening parenthesis.  A group that only sets flags has no
node; its flags hold up to the end of the group around it. -/
def readGroup : Nat → Nat → Cursor → Option (Option Node × Cursor)
  | 0, _, _ => none
  | fuel + 1, depth, cur =>
    let cur := cur.skip
    let body (inner : Cursor) : Option (Option Node × Cursor) :=
      if 250 ≤ depth then none
      else
        match readAlternatives fuel (depth + 1) inner with
        | some (node, after) =>
          match after.rest with
          | ')' :: rest => some (some node, ⟨cur.flags, after.names, rest⟩)
          | _ => none
        | none => none
    let named (rest : List Char) : Option (Option Node × Cursor) :=
      let name := rest.takeWhile (· ≠ '>')
      match rest.drop name.length with
      | _ :: rest =>
        let word := String.ofList name
        if isGroupName name && !cur.names.contains word then
          body ⟨cur.flags, word :: cur.names, rest⟩
        else none
      | [] => none
    match cur.rest with
    | '?' :: 'P' :: '<' :: rest => named rest
    | '?' :: '<' :: '=' :: _ => none
    | '?' :: '<' :: '!' :: _ => none
    | '?' :: '<' :: rest => named rest
    | '?' :: rest =>
      match readFlags cur.flags [] false false rest with
      | some (flags, any, ')' :: rest) =>
          if any then some (none, ⟨flags, cur.names, rest⟩) else none
      | some (flags, _, ':' :: rest) => body ⟨flags, cur.names, rest⟩
      | _ => none
    | _ => body cur

end

/-- The largest weight of a pattern. -/
def weightLimit : Nat := 400000

/-- Read the written form of a pattern. -/
def parse? (source : String) : Option Pattern :=
  let text := source.toList
  match readAlternatives (4 * text.length + 8) 0 ⟨{}, [], text⟩ with
  | some (node, cur) =>
    if cur.rest.isEmpty && node.weight ≤ weightLimit then some ⟨source, node⟩ else none
  | none => none

/-- Whether a pattern matches some part of a text. -/
def occursIn (p : Pattern) (text : String) : Bool := p.node.occursIn text.toList

end Pattern

end Turnstile

import Turnstile.Value.Basic

/-!
# Paths into documents

A path is a list of keys.  It descends through objects only: an array or a scalar has
nothing below it.  A key that holds null is still there.
-/

set_option autoImplicit false

namespace Turnstile.Value

/-- A list of keys. -/
abbrev Path := List String

/-- What the document holds at the end of a path. -/
def get? (document : Value) : Path → Option Value
  | [] => some document
  | key :: rest =>
    match document with
    | .obj fields =>
      match Dictionary.find? fields key with
      | some next => get? next rest
      | none => none
    | _ => none

/-- Whether the path leads somewhere. -/
def reaches (document : Value) (path : Path) : Bool := (document.get? path).isSome

/-- The value at a path, null when there is none. -/
def lookup (document : Value) (path : Path) : Value := (document.get? path).getD .null

/-- The segments of a dotted path; the empty text is one empty segment. -/
def splitDots : List Char → List (List Char)
  | [] => [[]]
  | c :: rest =>
    if c = '.' then [] :: splitDots rest
    else
      match splitDots rest with
      | segment :: more => (c :: segment) :: more
      | [] => [[c]]

/-- The path written with dots between its segments. -/
def Path.ofDotted (text : String) : Path := (splitDots text.toList).map String.ofList

/-- The dotted text of a path. -/
def Path.dotted (path : Path) : String := ".".intercalate path

/-- A dotted path with the leading namespace `metadata.` removed, if it has one. -/
def metadataRelative (text : String) : String :=
  let lead := "metadata.".toList
  if lead.isPrefixOf text.toList then String.ofList (text.toList.drop lead.length)
  else text

end Turnstile.Value

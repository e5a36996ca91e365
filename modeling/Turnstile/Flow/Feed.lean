import Turnstile.Value.Path
import Turnstile.Label
import Turnstile.Text.Names

/-!
# Feeds

A feed is a document outside the label that conditions can read.  It is fetched from a
URL in which every `{label}` stands for the label's name.
-/

set_option autoImplicit false

namespace Turnstile

/-- A named feed and the template of its URL. -/
structure Feed where
  name : String
  template : String
deriving DecidableEq, Repr

/-- Why a feed has no document. -/
inductive FeedError where
  | undeclared (name : String)
  | transport (url message : String)
  | status (url : String) (code : Nat)
  | invalidBody (url message : String)
deriving DecidableEq, Repr

/-- The name of a kind of feed error. -/
def FeedError.name : FeedError → String
  | .undeclared _ => "Undeclared"
  | .transport _ _ => "Transport"
  | .status _ _ => "Status"
  | .invalidBody _ _ => "InvalidBody"

/-- The wording of a feed error. -/
def FeedError.message : FeedError → String
  | .undeclared name => "Feed '" ++ name ++ "' is not declared by the state machine"
  | .transport url message => "Feed request to " ++ url ++ " failed: " ++ message
  | .status url code => "Feed " ++ url ++ " responded with status " ++ toString code
  | .invalidBody url message => "Feed " ++ url ++ " returned invalid JSON: " ++ message

namespace Feed

/-- What stands for the label's name in a template. -/
def placeholder : List Char := "\x7blabel\x7d".toList

/-- Replace every placeholder, from left to right; `skip` characters belong to one just
replaced. -/
def fill (name : List Char) (skip : Nat) : List Char → List Char
  | [] => []
  | c :: rest =>
    match skip with
    | skip + 1 => fill name skip rest
    | 0 =>
      if placeholder.isPrefixOf (c :: rest) then name ++
        fill name (placeholder.length - 1) rest
      else c :: fill name 0 rest

/-- The URL of a feed for a label. -/
def urlFor (feed : Feed) (label : Label) : String :=
  String.ofList (fill label.name.toList 0 feed.template.toList)

/-- The names of the feeds that dotted paths read, in increasing order. -/
def referenced (paths : List String) : List String :=
  Text.sortedNames <| paths.filterMap fun path =>
    match Value.Path.ofDotted path with
    | "feeds" :: name :: _ => some name
    | _ => none

end Feed

end Turnstile

import Turnstile.Pattern.Basic

/-!
# Matching

A text of `n` characters has `n + 1` places.  A set of places is a list of `n + 1`
booleans, and a pattern moves a set of places to the set of those that it can reach from
one of them.
-/

set_option autoImplicit false

namespace Turnstile.Pattern

/-- A set of places of a text. -/
abbrev Places := List Bool

/-- The neighbours of every place. -/
def neighbours (before : Option Char) : List Char → List (Option Char × Option Char)
  | [] => [(before, none)]
  | c :: rest => (before, some c) :: neighbours (some c) rest

/-- The places behind a character of a set. -/
def stepPlaces (s : CharSet) (text : List Char) (places : Places) : Places :=
  false :: List.zipWith (fun here c => here && s.contains c) places text

/-- The places of either set. -/
def unite (a b : Places) : Places := List.zipWith (· || ·) a b

/-- Apply a function a number of times. -/
def iterate (f : Places → Places) : Nat → Places → Places
  | 0, places => places
  | n + 1, places => if places.any id then iterate f n (f places) else places

/-- Add what a function reaches until nothing is added, at most a number of times. -/
def closure (f : Places → Places) : Nat → Places → Places
  | 0, places => places
  | n + 1, places =>
    let more := unite places (f places)
    if more = places then places else closure f n more

/-- The places a pattern reaches. -/
def Node.reach (text : List Char) : Node → Places → Places
  | .empty, places => places
  | .one s, places => stepPlaces s text places
  | .look l, places =>
    List.zipWith
      (fun here (n : Option Char × Option Char) => here && l.holds n.1 n.2) places
      (neighbours none text)
  | .seq a b, places => b.reach text (a.reach text places)
  | .alt a b, places => unite (a.reach text places) (b.reach text places)
  | .times least most n, places =>
    let base := iterate (n.reach text) least places
    let rounds :=
      match most with
      | some most => most - least
      | none => text.length + 1
    closure (n.reach text) rounds base

/-- Whether a pattern matches some part of a text. -/
def Node.occursIn (node : Node) (text : List Char) : Bool :=
  (node.reach text (List.replicate (text.length + 1) true)).any id

end Turnstile.Pattern

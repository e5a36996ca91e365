import Turnstile.Text.Classes
import Turnstile.Text.CaseFold

/-!
# Patterns

A pattern describes texts.  `CharSet` is a set of characters, `Look` a condition on a
place between two characters, and `Node` the tree of a pattern.
-/

set_option autoImplicit false

namespace Turnstile.Pattern

/-- A set of characters. -/
inductive CharSet where
  | empty
  /-- All code points from `low` to `high`. -/
  | range (low high : Nat)
  /-- All letters that differ from one of the range in case only. -/
  | caseless (low high : Nat)
  | digit
  | blank
  | word
  | category (c : Text.Category)
  | letter
  | codes (s : Text.CodeSet)
  | complement (s : CharSet)
  | union (a b : CharSet)
  | inter (a b : CharSet)

/-- Membership. -/
def CharSet.contains : CharSet → Char → Bool
  | .empty, _ => false
  | .range low high, c => low ≤ c.toNat && c.toNat ≤ high
  | .caseless low high, c =>
    (Text.caseVariants c.toNat).any fun v => low ≤ v && v ≤ high
  | .digit, c => Text.isDecimalDigit c
  | .blank, c => Text.isBlank c
  | .word, c => Text.isWordChar c
  | .category k, c => Text.Category.ofChar c == k
  | .letter, c => Text.isLetter c
  | .codes s, c => s.contains c.toNat
  | .complement s, c => !s.contains c
  | .union a b, c => a.contains c || b.contains c
  | .inter a b, c => a.contains c && b.contains c

/-- A condition on a place, given the characters before and after it. -/
inductive Look where
  | textStart
  | textEnd
  | lineStart
  | lineEnd
  /-- Line starts where lines may end in a carriage return and a line feed. -/
  | returnLineStart
  | returnLineEnd
  /-- The given kinds of characters before and after the place: `some true` for a word
  character, `some false` for none, `none` for either. -/
  | words (ascii : Bool) (before after : Option Bool)
  /-- A change between word characters and others, or with `negated` no change. -/
  | boundary (ascii negated : Bool)
deriving DecidableEq, Repr

/-- Whether a neighbour is a word character. -/
def isWordBeside (ascii : Bool) : Option Char → Bool
  | none => false
  | some c => if ascii then c.isAlphanum || c == '_' else Text.isWordChar c

/-- Whether a place satisfies the condition. -/
def Look.holds (look : Look) (before after : Option Char) : Bool :=
  match look with
  | .textStart => before.isNone
  | .textEnd => after.isNone
  | .lineStart => before.isNone || before == some '\n'
  | .lineEnd => after.isNone || after == some '\n'
  | .returnLineStart =>
    before.isNone || before == some '\n' || (before == some '\r' && after != some '\n')
  | .returnLineEnd =>
    after.isNone || after == some '\r' || (after == some '\n' && before != some '\r')
  | .words ascii wantBefore wantAfter =>
    (match wantBefore with
      | some want => isWordBeside ascii before == want
      | none => true) &&
    (match wantAfter with
      | some want => isWordBeside ascii after == want
      | none => true)
  | .boundary ascii negated =>
    (isWordBeside ascii before != isWordBeside ascii after) != negated

/-- The tree of a pattern. -/
inductive Node where
  | empty
  | one (s : CharSet)
  | look (l : Look)
  | seq (a b : Node)
  | alt (a b : Node)
  /-- At least `least` and, if there is a bound, at most `most` times. -/
  | times (least : Nat) (most : Option Nat) (n : Node)

/-- How large the tree is once repetitions are written out. -/
def Node.weight : Node → Nat
  | .empty => 1
  | .one _ => 1
  | .look _ => 1
  | .seq a b => a.weight + b.weight
  | .alt a b => a.weight + b.weight + 1
  | .times least most n => n.weight * (max 1 (max least (most.getD 0))) + 1

end Turnstile.Pattern

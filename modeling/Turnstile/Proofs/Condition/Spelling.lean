import Mathlib
import Turnstile.Proofs.Condition.Lexeme
import Turnstile.Proofs.Condition.Reading

/-!
# Spellings

`Spells` relates a text to the kinds of the tokens that it spells: lexemes behind gaps,
apart from what follows them.  These are the texts that are scanned without a flaw
(`spells_iff`).

Spellings do not depend on where they stand, and a newline keeps them apart
(`Spells.newline`), whatever comment, word or operator ends the first.  Lexemes with
gaps between them are a spelling of their kinds (`spells_woven`).
-/

set_option autoImplicit false

namespace Turnstile.Condition

open Text (bytes isBlank)

/-- A text spells the kinds of its tokens. -/
inductive Spells : List Char → List Token.Kind → Prop
  | done {text : List Char} (h : LastGap text) : Spells text []
  | token {gap lexeme rest : List Char} {kind : Token.Kind} {more : List Token.Kind}
      (hgap : Gap gap) (h : Lexeme lexeme kind) (hapart : Apart lexeme rest)
      (hrest : Spells rest more) :
      Spells (gap ++ (lexeme ++ rest)) (kind :: more)

section

variable {text rest : List Char} {words more : List Token.Kind}

/-! ## Scans and spellings -/

/-- A text that was scanned spells its tokens. -/
theorem Scanned.spells {position : Nat} {scan : Scan} (h : Scanned position text scan)
    (hflaw : scan.flaw = none) : Spells text (kinds scan.tokens) := by
  induction h with
  | done h => exact .done h
  | flaw => cases hflaw
  | token hgap h hapart _ ih => exact .token hgap h hapart (ih hflaw)

/-- A text that spells words is scanned as them. -/
theorem Spells.scanFrom (h : Spells text words) (position : Nat) :
    (scanFrom position text).flaw = none ∧
    kinds (scanFrom position text).tokens = words := by
  induction h generalizing position with
  | done h =>
      rw [scanFrom_lastGap h]
      exact ⟨rfl, rfl⟩
  | @token gap lexeme rest kind more hgap h hapart _ ih =>
      rw [scanFrom_gap hgap, scanFrom_lexeme h hapart]
      obtain ⟨hflaw, hkinds⟩ := ih (position + bytes gap + bytes lexeme)
      exact ⟨hflaw, congrArg (kind :: ·) hkinds⟩

/-- A text spells what it is scanned as. -/
theorem spells_iff {source : String} : Spells source.toList words ↔
    (scan source).flaw = none ∧ kinds (scan source).tokens = words := by
  constructor
  · exact fun h => h.scanFrom 0
  · rintro ⟨hflaw, rfl⟩
    exact Scanned.spells (scanned_scanFrom 0 source.toList) hflaw

/-! ## Spellings in sequence -/

/-- A gap before the words spells nothing. -/
theorem Spells.skip {gap : List Char} (hgap : Gap gap) (h : Spells text words) :
    Spells (gap ++ text) words := by
  cases h with
  | done h => exact .done (LastGap.append hgap h)
  | token hmore h hapart hrest =>
      rw [← List.append_assoc]
      exact .token (hgap.append hmore) h hapart hrest

/-- A lexeme in front. -/
theorem Spells.cons {lexeme : List Char} {kind : Token.Kind} (h : Lexeme lexeme kind)
    (hapart : Apart lexeme text) (hrest : Spells text words) :
    Spells (lexeme ++ text) (kind :: words) :=
  .token .nil h hapart hrest

/-- **Newlines.**  After a newline a spelling goes on with another. -/
theorem Spells.newline (h : Spells text words) (hrest : Spells rest more) :
    Spells (text ++ '\n' :: rest) (words ++ more) := by
  induction h with
  | @done text h =>
      have hsplit : text ++ '\n' :: rest = (text ++ ['\n']) ++ rest := by simp
      rw [hsplit]
      exact hrest.skip h.newline
  | @token gap lexeme text kind words hgap h hapart _ ih =>
      rw [List.append_assoc, List.append_assoc]
      refine .token hgap h ?_ ih
      cases text with
      | nil =>
          refine .of_gap ?_
          rintro next ⟨rfl⟩
          exact .inl rfl
      | cons c text => exact hapart

/-- A text in parentheses on their own lines, behind some negations. -/
def grouped : Nat → List Char → List Char
  | 0, text => '(' :: (text ++ ['\n', ')'])
  | negations + 1, text => ['n', 'o', 't', ' '] ++ grouped negations text

/-- Parentheses and negations are spelled around the words. -/
theorem Spells.grouped (h : Spells text words) (negations : Nat) :
    Spells (grouped negations text)
      (List.replicate negations .not ++ .leftParen :: (words ++ [.rightParen])) := by
  have hparen : ∀ {rest : List Char}, Apart [')'] rest ∧ Apart ['('] rest := by
    intro rest
    constructor <;> (rintro first ⟨rfl⟩ next -; rfl)
  induction negations with
  | zero =>
      have hclose : Spells ([')'] ++ []) [.rightParen] :=
        .cons .rightParen hparen.1 (.done (.gap .nil))
      exact .cons .leftParen hparen.2 (h.newline hclose)
  | succ negations ih =>
      have hletters : ∀ d ∈ ['n', 'o', 't'], isWordChar d = true := by
        simp only [List.forall_mem_cons]
        exact ⟨rfl, rfl, rfl, by simp⟩
      have hword : Lexeme ['n', 'o', 't'] .not := .word hletters (by cbv)
      have hblank : Spells ([' '] ++ Condition.grouped negations text)
          (List.replicate negations .not ++ .leftParen :: (words ++ [.rightParen])) :=
        ih.skip (.blank rfl .nil)
      have hapart :
          Apart ['n', 'o', 't'] ([' '] ++ Condition.grouped negations text) := by
        rintro first ⟨rfl⟩ next ⟨rfl⟩
        rfl
      have hnot := Spells.cons hword hapart hblank
      exact hnot

end

/-! ## Lexemes with gaps between them -/

/-- Texts with a gap before each of them, and a last gap. -/
def woven : List (List Char × String) → List Char → List Char
  | [], last => last
  | (gap, text) :: more, last => gap ++ (text.toList ++ woven more last)

/-- Blanks and comments stand before texts and after them; before the first one and
after the last one there may be none. -/
structure Spaced (pieces : List (List Char × String)) (last : List Char) : Prop where
  gaps : ∀ piece ∈ pieces, Gap piece.1
  between : ∀ piece ∈ pieces.tail, piece.1 ≠ []
  last : LastGap last

section

variable {pieces : List (List Char × String)} {last : List Char}

/-- The pieces after the first are spaced. -/
theorem Spaced.rest {piece : List Char × String} (h : Spaced (piece :: pieces) last) :
    Spaced pieces last where
  gaps other hother := h.gaps other (List.mem_cons_of_mem _ hother)
  between other hother := h.between other (List.mem_of_mem_tail hother)
  last := h.last

/-- What follows a text begins with a gap. -/
theorem Spaced.head {piece : List Char × String} (h : Spaced (piece :: pieces) last) :
    ∀ next ∈ (woven pieces last).head?, isBlank next = true ∨ next = '#' := by
  intro next hnext
  cases pieces with
  | nil => exact h.last.head hnext
  | cons other more =>
      obtain ⟨gap, text⟩ := other
      have hgap : Gap gap := h.gaps (gap, text) (by simp)
      obtain ⟨c, rest, rfl⟩ :=
        List.exists_cons_of_ne_nil (h.between (gap, text) (by simp))
      exact (LastGap.gap hgap).head hnext

/-- **Layout.**  Lexemes with gaps between them spell their kinds. -/
theorem spells_woven {words : List Token.Kind} (h : Spaced pieces last)
    (hwords : List.Forall₂ (fun piece kind => Lexeme piece.2.toList kind) pieces words) :
    Spells (woven pieces last) words := by
  induction hwords with
  | nil => exact .done h.last
  | @cons piece kind pieces words hlexeme _ ih =>
      exact .token (h.gaps piece List.mem_cons_self) hlexeme (.of_gap h.head) (ih h.rest)

end

/-- The texts of the tokens of a source are lexemes of their kinds. -/
theorem lexemes_scan (source : String) :
    List.Forall₂ (fun text kind => Lexeme text.toList kind)
      ((scan source).tokens.map Token.text) (kinds (scan source).tokens) := by
  rw [kinds, List.forall₂_map_left_iff, List.forall₂_map_right_iff, List.forall₂_same]
  exact (scanned_scanFrom 0 source.toList).lexemes

/-- Texts are lexemes of one list of kinds only. -/
theorem lexemes_unique {texts : List String} {first second : List Token.Kind}
    (hfirst : List.Forall₂ (fun text kind => Lexeme text.toList kind) texts first)
    (hsecond : List.Forall₂ (fun text kind => Lexeme text.toList kind) texts second) :
    first = second := by
  have hunique :
      Relator.RightUnique fun (text : String) kind => Lexeme text.toList kind :=
    fun text kind other h hother => h.unique hother
  exact List.right_unique_forall₂' hunique hfirst hsecond

end Turnstile.Condition

import Mathlib
import Turnstile.Proofs.Condition.Lexeme
import Turnstile.Proofs.Condition.Reads

/-!
# Scans lose nothing

The tokens of a source are what stands at their extents, in order and without overlap,
and between them there are only gaps; a flaw stands behind the last token.  Extents
count bytes and lie between characters, whatever the characters (`scan_lossless`).

Both follow from the structure of scans (`Scanned`): what stands somewhere in the rest
of a text stands in the whole text, further on by what comes before the rest
(`Stands.shift`).
-/

set_option autoImplicit false

namespace Turnstile

namespace Text

/-! ## Slices -/

/-- A byte position between two characters of a text, or at one of its ends. -/
def IsBoundary (text : List Char) (position : Nat) : Prop :=
  ∃ before after, text = before ++ after ∧ bytes before = position

/-- The part of a text between two byte positions. -/
def slice (text : List Char) (start stop : Nat) : List Char :=
  (cut (cut text stop).1 start).2

/-- A cut where a part ends gives the part. -/
theorem cut_bytes (before after : List Char) :
    cut (before ++ after) (bytes before) = (before, after) := by
  induction before with
  | nil =>
      cases after with
      | nil => rfl
      | cons c rest =>
          have := c.utf8Size_pos
          rw [List.nil_append, cut, if_neg (by simp only [bytes]; omega)]
  | cons c rest ih =>
      rw [List.cons_append, cut, if_pos (by simp only [bytes]; omega)]
      simp only [bytes, Nat.add_sub_cancel_left, ih]

/-- The slice between the bytes before a part and those up to its end is the part. -/
theorem slice_bytes (before part after : List Char) :
    slice (before ++ (part ++ after)) (bytes before) (bytes before + bytes part) =
      part := by
  rw [slice, ← bytes_append, ← List.append_assoc, cut_bytes, cut_bytes]

/-- Text that is not empty has bytes. -/
theorem bytes_pos {text : List Char} (h : text ≠ []) : 0 < bytes text := by
  obtain ⟨c, rest, rfl⟩ := List.exists_cons_of_ne_nil h
  have := c.utf8Size_pos
  simp only [bytes]
  omega

/-- A boundary lies within the text. -/
theorem IsBoundary.le {text : List Char} {position : Nat} (h : IsBoundary text position) :
    position ≤ bytes text := by
  obtain ⟨before, after, rfl, rfl⟩ := h
  rw [bytes_append]
  exact Nat.le_add_right _ _

end Text

namespace Condition

open Text (bytes bytes_append IsBoundary slice)
open Value (Path)

/-! ## Words -/

/-- Segments hold no dots. -/
theorem dot_notMem_splitDots {word segment : List Char}
    (h : segment ∈ Value.splitDots word) :
    '.' ∉ segment := by
  fun_induction Value.splitDots word generalizing segment with
  | case1 => simp_all
  | case2 rest ih =>
      rcases List.mem_cons.1 h with rfl | hrest
      · simp
      · exact ih hrest
  | case3 c rest hdot first more hrest ih =>
      rcases List.mem_cons.1 h with rfl | hmore
      · have := ih (hrest ▸ List.mem_cons_self)
        simp [this, Ne.symm hdot]
      · exact ih (hrest ▸ List.mem_cons_of_mem _ hmore)
  | case4 c rest hdot hrest => exact absurd hrest (Value.splitDots_ne_nil rest)

/-- No keyword is a string. -/
theorem keyword?_ne_string {word text : String} :
    keyword? word ≠ some (.literal (.str text)) := by
  unfold keyword?
  repeat' split
  all_goals simp

/-- No word is a string. -/
theorem ofWord?_ne_string {word : List Char} {text : String} :
    Token.Kind.ofWord? word ≠ some (.literal (.str text)) := by
  intro h
  simp only [Token.Kind.ofWord?] at h
  split at h
  · cases h
  split at h
  · cases h
  split at h
  · cases h
  split at h
  next kind hkind =>
    cases h
    exact absurd hkind keyword?_ne_string
  next => split at h <;> cases h

/-- A word is the text of an identifier, and its segments are what stands between the
dots. -/
theorem Lexeme.segments {text : List Char} {path : Path} (h : Lexeme text (.atom path)) :
    Path.dotted path = String.ofList text ∧
      ∀ segment ∈ path, segment ≠ "" ∧ '.' ∉ segment.toList := by
  cases h with
  | @word c rest kind h hkind =>
      obtain ⟨rfl, hempty⟩ := atom_of_ofWord? hkind
      constructor
      · rw [← Value.toList_dotted_splitDots (c :: rest), String.ofList_toList]
        simp only [Value.toList_dotted_splitDots]
      · intro segment hsegment
        obtain ⟨letters, hletters, rfl⟩ := List.mem_map.1 hsegment
        refine ⟨fun heq => ?_, by simpa using dot_notMem_splitDots hletters⟩
        have : letters = [] := by simpa using congrArg String.toList heq
        exact hempty (this ▸ hletters)

/-- A string is its text without the quotes. -/
theorem Lexeme.unquoted {text : List Char} {content : String}
    (h : Lexeme text (.literal (.str content))) :
    String.ofList text = "\"" ++ content ++ "\"" := by
  generalize hkind : Token.Kind.literal (.str content) = kind at h
  cases h with
  | @string body h =>
      cases hkind
      apply String.toList_inj.1
      simp
  | word _ hword => exact absurd (hkind ▸ hword) ofWord?_ne_string
  | _ => cases hkind

/-! ## Places -/

/-- A part of a text that starts at a byte position stands at an extent. -/
def Stands (position : Nat) (text part : List Char) (extent : Extent) : Prop :=
  ∃ before after, text = before ++ (part ++ after) ∧
    extent = ⟨position + bytes before, position + bytes before + bytes part⟩

section

variable {position : Nat} {text part : List Char} {extent : Extent} {scan : Scan}

/-- What stands in the rest of a text stands in the text. -/
theorem Stands.shift {first : List Char}
    (h : Stands (position + bytes first) text part extent) :
    Stands position (first ++ text) part extent := by
  obtain ⟨before, after, rfl, rfl⟩ := h
  refine ⟨first ++ before, after, by rw [List.append_assoc], ?_⟩
  rw [bytes_append, Nat.add_assoc position]

/-- A part starts at or after the position from which it is looked for. -/
theorem Stands.le_start (h : Stands position text part extent) :
    position ≤ extent.start := by
  obtain ⟨before, after, rfl, rfl⟩ := h
  exact Nat.le_add_right _ _

/-- A part that is not empty ends after its start. -/
theorem Stands.start_lt (h : Stands position text part extent) (hpart : part ≠ []) :
    extent.start < extent.stop := by
  obtain ⟨before, after, rfl, rfl⟩ := h
  have := Text.bytes_pos hpart
  dsimp only
  omega

/-- No part ends before its start. -/
theorem Stands.start_le (h : Stands position text part extent) :
    extent.start ≤ extent.stop := by
  obtain ⟨before, after, rfl, rfl⟩ := h
  exact Nat.le_add_right _ _

/-- A part starts and ends between characters. -/
theorem Stands.boundary (h : Stands 0 text part extent) :
    IsBoundary text extent.start ∧ IsBoundary text extent.stop := by
  obtain ⟨before, after, rfl, rfl⟩ := h
  refine ⟨⟨before, part ++ after, rfl, (Nat.zero_add _).symm⟩,
    ⟨before ++ part, after, ?_, ?_⟩⟩
  · rw [List.append_assoc]
  · rw [bytes_append, Nat.zero_add]

/-- What stands at an extent is the slice there. -/
theorem Stands.slice_eq (h : Stands 0 text part extent) :
    slice text extent.start extent.stop = part := by
  obtain ⟨before, after, rfl, rfl⟩ := h
  rw [Nat.zero_add]
  exact Text.slice_bytes before part after

/-! ## Tokens and gaps -/

/-- The extents before the first token, which a position begins, and between one token
and the next. -/
def gapsFrom (position : Nat) : List Token → List Extent
  | [] => []
  | token :: rest => ⟨position, token.extent.start⟩ :: gapsFrom token.extent.stop rest

/-- Where the last token ends, or the position if there is none. -/
def stopFrom (position : Nat) : List Token → Nat
  | [] => position
  | token :: rest => stopFrom token.extent.stop rest

/-- The text of a token stands at its extent. -/
theorem Scanned.stands (h : Scanned position text scan) :
    ∀ token ∈ scan.tokens, Stands position text token.text.toList token.extent := by
  induction h with
  | done => exact fun token htoken => absurd htoken List.not_mem_nil
  | flaw => exact fun token htoken => absurd htoken List.not_mem_nil
  | @token position gap lexeme rest kind scan _ _ _ _ ih =>
      intro token htoken
      rcases List.mem_cons.1 htoken with rfl | hrest
      · exact ⟨gap, rest, by rw [String.toList_ofList], by rw [String.toList_ofList]⟩
      · exact (ih token hrest).shift.shift

/-- Tokens follow each other. -/
theorem Scanned.ordered (h : Scanned position text scan) :
    scan.tokens.Pairwise fun first second => first.extent.stop ≤ second.extent.start := by
  induction h with
  | done => exact .nil
  | flaw => exact .nil
  | token _ _ _ hrest ih =>
      exact .cons (fun token htoken => (hrest.stands token htoken).le_start) ih

/-- Before and between the tokens there are gaps. -/
theorem Scanned.gaps (h : Scanned position text scan) :
    ∀ extent ∈ gapsFrom position scan.tokens,
    ∃ gap, Gap gap ∧ Stands position text gap extent := by
  induction h with
  | done => exact fun extent hextent => absurd hextent List.not_mem_nil
  | flaw => exact fun extent hextent => absurd hextent List.not_mem_nil
  | @token position gap lexeme rest kind scan hgap _ _ _ ih =>
      intro extent hextent
      rcases List.mem_cons.1 hextent with rfl | hrest
      · exact ⟨gap, hgap, [], lexeme ++ rest, rfl, rfl⟩
      · obtain ⟨other, hother, hstands⟩ := ih extent hrest
        exact ⟨other, hother, hstands.shift.shift⟩

/-- After the last token there is the last gap, if there is no flaw. -/
theorem Scanned.last (h : Scanned position text scan) (hflaw : scan.flaw = none) :
    ∃ gap, LastGap gap ∧
      Stands position text gap
        ⟨stopFrom position scan.tokens, position + bytes text⟩ := by
  induction h with
  | @done position text h => exact ⟨text, h, [], [], by simp, rfl⟩
  | flaw => cases hflaw
  | @token position gap lexeme rest kind scan _ _ _ _ ih =>
      obtain ⟨other, hother, hstands⟩ := ih hflaw
      have hstop : position + bytes (gap ++ (lexeme ++ rest)) =
          position + bytes gap + bytes lexeme + bytes rest := by
        simp only [bytes_append]
        omega
      exact ⟨other, hother, hstop ▸ hstands.shift.shift⟩

/-- A flaw stands behind the last token and a gap. -/
theorem Scanned.flawed {d : Diagnostic} (h : Scanned position text scan)
    (hflaw : scan.flaw = some d) :
    ∃ gap part, Gap gap ∧ part ≠ [] ∧
      Stands position text gap ⟨stopFrom position scan.tokens, d.extent.start⟩ ∧
      Stands position text part d.extent := by
  induction h with
  | done => cases hflaw
  | @flaw position gap part rest flaw hgap hpart =>
      cases hflaw
      exact ⟨gap, part, hgap, hpart, ⟨[], part ++ rest, rfl, rfl⟩, ⟨gap, rest, rfl, rfl⟩⟩
  | @token position gap lexeme rest kind scan _ _ _ _ ih =>
      obtain ⟨other, part, hother, hpart, hgap, hstands⟩ := ih hflaw
      exact ⟨other, part, hother, hpart, hgap.shift.shift, hstands.shift.shift⟩

end

/-! ## Nothing is lost -/

/-- What a scan yields, one after the other. -/
def Scan.items (scan : Scan) : List (Except Diagnostic Token) :=
  scan.tokens.map .ok ++ scan.flaw.toList.map .error

/-- After a flaw nothing is yielded. -/
theorem Scan.items_error {scan : Scan} {before after : List (Except Diagnostic Token)}
    {d : Diagnostic} (h : scan.items = before ++ .error d :: after) : after = [] := by
  have hnone : ∀ rest, scan.tokens.map Except.ok ≠ before ++ .error d :: rest := by
    intro rest heq
    have :
        (.error d : Except Diagnostic Token) ∈ scan.tokens.map Except.ok := by simp [heq]
    simp at this
  by_contra hafter
  unfold Scan.items at h
  cases hflaw : scan.flaw with
  | none => exact hnone after (by simpa [hflaw] using h)
  | some flaw =>
      rw [hflaw, ← List.dropLast_append_getLast hafter] at h
      have hlast : scan.tokens.map Except.ok ++ [.error flaw] =
          before ++ .error d :: after.dropLast ++ [after.getLast hafter] := by
        rw [List.append_assoc]
        exact h
      exact hnone after.dropLast (List.append_inj_left' hlast rfl)

/-- A scan of a source that loses nothing of it. -/
structure Scan.Lossless (source : List Char) (scan : Scan) : Prop where
  /-- Tokens are not empty. -/
  nonempty : ∀ token ∈ scan.tokens, token.extent.start < token.extent.stop
  /-- Tokens follow each other and do not overlap. -/
  ordered :
    scan.tokens.Pairwise fun first second => first.extent.stop ≤ second.extent.start
  boundaries : ∀ token ∈ scan.tokens,
    IsBoundary source token.extent.start ∧ IsBoundary source token.extent.stop
  /-- A token has the text at its extent. -/
  texts : ∀ token ∈ scan.tokens,
    token.text = String.ofList (slice source token.extent.start token.extent.stop)
  /-- There are only gaps before the first token and between the tokens. -/
  gaps : ∀ extent ∈ gapsFrom 0 scan.tokens, Gap (slice source extent.start extent.stop)
  /-- Without a flaw there is only a gap after the last token. -/
  rest : scan.flaw = none → LastGap (slice source (stopFrom 0 scan.tokens) (bytes source))
  /-- The segments of an identifier, joined with dots, are its text. -/
  segments : ∀ token ∈ scan.tokens, ∀ path, token.kind = .atom path →
    Path.dotted path = token.text ∧ ∀ segment ∈ path, segment ≠ "" ∧ '.' ∉ segment.toList
  /-- A string stands in quotes. -/
  strings : ∀ token ∈ scan.tokens, ∀ content, token.kind = .literal (.str content) →
    token.text = "\"" ++ content ++ "\""
  /-- A flaw comes last, and once. -/
  once : ∀ before d after, scan.items = before ++ .error d :: after → after = []
  /-- A flaw lies in the source, after the last token and a gap. -/
  flaw : ∀ d, scan.flaw = some d →
    IsBoundary source d.extent.start ∧ IsBoundary source d.extent.stop ∧
      d.extent.start < d.extent.stop ∧ d.extent.stop ≤ bytes source ∧
      stopFrom 0 scan.tokens ≤ d.extent.start ∧
      Gap (slice source (stopFrom 0 scan.tokens) d.extent.start)

/-- **Nothing is lost.**  The tokens of any source, its gaps and its flaw are what
stands in it, each at its extent. -/
theorem scan_lossless (source : String) : (scan source).Lossless source.toList := by
  have hscanned : Scanned 0 source.toList (scan source) :=
    scanned_scanFrom 0 source.toList
  constructor
  case nonempty =>
    intro token htoken
    exact (hscanned.stands token htoken).start_lt (hscanned.lexemes token htoken).ne_nil
  case ordered => exact hscanned.ordered
  case boundaries => exact fun token htoken => (hscanned.stands token htoken).boundary
  case texts =>
    intro token htoken
    rw [(hscanned.stands token htoken).slice_eq, String.ofList_toList]
  case gaps =>
    intro extent hextent
    obtain ⟨gap, hgap, hstands⟩ := hscanned.gaps extent hextent
    exact hstands.slice_eq ▸ hgap
  case rest =>
    intro hflaw
    obtain ⟨gap, hgap, hstands⟩ := hscanned.last hflaw
    rw [Nat.zero_add] at hstands
    exact hstands.slice_eq ▸ hgap
  case segments =>
    intro token htoken path hkind
    have hlexeme := hscanned.lexemes token htoken
    rw [hkind] at hlexeme
    exact String.ofList_toList (s := token.text) ▸ hlexeme.segments
  case strings =>
    intro token htoken content hkind
    have hlexeme := hscanned.lexemes token htoken
    rw [hkind] at hlexeme
    exact String.ofList_toList (s := token.text) ▸ hlexeme.unquoted
  case once => exact fun before d after h => Scan.items_error h
  case flaw =>
    intro d hflaw
    obtain ⟨gap, part, hgap, hpart, hbefore, hstands⟩ := hscanned.flawed hflaw
    obtain ⟨hstart, hstop⟩ := hstands.boundary
    exact ⟨hstart, hstop, hstands.start_lt hpart, hstop.le, hbefore.start_le,
      hbefore.slice_eq ▸ hgap⟩

end Condition

end Turnstile

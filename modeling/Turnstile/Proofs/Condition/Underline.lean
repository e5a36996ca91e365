import Mathlib
import Turnstile.Proofs.Condition.Lossless

/-!
# Underlines lie within their line

A message is shown under the line in which its extent starts.  The line, the caret and
the marks are described by the parts of the source around the extent (`Around`),
whatever the extent: it may lie beyond the source, run backwards or start within a
character.

The same text can be put together from byte positions alone (`renderSliced?`): the ends
of the extent are moved to places between characters, newlines are looked for on both
sides, and what is shown is sliced out of the source.  A slice between other places
would be no text, but there is never one (`Around.renderSliced?_eq`).
-/

set_option autoImplicit false

namespace Turnstile

namespace Text

/-! ## Places between characters -/

variable {text before part after line : List Char} {position limit start stop : Nat}

/-- A cut comes where it is asked for just between characters. -/
theorem isBoundary_iff :
    IsBoundary text position ↔ bytes (cut text position).1 = position := by
  constructor
  · rintro ⟨before, after, rfl, rfl⟩
    rw [cut_bytes]
  · intro h
    exact ⟨_, _, (cut_append text position).symm, h⟩

instance (text : List Char) (position : Nat) : Decidable (IsBoundary text position) :=
  decidable_of_iff _ isBoundary_iff.symm

/-- A text is cut between characters. -/
theorem isBoundary_cut (text : List Char) (position : Nat) :
    IsBoundary text (bytes (cut text position).1) :=
  ⟨_, _, (cut_append text position).symm, rfl⟩

/-- A cut comes at the last place between characters up to the position. -/
theorem IsBoundary.le_cut (h : IsBoundary text position) (hle : position ≤ limit) :
    position ≤ bytes (cut text limit).1 := by
  obtain ⟨before, after, rfl, rfl⟩ := h
  induction before generalizing limit with
  | nil => exact Nat.zero_le _
  | cons c before ih =>
      simp only [bytes] at hle ⊢
      rw [List.cons_append, cut, if_pos (by omega)]
      have hrest : bytes before ≤ bytes (cut (before ++ after) (limit - c.utf8Size)).1 :=
        ih (by omega)
      simp only [bytes]
      omega

/-- A cut behind a first part cuts the rest. -/
theorem cut_behind (h : bytes before ≤ limit) (after : List Char) :
    (cut (before ++ after) limit).1 = before ++ (cut after (limit - bytes before)).1 := by
  induction before generalizing limit with
  | nil => rfl
  | cons c before ih =>
      simp only [bytes] at h
      have hlimit : limit - bytes (c :: before) = limit - c.utf8Size - bytes before := by
        simp only [bytes]
        omega
      rw [List.cons_append, cut, if_pos (by omega), hlimit]
      exact congrArg (c :: ·) (ih (by omega))

/-- A cut within a first part does not see the rest. -/
theorem cut_within (h : limit ≤ bytes before) (after : List Char) :
    (cut (before ++ after) limit).1 = (cut before limit).1 := by
  induction before generalizing limit with
  | nil =>
      obtain rfl : limit = 0 := Nat.le_zero.1 h
      simpa [bytes, cut] using congrArg Prod.fst (cut_bytes [] after)
  | cons c before ih =>
      simp only [bytes] at h
      rw [List.cons_append, cut, cut]
      split
      · exact congrArg (c :: ·) (ih (by omega))
      · rfl

/-- Beyond the end a cut comes at the end. -/
theorem cut_min (text : List Char) (limit : Nat) :
    (cut text (min limit (bytes text))).1 = (cut text limit).1 := by
  rcases Nat.le_total limit (bytes text) with hle | hle
  · rw [min_eq_left hle]
  · have hend := cut_behind hle []
    rw [List.append_nil] at hend
    rw [min_eq_right hle, hend]
    simpa [cut] using congrArg Prod.fst (cut_bytes text [])

/-- A cut between the ends of a part cuts the part. -/
theorem cut_between (before part after : List Char) (position : Nat) :
    (cut (before ++ (part ++ after))
        (max (bytes before) (min position (bytes before + bytes part)))).1 =
      before ++ (cut part (position - bytes before)).1 := by
  have hlimit :
    max (bytes before) (min position (bytes before + bytes part)) - bytes before =
      min (position - bytes before) (bytes part) := by omega
  rw [cut_behind (le_max_left _ _), hlimit, cut_within (min_le_right _ _), cut_min]

/-- It is cut at the last boundary up to the limit. -/
theorem isGreatest_cut (text : List Char) (limit : Nat) :
    IsGreatest {position | IsBoundary text position ∧ position ≤ limit}
      (bytes (cut text limit).1) :=
  ⟨⟨isBoundary_cut text limit, bytes_cut_le text limit⟩, fun _ h => h.1.le_cut h.2⟩

/-- The first place between characters that is met from a position downwards. -/
def descend (text : List Char) : Nat → Nat
  | 0 => 0
  | position + 1 =>
      if IsBoundary text (position + 1) then position + 1 else descend text position

/-- A position moved into the text, and down to a place between characters. -/
def clamp (text : List Char) (position : Nat) : Nat :=
  descend text (min position (bytes text))

/-- Going down ends at the last place between characters. -/
theorem isGreatest_descend (text : List Char) (limit : Nat) :
    IsGreatest {position | IsBoundary text position ∧ position ≤ limit}
      (descend text limit) := by
  induction limit with
  | zero => exact ⟨⟨⟨[], text, rfl, rfl⟩, Nat.le_refl 0⟩, fun position h => h.2⟩
  | succ limit ih =>
      rw [descend]
      split
      next hhere => exact ⟨⟨hhere, Nat.le_refl _⟩, fun position h => h.2⟩
      next hnot =>
        refine ⟨⟨ih.1.1, Nat.le_succ_of_le ih.1.2⟩, fun position h => ih.2 ⟨h.1, ?_⟩⟩
        refine Nat.le_of_lt_succ (lt_of_le_of_ne h.2 ?_)
        rintro rfl
        exact hnot h.1

/-- Moving a position to a boundary is cutting there. -/
theorem clamp_eq (text : List Char) (position : Nat) :
    clamp text position = bytes (cut text position).1 := by
  refine (isGreatest_descend text _).unique
    ⟨⟨isBoundary_cut text position, ?_⟩, fun other h => ?_⟩
  · exact le_min (bytes_cut_le text position) (isBoundary_cut text position).le
  · exact h.1.le_cut (h.2.trans (min_le_left _ _))

/-! ## Slices that can fail -/

/-- The part of a text between two byte positions: there is one if both lie between
characters, in this order. -/
def slice? (text : List Char) (start stop : Nat) : Option (List Char) :=
  if start ≤ stop ∧ IsBoundary text start ∧ IsBoundary text stop then
    some (slice text start stop)
  else none

/-- A part is the slice between its ends. -/
theorem slice?_of_eq (before after : List Char) (htext : text = before ++ (part ++ after))
    (hstart : start = bytes before) (hstop : stop = bytes before + bytes part) :
    slice? text start stop = some part := by
  subst htext hstart hstop
  have hends : IsBoundary (before ++ (part ++ after)) (bytes before) ∧
      IsBoundary (before ++ (part ++ after)) (bytes before + bytes part) :=
    ⟨⟨before, _, rfl, rfl⟩,
      ⟨before ++ part, after, (List.append_assoc ..).symm, bytes_append ..⟩⟩
  rw [slice?, if_pos ⟨Nat.le_add_right _ _, hends⟩, slice_bytes]

/-! ## Newlines -/

/-- The byte position of the first newline. -/
def firstNewline? : List Char → Option Nat
  | [] => none
  | c :: rest => if c = '\n' then some 0 else (firstNewline? rest).map (c.utf8Size + ·)

/-- The byte position of the last newline. -/
def lastNewline? : List Char → Option Nat
  | [] => none
  | c :: rest =>
      ((lastNewline? rest).map (c.utf8Size + ·)).or (if c = '\n' then some 0 else none)

/-- A line has no line break. -/
theorem firstNewline?_eq_none (h : '\n' ∉ line) : firstNewline? line = none := by
  induction line with
  | nil => rfl
  | cons c rest ih =>
      obtain ⟨hc, hrest⟩ := not_or.1 (List.mem_cons.not.1 h)
      rw [firstNewline?, if_neg (Ne.symm hc), ih hrest]
      rfl

/-- The first line break stands at the end of the first line. -/
theorem firstNewline?_append (h : '\n' ∉ line) (lower : List Char) :
    firstNewline? (line ++ '\n' :: lower) = some (bytes line) := by
  induction line with
  | nil => simp [firstNewline?, bytes]
  | cons c rest ih =>
      obtain ⟨hc, hrest⟩ := not_or.1 (List.mem_cons.not.1 h)
      rw [List.cons_append, firstNewline?, if_neg (Ne.symm hc), ih hrest]
      rfl

/-- Nor has a last line one. -/
theorem lastNewline?_eq_none (h : '\n' ∉ line) : lastNewline? line = none := by
  induction line with
  | nil => rfl
  | cons c rest ih =>
      obtain ⟨hc, hrest⟩ := not_or.1 (List.mem_cons.not.1 h)
      rw [lastNewline?, ih hrest, if_neg (Ne.symm hc)]
      rfl

/-- The last line break stands before the last line. -/
theorem lastNewline?_append (upper : List Char) (h : '\n' ∉ line) :
    lastNewline? (upper ++ '\n' :: line) = some (bytes upper) := by
  induction upper with
  | nil => simp [lastNewline?, lastNewline?_eq_none h, bytes]
  | cons c rest ih =>
      rw [List.cons_append, lastNewline?, ih]
      rfl

/-- Lines: nothing, or text that ends with a newline. -/
def EndsLine (text : List Char) : Prop := text = [] ∨ ∃ upper, text = upper ++ ['\n']

/-- The rest behind a line: nothing, or text that begins with a newline. -/
def BeginsLine (text : List Char) : Prop := text = [] ∨ ∃ lower, text = '\n' :: lower

/-- A line begins behind the last newline before it. -/
theorem EndsLine.lineStart (h : EndsLine before) (hline : '\n' ∉ line) :
    (lastNewline? (before ++ line)).elim 0 (· + 1) = bytes before := by
  rcases h with rfl | ⟨upper, rfl⟩
  · rw [List.nil_append, lastNewline?_eq_none hline]
    rfl
  · rw [List.append_assoc, List.singleton_append,
      lastNewline?_append upper hline, bytes_append]
    rfl

/-- A line ends at the first newline behind it, or with the text. -/
theorem BeginsLine.lineEnd (h : BeginsLine after) (hline : '\n' ∉ line) (start : Nat) :
    (firstNewline? (line ++ after)).elim (start + bytes (line ++ after)) (start + ·) =
      start + bytes line := by
  rcases h with rfl | ⟨lower, rfl⟩
  · rw [List.append_nil, firstNewline?_eq_none hline]
    rfl
  · rw [firstNewline?_append hline]
    rfl

/-- A text is lines and the line that it ends in. -/
theorem exists_lastLine (text : List Char) :
    ∃ above, text = above ++ text.rtakeWhile (· ≠ '\n') ∧
    EndsLine above ∧ '\n' ∉ text.rtakeWhile (· ≠ '\n') := by
  refine ⟨_, List.rdropWhile_append_rtakeWhile.symm, ?_, fun hnewline => ?_⟩
  · induction text using List.reverseRecOn with
    | nil => exact .inl rfl
    | append_singleton upper c ih =>
        rw [List.rdropWhile_concat]
        split
        · exact ih
        next hnewline => exact .inr ⟨upper, by simpa using hnewline⟩
  · simpa using List.mem_rtakeWhile_imp hnewline

/-- A text is the line that it begins with and the rest. -/
theorem exists_firstLine (text : List Char) :
    ∃ below, text = text.takeWhile (· ≠ '\n') ++ below ∧
    BeginsLine below ∧ '\n' ∉ text.takeWhile (· ≠ '\n') := by
  refine ⟨_, List.takeWhile_append_dropWhile.symm, ?_, fun hnewline => ?_⟩
  · induction text with
    | nil => exact .inl rfl
    | cons c lower ih =>
        rw [List.dropWhile_cons]
        split
        · exact ih
        next hnewline => exact .inr ⟨lower, by simpa using hnewline⟩
  · simpa using List.mem_takeWhile_imp hnewline

end Text

namespace Condition

open Text (bytes bytes_append IsBoundary slice? EndsLine BeginsLine)

/-! ## Around an extent -/

/-- The parts of a source around an extent: the lines above, the line up to the extent,
what is marked of it, what follows in the line, and the rest. -/
structure Around (source : List Char) (extent : Extent)
    (above indent marked rest below : List Char) : Prop where
  whole : source = above ++ (indent ++ (marked ++ (rest ++ below)))
  above_lines : EndsLine above
  line : '\n' ∉ indent ++ (marked ++ rest)
  below_lines : BeginsLine below
  /-- The mark starts at the last place between characters up to the start of the
  extent. -/
  start : IsGreatest {position | IsBoundary source position ∧ position ≤ extent.start}
    (bytes (above ++ indent))
  /-- It stops at the last one up to the stop, which is first moved between the start
  and the end of the line. -/
  stop : IsGreatest {position | IsBoundary source position ∧ position ≤
      max (bytes (above ++ indent))
        (min extent.stop (bytes (above ++ (indent ++ (marked ++ rest)))))}
    (bytes (above ++ (indent ++ marked)))

/-- An underline shows the parts around its extent. -/
theorem around_underline (source : List Char) (extent : Extent) :
    ∃ above indent marked rest below,
      Around source extent above indent marked rest below ∧
      underline source extent =
        ⟨(above ++ indent).count '\n' + 1, indent ++ (marked ++ rest),
        indent.length, max 1 marked.length⟩ := by
  obtain ⟨before, after, hcut⟩ : ∃ before after, Text.cut source extent.start =
      (before, after) :=
    ⟨_, _, rfl⟩
  obtain ⟨marked, rest, hmark⟩ : ∃ marked rest,
      Text.cut (after.takeWhile (· ≠ '\n')) (extent.stop - bytes before) =
        (marked, rest) := ⟨_, _, rfl⟩
  have hunderline : underline source extent = ⟨before.count '\n' + 1,
      before.rtakeWhile (· ≠ '\n') ++ after.takeWhile (· ≠ '\n'),
      (before.rtakeWhile (· ≠ '\n')).length, max 1 marked.length⟩ := by
    simp only [underline, hcut, hmark]
    rfl
  obtain ⟨above, hbefore, habove, hindent⟩ := Text.exists_lastLine before
  obtain ⟨below, hafter, hbelow, hline⟩ := Text.exists_firstLine after
  generalize before.rtakeWhile (· ≠ '\n') = indent at *
  generalize after.takeWhile (· ≠ '\n') = line at *
  have hsource : before ++ after = source := by
    simpa [hcut] using Text.cut_append source extent.start
  obtain rfl : marked ++ rest = line := by
    simpa [hmark] using Text.cut_append line (extent.stop - bytes before)
  refine ⟨above, indent, marked, rest, below, ⟨?_, habove, ?_, hbelow, ?_, ?_⟩, ?_⟩
  case refine_1 => rw [← hsource, hbefore, hafter, List.append_assoc, List.append_assoc]
  case refine_2 => exact fun hnewline => (List.mem_append.1 hnewline).elim hindent hline
  case refine_3 =>
    rw [← hbefore]
    simpa [hcut] using Text.isGreatest_cut source extent.start
  case refine_4 =>
    have hstop := Text.cut_between before (marked ++ rest) below extent.stop
    rw [hmark, ← hafter, hsource] at hstop
    have hgreatest := Text.isGreatest_cut source
      (max (bytes before) (min extent.stop (bytes before + bytes (marked ++ rest))))
    rw [hstop, hbefore] at hgreatest
    simpa only [bytes_append, List.append_assoc, Nat.add_assoc] using hgreatest
  case refine_5 => rw [hunderline, ← hbefore]

/-! ## Rendering by byte positions -/

/-- The text of a message over its underline. -/
def Underline.text (u : Underline) (message : String) : String :=
  "Error on line " ++ toString u.lineNumber ++ ": " ++ message ++ "\n" ++
    String.ofList u.line ++ "\n" ++
    String.ofList (List.replicate u.indent ' ' ++ '^' :: List.replicate (u.marks - 1) '~')

/-- A message shown on a source by byte positions alone.  There is no text where a slice
would not lie between characters, or where the extent would have to be moved between
bounds that are out of order. -/
def renderSliced? (message : String) (extent : Extent) (source : List Char) :
    Option String := do
  let start := Text.clamp source extent.start
  let before ← slice? source 0 start
  let lineStart := (Text.lastNewline? before).elim 0 (· + 1)
  let after ← slice? source start (bytes source)
  let lineEnd := (Text.firstNewline? after).elim (bytes source) (start + ·)
  let above ← slice? source 0 lineStart
  let indent ← slice? source lineStart start
  guard (start ≤ lineEnd)
  let stop := Text.clamp source (max start (min extent.stop lineEnd))
  let marked ← slice? source start stop
  let line ← slice? source lineStart lineEnd
  pure (Underline.text
    ⟨above.count '\n' + 1, line, indent.length, max 1 marked.length⟩ message)

/-- Around an extent every slice lies between characters. -/
theorem Around.renderSliced?_eq {source above indent marked rest below : List Char}
    {extent : Extent} (h : Around source extent above indent marked rest below)
    (message : String) :
    renderSliced? message extent source = some (Underline.text ⟨above.count '\n' + 1,
      indent ++ (marked ++ rest), indent.length, max 1 marked.length⟩ message) := by
  have hline : '\n' ∉ indent ∧ '\n' ∉ marked ++ rest := by simpa using h.line
  have hlength :
      bytes source = bytes (above ++ indent) + bytes ((marked ++ rest) ++ below) := by
    simp only [h.whole, bytes_append, Nat.add_assoc]
  have hstart : Text.clamp source extent.start = bytes (above ++ indent) := by
    rw [Text.clamp_eq]
    exact (Text.isGreatest_cut source extent.start).unique h.start
  have hstop : Text.clamp source (max (bytes (above ++ indent))
      (min extent.stop (bytes (above ++ indent) + bytes (marked ++ rest)))) =
      bytes (above ++ (indent ++ marked)) := by
    rw [Text.clamp_eq, ← bytes_append, List.append_assoc]
    exact (Text.isGreatest_cut source _).unique h.stop
  have hlineStart := h.above_lines.lineStart hline.1
  have hlineEnd := h.below_lines.lineEnd hline.2 (bytes (above ++ indent))
  rw [← hlength] at hlineEnd
  -- each slice is one of the parts, or two of them
  have hbefore : slice? source 0 (bytes (above ++ indent)) = some (above ++ indent) :=
    Text.slice?_of_eq [] _ (by simpa using h.whole) rfl (by simp [bytes])
  have hafter : slice? source (bytes (above ++ indent)) (bytes source) =
      some ((marked ++ rest) ++ below) :=
    Text.slice?_of_eq _ [] (by simpa using h.whole) rfl hlength
  have habove : slice? source 0 (bytes above) = some above :=
    Text.slice?_of_eq [] _ h.whole rfl (by simp [bytes])
  have hindent : slice? source (bytes above) (bytes (above ++ indent)) = some indent :=
    Text.slice?_of_eq _ _ h.whole rfl (bytes_append _ _)
  have hmarked : slice? source (bytes (above ++ indent))
      (bytes (above ++ (indent ++ marked))) = some marked :=
    Text.slice?_of_eq _ (rest ++ below) (by simpa using h.whole) rfl
      (by simp [Nat.add_assoc])
  have hshown :
      slice? source (bytes above) (bytes (above ++ indent) + bytes (marked ++ rest)) =
        some (indent ++ (marked ++ rest)) :=
    Text.slice?_of_eq _ below (by simpa using h.whole) rfl (by simp [Nat.add_assoc])
  simp only [renderSliced?, hstart, hbefore, hlineStart, hafter, hlineEnd, habove,
    hindent, hstop, hmarked, hshown, Option.bind_eq_bind, Option.bind_some,
    Nat.le_add_right, guard_true, Option.pure_def]

/-- **Underlines.**  A message on a source is the number of the line in which the extent
starts, the message, that line, and under it the caret and the marks.  It is put
together from slices that lie between characters, for any source and extent.  The caret
is indented by the characters before the extent, and there are no more marks than
characters left in the line, the caret apart. -/
theorem renderMessage_underlines (message : String) (extent : Extent) (source : String) :
    renderSliced? message extent source.toList =
      some (renderMessage message extent source) ∧
    ∃ above indent marked rest below, Around source.toList extent above indent
      marked rest below ∧
      renderMessage message extent source =
        "Error on line " ++ toString ((above ++ indent).count '\n' + 1) ++ ": " ++
          message ++ "\n" ++
          String.ofList (indent ++ (marked ++ rest)) ++ "\n" ++
          String.ofList (List.replicate indent.length ' ' ++
            '^' :: List.replicate (max 1 marked.length - 1) '~') ∧
      max 1 marked.length ≤ max 1 (marked ++ rest).length := by
  obtain ⟨above, indent, marked, rest, below, haround, hunderline⟩ :=
    around_underline source.toList extent
  have hmessage : renderMessage message extent source =
      (underline source.toList extent).text message := rfl
  have hcount : (above ++ indent).count '\n' = above.count '\n' := by
    have hindent : '\n' ∉ indent :=
      fun hnewline => haround.line (List.mem_append_left _ hnewline)
    rw [List.count_append, List.count_eq_zero.2 hindent, Nat.add_zero]
  rw [hunderline] at hmessage
  refine ⟨?_, above, indent, marked, rest, below, haround, hmessage, ?_⟩
  · rw [haround.renderSliced?_eq, hmessage, hcount]
  · rw [List.length_append]
    omega

/-- An extent that starts within a letter and runs backwards. -/
example : renderMessage "No such key" ⟨12, 3⟩ "für\nö is ß" =
    "Error on line 2: No such key\nö is ß\n     ^" := by decide +kernel

end Condition

end Turnstile

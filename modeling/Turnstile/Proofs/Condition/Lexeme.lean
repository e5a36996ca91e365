import Mathlib
import Turnstile.Condition.Token

/-!
# Lexemes and gaps

A source is lexemes with gaps between them.  A `Gap` is blanks and comments, a `Lexeme`
is the text of a token with its kind, and two of them stand `Apart` when the second does
not go on with the first.

Gaps are passed over and lexemes become tokens, wherever they stand (`scanFrom_gap`,
`scanFrom_lexeme`).  `Scanned` says what a scan is made of: each token is a lexeme
behind a gap, apart from what follows, and at the end there is either a last gap or a
flaw.  Every scan is of this kind (`scanned_scanFrom`).
-/

set_option autoImplicit false

namespace Turnstile.Condition

open Text (bytes bytes_append isBlank)

/-! ## Characters -/

/-- A character of words begins nothing else. -/
theorem isWordChar_plain {c : Char} (h : isWordChar c = true) :
    c ≠ '(' ∧ c ≠ ')' ∧ c ≠ '"' ∧ c ≠ '#' ∧ isBlank c = false ∧
    isOperatorChar c = false := by
  have hsome : ∀ d : Char, isWordChar d = false → c ≠ d := by
    rintro d hd rfl
    rw [h] at hd
    cases hd
  have hblank : isBlank c = false := by
    by_contra hblank
    simp only [isWordChar, Bool.or_eq_true, decide_eq_true_eq, Bool.and_eq_true] at h
    obtain ((rfl | rfl) | rfl) | h := h
    · exact hblank rfl
    · exact hblank rfl
    · exact hblank rfl
    · simp_all
  refine ⟨hsome _ rfl, hsome _ rfl, hsome _ rfl, hsome _ rfl, hblank, ?_⟩
  simp [isOperatorChar, hsome '=' rfl, hsome '<' rfl, hsome '>' rfl, hsome '/' rfl]

/-- A character of operators begins nothing else. -/
theorem isOperatorChar_plain {c : Char} (h : isOperatorChar c = true) :
    c ≠ '(' ∧ c ≠ ')' ∧ c ≠ '"' ∧ c ≠ '#' ∧ isBlank c = false ∧ isWordChar c = false := by
  simp only [isOperatorChar, Bool.or_eq_true, decide_eq_true_eq] at h
  obtain ((rfl | rfl) | rfl) | rfl := h <;> decide

/-- A blank begins no token. -/
theorem isBlank_plain {c : Char} (h : isBlank c = true) :
    c ≠ '(' ∧ c ≠ ')' ∧ c ≠ '"' ∧ c ≠ '#' := by
  refine ⟨?_, ?_, ?_, ?_⟩ <;> rintro rfl <;> cases h

/-! ## Gaps -/

/-- Blanks and comments, each of them ended by a newline. -/
inductive Gap : List Char → Prop
  | nil : Gap []
  | blank {c : Char} {rest : List Char} (h : isBlank c = true)
      (hrest : Gap rest) : Gap (c :: rest)
  | comment {body rest : List Char} (h : '\n' ∉ body) (hrest : Gap rest) :
      Gap ('#' :: (body ++ '\n' :: rest))

/-- What may stand at the end of a source: a gap, and perhaps a comment that is not
ended. -/
inductive LastGap : List Char → Prop
  | gap {text : List Char} (h : Gap text) : LastGap text
  | comment {text body : List Char} (h : Gap text) (hbody : '\n' ∉ body) :
      LastGap (text ++ '#' :: body)

/-- Two gaps are one. -/
theorem Gap.append {first second : List Char} (hfirst : Gap first)
    (hsecond : Gap second) :
    Gap (first ++ second) := by
  induction hfirst with
  | nil => exact hsecond
  | blank h _ ih => exact .blank h ih
  | @comment body rest h _ ih =>
      rw [List.cons_append, List.append_assoc, List.cons_append]
      exact .comment h ih

/-- A gap before the last gap is part of it. -/
theorem LastGap.append {first second : List Char} (hfirst : Gap first)
    (hsecond : LastGap second) :
    LastGap (first ++ second) := by
  cases hsecond with
  | gap h => exact .gap (hfirst.append h)
  | comment h hbody =>
      rw [← List.append_assoc]
      exact .comment (hfirst.append h) hbody

/-- A newline ends the last comment. -/
theorem LastGap.newline {text : List Char} (h : LastGap text) : Gap (text ++ ['\n']) := by
  cases h with
  | gap h => exact h.append (.blank rfl .nil)
  | comment h hbody =>
      rw [List.append_assoc]
      exact h.append (.comment hbody .nil)

/-- Gaps begin with a blank or a comment. -/
theorem LastGap.head {text : List Char} {c : Char} (h : LastGap text)
    (hc : c ∈ text.head?) :
    isBlank c = true ∨ c = '#' := by
  have hgap : ∀ {text : List Char}, Gap text → c ∈ text.head? →
      isBlank c = true ∨ c = '#' := by
    intro text h hc
    cases h with
    | nil => cases hc
    | blank h _ => cases hc; exact .inl h
    | comment _ _ => cases hc; exact .inr rfl
  cases h with
  | gap h => exact hgap h hc
  | @comment text body h hbody =>
      cases text with
      | nil => cases hc; exact .inr rfl
      | cons first rest => exact hgap h hc

/-! ## Lexemes -/

/-- The texts of tokens, with their kinds. -/
inductive Lexeme : List Char → Token.Kind → Prop
  | leftParen : Lexeme ['('] .leftParen
  | rightParen : Lexeme [')'] .rightParen
  | string {body : List Char} (h : '"' ∉ body) :
      Lexeme ('"' :: (body ++ ['"'])) (.literal (.str (String.ofList body)))
  | operator {c : Char} {rest : List Char}
      (h : ∀ d ∈ c :: rest, isOperatorChar d = true) :
      Lexeme (c :: rest) (.operator (String.ofList (c :: rest)))
  | word {c : Char} {rest : List Char} {kind : Token.Kind}
      (h : ∀ d ∈ c :: rest, isWordChar d = true)
      (hkind : Token.Kind.ofWord? (c :: rest) = some kind) : Lexeme (c :: rest) kind

/-- A lexeme is not empty. -/
theorem Lexeme.ne_nil {text : List Char} {kind : Token.Kind} (h : Lexeme text kind) :
    text ≠ [] := by
  cases h <;> simp

/-- The text of a token tells its kind. -/
theorem Lexeme.unique {text : List Char} {first second : Token.Kind}
    (hfirst : Lexeme text first) (hsecond : Lexeme text second) : first = second := by
  cases hfirst with
  | leftParen =>
      cases hsecond with
      | leftParen => rfl
      | operator h => exact absurd (h '(' List.mem_cons_self) (by decide)
      | word h _ => exact absurd (h '(' List.mem_cons_self) (by decide)
  | rightParen =>
      cases hsecond with
      | rightParen => rfl
      | operator h => exact absurd (h ')' List.mem_cons_self) (by decide)
      | word h _ => exact absurd (h ')' List.mem_cons_self) (by decide)
  | @string body hbody =>
      generalize htext : '"' :: (body ++ ['"']) = text at hsecond
      cases hsecond with
      | leftParen => simp at htext
      | rightParen => simp at htext
      | @string other hother =>
          simp only [List.cons.injEq, true_and, List.append_cancel_right_eq] at htext
          rw [htext]
      | operator h =>
          cases htext
          exact absurd (h '"' List.mem_cons_self) (by decide)
      | word h _ =>
          cases htext
          exact absurd (h '"' List.mem_cons_self) (by decide)
  | @operator c rest h =>
      have hc := isOperatorChar_plain (h c List.mem_cons_self)
      cases hsecond with
      | leftParen => exact absurd rfl hc.1
      | rightParen => exact absurd rfl hc.2.1
      | string => exact absurd rfl hc.2.2.1
      | operator => rfl
      | word hword =>
          have := hword c List.mem_cons_self
          simp [hc.2.2.2.2.2] at this
  | @word c rest kind h hkind =>
      have hc := isWordChar_plain (h c List.mem_cons_self)
      cases hsecond with
      | leftParen => exact absurd rfl hc.1
      | rightParen => exact absurd rfl hc.2.1
      | string => exact absurd rfl hc.2.2.1
      | operator hoperator =>
          have := hoperator c List.mem_cons_self
          simp [hc.2.2.2.2.2] at this
      | word _ hother => exact Option.some.inj (hkind.symm.trans hother)

/-- Whether a character goes on with a lexeme that begins with another. -/
def joins (first next : Char) : Bool :=
  (isOperatorChar first && isOperatorChar next) || (isWordChar first && isWordChar next)

/-- What follows a lexeme does not go on with it. -/
def Apart (lexeme rest : List Char) : Prop :=
  ∀ first ∈ lexeme.head?, ∀ next ∈ rest.head?, joins first next = false

/-- Lexemes stand apart from gaps. -/
theorem Apart.of_gap {lexeme rest : List Char}
    (h : ∀ next ∈ rest.head?, isBlank next = true ∨ next = '#') : Apart lexeme rest := by
  intro first _ next hnext
  rcases h next hnext with hblank | rfl
  · have hword : isWordChar next = false := by
      by_contra hword
      rw [(isWordChar_plain (Bool.not_eq_false _ ▸ hword)).2.2.2.2.1] at hblank
      cases hblank
    have hoperator : isOperatorChar next = false := by
      by_contra hoperator
      rw [(isOperatorChar_plain (Bool.not_eq_false _ ▸ hoperator)).2.2.2.2.1] at hblank
      cases hblank
    simp [joins, hword, hoperator]
  · have hword : isWordChar '#' = false := rfl
    have hoperator : isOperatorChar '#' = false := rfl
    simp [joins, hword, hoperator]

/-! ## Scans -/

variable {position : Nat} {rest : List Char}

/-- What is taken while a test holds, and what is left, where the test ends. -/
theorem takeWhile_dropWhile {p : Char → Bool} {text : List Char}
    (htext : ∀ c ∈ text, p c = true) (hrest : ∀ c ∈ rest.head?, p c = false) :
    (text ++ rest).takeWhile p = text ∧ (text ++ rest).dropWhile p = rest := by
  have htake : rest.takeWhile p = [] ∧ rest.dropWhile p = rest := by
    cases rest with
    | nil => exact ⟨rfl, rfl⟩
    | cons c rest =>
        have hc : p c = false := hrest c rfl
        simp [hc]
  rw [List.takeWhile_append_of_pos htext, List.dropWhile_append_of_pos htext,
    htake.1, htake.2, List.append_nil]
  exact ⟨rfl, rfl⟩

/-- The test for what comes before a character. -/
theorem forall_ne {mark : Char} {body : List Char} (h : mark ∉ body) :
    ∀ c ∈ body, decide (c ≠ mark) = true :=
  fun _ hc => decide_eq_true fun heq => h (heq ▸ hc)

/-- Blanks are skipped. -/
theorem scanFrom_blank {c : Char} (h : isBlank c = true) :
    scanFrom position (c :: rest) = scanFrom (position + bytes [c]) rest := by
  obtain ⟨h1, h2, h3, h4⟩ := isBlank_plain h
  rw [scanFrom]
  simp only [h1, h2, h3, h4, h, if_false, if_true]
  rfl

/-- Comments are skipped up to their line break. -/
theorem scanFrom_comment {body : List Char} (h : '\n' ∉ body) :
    scanFrom position ('#' :: (body ++ '\n' :: rest)) =
      scanFrom (position + bytes ('#' :: body)) ('\n' :: rest) := by
  obtain ⟨htake, hdrop⟩ :=
    @takeWhile_dropWhile ('\n' :: rest) _ body (forall_ne h) (by simp)
  rw [scanFrom, if_neg (by decide), if_neg (by decide), if_neg (by decide),
    if_pos rfl, htake, hdrop, bytes, Nat.add_assoc]

/-- Gaps are passed over. -/
theorem scanFrom_gap {gap : List Char} (h : Gap gap) :
    scanFrom position (gap ++ rest) = scanFrom (position + bytes gap) rest := by
  induction h generalizing position with
  | nil => rfl
  | @blank c gap h _ ih =>
      rw [List.cons_append, scanFrom_blank h, ih, Nat.add_assoc, ← bytes_append,
        List.singleton_append]
  | @comment body gap h _ ih =>
      rw [List.cons_append, List.append_assoc, List.cons_append, scanFrom_comment h,
        scanFrom_blank rfl, ih, Nat.add_assoc, ← bytes_append,
        Nat.add_assoc, ← bytes_append]
      rfl

/-- At the end of a source a gap leaves nothing. -/
theorem scanFrom_lastGap {gap : List Char} (h : LastGap gap) :
    scanFrom position gap = ⟨[], none⟩ := by
  cases h with
  | gap h =>
      have := @scanFrom_gap position [] gap h
      rw [List.append_nil] at this
      rw [this, scanFrom]
  | @comment gap body h hbody =>
      obtain ⟨-, hdrop⟩ := @takeWhile_dropWhile [] _ body (forall_ne hbody) (by simp)
      rw [List.append_nil] at hdrop
      rw [scanFrom_gap h, scanFrom, if_neg (by decide), if_neg (by decide),
        if_neg (by decide), if_pos rfl, hdrop, scanFrom]

/-- A word is scanned by its meaning. -/
theorem scanFrom_word {c : Char} {body : List Char}
    (h : ∀ d ∈ c :: body, isWordChar d = true)
    (hrest : ∀ d ∈ rest.head?, isWordChar d = false) :
    scanFrom position ((c :: body) ++ rest) =
      (Token.Kind.ofWord? (c :: body)).elim
        (.stop (.invalidIdentifier (String.ofList (c :: body)))
          ⟨position, position + bytes (c :: body)⟩)
        fun kind => (scanFrom (position + bytes (c :: body)) rest).cons
          ⟨kind, String.ofList (c :: body),
            ⟨position, position + bytes (c :: body)⟩⟩ := by
  have hc : isWordChar c = true := h c List.mem_cons_self
  obtain ⟨htake, hdrop⟩ :=
    takeWhile_dropWhile (fun d hd => h d (List.mem_cons_of_mem _ hd)) hrest
  obtain ⟨h1, h2, h3, h4, h5, h6⟩ := isWordChar_plain hc
  rw [List.cons_append, scanFrom, if_neg h1, if_neg h2, if_neg h3, if_neg h4,
    if_neg (by simp [h5]), if_neg (by simp [h6]), if_pos hc, htake, hdrop]
  dsimp only
  cases Token.Kind.ofWord? (c :: body) <;> rfl

/-- Characters of operators make one operator as far as they go. -/
theorem scanFrom_operator {c : Char} {body : List Char}
    (h : ∀ d ∈ c :: body, isOperatorChar d = true)
    (hrest : ∀ d ∈ rest.head?, isOperatorChar d = false) :
    scanFrom position ((c :: body) ++ rest) =
      (scanFrom (position + bytes (c :: body)) rest).cons
      ⟨.operator (String.ofList (c :: body)), String.ofList (c :: body),
        ⟨position, position + bytes (c :: body)⟩⟩ := by
  have hc : isOperatorChar c = true := h c List.mem_cons_self
  obtain ⟨htake, hdrop⟩ :=
    takeWhile_dropWhile (fun d hd => h d (List.mem_cons_of_mem _ hd)) hrest
  obtain ⟨h1, h2, h3, h4, h5, -⟩ := isOperatorChar_plain hc
  rw [List.cons_append, scanFrom, if_neg h1, if_neg h2, if_neg h3, if_neg h4,
    if_neg (by simp [h5]), if_pos hc, htake, hdrop]

/-- A string goes on to the next quote. -/
theorem scanFrom_string {body : List Char} (h : '"' ∉ body) :
    scanFrom position ('"' :: (body ++ ['"']) ++ rest) =
      (scanFrom (position + bytes ('"' :: (body ++ ['"']))) rest).cons
        ⟨.literal (.str (String.ofList body)), String.ofList ('"' :: (body ++ ['"'])),
          ⟨position, position + bytes ('"' :: (body ++ ['"']))⟩⟩ := by
  obtain ⟨htake, hdrop⟩ :=
    @takeWhile_dropWhile ('"' :: rest) _ body (forall_ne h) (by simp)
  have hbytes : position + bytes ('"' :: (body ++ ['"'])) =
      position + '"'.utf8Size + bytes body + '"'.utf8Size := by
    rw [← List.cons_append, bytes_append]
    simp only [bytes]
    omega
  rw [List.cons_append, List.append_assoc, List.singleton_append, scanFrom,
    if_neg (by decide), if_neg (by decide), if_pos rfl]
  split
  · next quote after hsplit =>
      rw [hdrop] at hsplit
      cases hsplit
      rw [htake, hbytes]
      rfl
  · next hsplit =>
      rw [hdrop] at hsplit
      cases hsplit

/-- **Lexemes.**  A lexeme that stands apart from what follows it is scanned as a
token. -/
theorem scanFrom_lexeme {lexeme : List Char} {kind : Token.Kind} (h : Lexeme lexeme kind)
    (hrest : Apart lexeme rest) :
    scanFrom position (lexeme ++ rest) = (scanFrom (position + bytes lexeme) rest).cons
      ⟨kind, String.ofList lexeme, ⟨position, position + bytes lexeme⟩⟩ := by
  cases h with
  | leftParen =>
      rw [List.singleton_append, scanFrom, if_pos rfl]
      rfl
  | rightParen =>
      rw [List.singleton_append, scanFrom, if_neg (by decide), if_pos rfl]
      rfl
  | string h => exact scanFrom_string h
  | @operator c body h =>
      refine scanFrom_operator h fun d hd => ?_
      have hjoins : joins c d = false := hrest c rfl d hd
      simp only [joins, h c List.mem_cons_self, Bool.true_and,
        Bool.or_eq_false_iff] at hjoins
      exact hjoins.1
  | @word c body kind h hkind =>
      have hnext : ∀ d ∈ rest.head?, isWordChar d = false := by
        intro d hd
        have hjoins : joins c d = false := hrest c rfl d hd
        simp only [joins, h c List.mem_cons_self, Bool.true_and,
          Bool.or_eq_false_iff] at hjoins
        exact hjoins.2
      rw [scanFrom_word h hnext, hkind, Option.elim_some]

/-- What a scan makes of a text that starts at a byte position: tokens, each of them a
lexeme behind a gap and apart from what follows it, and then the last gap or a flaw. -/
inductive Scanned : Nat → List Char → Scan → Prop
  | done {position : Nat} {text : List Char} (h : LastGap text) :
      Scanned position text ⟨[], none⟩
  | flaw {position : Nat} {gap text rest : List Char} (flaw : Flaw) (hgap : Gap gap)
      (h : text ≠ []) :
      Scanned position (gap ++ (text ++ rest))
        (.stop flaw ⟨position + bytes gap, position + bytes gap + bytes text⟩)
  | token {position : Nat} {gap lexeme rest : List Char} {kind : Token.Kind} {scan : Scan}
      (hgap : Gap gap) (h : Lexeme lexeme kind) (hapart : Apart lexeme rest)
      (hrest : Scanned (position + bytes gap + bytes lexeme) rest scan) :
      Scanned position (gap ++ (lexeme ++ rest)) (scan.cons
        ⟨kind, String.ofList lexeme,
          ⟨position + bytes gap, position + bytes gap + bytes lexeme⟩⟩)

/-- A gap before the tokens is skipped. -/
theorem Scanned.skip {gap text : List Char} {scan : Scan} (hgap : Gap gap)
    (h : Scanned (position + bytes gap) text scan) :
    Scanned position (gap ++ text) scan := by
  cases h with
  | done h => exact .done (LastGap.append hgap h)
  | @flaw _ more text rest flaw hmore h =>
      have hflaw : Scanned position ((gap ++ more) ++ (text ++ rest)) (.stop flaw
          ⟨position + bytes (gap ++ more),
            position + bytes (gap ++ more) + bytes text⟩) :=
        .flaw flaw (hgap.append hmore) h
      rwa [bytes_append, ← Nat.add_assoc, List.append_assoc] at hflaw
  | @token _ more lexeme rest kind scan hmore h hapart hrest =>
      rw [Nat.add_assoc position, ← bytes_append] at hrest ⊢
      rw [← List.append_assoc]
      exact .token (hgap.append hmore) h hapart hrest

/-- The texts of tokens are lexemes. -/
theorem Scanned.lexemes {text : List Char} {scan : Scan}
    (h : Scanned position text scan) :
    ∀ token ∈ scan.tokens, Lexeme token.text.toList token.kind := by
  induction h with
  | done => exact fun token htoken => absurd htoken List.not_mem_nil
  | flaw => exact fun token htoken => absurd htoken List.not_mem_nil
  | token _ h _ _ ih =>
      intro token htoken
      rcases List.mem_cons.1 htoken with rfl | hrest
      · exact String.toList_ofList ▸ h
      · exact ih token hrest

/-- A lexeme in front is a token before the scan of what follows. -/
theorem scanned_lexeme {lexeme : List Char} {kind : Token.Kind} (h : Lexeme lexeme kind)
    (hapart : Apart lexeme rest)
    (hrest : Scanned (position + bytes lexeme) rest
      (scanFrom (position + bytes lexeme) rest)) :
    Scanned position (lexeme ++ rest) (scanFrom position (lexeme ++ rest)) := by
  rw [scanFrom_lexeme h hapart]
  exact .token .nil h hapart hrest

/-- A gap in front is passed over. -/
theorem scanned_gap {gap : List Char} (h : Gap gap)
    (hrest : Scanned (position + bytes gap) rest (scanFrom (position + bytes gap) rest)) :
    Scanned position (gap ++ rest) (scanFrom position (gap ++ rest)) := by
  rw [scanFrom_gap h]
  exact hrest.skip h

/-- A flaw ends the scan. -/
theorem scanned_flaw {text : List Char} (flaw : Flaw) (h : text ≠ []) :
    Scanned position (text ++ rest) (.stop flaw ⟨position, position + bytes text⟩) :=
  .flaw flaw .nil h

/-- A text begins with a longest part whose characters pass a test. -/
theorem exists_run (p : Char → Bool) (text : List Char) :
    ∃ run rest, text = run ++ rest ∧ (∀ c ∈ run, p c = true) ∧
      ∀ c ∈ rest.head?, p c = false := by
  refine ⟨text.takeWhile p, text.dropWhile p, List.takeWhile_append_dropWhile.symm,
    fun c hc => List.mem_takeWhile_imp hc, fun c hc => ?_⟩
  have := List.head?_dropWhile_not p text
  rw [Option.mem_def.1 hc] at this
  simpa using this

/-- A text is read up to a character, or the character is not in it. -/
theorem exists_before (mark : Char) (text : List Char) :
    mark ∉ text ∨ ∃ body rest, text = body ++ mark :: rest ∧ mark ∉ body := by
  obtain ⟨body, rest, rfl, hbody, hrest⟩ := exists_run (fun c => c != mark) text
  have hmark : mark ∉ body := fun h => by simpa using hbody mark h
  cases rest with
  | nil => exact .inl (by simpa using hmark)
  | cons c rest =>
      obtain rfl : c = mark := by simpa using hrest c rfl
      exact .inr ⟨body, rest, rfl, hmark⟩

/-- A string that is not closed is a flaw. -/
theorem scanFrom_unterminated {body : List Char} (h : '"' ∉ body) :
    scanFrom position ('"' :: body) =
      .stop .unterminatedString ⟨position, position + bytes ('"' :: body)⟩ := by
  obtain ⟨htake, hdrop⟩ := @takeWhile_dropWhile [] _ body (forall_ne h) (by simp)
  rw [List.append_nil] at htake hdrop
  rw [scanFrom, if_neg (by decide), if_neg (by decide), if_pos rfl]
  split
  · next hsplit =>
      rw [hdrop] at hsplit
      cases hsplit
  · rw [htake, bytes, ← Nat.add_assoc]

/-- The texts shorter than `text` are scanned, wherever they start. -/
def ScansShorter (text : List Char) : Prop :=
  ∀ rest : List Char, rest.length < text.length → ∀ position,
    Scanned position rest (scanFrom position rest)

section

variable {c : Char}

/-- A comment is passed over, up to its newline or to the end. -/
theorem scanned_comment (ih : ScansShorter ('#' :: rest)) :
    Scanned position ('#' :: rest) (scanFrom position ('#' :: rest)) := by
  rcases exists_before '\n' rest with hbody | ⟨body, after, rfl, hbody⟩
  · have hlast : LastGap ('#' :: rest) := .comment .nil hbody
    rw [scanFrom_lastGap hlast]
    exact .done hlast
  · have hsplit :
        '#' :: (body ++ '\n' :: after) = '#' :: (body ++ ['\n']) ++ after := by simp
    rw [hsplit]
    exact scanned_gap (.comment hbody .nil) (ih after (by simp; omega) _)

/-- A quote begins a string, or is never closed. -/
theorem scanned_quote (ih : ScansShorter ('"' :: rest)) :
    Scanned position ('"' :: rest) (scanFrom position ('"' :: rest)) := by
  rcases exists_before '"' rest with hbody | ⟨body, after, rfl, hbody⟩
  · rw [scanFrom_unterminated hbody]
    have hbad : Scanned position (('"' :: rest) ++ []) (.stop .unterminatedString
        ⟨position, position + bytes ('"' :: rest)⟩) := scanned_flaw _ (by simp)
    rwa [List.append_nil] at hbad
  · have hsplit :
        '"' :: (body ++ '"' :: after) = '"' :: (body ++ ['"']) ++ after := by simp
    rw [hsplit]
    refine scanned_lexeme (.string hbody) ?_ (ih after (by simp; omega) _)
    rintro first ⟨rfl⟩ next -
    rfl

/-- Characters of operators are taken together. -/
theorem scanned_operator (hc : isOperatorChar c = true) (ih : ScansShorter (c :: rest)) :
    Scanned position (c :: rest) (scanFrom position (c :: rest)) := by
  obtain ⟨run, after, rfl, hrun, hafter⟩ := exists_run isOperatorChar rest
  have hall : ∀ d ∈ c :: run, isOperatorChar d = true := List.forall_mem_cons.2 ⟨hc, hrun⟩
  refine scanned_lexeme (.operator hall) ?_ (ih after (by simp) _)
  rintro first ⟨rfl⟩ next hnext
  simp [joins, hafter next hnext, (isOperatorChar_plain hc).2.2.2.2.2]

/-- Characters of words are taken together, and may mean nothing. -/
theorem scanned_word (hc : isWordChar c = true) (ih : ScansShorter (c :: rest)) :
    Scanned position (c :: rest) (scanFrom position (c :: rest)) := by
  obtain ⟨run, after, rfl, hrun, hafter⟩ := exists_run isWordChar rest
  have hall : ∀ d ∈ c :: run, isWordChar d = true := List.forall_mem_cons.2 ⟨hc, hrun⟩
  cases hkind : Token.Kind.ofWord? (c :: run) with
  | some kind =>
      refine scanned_lexeme (.word hall hkind) ?_ (ih after (by simp) _)
      rintro first ⟨rfl⟩ next hnext
      simp [joins, hafter next hnext, (isWordChar_plain hc).2.2.2.2.2]
  | none =>
      rw [← List.cons_append, scanFrom_word hall hafter, hkind, Option.elim_none]
      exact scanned_flaw _ (by simp)

end

/-- **Scans.**  A scan is tokens and gaps up to the end or to a flaw. -/
theorem scanned_scanFrom (position : Nat) (text : List Char) :
    Scanned position text (scanFrom position text) := by
  induction hlength :
    text.length using Nat.strong_induction_on generalizing position text with
  | _ length hshorter =>
    subst hlength
    have ih : ScansShorter text := fun rest hrest start => hshorter _ hrest start rest rfl
    rcases text with _ | ⟨c, rest⟩
    · rw [scanFrom]
      exact .done (.gap .nil)
    by_cases hblank : isBlank c = true
    · exact scanned_gap (.blank hblank .nil) (ih rest (by simp) _)
    by_cases hhash : c = '#'
    · subst hhash
      exact scanned_comment ih
    by_cases hleft : c = '('
    · subst hleft
      refine scanned_lexeme .leftParen ?_ (ih rest (by simp) _)
      rintro first ⟨rfl⟩ next -
      rfl
    by_cases hright : c = ')'
    · subst hright
      refine scanned_lexeme .rightParen ?_ (ih rest (by simp) _)
      rintro first ⟨rfl⟩ next -
      rfl
    by_cases hquote : c = '"'
    · subst hquote
      exact scanned_quote ih
    by_cases hoperator : isOperatorChar c = true
    · exact scanned_operator hoperator ih
    by_cases hword : isWordChar c = true
    · exact scanned_word hword ih
    · have hbad : scanFrom position (c :: rest) =
          .stop (.unexpectedCharacter c) ⟨position, position + bytes [c]⟩ := by
        rw [scanFrom, if_neg hleft, if_neg hright, if_neg hquote,
          if_neg hhash, if_neg hblank, if_neg hoperator, if_neg hword]
        rfl
      rw [hbad]
      exact @scanned_flaw position rest [c] _ (by simp)

end Turnstile.Condition

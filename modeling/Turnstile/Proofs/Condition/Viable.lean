import Mathlib
import Turnstile.Proofs.Condition.Reading

/-!
# How far a text can be read

A text is viable for a language if it can be extended to one of its sentences, and
completable if the tokens `x` and `)` are enough for that.  A reader of the language
`L`, after which the kinds of `P` can follow, reaches as far as the text is viable if it
takes a sentence that nothing further would have gone on with, or if it fails behind a
completable text and at a token that makes it unviable (`Reaches`).

A text that a sentence of `L` begins, with something behind it that can follow, is a
viable text of `L * follow P`.  Readers that reach as far as that may be put in sequence
where the end of the first sentence is told by what follows it (`Delimited`,
`Reaches.mul`), and may look at the first token (`Reaches.cons`).
-/

set_option autoImplicit false

namespace Turnstile.Condition

/-! ## Viable texts -/

/-- The text can be extended to a sentence. -/
def Viable (L : Language Token.Kind) (text : List Token.Kind) : Prop :=
  ∃ more, text ++ more ∈ L

/-- The kinds of the tokens `x` and `)`. -/
inductive Token.Kind.IsFiller : Token.Kind → Prop
  | word : IsFiller (.atom ["x"])
  | rightParen : IsFiller .rightParen

/-- The text can be extended to a sentence by tokens `x` and `)`. -/
def Completable (L : Language Token.Kind) (text : List Token.Kind) : Prop :=
  ∃ more, (∀ kind ∈ more, kind.IsFiller) ∧ text ++ more ∈ L

/-- The texts that are empty or begin with one of the kinds of `P`. -/
def follow (P : Token.Kind → Prop) : Language Token.Kind :=
  {after | ∀ kind ∈ after.head?, P kind}

/-- Sentences are told from what follows them, where that begins with one of the kinds
of `P`. -/
def Delimited (L : Language Token.Kind) (P : Token.Kind → Prop) : Prop :=
  ∀ ⦃u w after other : List Token.Kind⦄, u ∈ L → w ∈ L → after ∈ follow P →
    other ∈ follow P →
    u ++ after = w ++ other → u = w ∧ after = other

section

variable {A B D L : Language Token.Kind} {P Q : Token.Kind → Prop} {kind : Token.Kind}
  {text sentence : List Token.Kind}

/-- What follows is told by its first token. -/
theorem mem_follow {after : List Token.Kind} :
    after ∈ follow P ↔ ∀ kind ∈ after.head?, P kind :=
  Iff.rfl

@[simp] theorem nil_mem_follow : [] ∈ follow P := by simp [mem_follow]

@[simp] theorem cons_mem_follow : kind :: text ∈ follow P ↔ P kind := by simp [mem_follow]

/-- More may follow where less is asked. -/
theorem follow_mono (h : ∀ kind, Q kind → P kind) : follow Q ≤ follow P :=
  fun _ hafter kind hkind => h kind (hafter kind hkind)

/-- What begins a sentence of a language begins one of a wider one. -/
theorem Viable.mono (h : Viable A text) (hle : A ≤ B) : Viable B text := by
  obtain ⟨more, hmore⟩ := h
  exact ⟨more, hle hmore⟩

/-- A sentence is complete. -/
theorem Completable.of_mem (h : text ∈ L) : Completable L text :=
  ⟨[], by simp, by rwa [List.append_nil]⟩

/-- A first part can be completed with a second part behind it. -/
theorem Completable.mul_right (h : Completable A text) (hB : Completable B []) :
    Completable (A * B) text := by
  obtain ⟨more, hmore, hA⟩ := h
  obtain ⟨last, hlast, hB⟩ := hB
  exact ⟨more ++ last, List.forall_mem_append.2 ⟨hmore, hlast⟩,
    text ++ more, hA, last, hB, List.append_assoc ..⟩

/-- Behind a sentence of the first language the second one can be completed. -/
theorem Completable.mul_left (hA : sentence ∈ A) (h : Completable B text) :
    Completable (A * B) (sentence ++ text) := by
  obtain ⟨more, hmore, hB⟩ := h
  exact ⟨more, hmore, sentence, hA, text ++ more, hB, (List.append_assoc ..).symm⟩

/-- What goes on to something completable is completable, if only fillers go on. -/
theorem Completable.trans (h : Completable A text)
    (hL : ∀ sentence ∈ A, Completable L sentence) :
    Completable L text := by
  obtain ⟨more, hmore, hA⟩ := h
  obtain ⟨last, hlast, hsentence⟩ := hL _ hA
  exact ⟨more ++ last, List.forall_mem_append.2 ⟨hmore, hlast⟩,
    by rwa [← List.append_assoc]⟩

/-- Sequences of sentences are told from what follows if the parts are. -/
theorem Delimited.mul (hA : Delimited A P) (hB : Delimited B Q)
    (hle : B * follow Q ≤ follow P) :
    Delimited (A * B) Q := by
  rintro _ _ after other ⟨a, ha, b, hb, rfl⟩ ⟨c, hc, d, hd, rfl⟩ hafter hother heq
  have hparts : a ++ (b ++ after) = c ++ (d ++ other) := by simpa using heq
  obtain ⟨rfl, hrest⟩ := hA ha hc (hle ⟨b, hb, after, hafter, rfl⟩)
    (hle ⟨d, hd, other, hother, rfl⟩) hparts
  obtain ⟨rfl, rfl⟩ := hB hb hd hafter hother hrest
  exact ⟨rfl, rfl⟩

/-- A sentence that ends before a kind is the only one there. -/
theorem Delimited.next {other after more : List Token.Kind} (hL : Delimited L P)
    (hsentence : sentence ∈ L) (hkind : P kind) (hother : other ∈ L)
    (hafter : after ∈ follow P) (heq : other ++ after = sentence ++ [kind] ++ more) :
    other = sentence ∧ after = kind :: more :=
  hL hother hsentence hafter (cons_mem_follow.2 hkind) (by simpa using heq)

/-- After a first part that could not go on with what follows it, a viable text goes on
with a viable second part. -/
theorem Delimited.viable_rest (hA : Delimited A P) (hle : B * follow Q ≤ follow P)
    (hsentence : sentence ∈ A)
    (hnext : Viable (A * follow P) (sentence ++ [kind]) → P kind)
    (h : Viable (A * B * follow Q) (sentence ++ kind :: text)) :
    Viable (B * follow Q) (kind :: text) := by
  obtain ⟨more, -, ⟨a, ha, b, hb, rfl⟩, after, hafter, heq⟩ := h
  have hlast : b ++ after ∈ follow P := hle ⟨b, hb, after, hafter, rfl⟩
  have hparts :
      a ++ (b ++ after) = sentence ++ (kind :: (text ++ more)) := by simpa using heq
  have hkind : P kind :=
    hnext ⟨text ++ more, a, ha, b ++ after, hlast, hparts.trans (by simp)⟩
  obtain ⟨-, hrest⟩ := hA ha hsentence hlast (cons_mem_follow.2 hkind) hparts
  exact ⟨more, b, hb, after, hafter, hrest⟩

/-- What follows a kind that begins sentences of `L` is viable for the rest of those
sentences. -/
theorem viable_tail (hrest : ∀ rest, kind :: rest ∈ L → rest ∈ D)
    (hnil : [] ∈ L → ¬ P kind) (h : Viable (L * follow P) (kind :: text)) :
    Viable (D * follow P) text := by
  obtain ⟨more, sentence, hsentence, after, hafter, heq⟩ := h
  cases sentence with
  | nil =>
      obtain rfl : after = kind :: (text ++ more) := heq
      exact absurd (cons_mem_follow.1 hafter) (hnil hsentence)
  | cons first rest =>
      obtain ⟨rfl, htext⟩ := List.cons.inj heq
      exact ⟨more, rest, hrest _ hsentence, after, hafter, htext⟩

end

/-! ## Readers that reach as far as the text is viable -/

/-- The place of the first token that is left, or the end of the source at byte `stop`. -/
def placeOf (stop : Nat) : List Token → Extent
  | [] => ⟨stop, stop⟩
  | token :: _ => token.extent

/-- A result of reading a sentence of `L`, after which the kinds of `P` can follow.  A
success takes a sentence that would not have gone on with the next token; a failure
points behind what is viable. -/
inductive Reaches (L : Language Token.Kind) (P : Token.Kind → Prop) (stop : Nat)
    (tokens : List Token) {α : Type} : Except Diagnostic (Found α) → Prop
  | read {found : α} (taken rest : List Token) (htokens : tokens = taken ++ rest)
      (hsentence : kinds taken ∈ L)
      (hnext : ∀ kind ∈ (kinds rest).head?,
        Viable (L * follow P) (kinds taken ++ [kind]) → P kind) :
      Reaches L P stop tokens (.ok (found, rest))
  | failed {diagnostic : Diagnostic} (taken rest : List Token)
      (htokens : tokens = taken ++ rest) (hextent : diagnostic.extent = placeOf stop rest)
      (hbegun : Completable L (kinds taken))
      (hnext : ∀ kind ∈ (kinds rest).head?,
        ¬ Viable (L * follow P) (kinds taken ++ [kind])) :
      Reaches L P stop tokens (.error diagnostic)

namespace Reaches

variable {A B D L : Language Token.Kind} {P Q : Token.Kind → Prop} {stop : Nat}
  {tokens rest : List Token} {token : Token} {α β : Type}
  {x : Except Diagnostic (Found α)}

/-- What is made of the sentence does not matter. -/
theorem map {g : Found α → Except Diagnostic (Found β)} (h : Reaches L P stop tokens x)
    (hg : ∀ found rest, ∃ made, g (found, rest) = .ok (made, rest)) :
    Reaches L P stop tokens (x >>= g) := by
  cases h with
  | @read found taken rest htokens hsentence hnext =>
      obtain ⟨made, hmade⟩ := hg found rest
      change Reaches L P stop tokens (g (found, rest))
      rw [hmade]
      exact .read taken rest htokens hsentence hnext
  | failed taken rest htokens hextent hbegun hnext =>
      exact .failed taken rest htokens hextent hbegun hnext

/-- Where less can follow, a reader that reaches as far as possible still does. -/
theorem mono (h : Reaches L P stop tokens x) (hL : Delimited L P)
    (hle : ∀ kind, Q kind → P kind) :
    Reaches L Q stop tokens x := by
  have hfollow : L * follow Q ≤ L * follow P := mul_le_mul_right (follow_mono hle) L
  cases h with
  | @read found taken rest htokens hsentence hnext =>
      refine .read taken rest htokens hsentence fun kind hkind hviable => ?_
      have hP : P kind := hnext kind hkind (hviable.mono hfollow)
      obtain ⟨more, u, hu, after, hafter, heq⟩ := hviable
      obtain ⟨-, rfl⟩ := hL.next hsentence hP hu (follow_mono hle hafter) heq
      exact cons_mem_follow.1 hafter
  | failed taken rest htokens hextent hbegun hnext =>
      exact .failed taken rest htokens hextent hbegun fun kind hkind h =>
        hnext kind hkind (h.mono hfollow)

/-- **One sentence after the other.**  Two readers in sequence reach as far as their
texts are viable, where a first sentence is told from the second one and what can follow
that. -/
theorem mul {g : Found α → Except Diagnostic (Found β)} (hA : Delimited A P)
    (hle : B * follow Q ≤ follow P) (hB : Completable B [])
    (h : Reaches A P stop tokens x)
    (hg : ∀ found rest, x = .ok (found, rest) → rest.length ≤ tokens.length →
      Reaches B Q stop rest (g (found, rest))) :
    Reaches (A * B) Q stop tokens (x >>= g) := by
  cases h with
  | failed taken rest htokens hextent hbegun hnext =>
      refine .failed taken rest htokens hextent (hbegun.mul_right hB)
        fun kind hkind h => ?_
      rw [mul_assoc] at h
      exact hnext kind hkind (h.mono (mul_le_mul_right hle A))
  | @read found taken rest htokens hsentence hnext =>
      have hlength : rest.length ≤ tokens.length := by simp [htokens]
      -- A text viable for both parts that goes on with the next token has a viable
      -- second part.
      have hsecond : ∀ {more last : List Token} {kind : Token.Kind}, rest = more ++ last →
          kind ∈ (kinds last).head? →
          Viable (A * B * follow Q) (kinds (taken ++ more) ++ [kind]) →
            Viable (B * follow Q) (kinds more ++ [kind]) := by
        intro more last kind hrest hkind hviable
        rw [kinds_append, List.append_assoc] at hviable
        cases more with
        | nil =>
            exact hA.viable_rest hle hsentence
              (hnext kind (by simpa [hrest] using hkind)) hviable
        | cons first more =>
            exact hA.viable_rest hle hsentence
              (hnext first.kind (by simp [hrest])) hviable
      have hresult := hg found rest rfl hlength
      change Reaches (A * B) Q stop tokens (g (found, rest))
      generalize g (found, rest) = y at hresult
      cases hresult with
      | @read _ more last hrest hmore hlast =>
          refine .read (taken ++ more) last (by rw [htokens, hrest, List.append_assoc])
            ⟨kinds taken, hsentence, kinds more, hmore, (kinds_append ..).symm⟩ ?_
          exact fun kind hkind hviable => hlast kind hkind (hsecond hrest hkind hviable)
      | @failed _ more last hrest hextent hbegun hlast =>
          refine .failed (taken ++ more) last
            (by rw [htokens, hrest, List.append_assoc]) hextent ?_ ?_
          · rw [kinds_append]
            exact hbegun.mul_left hsentence
          · exact fun kind hkind hviable => hlast kind hkind (hsecond hrest hkind hviable)

/-- A reader that takes a token, and then reads the rest of the sentences that it
begins. -/
theorem cons (hD : ∀ rest, token.kind :: rest ∈ L ↔ rest ∈ D)
    (hnil : [] ∈ L → ¬ P token.kind) (h : Reaches D P stop rest x) :
    Reaches L P stop (token :: rest) x := by
  cases h with
  | @read found taken last hrest hsentence hnext =>
      refine .read (token :: taken) last (by rw [hrest, List.cons_append])
        ((hD _).2 hsentence) fun kind hkind hviable => ?_
      exact hnext kind hkind (viable_tail (fun rest => (hD rest).1) hnil hviable)
  | @failed _ taken last hrest hextent hbegun hnext =>
      obtain ⟨more, hmore, hrestD⟩ := hbegun
      refine .failed (token :: taken) last (by rw [hrest, List.cons_append]) hextent
        ⟨more, hmore, (hD _).2 hrestD⟩ fun kind hkind hviable => ?_
      exact hnext kind hkind (viable_tail (fun rest => (hD rest).1) hnil hviable)

/-- A reader of nothing. -/
theorem one {found : α} : Reaches 1 P stop tokens (.ok (found, tokens)) := by
  refine .read [] tokens rfl Language.nil_mem_one ?_
  rintro kind hkind ⟨more, sentence, rfl, after, hafter, heq⟩
  obtain rfl : after = kind :: more := heq
  exact cons_mem_follow.1 hafter

/-- A reader that takes nothing, where no sentence begins with the next token. -/
theorem absent {found : α} (hnil : [] ∈ L) (hnext : ∀ more, token.kind :: more ∉ L) :
    Reaches L P stop (token :: rest) (.ok (found, token :: rest)) := by
  refine .read [] (token :: rest) rfl hnil ?_
  rintro kind hkind ⟨more, sentence, hsentence, after, hafter, heq⟩
  obtain rfl : token.kind = kind := by simpa using hkind
  cases sentence with
  | nil =>
      obtain rfl : after = token.kind :: more := heq
      exact cons_mem_follow.1 hafter
  | cons first sentence =>
      obtain ⟨rfl, -⟩ := List.cons.inj heq
      exact absurd hsentence (hnext _)

/-- A reader that takes nothing at the end. -/
theorem absent_nil {found : α} (hnil : [] ∈ L) : Reaches L P stop [] (.ok (found, [])) :=
  .read [] [] rfl hnil (by simp)

/-- A reader that fails at once, where no sentence begins with the next token. -/
theorem stuck {diagnostic : Diagnostic} (hL : Completable L [])
    (hextent : diagnostic.extent = token.extent) (hnil : [] ∈ L → ¬ P token.kind)
    (hnext : ∀ more, token.kind :: more ∉ L) :
    Reaches L P stop (token :: rest) (.error (α := Found α) diagnostic) := by
  refine .failed [] (token :: rest) rfl hextent hL ?_
  intro kind hkind hviable
  obtain rfl : token.kind = kind := by simpa using hkind
  obtain ⟨more, sentence, hsentence, -⟩ : Viable (0 * follow P) [] :=
    viable_tail (fun rest hrest => absurd hrest (hnext rest)) hnil hviable
  exact hsentence

/-- A reader that fails at the end. -/
theorem stuck_nil {diagnostic : Diagnostic} (hL : Completable L [])
    (hextent : diagnostic.extent = ⟨stop, stop⟩) :
    Reaches L P stop [] (.error (α := Found α) diagnostic) :=
  .failed [] [] rfl hextent hL (by simp)

/-- A reader that goes on to refuse some of the sentences it has taken, where each of
these could have become one that is not refused. -/
theorem restrict {g : Found α → Except Diagnostic (Found β)}
    (h : Reaches A P stop tokens x) (hA : Delimited A P) (hle : L ≤ A)
    (hL : ∀ sentence ∈ A, Completable L sentence)
    (hg : ∀ found taken rest, x = .ok (found, rest) → tokens = taken ++ rest →
      kinds taken ∈ A →
      (kinds taken ∈ L ∧ ∃ made, g (found, rest) = .ok (made, rest)) ∨
      (kinds taken ∉ L ∧ ∃ diagnostic, g (found, rest) = .error diagnostic ∧
        diagnostic.extent = placeOf stop rest)) :
    Reaches L P stop tokens (x >>= g) := by
  have hfollow : L * follow P ≤ A * follow P := mul_le_mul_left hle (follow P)
  cases h with
  | @read found taken rest htokens hsentence hnext =>
      change Reaches L P stop tokens (g (found, rest))
      obtain ⟨hkept, made, hmade⟩ | ⟨hrefused, diagnostic, herror, hextent⟩ :=
        hg found taken rest rfl htokens hsentence
      · rw [hmade]
        exact .read taken rest htokens hkept fun kind hkind h =>
          hnext kind hkind (h.mono hfollow)
      · rw [herror]
        refine .failed taken rest htokens hextent (hL _ hsentence) fun kind hkind h => ?_
        have hkindP : P kind := hnext kind hkind (h.mono hfollow)
        obtain ⟨more, other, hother, after, hafter, heq⟩ := h
        obtain ⟨rfl, -⟩ := hA.next hsentence hkindP (hle hother) hafter heq
        exact hrefused hother
  | failed taken rest htokens hextent hbegun hnext =>
      exact .failed taken rest htokens hextent (hbegun.trans hL) fun kind hkind h =>
        hnext kind hkind (h.mono hfollow)

end Reaches

end Turnstile.Condition

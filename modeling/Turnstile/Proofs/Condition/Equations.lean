import Mathlib
import Turnstile.Proofs.Condition.Viable

/-!
# The grammar as equations

The sentences of a nonterminal are a language, and the grammar is a system of equations
between these languages: products for what stands in sequence, and `optionally` for what
may be left out and is told by its first token.  A clause needs an adjective or an
argument behind its copula, which the equation of properties says by a difference.
-/

set_option autoImplicit false

namespace Turnstile.Condition

/-- The sentences of a nonterminal. -/
def sentences (s : Nonterminal) : Language Token.Kind :=
  {text | ∃ d : Derivation s, d.sentence = text}

/-- Nothing, or one of the kinds `heads` with a sentence of `L` behind it. -/
def optionally (heads : Token.Kind → Prop) (L : Language Token.Kind) :
    Language Token.Kind :=
  {text | text = [] ∨ ∃ kind rest, text = kind :: rest ∧ heads kind ∧ rest ∈ L}

/-- A `not`, or nothing. -/
def nots : Language Token.Kind := {text | ∃ negated, notWord negated = text}

/-- Lists of adjectives. -/
def adjectiveLists : Language Token.Kind :=
  {text | ∃ adjectives, adjectiveWords adjectives = text}

/-- What can stand behind a copula, and a lone `not` or nothing besides. -/
def bodies : Language Token.Kind := nots * (adjectiveLists * sentences .arguments)

/-- A closing parenthesis. -/
def closing : Language Token.Kind := {text | text = [.rightParen]}

/-- What stands behind a kind that begins a unary. -/
def behind : Token.Kind → Language Token.Kind
  | .not => sentences .unary
  | .atom _ | .number _ | .literal _ | .duration _ => 1
  | .leftParen => sentences (.chain .or) * closing
  | _ => 0

section

variable {heads P Q : Token.Kind → Prop} {L : Language Token.Kind} {kind : Token.Kind}
  {rest : List Token.Kind} {connective : Connective}

/-- What is optional may be left out. -/
theorem nil_mem_optionally : [] ∈ optionally heads L := Or.inl rfl

/-- What is optional can be left out as it is. -/
theorem completable_optionally : Completable (optionally heads L) [] :=
  .of_mem nil_mem_optionally

/-- If it is there it begins with one of its heads. -/
theorem cons_mem_optionally :
    kind :: rest ∈ optionally heads L ↔ heads kind ∧ rest ∈ L := by
  constructor
  · rintro (h | ⟨kind', rest', h, hkind, hrest⟩)
    · simp at h
    · obtain ⟨rfl, rfl⟩ := List.cons.inj h
      exact ⟨hkind, hrest⟩
  · rintro ⟨hkind, hrest⟩
    exact Or.inr ⟨kind, rest, rfl, hkind, hrest⟩

/-- What can follow an optional sentence can follow what stands before it. -/
theorem optionally_mul_follow (hheads : ∀ kind, heads kind → P kind)
    (hle : ∀ kind, Q kind → P kind) :
    optionally heads L * follow Q ≤ follow P := by
  rintro _ ⟨_, rfl | ⟨kind, rest, rfl, hkind, -⟩, after, hafter, rfl⟩
  · exact follow_mono hle hafter
  · exact cons_mem_follow.2 (hheads kind hkind)

/-- A sentence goes on until a token of greater rank comes. -/
theorem delimited_sentences (s : Nonterminal) :
    Delimited (sentences s) (·.rank ≤ s.rank) := by
  rintro _ _ after other ⟨d, rfl⟩ ⟨e, rfl⟩ hafter hother h
  obtain ⟨rfl, rfl⟩ := d.unique h hafter hother
  exact ⟨rfl, rfl⟩

/-- Every nonterminal has a sentence that is `x` or empty. -/
theorem completable_nil (s : Nonterminal) : Completable (sentences s) [] := by
  let word : Derivation .value := .atom ["x"]
  let property : Derivation .property := .plain (.value word)
  let conjunction : Derivation (.chain .and) :=
    .chain (.conjunct (.alone property)) .noMore
  have hword : ∀ kind ∈ [Token.Kind.atom ["x"]], kind.IsFiller :=
    List.forall_mem_singleton.2 .word
  cases s with
  | chain connective =>
      cases connective with
      | and => exact ⟨_, hword, conjunction, rfl⟩
      | or => exact ⟨_, hword, .chain (.disjunct conjunction) .noMore, rfl⟩
  | operand connective =>
      cases connective with
      | and => exact ⟨_, hword, .conjunct (.alone property), rfl⟩
      | or => exact ⟨_, hword, .disjunct conjunction, rfl⟩
  | more connective => exact .of_mem ⟨.noMore, rfl⟩
  | comparison => exact ⟨_, hword, .alone property, rfl⟩
  | property => exact ⟨_, hword, property, rfl⟩
  | arguments => exact .of_mem ⟨.noArgument, rfl⟩
  | unary => exact ⟨_, hword, .value word, rfl⟩
  | value => exact ⟨_, hword, word, rfl⟩

/-- A chain is an operand and what follows it. -/
theorem sentences_chain :
    sentences (.chain connective) =
      sentences (.operand connective) * sentences (.more connective) := by
  ext text
  constructor
  · rintro ⟨d, rfl⟩
    cases d with
    | chain first more => exact ⟨_, ⟨first, rfl⟩, _, ⟨more, rfl⟩, rfl⟩
  · rintro ⟨_, ⟨first, rfl⟩, _, ⟨more, rfl⟩, rfl⟩
    exact ⟨.chain first more, rfl⟩

/-- The operands of `or` are chains of `and`. -/
theorem sentences_disjunct : sentences (.operand .or) = sentences (.chain .and) := by
  ext text
  constructor
  · rintro ⟨d, rfl⟩
    cases d with
    | disjunct conjunction => exact ⟨conjunction, rfl⟩
  · rintro ⟨conjunction, rfl⟩
    exact ⟨.disjunct conjunction, rfl⟩

/-- The operands of `and` are comparisons. -/
theorem sentences_conjunct : sentences (.operand .and) = sentences .comparison := by
  ext text
  constructor
  · rintro ⟨d, rfl⟩
    cases d with
    | conjunct comparison => exact ⟨comparison, rfl⟩
  · rintro ⟨comparison, rfl⟩
    exact ⟨.conjunct comparison, rfl⟩

/-- Further operands begin with the word of their connective. -/
theorem sentences_more :
    sentences (.more connective) = optionally (· = connective.word)
      (sentences (.operand connective) * sentences (.more connective)) := by
  ext text
  constructor
  · rintro ⟨d, rfl⟩
    cases d with
    | noMore => exact nil_mem_optionally
    | oneMore operand more =>
        exact cons_mem_optionally.2 ⟨rfl, _, ⟨operand, rfl⟩, _, ⟨more, rfl⟩, rfl⟩
  · rintro (rfl | ⟨_, _, rfl, rfl, _, ⟨operand, rfl⟩, _, ⟨more, rfl⟩, rfl⟩)
    · exact ⟨.noMore, rfl⟩
    · exact ⟨.oneMore operand more, rfl⟩

/-- A property may be compared with another one. -/
theorem sentences_comparison :
    sentences .comparison = sentences .property *
      optionally (fun kind => ∃ o : Operator, kind = .operator o.text)
        (sentences .property) := by
  ext text
  constructor
  · rintro ⟨d, rfl⟩
    cases d with
    | alone property =>
        exact ⟨_, ⟨property, rfl⟩, _, nil_mem_optionally, List.append_nil _⟩
    | compared left o right =>
        exact ⟨_, ⟨left, rfl⟩, _, cons_mem_optionally.2 ⟨⟨o, rfl⟩, right, rfl⟩, rfl⟩
  · rintro ⟨_, ⟨left, rfl⟩, _, rfl | ⟨_, _, rfl, ⟨o, rfl⟩, right, rfl⟩, rfl⟩
    · exact ⟨.alone left, (List.append_nil _).symm⟩
    · exact ⟨.compared left o right, rfl⟩

/-- There is a `not` or there is none. -/
theorem nots_eq : nots = optionally (· = .not) 1 := by
  ext text
  constructor
  · rintro ⟨negated, rfl⟩
    cases negated with
    | false => exact nil_mem_optionally
    | true => exact cons_mem_optionally.2 ⟨rfl, Language.nil_mem_one⟩
  · rintro (rfl | ⟨_, _, rfl, rfl, rfl⟩)
    · exact ⟨false, rfl⟩
    · exact ⟨true, rfl⟩

/-- Adjectives are atoms of one segment, one after the other. -/
theorem adjectiveLists_eq :
    adjectiveLists =
      optionally (fun kind => ∃ word, kind = .atom [word]) adjectiveLists := by
  ext text
  constructor
  · rintro ⟨adjectives, rfl⟩
    cases adjectives with
    | nil => exact nil_mem_optionally
    | cons word words => exact cons_mem_optionally.2 ⟨⟨word, rfl⟩, words, rfl⟩
  · rintro (rfl | ⟨_, _, rfl, ⟨word, rfl⟩, words, rfl⟩)
    · exact ⟨[], rfl⟩
    · exact ⟨word :: words, rfl⟩

/-- Behind a copula stands an adjective or an argument, unless there is only a `not` or
nothing. -/
theorem body_mem_nots {negated : Bool} {adjectives : List String}
    {arguments : Derivation .arguments} :
    notWord negated ++ (adjectiveWords adjectives ++ arguments.sentence) ∈ nots ↔
      adjectives = [] ∧ arguments = .noArgument := by
  constructor
  · rintro ⟨denied, h⟩
    cases negated <;> cases denied <;> cases adjectives <;> cases arguments <;>
      simp [notWord, adjectiveWords] at h ⊢
  · rintro ⟨rfl, rfl⟩
    exact ⟨negated, (List.append_nil _).symm⟩

/-- Every body goes on to one with an adjective. -/
theorem completable_body {body : List Token.Kind} (h : body ∈ bodies) :
    Completable (bodies - nots) body := by
  obtain
    ⟨_, ⟨negated, rfl⟩, _, ⟨_, ⟨adjectives, rfl⟩, _, ⟨arguments, rfl⟩, rfl⟩, rfl⟩ := h
  by_cases hnone : adjectives = [] ∧ arguments = .noArgument
  · obtain ⟨rfl, rfl⟩ := hnone
    have hsome : notWord negated ++
        (adjectiveWords ["x"] ++ Derivation.noArgument.sentence) ∉ nots :=
      fun h => by simpa using (body_mem_nots.1 h).1
    have hbody :
        notWord negated ++ (adjectiveWords ["x"] ++ Derivation.noArgument.sentence) ∈
          bodies :=
      ⟨_, ⟨negated, rfl⟩, _, ⟨_, ⟨["x"], rfl⟩, _, ⟨.noArgument, rfl⟩, rfl⟩, rfl⟩
    refine ⟨adjectiveWords ["x"], List.forall_mem_singleton.2 .word, ?_⟩
    cases negated <;> exact ⟨hbody, hsome⟩
  · exact .of_mem
      ⟨⟨_, ⟨negated, rfl⟩, _, ⟨_, ⟨adjectives, rfl⟩, _, ⟨arguments, rfl⟩, rfl⟩, rfl⟩,
        fun h => hnone (body_mem_nots.1 h)⟩

/-- A subject may have a copula and what is said of it, which is more than a `not`. -/
theorem sentences_property :
    sentences .property = sentences .unary *
      optionally (fun kind => ∃ copula, kind = .copula copula) (bodies - nots) := by
  ext text
  constructor
  · rintro ⟨d, rfl⟩
    cases d with
    | plain subject => exact ⟨_, ⟨subject, rfl⟩, _, nil_mem_optionally, List.append_nil _⟩
    | described subject copula negated adjective adjectives arguments =>
        have hbody : notWord negated ++
            (adjectiveWords (adjective :: adjectives) ++ arguments.sentence) ∈
              bodies - nots :=
          ⟨⟨_, ⟨negated, rfl⟩, _,
            ⟨_, ⟨adjective :: adjectives, rfl⟩, _, ⟨arguments, rfl⟩, rfl⟩, rfl⟩,
            fun h => by simpa using (body_mem_nots.1 h).1⟩
        exact ⟨_, ⟨subject, rfl⟩, _, cons_mem_optionally.2 ⟨⟨copula, rfl⟩, hbody⟩, rfl⟩
    | placed subject copula negated preposition place arguments =>
        have hbody : notWord negated ++ (adjectiveWords [] ++
            (Derivation.argument preposition place arguments).sentence) ∈ bodies - nots :=
          ⟨⟨_, ⟨negated, rfl⟩, _, ⟨_, ⟨[], rfl⟩, _, ⟨_, rfl⟩, rfl⟩, rfl⟩,
            fun h => by simpa using (body_mem_nots.1 h).2⟩
        exact ⟨_, ⟨subject, rfl⟩, _, cons_mem_optionally.2 ⟨⟨copula, rfl⟩, hbody⟩, rfl⟩
  · rintro ⟨_, ⟨subject, rfl⟩, _, rfl | ⟨_, _, rfl, ⟨copula, rfl⟩, hbody, hsome⟩, rfl⟩
    · exact ⟨.plain subject, (List.append_nil _).symm⟩
    · obtain ⟨_, ⟨negated, rfl⟩, _,
          ⟨_, ⟨adjectives, rfl⟩, _, ⟨arguments, rfl⟩, rfl⟩, rfl⟩ := hbody
      cases adjectives with
      | cons adjective adjectives =>
          exact ⟨.described subject copula negated adjective adjectives arguments, rfl⟩
      | nil =>
          cases arguments with
          | noArgument => exact absurd (body_mem_nots.2 ⟨rfl, rfl⟩) hsome
          | argument preposition place arguments =>
              exact ⟨.placed subject copula negated preposition place arguments, rfl⟩

/-- Arguments are unaries, each after its preposition. -/
theorem sentences_arguments :
    sentences .arguments =
      optionally (fun kind => ∃ preposition, kind = .preposition preposition)
      (sentences .unary * sentences .arguments) := by
  ext text
  constructor
  · rintro ⟨d, rfl⟩
    cases d with
    | noArgument => exact nil_mem_optionally
    | argument preposition place arguments =>
        exact cons_mem_optionally.2
          ⟨⟨preposition, rfl⟩, _, ⟨place, rfl⟩, _, ⟨arguments, rfl⟩, rfl⟩
  · rintro (rfl | ⟨_, _, rfl, ⟨preposition, rfl⟩, _, ⟨place, rfl⟩, _,
      ⟨arguments, rfl⟩, rfl⟩)
    · exact ⟨.noArgument, rfl⟩
    · exact ⟨.argument preposition place arguments, rfl⟩

/-- What has to be closed can be closed. -/
theorem completable_closing : Completable closing [] :=
  ⟨[.rightParen], List.forall_mem_singleton.2 .rightParen, rfl⟩

/-- What has to be closed is not closed yet. -/
theorem nil_notMem_closing : [] ∉ closing := List.cons_ne_nil _ _ ∘ Eq.symm

/-- A parenthesis alone closes it. -/
theorem cons_mem_closing :
    kind :: rest ∈ closing ↔ kind = .rightParen ∧ rest ∈ (1 : Language _) :=
  List.cons_eq_cons

/-- A unary is not empty. -/
theorem nil_notMem_unary : [] ∉ sentences .unary := by
  rintro ⟨d, h⟩
  cases d with
  | negation operand => simp at h
  | value v => cases v <;> simp at h

/-- What stands behind the first token of a unary depends on that token. -/
theorem cons_mem_unary : kind :: rest ∈ sentences .unary ↔ rest ∈ behind kind := by
  constructor
  · rintro ⟨d, h⟩
    cases d with
    | negation operand =>
        obtain ⟨rfl, rfl⟩ := List.cons.inj h
        exact ⟨operand, rfl⟩
    | value v =>
        cases v with
        | group inner =>
            obtain ⟨rfl, rfl⟩ := List.cons.inj h
            exact ⟨_, ⟨inner, rfl⟩, _, rfl, rfl⟩
        | _ =>
            obtain ⟨rfl, rfl⟩ := List.cons.inj h
            exact Language.nil_mem_one
  · intro h
    cases kind with
    | not =>
        obtain ⟨operand, rfl⟩ := h
        exact ⟨.negation operand, rfl⟩
    | atom path =>
        obtain rfl : rest = [] := h
        exact ⟨.value (.atom path), rfl⟩
    | number v =>
        obtain rfl : rest = [] := h
        exact ⟨.value (.number v), rfl⟩
    | literal v =>
        obtain rfl : rest = [] := h
        exact ⟨.value (.literal v), rfl⟩
    | duration seconds =>
        obtain rfl : rest = [] := h
        exact ⟨.value (.duration seconds), rfl⟩
    | leftParen =>
        obtain ⟨_, ⟨inner, rfl⟩, _, rfl, rfl⟩ := h
        exact ⟨.value (.group inner), rfl⟩
    | _ => exact absurd h (Language.notMem_zero _)

end

end Turnstile.Condition

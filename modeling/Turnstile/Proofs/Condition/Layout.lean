import Mathlib
import Turnstile.Proofs.Condition.NormalForm
import Turnstile.Proofs.Condition.Reads
import Turnstile.Proofs.Condition.Spelling

/-!
# Programs up to layout

A source compiles when what it spells has a derivation, and the program is the
simplified code of that derivation (`Program.compile_eq_ok`).  So sources that spell the
same compile to the same program, and parentheses add nothing to it.

A negation adds `TO_BOOL`, `NOT` to the code.  Simplified code depends on their number
only by its parity, because code of a derivation never ends with a negation of something
just loaded (`Derivation.settled`).
-/

set_option autoImplicit false

namespace Turnstile.Condition

/-! ## Compiling -/

/-- A source compiles just when its tokens have a derivation, to the simplified code of
that. -/
theorem Program.compile_eq_ok {source : String} {p : Program} :
    Program.compile source = .ok p ↔
      ∃ d : Derivation (.chain .or), Spells source.toList d.sentence ∧
        p = ⟨source, d.code.simplify⟩ := by
  have hparse : ∀ e, Expression.parse source = .ok e ↔
      ∃ d : Derivation (.chain .or), Spells source.toList d.sentence ∧ d.meaning = e := by
    intro e
    unfold Expression.parse
    cases hflaw : (scan source).flaw with
    | some flaw => simp only [spells_iff, hflaw, reduceCtorEq, false_and, exists_false]
    | none =>
        simp only [spells_iff, hflaw, true_and, readTokens_eq_ok, eq_comm (a := kinds _)]
  constructor
  · intro h
    unfold compile at h
    split at h
    next e he =>
      cases h
      obtain ⟨d, hd, rfl⟩ := (hparse e).1 he
      exact ⟨d, hd,
        congrArg (fun code => Program.mk source (Code.simplify code)) d.code_meaning⟩
    next => cases h
  · rintro ⟨d, hd, rfl⟩
    unfold compile
    rw [(hparse d.meaning).2 ⟨d, hd, rfl⟩]
    exact congrArg (fun code => Except.ok (Program.mk source (Code.simplify code)))
      d.code_meaning

/-! ## Settled code -/

namespace Code

/-- The last instruction that stays yields a boolean, or nothing adjusts it, or it is
coerced first. -/
def Settled (code : Code) : Prop :=
  ∃ before stay after, code = before ++ stay :: after ∧ stay.adjusts = false ∧
    skeleton after = [] ∧
    (stay.yieldsBool = true ∨ after = [] ∨ ∃ rest, after = .toBool :: rest)

/-- Code before settled code leaves it settled. -/
theorem Settled.append {code : Code} (h : Settled code) (first : Code) :
    Settled (first ++ code) := by
  obtain ⟨before, stay, after, rfl, hrest⟩ := h
  exact ⟨first ++ before, stay, after, by rw [List.append_assoc], hrest⟩

/-- So does one instruction. -/
theorem Settled.cons {code : Code} (h : Settled code) (first : Instr) :
    Settled (first :: code) :=
  h.append [first]

/-- An instruction that stays, alone. -/
theorem settled_singleton {stay : Instr} (h : stay.adjusts = false) : Settled [stay] :=
  ⟨[], stay, [], rfl, h, rfl, .inr (.inl rfl)⟩

/-- What yields a boolean, and is perhaps negated. -/
theorem settled_negation {stay : Instr} (h : stay.adjusts = false)
    (hyields : stay.yieldsBool = true) (negated : Bool) :
    Settled (stay :: negation negated) :=
  ⟨[], stay, negation negated, rfl, h, by cases negated <;> rfl, .inl hyields⟩

/-- Settled code stays so when it is coerced and negated. -/
theorem Settled.negated {code : Code} (h : Settled code) :
    Settled (code ++ [.toBool, .not]) := by
  obtain ⟨before, stay, after, rfl, hstay, hafter, hcoerced⟩ := h
  refine ⟨before, stay, after ++ [.toBool, .not], by simp, hstay, ?_, ?_⟩
  · rw [skeleton_append, hafter]
    rfl
  · rcases hcoerced with hyields | rfl | ⟨rest, rfl⟩
    · exact .inl hyields
    · exact .inr (.inr ⟨_, rfl⟩)
    · exact .inr (.inr ⟨_, rfl⟩)

/-- **Parity.**  What adjusts settled code and coerces it first counts by the parity of
its negations. -/
theorem Settled.simplify_append {code first second : Code} (h : Settled code)
    (hfirst : skeleton (.toBool :: first) = [])
    (hsecond : skeleton (.toBool :: second) = [])
    (hparity : negations first % 2 = negations second % 2) :
    simplify (code ++ (.toBool :: first : Code)) =
      simplify (code ++ (.toBool :: second : Code)) := by
  obtain ⟨before, stay, after, rfl, hstay, hafter, hcoerced⟩ := h
  have hblock : simplify (stay :: (after ++ (.toBool :: first : Code))) =
      simplify (stay :: (after ++ (.toBool :: second : Code))) := by
    refine simplify_block hstay ?_ ?_ ?_ ?_
    · rw [skeleton_append, hafter, hfirst]
      rfl
    · rw [skeleton_append, hafter, hsecond]
      rfl
    · simp only [negations_append, negations_cons]
      omega
    · rcases hcoerced with hyields | rfl | ⟨rest, rfl⟩
      · exact .inl hyields
      · exact .inr ⟨⟨_, rfl⟩, ⟨_, rfl⟩⟩
      · exact .inr ⟨⟨_, rfl⟩, ⟨_, rfl⟩⟩
  rw [List.append_assoc, List.append_assoc, List.cons_append, List.cons_append,
    Code.simplify_append hstay, Code.simplify_append hstay, hblock]

end Code

/-- Whether a nonterminal may have no code. -/
def Nonterminal.isList : Nonterminal → Bool
  | .more _ | .arguments => true
  | _ => false

/-- **Derivations are settled.**  The code of a derivation is settled, or it is the code
of no operand or argument. -/
theorem Derivation.settled {s : Nonterminal} (d : Derivation s) :
    Code.Settled d.code ∨ (d.code = [] ∧ s.isList = true) := by
  induction d with
  | @chain connective first more ihfirst ihmore =>
      have hfirst : Code.Settled first.code :=
        ihfirst.resolve_right (by simp [Nonterminal.isList])
      cases more with
      | noMore => exact .inl hfirst
      | oneMore second more =>
          have hmore := ihmore.resolve_right (by simp [code])
          exact .inl ((hmore.cons .toBool).append first.code)
  | disjunct conjunction ih =>
      exact .inl (ih.resolve_right (by simp [Nonterminal.isList]))
  | conjunct comparison ih => exact .inl (ih.resolve_right (by simp [Nonterminal.isList]))
  | noMore => exact .inr ⟨rfl, rfl⟩
  | @oneMore connective operand more _ ihmore =>
      have hmore : Code.Settled (connective.instr :: more.code) := by
        rcases ihmore with hmore | ⟨hnone, -⟩
        · exact hmore.cons connective.instr
        · rw [hnone]
          exact Code.settled_singleton (by cases connective <;> rfl)
      exact .inl ((hmore.cons .toBool).append operand.code)
  | alone property ih => exact .inl (ih.resolve_right (by simp [Nonterminal.isList]))
  | compared left operator right _ _ =>
      have hoperator : Code.Settled operator.code := by
        cases operator
        · exact Code.settled_negation rfl rfl false
        · exact Code.settled_negation rfl rfl true
        · exact Code.settled_negation rfl rfl false
        · exact Code.settled_negation rfl rfl false
        · exact Code.settled_negation rfl rfl true
        · exact Code.settled_negation rfl rfl true
      exact .inl (hoperator.append (left.code ++ right.code))
  | plain subject ih => exact .inl (ih.resolve_right (by simp [Nonterminal.isList]))
  | described subject copula negated adjective adjectives arguments _ _ =>
      exact .inl
        ((Code.settled_negation rfl rfl negated).append (subject.code ++ arguments.code))
  | placed subject copula negated preposition place arguments _ _ _ =>
      exact .inl ((Code.settled_negation rfl rfl negated).append
        (subject.code ++ (place.code ++ arguments.code)))
  | noArgument => exact .inr ⟨rfl, rfl⟩
  | argument preposition place arguments ihplace iharguments =>
      have hplace := ihplace.resolve_right (by simp [Nonterminal.isList])
      rcases iharguments with harguments | ⟨hnone, -⟩
      · exact .inl (harguments.append place.code)
      · rw [code, hnone, List.append_nil]
        exact .inl hplace
  | negation operand ih =>
      exact .inl (ih.resolve_right (by simp [Nonterminal.isList])).negated
  | value inner ih => exact .inl (ih.resolve_right (by simp [Nonterminal.isList]))
  | atom path => exact .inl (Code.settled_singleton rfl)
  | literal v => exact .inl (Code.settled_singleton rfl)
  | number v => exact .inl (Code.settled_singleton rfl)
  | duration seconds => exact .inl (Code.settled_singleton rfl)
  | group inner ih => exact .inl (ih.resolve_right (by simp [Nonterminal.isList]))

/-! ## Groups -/

/-- A derivation in parentheses, behind some negations. -/
def Derivation.grouped (d : Derivation (.chain .or)) : Nat → Derivation .unary
  | 0 => .value (.group d)
  | negations + 1 => .negation (d.grouped negations)

/-- A unary as a whole condition. -/
def Derivation.whole (d : Derivation .unary) : Derivation (.chain .or) :=
  .chain (.disjunct (.chain (.conjunct (.alone (.plain d))) .noMore)) .noMore

/-- The sentence of a negated group is the sentence in parentheses after the negations.
-/
theorem Derivation.sentence_grouped (d : Derivation (.chain .or)) (negations : Nat) :
    (d.grouped negations).sentence =
      List.replicate negations Token.Kind.not ++
        Token.Kind.leftParen :: (d.sentence ++ [Token.Kind.rightParen]) := by
  induction negations with
  | zero => rfl
  | succ negations ih => exact congrArg (Token.Kind.not :: ·) ih

/-- The program of a source in parentheses, behind some negations. -/
theorem Program.compile_grouped {source other : String} {d : Derivation (.chain .or)}
    (h : Spells source.toList d.sentence) (negations : Nat)
    (hother : other.toList = grouped negations source.toList) :
    Program.compile other = .ok ⟨other, (d.grouped negations).code.simplify⟩ := by
  have hspells := h.grouped negations
  rw [← d.sentence_grouped, ← hother] at hspells
  refine Program.compile_eq_ok.2 ⟨(d.grouped negations).whole, ?_, rfl⟩
  simpa [Derivation.whole] using hspells

/-! ## Equality -/

/-- A value with nothing inside. -/
def IsScalar : Value → Prop
  | .arr _ | .obj _ => False
  | _ => True

/-- A kind that stands for no array or object. -/
def Token.Kind.IsPlain : Token.Kind → Prop
  | .literal value | .number value => IsScalar value
  | _ => True

/-- An instruction that loads no constant array or object. -/
def Instr.IsPlain : Instr → Prop
  | .literal value => IsScalar value
  | _ => True

/-- A scalar is identical to itself. -/
theorem IsScalar.identical_self {value : Value} (h : IsScalar value) :
    value.identical value = true := by
  cases value with
  | num n =>
      cases n <;>
        simp [Value.identical, Value.sameBy, Number.sameKind, Binary64.sameValue]
  | arr items => cases h
  | obj fields => cases h
  | _ => simp [Value.identical, Value.sameBy]

/-- Numbers are scalars. -/
theorem wordNumber?_scalar {word : List Char} {value : Value}
    (h : wordNumber? word = some value) :
    IsScalar value := by
  unfold wordNumber? at h
  split at h
  · cases h
    trivial
  split at h
  · split at h <;> cases h <;> trivial
  · cases h

/-- Keywords are plain. -/
theorem keyword?_plain {word : String} {kind : Token.Kind}
    (h : keyword? word = some kind) :
    kind.IsPlain := by
  unfold keyword? at h
  repeat' split at h
  all_goals cases h <;> trivial

/-- The tokens of a source are plain. -/
theorem Lexeme.plain {text : List Char} {kind : Token.Kind} (h : Lexeme text kind) :
    kind.IsPlain := by
  cases h with
  | word _ hkind =>
      simp only [Token.Kind.ofWord?] at hkind
      split at hkind
      · cases hkind
        trivial
      split at hkind
      next value hvalue =>
        cases hkind
        exact wordNumber?_scalar hvalue
      split at hkind
      · cases hkind
        trivial
      split at hkind
      next kind hword =>
        cases hkind
        exact keyword?_plain hword
      split at hkind
      · cases hkind
      · cases hkind
        trivial
  | _ => trivial

/-- All that can be spelled is plain. -/
theorem Spells.plain {text : List Char} {words : List Token.Kind}
    (h : Spells text words) :
    ∀ kind ∈ words, kind.IsPlain := by
  induction h with
  | done => exact fun kind hkind => absurd hkind List.not_mem_nil
  | token _ h _ _ ih => exact List.forall_mem_cons.2 ⟨h.plain, ih⟩

@[simp] theorem Connective.plain_instr (connective : Connective) :
    connective.instr.IsPlain := by
  cases connective <;> trivial

@[simp] theorem plain_negation (negated : Bool) :
    ∀ instr ∈ negation negated, instr.IsPlain := by
  cases negated <;> simp [negation, Instr.IsPlain]

@[simp] theorem Operator.plain_code (operator : Operator) :
    ∀ instr ∈ operator.code, instr.IsPlain := by
  cases operator <;> simp [Operator.code, Instr.IsPlain]

/-- Code loads the constants of the sentence. -/
theorem Derivation.plain_code {s : Nonterminal} (d : Derivation s)
    (h : ∀ kind ∈ d.sentence, kind.IsPlain) : ∀ instr ∈ d.code, instr.IsPlain := by
  induction d with
  | @chain connective first more ihfirst ihmore =>
      rw [sentence, List.forall_mem_append] at h
      cases more with
      | noMore => exact ihfirst h.1
      | oneMore second more =>
          have hmore := ihmore h.2
          exact List.forall_mem_append.2
            ⟨ihfirst h.1, List.forall_mem_cons.2 ⟨trivial, hmore⟩⟩
  | disjunct conjunction ih => exact ih h
  | conjunct comparison ih => exact ih h
  | noMore => simp [code]
  | @oneMore connective operand more ihoperand ihmore =>
      rw [sentence, List.forall_mem_cons, List.forall_mem_append] at h
      exact List.forall_mem_append.2 ⟨ihoperand h.2.1, List.forall_mem_cons.2 ⟨trivial,
        List.forall_mem_cons.2 ⟨connective.plain_instr, ihmore h.2.2⟩⟩⟩
  | alone property ih => exact ih h
  | compared left operator right ihleft ihright =>
      rw [sentence, List.forall_mem_append, List.forall_mem_cons] at h
      exact List.forall_mem_append.2
        ⟨List.forall_mem_append.2 ⟨ihleft h.1, ihright h.2.2⟩,
          operator.plain_code⟩
  | plain subject ih => exact ih h
  | described subject copula negated adjective adjectives arguments
      ihsubject iharguments =>
        simp only [sentence, List.forall_mem_append, List.forall_mem_cons] at h
        obtain ⟨hsubject, -, -, -, harguments⟩ := h
        exact List.forall_mem_append.2 ⟨List.forall_mem_append.2 ⟨ihsubject hsubject,
          iharguments harguments⟩,
          List.forall_mem_cons.2 ⟨trivial, plain_negation negated⟩⟩
  | placed subject copula negated preposition place arguments ihsubject
      ihplace iharguments =>
        simp only [sentence, List.forall_mem_append, List.forall_mem_cons] at h
        obtain ⟨hsubject, -, -, -, hplace, harguments⟩ := h
        exact List.forall_mem_append.2 ⟨List.forall_mem_append.2 ⟨ihsubject hsubject,
          List.forall_mem_append.2 ⟨ihplace hplace, iharguments harguments⟩⟩,
          List.forall_mem_cons.2 ⟨trivial, plain_negation negated⟩⟩
  | noArgument => simp [code]
  | argument preposition place arguments ihplace iharguments =>
      rw [sentence, List.forall_mem_cons, List.forall_mem_append] at h
      exact List.forall_mem_append.2 ⟨ihplace h.2.1, iharguments h.2.2⟩
  | negation operand ih =>
      rw [sentence, List.forall_mem_cons] at h
      refine List.forall_mem_append.2 ⟨ih h.2, ?_⟩
      simp [Instr.IsPlain]
  | value inner ih => exact ih h
  | atom path => simp [code, Instr.IsPlain]
  | literal v => simpa [code, Instr.IsPlain, Token.Kind.IsPlain] using h
  | number v => simpa [code, Instr.IsPlain, Token.Kind.IsPlain] using h
  | duration seconds => simp [code, Instr.IsPlain, IsScalar, Value.int]
  | group inner ih =>
      rw [sentence, List.forall_mem_cons, List.forall_mem_append] at h
      exact ih h.2.1

/-- Simplified code loads nothing new. -/
theorem Code.plain_simplify {code : Code} (h : ∀ instr ∈ code, instr.IsPlain) :
    ∀ instr ∈ code.simplify, instr.IsPlain := by
  intro instr hinstr
  cases hadjusts : instr.adjusts with
  | true => cases instr <;> trivial
  | false =>
      have hstays : instr ∈ code.simplify.skeleton :=
        List.mem_filter.2 ⟨hinstr, by rw [hadjusts]; rfl⟩
      rw [skeleton_simplify] at hstays
      exact h instr (List.mem_filter.1 hstays).1

/-- Plain code is the same as itself. -/
theorem Code.same_self {code : Code} (h : ∀ instr ∈ code, instr.IsPlain) :
    code.same code = true := by
  induction code with
  | nil => rfl
  | cons instr rest ih =>
      obtain ⟨hinstr, hrest⟩ := List.forall_mem_cons.1 h
      have hself : instr.same instr = true := by
        cases instr with
        | literal value => exact IsScalar.identical_self hinstr
        | _ => simp [Instr.same]
      rw [Code.same, hself, ih hrest]
      rfl

/-- The constants of a compiled program are scalars. -/
theorem Program.plain {source : String} {p : Program}
    (h : Program.compile source = .ok p) :
    ∀ instr ∈ p.code, instr.IsPlain := by
  obtain ⟨d, hd, rfl⟩ := Program.compile_eq_ok.1 h
  exact Code.plain_simplify (d.plain_code hd.plain)

/-- A compiled program equals every program of the same code. -/
theorem Program.same_of_code {source : String} {p q : Program}
    (h : Program.compile source = .ok p) (hcode : p.code = q.code) : p.same q = true := by
  rw [Program.same, ← hcode]
  exact Code.same_self (Program.plain h)

/-! ## Layout and redundant negations -/

/-- **Layout.**  A source that compiles has the same program as every source with the
same tokens, in particular as its tokens with any gaps between them, and as itself in
parentheses.  Three negations of it make the same program as one. -/
theorem Program.same_of_layout {source : String} {p : Program}
    (h : Program.compile source = .ok p) :
    (∀ other, (scan other).flaw = none →
      (scan other).tokens.map Token.text = (scan source).tokens.map Token.text →
        ∃ q, Program.compile other = .ok q ∧ p.same q = true) ∧
    (∀ pieces last, Spaced pieces last →
      pieces.map Prod.snd = (scan source).tokens.map Token.text →
        ∃ q, Program.compile (String.ofList (woven pieces last)) = .ok q ∧
          p.same q = true) ∧
    (∃ q, Program.compile ("(" ++ source ++ "\n)") = .ok q ∧ p.same q = true) ∧
    ∃ q r, Program.compile ("not not not (" ++ source ++ "\n)") = .ok q ∧
      Program.compile ("not (" ++ source ++ "\n)") = .ok r ∧ q.same r = true := by
  obtain ⟨d, hd, rfl⟩ := Program.compile_eq_ok.1 h
  have hkinds : kinds (scan source).tokens = d.sentence := (spells_iff.1 hd).2
  have hcompile : ∀ other, Spells other.toList d.sentence →
      ∃ q, Program.compile other = .ok q ∧
        (Program.mk source d.code.simplify).same q = true :=
    fun other hother =>
      ⟨_, Program.compile_eq_ok.2 ⟨d, hother, rfl⟩, Program.same_of_code h rfl⟩
  refine ⟨fun other hflaw htexts => ?_, fun pieces last hspaced htexts => ?_, ?_, ?_⟩
  · refine hcompile other (spells_iff.2 ⟨hflaw, ?_⟩)
    rw [← hkinds]
    exact lexemes_unique (htexts ▸ lexemes_scan other) (lexemes_scan source)
  · refine hcompile _ ?_
    rw [String.toList_ofList, ← hkinds]
    refine spells_woven hspaced ?_
    have hlexemes := lexemes_scan source
    rwa [← htexts, List.forall₂_map_left_iff] at hlexemes
  · exact ⟨_, Program.compile_grouped hd 0 (by simp [grouped]),
      Program.same_of_code h rfl⟩
  · have hnot := @Program.compile_grouped source ("not (" ++ source ++ "\n)") d hd 1
      (by simp [grouped])
    have hnots :=
      @Program.compile_grouped source ("not not not (" ++ source ++ "\n)") d hd 3
        (by simp [grouped])
    refine ⟨_, _, hnots, hnot, Program.same_of_code hnots ?_⟩
    have hsettled : Code.Settled d.code :=
      d.settled.resolve_right (by simp [Nonterminal.isList])
    have hsame :
        Code.simplify (d.code ++ ([.toBool, .not, .toBool, .not, .toBool, .not] : Code)) =
          Code.simplify (d.code ++ ([.toBool, .not] : Code)) :=
      hsettled.simplify_append rfl rfl rfl
    simpa [Derivation.grouped, Derivation.code] using hsame

/-- A negated clause before a comment: laid out over lines it is the same program, also
in parentheses, and its triple negation is its negation. -/
theorem Program.same_of_layout_door :
    let source := "not door is open since 5m # stale"
    let other := "not # the\n# front\n  door is\topen since 5m"
    ∃ p, Program.compile source = .ok p ∧
      (∃ q, Program.compile other = .ok q ∧ p.same q = true) ∧
      (∃ q, Program.compile ("(" ++ source ++ "\n)") = .ok q ∧ p.same q = true) ∧
      ∃ q r, Program.compile ("not not not (" ++ source ++ "\n)") = .ok q ∧
        Program.compile ("not (" ++ source ++ "\n)") = .ok r ∧ q.same r = true := by
  intro source other
  obtain ⟨p, hp⟩ : ∃ p, Program.compile source = .ok p := ⟨_, by cbv⟩
  obtain ⟨htokens, -, hgroup, hnegations⟩ := Program.same_of_layout hp
  have hflaw : (scan other).flaw = none := by cbv
  have htexts :
      (scan other).tokens.map Token.text = (scan source).tokens.map Token.text := by cbv
  exact ⟨p, hp, htokens other hflaw htexts, hgroup, hnegations⟩

end Turnstile.Condition

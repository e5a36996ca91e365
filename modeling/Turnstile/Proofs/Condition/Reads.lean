import Mathlib
import Turnstile.Proofs.Condition.Acceptance
import Turnstile.Proofs.Condition.Simplification

/-!
# What conditions read

Running code looks at a scope only through its properties and the paths of its lookups
(`Code.run_congr`).  A program lists these paths as dotted texts, so nothing is lost if
splitting a text at its dots gives the path back: the path comes of a word of the source
that was split there (`Program.written`), and joining what was split gives the word.
-/

set_option autoImplicit false

namespace Turnstile

namespace Text

/-! ## Sorted names -/

/-- To insert a name adds it and nothing else. -/
theorem mem_insertName {name other : String} {names : List String} :
    other ∈ insertName name names ↔ other = name ∨ other ∈ names := by
  fun_induction insertName name names with
  | case1 => simp
  | case2 rest => simp
  | case3 first rest => simp
  | case4 first rest hne hlt ih => rw [List.mem_cons, ih, List.mem_cons]; tauto

/-- Sorting keeps the names. -/
@[simp] theorem mem_sortedNames {name : String} {names : List String} :
    name ∈ sortedNames names ↔ name ∈ names := by
  induction names with
  | nil => rfl
  | cons first rest ih =>
    rw [sortedNames, List.foldr_cons, mem_insertName, List.mem_cons]
    exact or_congr_right ih

/-- To insert a name keeps names sorted. -/
theorem pairwise_insertName {name : String} {names : List String}
    (h : names.Pairwise (· < ·)) :
    (insertName name names).Pairwise (· < ·) := by
  fun_induction insertName name names with
  | case1 => simp
  | case2 rest => exact h
  | case3 first rest hne hlt =>
    refine List.pairwise_cons.2 ⟨fun other hother => ?_, h⟩
    rcases List.mem_cons.1 hother with rfl | hrest
    · exact hlt
    · exact lt_trans hlt (List.rel_of_pairwise_cons h hrest)
  | case4 first rest hne hlt ih =>
    obtain ⟨hfirst, hrest⟩ := List.pairwise_cons.1 h
    refine List.pairwise_cons.2 ⟨fun other hother => ?_, ih hrest⟩
    rcases mem_insertName.1 hother with rfl | hold
    · exact lt_of_le_of_ne (not_lt.1 hlt) (Ne.symm hne)
    · exact hfirst other hold

/-- Sorted names are in order, and each stands there once. -/
theorem pairwise_sortedNames (names : List String) :
    (sortedNames names).Pairwise (· < ·) := by
  induction names with
  | nil => exact .nil
  | cons first rest ih => exact pairwise_insertName ih

end Text

namespace Value

/-! ## Dotted paths -/

/-- A word has a segment. -/
theorem splitDots_ne_nil (word : List Char) : splitDots word ≠ [] := by
  fun_cases splitDots word <;> simp

/-- Splitting at dots loses nothing. -/
theorem intercalate_splitDots (word : List Char) :
    ['.'].intercalate (splitDots word) = word := by
  fun_induction splitDots word with
  | case1 => rfl
  | case2 rest ih =>
    obtain ⟨segment, more, hrest⟩ := List.exists_cons_of_ne_nil (splitDots_ne_nil rest)
    rw [hrest] at ih ⊢
    simp [ih]
  | case3 c rest hdot segment more hrest ih =>
    rw [hrest] at ih
    cases more with
    | nil => simpa using ih
    | cons next more => simpa using ih
  | case4 c rest hdot hrest ih => exact absurd hrest (splitDots_ne_nil rest)

/-- The segments of a word, joined with dots, are the word. -/
theorem toList_dotted_splitDots (word : List Char) :
    (Path.dotted ((splitDots word).map String.ofList)).toList = word := by
  rw [Path.dotted, String.toList_intercalate, List.map_map]
  simpa [Function.comp_def] using intercalate_splitDots word

/-- A path is written when it is a word split at its dots. -/
def Path.Written (path : Path) : Prop :=
  ∃ word, path = (splitDots word).map String.ofList

/-- A path that can be written is read back from its dotted form. -/
theorem Path.Written.ofDotted_dotted {path : Path} (h : path.Written) :
    Path.ofDotted (Path.dotted path) = path := by
  obtain ⟨word, rfl⟩ := h
  rw [ofDotted, toList_dotted_splitDots]

end Value

namespace Condition

open Value (Path)

/-! ## Paths of a source -/

/-- A keyword is no identifier. -/
theorem keyword?_ne_atom {word : String} {path : Path} :
    keyword? word ≠ some (.atom path) := by
  unfold keyword?
  repeat' split
  all_goals simp

/-- An identifier is a word split at its dots, and no segment is empty. -/
theorem atom_of_ofWord? {word : List Char} {path : Path}
    (h : Token.Kind.ofWord? word = some (.atom path)) :
    path = (Value.splitDots word).map String.ofList ∧ [] ∉ Value.splitDots word := by
  simp only [Token.Kind.ofWord?] at h
  split at h
  · cases h
  split at h
  · cases h
  split at h
  · cases h
  split at h
  next kind hkind =>
    cases h
    exact absurd hkind keyword?_ne_atom
  next =>
    split at h
    · cases h
    next hempty =>
      cases h
      exact ⟨rfl, by simpa using hempty⟩

/-- An identifier is written. -/
theorem written_of_ofWord? {word : List Char} {path : Path}
    (h : Token.Kind.ofWord? word = some (.atom path)) : path.Written :=
  ⟨word, (atom_of_ofWord? h).1⟩

theorem kinds_scanCons (token : Token) (scan : Scan) :
    kinds (scan.cons token).tokens = token.kind :: kinds scan.tokens := rfl

theorem kinds_scanStop (flaw : Flaw) (extent : Extent) :
    kinds (Scan.stop flaw extent).tokens = [] := rfl

/-- Every identifier of a source is written. -/
theorem written_of_scanFrom {position : Nat} {text : List Char} {path : Path}
    (h : .atom path ∈ kinds (scanFrom position text).tokens) : path.Written := by
  fun_induction scanFrom position text with
  | case1 => simp at h
  | case5 => simp [kinds_scanStop] at h
  | case6 _ _ _ _ _ _ ih => exact ih h
  | case7 _ _ _ _ _ _ _ _ _ ih => exact ih h
  | case9 _ _ _ _ _ _ _ _ _ _ text stop kind hkind ih =>
    rw [kinds_scanCons] at h
    rcases List.mem_cons.1 h with hhere | hrest
    · exact written_of_ofWord? (hkind.trans (congrArg some hhere.symm))
    · exact ih hrest
  | case10 => simp [kinds_scanStop] at h
  | case11 => simp [kinds_scanStop] at h
  | _ => simp_all [kinds_scanCons]

/-! ## Paths of code -/

@[simp] theorem lookup_notMem_negation (path : Path) (negated : Bool) :
    .lookup path ∉ negation negated := by
  cases negated <;> simp [negation]

@[simp] theorem lookup_notMem_operator (path : Path) (operator : Operator) :
    .lookup path ∉ operator.code := by
  cases operator <;> simp [Operator.code]

@[simp] theorem lookup_ne_connective (path : Path) (connective : Connective) :
    Instr.lookup path ≠ connective.instr := by
  cases connective <;> simp [Connective.instr]

/-- What code looks up stands in the sentence of its derivation. -/
theorem Derivation.atom_of_lookup {s : Nonterminal} (d : Derivation s) {path : Path}
    (h : .lookup path ∈ d.code) : .atom path ∈ d.sentence := by
  induction d with
  | @chain connective first more ihfirst ihmore =>
    rw [sentence, List.mem_append]
    cases more with
    | noMore => exact .inl (ihfirst h)
    | oneMore second more =>
      refine (List.mem_append.1 h).imp ihfirst fun hmore => ihmore ?_
      simpa [code] using hmore
  | disjunct conjunction ih => exact ih h
  | conjunct comparison ih => exact ih h
  | noMore => simp [code] at h
  | oneMore operand more ihoperand ihmore =>
    simp only [code, List.mem_append, List.mem_cons, lookup_ne_connective, reduceCtorEq,
      false_or] at h
    rw [sentence, List.mem_cons, List.mem_append]
    exact .inr (h.imp ihoperand ihmore)
  | alone property ih => exact ih h
  | compared left operator right ihleft ihright =>
    simp only [code, List.mem_append, lookup_notMem_operator, or_false] at h
    rw [sentence, List.mem_append, List.mem_cons]
    exact h.imp ihleft fun hright => .inr (ihright hright)
  | plain subject ih => exact ih h
  | described subject copula negated adjective adjectives arguments
      ihsubject iharguments =>
        simp only [code, List.mem_append, List.mem_cons, reduceCtorEq,
          lookup_notMem_negation, or_false] at h
        simp only [sentence, List.mem_append, List.mem_cons]
        exact h.imp ihsubject fun harguments =>
          .inr (.inr (.inr (iharguments harguments)))
  | placed subject copula negated preposition place arguments ihsubject
      ihplace iharguments =>
        simp only [code, List.mem_append, List.mem_cons, reduceCtorEq,
          lookup_notMem_negation, or_false] at h
        simp only [sentence, List.mem_append, List.mem_cons]
        exact h.imp ihsubject fun hmore =>
          .inr (.inr (.inr (hmore.imp ihplace iharguments)))
  | noArgument => simp [code] at h
  | argument preposition place arguments ihplace iharguments =>
    rw [code, List.mem_append] at h
    rw [sentence, List.mem_cons, List.mem_append]
    exact .inr (h.imp ihplace iharguments)
  | negation operand ih => exact List.mem_cons_of_mem _ (ih (by simpa [code] using h))
  | value inner ih => exact ih h
  | atom path => simpa [code] using h
  | literal v => simp [code] at h
  | number v => simp [code] at h
  | duration seconds => simp [code] at h
  | group inner ih => exact List.mem_cons_of_mem _ (List.mem_append_left _ (ih h))

/-- Two neighbours fuse to a lookup of neither. -/
theorem Instr.lookup_of_fuse? {first second : Instr} {path : Path} :
    first.fuse? second ≠ some (.lookup path) := by
  unfold Instr.fuse?
  split
  · simp
  · split
    next hyields => rintro ⟨⟩; cases hyields
    next => simp
  · simp

/-- A pass adds no variable. -/
theorem Code.lookup_of_pass {code : Code} {path : Path} (h : .lookup path ∈ code.pass) :
    .lookup path ∈ code := by
  fun_induction Code.pass code with
  | case1 first second rest fused hfuse ih =>
    rcases List.mem_cons.1 h with rfl | hrest
    · exact absurd hfuse Instr.lookup_of_fuse?
    · exact List.mem_cons_of_mem _ (List.mem_cons_of_mem _ (ih hrest))
  | case2 first second rest hnone ih =>
    exact List.mem_cons.2 ((List.mem_cons.1 h).imp_right ih)
  | case3 short hshort => exact h

/-- Simplified code looks up nothing new. -/
theorem Code.lookup_of_simplify {code : Code} {path : Path}
    (h : .lookup path ∈ code.simplify) :
    .lookup path ∈ code := by
  fun_induction Code.simplify code with
  | case1 code hshorter ih => exact Code.lookup_of_pass (ih h)
  | case2 code hsame => exact Code.lookup_of_pass h

/-- Every path that a compiled program looks up is written. -/
theorem Program.written {source : String} {p : Program}
    (hcompile : Program.compile source = .ok p)
    {path : Path} (h : .lookup path ∈ p.code) : path.Written := by
  unfold Program.compile at hcompile
  split at hcompile
  next e he =>
    cases hcompile
    simp only [Expression.parse] at he
    split at he
    · cases he
    · obtain ⟨d, hsentence, rfl⟩ := readTokens_eq_ok.1 he
      have hcode : .lookup path ∈ d.code := d.code_meaning ▸ Code.lookup_of_simplify h
      exact written_of_scanFrom (hsentence ▸ d.atom_of_lookup hcode)
  next => cases hcompile

/-! ## Running -/

/-- An instruction looks at no other path of a scope than the one it looks up. -/
theorem Instr.step_congr {first second : Scope}
    (hproperty : first.property = second.property)
    {instr : Instr}
    (h : ∀ path, instr = .lookup path → first.lookup path = second.lookup path)
    (stack : List Value) : instr.step first stack = instr.step second stack := by
  cases instr with
  | lookup path => simp only [Instr.step, h path rfl]
  | property adjectives prepositions => simp only [Instr.step, hproperty]
  | _ => rcases stack with _ | ⟨right, _ | ⟨left, rest⟩⟩ <;> rfl

/-- Code looks at no other paths of a scope than those it looks up. -/
theorem Code.run_congr {first second : Scope}
    (hproperty : first.property = second.property)
    {code : Code}
    (h : ∀ path, .lookup path ∈ code → first.lookup path = second.lookup path)
    (stack : List Value) : Code.run first code stack = Code.run second code stack := by
  induction code generalizing stack with
  | nil => rfl
  | cons instr rest ih =>
    have hstep : instr.step first stack = instr.step second stack :=
      Instr.step_congr hproperty
        (fun path hpath => h path (hpath ▸ List.mem_cons_self)) stack
    rw [Code.run_cons, Code.run_cons, hstep]
    exact congrArg _ (funext (ih fun path hpath => h path (List.mem_cons_of_mem _ hpath)))

/-- **Reads.**  A compiled program answers the same over any two lookups that agree on
the paths that it lists. -/
theorem Program.run_congr {source : String} {p : Program}
    (hcompile : Program.compile source = .ok p) {first second : Path → Value}
    (hagree : ∀ text ∈ p.reads, first (Path.ofDotted text) = second (Path.ofDotted text))
    (time : EvaluationTime) : p.run first time = p.run second time := by
  cases time with
  | naive reading => rfl
  | aware now =>
    have hproperty : (Scope.mk first (builtIn now)).property =
        (Scope.mk second (builtIn now)).property := rfl
    have hrun : Code.run ⟨first, builtIn now⟩ p.code [] =
        Code.run ⟨second, builtIn now⟩ p.code [] := by
      refine Code.run_congr hproperty (fun path hpath => ?_) []
      have hread : Path.dotted path ∈ p.reads :=
        Text.mem_sortedNames.2 (List.mem_filterMap.2 ⟨_, hpath, rfl⟩)
      simpa only [(Program.written hcompile hpath).ofDotted_dotted] using hagree _ hread
    simp only [Program.run, Code.evaluate, hrun]

end Condition

end Turnstile

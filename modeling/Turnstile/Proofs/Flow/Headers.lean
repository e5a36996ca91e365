import Mathlib
import Turnstile.Proofs.Flow.Built

/-!
# Which rule sets a header

The headers of the rules are put into one dictionary by their written names, rule after
rule, and from there in the order of the written names into another one by their
lowercase names.  So of two rules that write a name alike the later one wins.  Of two
that write it differently the one with the greater spelling wins, be it the earlier one
(`Webhook.find?_sentHeaders`).

Later rules win, as they are meant to, where no later rule comes with a lesser spelling
(`Webhook.Orderly.isGreatest`).
-/

set_option autoImplicit false

namespace Turnstile

namespace Dictionary

variable {α : Type} {d : Dictionary α}

/-! ## Entries put one after the other -/

/-- A dictionary is searched as the list that it is. -/
theorem find?_eq_map (d : Dictionary α) (key : String) :
    find? d key = (List.find? (fun entry => entry.1 = key) d).map Prod.snd := by
  induction d with
  | nil => rfl
  | cons entry rest ih =>
      obtain ⟨name, value⟩ := entry
      by_cases hname : key = name
      · simp [find?, hname]
      · simp [find?, hname, Ne.symm hname, ih]

/-- Of the entries that are put under one key the last is found. -/
theorem find?_foldl_insert (rename : String → String) (entries : List (String × α))
    (d : Dictionary α) (key : String) :
    find? (entries.foldl (fun acc entry => insert acc (rename entry.1) entry.2) d) key =
      ((entries.reverse.find? fun entry => rename entry.1 = key).map Prod.snd).or
        (find? d key) := by
  induction entries using List.reverseRecOn with
  | nil => rfl
  | append_singleton before entry ih =>
      rw [List.foldl_append, List.foldl_cons, List.foldl_nil, find?_insert, ih,
        List.reverse_append, List.reverse_singleton, List.singleton_append,
        List.find?_cons]
      by_cases hkey : rename entry.1 = key
      · simp [hkey]
      · simp [hkey, Ne.symm hkey]

/-- What is not a key is not found. -/
theorem find?_eq_none {key : String} (h : key ∉ d.map Prod.fst) : find? d key = none := by
  cases hfound : find? d key with
  | none => rfl
  | some value => exact absurd (List.mem_map_of_mem (mem_of_find? hfound)) h

/-- Entries of different keys that are put into a dictionary go before what was there. -/
theorem find?_insertAll {entries : List (String × α)} (h : (entries.map Prod.fst).Nodup)
    (d : Dictionary α) (key : String) :
    find? (insertAll d entries) key = (find? entries key).or (find? d key) := by
  induction entries generalizing d with
  | nil => rfl
  | cons entry rest ih =>
      obtain ⟨name, value⟩ := entry
      rw [List.map_cons, List.nodup_cons] at h
      have hrest : find? (insertAll d ((name, value) :: rest)) key =
          (find? rest key).or (find? (insert d name value) key) :=
            ih h.2 (insert d name value)
      rw [hrest, find?_insert, find?]
      by_cases hkey : key = name
      · rw [if_pos hkey, if_pos hkey, find?_eq_none (hkey ▸ h.1)]
        rfl
      · rw [if_neg hkey, if_neg hkey]

/-- What is in a sorted dictionary is the only entry with its key. -/
theorem Sorted.find?_entry (h : d.Sorted) {entry : String × α} (hin : entry ∈ d) :
    List.find? (fun other => other.1 == entry.1) d = some entry := by
  have hvalue : find? d entry.1 = some entry.2 := h.find?_of_mem hin
  rw [find?_eq_map] at hvalue
  obtain ⟨found, hfound, hsame⟩ := Option.map_eq_some_iff.1 hvalue
  have hkey : found.1 = entry.1 := by simpa using List.find?_some hfound
  rw [← Prod.ext hkey hsame]
  exact hkey ▸ hfound

/-- To insert several keys keeps a dictionary sorted. -/
theorem Sorted.insertAll (h : d.Sorted) (entries : List (String × α)) :
    (insertAll d entries).Sorted := by
  induction entries generalizing d with
  | nil => exact h
  | cons entry rest ih => exact ih (h.insert entry.1 entry.2)

/-- In a sorted dictionary the last entry with one of some names has the greatest of
them. -/
theorem Sorted.isGreatest_of_find? (h : d.Sorted) {isName : String × α → Bool}
    {key : String} {value : α} (hfound : d.reverse.find? isName = some (key, value)) :
    IsGreatest
      {other | ∃ value, (other, value) ∈ d ∧ isName (other, value) = true} key := by
  obtain ⟨hname, greater, lesser, hsplit, hgreater⟩ :=
    List.find?_eq_some_iff_append.1 hfound
  have hless : d.reverse.Pairwise fun first second => second.1 < first.1 :=
    List.pairwise_reverse.2 (List.pairwise_map.1 h)
  rw [hsplit] at hless
  have hmem : ∀ entry, entry ∈ d ↔ entry ∈ greater ++ (key, value) :: lesser := by
    intro entry
    rw [← hsplit, List.mem_reverse]
  refine ⟨⟨value, (hmem _).2 (by simp), hname⟩, ?_⟩
  rintro other ⟨held, hin, hother⟩
  rcases List.mem_append.1 ((hmem _).1 hin) with hin | hin
  · exact absurd hother (by simpa using hgreater _ hin)
  · rcases List.mem_cons.1 hin with heq | hin
    · cases heq
      exact le_refl _
    · exact le_of_lt ((List.pairwise_cons.1 (List.pairwise_append.1 hless).2.1).1 _ hin)

end Dictionary

namespace Webhook

variable {ρ : Type}

/-! ## The last rule -/

/-- The header with one of some names that the last rule for a URL to have one has. -/
def lastHeader? (fits : ρ → String → Bool) (rules : List (HeaderRule ρ)) (url : String)
    (isName : String → Bool) :
    Option (String × String) :=
  (rules.filter fun rule => fits rule.pattern url).reverse.findSome? fun rule =>
    List.find? (fun header => isName header.1) rule.headers

/-- The spellings of a name in which rules for a URL set it to something that can be
sent. -/
def spellings (fits : ρ → String → Bool) (rules : List (HeaderRule ρ))
    (url name : String) : Set String :=
  {written | ∃ value, lastHeader? fits rules url (· == written) = some (written, value) ∧
    lowercase written = name ∧ isSendable (written, value) = true}

/-- The value of a header that no rule sets. -/
def defaultHeader? (contentType token name : String) : Option String :=
  if lowercase tokenHeader = name ∧ isHeaderValue token = true then some token
  else if "content-type" = name ∧ isHeaderValue contentType = true then some contentType
  else none

variable {fits : ρ → String → Bool} {rules : List (HeaderRule ρ)}

/-- The headers of the rules are sorted by their written names. -/
theorem sorted_configuredHeaders (fits : ρ → String → Bool) (rules : List (HeaderRule ρ))
    (url : String) :
    Dictionary.Sorted (configuredHeaders fits rules url) := by
  unfold configuredHeaders
  induction rules.filter (fun rule => fits rule.pattern url) using List.reverseRecOn with
  | nil => exact .nil
  | append_singleton before rule ih =>
      rw [List.foldl_append]
      exact ih.insertAll rule.headers

variable (fits) in
/-- A written name has the value that the last rule sets it to. -/
theorem find?_configuredHeaders (hsorted : ∀ rule ∈ rules, Dictionary.Sorted rule.headers)
    (url written : String) : Dictionary.find? (configuredHeaders fits rules url) written =
      (lastHeader? fits rules url (· == written)).map Prod.snd := by
  have hmatching : ∀ rule ∈ rules.filter (fun rule => fits rule.pattern url),
      Dictionary.Sorted rule.headers :=
        fun rule hrule => hsorted rule (List.mem_filter.1 hrule).1
  unfold configuredHeaders lastHeader?
  generalize rules.filter (fun rule => fits rule.pattern url) = matching at *
  induction matching using List.reverseRecOn with
  | nil => rfl
  | append_singleton before rule ih =>
      obtain ⟨hbefore, hrule⟩ := List.forall_mem_append.1 hmatching
      have hnodup := (hrule rule List.mem_cons_self).nodup
      rw [List.foldl_append, List.foldl_cons, List.foldl_nil,
        Dictionary.find?_insertAll hnodup, ih hbefore, Dictionary.find?_eq_map,
        List.reverse_append, List.reverse_singleton, List.singleton_append,
        List.findSome?_cons]
      dsimp only
      cases List.find? (fun header => header.1 = written) rule.headers <;> simp

/-- A written name stands among the headers of the rules with the value that the last
rule sets it to. -/
theorem mem_configuredHeaders (hsorted : ∀ rule ∈ rules, Dictionary.Sorted rule.headers)
    {url written value : String} : (written, value) ∈ configuredHeaders fits rules url ↔
      lastHeader? fits rules url (· == written) = some (written, value) := by
  have hconfigured := find?_configuredHeaders fits hsorted url written
  constructor
  · intro hin
    rw [(sorted_configuredHeaders fits rules url).find?_of_mem hin] at hconfigured
    obtain ⟨⟨name, held⟩, hlast, rfl⟩ := Option.map_eq_some_iff.1 hconfigured.symm
    obtain ⟨rule, -, hrule⟩ := List.exists_of_findSome?_eq_some hlast
    obtain rfl : name = written := by simpa using List.find?_some hrule
    exact hlast
  · intro hlast
    rw [hlast] at hconfigured
    exact Dictionary.mem_of_find? hconfigured

/-- A header alone is found under its name, if it can be sent. -/
theorem find?_singleton {written : String} (h : isHeaderName written = true)
    (value name : String) :
    (([(written, value)].filter isSendable).reverse.find? fun header =>
      lowercase header.1 = name).map Prod.snd =
        if lowercase written = name ∧ isHeaderValue value = true then some value
        else none := by
  have hsendable : isSendable (written, value) = isHeaderValue value := by
    rw [isSendable, h, Bool.true_and]
  cases hvalue : isHeaderValue value
  · simp [hsendable, hvalue]
  · by_cases hname : lowercase written = name <;> simp [hsendable, hvalue, hname]

/-- Of the two defaults at most one has a name, and it is sent if it can be. -/
theorem find?_defaults (contentType token name : String) :
    ((([("content-type", contentType), (tokenHeader, token)] : Dictionary String).filter
      isSendable).reverse.find? fun header => lowercase header.1 = name).map Prod.snd =
        defaultHeader? contentType token name := by
  have hsplit :
    ([("content-type", contentType), (tokenHeader, token)] : Dictionary String) =
      [("content-type", contentType)] ++ [(tokenHeader, token)] := rfl
  have hlower : lowercase "content-type" = "content-type" := by decide
  rw [hsplit, List.filter_append, List.reverse_append, List.find?_append, Option.map_or,
    find?_singleton (by decide), find?_singleton (by decide), hlower, defaultHeader?]
  split <;> rfl

variable (fits) in
/-- **Which header is sent.**  Under a name the header of the greatest spelling is sent,
as the last rule that spells the name so has it; the default where no rule sets the
name. -/
theorem find?_sentHeaders (hsorted : ∀ rule ∈ rules, Dictionary.Sorted rule.headers)
    (url contentType token name : String) :
    (∃ written, IsGreatest (spellings fits rules url name) written ∧
      Dictionary.find? (sentHeaders fits rules url contentType token) name =
        (lastHeader? fits rules url (· == written)).map Prod.snd) ∨
    spellings fits rules url name = ∅ ∧
      Dictionary.find? (sentHeaders fits rules url contentType token) name =
        defaultHeader? contentType token name := by
  have hasked : askedHeaders fits rules url contentType token =
      [("content-type", contentType), (tokenHeader, token)] ++
      configuredHeaders fits rules url := rfl
  have hspellings : spellings fits rules url name = {written | ∃ value,
      (written, value) ∈ configuredHeaders fits rules url ∧
        (isSendable (written, value) && decide (lowercase written = name)) = true} := by
    ext written
    simp [spellings, mem_configuredHeaders hsorted, and_comm]
  have hsent : Dictionary.find? (sentHeaders fits rules url contentType token) name =
      (((configuredHeaders fits rules url).reverse.find? fun header =>
        isSendable header && decide (lowercase header.1 = name)).map Prod.snd).or
          (defaultHeader? contentType token name) := by
    rw [sentHeaders, Dictionary.find?_foldl_insert, hasked, List.filter_append,
      List.reverse_append, List.find?_append, Option.map_or, find?_defaults,
      ← List.filter_reverse, List.find?_filter]
    simp [Dictionary.find?]
  rw [hsent, hspellings]
  cases hfound : (configuredHeaders fits rules url).reverse.find?
      (fun header => isSendable header && decide (lowercase header.1 = name)) with
  | some header =>
      obtain ⟨written, value⟩ := header
      have hgreatest :=
        (sorted_configuredHeaders fits rules url).isGreatest_of_find? hfound
      refine .inl ⟨written, hgreatest, ?_⟩
      have hin := List.mem_reverse.1 (List.mem_of_find?_eq_some hfound)
      rw [(mem_configuredHeaders hsorted).1 hin]
      rfl
  | none =>
      refine .inr ⟨?_, rfl⟩
      refine Set.eq_empty_iff_forall_notMem.2 fun written => ?_
      rintro ⟨value, hin, hname⟩
      exact List.find?_eq_none.1 hfound _ (List.mem_reverse.2 hin) hname

/-! ## Later rules -/

/-- Where the last header with one of some names comes from. -/
theorem lastHeader?_eq_some {url : String} {isName : String → Bool}
    {header : String × String} :
    lastHeader? fits rules url isName = some header ↔
      ∃ before rule after, (rules.filter fun rule => fits rule.pattern url) =
        before ++ rule :: after ∧
        List.find? (fun header => isName header.1) rule.headers = some header ∧
        ∀ later ∈ after, ∀ other ∈ later.headers, isName other.1 = false := by
  rw [lastHeader?, List.findSome?_eq_some_iff]
  constructor
  · rintro ⟨after, rule, before, hsplit, hrule, hafter⟩
    refine ⟨before.reverse, rule, after.reverse, ?_, hrule, ?_⟩
    · simpa using congrArg List.reverse hsplit
    · intro later hlater other hother
      simpa using List.find?_eq_none.1
        (hafter later (List.mem_reverse.1 hlater)) other hother
  · rintro ⟨before, rule, after, hsplit, hrule, hafter⟩
    refine ⟨after.reverse, rule, before.reverse, by simp [hsplit], hrule, ?_⟩
    intro later hlater
    refine List.find?_eq_none.2 fun other hother => ?_
    simp [hafter later (List.mem_reverse.1 hlater) other hother]

/-- There is no last header just when no rule for the URL has one. -/
theorem lastHeader?_eq_none {url : String} {isName : String → Bool} :
    lastHeader? fits rules url isName = none ↔
    ∀ rule ∈ rules, fits rule.pattern url = true →
      ∀ header ∈ rule.headers, isName header.1 = false := by
  simp [lastHeader?, List.findSome?_eq_none_iff]

/-- The last header with one of some names is one of a rule for the URL. -/
theorem mem_of_lastHeader? {url : String} {isName : String → Bool}
    {header : String × String} (h : lastHeader? fits rules url isName = some header) :
    ∃ rule ∈ rules.filter fun rule => fits rule.pattern url, header ∈ rule.headers := by
  obtain ⟨before, rule, after, hsplit, hrule, -⟩ := lastHeader?_eq_some.1 h
  exact ⟨rule, hsplit ▸ by simp, List.mem_of_find?_eq_some hrule⟩

/-- Rules that can be taken in their order: what they set can be sent, no rule has two
spellings of one name, and among the rules for a URL no later one has a lesser spelling
of a name than an earlier one. -/
structure Orderly (fits : ρ → String → Bool) (rules : List (HeaderRule ρ))
    (url : String) : Prop where
  sendable : ∀ rule ∈ rules, ∀ header ∈ rule.headers, isSendable header = true
  once : ∀ rule ∈ rules, ∀ first ∈ rule.headers, ∀ second ∈ rule.headers,
    lowercase first.1 = lowercase second.1 → first.1 = second.1
  spelling :
    (rules.filter fun rule => fits rule.pattern url).Pairwise fun earlier later =>
      ∀ first ∈ earlier.headers, ∀ second ∈ later.headers,
        lowercase first.1 = lowercase second.1 → first.1 ≤ second.1

/-- The last rule to set a name at all has its greatest spelling. -/
theorem Orderly.isGreatest {url name : String} {header : String × String}
    (h : Orderly fits rules url)
    (hsorted : ∀ rule ∈ rules, Dictionary.Sorted rule.headers)
    (hlast : lastHeader? fits rules url (lowercase · == name) = some header) :
    IsGreatest (spellings fits rules url name) header.1 ∧
      lastHeader? fits rules url (· == header.1) = some header := by
  obtain ⟨before, rule, after, hsplit, hrule, hafter⟩ := lastHeader?_eq_some.1 hlast
  have hname : lowercase header.1 = name := by simpa using List.find?_some hrule
  have hin : header ∈ rule.headers := List.mem_of_find?_eq_some hrule
  have hmatching : ∀ other ∈ before ++ rule :: after, other ∈ rules := by
    intro other hother
    rw [← hsplit] at hother
    exact (List.mem_filter.1 hother).1
  have hwritten : lastHeader? fits rules url (· == header.1) = some header := by
    refine lastHeader?_eq_some.2 ⟨before, rule, after, hsplit,
      (hsorted rule (hmatching rule (by simp))).find?_entry hin,
      fun later hlater other hother => ?_⟩
    have hnot : lowercase other.1 ≠ name := by
      simpa using hafter later hlater other hother
    exact beq_false_of_ne fun heq => hnot (heq ▸ hname)
  have hsendable := h.sendable rule (hmatching rule (by simp)) header hin
  refine ⟨⟨⟨header.2, hwritten, hname, hsendable⟩, ?_⟩, hwritten⟩
  rintro written ⟨value, hother, hsame, -⟩
  obtain ⟨source, hwhere, hheader⟩ := mem_of_lastHeader? hother
  have hlower : lowercase written = lowercase header.1 := hsame.trans hname.symm
  have hspelling := h.spelling
  rw [hsplit] at hspelling hwhere
  -- the other spelling comes of an earlier rule, of the same one, or of a later one
  rcases List.mem_append.1 hwhere with hearlier | hlater
  · exact (List.pairwise_append.1 hspelling).2.2 source hearlier rule List.mem_cons_self
      _ hheader _ hin hlower
  · rcases List.mem_cons.1 hlater with rfl | hlater
    · exact (h.once source (hmatching source hwhere) _ hheader _ hin hlower).le
    · have hnot : lowercase written ≠ name := by
        simpa using hafter source hlater _ hheader
      exact absurd hsame hnot

/-- No name is sent twice. -/
theorem sorted_sentHeaders (fits : ρ → String → Bool) (rules : List (HeaderRule ρ))
    (url contentType token : String) :
    Dictionary.Sorted (sentHeaders fits rules url contentType token) := by
  unfold sentHeaders
  induction (askedHeaders fits rules url contentType token).filter
    isSendable using List.reverseRecOn with
  | nil => exact .nil
  | append_singleton before header ih =>
      rw [List.foldl_append]
      exact ih.insert _ _

/-- **Headers.**  Each lowercase name is sent once at most.  It has the value that the
last rule to use the greatest spelling gives it, among the spellings in which rules for
the URL set it to something that can be sent, or else the default.  Of orderly rules
that is the last one to set the name in any spelling. -/
theorem sentHeaders_exact (hsorted : ∀ rule ∈ rules, Dictionary.Sorted rule.headers)
    (url contentType token : String) :
    Dictionary.Sorted (sentHeaders fits rules url contentType token) ∧
    (∀ name,
      (∃ written, IsGreatest (spellings fits rules url name) written ∧
        Dictionary.find? (sentHeaders fits rules url contentType token) name =
          (lastHeader? fits rules url (· == written)).map Prod.snd) ∨
      spellings fits rules url name = ∅ ∧
        Dictionary.find? (sentHeaders fits rules url contentType token) name =
          defaultHeader? contentType token name) ∧
    (Orderly fits rules url →
      ∀ name, Dictionary.find? (sentHeaders fits rules url contentType token) name =
      ((lastHeader? fits rules url (lowercase · == name)).map Prod.snd).or
        (defaultHeader? contentType token name)) := by
  refine ⟨sorted_sentHeaders fits rules url contentType token,
    find?_sentHeaders fits hsorted url contentType token, fun horderly name => ?_⟩
  cases hlast : lastHeader? fits rules url (lowercase · == name) with
  | some header =>
      obtain ⟨hgreatest, hwritten⟩ := horderly.isGreatest hsorted hlast
      rcases find?_sentHeaders fits hsorted url contentType token name with
        ⟨written, hother, hsent⟩ | ⟨hnone, -⟩
      · rw [hsent, hother.unique hgreatest, hwritten]
        rfl
      · exact absurd (hnone ▸ hgreatest.1) (Set.notMem_empty _)
  | none =>
      have hnone : spellings fits rules url name = ∅ := by
        refine Set.eq_empty_iff_forall_notMem.2 fun written => ?_
        rintro ⟨value, hwritten, hname, -⟩
        obtain ⟨rule, hrule, hheader⟩ := mem_of_lastHeader? hwritten
        obtain ⟨hin, hmatches⟩ := List.mem_filter.1 hrule
        have hnot := lastHeader?_eq_none.1 hlast rule hin hmatches _ hheader
        simp [hname] at hnot
      rcases find?_sentHeaders fits hsorted url contentType token name
        with ⟨written, hother, -⟩ | ⟨-, hsent⟩
      · exact absurd (hnone ▸ hother.1) (Set.notMem_empty _)
      · exact hsent

/-! ## A mailroom -/

/-- The pattern of a word: its letters, one after the other. -/
def spelled (word : String) : Pattern :=
  ⟨word, word.toList.foldl
    (fun node c => .seq node (.one (.range c.toNat c.toNat))) .empty⟩

namespace Mailroom

/-- Where parcels are announced. -/
def hook : String := "https://example.com/hook"

/-- The team is written in capitals first; the last rule is for other webhooks. -/
def orderly : List (HeaderRule Pattern) :=
  [⟨spelled "example", [("Content-Type", "text/plain"), ("X-Team", "growth")]⟩,
    ⟨spelled "hook", [("x-idempotency-token", "fixed"), ("x-team", "billing")]⟩,
    ⟨spelled "mail", [("X-Team", "post")]⟩]

/-- The team is written in capitals last. -/
def reversed : List (HeaderRule Pattern) :=
  [⟨spelled "example", [("x-team", "growth")]⟩,
    ⟨spelled "example", [("X-Team", "billing")]⟩]

theorem orderly_orderly : Orderly Pattern.occursIn orderly hook where
  sendable := by decide +kernel
  once := by decide +kernel
  spelling := by decide +kernel

end Mailroom

open Mailroom in
/-- The later rule wins although it spells the name differently, and a rule replaces a
default. -/
theorem sentHeaders_exact_mailroom :
    (∀ rule ∈ orderly, Dictionary.Sorted rule.headers) ∧
    Orderly Pattern.occursIn orderly hook ∧
    Dictionary.find?
      (sentHeaders Pattern.occursIn orderly hook "application/json" "token") "x-team" =
        some "billing" ∧
    Dictionary.find?
      (sentHeaders Pattern.occursIn orderly hook "application/json" "token")
        "content-type" =
      some "text/plain" := by
  have hsorted : ∀ rule ∈ orderly, Dictionary.Sorted rule.headers := by
    unfold Dictionary.Sorted Dictionary.keys
    decide +kernel
  obtain ⟨-, -, hlater⟩ := sentHeaders_exact hsorted hook "application/json" "token"
  refine ⟨hsorted, orderly_orderly, ?_, ?_⟩
  · rw [hlater orderly_orderly]
    decide +kernel
  · rw [hlater orderly_orderly]
    decide +kernel

open Mailroom in
/-- **An earlier rule that wins.**  All that two rules set can be sent, and each has one
header.  They write its name differently, and the value sent is not that of the later
one. -/
theorem sentHeaders_reversed :
    [("example", [("x-team", "growth")]), ("example", [("X-Team", "billing")])].mapM
      (fun rule => HeaderRule.build rule.1 rule.2) = .ok reversed ∧
    (∀ rule ∈ reversed, Dictionary.Sorted rule.headers) ∧
    (∀ rule ∈ reversed, ∀ header ∈ rule.headers, isSendable header = true) ∧
    (∀ rule ∈ reversed, ∀ first ∈ rule.headers, ∀ second ∈ rule.headers,
      lowercase first.1 = lowercase second.1 → first.1 = second.1) ∧
    lastHeader? Pattern.occursIn reversed hook (lowercase · == "x-team") =
      some ("X-Team", "billing") ∧
    Dictionary.find?
      (sentHeaders Pattern.occursIn reversed hook "application/json" "token") "x-team" =
        some "growth" := by
  have hsorted : ∀ rule ∈ reversed, Dictionary.Sorted rule.headers := by
    unfold Dictionary.Sorted Dictionary.keys
    decide +kernel
  exact ⟨rfl, hsorted, by decide +kernel, by decide +kernel, by decide +kernel,
    by decide +kernel⟩

end Webhook

end Turnstile

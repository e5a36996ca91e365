import Mathlib
import Turnstile.Engine.Step
import Turnstile.Proofs.Condition.Reads
import Turnstile.Proofs.Engine.Conversation
import Turnstile.Proofs.Flow.Built

/-!
# Gates see all that they read

Before a gate is looked at, the feeds that it reads are fetched and put into a context
(`gatherContext`).  A path into a feed is written with dots in the condition, read again
for the name of the feed, and looked up in the context; `Machine.Built.gathers` says
that nothing is lost on the way: the gate answers as it would over a context that holds
every feed of its machine.
-/

set_option autoImplicit false

namespace Turnstile

open Time (DateTime)

/-! ## What is to be shown -/

/-- A context to which the documents of several feeds were added. -/
def Context.withFeeds (context : Context) (documents : String → Value)
    (names : List String) :
    Context :=
  names.foldl (fun c name => c.withFeed name (documents name)) context

/-- A context that holds every feed of a machine. -/
def Machine.wholeContext (m : Machine) (label : Label) (metadata : Value)
    (entry : Option Entry) (documents : String → Value) : Context :=
  Context.withFeeds ⟨label, metadata, [], entry⟩ documents (m.feeds.map Feed.name)

/-- The exchanges by which one feed is fetched. -/
def Feed.fetching (feed : Feed) (m : Machine) (label : Label) (document : Value) :
    List Exchange :=
  [⟨.notify (.feedStart m.name feed.name (feed.urlFor label)), ()⟩,
    ⟨.fetch (feed.urlFor label), .ok document⟩,
    ⟨.notify (.feedFinish m.name feed.name (feed.urlFor label) none), ()⟩]

/-- The feeds of these names, in the same order. -/
def Machine.feedsNamed (m : Machine) (names : List String) : List Feed :=
  names.filterMap m.feed?

/-- The URL that was fetched, if one was. -/
def Exchange.fetched? : Exchange → Option String
  | ⟨.fetch url, _⟩ => some url
  | _ => none

/-- What a gate gathers for a label: every feed that it reads is fetched once, in
the order of their names, and no other.  When they are answered with their
documents, the condition and the route of the gate answer as if every feed of the
machine were there. -/
structure Gathers (m : Machine) (gate : Gate) (label : Label) (metadata : Value)
    (entry : Option Entry) (documents : String → Value) : Prop where
  ordered : (Feed.referenced gate.reads).Pairwise (· < ·)
  declared : (m.feedsNamed (Feed.referenced gate.reads)).map Feed.name =
    Feed.referenced gate.reads
  no_other :
    ∀ talk rest, (gatherContext m label metadata entry gate.reads).Leads talk rest →
      talk.filterMap Exchange.fetched? <+:
        (m.feedsNamed (Feed.referenced gate.reads)).map fun feed => feed.urlFor label
  complete : ∃ gathered : Context,
    (gatherContext m label metadata entry gate.reads).Leads
      ((m.feedsNamed (Feed.referenced gate.reads)).flatMap fun feed =>
        feed.fetching m label (documents feed.name))
      (.done (.ok gathered)) ∧
    (∀ time, gate.exit.run gathered.lookup time =
      gate.exit.run (m.wholeContext label metadata entry documents).lookup time) ∧
    gate.route.next gathered.lookup =
      gate.route.next (m.wholeContext label metadata entry documents).lookup

variable {m : Machine} {names : List String}

/-- Feeds are found by name. -/
theorem name_of_feed? {name : String} {feed : Feed} (h : m.feed? name = some feed) :
    feed.name = name := by
  simpa using List.find?_some h

/-- Declared feeds are found under their names. -/
theorem map_name_feedsNamed (h : ∀ name ∈ names, ∃ feed, m.feed? name = some feed) :
    (m.feedsNamed names).map Feed.name = names := by
  induction names with
  | nil => rfl
  | cons name rest ih =>
    obtain ⟨⟨feed, hfeed⟩, hrest⟩ := List.forall_mem_cons.1 h
    rw [Machine.feedsNamed, List.filterMap_cons_some hfeed, List.map_cons,
      name_of_feed? hfeed]
    exact congrArg _ (ih hrest)

/-- **Fetching.**  Declared feeds are fetched one after the other. -/
theorem gatherFeeds_leads (documents : String → Value) (context : Context)
    (hdeclared : ∀ name ∈ names, ∃ feed, m.feed? name = some feed) :
    (gatherFeeds m context names).Leads
      ((m.feedsNamed names).flatMap fun feed =>
        feed.fetching m context.label (documents feed.name))
      (.done (.ok (context.withFeeds documents names))) := by
  induction names generalizing context with
  | nil => exact .here _
  | cons name rest ih =>
    obtain ⟨⟨feed, hfeed⟩, hrest⟩ := List.forall_mem_cons.1 hdeclared
    obtain rfl := name_of_feed? hfeed
    rw [gatherFeeds, hfeed, Machine.feedsNamed, List.filterMap_cons_some hfeed,
      List.flatMap_cons]
    exact .said
      (.said (.said (ih (context.withFeed feed.name (documents feed.name)) hrest)))

/-- **No other feed is fetched**, however the fetches are answered. -/
theorem fetched_of_gatherFeeds {context : Context} {talk : List Exchange}
    {rest : Work (Except FeedError Context)}
    (h : (gatherFeeds m context names).Leads talk rest) :
    talk.filterMap Exchange.fetched? <+:
      (m.feedsNamed names).map fun feed => feed.urlFor context.label := by
  induction names generalizing context talk with
  | nil =>
    obtain ⟨rfl, -⟩ := Work.leads_done.1 h
    exact List.nil_prefix
  | cons name more ih =>
    rw [gatherFeeds] at h
    split at h
    next hnone =>
      obtain ⟨rfl, -⟩ := Work.leads_done.1 h
      exact List.nil_prefix
    next feed hfeed =>
      rw [Machine.feedsNamed, List.filterMap_cons_some hfeed, List.map_cons]
      rcases Work.leads_ask.1 h with ⟨rfl, -⟩ | ⟨_, asked, rfl, hasked⟩
      · exact List.nil_prefix
      rcases Work.leads_ask.1 hasked with ⟨rfl, -⟩ | ⟨answer, answered, rfl, hanswered⟩
      · exact List.nil_prefix
      refine (List.prefix_cons_inj (feed.urlFor context.label)).2 ?_
      cases answer with
      | error error =>
        rcases Work.leads_ask.1 hanswered with ⟨rfl, -⟩ | ⟨_, told, rfl, htold⟩
        · exact List.nil_prefix
        · obtain ⟨rfl, -⟩ := Work.leads_done.1 htold
          exact List.nil_prefix
      | ok document =>
        rcases Work.leads_ask.1 hanswered with ⟨rfl, -⟩ | ⟨_, told, rfl, htold⟩
        · exact List.nil_prefix
        · have hmore : told.filterMap Exchange.fetched? <+:
              (m.feedsNamed more).map fun feed =>
                feed.urlFor (context.withFeed name document).label :=
            ih htold
          exact hmore

/-! ## What a context shows -/

namespace Context

variable {context : Context} {documents : String → Value}

/-- Feeds are put into a context in their order. -/
theorem withFeeds_cons (first : String) : context.withFeeds documents (first :: names) =
    (context.withFeed first (documents first)).withFeeds documents names := rfl

@[simp] theorem withFeeds_metadata :
    (context.withFeeds documents names).metadata = context.metadata := by
  induction names generalizing context with
  | nil => rfl
  | cons name rest ih => exact ih

@[simp] theorem withFeeds_entry :
    (context.withFeeds documents names).entry = context.entry := by
  induction names generalizing context with
  | nil => rfl
  | cons name rest ih => exact ih

/-- Each feed that was added shows its document. -/
theorem find?_withFeeds (name : String) :
    Dictionary.find? (context.withFeeds documents names).feeds name =
      if name ∈ names then some (documents name)
      else Dictionary.find? context.feeds name := by
  induction names generalizing context with
  | nil => rfl
  | cons first rest ih =>
    rw [withFeeds_cons, ih, withFeed, Dictionary.find?_insert]
    by_cases hrest : name ∈ rest
    · simp [hrest]
    · by_cases hfirst : name = first
      · subst hfirst; simp
      · simp [hrest, hfirst]

/-- What a path shows does not depend on feeds that it does not name. -/
theorem lookup_withFeeds {more : List String} {path : Value.Path}
    (h : ∀ name rest, path = "feeds" :: name :: rest → (name ∈ names ↔ name ∈ more)) :
    (context.withFeeds documents names).lookup path =
      (context.withFeeds documents more).lookup path := by
  have hget : (context.withFeeds documents names).get? path =
      (context.withFeeds documents more).get? path := by
    unfold get?
    split
    next => simp only [withFeeds_metadata]
    next name rest => simp only [find?_withFeeds, h name rest rfl]
    next => rfl
    next field => simp only [withFeeds_entry]
    next => rfl
    next => simp only [withFeeds_metadata]
  rw [lookup, hget, lookup]

end Context

/-- A gate sees the same whether the feeds that it reads were fetched or all. -/
theorem Machine.Built.lookup_read (hm : m.Built) {gate : Gate}
    (hgate : .gate gate ∈ m.states) {text : String} (hread : text ∈ gate.reads)
    (context : Context) (documents : String → Value) :
    (context.withFeeds documents (Feed.referenced gate.reads)).lookup
      (Value.Path.ofDotted text) =
      (context.withFeeds documents (m.feeds.map Feed.name)).lookup
        (Value.Path.ofDotted text) := by
  refine Context.lookup_withFeeds fun name rest hpath => ?_
  have hreferenced : name ∈ Feed.referenced gate.reads :=
    Text.mem_sortedNames.2 (List.mem_filterMap.2 ⟨text, hread, by simp only [hpath]⟩)
  obtain ⟨feed, hfeed⟩ := hm.declared hgate hreferenced
  have hdeclared : name ∈ m.feeds.map Feed.name :=
    name_of_feed? hfeed ▸ List.mem_map_of_mem (List.mem_of_find?_eq_some hfeed)
  simp only [hreferenced, hdeclared]

/-- What a route answers depends on the path that it reads. -/
theorem Route.next_congr {route : Route} {first second : Value.Path → Value}
    (h : ∀ text ∈ route.reads, first (Value.Path.ofDotted text) =
      second (Value.Path.ofDotted text)) :
    route.next first = route.next second := by
  cases route with
  | stay => rfl
  | always state => rfl
  | byValue path arms => simp only [Route.next, h path (List.mem_singleton_self path)]

/-- **A gate sees all that it reads.** -/
theorem Machine.Built.gathers (hm : m.Built) {gate : Gate} (hgate : .gate gate ∈ m.states)
    (label : Label) (metadata : Value) (entry : Option Entry)
    (documents : String → Value) :
    Gathers m gate label metadata entry documents where
  ordered := Text.pairwise_sortedNames _
  declared := map_name_feedsNamed fun _ => hm.declared hgate
  no_other _ _ := fetched_of_gatherFeeds
  complete := by
    let bare : Context := ⟨label, metadata, [], entry⟩
    refine ⟨bare.withFeeds documents (Feed.referenced gate.reads),
      gatherFeeds_leads documents bare fun _ => hm.declared hgate, fun time => ?_, ?_⟩
    · obtain ⟨source, hcompile⟩ := hm.compiled hgate
      refine Condition.Program.run_congr hcompile (fun text htext => ?_) time
      exact hm.lookup_read hgate (Text.mem_sortedNames.2 (List.mem_append_left _ htext))
        bare documents
    · refine Route.next_congr fun text htext => ?_
      exact hm.lookup_read hgate (Text.mem_sortedNames.2 (List.mem_append_right _ htext))
        bare documents

/-- **What is listed is all that is read.**  A compiled condition answers the same over
any two lookups that agree on the paths it lists, at any time.  So what a gate of a
built machine gathers for the paths that it lists is as good as all feeds of the
machine. -/
theorem reads_complete :
    (∀ source p, Condition.Program.compile source = .ok p →
      ∀ (time : Condition.EvaluationTime) (first second : Value.Path → Value),
        (∀ text ∈ p.reads, first (Value.Path.ofDotted text) =
          second (Value.Path.ofDotted text)) →
        p.run first time = p.run second time) ∧
    ∀ m : Machine, m.Built → ∀ gate : Gate, .gate gate ∈ m.states →
      ∀ label metadata entry documents, Gathers m gate label metadata entry documents :=
  ⟨fun _ _ hcompile time _ _ hagree => Condition.Program.run_congr hcompile hagree time,
    fun _ hm _ hgate => hm.gathers hgate⟩

/-- A gate that opens once an account is paid, and routes by the plan of the customer. -/
def paidGate : Gate :=
  ⟨"unpaid", ⟨"feeds.billing.paid", [.lookup ["feeds", "billing", "paid"]]⟩, [],
    .byValue "feeds.crm.plan" [⟨.str "basic", "served"⟩]⟩

/-- A machine with that gate and a feed that nobody reads. -/
def accounts : Machine :=
  ⟨"accounts", [.gate paidGate, .action ⟨"served", "https://example.com", .stay⟩],
    [⟨"weather", "https://weather"⟩, ⟨"crm", "https://crm"⟩,
      ⟨"billing", "https://billing"⟩], []⟩

theorem accounts_built : accounts.Built := by
  have hreached : reachedNames accounts.states = ["served", "unpaid"] := by
    change reachFrom accounts.states ["unpaid"] [] = _
    rw [reachFrom_new rfl rfl]
    change reachFrom accounts.states ["served"] ["unpaid"] = _
    rw [reachFrom_new rfl rfl]
    change reachFrom accounts.states [] _ = _
    rw [reachFrom]
  have hvalid : violations accounts.states accounts.feeds = [] := by
    rw [violations, unreachableStates, hreached]
    with_unfolding_all rfl
  exact ⟨⟨"accounts", [.gate "unpaid" (some "feeds.billing.paid") []
      (.byValue "feeds.crm.plan" [⟨.str "basic", "served"⟩]),
    .action "served" (some "https://example.com") .stay], accounts.feeds, []⟩,
    Blueprint.build_eq_ok (by with_unfolding_all rfl) rfl hvalid⟩

/-- Two documents that differ in what is not read. -/
theorem reads_complete_accounts :
    (∃ p, Condition.Program.compile "feeds.billing.paid" = .ok p ∧
      ∀ time,
        p.run (fun path => if path = ["feeds", "billing", "paid"] then .bool true
          else .null) time =
        p.run (fun _ => .bool true) time) ∧
    .gate paidGate ∈ accounts.states ∧
    Feed.referenced paidGate.reads = ["billing", "crm"] ∧
    Gathers accounts paidGate ⟨"a", "accounts"⟩ (.obj []) none fun _ => .obj [] := by
  have hcompile : Condition.Program.compile "feeds.billing.paid" = .ok paidGate.exit := by
    with_unfolding_all rfl
  have hgate : .gate paidGate ∈ accounts.states := List.mem_cons_self
  refine ⟨⟨paidGate.exit, hcompile, fun time => ?_⟩, hgate, by with_unfolding_all rfl,
    reads_complete.2 accounts accounts_built paidGate hgate _ _ _ _⟩
  refine reads_complete.1 _ _ hcompile time _ _ ?_
  have hreads : paidGate.exit.reads = ["feeds.billing.paid"] := by with_unfolding_all rfl
  simp only [hreads, List.forall_mem_singleton]
  with_unfolding_all rfl

end Turnstile

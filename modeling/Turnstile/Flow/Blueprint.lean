import Turnstile.Flow.Reachable

/-!
# Blueprints

A blueprint describes a machine; `Blueprint.build` makes the machine or tells what is
wrong.  The states are made first, in order, then the header rules; the first failure
ends it.  Then the whole is checked, and all violations are reported together.
-/

set_option autoImplicit false

namespace Turnstile

open Condition (Program CompileError)

/-- The plan of a state. -/
inductive StatePlan where
  | gate (name : String) (exit : Option String) (triggers : List Trigger) (route : Route)
  | action (name : String) (webhook : Option String) (route : Route)

/-- The plan of a machine. -/
structure Blueprint where
  name : String
  states : List StatePlan
  feeds : List Feed
  headerRules : List (String × Dictionary String)

/-- What is wrong with a machine as a whole. -/
inductive Violation where
  | noStates
  | duplicateState (state : String)
  | duplicateFeed (feed : String)
  | unknownDestination (state destination : String)
  | unreachableState (state : String)
  | undeclaredFeed (state feed : String)
  | actionReadsFeed (state path : String)
  | zeroInterval (gate : String)
deriving DecidableEq, Repr

namespace Violation

/-- The name of a kind of violation. -/
def name : Violation → String
  | .noStates => "NoStates"
  | .duplicateState _ => "DuplicateState"
  | .duplicateFeed _ => "DuplicateFeed"
  | .unknownDestination _ _ => "UnknownDestination"
  | .unreachableState _ => "UnreachableState"
  | .undeclaredFeed _ _ => "UndeclaredFeed"
  | .actionReadsFeed _ _ => "ActionReadsFeed"
  | .zeroInterval _ => "ZeroInterval"

/-- The wording of a violation. -/
def message : Violation → String
  | .noStates => "State machine has no states"
  | .duplicateState state => "State '" ++ state ++ "' is defined more than once"
  | .duplicateFeed feed => "Feed '" ++ feed ++ "' is declared more than once"
  | .unknownDestination state destination =>
    "State '" ++ state ++ "' leads to undefined state '" ++ destination ++ "'"
  | .unreachableState state =>
    "State '" ++ state ++ "' can never be reached from the initial state"
  | .undeclaredFeed state feed =>
    "State '" ++ state ++ "' reads undeclared feed '" ++ feed ++ "'"
  | .actionReadsFeed state path =>
    "Action '" ++ state ++ "' routes on '" ++ path ++ "', but actions only see metadata"
  | .zeroInterval gate => "Gate '" ++ gate ++ "' has an interval trigger of zero"

end Violation

/-- The names that stand in a list after an equal one, in order. -/
def repeated (seen : List String) : List String → List String
  | [] => []
  | name :: rest =>
    if seen.contains name then name :: repeated seen rest
    else repeated (name :: seen) rest

/-- The destinations of states that name no state. -/
def unknownDestinations (states : List State) : List Violation :=
  states.flatMap fun s =>
    (s.destinations.filter fun target => !(states.map State.name).contains target).map
      (.unknownDestination s.name)

/-- The states that cannot be reached. -/
def unreachableStates (states : List State) : List Violation :=
  (states.filter fun s => !(reachedNames states).contains s.name).map
    fun s => .unreachableState s.name

/-- The feeds that a state reads and must not. -/
def feedViolations (feeds : List Feed) : State → List Violation
  | .gate g =>
    ((Feed.referenced g.reads).filter fun feed =>
      !(feeds.map Feed.name).contains feed).map
        (.undeclaredFeed g.name)
  | .action a =>
    (a.route.reads.filter fun path => (Value.Path.ofDotted path).head? ==
      some "feeds").map
      (.actionReadsFeed a.name)

/-- Whether a trigger fires every moment. -/
def Trigger.isZeroInterval : Trigger → Bool
  | .every interval => interval.isZero
  | _ => false

/-- The gates with an interval of zero. -/
def zeroIntervals (states : List State) : List Violation :=
  ((states.filterMap State.gate?).filter fun g =>
    g.triggers.any Trigger.isZeroInterval).map
      fun g => .zeroInterval g.name

/-- All violations of a machine with these states and feeds. -/
def violations (states : List State) (feeds : List Feed) : List Violation :=
  if states.isEmpty then [.noStates]
  else
    (repeated [] (states.map State.name)).map .duplicateState ++
      (repeated [] (feeds.map Feed.name)).map .duplicateFeed ++
      unknownDestinations states ++
      unreachableStates states ++
      states.flatMap (feedViolations feeds) ++
      zeroIntervals states

/-- Why a blueprint makes no machine. -/
inductive BuildError where
  | missingExitCondition (gate : String)
  | missingWebhook (action : String)
  | invalidExitCondition (gate : String) (error : CompileError)
  | invalidHeaderPattern (pattern : String)
  | invalid (name : String) (violations : List Violation)

/-- The name of a kind of build error. -/
def BuildError.name : BuildError → String
  | .missingExitCondition _ => "MissingExitCondition"
  | .missingWebhook _ => "MissingWebhook"
  | .invalidExitCondition _ _ => "InvalidExitCondition"
  | .invalidHeaderPattern _ => "InvalidWebhookPattern"
  | .invalid _ _ => "Invalid"

/-- The wording of a build error. -/
def BuildError.message : BuildError → String
  | .missingExitCondition gate =>
    "Gate '" ++ gate ++ "' has no exit condition. Call .exit_condition(source)"
  | .missingWebhook action =>
      "Action '" ++ action ++ "' has no webhook. Call .webhook(url)"
  | .invalidExitCondition gate error =>
    "Invalid exit condition on gate '" ++ gate ++ "':\n" ++ error.message
  | .invalidHeaderPattern pattern => "Invalid webhook URL pattern '" ++ pattern ++ "'"
  | .invalid name violations =>
    "State machine '" ++ name ++ "' is invalid: " ++
      "; ".intercalate (violations.map Violation.message)

/-- Make a state. -/
def StatePlan.build : StatePlan → Except BuildError State
  | .gate name none _ _ => .error (.missingExitCondition name)
  | .gate name (some source) triggers route =>
    match Program.compile source with
    | .ok exit => .ok (.gate ⟨name, exit, triggers, route⟩)
    | .error error => .error (.invalidExitCondition name error)
  | .action name none _ => .error (.missingWebhook name)
  | .action name (some webhook) route => .ok (.action ⟨name, webhook, route⟩)

/-- Make a header rule. -/
def HeaderRule.build (pattern : String) (headers : Dictionary String) :
    Except BuildError (HeaderRule Pattern) :=
  match Pattern.parse? pattern with
  | some p => .ok ⟨p, headers⟩
  | none => .error (.invalidHeaderPattern pattern)

/-- Make a machine. -/
def Blueprint.build (plan : Blueprint) : Except BuildError Machine := do
  let states ← plan.states.mapM StatePlan.build
  let headerRules ← plan.headerRules.mapM fun rule => HeaderRule.build rule.1 rule.2
  match violations states plan.feeds with
  | [] => pure ⟨plan.name, states, plan.feeds, headerRules⟩
  | found => .error (.invalid plan.name found)

end Turnstile

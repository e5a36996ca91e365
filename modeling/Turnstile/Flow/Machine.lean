import Turnstile.Condition.Program
import Turnstile.Flow.Feed
import Turnstile.Flow.Trigger
import Turnstile.Flow.Webhook
import Turnstile.Pattern.Reader

/-!
# Machines

A machine is a list of states.  A gate holds its labels until its exit condition is
true; an action holds them until its webhook has accepted them.  A `Route` tells where a
label goes from a state; a state without a way out is terminal.
-/

set_option autoImplicit false

namespace Turnstile

open Condition (Program)

/-- One way out of a state, taken for one value. -/
structure Arm where
  value : Value
  state : String

/-- Where labels go from a state. -/
inductive Route where
  /-- Nowhere: the state is terminal. -/
  | stay
  /-- Always to one state. -/
  | always (state : String)
  /-- To the state of the first arm whose value is the one at a path. -/
  | byValue (path : String) (arms : List Arm)

/-- Why a route leads nowhere. -/
inductive RouteError where
  | terminal
  | noMatch (path : String) (value : Value)

/-- The name of a kind of route error. -/
def RouteError.name : RouteError → String
  | .terminal => "NoNextStates"
  | .noMatch _ _ => "NoMatchingNextState"

/-- The wording of a route error. -/
def RouteError.message : RouteError → String
  | .terminal => "State is terminal and has no next state"
  | .noMatch path value =>
      "No destination matches " ++ value.text ++ " at '" ++ path ++ "'"

namespace Route

/-- Whether labels never leave. -/
def isTerminal : Route → Bool
  | .stay => true
  | _ => false

/-- The states a route can lead to, one for each arm. -/
def destinations : Route → List String
  | .stay => []
  | .always state => [state]
  | .byValue _ arms => arms.map (·.state)

/-- The dotted paths a route reads. -/
def reads : Route → List String
  | .byValue path _ => [path]
  | _ => []

/-- The state a route leads to, given what paths hold. -/
def next (route : Route) (lookup : Value.Path → Value) : Except RouteError String :=
  match route with
  | .stay => .error .terminal
  | .always state => .ok state
  | .byValue path arms =>
    let value := lookup (Value.Path.ofDotted path)
    match arms.find? fun arm => arm.value.equal value with
    | some arm => .ok arm.state
    | none => .error (.noMatch path value)

end Route

/-- A state that holds labels until its exit condition is true. -/
structure Gate where
  name : String
  exit : Program
  triggers : List Trigger
  route : Route

/-- A state that holds labels until its webhook has accepted them. -/
structure Action where
  name : String
  webhook : String
  route : Route

/-- A state of a machine. -/
inductive State where
  | gate (g : Gate)
  | action (a : Action)

namespace State

/-- The name of a state. -/
def name : State → String
  | .gate g => g.name
  | .action a => a.name

/-- Where labels go from a state. -/
def route : State → Route
  | .gate g => g.route
  | .action a => a.route

/-- Whether labels never leave the state. -/
def isTerminal (s : State) : Bool := s.route.isTerminal

/-- The states that labels can move to. -/
def destinations (s : State) : List String := s.route.destinations

/-- The gate, if the state is one. -/
def gate? : State → Option Gate
  | .gate g => some g
  | .action _ => none

/-- The action, if the state is one. -/
def action? : State → Option Action
  | .action a => some a
  | .gate _ => none

/-- The word for the kind of a state. -/
def kind : State → String
  | .gate _ => "gate"
  | .action _ => "action"

end State

/-- The dotted paths that a gate reads to let a label go: those of its condition and its
route. -/
def Gate.reads (g : Gate) : List String :=
  Text.sortedNames (g.exit.reads ++ g.route.reads)

/-- A machine. -/
structure Machine where
  name : String
  states : List State
  feeds : List Feed
  headerRules : List (HeaderRule Pattern)

/-- The first state of a name in a list. -/
def findState (states : List State) (name : String) : Option State :=
  states.find? fun s => s.name = name

namespace Machine

/-- The state in which labels are created. -/
def initial? (m : Machine) : Option State := m.states.head?

/-- The first state of a name. -/
def state? (m : Machine) (name : String) : Option State := findState m.states name

/-- The first feed of a name. -/
def feed? (m : Machine) (name : String) : Option Feed :=
  m.feeds.find? fun f => f.name = name

/-- The gates in order. -/
def gates (m : Machine) : List Gate := m.states.filterMap State.gate?

/-- The actions in order. -/
def actions (m : Machine) : List Action := m.states.filterMap State.action?

/-- Whether the machine declares a move between two states. -/
def hasEdge (m : Machine) (source target : String) : Bool :=
  match m.state? source with
  | some s => s.destinations.contains target
  | none => false

end Machine

end Turnstile

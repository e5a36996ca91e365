import Turnstile.Engine.Attempt
import Turnstile.Settings

/-!
# Applications

An application is a set of machines with settings.
-/

set_option autoImplicit false

namespace Turnstile

/-- Machines by their names, settings, and what the application knows of the world. -/
structure App where
  machines : Dictionary Machine
  settings : Settings
  /-- Whether webhooks of machines outside the application can be delivered too. -/
  deliversForAll : Bool := true
  /-- The time zones that labels can name. -/
  zones : List Time.Zone := []

namespace App

/-- The application over some machines; of two of one name the later counts. -/
def ofMachines (machines : List Machine) (settings : Settings) (deliversForAll : Bool)
    (zones : List Time.Zone := []) : App :=
  ⟨Dictionary.ofList (machines.map fun m => (m.name, m)), settings, deliversForAll, zones⟩

/-- The machine of a name. -/
def machine (app : App) (name : String) : Except EngineError Machine :=
  match Dictionary.find? app.machines name with
  | some m => .ok m
  | none => .error (.unknownMachine name)

/-- Whether webhooks of a machine can be delivered. -/
def delivers (app : App) (machine : String) : Bool :=
  app.deliversForAll || (Dictionary.find? app.machines machine).isSome

end App

/-- The state of a name in a machine. -/
def Machine.stateNamed (m : Machine) (name : String) : Except EngineError State :=
  match m.state? name with
  | some s => .ok s
  | none => .error (.unknownState m.name name)

end Turnstile

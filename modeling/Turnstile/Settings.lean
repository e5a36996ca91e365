import Turnstile.Time.Span
import Turnstile.Value.Basic

/-!
# Settings

The settings of an application are read from a document whose fields may all be missing.
Fields that are unknown are passed over; a field of the wrong kind spoils the whole.
Cadences and limits have to be positive, and `Settings.check` reports all that are not.
-/

set_option autoImplicit false

namespace Turnstile

open Time (Span)

/-- Cadences and timeouts in seconds, limits, and the filter of the log. -/
structure Settings where
  cronTick : Nat := 1
  webhookTimeout : Nat := 10
  feedTimeout : Nat := 10
  /-- How many moves one label may make in one go. -/
  maxTransitions : Nat := 50
  actionRetry : Nat := 60
  metadataRetry : Nat := 60
  timezoneCheck : Nat := 60
  cronWorkers : Nat := 4
  logFilter : String := "labelflow=info"
deriving DecidableEq, Repr

/-- Why there are no settings. -/
inductive SettingsError where
  | unreadable
  | malformed
  | invalid (problems : List String)
deriving DecidableEq, Repr

namespace Settings

/-- The names of the fields in their order. -/
def fieldNames : List String := [
  "cron_tick_secs", "webhook_timeout_secs", "feed_timeout_secs", "max_transitions",
  "action_retry_secs", "metadata_retry_secs", "timezone_check_secs",
  "cron_workers", "log_filter"]

/-- The counts among the fields, with their names. -/
def counts (s : Settings) : List (String × Nat) := [
  ("cron_tick_secs", s.cronTick),
  ("webhook_timeout_secs", s.webhookTimeout),
  ("feed_timeout_secs", s.feedTimeout),
  ("max_transitions", s.maxTransitions),
  ("action_retry_secs", s.actionRetry),
  ("metadata_retry_secs", s.metadataRetry),
  ("timezone_check_secs", s.timezoneCheck),
  ("cron_workers", s.cronWorkers)]

/-- Read a count: an integer that is not negative. -/
def readCount? : Value → Option Nat
  | .num (.int n) => if 0 ≤ n then some n.toNat else none
  | _ => none

/-- Read a field that may be missing. -/
def readField? {α : Type} (read? : Value → Option α) (default : α) :
    Option Value → Option α
  | none => some default
  | some value => read? value

/-- Read settings, given what stands in each field. -/
def ofFields? (field? : String → Option Value) : Option Settings := do
  let count (name : String) (default : Nat) := readField? readCount? default (field? name)
  let defaults : Settings := {}
  let cronTick ← count "cron_tick_secs" defaults.cronTick
  let webhookTimeout ← count "webhook_timeout_secs" defaults.webhookTimeout
  let feedTimeout ← count "feed_timeout_secs" defaults.feedTimeout
  let maxTransitions ← count "max_transitions" defaults.maxTransitions
  let actionRetry ← count "action_retry_secs" defaults.actionRetry
  let metadataRetry ← count "metadata_retry_secs" defaults.metadataRetry
  let timezoneCheck ← count "timezone_check_secs" defaults.timezoneCheck
  let cronWorkers ← count "cron_workers" defaults.cronWorkers
  let logFilter ← readField? Value.string? defaults.logFilter (field? "log_filter")
  pure {
    cronTick, webhookTimeout, feedTimeout, maxTransitions, actionRetry, metadataRetry,
    timezoneCheck, cronWorkers, logFilter }

/-- Read settings from a document, with the fields given by name or in order. -/
def ofValue? : Value → Option Settings
  | .obj fields => ofFields? fun name => Dictionary.find? fields name
  | .arr items =>
    if items.length ≤ fieldNames.length then
      ofFields? fun name =>
        ((fieldNames.zip items).find? fun pair => pair.1 = name).map Prod.snd
    else none
  | _ => none

/-- The document of settings. -/
def toValue (s : Settings) : Value :=
  .object (("log_filter", .str s.logFilter) ::
    s.counts.map fun count => (count.1, .int count.2))

/-- What is wrong with the settings. -/
def problems (s : Settings) : List String :=
  (s.counts.filter fun count => count.2 = 0).map fun count =>
    count.1 ++ " must be greater than zero"

/-- The settings, if nothing is wrong with them. -/
def check (s : Settings) : Except SettingsError Settings :=
  match s.problems with
  | [] => .ok s
  | found => .error (.invalid found)

/-- The valid settings of a document. -/
def load (document : Option Value) : Except SettingsError Settings :=
  match document.bind ofValue? with
  | some s => s.check
  | none => .error .malformed

end Settings

/-- The wording of a complaint about the values of settings. -/
def SettingsError.message? : SettingsError → Option String
  | .invalid problems => some ("Invalid settings: " ++ "; ".intercalate problems)
  | _ => none

end Turnstile

import Turnstile.Flow.Feed
import Turnstile.Flow.Webhook
import Turnstile.Time.Span

/-!
# Notices

Whoever watches an application is given notice of every delivery, every fetch and every
job when it starts and when it has finished.
-/

set_option autoImplicit false

namespace Turnstile

open Time (Span)

/-- What can be heard. -/
inductive Notice where
  | webhookStart (machine state url : String)
  | webhookFinish (machine state url : String) (result : Delivered)
  | feedStart (machine feed url : String)
  | feedFinish (machine feed url : String) (error : Option FeedError)
  | jobStart (job : String)
  | jobFinish (job : String)
deriving DecidableEq, Repr

namespace Notice

/-- Whole milliseconds of a span, as the log writes them. -/
def elapsedField (elapsed : Span) : String × String :=
  ("elapsed_ms", toString (elapsed.total / 1000000))

/-- The event that tells the log of a notice; what has finished took `elapsed`. -/
def logEvent (elapsed : Span) : Notice → LogEvent
  | .webhookStart machine state url =>
    ⟨.debug, "Delivering webhook",
      [("state_machine", machine), ("state", state), ("url", url)]⟩
  | .webhookFinish machine state url result =>
    ⟨.info, "Webhook delivered",
      [("state_machine", machine), ("state", state), ("url", url),
        ("result", result.name), elapsedField elapsed]⟩
  | .feedStart machine feed url =>
    ⟨.debug, "Fetching feed", [("state_machine", machine), ("feed", feed), ("url", url)]⟩
  | .feedFinish machine feed url (some error) =>
    ⟨.warn, "Feed fetch failed",
      [("state_machine", machine), ("feed", feed), ("url", url), ("error", error.message),
        elapsedField elapsed]⟩
  | .feedFinish machine feed url none =>
    ⟨.debug, "Feed fetched",
      [("state_machine", machine), ("feed", feed), ("url", url), elapsedField elapsed]⟩
  | .jobStart job => ⟨.debug, "Cron job starting", [("job", job)]⟩
  | .jobFinish job => ⟨.debug, "Cron job finished", [("job", job), elapsedField elapsed]⟩

end Notice

end Turnstile

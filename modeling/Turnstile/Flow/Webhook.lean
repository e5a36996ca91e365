import Turnstile.Digest.NameId
import Turnstile.Label
import Turnstile.Log
import Turnstile.Value.Text

/-!
# Webhooks

An action delivers its label to a webhook.  A delivery has a body, a token that is the
same for all attempts of one visit to the action, and headers.  Header rules add headers
to the webhooks whose URL matches a pattern; later rules win.
-/

set_option autoImplicit false

namespace Turnstile

/-- How a delivery ended. -/
inductive Delivered where
  /-- Accepted: the label may move on. -/
  | success
  /-- Not accepted this time. -/
  | retry
  /-- The receiver is gone for good. -/
  | fail
deriving DecidableEq, Repr

namespace Delivered

/-- The name of an outcome. -/
def name : Delivered → String
  | .success => "Success"
  | .retry => "Retry"
  | .fail => "Fail"

/-- The outcome of a status code: 410 is final, 200 to 299 accept, all else is tried
again. -/
def ofStatus (code : Nat) : Delivered :=
  if code = 410 then .fail else if 200 ≤ code ∧ code ≤ 299 then .success else .retry

end Delivered

/-- Headers for the webhooks whose URL matches a pattern, whatever patterns are. -/
structure HeaderRule (ρ : Type) where
  pattern : ρ
  headers : Dictionary String

namespace Webhook

/-- The type of every body. -/
def contentType : String := "application/json"

/-- The body of a delivery. -/
def payload (name : String) (metadata : Value) : String :=
  (Value.object [("label", .str name), ("metadata", metadata)]).text

/-- What the token of a visit is made from: the entry that began the visit. -/
def tokenKey (label : Label) (id : Int) : String :=
  label.machine ++ ":" ++ label.name ++ ":" ++ String.ofList (Number.integerText id)

/-- The token of a visit. -/
def token (label : Label) (id : Int) : String := Digest.nameId (tokenKey label id)

section Rules

variable {ρ : Type}

/-- The headers that rules set for a URL that fits their patterns, by their written
names; later rules win. -/
def configuredHeaders (fits : ρ → String → Bool) (rules : List (HeaderRule ρ))
    (url : String) :
    Dictionary String :=
  (rules.filter fun rule => fits rule.pattern url).foldl
    (fun acc rule => Dictionary.insertAll acc rule.headers) []

/-- Characters of header names. -/
def isNameChar (c : Char) : Bool :=
  c.isAlphanum || "!#$%&\x27*+-.^_\x60|~".toList.contains c

/-- Header names are not empty and hold name characters only. -/
def isHeaderName (name : String) : Bool := !name.isEmpty && name.toList.all isNameChar

/-- Header values hold no control characters but tabs. -/
def isHeaderValue (value : String) : Bool :=
  value.toList.all fun c => c = '\t' || (0x20 ≤ c.toNat && c.toNat ≠ 0x7f)

/-- The header of the token. -/
def tokenHeader : String := "X-Idempotency-Token"

/-- The headers of a delivery as they are asked for: the two defaults, then those of the
rules. -/
def askedHeaders (fits : ρ → String → Bool) (rules : List (HeaderRule ρ))
    (url contentType token : String) : List (String × String) :=
  ("content-type", contentType) :: (tokenHeader, token) ::
    configuredHeaders fits rules url

/-- Whether a header can be sent. -/
def isSendable (header : String × String) : Bool :=
  isHeaderName header.1 && isHeaderValue header.2

/-- The lowercase form of a header name. -/
def lowercase (name : String) : String := String.ofList (name.toList.map Char.toLower)

/-- The headers of a delivery as they are sent: names in lower case, the last of a name
wins, and those that cannot be sent are left out. -/
def sentHeaders (fits : ρ → String → Bool) (rules : List (HeaderRule ρ))
    (url contentType token : String) : Dictionary String :=
  ((askedHeaders fits rules url contentType token).filter isSendable).foldl
    (fun acc header => Dictionary.insert acc (lowercase header.1) header.2) []

/-- The warnings about headers that cannot be sent. -/
def headerWarnings (fits : ρ → String → Bool) (rules : List (HeaderRule ρ))
    (url contentType token : String) : List LogEvent :=
  ((askedHeaders fits rules url contentType token).filter fun header =>
    !isSendable header).map
      fun header =>
        ⟨.warn, "Skipping invalid webhook header", [("url", url), ("header", header.1)]⟩

end Rules

end Webhook

end Turnstile

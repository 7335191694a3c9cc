import Tenancy.Fault
import Tenancy.Text.Blank

/-!
# Sessions

Where the platform is reached and with which token. Both texts are cleaned and neither is empty.
-/

namespace Tenancy

structure Session where
  endpoint : String
  token : String
  endpoint_ne : endpoint ≠ ""
  token_ne : token ≠ ""

namespace Session

def open? (endpoint token : String) : Except Fault Session :=
  let endpoint := Text.baseAddress endpoint
  let token := Text.trim token
  if he : endpoint = "" then .error (.invalid "platform API endpoint must not be empty")
  else if ht : token = "" then .error (.invalid "access token must not be empty")
  else .ok ⟨endpoint, token, he, ht⟩

/-- The token is never shown. -/
def shown (s : Session) : String :=
  let endpoint := Text.quoted s.endpoint
  let token := Text.quoted "<redacted>"
  "Session \x7b " ++ s!"api_endpoint: {endpoint}, access_token: {token}" ++ " \x7d"

theorem shown_of_endpoint {s t : Session} (h : s.endpoint = t.endpoint) : s.shown = t.shown := by
  simp [shown, h]

end Session

/-- A text that is not blank, kept as it was given. -/
structure Phrase where
  text : String
  trim_ne : Text.trim text ≠ ""

def Phrase.of? (s : String) : Except Fault Phrase :=
  if h : Text.trim s = "" then .error (.invalid "value must not be empty or whitespace")
  else .ok ⟨s, h⟩

theorem Phrase.of?_text {s : String} {p : Phrase} (h : Phrase.of? s = .ok p) : p.text = s := by
  unfold Phrase.of? at h
  split at h
  · simp at h
  · simp only [Except.ok.injEq] at h; rw [← h]

end Tenancy

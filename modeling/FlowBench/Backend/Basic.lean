/-
  FlowBench.Backend.Basic
  ───────────────────────
  **Backends.**

  A backend runs nodes and keeps credentials, below one base address.  A
  test is posted to `nodes/test`; a credential lies at `credentials` and its
  id.
-/
import FlowBench.Http.Exchange
import FlowBench.Json.Printer
import FlowBench.Session.Request
import FlowBench.Settings.Basic
import FlowBench.Url.Parser

namespace FlowBench

/-- A backend. -/
structure Backend where
  base : Url
  /-- The key it asks for. -/
  key : Option String := none
  /-- How long a reply may take, in milliseconds. -/
  timeout : Nat := 0

namespace Backend

/-! ## §1. Where it is. -/

/-- The backend at an address. -/
def ofAddress (address : String) (key : Option String) (timeout : Nat) : Except Error Backend :=
  match Url.parse address with
  | .error fault =>
      .error (.config ("Invalid backend url '" ++ address ++ "': " ++ fault.message))
  | .ok u =>
      if u.canBeBase then .ok ⟨u, key, timeout⟩
      else .error (.config ("Backend url '" ++ address ++ "' cannot be a base"))

/-- The backend of the settings. -/
def ofSettings (s : Settings) : Except Error Backend :=
  match s.url with
  | none => .error (.config "backend.url is not set")
  | some address => ofAddress address s.apiKey s.timeout

/-- What a backend is shown as; its key is hidden. -/
def describe (b : Backend) : String :=
  "HttpBackend \x7b base: " ++ quoted b.base.text ++ ", api_key: "
    ++ (match b.key with
      | some _ => "Some(\"***\")"
      | none => "None")
    ++ " \x7d"

/-! ## §2. What it is asked. -/

/-- The address of segments below the base. -/
def endpoint (b : Backend) (segments : List String) : Url := b.base.append segments

/-- The request for a credential. -/
def credentialRequest (b : Backend) (id : String) : Http.Request :=
  { method := .get, url := b.endpoint ["credentials", id], authorization := b.key.map bearer
    timeout := b.timeout }

/-- The request to run a test. -/
def testRequest (b : Backend) (r : TestRequest) : Http.Request :=
  { method := .post, url := b.endpoint ["nodes", "test"], authorization := b.key.map bearer
    body := some (Json.compact r.toDocument), timeout := b.timeout }

end Backend

end FlowBench

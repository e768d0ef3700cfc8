/-
  FlowBench.Http.Exchange
  ───────────────────────
  **Requests and replies.**

  What is sent to a backend and what comes back.  The value of a reply is
  read from its body: nothing in it stands for null, and a body that is no
  JSON stands for its own text.
-/
import FlowBench.Json.Reader
import FlowBench.Text.Blank
import FlowBench.Url.Basic

namespace FlowBench

/-! ## §1. Requests. -/

/-- What a request is for. -/
inductive Http.Method where
  | get
  | post
  deriving DecidableEq, Repr

/-- The word of a method. -/
def Http.Method.word : Http.Method → String
  | .get => "GET"
  | .post => "POST"

/-- A request. -/
structure Http.Request where
  method : Http.Method
  url : Url
  /-- Who asks, if that is told. -/
  authorization : Option String := none
  /-- A JSON text. -/
  body : Option String := none
  /-- How long the reply may take, in milliseconds. -/
  timeout : Nat := 0
  deriving DecidableEq, Repr

/-- The header that proves who holds a key. -/
def bearer (key : String) : String := "Bearer " ++ key

/-- Whether a character may stand in a header. -/
def isHeaderChar (c : Char) : Bool := c = '\t' || (0x20 ≤ c.toNat && c.toNat ≠ 0x7F)

namespace Http.Request

/-- Whether a request can be sent: nothing in its headers breaks a line. -/
def isSendable (r : Http.Request) : Bool :=
  match r.authorization with
  | some text => text.toList.all isHeaderChar
  | none => true

/-- What the body of a request is. -/
def contentType (r : Http.Request) : Option String := r.body.map fun _ => "application/json"

end Http.Request

/-! ## §2. Replies. -/

/-- A reply. -/
structure Http.Reply where
  status : Nat
  body : String
  deriving DecidableEq, Repr

namespace Http.Reply

/-- Whether a reply tells that the request succeeded. -/
def succeeded (r : Http.Reply) : Bool := 200 ≤ r.status && r.status < 300

/-- The value that the body of a reply stands for. -/
def value (r : Http.Reply) : Value :=
  if r.body.toList.all isBlank then .null else (Json.read? r.body).getD (.str r.body)

end Http.Reply

end FlowBench

/-
  FlowBench.Settings.Basic
  ────────────────────────
  **Settings.**

  Where the backend is, the key it asks for, how long a test may take, and
  what is logged.  Every part may be left open.  Variables of the
  environment go before the settings file, as far as they are not empty.
-/
import FlowBench.Json.Value

namespace FlowBench

/-- The settings of a bench. -/
structure Settings where
  /-- The base address of the backend. -/
  url : Option String := none
  /-- The key sent to the backend. -/
  apiKey : Option String := none
  /-- How long one test may take. -/
  timeoutSeconds : Option Nat := none
  /-- Which messages are logged. -/
  filter : Option String := none
  deriving DecidableEq, Inhabited

namespace Settings

/-- The variable that gives the backend's address. -/
def urlVariable : String := "NODEWIRE_BACKEND_URL"

/-- The variable that gives the backend's key. -/
def keyVariable : String := "NODEWIRE_API_KEY"

/-- Where the settings file lies below the user's configuration directory. -/
def defaultPlace : String := "nodewire/config.toml"

/-- A variable that is set to something. -/
def given? (lookup? : String → Option String) (name : String) : Option String :=
  (lookup? name).filter fun v => !v.isEmpty

/-- The settings with the variables in front. -/
def withVariables (s : Settings) (lookup? : String → Option String) : Settings :=
  { s with
    url := (given? lookup? urlVariable).or s.url
    apiKey := (given? lookup? keyVariable).or s.apiKey }

/-- How long a test may take, in milliseconds; two minutes unless set. -/
def timeout (s : Settings) : Nat := (s.timeoutSeconds.getD 120) * 1000

/-- Which messages are logged; the informative ones unless set. -/
def logFilter (s : Settings) : String := s.filter.getD "info"

/-- The settings as a value. -/
def toValue (s : Settings) : Value :=
  let text (t : Option String) : Value := (t.map Value.str).getD .null
  .object
    [("backend", .object [("url", text s.url), ("api_key", text s.apiKey),
        ("timeout_secs", (s.timeoutSeconds.map fun (n : Nat) => Value.int n).getD .null)]),
      ("logging", .object [("filter", text s.filter)])]

end Settings

/-- A key as it may be shown: its first characters. -/
def masked (visible : Nat) (key : String) : String :=
  if key.isEmpty then "" else String.ofList (key.toList.take visible) ++ "***"

end FlowBench

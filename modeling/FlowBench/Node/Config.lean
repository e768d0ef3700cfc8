/-
  FlowBench.Node.Config
  ─────────────────────
  **What a node is set to do.**

  One structure per kind of node.  Some texts of a configuration may hold
  template spans; `texts` lists them by name and `mapTexts` changes them,
  both in the order of declaration.  What triggers a flow and the source of
  a code node are never templates.
-/
import FlowBench.Table
import FlowBench.Number.Binary
import FlowBench.Node.Kind

namespace FlowBench

/-! ## §1. Configurations. -/

/-- A trigger by a request from outside. -/
structure Webhook where
  path : String := ""
  method : String := "GET"
  deriving DecidableEq

/-- A trigger by the clock. -/
structure Schedule where
  cron : String
  timezone : Option String := none
  deriving DecidableEq

/-- A request to be made. -/
structure HttpRequest where
  method : String := "GET"
  url : String
  headers : Table String := Table.empty
  query : Table String := Table.empty
  body : Option String := none
  credentialId : Option String := none
  deriving DecidableEq

/-- A question to a language model. -/
structure Llm where
  provider : String
  model : String
  systemPrompt : Option String := none
  prompt : String
  temperature : Option Binary32 := none
  credentialId : Option String := none
  deriving DecidableEq

/-- A two-way branch. -/
structure Conditional where
  left : String
  operator : Comparison := .equals
  right : String := ""
  deriving DecidableEq

/-- One way out of a switch. -/
structure SwitchRule where
  operator : Comparison := .equals
  value : String
  label : Option String := none
  deriving DecidableEq

/-- A branch by rules; `fallback` opens a way out for what no rule
matches. -/
structure Switch where
  value : String
  rules : List SwitchRule := []
  fallback : Bool := true
  deriving DecidableEq

/-- A program. -/
structure Code where
  language : String := "javascript"
  source : String
  deriving DecidableEq

/-- An object to be put together. -/
structure SetFields where
  fields : Table String := Table.empty
  deriving DecidableEq

/-- The configuration of a node. -/
inductive NodeConfig where
  | manual
  | webhook (c : Webhook)
  | schedule (c : Schedule)
  | httpRequest (c : HttpRequest)
  | llm (c : Llm)
  | conditional (c : Conditional)
  | switch (c : Switch)
  | code (c : Code)
  | set (c : SetFields)
  deriving DecidableEq, Inhabited

namespace NodeConfig

/-- The kind of node it belongs to. -/
def kind : NodeConfig → NodeKind
  | .manual => .manual
  | .webhook _ => .webhook
  | .schedule _ => .schedule
  | .httpRequest _ => .httpRequest
  | .llm _ => .llm
  | .conditional _ => .conditional
  | .switch _ => .switch
  | .code _ => .code
  | .set _ => .set

/-- The credential it asks for. -/
def credentialId : NodeConfig → Option String
  | .httpRequest c => c.credentialId
  | .llm c => c.credentialId
  | _ => none

/-! ## §2. Ways out. -/

/-- The way out of a condition that holds, and of one that does not. -/
def trueHandle : String := "true"
def falseHandle : String := "false"

/-- The way out for what no rule matches. -/
def fallbackHandle : String := "fallback"

/-- The way out of a rule, by its position. -/
def ruleHandle (i : Nat) : String := "output" ++ toString i

/-- The named ways out; a node with a single one has none. -/
def handles : NodeConfig → List String
  | .conditional _ => [trueHandle, falseHandle]
  | .switch c =>
      (List.range c.rules.length).map ruleHandle ++ (if c.fallback then [fallbackHandle] else [])
  | _ => []

/-! ## §3. Texts that may hold spans. -/

/-- The texts of a table, named behind a label. -/
def tableTexts (label : String) (t : Table String) : List (String × String) :=
  t.entries.map fun e => (label ++ "." ++ e.1, e.2)

/-- Changes the texts of a table. -/
def mapTable (label : String) (f : String → String → String) (t : Table String) : Table String :=
  t.mapWithKey fun key text => f (label ++ "." ++ key) text

/-- The name of a rule's text, by the rule's position. -/
def ruleText (i : Nat) : String := "rules[" ++ toString i ++ "].value"

/-- The texts that may hold spans, by name, in the order of declaration. -/
def texts : NodeConfig → List (String × String)
  | .httpRequest c =>
      ("url", c.url) :: tableTexts "headers" c.headers ++ tableTexts "query" c.query
        ++ (c.body.map fun t => ("body", t)).toList
  | .llm c => (c.systemPrompt.map fun t => ("system_prompt", t)).toList ++ [("prompt", c.prompt)]
  | .conditional c => [("left", c.left), ("right", c.right)]
  | .switch c => ("value", c.value) :: c.rules.mapIdx fun i r => (ruleText i, r.value)
  | .set c => tableTexts "fields" c.fields
  | _ => []

/-- Changes the texts that may hold spans, given their names. -/
def mapTexts (f : String → String → String) : NodeConfig → NodeConfig
  | .httpRequest c =>
      .httpRequest { c with
        url := f "url" c.url
        headers := mapTable "headers" f c.headers
        query := mapTable "query" f c.query
        body := c.body.map (f "body") }
  | .llm c =>
      .llm { c with
        systemPrompt := c.systemPrompt.map (f "system_prompt")
        prompt := f "prompt" c.prompt }
  | .conditional c => .conditional { c with left := f "left" c.left, right := f "right" c.right }
  | .switch c =>
      .switch { c with
        value := f "value" c.value
        rules := c.rules.mapIdx fun i r => { r with value := f (ruleText i) r.value } }
  | .set c => .set { fields := mapTable "fields" f c.fields }
  | c => c

/-- The names of the texts that may hold spans. -/
def textNames (c : NodeConfig) : List String := c.texts.map Prod.fst

end NodeConfig

end FlowBench

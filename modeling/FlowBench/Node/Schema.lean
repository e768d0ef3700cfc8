/-
  FlowBench.Node.Schema
  ─────────────────────
  **Configurations as data.**

  Per kind of node, the shape its configuration has as data, the
  configuration read from data of that shape, and the document it is written
  as.  Optional parts that are absent and tables that are empty are left out
  when writing; parts that have a usual value may be left out when reading.
-/
import FlowBench.Shape
import FlowBench.Node.Config

namespace FlowBench

/-! ## §1. Shapes. -/

namespace Shape

/-- A field that must be there. -/
def needed (name : String) (s : Shape) : String × Presence × Shape := (name, .required, s)

/-- A field that may be left out. -/
def usual (name : String) (s : Shape) : String × Presence × Shape := (name, .defaulted, s)

/-- A comparison's word. -/
def comparison : Shape := .choice Comparison.words

/-- A rule of a switch. -/
def switchRule : Shape :=
  .record "struct SwitchRule"
    [usual "operator" comparison, needed "value" .text, usual "label" (.orNull .text)]

end Shape

/-- The shape of the configuration of a kind of node. -/
def NodeKind.shape : NodeKind → Shape
  | .manual => .bare "struct variant NodeConfig::Manual"
  | .webhook =>
      .record "struct WebhookConfig" [Shape.usual "path" .text, Shape.usual "method" .text]
  | .schedule =>
      .record "struct ScheduleConfig"
        [Shape.needed "cron" .text, Shape.usual "timezone" (.orNull .text)]
  | .httpRequest =>
      .record "struct HttpRequestConfig"
        [Shape.usual "method" .text, Shape.needed "url" .text,
          Shape.usual "headers" (.table .text), Shape.usual "query" (.table .text),
          Shape.usual "body" (.orNull .text), Shape.usual "credential_id" (.orNull .text)]
  | .llm =>
      .record "struct LlmConfig"
        [Shape.needed "provider" .text, Shape.needed "model" .text,
          Shape.usual "system_prompt" (.orNull .text), Shape.needed "prompt" .text,
          Shape.usual "temperature" (.orNull .single), Shape.usual "credential_id" (.orNull .text)]
  | .conditional =>
      .record "struct ConditionalConfig"
        [Shape.needed "left" .text, Shape.usual "operator" Shape.comparison,
          Shape.usual "right" .text]
  | .switch =>
      .record "struct SwitchConfig"
        [Shape.needed "value" .text, Shape.usual "rules" (.list Shape.switchRule),
          Shape.usual "fallback" .truth]
  | .code =>
      .record "struct CodeConfig" [Shape.usual "language" .text, Shape.needed "source" .text]
  | .set => .record "struct SetConfig" [Shape.usual "fields" (.table .text)]

/-! ## §2. Reading. -/

namespace NodeConfig

/-- The comparison under a key. -/
def operatorAt (v : Value) : Comparison :=
  ((v.textAt? "operator").bind Comparison.ofWord?).getD .equals

/-- The rule that data of its shape describes. -/
def ruleOf (v : Value) : SwitchRule :=
  { operator := operatorAt v, value := v.textAtD "value" "", label := v.textAt? "label" }

/-- The configuration that data of its shape describes. -/
def ofShaped (kind : NodeKind) (v : Value) : NodeConfig :=
  match kind with
  | .manual => .manual
  | .webhook => .webhook { path := v.textAtD "path" "", method := v.textAtD "method" "GET" }
  | .schedule => .schedule { cron := v.textAtD "cron" "", timezone := v.textAt? "timezone" }
  | .httpRequest =>
      .httpRequest
        { method := v.textAtD "method" "GET", url := v.textAtD "url" "",
          headers := v.textsAt "headers", query := v.textsAt "query",
          body := v.textAt? "body", credentialId := v.textAt? "credential_id" }
  | .llm =>
      .llm
        { provider := v.textAtD "provider" "", model := v.textAtD "model" "",
          systemPrompt := v.textAt? "system_prompt", prompt := v.textAtD "prompt" "",
          temperature := v.singleAt? "temperature", credentialId := v.textAt? "credential_id" }
  | .conditional =>
      .conditional
        { left := v.textAtD "left" "", operator := operatorAt v, right := v.textAtD "right" "" }
  | .switch =>
      .switch
        { value := v.textAtD "value" "", rules := (v.listAt "rules").map ruleOf,
          fallback := v.truthAtD "fallback" true }
  | .code =>
      .code { language := v.textAtD "language" "javascript", source := v.textAtD "source" "" }
  | .set => .set { fields := v.textsAt "fields" }

/-- Reads the configuration of a kind of node; none at all is an empty
one. -/
def read (kind : NodeKind) (config : Option Value) : Except ShapeError NodeConfig :=
  (kind.shape.read .held (config.getD (.obj []))).map (ofShaped kind)

/-! ## §3. Writing. -/

/-- A text that is written only when it is there. -/
def optionalText (key : String) (text : Option String) : List (String × Document) :=
  Document.optionalField key (text.map .text)

/-- A table that is written only when it is not empty. -/
def nonemptyTable (key : String) (t : Table String) : List (String × Document) :=
  if t.isEmpty then [] else [(key, Document.ofTexts t)]

/-- A rule as a document. -/
def ruleDocument (r : SwitchRule) : Document :=
  .record ([("operator", .text r.operator.word), ("value", .text r.value)]
    ++ optionalText "label" r.label)

/-- The settings of a configuration as a document. -/
def settings : NodeConfig → Document
  | .manual => .record []
  | .webhook c => .record [("path", .text c.path), ("method", .text c.method)]
  | .schedule c => .record ([("cron", .text c.cron)] ++ optionalText "timezone" c.timezone)
  | .httpRequest c =>
      .record ([("method", .text c.method), ("url", .text c.url)]
        ++ nonemptyTable "headers" c.headers ++ nonemptyTable "query" c.query
        ++ optionalText "body" c.body ++ optionalText "credential_id" c.credentialId)
  | .llm c =>
      .record ([("provider", .text c.provider), ("model", .text c.model)]
        ++ optionalText "system_prompt" c.systemPrompt ++ [("prompt", .text c.prompt)]
        ++ Document.optionalField "temperature" (c.temperature.map .single)
        ++ optionalText "credential_id" c.credentialId)
  | .conditional c =>
      .record [("left", .text c.left), ("operator", .text c.operator.word), ("right", .text c.right)]
  | .switch c =>
      .record [("value", .text c.value), ("rules", .list (c.rules.map ruleDocument)),
        ("fallback", .bool c.fallback)]
  | .code c => .record [("language", .text c.language), ("source", .text c.source)]
  | .set c => .record [("fields", Document.ofTexts c.fields)]

/-- The fields that a configuration is written as. -/
def fields (c : NodeConfig) : List (String × Document) :=
  [("type", .text c.kind.word), ("config", c.settings)]

/-- A configuration as a document. -/
def toDocument (c : NodeConfig) : Document := .record c.fields

/-- A configuration as a value. -/
def toValue (c : NodeConfig) : Value := c.toDocument.toValue

end NodeConfig

end FlowBench

/-
  FlowBench.Node.Kind
  ───────────────────
  **Kinds of node, and comparisons.**

  The nine kinds of node with the word each is written as and the display
  name that a new node of the kind gets; and the comparisons that conditions
  and switch rules are written with, which the executor carries out.
-/

namespace FlowBench

/-- The kinds of node. -/
inductive NodeKind where
  | manual
  | webhook
  | schedule
  | httpRequest
  | llm
  | conditional
  | switch
  | code
  | set
  deriving DecidableEq, Repr, Inhabited

namespace NodeKind

/-- Every kind. -/
def all : List NodeKind :=
  [.manual, .webhook, .schedule, .httpRequest, .llm, .conditional, .switch, .code, .set]

/-- The word a kind is written as. -/
def word : NodeKind → String
  | .manual => "manual"
  | .webhook => "webhook"
  | .schedule => "schedule"
  | .httpRequest => "http_request"
  | .llm => "llm"
  | .conditional => "conditional"
  | .switch => "switch"
  | .code => "code"
  | .set => "set"

/-- The words of all kinds. -/
def words : List String := all.map word

/-- The kind that a word stands for. -/
def ofWord? (w : String) : Option NodeKind := all.find? fun k => k.word = w

/-- The display name of a new node. -/
def defaultName : NodeKind → String
  | .manual => "Manual Trigger"
  | .webhook => "Webhook"
  | .schedule => "Schedule Trigger"
  | .httpRequest => "HTTP Request"
  | .llm => "LLM"
  | .conditional => "If"
  | .switch => "Switch"
  | .code => "Code"
  | .set => "Set"

theorem ofWord?_word (k : NodeKind) : ofWord? k.word = some k := by
  cases k <;> rfl

end NodeKind

/-- The comparisons. -/
inductive Comparison where
  | equals
  | notEquals
  | contains
  | greaterThan
  | lessThan
  | isEmpty
  | isNotEmpty
  deriving DecidableEq, Repr, Inhabited

namespace Comparison

/-- Every comparison. -/
def all : List Comparison :=
  [.equals, .notEquals, .contains, .greaterThan, .lessThan, .isEmpty, .isNotEmpty]

/-- The word a comparison is written as. -/
def word : Comparison → String
  | .equals => "equals"
  | .notEquals => "not_equals"
  | .contains => "contains"
  | .greaterThan => "greater_than"
  | .lessThan => "less_than"
  | .isEmpty => "is_empty"
  | .isNotEmpty => "is_not_empty"

/-- The words of all comparisons. -/
def words : List String := all.map word

/-- The comparison that a word stands for. -/
def ofWord? (w : String) : Option Comparison := all.find? fun c => c.word = w

theorem ofWord?_word (c : Comparison) : ofWord? c.word = some c := by
  cases c <;> rfl

end Comparison

end FlowBench

/-
  FlowBench.Event.Kind
  ────────────────────
  **What is recorded of a session.**

  The kinds of event: the session itself, edits of the graph, and the steps
  of a test.  As data an event kind is a record with its word under `type`.
-/
import FlowBench.Node.Schema

namespace FlowBench

/-- What happened. -/
inductive EventKind where
  | sessionOpened (nodes edges : Nat)
  | nodeAdded (node name : String)
  | nodeRenamed (node before after : String)
  | nodeRemoved (node : String)
  | edgeAdded (edge : String)
  /-- A test began; `context` is what the node saw. -/
  | testStarted (node : String) (context : Value)
  | templateResolved (node field template result : String)
  | testCompleted (node : String) (output : Value) (duration : Nat)
  | testFailed (node error : String) (duration : Nat)
  | testCancelled (node : String)
  /-- A second test was asked for while one was running. -/
  | testRejected (node : String)
  deriving Inhabited

namespace EventKind

/-- The node that an event is about. -/
def node? : EventKind → Option String
  | .nodeAdded n _ => some n
  | .nodeRenamed n _ _ => some n
  | .nodeRemoved n => some n
  | .testStarted n _ => some n
  | .templateResolved n _ _ _ => some n
  | .testCompleted n _ _ => some n
  | .testFailed n _ _ => some n
  | .testCancelled n => some n
  | .testRejected n => some n
  | .sessionOpened _ _ => none
  | .edgeAdded _ => none

/-- The word of an event kind, and its other fields. -/
def parts : EventKind → String × List (String × Value)
  | .sessionOpened n e => ("session_opened", [("node_count", .int n), ("edge_count", .int e)])
  | .nodeAdded n name => ("node_added", [("node_id", .str n), ("name", .str name)])
  | .nodeRenamed n before after =>
      ("node_renamed", [("node_id", .str n), ("from", .str before), ("to", .str after)])
  | .nodeRemoved n => ("node_removed", [("node_id", .str n)])
  | .edgeAdded e => ("edge_added", [("edge_id", .str e)])
  | .testStarted n context => ("test_started", [("node_id", .str n), ("context", context)])
  | .templateResolved n field template result =>
      ("template_resolved", [("node_id", .str n), ("field", .str field),
        ("template", .str template), ("result", .str result)])
  | .testCompleted n output ms =>
      ("test_completed", [("node_id", .str n), ("output", output), ("duration_ms", .int ms)])
  | .testFailed n error ms =>
      ("test_failed", [("node_id", .str n), ("error", .str error), ("duration_ms", .int ms)])
  | .testCancelled n => ("test_cancelled", [("node_id", .str n)])
  | .testRejected n => ("test_rejected", [("node_id", .str n)])

/-- The word of an event kind. -/
def word (k : EventKind) : String := k.parts.1

/-- An event kind as a value. -/
def toValue (k : EventKind) : Value := .object (("type", .str k.word) :: k.parts.2)

/-! ## Reading. -/

/-- The words of all event kinds, each with the shapes of its fields. -/
def variants : List (String × String × List (String × Shape)) :=
  [("session_opened", "SessionOpened",
      [("node_count", .count "usize"), ("edge_count", .count "usize")]),
    ("node_added", "NodeAdded", [("node_id", .text), ("name", .text)]),
    ("node_renamed", "NodeRenamed", [("node_id", .text), ("from", .text), ("to", .text)]),
    ("node_removed", "NodeRemoved", [("node_id", .text)]),
    ("edge_added", "EdgeAdded", [("edge_id", .text)]),
    ("test_started", "TestStarted", [("node_id", .text), ("context", .any)]),
    ("template_resolved", "TemplateResolved",
      [("node_id", .text), ("field", .text), ("template", .text), ("result", .text)]),
    ("test_completed", "TestCompleted",
      [("node_id", .text), ("output", .any), ("duration_ms", .count "u64")]),
    ("test_failed", "TestFailed",
      [("node_id", .text), ("error", .text), ("duration_ms", .count "u64")]),
    ("test_cancelled", "TestCancelled", [("node_id", .text)]),
    ("test_rejected", "TestRejected", [("node_id", .text)])]

/-- The event kind that a word and the fields it needs describe. -/
def ofShaped (word : String) (v : Value) : EventKind :=
  let node := v.textAtD "node_id" ""
  match word with
  | "session_opened" => .sessionOpened (v.countAt "node_count") (v.countAt "edge_count")
  | "node_added" => .nodeAdded node (v.textAtD "name" "")
  | "node_renamed" => .nodeRenamed node (v.textAtD "from" "") (v.textAtD "to" "")
  | "node_removed" => .nodeRemoved node
  | "edge_added" => .edgeAdded (v.textAtD "edge_id" "")
  | "test_started" => .testStarted node ((v.field? "context").getD .null)
  | "template_resolved" =>
      .templateResolved node (v.textAtD "field" "") (v.textAtD "template" "")
        (v.textAtD "result" "")
  | "test_completed" =>
      .testCompleted node ((v.field? "output").getD .null) (v.countAt "duration_ms")
  | "test_failed" => .testFailed node (v.textAtD "error" "") (v.countAt "duration_ms")
  | "test_cancelled" => .testCancelled node
  | _ => .testRejected node

/-- Reads the fields of an event kind whose word is known; they may be given
by name or in order. -/
def readAs (word : Value) (rest : Value) : Except ShapeError EventKind :=
  match word with
  | .str w =>
      match variants.find? fun x => x.1 = w with
      | none => .error (.unknownVariant w (variants.map fun x => x.1))
      | some (_, title, fields) =>
          let shape := Shape.record ("struct variant EventKind::" ++ title)
            (fields.map fun f => Shape.needed f.1 f.2)
          (shape.read .held rest).map (ofShaped w)
  | v => Shape.refuse v "variant identifier"

/-- Reads an event kind. -/
def read : Value → Except ShapeError EventKind
  | .obj fields =>
      match Entries.get? "type" fields with
      | some word => readAs word (.obj (Entries.erase "type" fields))
      | none => .error (.missingField "type")
  | .arr (word :: rest) => readAs word (.arr rest)
  | .arr [] => .error (.missingField "type")
  | v => Shape.refuse v "internally tagged enum EventKind"

end EventKind

end FlowBench

/-
  FlowBench.Context
  ─────────────────
  **What a node sees.**

  The outputs of a node's direct parents, in the order of their edges, and
  the outputs of all its ancestors by display name.  Together they form one
  merged view: `$input` is the list of the ordered outputs, `$json` the
  first of them, and every name is bound to its output.  A node that is
  displayed as `$json` or `$input` hides the keyword.
-/
import FlowBench.Path

namespace FlowBench

/-- The outputs visible to one node. -/
structure Context where
  /-- The direct parents' outputs. -/
  ordered : List Value := []
  /-- Every ancestor's output, by display name. -/
  named : Table Value := Table.empty
  deriving Inhabited

/-- The key of the list of ordered outputs. -/
def inputKey : String := "$input"

/-- The key of the first ordered output. -/
def jsonKey : String := "$json"

namespace Context

/-- Whether nothing is visible. -/
def isEmpty (u : Context) : Bool := u.ordered.isEmpty && u.named.isEmpty

/-- The value bound to a key of the merged view. -/
def root? (u : Context) (key : String) : Option Value :=
  match u.named.get? key with
  | some v => some v
  | none =>
      if key = inputKey then some (.arr u.ordered)
      else if key = jsonKey then u.ordered.head?
      else none

/-- What a direct path finds: the key of its first segment is looked up in
the merged view, then its indices and the other segments apply. -/
def resolve? (clock : String) (u : Context) (path : String) : Option Value :=
  if path = nowPath then some (.str clock)
  else
    match Path.parse? path with
    | some (head :: rest) =>
        (u.root? head.key).bind fun v => (v.descend? head.indices).bind fun w => w.walk? rest
    | _ => none

/-- The value handed out as a node's context. -/
def toValue (u : Context) : Value :=
  .object [("ordered", .arr u.ordered), ("named", .ofTable u.named)]

/-- The merged view as one object. -/
def merged (u : Context) : Value :=
  let keywords : Table Value :=
    match u.ordered.head? with
    | some v => (Table.empty.insert inputKey (.arr u.ordered)).insert jsonKey v
    | none => Table.empty.insert inputKey (.arr u.ordered)
  .ofTable (u.named.entries.foldl (fun t e => t.insert e.1 e.2) keywords)

end Context

end FlowBench

/-
  FlowBench.Reference
  ───────────────────
  **What the content of a span refers to.**

  A qualified reference names its node in quotes,

      $('Fetch User').item.json.id        $( "A" ).item.json

  and may name a node with any characters but the quote it is written with.
  Every other content is a direct path into the merged view, whose first key
  is the name of a node or a keyword.
-/
import FlowBench.Context

namespace FlowBench

/-- Span content, told apart by its form. -/
inductive Reference where
  /-- A node by name, and a path into its output. -/
  | qualified (node : String) (path : Option String)
  /-- A path into the merged view. -/
  | direct (path : String)
  deriving DecidableEq, Repr

namespace Reference

/-- Cuts off a fixed text. -/
def strip? : List Char → List Char → Option (List Char)
  | [], cs => some cs
  | w :: ws, c :: cs => if w = c then strip? ws cs else none
  | _ :: _, [] => none

/-- What follows the name's closing parenthesis: nothing, or a point and a
path on one line. -/
def tail? (cs : List Char) : Option (Option String) :=
  match strip? ").item.json".toList cs with
  | some [] => some none
  | some ('.' :: path) =>
      if path.isEmpty || path.contains '\n' then none else some (some (String.ofList path))
  | _ => none

/-- Reads a qualified reference. -/
def qualified? (expr : String) : Option Reference := do
  let cs ← strip? "$(".toList expr.toList
  match cs.dropWhile isBlank with
  | q :: rest =>
      if q = '\'' ∨ q = '"' then
        match rest.dropWhile (· ≠ q) with
        | _ :: after =>
            let path ← tail? (after.dropWhile isBlank)
            return .qualified (String.ofList (rest.takeWhile (· ≠ q))) path
        | [] => none
      else none
  | [] => none

/-- Tells the form of trimmed span content. -/
def parse (expr : String) : Reference := (qualified? expr).getD (.direct expr)

/-- The display name of the node that is read, if there is one: keywords,
the clock, bracket heads and malformed paths name none.  The head key of a
well-formed path reaches to its first point or bracket. -/
def nodeName? : Reference → Option String
  | .qualified node _ => some node
  | .direct path =>
      match Path.parse? path with
      | some (head :: _) =>
          if head.key.isEmpty ∨ head.key = inputKey ∨ head.key = jsonKey ∨ path = nowPath then none
          else some (String.ofList (path.toList.takeWhile fun c => c ≠ '.' && c ≠ '['))
      | _ => none

/-- What a reference finds. -/
def resolve? (clock : String) (u : Context) : Reference → Option Value
  | .qualified node none => u.named.get? node
  | .qualified node (some path) => (u.named.get? node).bind fun v => v.lookup? path
  | .direct path => u.resolve? clock path

end Reference

end FlowBench

/-
  FlowBench.Yaml.Tree
  ───────────────────
  **What a YAML text holds.**

  A tree of scalars, lists and mappings, each perhaps with a tag.  A node
  with an anchor can be repeated by an alias, which stands as a number in
  the tree until `expand` puts the node there.  Nodes may repeat each other
  many times over, and even themselves; so both the depth of the expanded
  tree and the number of repetitions are bounded.
-/
import FlowBench.Yaml.Token.Lexer

namespace FlowBench.Yaml

/-- A node of a YAML text. -/
inductive Tree where
  | scalar (tag : Option String) (isPlain : Bool) (text : String)
  | list (tag : Option String) (items : List Tree)
  | mapping (tag : Option String) (entries : List (Tree × Tree))
  /-- The anchored node with a number. -/
  | alias (number : Nat)
  /-- A list or a mapping that lies too deep. -/
  | tooDeep
  deriving Inhabited

namespace Tree

/-- The scalar that stands where nothing does. -/
def absent : Tree := .scalar none true ""

/-! ## §1. Size. -/

mutual
/-- The number of marks that write a tree: one for a scalar or an alias, two
for the ends of anything else. -/
def size : Tree → Nat
  | .scalar _ _ _ => 1
  | .list _ items => 2 + sizeItems items
  | .mapping _ entries => 2 + sizeEntries entries
  | .alias _ => 1
  | .tooDeep => 2

/-- The marks of a list's items. -/
def sizeItems : List Tree → Nat
  | [] => 0
  | t :: rest => size t + sizeItems rest

/-- The marks of a mapping's entries. -/
def sizeEntries : List (Tree × Tree) → Nat
  | [] => 0
  | (k, v) :: rest => size k + size v + sizeEntries rest
end

/-! ## §2. Aliases. -/

/-- How many lists and mappings may lie in each other. -/
def maxDepth : Nat := 128

/-- The node that stands at an alias; it uses up one repetition. -/
def follow (anchored? : Nat → Option Tree) (t : Tree) : StateT Nat Option Tree :=
  match t with
  | .alias number => do
      let left ← get
      if left = 0 then failure
      else
        set (left - 1)
        match anchored? number with
        | some node => pure node
        | none => failure
  | t => pure t

/-- Puts the anchored nodes where their aliases stand, given how many levels
and repetitions are left. -/
def expand (anchored? : Nat → Option Tree) : Nat → Tree → StateT Nat Option Tree
  | 0, t => do
      match ← follow anchored? t with
      | .scalar tag p text => pure (.scalar tag p text)
      | _ => pure .tooDeep
  | depth + 1, t => do
      match ← follow anchored? t with
      | .list tag items => do
          let items ← items.mapM (expand anchored? depth)
          return .list tag items
      | .mapping tag entries => do
          let entries ← entries.mapM fun e => do
            let k ← expand anchored? depth e.1
            let v ← expand anchored? depth e.2
            return (k, v)
          return .mapping tag entries
      | t => pure t

end Tree

end FlowBench.Yaml

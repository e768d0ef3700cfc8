/-
  FlowBench.Toml.Value
  ────────────────────
  **TOML values.**

  A table remembers how it came about, which decides what may still be added
  to it.  An array whose items are tables with headers of their own is an
  array of tables, to which headers add.
-/
import FlowBench.Number.Binary

namespace FlowBench

/-- How a table came about. -/
inductive Toml.Origin where
  /-- It was written in braces, and is complete. -/
  | inline
  /-- It has a header. -/
  | header
  /-- It holds a table with a header. -/
  | implied
  /-- It is named in a dotted key. -/
  | dotted
  deriving DecidableEq, Repr

/-- A value. -/
inductive Toml where
  | text (s : String)
  | integer (i : Int)
  | float (x : Binary64)
  | bool (b : Bool)
  /-- A date, a time, or both, as written. -/
  | moment (written : String)
  | array (items : List Toml)
  | table (origin : Toml.Origin) (fields : List (String × Toml))

end FlowBench

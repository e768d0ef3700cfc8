/-
  FlowBench.Json.Value
  ────────────────────
  **Data values.**

  What node outputs, contexts and configurations are made of.  An object is
  a list of fields in increasing key order; `object` builds one from fields
  in any order, a later field replacing an earlier one with its key.
  Integers and floats are told apart, and integers reach from `-2^63` to
  `2^64 - 1`.
-/
import FlowBench.Table
import FlowBench.Number.Binary

namespace FlowBench

/-- A data value. -/
inductive Value where
  | null
  | bool (b : Bool)
  | int (i : Int)
  | float (x : Binary64)
  | str (s : String)
  | arr (items : List Value)
  | obj (fields : List (String × Value))
  deriving Inhabited

namespace Value

/-- The object with the given fields. -/
def object (fields : List (String × Value)) : Value := .obj (Entries.ofList fields)

/-- The object of a table's entries. -/
def ofTable (t : Table Value) : Value := .obj t.entries

/-- The field of an object. -/
def field? (key : String) : Value → Option Value
  | .obj fields => Entries.get? key fields
  | _ => none

/-- The text, of a text value. -/
def str? : Value → Option String
  | .str s => some s
  | _ => none

/-- The truth value, of one. -/
def bool? : Value → Option Bool
  | .bool b => some b
  | _ => none

/-- The integer, of one that fits 64 bits with a sign. -/
def int64? : Value → Option Int
  | .int i => if -0x8000000000000000 ≤ i ∧ i < 0x8000000000000000 then some i else none
  | _ => none

end Value

end FlowBench

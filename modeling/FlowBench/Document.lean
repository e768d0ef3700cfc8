/-
  FlowBench.Document
  ──────────────────
  **Documents to be written.**

  A document is what a record of the library is written as: like a value,
  except that its fields keep the order they were given in and that a
  single-precision number is kept as one.  Every value is a document, and
  `toValue` turns a document into the value it stands for: fields in key
  order, single precision widened to double, and a number that is not
  finite, which a value cannot hold, as `null`.
-/
import FlowBench.Json.Value

namespace FlowBench

/-- A document. -/
inductive Document where
  | null
  | bool (b : Bool)
  | int (i : Int)
  | double (x : Binary64)
  | single (x : Binary32)
  | text (s : String)
  | list (items : List Document)
  | record (fields : List (String × Document))
  deriving Inhabited

namespace Document

/-! ## §1. Values as documents. -/

mutual
/-- The document of a value. -/
def ofValue : Value → Document
  | .null => .null
  | .bool b => .bool b
  | .int i => .int i
  | .float x => .double x
  | .str s => .text s
  | .arr items => .list (ofItems items)
  | .obj fields => .record (ofFields fields)

/-- The documents of a list's items. -/
def ofItems : List Value → List Document
  | [] => []
  | v :: rest => ofValue v :: ofItems rest

/-- The documents of an object's fields. -/
def ofFields : List (String × Value) → List (String × Document)
  | [] => []
  | (k, v) :: rest => (k, ofValue v) :: ofFields rest
end

/-! ## §2. Documents as values. -/

/-- The value of a double. -/
def numberValue (x : Binary64) : Value := if x.isFinite then .float x else .null

mutual
/-- The value that a document stands for. -/
def toValue : Document → Value
  | .null => .null
  | .bool b => .bool b
  | .int i => .int i
  | .double x => numberValue x
  | .single x => numberValue x.convert
  | .text s => .str s
  | .list items => .arr (toItems items)
  | .record fields => .object (toFields fields)

/-- The values of a list's items. -/
def toItems : List Document → List Value
  | [] => []
  | d :: rest => toValue d :: toItems rest

/-- The values of a record's fields. -/
def toFields : List (String × Document) → List (String × Value)
  | [] => []
  | (k, d) :: rest => (k, toValue d) :: toFields rest
end

/-- A field that is written only when it is there. -/
def optionalField (key : String) (d : Option Document) : List (String × Document) :=
  match d with
  | some d => [(key, d)]
  | none => []

/-- A table of texts. -/
def ofTexts (t : Table String) : Document :=
  .record (t.entries.map fun e => (e.1, .text e.2))

end Document

end FlowBench

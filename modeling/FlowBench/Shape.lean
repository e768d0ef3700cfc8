/-
  FlowBench.Shape
  ───────────────
  **The shapes that data must have.**

  A shape says what a value has to look like: a text, a list of records, a
  table, one of a few words.  `Shape.read` checks a value against a shape
  and gives it back in one form: records as objects with the fields the
  shape knows, choices as their word, single-precision numbers rounded.  A
  record may also be given as the list of its fields in order.

  A value that does not fit is refused with the first fault met: fields are
  read in the order in which the value gives them, and missing ones are
  looked for after that, in the order of the shape.
-/
import FlowBench.Json.Printer
import FlowBench.Text.Printable

namespace FlowBench

/-! ## §1. Faults. -/

/-- What was found where something else belongs. -/
inductive Found where
  | null
  | unit
  | truth (b : Bool)
  | integer (i : Int)
  /-- A float, as it is written. -/
  | float (numeral : String)
  | text (s : String)
  | list
  | table
  | tagged
  deriving DecidableEq, Repr

namespace Found

/-- The words for what was found. -/
def message : Found → String
  | .null => "null"
  | .unit => "unit value"
  | .truth b => "boolean `" ++ (if b then "true" else "false") ++ "`"
  | .integer i => "integer `" ++ toString i ++ "`"
  | .float numeral => "floating point `" ++ numeral ++ "`"
  | .text s => "string " ++ quoted s
  | .list => "sequence"
  | .table => "map"
  | .tagged => "enum"

/-- What a value is. -/
def ofValue : Value → Found
  | .null => .null
  | .bool b => .truth b
  | .int i => .integer i
  | .float x => .float (Json.floatText Json.doubleLayout x)
  | .str s => .text s
  | .arr _ => .list
  | .obj _ => .table

end Found

/-- Why a value does not have a shape. -/
inductive ShapeError where
  | invalidType (found : Found) (expected : String)
  | invalidValue (found : Found) (expected : String)
  | invalidLength (length : Nat) (expected : String)
  | unknownVariant (word : String) (known : List String)
  | missingField (name : String)
  | duplicateField (name : String)
  /-- The configuration of a node, of the kind named, is at fault. -/
  | inNode (id : String) (kind : String) (cause : ShapeError)
  deriving DecidableEq, Repr

namespace ShapeError

/-- The words that may stand in a place. -/
def oneOf (known : List String) : String :=
  let ticked := known.map fun w => "`" ++ w ++ "`"
  match ticked with
  | [] => "there are no variants"
  | [a] => "expected " ++ a
  | [a, b] => "expected " ++ a ++ " or " ++ b
  | many => "expected one of " ++ String.intercalate ", " many

/-- The text of a fault. -/
def message : ShapeError → String
  | .invalidType found expected =>
      "invalid type: " ++ found.message ++ ", expected " ++ expected
  | .invalidValue found expected =>
      "invalid value: " ++ found.message ++ ", expected " ++ expected
  | .invalidLength length expected =>
      "invalid length " ++ toString length ++ ", expected " ++ expected
  | .unknownVariant word known =>
      "unknown variant `" ++ word ++ "`, "
        ++ (if known.isEmpty then "there are no variants" else oneOf known)
  | .missingField name => "missing field `" ++ name ++ "`"
  | .duplicateField name => "duplicate field `" ++ name ++ "`"
  | .inNode id kind cause => "node '" ++ id ++ "' (" ++ kind ++ "): " ++ cause.message

end ShapeError

/-! ## §2. Shapes. -/

/-- What happens when a field of a record is not given. -/
inductive Presence where
  /-- It is missed. -/
  | required
  /-- It is missed only where the record is given as a list. -/
  | optional
  /-- It takes a value of its own. -/
  | defaulted
  deriving DecidableEq, Repr

/-- What a value has to look like. -/
inductive Shape where
  | any
  | text
  | truth
  /-- A single-precision number. -/
  | single
  /-- A natural number, by the name of its kind. -/
  | count (name : String)
  /-- `null`, or a value of a shape. -/
  | orNull (s : Shape)
  | list (s : Shape)
  | table (s : Shape)
  /-- One of a few words. -/
  | choice (words : List String)
  /-- An object whose fields do not matter. -/
  | bare (title : String)
  | record (title : String) (fields : List (String × Presence × Shape))
  /-- A value of a shape that passes a further check. -/
  | refined (s : Shape) (check : Value → Except ShapeError Value)

/-- Where a value comes from: read directly, or held back until it was known
what to read it as.  It shows in the faults of lists and words. -/
inductive Source where
  | direct
  | held
  deriving DecidableEq, Repr

namespace Shape

/-- A count of things. -/
def counted (n : Nat) (things : String) : String :=
  toString n ++ " " ++ things ++ (if n = 1 then "" else "s")

/-- The fault of a list that is longer than a record. -/
def tooLong (source : Source) (known given : Nat) : ShapeError :=
  match source with
  | .direct => .invalidLength given "fewer elements in array"
  | .held => .invalidLength given (counted known "element" ++ " in sequence")

/-- Refuses a value. -/
def refuse {α : Type} (v : Value) (expected : String) : Except ShapeError α :=
  .error (.invalidType (.ofValue v) expected)

/-- A number rounded to single precision. -/
def roundSingle : Value → Except ShapeError Value
  | .int i => .ok (.float (Binary.ofInt i : Binary32).convert)
  | .float x => .ok (.float (x.convert : Binary32).convert)
  | v => refuse v "f32"

/-- A natural number. -/
def readCount (name : String) : Value → Except ShapeError Value
  | .int i => if 0 ≤ i then .ok (.int i) else .error (.invalidValue (.integer i) name)
  | v => refuse v name

/-- One of a few words: the word itself, or an object with the word as its
only key, which holds nothing. -/
def readChoice (source : Source) (words : List String) : Value → Except ShapeError Value
  | .str w => if w ∈ words then .ok (.str w) else .error (.unknownVariant w words)
  | .obj [(w, v)] =>
      if w ∉ words then .error (.unknownVariant w words)
      else
        match v, source with
        | .null, _ => .ok (.str w)
        | .obj [], .held => .ok (.str w)
        | v, _ => refuse v "unit"
  | .obj _ => .error (.invalidValue .table "map with a single key")
  | v => refuse v "string or map"

/-- The first field that must be given and is not. -/
def missing? (fields : List (String × Presence × Shape)) (given : List String) : Option String :=
  (fields.find? fun f => f.2.1 = .required && !given.contains f.1).map Prod.fst

mutual
/-- Reads a value as a shape. -/
def read (source : Source) : Shape → Value → Except ShapeError Value
  | .any, v => .ok v
  | .text, .str s => .ok (.str s)
  | .text, v => refuse v "a string"
  | .truth, .bool b => .ok (.bool b)
  | .truth, v => refuse v "a boolean"
  | .single, v => roundSingle v
  | .count name, v => readCount name v
  | .orNull _, .null => .ok .null
  | .orNull s, v => read source s v
  | .list s, .arr xs => (xs.mapM (read source s)).map .arr
  | .list _, v => refuse v "a sequence"
  | .table s, .obj es =>
      (es.mapM fun e => (read source s e.2).map fun v => (e.1, v)).map .obj
  | .table _, v => refuse v "a map"
  | .choice words, v => readChoice source words v
  | .bare _, .obj _ => .ok (.obj [])
  | .bare title, v => refuse v title
  | .record _ fields, .obj es => do
      let known ← es.filterMapM (fun e => readField source fields e.1 e.2)
      match missing? fields (es.map Prod.fst) with
      | some name => .error (.missingField name)
      | none => .ok (.object known)
  | .record title fields, .arr xs => do
      let known ← readInOrder source title fields.length fields 0 xs
      if fields.length < xs.length then
        .error (tooLong source fields.length xs.length)
      else .ok (.object known)
  | .record title _, v => refuse v title
  | .refined s check, v => (read source s v).bind check

/-- Reads one field of a record given by name; one that the record does not
know is passed over. -/
def readField (source : Source) :
    List (String × Presence × Shape) → String → Value → Except ShapeError (Option (String × Value))
  | [], _, _ => .ok none
  | (name, _, s) :: rest, key, v =>
      if name = key then (read source s v).map fun w => some (name, w)
      else readField source rest key v

/-- Reads the fields of a record given as a list; `total` is the number of
its fields and `index` the number of those read. -/
def readInOrder (source : Source) (title : String) (total : Nat) :
    List (String × Presence × Shape) → Nat → List Value → Except ShapeError (List (String × Value))
  | [], _, _ => .ok []
  | (name, _, s) :: rest, index, v :: vs => do
      let w ← read source s v
      let more ← readInOrder source title total rest (index + 1) vs
      return (name, w) :: more
  | (_, presence, _) :: rest, index, [] =>
      if presence = .defaulted then readInOrder source title total rest (index + 1) []
      else .error (.invalidLength index (title ++ " with " ++ counted total "element"))
end

end Shape

/-! ## §3. Reading what a shape gives back. -/

namespace Value

/-- The text under a key. -/
def textAt? (v : Value) (key : String) : Option String := (v.field? key).bind str?

/-- The text under a key, or another. -/
def textAtD (v : Value) (key : String) (fallback : String) : String :=
  (v.textAt? key).getD fallback

/-- The truth value under a key, or another. -/
def truthAtD (v : Value) (key : String) (fallback : Bool) : Bool :=
  ((v.field? key).bind bool?).getD fallback

/-- The natural number under a key. -/
def countAt (v : Value) (key : String) : Nat :=
  match v.field? key with
  | some (.int i) => i.toNat
  | _ => 0

/-- The list under a key. -/
def listAt (v : Value) (key : String) : List Value :=
  match v.field? key with
  | some (.arr items) => items
  | _ => []

/-- The table under a key. -/
def tableAt (v : Value) (key : String) : Table Value :=
  match v.field? key with
  | some (.obj fields) => Table.ofList fields
  | _ => Table.empty

/-- The table of texts under a key. -/
def textsAt (v : Value) (key : String) : Table String := (v.tableAt key).filterMap str?

/-- The single-precision number under a key. -/
def singleAt? (v : Value) (key : String) : Option Binary32 :=
  match v.field? key with
  | some (.float x) => some x.convert
  | _ => none

end Value

end FlowBench

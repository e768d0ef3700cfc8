/-
  FlowBench.Yaml.Tree.Meaning
  ───────────────────────────
  **What nodes stand for.**

  A scalar means what its tag says, or else what its word says if it is
  plain.  A tag that starts with an exclamation mark is a tag of one's own:
  it leaves the meaning of a word as it is, but there is no such thing among
  the data values.  A tree is data if every scalar is what its tag says, no
  integer is out of range and no mapping has a key twice.
-/
import FlowBench.Shape
import FlowBench.Yaml.Plain
import FlowBench.Yaml.Tree

namespace FlowBench.Yaml

/-- A fault, and the place where it was met if that is told. -/
structure Fault where
  place : Option String
  cause : ShapeError
  deriving DecidableEq, Repr

namespace Fault

/-- Tells the place of a fault that has none. -/
def locate {α : Type} (place : String) (r : Except Fault α) : Except Fault α :=
  r.mapError fun f => { f with place := some (f.place.getD place) }

/-- A fault at a place. -/
def raise {α : Type} (place : String) (cause : ShapeError) : Except Fault α :=
  .error ⟨some place, cause⟩

/-- The place of a key's value. -/
def field (place key : String) : String := if place.isEmpty then key else place ++ "." ++ key

/-- The place of a list's item. -/
def item (place : String) (index : Nat) : String := place ++ "[" ++ toString index ++ "]"

/-- The text of a fault. -/
def message (f : Fault) : String :=
  match f.place with
  | some place => (if place.isEmpty then "" else place ++ ": ") ++ f.cause.message
  | none => f.cause.message

end Fault

namespace Tree

/-! ## §1. Scalars. -/

/-- A tag that every document knows. -/
def standardTag (name : String) : Option String := some ("tag:yaml.org,2002:" ++ name)

/-- The name of a tag of one's own; a lone mark is its own name. -/
def ownTag? (tag : Option String) : Option String :=
  tag.bind fun t =>
    match t.toList with
    | '!' :: [] => some t
    | '!' :: name => some (String.ofList name)
    | _ => none

/-- What a scalar means, or else what its tag asks for. -/
def meaning (tag : Option String) (isPlain : Bool) (text : String) : Except String Plain :=
  if tag = standardTag "bool" then
    match truth? text with
    | some b => .ok (.bool b)
    | none => .error "a boolean"
  else if tag = standardTag "int" then
    match integer? text.toList with
    | some i => .ok (.int i)
    | none => .error "an integer"
  else if tag = standardTag "float" then
    match float? text with
    | some x => .ok (.float x)
    | none => .error "a float"
  else if tag = standardTag "null" then
    if isNullWord text then .ok .null else .error "null"
  else if isPlain && (tag.isNone || (ownTag? tag).isSome) then .ok (Plain.of text)
  else .ok .text

/-- Whether a plain scalar is empty, as where nothing stands. -/
def isAbsent : Tree → Bool
  | .scalar _ p text => p && text.isEmpty
  | _ => false

/-- Whether a node stands for null, or the fault of a tag that says so. -/
def isNull : Tree → Except ShapeError Bool
  | .scalar tag p text =>
      if !p then .ok false
      else if tag = standardTag "null" then
        if isNullWord text then .ok true else .error (.invalidValue (.text text) "null")
      else .ok (tag.isNone && (text.isEmpty || isNullWord text))
  | _ => .ok false

/-- Floats in faults are written positionally. -/
def faultLayout : FloatLayout := ⟨-400, 400, false⟩

/-- The text of a float in a fault. -/
def faultFloat (x : Binary64) : String :=
  match faultLayout.render? x with
  | some s => s
  | none => if x.decode = .nan then "NaN" else if x.negative then "-inf" else "inf"

/-- The fault of a node that stands where something else belongs. -/
def misfit (t : Tree) (expected : String) : ShapeError :=
  match t with
  | .scalar tag p text =>
      match meaning tag p text with
      | .ok .null => .invalidType .unit expected
      | .ok (.bool b) => .invalidType (.truth b) expected
      | .ok (.int i) => .invalidType (.integer i) expected
      | .ok (.float x) => .invalidType (.float (faultFloat x)) expected
      | .ok .text => .invalidType (.text text) expected
      | .error wanted => .invalidValue (.text text) wanted
  | .list _ _ => .invalidType .list expected
  | .mapping _ _ => .invalidType .table expected
  | .alias _ => .invalidType .unit expected
  | .tooDeep => .invalidType .unit expected

/-! ## §2. Values. -/

/-- What any value is called. -/
def anyValue : String := "any valid JSON value"

/-- Whether an integer is one of the data values. -/
def inRange (i : Int) : Bool := -0x8000000000000000 ≤ i && i < 0x10000000000000000

/-- The value of a scalar's meaning. -/
def scalarValue (place text : String) : Plain → Except Fault Value
  | .null => .ok .null
  | .bool b => .ok (.bool b)
  | .int i => if inRange i then .ok (.int i) else Fault.raise place (.invalidType (.integer i) anyValue)
  | .float x => .ok (if x.isFinite then .float x else .null)
  | .text => .ok (.str text)

/-- The text of a key. -/
def keyText (place expected : String) : Tree → Except Fault String
  | .scalar _ _ text => .ok text
  | k => Fault.raise place (k.misfit expected)

mutual
/-- The value that a node stands for. -/
def value (place : String) : Tree → Except Fault Value
  | .scalar tag p text =>
      if (ownTag? tag).isSome then Fault.raise place (.invalidType .tagged anyValue)
      else
        match meaning tag p text with
        | .ok m => scalarValue place text m
        | .error wanted => Fault.raise place (.invalidValue (.text text) wanted)
  | .list tag items =>
      if (ownTag? tag).isSome then Fault.raise place (.invalidType .tagged anyValue)
      else (itemValues place 0 items).map .arr
  | .mapping tag entries =>
      if (ownTag? tag).isSome then Fault.raise place (.invalidType .tagged anyValue)
      else (fieldValues place "a string key" entries).map .object
  | t => Fault.raise place (t.misfit anyValue)

/-- The values of a list's items, counted from an index on. -/
def itemValues (place : String) : Nat → List Tree → Except Fault (List Value)
  | _, [] => .ok []
  | index, t :: rest => do
      let v ← value (Fault.item place index) t
      return v :: (← itemValues place (index + 1) rest)

/-- The values of a mapping's entries; `expected` is what its next key is
called. -/
def fieldValues (place expected : String) :
    List (Tree × Tree) → Except Fault (List (String × Value))
  | [] => .ok []
  | (k, t) :: rest => do
      let key ← keyText place expected k
      let v ← value (Fault.field place key) t
      return (key, v) :: (← fieldValues place "a string" rest)
end

/-! ## §3. Data. -/

/-- An identity under a tag of one's own. -/
def tagged (tag : Option String) (v : Value) : Value :=
  match ownTag? tag with
  | some name => .obj [("!" ++ name, v)]
  | none => v

mutual
/-- A value that tells nodes apart: equal for nodes that stand for the same
thing. -/
def identity : Tree → Value
  | .scalar tag p text =>
      let word : Value := match meaning tag p text with
        | .ok .null => .null
        | .ok (.bool b) => .bool b
        | .ok (.int i) => .int i
        | .ok (.float x) => if x.isFinite then .float x else .obj [("!float", .str (faultFloat x))]
        | _ => .str text
      tagged tag word
  | .list tag items => tagged tag (.arr (identities items))
  | .mapping tag entries => tagged tag (.object (entryIdentities entries))
  | .alias number => .obj [("!alias", .int number)]
  | .tooDeep => .obj []

/-- The identities of a list's items. -/
def identities : List Tree → List Value
  | [] => []
  | t :: rest => identity t :: identities rest

/-- The identities of a mapping's entries. -/
def entryIdentities : List (Tree × Tree) → List (String × Value)
  | [] => []
  | (k, v) :: rest => ((identity k).compact, identity v) :: entryIdentities rest
end

/-- Whether texts are told apart. -/
def allDistinct : List String → Bool
  | [] => true
  | s :: rest => !rest.contains s && allDistinct rest

mutual
/-- Whether a tree is data. -/
def isData : Tree → Bool
  | .scalar tag p text =>
      match meaning tag p text with
      | .ok (.int i) => inRange i
      | .ok _ => true
      | .error _ => false
  | .list _ items => itemsAreData items
  | .mapping _ entries =>
      entriesAreData entries && allDistinct (entries.map fun e => (identity e.1).compact)
  | .alias _ => false
  | .tooDeep => false

/-- Whether all items of a list are data. -/
def itemsAreData : List Tree → Bool
  | [] => true
  | t :: rest => isData t && itemsAreData rest

/-- Whether all keys and values of a mapping are data. -/
def entriesAreData : List (Tree × Tree) → Bool
  | [] => true
  | (k, v) :: rest => isData k && isData v && entriesAreData rest
end

end Tree

end FlowBench.Yaml

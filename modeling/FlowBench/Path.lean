/-
  FlowBench.Path
  ──────────────
  **Paths into a value.**

  A path is a row of segments parted by points; a segment is a key followed
  by any number of indices in brackets, and one of the two must be there:

      a.b.c      items[0][2]      headers.content-length      [1].x

  A key keeps every character but the point and the opening bracket.  An
  index is a natural below `2^64`, written in decimal digits with an
  optional plus sign, with blanks around it ignored.  A malformed path is no
  error: looking it up finds nothing.
-/
import FlowBench.Text.Blank
import FlowBench.Json.Value

namespace FlowBench

/-! ## §1. Segments. -/

/-- One piece of a path: a key, then indices.  An empty key is not looked
up, so that a segment may consist of indices alone. -/
structure Segment where
  key : String
  indices : List Nat
  deriving DecidableEq, Repr

/-- The indices that a path can name. -/
def indexBound : Nat := 0x10000000000000000

/-- The number that decimal digits write; `none` for anything else. -/
def natural? (cs : List Char) : Option Nat :=
  if cs.isEmpty || !cs.all Char.isDigit then none
  else some (cs.foldl (fun n c => n * 10 + (c.toNat - '0'.toNat)) 0)

/-- An index: digits with an optional plus sign, below the bound. -/
def index? (cs : List Char) : Option Nat :=
  let digits := match cs with
    | '+' :: rest => rest
    | _ => cs
  (natural? digits).bind fun n => if n < indexBound then some n else none

namespace Path

theorem length_dropWhile_le {α : Type} (p : α → Bool) (l : List α) :
    (l.dropWhile p).length ≤ l.length :=
  (List.dropWhile_sublist p).length_le

/-- Reads a row of bracket groups. -/
def indices? (cs : List Char) : Option (List Nat) :=
  match cs with
  | [] => some []
  | '[' :: rest =>
      match _h : rest.dropWhile (· ≠ ']') with
      | ']' :: after => do
          let i ← index? (trim (rest.takeWhile (· ≠ ']')))
          let is ← indices? after
          return i :: is
      | _ => none
  | _ => none
termination_by cs.length
decreasing_by
  have := length_dropWhile_le (· ≠ ']') rest
  simp_all
  omega

/-- Reads one segment: the key reaches to the first bracket. -/
def segment? (cs : List Char) : Option Segment := do
  let key := cs.takeWhile (· ≠ '[')
  let is ← indices? (cs.dropWhile (· ≠ '['))
  if key.isEmpty && is.isEmpty then none
  else some ⟨String.ofList key, is⟩

/-- Cuts a text at every point. -/
def pieces : List Char → List (List Char)
  | [] => [[]]
  | c :: rest =>
      if c = '.' then [] :: pieces rest
      else
        match pieces rest with
        | piece :: more => (c :: piece) :: more
        | [] => [[c]]

/-- Reads a path; `none` when it is empty or malformed. -/
def parse? (path : String) : Option (List Segment) :=
  if path.isEmpty then none else (pieces path.toList).mapM segment?

/-- Writes a segment. -/
def writeSegment (s : Segment) : String :=
  s.key ++ String.join (s.indices.map fun i => "[" ++ toString i ++ "]")

/-- Writes a path. -/
def write (segments : List Segment) : String :=
  String.intercalate "." (segments.map writeSegment)

end Path

/-! ## §2. Looking a path up. -/

namespace Value

/-- The item of a list. -/
def item? (i : Nat) : Value → Option Value
  | .arr items => items[i]?
  | _ => none

/-- Follows a key: a field of an object, or an item of a list when the key
is an index.  The empty key stays where it is. -/
def step? (key : String) (v : Value) : Option Value :=
  if key.isEmpty then some v
  else
    match v with
    | .obj fields => Entries.get? key fields
    | .arr items => (index? key.toList).bind fun i => items[i]?
    | _ => none

/-- Follows indices from left to right. -/
def descend? (v : Value) (indices : List Nat) : Option Value :=
  indices.foldlM (fun w i => w.item? i) v

/-- Follows segments from left to right. -/
def walk? (v : Value) (segments : List Segment) : Option Value :=
  segments.foldlM (fun w s => (w.step? s.key).bind fun u => u.descend? s.indices) v

/-- What a path finds in a value. -/
def lookup? (v : Value) (path : String) : Option Value :=
  (Path.parse? path).bind v.walk?

end Value

/-! ## §3. The clock. -/

/-- The path that reads the clock instead of the data. -/
def nowPath : String := "now"

/-- What a path finds, where `now` is the text the clock shows. -/
def Value.resolve? (clock : String) (v : Value) (path : String) : Option Value :=
  if path = nowPath then some (.str clock) else v.lookup? path

end FlowBench

/-
  FlowBench.Text.CodeTable
  ────────────────────────
  **Tables of code points.**

  A large table is written as a text: hexadecimal numerals with blanks
  between them make up a row, and commas stand between rows.  The text is
  read from its end, so that rows and numerals come out in order.
-/

namespace FlowBench.CodeTable

/-- The value of an upper-case hexadecimal digit. -/
def digit? (c : Char) : Option Nat :=
  if c.isDigit then some (c.toNat - '0'.toNat)
  else if 'A' ≤ c ∧ c ≤ 'F' then some (c.toNat - 'A'.toNat + 10)
  else none

/-- What is known of a table when its end was read. -/
structure Tail where
  rows : List (List Nat) := []
  /-- The row that is being read. -/
  row : List Nat := []
  /-- The numeral that is being read, and the weight of its next digit. -/
  numeral : Option (Nat × Nat) := none

/-- A numeral begins here. -/
def Tail.closeNumeral (t : Tail) : Tail :=
  match t.numeral with
  | some (n, _) => { t with row := n :: t.row, numeral := none }
  | none => t

/-- A row begins here. -/
def Tail.closeRow (t : Tail) : Tail :=
  let t := t.closeNumeral
  { t with rows := t.row :: t.rows, row := [] }

/-- Reads one character. -/
def Tail.read (c : Char) (t : Tail) : Tail :=
  if c = ',' then t.closeRow
  else
    match digit? c, t.numeral with
    | some d, some (n, weight) => { t with numeral := some (d * weight + n, weight * 16) }
    | some d, none => { t with numeral := some (d, 16) }
    | none, _ => t.closeNumeral

/-- The rows of a table. -/
def rows (text : String) : List (List Nat) := (text.toList.foldr Tail.read {}).closeRow.rows

/-- The ranges that a table lists; a row of one code point is a range of
one. -/
def ranges (text : String) : List (Nat × Nat) :=
  (rows text).filterMap fun row => match row with
    | [code] => some (code, code)
    | [first, last] => some (first, last)
    | _ => none

/-- Whether a code point lies in one of some ranges. -/
def covers (rs : List (Nat × Nat)) (n : Nat) : Bool := rs.any fun r => r.1 ≤ n && n ≤ r.2

/-- The triples that a table lists. -/
def triples (text : String) : List (Nat × Nat × Nat) :=
  (rows text).filterMap fun row => match row with
    | [a, b, c] => some (a, b, c)
    | _ => none

end FlowBench.CodeTable

/-
  FlowBench.Json.Printer
  ──────────────────────
  **Documents as JSON text.**

  `compact` writes a document without blanks, `pretty` with one item a line
  and two blanks of indentation per level.  Fields come in the order of the
  document, which for a value is key order.
-/
import FlowBench.Document
import FlowBench.Number.Decimal

namespace FlowBench.Json

/-! ## §1. Scalars. -/

/-- Doubles are written positionally when the leading digit stands between
`10^-5` and `10^15`, else with a signed exponent. -/
def doubleLayout : FloatLayout := ⟨-5, 15, true⟩

/-- Single-precision floats: between `10^-6` and `10^12`. -/
def singleLayout : FloatLayout := ⟨-6, 12, true⟩

/-- The text of a float; one that is not finite has no numeral and is
`null`. -/
def floatText {f : BinaryFormat} (layout : FloatLayout) (x : Binary f) : String :=
  (layout.render? x).getD "null"

/-- A character inside quotes. -/
def escapeChar (c : Char) : List Char :=
  match c with
  | '"' => ['\\', '"']
  | '\\' => ['\\', '\\']
  | '\n' => ['\\', 'n']
  | '\r' => ['\\', 'r']
  | '\t' => ['\\', 't']
  | _ =>
    if c.toNat = 8 then ['\\', 'b']
    else if c.toNat = 12 then ['\\', 'f']
    else if c.toNat < 0x20 then
      ['\\', 'u', '0', '0', Nat.digitChar (c.toNat / 16), Nat.digitChar (c.toNat % 16)]
    else [c]

/-- A text in quotes. -/
def quote (s : String) : String :=
  String.ofList ('"' :: s.toList.flatMap escapeChar ++ ['"'])

/-! ## §2. On one line. -/

mutual
/-- A document without blanks. -/
def compact : Document → String
  | .null => "null"
  | .bool b => if b then "true" else "false"
  | .int i => toString i
  | .double x => floatText doubleLayout x
  | .single x => floatText singleLayout x
  | .text s => quote s
  | .list items => "[" ++ compactItems items ++ "]"
  | .record fields => "\x7b" ++ compactFields fields ++ "\x7d"

/-- Items, separated by commas. -/
def compactItems : List Document → String
  | [] => ""
  | [d] => compact d
  | d :: rest => compact d ++ "," ++ compactItems rest

/-- Fields, separated by commas. -/
def compactFields : List (String × Document) → String
  | [] => ""
  | [(k, d)] => quote k ++ ":" ++ compact d
  | (k, d) :: rest => quote k ++ ":" ++ compact d ++ "," ++ compactFields rest
end

/-! ## §3. Over several lines. -/

/-- The blanks that open a line at a level. -/
def indent (level : Nat) : String := String.ofList (List.replicate (2 * level) ' ')

mutual
/-- A document inside `level` brackets. -/
def prettyAt (level : Nat) : Document → String
  | .list [] => "[]"
  | .list items => "[\n" ++ prettyItems (level + 1) items ++ "\n" ++ indent level ++ "]"
  | .record [] => "\x7b\x7d"
  | .record fields =>
      "\x7b\n" ++ prettyFields (level + 1) fields ++ "\n" ++ indent level ++ "\x7d"
  | d => compact d

/-- Items, one a line. -/
def prettyItems (level : Nat) : List Document → String
  | [] => ""
  | [d] => indent level ++ prettyAt level d
  | d :: rest => indent level ++ prettyAt level d ++ ",\n" ++ prettyItems level rest

/-- Fields, one a line. -/
def prettyFields (level : Nat) : List (String × Document) → String
  | [] => ""
  | [(k, d)] => indent level ++ quote k ++ ": " ++ prettyAt level d
  | (k, d) :: rest =>
      indent level ++ quote k ++ ": " ++ prettyAt level d ++ ",\n" ++ prettyFields level rest
end

/-- A document over several lines. -/
def pretty (d : Document) : String := prettyAt 0 d

end FlowBench.Json

namespace FlowBench.Value

/-- A value on one line. -/
def compact (v : Value) : String := Json.compact (.ofValue v)

/-- A value over several lines. -/
def pretty (v : Value) : String := Json.pretty (.ofValue v)

/-- The text a value has inside other text: a text is itself, everything
else is written compactly. -/
def render : Value → String
  | .str s => s
  | v => v.compact

end FlowBench.Value

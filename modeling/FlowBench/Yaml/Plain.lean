/-
  FlowBench.Yaml.Plain
  ────────────────────
  **What an unquoted word stands for.**

  An unquoted word is null, a truth value, a number or a text.  Integers are
  decimal, or hexadecimal, octal or binary behind `0x`, `0o` and `0b`;
  digits behind a leading zero make a text.  A numeral too large for the
  doubles is a text, too.
-/
import FlowBench.Number.Decimal

namespace FlowBench.Yaml

/-- The kinds of unquoted word. -/
inductive Plain where
  | null
  | bool (b : Bool)
  | int (i : Int)
  | float (x : Binary64)
  | text
  deriving DecidableEq, Repr

/-! ## §1. Integers. -/

/-- The value of a digit in a base. -/
def digit? (base : Nat) (c : Char) : Option Nat :=
  let d :=
    if c.isDigit then some (c.toNat - '0'.toNat)
    else if 'a' ≤ c ∧ c ≤ 'z' then some (c.toNat - 'a'.toNat + 10)
    else if 'A' ≤ c ∧ c ≤ 'Z' then some (c.toNat - 'A'.toNat + 10)
    else none
  d.bind fun n => if n < base then some n else none

/-- The number that digits of a base write. -/
def radix? (base : Nat) (cs : List Char) : Option Nat :=
  if cs.isEmpty then none
  else cs.foldlM (fun n c => (digit? base c).map fun d => n * base + d) 0

/-- A numeral that starts with a needless zero, which is a text. -/
def isPadded (cs : List Char) : Bool :=
  let digits := match cs with
    | '-' :: rest => rest
    | '+' :: rest => rest
    | _ => cs
  1 < digits.length && digits.head? = some '0' && digits.all Char.isDigit

/-- The bases that have a mark. -/
def marked? : List Char → Option (Nat × List Char)
  | '0' :: 'x' :: rest => some (16, rest)
  | '0' :: 'o' :: rest => some (8, rest)
  | '0' :: 'b' :: rest => some (2, rest)
  | _ => none

/-- An integer without a minus sign, below `2^128`. -/
def unsigned? (cs : List Char) : Option Nat :=
  let body := match cs with
    | '+' :: rest => rest
    | _ => cs
  let n := match marked? body with
    | some (base, rest) => radix? base rest
    | none => if isPadded cs then none else radix? 10 body
  n.bind fun n => if n < Nat.pow 2 128 then some n else none

/-- An integer with a minus sign, from `-2^127` on. -/
def negative? (cs : List Char) : Option Int :=
  match cs with
  | '-' :: body =>
      let n := match marked? body with
        | some (base, rest) => radix? base rest
        | none => if isPadded cs then none else radix? 10 body
      n.bind fun n => if n ≤ Nat.pow 2 127 then some (-(n : Int)) else none
  | _ => none

/-- An integer. -/
def integer? (cs : List Char) : Option Int :=
  match unsigned? cs with
  | some n => some n
  | none => negative? cs

/-! ## §2. Floats. -/

/-- A decimal numeral with an optional point and exponent; there is a digit
beside the point. -/
def decimal? (cs : List Char) : Option Decimal :=
  let (negative, body) := match cs with
    | '-' :: rest => (true, rest)
    | '+' :: rest => (false, rest)
    | _ => (false, cs)
  let whole := body.takeWhile Char.isDigit
  let rest := body.dropWhile Char.isDigit
  let (places, rest) := match rest with
    | '.' :: rest => (rest.takeWhile Char.isDigit, rest.dropWhile Char.isDigit)
    | _ => ([], rest)
  let exponent : Option Int := match rest with
    | [] => some 0
    | e :: rest =>
        if e = 'e' ∨ e = 'E' then
          match rest with
          | '-' :: ds => (radix? 10 ds).map fun n => -(n : Int)
          | '+' :: ds => (radix? 10 ds).map fun n => (n : Int)
          | ds => (radix? 10 ds).map fun n => (n : Int)
        else none
  match radix? 10 (whole ++ places), exponent with
  | some digits, some e => some ⟨negative, digits, e - places.length⟩
  | _, _ => none

/-- A float: an infinity, the word for no number, or a decimal numeral
within the doubles. -/
def float? (word : String) : Option Binary64 :=
  if word ∈ [".inf", ".Inf", ".INF", "+.inf", "+.Inf", "+.INF"] then some (.infinite false)
  else if word ∈ ["-.inf", "-.Inf", "-.INF"] then some (.infinite true)
  else if word ∈ [".nan", ".NaN", ".NAN"] then some .nan
  else
    let cs := word.toList
    match cs with
    | '+' :: '+' :: _ | '+' :: '-' :: _ => none
    | _ =>
      (decimal? cs).bind fun d =>
        let x : Binary64 := d.nearest
        if x.isFinite then some x else none

/-! ## §3. Words. -/

/-- Whether a word stands for null. -/
def isNullWord (word : String) : Bool := word ∈ ["null", "Null", "NULL", "~"]

/-- The truth value that a word stands for. -/
def truth? (word : String) : Option Bool :=
  if word ∈ ["true", "True", "TRUE"] then some true
  else if word ∈ ["false", "False", "FALSE"] then some false
  else none

/-- What an unquoted word stands for. -/
def Plain.of (word : String) : Plain :=
  if word.isEmpty || isNullWord word then .null
  else
    match truth? word with
    | some b => .bool b
    | none =>
      match integer? word.toList with
      | some i => .int i
      | none =>
        if isPadded word.toList then .text
        else
          match float? word with
          | some x => .float x
          | none => .text

end FlowBench.Yaml

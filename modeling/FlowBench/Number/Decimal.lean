/-
  FlowBench.Number.Decimal
  ────────────────────────
  **Decimal numerals and floats.**

  `Decimal` is a sign, a natural and a power of ten.  `nearest` is the float
  closest to one; `scaled` is the float that a quick reader gets, which
  rounds the digits first and the power of ten second.  `shortest` goes the
  other way: the fewest digits that read back as the given float, and of
  those the closest to it.
-/
import FlowBench.Number.Binary

namespace FlowBench

/-- The number `± digits · 10^scale`. -/
structure Decimal where
  negative : Bool
  digits : Nat
  scale : Int
  deriving DecidableEq, Repr

/-- The number of decimal digits of a natural; zero has one. -/
def decimalLength (n : Nat) : Nat := (Nat.toDigits 10 n).length

namespace Decimal

variable {f : BinaryFormat}

/-- The float nearest to a numeral.  Numerals far outside the range of every
format are settled by their size alone. -/
def nearest (d : Decimal) : Binary f :=
  let size := d.scale + decimalLength d.digits
  if d.digits = 0 ∨ size < -400 then ⟨d.negative, 0⟩
  else if 400 < size then .infinite d.negative
  else if d.scale < 0 then .ofRatio d.negative d.digits (Nat.pow 10 (-d.scale).toNat)
  else .ofRatio d.negative (d.digits * Nat.pow 10 d.scale.toNat) 1

/-- The double got by rounding the digits and then scaling by a rounded
power of ten; `none` when that leaves the finite range.  Powers of ten above
the greatest double are divided off in steps of `10^308`. -/
def scaled (d : Decimal) : Option Binary64 :=
  let x : Binary64 := .ofRatio d.negative d.digits 1
  if d.digits = 0 then some x
  else if 0 ≤ d.scale then
    if 308 < d.scale then none
    else
      let y := x.scaleByTen d.scale.toNat true
      if y.isFinite then some y else none
  else
    some (down ((-d.scale).toNat / 308 + 1) x (-d.scale).toNat)
where
  /-- Divides by `10^power`, at most `308` places at a time. -/
  down : Nat → Binary64 → Nat → Binary64
    | 0, x, _ => x
    | steps + 1, x, power =>
        if power ≤ 308 then x.scaleByTen power false
        else if x.isZero then x
        else down steps (x.scaleByTen 308 false) (power - 308)

/-- The decimal exponent of the leading digit of `num / den`, for fractions
between `10^-340` and `10^340`. -/
def leadingExponent (num den : Nat) : Int :=
  (decimalLength (num * Nat.pow 10 340 / den) : Int) - 341

/-- Drops the zeros at the end of the digits. -/
def strip : Nat → Decimal → Decimal
  | 0, d => d
  | fuel + 1, d =>
      if d.digits ≠ 0 ∧ d.digits % 10 = 0 then
        strip fuel { d with digits := d.digits / 10, scale := d.scale + 1 }
      else d

/-- The numeral on the grid `10^scale` that reads back as `m · 2^q` and is
nearest to it, if the grid has one.

The numbers that read back reach from half a step below to half a step
above, where the step below a power of two is half as wide; the ends belong
to them when `m` is even.  If any grid point reads back, so does one of the
two neighbours of the number itself. -/
def onGrid? (f : BinaryFormat) (m : Nat) (q : Int) (scale : Int) : Option Nat :=
  let two (e : Int) : Nat := Nat.pow 2 e.toNat
  let ten (e : Int) : Nat := Nat.pow 10 e.toNat
  -- both kinds of number in units of `2^(q-2)` and `10^scale`, made whole
  let binary (x : Nat) : Nat := x * two (q - 2) * ten (-scale)
  let decimal (x : Nat) : Nat := x * ten scale * two (2 - q)
  let value := binary (4 * m)
  let narrow := m = Nat.pow 2 f.fraction ∧ f.minScale < q
  let low := binary (if narrow then 4 * m - 1 else 4 * m - 2)
  let high := binary (4 * m + 2)
  let closed := m % 2 = 0
  let hit (x : Nat) : Bool :=
    if closed then low ≤ decimal x && decimal x ≤ high
    else low < decimal x && decimal x < high
  let below := value / decimal 1
  let above := below + 1
  let underBy := value - decimal below
  let overBy := decimal above - value
  if 0 < below ∧ hit below then
    if hit above ∧ (overBy < underBy ∨ (overBy = underBy ∧ below % 2 = 1)) then some above
    else some below
  else if hit above then some above
  else none

/-- The shortest numeral that reads back as a nonzero `m · 2^q`. -/
def shortest (f : BinaryFormat) (m : Nat) (q : Int) : Nat × Int :=
  let r := Binary.ratio m q
  let e := leadingExponent r.1 r.2
  let found := (List.range 18).findSome? fun (n : Nat) =>
    (onGrid? f m q (e - n)).map fun digits => (digits, e - (n : Int))
  let hit := found.getD (m, q)
  let d := strip 20 ⟨false, hit.1, hit.2⟩
  (d.digits, d.scale)

end Decimal

/-- How a format writes floats. -/
structure FloatLayout where
  /-- The least and the greatest exponent of the leading digit that are
  written positionally. -/
  least : Int
  greatest : Int
  /-- Whether a positive exponent has a plus sign. -/
  plus : Bool
  deriving DecidableEq, Repr

namespace FloatLayout

/-- Digits and power of ten as text, the sign apart. -/
def place (l : FloatLayout) (digits : Nat) (scale : Int) : String :=
  let ds := Nat.toDigits 10 digits
  let e := scale + ds.length - 1
  if l.least ≤ e ∧ e ≤ l.greatest then
    if 0 ≤ scale then String.ofList (ds ++ List.replicate scale.toNat '0') ++ ".0"
    else if 0 ≤ e then
      String.ofList (ds.take (e.toNat + 1)) ++ "." ++ String.ofList (ds.drop (e.toNat + 1))
    else "0." ++ String.ofList (List.replicate (-e - 1).toNat '0' ++ ds)
  else
    let mantissa :=
      match ds with
      | [d] => String.ofList [d]
      | d :: rest => String.ofList (d :: '.' :: rest)
      | [] => ""
    let sign := if e < 0 then "-" else if l.plus then "+" else ""
    mantissa ++ "e" ++ sign ++ toString e.natAbs

/-- The text of a finite float; `none` for infinities and for what is no
number, which each data format spells its own way. -/
def render? {f : BinaryFormat} (l : FloatLayout) (x : Binary f) : Option String :=
  let sign := if x.negative then "-" else ""
  match x.decode with
  | .finite 0 _ => some (sign ++ "0.0")
  | .finite m q =>
      let d := Decimal.shortest f m q
      some (sign ++ l.place d.1 d.2)
  | _ => none

end FloatLayout

end FlowBench

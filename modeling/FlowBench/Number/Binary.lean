/-
  FlowBench.Number.Binary
  ───────────────────────
  **Binary floating point in exact arithmetic.**

  A float is its bit pattern.  `decode` reads the pattern as `m · 2^q`,
  `ofRatio` rounds a fraction of naturals to the nearest pattern (a tie goes
  to the even one, a too large value to infinity), and widening, narrowing
  and scaling are both put together: decode, compute with naturals, round
  once.
-/

namespace FlowBench

/-- A format: the bits of the fraction and of the exponent field. -/
structure BinaryFormat where
  fraction : Nat
  exponent : Nat
  deriving DecidableEq, Repr

/-- Double precision. -/
def binary64 : BinaryFormat := ⟨52, 11⟩

/-- Single precision. -/
def binary32 : BinaryFormat := ⟨23, 8⟩

namespace BinaryFormat

/-- The power of two that the last bit of the smallest numbers stands for. -/
def minScale (f : BinaryFormat) : Int := 2 - (Nat.pow 2 (f.exponent - 1) : Int) - f.fraction

/-- The magnitude pattern of infinity; what lies above it is no number. -/
def infinity (f : BinaryFormat) : Nat := (Nat.pow 2 f.exponent - 1) * Nat.pow 2 f.fraction

end BinaryFormat

/-- `num / den` rounded to a natural, a half to the even neighbour. -/
def roundHalfEven (num den : Nat) : Nat :=
  let d := num / den
  let r := num % den
  if den < 2 * r ∨ (2 * r = den ∧ d % 2 = 1) then d + 1 else d

/-- The magnitude pattern nearest to `num / den`. -/
def BinaryFormat.ofRatio (f : BinaryFormat) (num den : Nat) : Nat :=
  if num = 0 ∨ den = 0 then 0
  else
    let top (q : Int) : Nat := if q < 0 then num * Nat.pow 2 (-q).toNat else num
    let bottom (q : Int) : Nat := if q < 0 then den else den * Nat.pow 2 q.toNat
    let q := max ((num.log2 : Int) - den.log2 - 1 - f.fraction) f.minScale
    let q := if Nat.pow 2 (f.fraction + 1) ≤ top q / bottom q then q + 1 else q
    let m := roundHalfEven (top q) (bottom q)
    min ((q - f.minScale).toNat * Nat.pow 2 f.fraction + m) f.infinity

/-- A float of a format, by its bits: the sign, then the magnitude pattern. -/
structure Binary (f : BinaryFormat) where
  negative : Bool
  magnitude : Nat
  deriving DecidableEq, Repr

abbrev Binary64 := Binary binary64
abbrev Binary32 := Binary binary32

/-- What a pattern stands for, its sign apart. -/
inductive Magnitude where
  /-- The number `m · 2^q`. -/
  | finite (m : Nat) (q : Int)
  | infinite
  | nan
  deriving DecidableEq, Repr

/-- `m · 2^q` as a fraction of naturals. -/
def Binary.ratio (m : Nat) (q : Int) : Nat × Nat :=
  if q < 0 then (m, Nat.pow 2 (-q).toNat) else (m * Nat.pow 2 q.toNat, 1)

namespace Binary

variable {f : BinaryFormat}

instance : Inhabited (Binary f) := ⟨⟨false, 0⟩⟩

/-- Reads the magnitude pattern. -/
def decode (x : Binary f) : Magnitude :=
  let e := x.magnitude / Nat.pow 2 f.fraction
  let m := x.magnitude % Nat.pow 2 f.fraction
  if x.magnitude = f.infinity then .infinite
  else if f.infinity < x.magnitude then .nan
  else if e = 0 then .finite m f.minScale
  else .finite (m + Nat.pow 2 f.fraction) (f.minScale + e - 1)

/-- The float nearest to a signed fraction. -/
def ofRatio (negative : Bool) (num den : Nat) : Binary f := ⟨negative, f.ofRatio num den⟩

/-- Positive or negative infinity. -/
def infinite (negative : Bool) : Binary f := ⟨negative, f.infinity⟩

/-- The quiet pattern that is no number. -/
def nan : Binary f := ⟨false, f.infinity + Nat.pow 2 (f.fraction - 1)⟩

/-- Whether the pattern is a number. -/
def isFinite (x : Binary f) : Bool := x.magnitude < f.infinity

/-- Whether the pattern is one of the zeros. -/
def isZero (x : Binary f) : Bool := x.magnitude = 0

/-- The nearest float of another format. -/
def convert {g : BinaryFormat} (x : Binary f) : Binary g :=
  match x.decode with
  | .finite m q => let r := ratio m q; ofRatio x.negative r.1 r.2
  | .infinite => infinite x.negative
  | .nan => nan

/-- The float nearest to an integer. -/
def ofInt (i : Int) : Binary f := ofRatio (i < 0) i.natAbs 1

/-- `x` times or over a positive power of ten that is itself rounded first. -/
def scaleByTen (x : Binary f) (power : Nat) (up : Bool) : Binary f :=
  let ten : Binary f := ofRatio false (Nat.pow 10 power) 1
  match x.decode, ten.decode with
  | .finite m q, .finite n p =>
      let a := ratio m q
      let b := ratio n p
      if up then ofRatio x.negative (a.1 * b.1) (a.2 * b.2)
      else ofRatio x.negative (a.1 * b.2) (a.2 * b.1)
  | _, _ => if up then infinite x.negative else ⟨x.negative, 0⟩

end Binary

end FlowBench

/-
  FlowBench.Url.Folding
  ─────────────────────
  **Characters of domains.**

  Domains are kept in small letters and without the variants of letters,
  digits and full stops that only look different.  Some characters stand for
  nothing, some for several, and some for nothing that a domain could hold.
-/
import FlowBench.Url.Folding.Table

namespace FlowBench.Url.Folding

/-- Characters that stand for nothing: invisible ones, and those that choose
among pictures of others. -/
def silent : List (Nat × Nat) :=
  [(0xAD, 0xAD), (0x34F, 0x34F), (0x115F, 0x1160), (0x17B4, 0x17B5), (0x180B, 0x180F),
   (0x200B, 0x200B), (0x2060, 0x2064), (0x206A, 0x206F), (0x3164, 0x3164), (0xFE00, 0xFE0F),
   (0xFEFF, 0xFEFF), (0xFFA0, 0xFFA0), (0x1BCA0, 0x1BCA3), (0x1D173, 0x1D17A),
   (0xE0100, 0xE01EF)]

/-- What a character in a run folds to. -/
def inRun? (n : Nat) : Option Nat :=
  match shifted.find? fun r => r.1 ≤ n && n ≤ r.2.1 with
  | some r => some (n - r.1 + r.2.2)
  | none =>
      if alternating.any fun r => r.1 ≤ n && n ≤ r.2 && (n - r.1) % 2 = 0 then some (n + 1)
      else none

/-- What a character stands for in a domain; none if no domain holds it. -/
def fold? (c : Char) : Option (List Char) :=
  let n := c.toNat
  if n < 0x80 then some [c.toLower]
  else if CodeTable.covers refused n then none
  else if CodeTable.covers silent n then some []
  else
    match spelled.lookup n, inRun? n with
    | some codes, _ => some (codes.map Char.ofNat)
    | none, some m => some [Char.ofNat m]
    | none, none => some [c]

/-- Whether a character stands for itself in a domain. -/
def isSettled (c : Char) : Bool := fold? c = some [c]

end FlowBench.Url.Folding

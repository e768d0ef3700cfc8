/-
  FlowBench.Url.Direction
  ───────────────────────
  **The direction of labels.**

  In a domain with a character that is read from right to left, each label
  keeps one direction: it starts with a letter of it, ends in a letter of it
  or a digit, and holds no letter of the other.  The tables are those of
  Unicode 17 for the characters that domains hold.
-/
import FlowBench.Url.Joining

namespace FlowBench.Url

/-- How a character is read. -/
inductive Direction where
  /-- From left to right. -/
  | left
  /-- From right to left. -/
  | right
  /-- A digit that goes with either. -/
  | digit
  /-- A digit that goes with what is read from right to left. -/
  | rightDigit
  /-- As the character it marks. -/
  | attached
  /-- As its surroundings. -/
  | neutral
  deriving DecidableEq, Repr

namespace Direction

/-! ## §1. Characters. -/

/-- Characters that are read from right to left. -/
def rightward : List (Nat × Nat) := CodeTable.ranges
  "5BE, 5C0, 5C3, 5C6, 5D0 5F4, 608, 60B, 60D, 61B 64A, 66D 66F, 671 6D5, 6E5 6E6, 6EE 6EF,
   6FA 710, 712 72F, 74D 7A5, 7B1 7EA, 7F4 7F5, 7FA, 7FE 815, 81A, 824, 828, 830 858, 85E 88F,
   8A0 8C9, FBB2 FBC2, FE73, 10800 1091B, 10920 10A00, 10A10 10A35, 10A40 10AE4, 10AEB 10B35,
   10B40 10D23, 10D4A 10D4F, 10D6F 10D8F, 10E80 10EA9, 10EAD 10EC7, 10F00 10F45, 10F51 10F81,
   10F86 10FF6, 1E800 1E8CF, 1E922 1E943, 1E94B 1ED3D"

/-- Digits that go with them. -/
def rightDigits : List (Nat × Nat) :=
  [(0x660, 0x669), (0x66B, 0x66C), (0x10D30, 0x10D49), (0x10E60, 0x10E7E)]

/-- Digits that go with either direction. -/
def digits : List (Nat × Nat) := [(0x30, 0x39), (0x6F0, 0x6F9), (0x102E1, 0x102FB)]

/-- Characters that are read as their surroundings. -/
def neutrals : List (Nat × Nat) := CodeTable.ranges
  "0 8, E 1B, 21 2F, 3A 60, 7B D7, F7, 2B9 2BA, 2C2 2CF, 2D2 2ED, 2EF 2FF, 375, 3F6, 58A 58F,
   606 607, 609 60A, 60C, 60E 60F, 66A, 6DE, 6E9, 7F6 7F9, 9F2 9F3, 9FB, AF1, BF3 BFA, C78 C7E,
   E3F, F3A F3D, 1390 1399, 1400, 169B 169C, 17DB, 17F0 180A, 1940 1945, 19DE 19FF, 200C 20C1,
   2104 214D, 218A 2335, 237B 2394, 2396 26AB, 26AD 27FF, 2900 2BFF, 2CE5 2CEA, 2CF9 2CFF,
   2E00 3004, 3008 3020, 3030, 3037, 303D 303F, 30A0, 30FB, 31C0 31E5, 4DC0 4DFF, A490 A4C6,
   A60D A60F, A673, A67E A67F, A700 A721, A788, A828 A82B, A838 A839, A874 A877, AB6A AB6B,
   FBC3 FDFF, FE45 FE46, 10101, 10140 1018C, 10190 101A0, 1091F, 10B39 10B3F, 10D6E, 10ED0 10ED8,
   11052 11065, 11660 1166C, 11FD5 11FF1, 16FE2, 1CC00 1CEF0, 1D1E9 1D241, 1D245, 1D300 1D356,
   1E2FF, 1EEF0 1F12F, 1F16D 1F16F, 1F1AD, 1F260 1FBFA"

/-- Marks that are read from left to right. -/
def leftMarks : List Nat := [0xCBF, 0xCC6, 0x11A07, 0x11A08, 0x11C3F]

/-- How a character is read. -/
def ofChar (c : Char) : Direction :=
  let n := c.toNat
  if CodeTable.covers digits n then .digit
  else if CodeTable.covers neutrals n then .neutral
  else if n < 0x300 then .left
  else if CodeTable.covers rightward n then .right
  else if CodeTable.covers rightDigits n then .rightDigit
  else if Joining.isAttached c && !leftMarks.contains n then .attached
  else .left

/-- Whether a character brings in the other direction. -/
def isRightward (c : Char) : Bool :=
  0x590 ≤ c.toNat && (ofChar c = .right || ofChar c = .rightDigit)

/-! ## §2. Labels. -/

/-- What follows the first character of a label, without the marks at the
end. -/
def inner (tail : List Char) : List Direction :=
  ((tail.map ofChar).reverse.dropWhile (· = .attached)).reverse

/-- Whether a label keeps to one direction. -/
def isKept (label : List Char) : Bool :=
  match label with
  | [] => true
  | c :: tail =>
      let ds := inner tail
      match ofChar c with
      | .left =>
          ds.all (fun d => d ∈ [left, digit, attached, neutral])
            && ds.getLast?.all (fun d => d ∈ [left, digit])
      | .right =>
          !ds.contains left && ds.getLast?.all (fun d => d ∈ [right, digit, rightDigit])
            && !(ds.contains digit && ds.contains rightDigit)
      | _ => false

/-- Whether the labels of a domain keep to their directions. -/
def isSound (labels : List (List Char)) : Bool :=
  !labels.any (·.any isRightward) || labels.all isKept

end Direction

end FlowBench.Url

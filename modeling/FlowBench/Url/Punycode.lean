/-
  FlowBench.Url.Punycode
  ──────────────────────
  **Labels beyond ASCII.**

  The name of a host is made of ASCII labels.  A label with other characters
  is written in an ASCII form: its ASCII characters, then the others in
  increasing order, each as its distance from the one before in a notation
  whose digits get cheaper where distances are small.
-/
import FlowBench.Url.Encoding

namespace FlowBench.Url.Punycode

/-- What marks a label as encoded. -/
def marker : List Char := ['x', 'n', '-', '-']

/-- The character of a digit. -/
def digitChar (d : Nat) : Char := if d < 26 then Char.ofNat (97 + d) else Char.ofNat (22 + d)

/-- The value of a digit. -/
def digit? (c : Char) : Option Nat :=
  if 'a' ≤ c ∧ c ≤ 'z' then some (c.toNat - 97)
  else if 'A' ≤ c ∧ c ≤ 'Z' then some (c.toNat - 65)
  else if c.isDigit then some (c.toNat - 22)
  else none

/-- The least value of a digit that is not the last, at a position. -/
def threshold (position bias : Nat) : Nat :=
  if position ≤ bias then 1 else if bias + 26 ≤ position then 26 else position - bias

/-- Divides a distance until it is small, and counts the positions. -/
def shrink : Nat → Nat → Nat → Nat × Nat
  | 0, delta, k => (delta, k)
  | rounds + 1, delta, k => if 455 < delta then shrink rounds (delta / 35) (k + 36) else (delta, k)

/-- The bias after a distance, given the number of characters so far. -/
def adapt (delta count : Nat) (first : Bool) : Nat :=
  let scaled := if first then delta / 700 else delta / 2
  let scaled := scaled + scaled / count
  let (small, k) := shrink 64 scaled 0
  k + 36 * small / (small + 38)

/-- The digits of a distance. -/
def writeNumber (bias : Nat) : Nat → Nat → Nat → List Char
  | 0, _, q => [digitChar q]
  | rounds + 1, position, q =>
      let t := threshold position bias
      if q < t then [digitChar q]
      else
        digitChar (t + (q - t) % (36 - t))
          :: writeNumber bias rounds (position + 36) ((q - t) / (36 - t))

/-- What is known while a label is written. -/
structure State where
  next : Nat
  delta : Nat
  bias : Nat
  /-- The number of characters written so far. -/
  done : Nat
  first : Bool
  out : List Char

/-- Writes every occurrence of one character. -/
def writeChar (code : Nat) (label : List Char) (s : State) : State :=
  let s := { s with delta := s.delta + (code - s.next) * (s.done + 1), next := code }
  let s := label.foldl (fun s c =>
    if c.toNat < code then { s with delta := s.delta + 1 }
    else if c.toNat = code then
      { s with
        out := s.out ++ writeNumber s.bias 64 36 s.delta
        bias := adapt s.delta (s.done + 1) s.first
        delta := 0, done := s.done + 1, first := false }
    else s) s
  { s with delta := s.delta + 1, next := s.next + 1 }

/-- The ASCII form of a label, without its mark. -/
def encode (label : List Char) : List Char :=
  let basic := label.filter fun c => c.toNat < 0x80
  let codes := ((label.filter fun c => 0x80 ≤ c.toNat).map Char.toNat).mergeSort.eraseReps
  let start : State := ⟨0x80, 0, 72, basic.length, true, []⟩
  let s := codes.foldl (fun s code => writeChar code label s) start
  (if basic.isEmpty then [] else basic ++ ['-']) ++ s.out

/-- What the numbers of a label stay below. -/
def limit : Nat := 0x100000000

/-- Reads one distance and adds it to a sum. -/
def readNumber (bias : Nat) : Nat → Nat → Nat → List Char → Option (Nat × List Char)
  | _, _, _, [] => none
  | position, weight, sum, c :: rest => do
      let d ← digit? c
      let t := threshold position bias
      let sum := sum + d * weight
      if limit ≤ sum then none
      else if d < t then return (sum, rest)
      else if limit ≤ weight * (36 - t) then none
      else readNumber bias (position + 36) (weight * (36 - t)) sum rest

/-- Reads characters beyond ASCII into a label, from a code, an index and a
bias on; `first` says that none was read yet.  Every one takes a digit, so
the digits bound the rounds. -/
def readChars : Nat → Bool → Nat → Nat → Nat → List Char → List Char → Option (List Char)
  | _, _, _, _, _, label, [] => some label
  | 0, _, _, _, _, _, _ => none
  | rounds + 1, first, code, index, bias, label, digits => do
      let (total, rest) ← readNumber bias 36 1 index digits
      let count := label.length + 1
      let code := code + total / count
      let bias := adapt (total - index) count first
      let index := total % count
      if code.isValidChar then
        let label := label.take index ++ Char.ofNat code :: label.drop index
        readChars rounds false code (index + 1) bias label rest
      else none

/-- The label of an ASCII form without its mark.  A hyphen has
something to divide: it is not the first character. -/
def decode (cs : List Char) : Option (List Char) :=
  let digits := (cs.reverse.takeWhile (· ≠ '-')).reverse
  let front := cs.take (cs.length - digits.length)
  if front.length = 1 then none
  else readChars digits.length true 0x80 0 72 front.dropLast digits

end FlowBench.Url.Punycode

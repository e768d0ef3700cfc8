/-
  FlowBench.Yaml.Scalar
  ─────────────────────
  **The text of scalars.**

  A scalar is plain, in single or double quotes, or a block.  Where it runs
  over several lines these are folded: one break becomes a space, more than
  one lose their first, and blanks around breaks are dropped.  Blocks keep
  their breaks, unless they are folded ones.
-/
import FlowBench.Yaml.Spot

namespace FlowBench.Yaml

open Spot (atGap atLineEnd startsWith atBoundary chars)

/-! ## §1. Gaps between words. -/

/-- The line breaks among spots. -/
def breaksOf (spots : List Spot) : List Char := (chars spots).filter isBreak

/-- What line breaks between two words stand for. -/
def foldBreaks : List Char → List Char
  | ['\n'] => [' ']
  | '\n' :: more => more
  | breaks => breaks

/-- What the spacing between two words stands for. -/
def foldGap (gap : List Spot) : List Char :=
  if (breaksOf gap).isEmpty then chars gap else foldBreaks (breaksOf gap)

/-- Whether a tab stands before a column behind a line break. -/
def hasTabBefore (column : Int) (gap : List Spot) : Bool :=
  (gap.dropWhile fun s => !isBreak s.char).any fun s => s.char = '\t' && (s.column : Int) < column

/-! ## §2. Plain scalars. -/

/-- The characters of a plain scalar up to a gap or its end.  Inside brackets
a colon right before a bracket is a fault. -/
def word (flow : Bool) : List Spot → Option (List Char × List Spot)
  | [] => some ([], [])
  | s :: rest =>
      let before (p : Char → Bool) : Bool := (rest.head?.map fun t => p t.char).getD false
      if isSpacing s.char then some ([], s :: rest)
      else if flow && s.char = ':' && before (fun c => isFlowMark c || c = '?') then none
      else if (s.char = ':' && atGap rest) || (flow && isFlowMark s.char) then some ([], s :: rest)
      else (word flow rest).map fun (cs, rest) => (s.char :: cs, rest)

/-- A plain scalar: its text, whether line breaks follow it, and what comes
after these.  Each round reads a word and the gap behind it, so the number of
spots bounds the rounds.  Outside brackets the scalar ends before a line that
is not deeper than its surroundings. -/
def plain (flow : Bool) (indent : Int) : Nat → List Spot → Option (List Char × Bool × List Spot)
  | 0, spots => some ([], false, spots)
  | rounds + 1, spots =>
      if atBoundary spots || startsWith '#' spots then some ([], false, spots)
      else do
        let (text, rest) ← word flow spots
        let gap := rest.takeWhile fun s => isSpacing s.char
        let rest := rest.dropWhile fun s => isSpacing s.char
        let broken := !(breaksOf gap).isEmpty
        let outdented := !flow && (rest.head?.map fun s => decide ((s.column : Int) < indent)).getD true
        if gap.isEmpty then some (text, false, rest)
        else if hasTabBefore indent gap then none
        else if outdented then some (text, broken, rest)
        else do
          let (more, follows, rest) ← plain flow indent rounds rest
          if more.isEmpty then some (text, broken, rest)
          else some (text ++ foldGap gap ++ more, follows, rest)

/-! ## §3. Quoted scalars. -/

/-- The value of a hexadecimal digit. -/
def hexDigit? (c : Char) : Option Nat :=
  if c.isDigit then some (c.toNat - '0'.toNat)
  else if 'a' ≤ c ∧ c ≤ 'f' then some (c.toNat - 'a'.toNat + 10)
  else if 'A' ≤ c ∧ c ≤ 'F' then some (c.toNat - 'A'.toNat + 10)
  else none

/-- The number that hexadecimal digits write. -/
def hexValue? (cs : List Char) : Option Nat :=
  cs.foldlM (fun n c => (hexDigit? c).map fun d => n * 16 + d) 0

/-- The character of a number, if it has one. -/
def charOf? (n : Nat) : Option Char := if n.isValidChar then some (Char.ofNat n) else none

/-- The character that a letter behind a backslash stands for. -/
def escape? : Char → Option Char
  | '0' => some (Char.ofNat 0)
  | 'a' => some '\x07'
  | 'b' => some '\x08'
  | 't' => some '\t'
  | '\t' => some '\t'
  | 'n' => some '\n'
  | 'v' => some '\x0b'
  | 'f' => some '\x0c'
  | 'r' => some '\r'
  | 'e' => some '\x1b'
  | ' ' => some ' '
  | '"' => some '"'
  | '/' => some '/'
  | '\\' => some '\\'
  | 'N' => some (Char.ofNat 0x85)
  | '_' => some (Char.ofNat 0xA0)
  | 'L' => some (Char.ofNat 0x2028)
  | 'P' => some (Char.ofNat 0x2029)
  | _ => none

/-- How many hexadecimal digits follow a letter behind a backslash. -/
def hexLength? : Char → Option Nat
  | 'x' => some 2
  | 'u' => some 4
  | 'U' => some 8
  | _ => none

/-- What a backslash and the spots behind it stand for. -/
def escaped? : List Spot → Option (Char × List Spot)
  | [] => none
  | s :: rest =>
      match hexLength? s.char with
      | some n =>
          if (rest.take n).length < n then none
          else ((hexValue? (chars (rest.take n))).bind charOf?).map fun c => (c, rest.drop n)
      | none => (escape? s.char).map fun c => (c, rest)

/-- A quoted scalar from behind its opening quote on: its text, and what comes
after the closing one.  Each round reads a character, an escape or a gap.  A
line break behind a backslash leaves nothing, and no document may start or
end inside. -/
def quotedText (double : Bool) : Nat → List Spot → Option (List Char × List Spot)
  | 0, _ => none
  | _, [] => none
  | rounds + 1, s :: rest =>
      let goOn (text : List Char) (rest : List Spot) : Option (List Char × List Spot) :=
        (quotedText double rounds rest).map fun (more, rest) => (text ++ more, rest)
      let spacing (spots : List Spot) : List Spot := spots.takeWhile fun s => isSpacing s.char
      if atBoundary (s :: rest) then none
      else if isSpacing s.char then
        goOn (foldGap (spacing (s :: rest))) (rest.dropWhile fun s => isSpacing s.char)
      else if double then
        if s.char = '"' then some ([], rest)
        else if s.char = '\\' then
          if !rest.isEmpty && atLineEnd rest then
            goOn (breaksOf (spacing (rest.drop 1)))
              ((rest.drop 1).dropWhile fun s => isSpacing s.char)
          else (escaped? rest).bind fun (c, rest) => goOn [c] rest
        else goOn [s.char] rest
      else if s.char = '\'' then
        if startsWith '\'' rest then goOn ['\''] (rest.drop 1) else some ([], rest)
      else goOn [s.char] rest

/-! ## §4. Blocks. -/

/-- What happens to the line breaks at the end of a block. -/
inductive Chomp where
  | strip
  | clip
  | keep
  deriving DecidableEq, Repr

/-- The mark of a way to end a block. -/
def chomp? (c : Char) : Option Chomp :=
  if c = '+' then some .keep else if c = '-' then some .strip else none

/-- The digit that tells how much deeper a block stands. -/
def deeper? (c : Char) : Option Nat := if c.isDigit then some (c.toNat - '0'.toNat) else none

/-- The head of a block: how it ends, how much deeper it stands if that is
told, and its lines. -/
def blockHead (spots : List Spot) : Option (Chomp × Option Nat × List Spot) := do
  let first (spots : List Spot) : Char := (spots.head?.map Spot.char).getD '\n'
  let (chomp, deeper, rest) :=
    match chomp? (first spots), deeper? (first spots) with
    | some chomp, _ =>
        match deeper? (first (spots.drop 1)) with
        | some n => (chomp, some n, spots.drop 2)
        | none => (chomp, none, spots.drop 1)
    | none, some n =>
        match chomp? (first (spots.drop 1)) with
        | some chomp => (chomp, some n, spots.drop 2)
        | none => (Chomp.clip, some n, spots.drop 1)
    | none, none => (Chomp.clip, none, spots)
  if deeper = some 0 then none
  else do
    let rest ← Spot.toLineEnd? rest
    return (chomp, deeper, rest.drop 1)

/-- The empty lines at the start of some lines, the column of the deepest of
them and of what follows, and what follows.  Where the depth of the block is
known, blanks beyond it belong to a line; before it a tab is a fault. -/
def emptyLines (depth : Option Nat) :
    Nat → Nat → List Spot → Option (List Char × Nat × List Spot)
  | 0, deepest, spots => some ([], deepest, spots)
  | rounds + 1, deepest, spots =>
      let within (s : Spot) : Bool := (depth.map fun n => decide (s.column < n)).getD true
      let rest := spots.dropWhile fun s => s.char = ' ' && within s
      match rest with
      | [] => some ([], deepest, [])
      | s :: more =>
          let deepest := max deepest s.column
          if s.char = '\t' && within s then none
          else if isBreak s.char then
            (emptyLines depth rounds deepest more).map fun (breaks, deepest, rest) =>
              (s.char :: breaks, deepest, rest)
          else some ([], deepest, rest)

/-- The lines of a block at a depth, given the break behind the line before,
whether that line began with a blank, and the empty lines after it.  Gives the
text and the breaks at its end. -/
def blockLines (literal : Bool) (depth : Nat) :
    Nat → List Char → Bool → List Char → List Spot →
      Option (List Char × List Char × List Char × List Spot)
  | 0, _, _, _, _ => none
  | rounds + 1, before, wasBlank, empty, spots =>
      match spots with
      | [] => some ([], before, empty, [])
      | s :: _ =>
          if s.column ≠ depth then some ([], before, empty, spots)
          else do
            let startsBlank := isBlank s.char
            let joined :=
              if !literal && before = ['\n'] && !wasBlank && !startsBlank then
                (if empty.isEmpty then [' '] else [])
              else before
            let line := chars (spots.takeWhile fun s => !isBreak s.char)
            let rest := spots.dropWhile fun s => !isBreak s.char
            let (breaks, _, after) ← emptyLines (some depth) rest.length 0 (rest.drop 1)
            let (more, last, trailing, rest) ←
              blockLines literal depth rounds (chars (rest.take 1)) startsBlank breaks after
            return (joined ++ empty ++ line ++ more, last, trailing, rest)

/-- A block behind its mark, in surroundings at a column: its text, and what
comes after it. -/
def blockText (literal : Bool) (indent : Int) (spots : List Spot) :
    Option (List Char × List Spot) := do
  let (chomp, deeper, lines) ← blockHead spots
  let told := deeper.map fun n => (if 0 ≤ indent then indent.toNat + n else n)
  let (breaks, deepest, rest) ← emptyLines told (lines.length + 1) 0 lines
  let depth := told.getD (max deepest (max (indent + 1).toNat 1))
  let (text, last, trailing, rest) ←
    blockLines literal depth (rest.length + 1) [] false breaks rest
  let tail := match chomp with
    | .strip => []
    | .clip => last
    | .keep => last ++ trailing
  return (text ++ tail, rest)

end FlowBench.Yaml

/-
  FlowBench.Yaml.Printer
  ──────────────────────
  **Documents as YAML text.**

  Mappings and lists are written as blocks, two blanks deeper per level,
  except that a list under a key stands at the key's own depth; empty ones
  are written with brackets.  A text is written plain where it reads back as
  that text, else in single quotes, else in double quotes; one with a line
  break becomes a literal block.
-/
import FlowBench.Document
import FlowBench.Yaml.Character
import FlowBench.Yaml.Plain

namespace FlowBench.Yaml

/-! ## §1. Opening characters. -/

/-- Characters that cannot open a plain text. -/
def opensIndicator (c : Char) : Bool :=
  c ∈ ['#', ',', '[', ']', '{', '}', '&', '*', '!', '|', '>', '\'', '"', '%', '@', '`']

/-! ## §2. Styles. -/

/-- Whether some character of a text, seen with the one before it and the
one after it, meets a condition. -/
def anyInside (p : Option Char → Char → Option Char → Bool) : Option Char → List Char → Bool
  | _, [] => false
  | before, c :: rest => p before c rest.head? || anyInside p (some c) rest

/-- Whether there is spacing here, or no character at all. -/
def spacingOrEnd : Option Char → Bool
  | none => true
  | some c => isSpacing c

/-- Whether a text reads as structure in a block. -/
def hasIndicator (cs : List Char) : Bool :=
  ['-', '-', '-'].isPrefixOf cs || ['.', '.', '.'].isPrefixOf cs
    || anyInside (fun before c after =>
        match before with
        | none =>
            opensIndicator c || (c ∈ ['?', ':', '-'] && spacingOrEnd after)
        | some b => (c = ':' && spacingOrEnd after) || (c = '#' && isSpacing b)) none cs

/-- Two neighbours of given kinds. -/
def hasPair (p q : Char → Bool) (cs : List Char) : Bool :=
  anyInside (fun before c _ => (before.map p).getD false && q c) none cs

/-- How a text can be written. -/
inductive Style where
  | plain
  | single
  | double
  | literal
  deriving DecidableEq, Repr

/-- Whether a text holds what only double quotes can hold: an unprintable
character, or a space right before a line break. -/
def needsEscape (cs : List Char) : Bool :=
  cs.any (fun c => !isPrintable c) || hasPair (· = ' ') isBreak cs

/-- Whether a text can stand plain in a block. -/
def allowsPlain (cs : List Char) : Bool :=
  !(cs.any isBreak || cs.head? = some ' ' || cs.getLast? = some ' ' || hasIndicator cs
    || needsEscape cs)

/-- Whether a text can stand in single quotes. -/
def allowsSingle (cs : List Char) : Bool := !(needsEscape cs || hasPair isBreak (· = ' ') cs)

/-- Whether a text can be a literal block. -/
def allowsLiteral (cs : List Char) : Bool :=
  !(cs.isEmpty || needsEscape cs || cs.getLast? = some ' ')

/-- Whether a plain word would be read as anything but a text. -/
def readsAsOther (s : String) : Bool := isPadded s.toList || Plain.of s ≠ .text

/-- The style of a text. -/
def styleOf (s : String) : Style :=
  let cs := s.toList
  if cs.contains '\n' then (if allowsLiteral cs then .literal else .double)
  else if !readsAsOther s && allowsPlain cs then .plain
  else if allowsSingle cs then .single
  else .double

/-! ## §3. Texts. -/

/-- Blanks. -/
def blanks (n : Nat) : List Char := List.replicate n ' '

/-- An upper-case hexadecimal numeral of a fixed width. -/
def hexWidth (width n : Nat) : List Char :=
  let digits := (Nat.toDigits 16 n).map Char.toUpper
  List.replicate (width - digits.length) '0' ++ digits

/-- A character in double quotes. -/
def escapeChar (c : Char) : List Char :=
  if isPrintable c && !isBreak c && c ≠ '"' && c ≠ '\\' then [c]
  else
    '\\' :: match c.toNat with
      | 0x00 => ['0']
      | 0x07 => ['a']
      | 0x08 => ['b']
      | 0x09 => ['t']
      | 0x0A => ['n']
      | 0x0B => ['v']
      | 0x0C => ['f']
      | 0x0D => ['r']
      | 0x1B => ['e']
      | 0x22 => ['"']
      | 0x5C => ['\\']
      | 0x85 => ['N']
      | 0x2028 => ['L']
      | 0x2029 => ['P']
      | n =>
        if n ≤ 0xFF then 'x' :: hexWidth 2 n
        else if n ≤ 0xFFFF then 'u' :: hexWidth 4 n
        else 'U' :: hexWidth 8 n

/-- Puts the blanks of a depth in front of whatever follows a line break. -/
def indentLines (depth : Nat) : Bool → List Char → List Char
  | _, [] => []
  | afterBreak, c :: rest =>
      if isBreak c then c :: indentLines depth true rest
      else (if afterBreak then blanks depth else []) ++ c :: indentLines depth false rest

/-- The mark that says how a literal block ends: without a line break, with
one, or with several. -/
def chomping (cs : List Char) : List Char :=
  match cs.reverse with
  | [] => ['-']
  | [c] => if isBreak c then ['+'] else ['-']
  | c :: d :: _ => if !isBreak c then ['-'] else if isBreak d then ['+'] else []

/-- A literal block, with its line break. -/
def literal (depth : Nat) (cs : List Char) : List Char :=
  let hint := match cs with
    | c :: _ => if c = ' ' || isBreak c then ['2'] else []
    | [] => []
  let closed := (cs.getLast?.map isBreak).getD false
  '|' :: hint ++ chomping cs ++ '\n' :: indentLines depth true cs ++ (if closed then [] else ['\n'])

/-- A text at a depth, up to and with the line break after it. -/
def textLine (depth : Nat) (s : String) : List Char :=
  let cs := s.toList
  match styleOf s with
  | .plain => cs ++ ['\n']
  | .single =>
      '\'' :: indentLines depth false (cs.flatMap fun c => if c = '\'' then ['\'', '\''] else [c])
        ++ (if (cs.getLast?.map isBreak).getD false then blanks depth else []) ++ ['\'', '\n']
  | .double => '"' :: cs.flatMap escapeChar ++ ['"', '\n']
  | .literal => literal depth cs

/-- Whether a key stands on one line in front of its colon. -/
def isSimpleKey (k : String) : Bool := k.utf8ByteSize ≤ 128 && !k.toList.any isBreak

/-- The text of a simple key. -/
def keyText (k : String) : List Char := (textLine 0 k).dropLast

/-! ## §4. Blocks. -/

/-- The blank between a key's colon and what stands on its line. -/
def lead (afterKey : Bool) : List Char := if afterKey then [' '] else []

/-- Doubles are written positionally when the leading digit stands between
`10^-5` and `10^15`, else with an exponent. -/
def doubleLayout : FloatLayout := ⟨-5, 15, false⟩

/-- Single-precision floats: between `10^-6` and `10^12`. -/
def singleLayout : FloatLayout := ⟨-6, 12, false⟩

/-- The text of a float. -/
def floatText {f : BinaryFormat} (layout : FloatLayout) (x : Binary f) : String :=
  match layout.render? x with
  | some s => s
  | none =>
      if x.decode = .nan then ".nan" else if x.negative then "-.inf" else ".inf"

mutual
/-- A document, from where it starts on its line up to and with its last line
break.  Behind the colon of a key at `depth` a block starts on a new line;
behind a dash or at the start its first line is the one it stands on, and
its other lines stand at `depth`. -/
def block (afterKey : Bool) (depth : Nat) : Document → List Char
  | .null => lead afterKey ++ "null\n".toList
  | .bool b => lead afterKey ++ if b then "true\n".toList else "false\n".toList
  | .int i => lead afterKey ++ (toString i).toList ++ ['\n']
  | .double x => lead afterKey ++ (floatText doubleLayout x).toList ++ ['\n']
  | .single x => lead afterKey ++ (floatText singleLayout x).toList ++ ['\n']
  | .text s => lead afterKey ++ textLine (if afterKey then depth + 2 else depth) s
  | .list [] => lead afterKey ++ "[]\n".toList
  | .list ds => if afterKey then '\n' :: items false depth ds else items true depth ds
  | .record [] => lead afterKey ++ "\x7b\x7d\n".toList
  | .record es => if afterKey then '\n' :: entries false (depth + 2) es else entries true depth es

/-- The items of a list; the first may stand where the list starts. -/
def items (inPlace : Bool) (depth : Nat) : List Document → List Char
  | [] => []
  | d :: rest =>
      (if inPlace then [] else blanks depth) ++ '-' :: ' ' :: block false (depth + 2) d
        ++ items false depth rest

/-- The entries of a mapping; the first may stand where the mapping
starts. -/
def entries (inPlace : Bool) (depth : Nat) : List (String × Document) → List Char
  | [] => []
  | (k, d) :: rest =>
      (if inPlace then [] else blanks depth)
        ++ (if isSimpleKey k then keyText k ++ ':' :: block true depth d
          else '?' :: ' ' :: textLine (depth + 2) k ++ blanks depth ++ ':' :: ' '
            :: block false (depth + 2) d)
        ++ entries false depth rest
end

/-- A document as a text. -/
def print (d : Document) : String := String.ofList (block false 0 d)

end FlowBench.Yaml

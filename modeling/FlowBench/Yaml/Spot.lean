/-
  FlowBench.Yaml.Spot
  ───────────────────
  **Characters at their places.**

  YAML is cut by where things stand, so every character of a text is kept
  with its line and column, and with the bytes in front of it on its line,
  which bound how long a key may be.  All line breaks but two become the plain one,
  and a carriage return with the line feed behind it is one break.
-/
import FlowBench.Yaml.Character

namespace FlowBench.Yaml

/-- A character, and where it stands. -/
structure Spot where
  char : Char
  line : Nat
  column : Nat
  /-- The bytes before it on its line. -/
  bytes : Nat
  deriving DecidableEq, Inhabited

namespace Spot

/-- Makes the usual line breaks one. -/
def unify : List Char → List Char
  | [] => []
  | '\r' :: '\n' :: rest => '\n' :: unify rest
  | c :: rest => (if c = '\r' || c.toNat = 0x85 then '\n' else c) :: unify rest

/-- Places characters from a line, column and number of bytes on. -/
def placeFrom : Nat → Nat → Nat → List Char → List Spot
  | _, _, _, [] => []
  | line, column, bytes, c :: rest =>
      ⟨c, line, column, bytes⟩ ::
        (if isBreak c then placeFrom (line + 1) 0 0 rest
        else placeFrom line (column + 1) (bytes + c.utf8Size) rest)

/-- Places the characters of a text. -/
def place (cs : List Char) : List Spot := placeFrom 0 0 0 (unify cs)

/-- The characters of spots. -/
def chars (spots : List Spot) : List Char := spots.map Spot.char

/-- Whether the text ends here, or goes on with spacing. -/
def atGap : List Spot → Bool
  | [] => true
  | s :: _ => isSpacing s.char

/-- Whether the text ends here, or goes on with a line break. -/
def atLineEnd : List Spot → Bool
  | [] => true
  | s :: _ => isBreak s.char

/-- Whether the text goes on with a character. -/
def startsWith (c : Char) : List Spot → Bool
  | [] => false
  | s :: _ => s.char = c

/-- Whether a mark of three equal characters that starts or ends a document
stands here, at the start of a line. -/
def atMark (c : Char) : List Spot → Bool
  | a :: b :: d :: rest =>
      a.column = 0 && a.char = c && b.char = c && d.char = c && atGap rest
  | _ => false

/-- Whether a document starts or ends here. -/
def atBoundary (spots : List Spot) : Bool := atMark '-' spots || atMark '.' spots

/-- The spots behind the blanks of a line. -/
def skipBlanks (spots : List Spot) : List Spot := spots.dropWhile fun s => isBlank s.char

/-- The spots behind blanks and a comment, which reach to the end of the
line. -/
def toLineEnd? (spots : List Spot) : Option (List Spot) :=
  let rest := skipBlanks spots
  let rest := if startsWith '#' rest then rest.dropWhile fun s => !isBreak s.char else rest
  if atLineEnd rest then some rest else none

end Spot

end FlowBench.Yaml

/-
  FlowBench.Yaml.Token
  ────────────────────
  **Tokens.**

  The pieces that a YAML text is cut into: marks of structure, which for
  blocks come from their depth, and the scalars, anchors and tags between
  them.  A tag consists of a handle, which stands for a beginning that the
  document can set, and what follows it.
-/
import FlowBench.Yaml.Scalar

namespace FlowBench.Yaml

/-- The tokens. -/
inductive Token where
  | version (major minor : Nat)
  /-- A handle, and the beginning that it stands for. -/
  | handle (name beginning : String)
  | documentStart
  | documentEnd
  | blockListStart
  | blockMappingStart
  | blockEnd
  | flowListStart
  | flowListEnd
  | flowMappingStart
  | flowMappingEnd
  | blockEntry
  | flowEntry
  | key
  | value
  | alias (name : String)
  | anchor (name : String)
  | tag (handle rest : String)
  | scalar (isPlain : Bool) (text : String)
  deriving DecidableEq, Repr

namespace Token

open Spot (atGap startsWith chars skipBlanks)

/-- The text of characters. -/
def textOf (cs : List Char) : String := String.ofList cs

/-! ## §1. Anchors. -/

/-- Whether what comes after a name may stand there. -/
def endsName (spots : List Spot) : Bool :=
  match spots with
  | [] => true
  | s :: _ => isSpacing s.char || s.char ∈ ['?', ':', ',', ']', '}', '%', '@', '`']

/-- The name of an anchor or an alias. -/
def readName (spots : List Spot) : Option (String × List Spot) :=
  let name := spots.takeWhile fun s => isName s.char
  let rest := spots.dropWhile fun s => isName s.char
  if name.isEmpty || !endsName rest then none else some (textOf (chars name), rest)

/-! ## §2. Tags. -/

/-- The bytes that percent signs and hexadecimal digits write, up to the
first place where they do not. -/
def escapedBytes : Nat → List Spot → List UInt8 × List Spot
  | 0, spots => ([], spots)
  | rounds + 1, spots =>
      match spots with
      | p :: a :: b :: rest =>
          if p.char = '%' then
            match hexValue? [a.char, b.char] with
            | some n =>
                let (more, rest) := escapedBytes rounds rest
                (UInt8.ofNat n :: more, rest)
            | none => ([], spots)
          else ([], spots)
      | _ => ([], spots)

/-- The text that escaped bytes write. -/
def escapedText? (bytes : List UInt8) : Option (List Char) :=
  (String.fromUTF8? ⟨bytes.toArray⟩).map String.toList

/-- The characters of a tag, escapes resolved; each round reads a character
or a run of escapes. -/
def tagChars (bracketed : Bool) : Nat → List Spot → Option (List Char × List Spot)
  | 0, spots => some ([], spots)
  | rounds + 1, spots =>
      match spots with
      | [] => some ([], [])
      | s :: rest =>
          if !isTagChar bracketed s.char then some ([], spots)
          else if s.char = '%' then do
            let (bytes, rest) := escapedBytes spots.length spots
            if bytes.isEmpty then none
            else
              let text ← escapedText? bytes
              let (more, rest) ← tagChars bracketed rounds rest
              return (text ++ more, rest)
          else (tagChars bracketed rounds rest).map fun (more, rest) => (s.char :: more, rest)

/-- A handle as it is written: an exclamation mark, perhaps a name, perhaps
another mark. -/
def readHandle (spots : List Spot) : Option (List Char × List Spot) :=
  match spots with
  | s :: rest =>
      if s.char ≠ '!' then none
      else
        let name := rest.takeWhile fun s => isName s.char
        let rest := rest.dropWhile fun s => isName s.char
        if startsWith '!' rest then some ('!' :: chars name ++ ['!'], rest.drop 1)
        else some ('!' :: chars name, rest)
  | [] => none

/-- Whether a handle is closed by a mark of its own. -/
def isClosed (opening : List Char) : Bool := 1 < opening.length && opening.getLast? = some '!'

/-- A tag without angle brackets.  Where its beginning is no closed handle it
belongs to the rest of the tag, and a lone mark is the rest of an empty
handle. -/
def readShortTag (spots : List Spot) : Option (Token × List Spot) := do
  let (opening, rest) ← readHandle spots
  let (more, rest) ← tagChars false (rest.length + 1) rest
  if isClosed opening then
    if more.isEmpty then none else return (.tag (textOf opening) (textOf more), rest)
  else
    let whole := opening.drop 1 ++ more
    if whole.isEmpty then return (.tag "" "!", rest) else return (.tag "!" (textOf whole), rest)

/-- A tag, and what comes after it. -/
def readTag (flow : Bool) (spots : List Spot) : Option (Token × List Spot) := do
  let (token, rest) ←
    if startsWith '<' (spots.drop 1) then do
      let (cs, rest) ← tagChars true spots.length (spots.drop 2)
      if cs.isEmpty || !startsWith '>' rest then none
      else some (Token.tag "" (textOf cs), rest.drop 1)
    else readShortTag spots
  if atGap rest || (flow && startsWith ',' rest) then return (token, rest) else none

/-! ## §3. Directives. -/

/-- A number of at most nine digits. -/
def readNumber (spots : List Spot) : Option (Nat × List Spot) :=
  let digits := spots.takeWhile fun s => s.char.isDigit
  let rest := spots.dropWhile fun s => s.char.isDigit
  if digits.isEmpty || 9 < digits.length then none
  else some ((chars digits).foldl (fun n c => n * 10 + (c.toNat - '0'.toNat)) 0, rest)

/-- What follows the word `YAML`. -/
def readVersion (spots : List Spot) : Option (Token × List Spot) := do
  let (major, rest) ← readNumber (skipBlanks spots)
  if startsWith '.' rest then
    let (minor, rest) ← readNumber (rest.drop 1)
    return (.version major minor, rest)
  else none

/-- What follows the word `TAG`. -/
def readHandleSetting (spots : List Spot) : Option (Token × List Spot) := do
  let (opening, rest) ← readHandle (skipBlanks spots)
  if 1 < opening.length && !isClosed opening then none
  else if !(rest.head?.map fun s => isBlank s.char).getD false then none
  else
    let rest := skipBlanks rest
    let (beginning, rest) ← tagChars true (rest.length + 1) rest
    if beginning.isEmpty || !atGap rest then none
    else return (.handle (textOf opening) (textOf beginning), rest)

/-- A directive from behind its percent sign on, with the line it stands
on. -/
def readDirective (spots : List Spot) : Option (Token × List Spot) := do
  let name := textOf (chars (spots.takeWhile fun s => isName s.char))
  let rest := spots.dropWhile fun s => isName s.char
  if !atGap rest then none
  else
    let (token, rest) ←
      if name = "YAML" then readVersion rest
      else if name = "TAG" then readHandleSetting rest
      else none
    let rest ← Spot.toLineEnd? rest
    return (token, rest.drop 1)

end Token

end FlowBench.Yaml

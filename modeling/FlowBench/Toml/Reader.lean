/-
  FlowBench.Toml.Reader
  ─────────────────────
  **Reading TOML.**

  A document is lines: headers, and keys with values, which may take several
  lines.  Nothing is told about what is wrong with a document that cannot be
  read.
-/
import FlowBench.Toml.Scalar
import FlowBench.Toml.Table

namespace FlowBench.Toml

/-! ## §1. Between values. -/

/-- Skips gaps. -/
def skipGaps (cs : List Char) : List Char := cs.dropWhile isGap

/-- What follows the end of a line, which may have a comment. -/
def lineEnd? (cs : List Char) : Option (List Char) :=
  let cs := match skipGaps cs with
    | '#' :: rest => rest.dropWhile isTextChar
    | cs => cs
  if cs.isEmpty then some [] else newline? cs

/-- Skips gaps, line breaks and comments; the first argument tells whether
this starts in a comment. -/
def skipLines : Bool → List Char → List Char
  | _, '\r' :: '\n' :: rest => skipLines false rest
  | _, '\n' :: rest => skipLines false rest
  | true, c :: rest => if isTextChar c then skipLines true rest else c :: rest
  | false, c :: rest =>
      if isGap c then skipLines false rest
      else if c = '#' then skipLines true rest
      else c :: rest
  | _, [] => []

/-! ## §2. Keys. -/

/-- One part of a key. -/
def keyPart? (cs : List Char) : Option (String × List Char) :=
  match shortText? cs with
  | some (body, rest) => some (String.ofList body, rest)
  | none =>
      let name := cs.takeWhile isBareChar
      if name.isEmpty then none else some (String.ofList name, cs.drop name.length)

/-- The parts of a key, up to a number of them. -/
def key? : Nat → List Char → Option (List String × List Char)
  | 0, _ => none
  | more + 1, cs => do
      let (part, rest) ← keyPart? (skipGaps cs)
      match skipGaps rest with
      | '.' :: rest =>
          let (parts, rest) ← key? more rest
          return (part :: parts, rest)
      | rest => return ([part], rest)

/-- How deep keys and values may go. -/
def maxDepth : Nat := 79

/-- A key, cut in front of its last part. -/
def splitKey? (cs : List Char) : Option ((List String × String) × List Char) := do
  let (parts, rest) ← key? maxDepth cs
  return ((parts.dropLast, ← parts.getLast?), rest)

/-! ## §3. Values. -/

/-- The table of keys with values in braces. -/
def inlineTable? (pairs : List ((List String × String) × Toml)) : Option Toml :=
  (pairs.foldlM (fun fields p => Fields.addAt? p.1.1 p.1.2 p.2 .inline fields) []).map
    (.table .inline)

mutual
/-- A value, by the length of what may be read and the depth that is left. -/
def value? : Nat → Nat → List Char → Option (Toml × List Char)
  | 0, _, _ => none
  | size + 1, depth, cs =>
      match cs, depth with
      | '[' :: rest, left + 1 =>
          (items? size left rest).map fun (items, rest) => (.array items, rest)
      | '\x7b' :: rest, left + 1 =>
          match skipGaps rest with
          | '\x7d' :: rest => some (.table .inline [], rest)
          | rest => do
              let (pairs, rest) ← pairs? size left rest
              return (← inlineTable? pairs, rest)
      | cs, _ => scalar? cs

/-- The items of an array. -/
def items? : Nat → Nat → List Char → Option (List Toml × List Char)
  | 0, _, _ => none
  | size + 1, depth, cs =>
      match skipLines false cs with
      | ']' :: rest => some ([], rest)
      | cs => do
          let (v, rest) ← value? size depth cs
          match skipLines false rest with
          | ',' :: rest =>
              let (items, rest) ← items? size depth rest
              return (v :: items, rest)
          | ']' :: rest => return ([v], rest)
          | _ => none

/-- The keys and values in braces. -/
def pairs? : Nat → Nat → List Char → Option (List ((List String × String) × Toml) × List Char)
  | 0, _, _ => none
  | size + 1, depth, cs => do
      let (key, rest) ← splitKey? cs
      let (v, rest) ← value? size depth (skipGaps (← after? '=' rest))
      match skipGaps rest with
      | ',' :: rest =>
          let (pairs, rest) ← pairs? size depth rest
          return ((key, v) :: pairs, rest)
      | '\x7d' :: rest => return ([(key, v)], rest)
      | _ => none
end

/-! ## §4. Documents. -/

/-- What was read so far, and the header that the next keys stand under. -/
structure Draft where
  fields : Fields := []
  header : List String := []

/-- Reads a line with a key. -/
def keyLine? (d : Draft) (cs : List Char) : Option (Draft × List Char) := do
  let ((path, key), rest) ← splitKey? cs
  let rest := skipGaps (← after? '=' rest)
  let (v, rest) ← value? (rest.length + 1) maxDepth rest
  let fields ← Fields.change? false (Fields.addAt? path key v) d.header .header d.fields
  return ({ d with fields := fields }, ← lineEnd? rest)

/-- Reads a header behind its opening brackets. -/
def headerLine? (many : Bool) (d : Draft) (cs : List Char) : Option (Draft × List Char) := do
  let ((path, key), rest) ← splitKey? cs
  let rest ← after? ']' rest
  let rest ← if many then after? ']' rest else some rest
  let fields ←
    if many then Fields.openItem? path key d.fields else Fields.openTable? path key d.fields
  return (⟨fields, path ++ [key]⟩, ← lineEnd? rest)

/-- Reads one line. -/
def line? (d : Draft) (cs : List Char) : Option (Draft × List Char) :=
  match skipGaps cs with
  | '[' :: '[' :: rest => headerLine? true d rest
  | '[' :: rest => headerLine? false d rest
  | cs =>
      match lineEnd? cs with
      | some rest => some (d, rest)
      | none => keyLine? d cs

/-- Reads lines, up to a number of them. -/
def lines? : Nat → Draft → List Char → Option Draft
  | _, d, [] => some d
  | 0, _, _ => none
  | more + 1, d, cs => do
      let (d, rest) ← line? d cs
      lines? more d rest

/-- Reads a document; a mark of the byte order in front of it is left out. -/
def read? (text : String) : Option Fields :=
  let cs := match text.toList with
    | '\uFEFF' :: rest => rest
    | cs => cs
  (lines? cs.length {} cs).map Draft.fields

end FlowBench.Toml

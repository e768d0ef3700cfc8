/-
  FlowBench.Yaml.Token.Lexer
  ──────────────────────────
  **Cutting a text into tokens.**

  The lexer walks the text once.  Outside brackets it keeps the columns of
  the open blocks: a block opens where an entry or a key stands deeper than
  the open ones, and closes where something stands less deep.  A key without
  a question mark is only known as one when its colon comes; so the lexer
  remembers where the latest such key could have started, and puts its
  tokens in there afterwards.  The colon has to come on the same line, and
  within 1024 bytes.
-/
import FlowBench.Yaml.Token

namespace FlowBench.Yaml

open Spot (atGap startsWith chars)

/-- Where a key may have started. -/
structure KeyStart where
  /-- The number of tokens before it. -/
  before : Nat
  spot : Spot
  /-- Nothing but a key can stand there. -/
  needed : Bool

/-- The state of the lexer. -/
structure Lexer where
  /-- What is still to be read. -/
  rest : List Spot
  /-- The tokens so far, the latest first. -/
  tokens : List Token := []
  /-- The column of the innermost open block, `-1` outside all. -/
  indent : Int := -1
  /-- The columns of the blocks around it. -/
  outer : List Int := []
  /-- Per open bracket, the latest first, and outside all of them, where a
  key may have started. -/
  keys : List (Option KeyStart) := [none]
  /-- Whether a key may start here. -/
  keyAllowed : Bool := true

namespace Lexer

/-! ## §1. Small steps. -/

/-- Whether a bracket is open. -/
def inFlow (l : Lexer) : Bool := 1 < l.keys.length

/-- Adds a token. -/
def push (l : Lexer) (t : Token) : Lexer := { l with tokens := t :: l.tokens }

/-- Goes on at other spots. -/
def goTo (l : Lexer) (rest : List Spot) : Lexer := { l with rest := rest }

/-- Says whether a key may start next. -/
def allowKey (l : Lexer) (allowed : Bool) : Lexer := { l with keyAllowed := allowed }

/-- Puts tokens, the latest first, behind the first `before` ones. -/
def insertAt (l : Lexer) (before : Nat) (ts : List Token) : Lexer :=
  let later := l.tokens.length - before
  { l with tokens := l.tokens.take later ++ ts ++ l.tokens.drop later }

/-- Forgets where a key may have started; a fault if a key is needed
there. -/
def dropKey (l : Lexer) : Option Lexer :=
  match l.keys with
  | some k :: more => if k.needed then none else some { l with keys := none :: more }
  | _ => some l

/-- Remembers that a key may start at a spot. -/
def saveKey (l : Lexer) (s : Spot) : Option Lexer :=
  if l.keyAllowed then
    l.dropKey.map fun l =>
      let k : KeyStart := ⟨l.tokens.length, s, !l.inFlow && decide (l.indent = (s.column : Int))⟩
      { l with keys := some k :: l.keys.drop 1 }
  else some l

/-- Whether a key that may have started is too far back. -/
def isStale (s : Spot) (k : KeyStart) : Bool :=
  k.spot.line < s.line || k.spot.bytes + 1024 < s.bytes

/-- Forgets the keys that are too far back. -/
def dropStale (l : Lexer) (s : Spot) : Option Lexer :=
  (l.keys.mapM fun k =>
    match k with
    | none => some none
    | some k => if !isStale s k then some (some k) else if k.needed then none else some none).map
    fun keys => { l with keys := keys }

/-- Opens a block at a column, unless one is open there or a bracket is. -/
def openBlock (l : Lexer) (column before : Nat) (start : Token) : Lexer :=
  if !l.inFlow && l.indent < column then
    { l.insertAt before [start] with indent := column, outer := l.indent :: l.outer }
  else l

/-- Closes blocks deeper than a column, given the columns around the
innermost one. -/
def closeTo (column : Int) : List Int → Lexer → Lexer
  | [], l => if column < l.indent then { l.push .blockEnd with indent := -1, outer := [] } else l
  | around :: more, l =>
      if column < l.indent then
        closeTo column more { l.push .blockEnd with indent := around, outer := more }
      else l

/-- Closes the blocks deeper than a column. -/
def closeBlocks (l : Lexer) (column : Int) : Lexer :=
  if l.inFlow then l else if l.indent < 0 then l else closeTo column l.outer l

/-- Skips blanks, comments and line breaks.  A tab counts as a blank where no
key may start; behind a line break outside brackets one may.  A line may
start with the mark of its encoding, which still takes a column. -/
def skip (flow : Bool) : Bool → Bool → List Spot → Bool × List Spot
  | _, allowed, [] => (allowed, [])
  | comment, allowed, s :: rest =>
      if isBreak s.char then skip flow false (allowed || !flow) rest
      else if comment then skip flow true allowed rest
      else if s.char = ' ' || (s.char = '\t' && (flow || !allowed)) then skip flow false allowed rest
      else if s.column = 0 && isMark s.char then skip flow false allowed rest
      else if s.char = '#' then skip flow true allowed rest
      else (allowed, s :: rest)

/-! ## §2. Tokens. -/

/-- A mark of three characters that starts or ends a document. -/
def boundary (l : Lexer) (t : Token) : Option Lexer :=
  (l.closeBlocks (-1)).dropKey.map fun l => ((l.allowKey false).push t).goTo (l.rest.drop 3)

/-- A directive. -/
def directive (l : Lexer) : Option Lexer := do
  let l ← (l.closeBlocks (-1)).dropKey
  let (t, rest) ← Token.readDirective (l.rest.drop 1)
  return ((l.allowKey false).push t).goTo rest

/-- An opening bracket. -/
def openFlow (l : Lexer) (s : Spot) (t : Token) : Option Lexer :=
  (l.saveKey s).map fun l =>
    { (l.allowKey true).push t with keys := none :: l.keys, rest := l.rest.drop 1 }

/-- A closing bracket. -/
def closeFlow (l : Lexer) (t : Token) : Option Lexer :=
  l.dropKey.map fun l =>
    { (l.allowKey false).push t with
      keys := if l.inFlow then l.keys.drop 1 else l.keys, rest := l.rest.drop 1 }

/-- A comma. -/
def flowEntry (l : Lexer) : Option Lexer :=
  l.dropKey.map fun l => ((l.allowKey true).push .flowEntry).goTo (l.rest.drop 1)

/-- A dash. -/
def blockEntry (l : Lexer) (s : Spot) : Option Lexer :=
  if !l.inFlow && !l.keyAllowed then none
  else
    (l.openBlock s.column l.tokens.length .blockListStart).dropKey.map fun l =>
      ((l.allowKey true).push .blockEntry).goTo (l.rest.drop 1)

/-- A question mark. -/
def keyMark (l : Lexer) (s : Spot) : Option Lexer :=
  if !l.inFlow && !l.keyAllowed then none
  else
    (l.openBlock s.column l.tokens.length .blockMappingStart).dropKey.map fun l =>
      ((l.allowKey !l.inFlow).push .key).goTo (l.rest.drop 1)

/-- A colon. -/
def valueMark (l : Lexer) (s : Spot) : Option Lexer :=
  match l.keys with
  | some k :: more =>
      let l := { l with keys := none :: more }
      let l := (l.insertAt k.before [.key]).openBlock k.spot.column k.before .blockMappingStart
      some (((l.allowKey false).push .value).goTo (l.rest.drop 1))
  | _ =>
      if !l.inFlow && !l.keyAllowed then none
      else
        let l := l.openBlock s.column l.tokens.length .blockMappingStart
        some (((l.allowKey !l.inFlow).push .value).goTo (l.rest.drop 1))

/-- An anchor or an alias. -/
def name (l : Lexer) (s : Spot) (t : String → Token) : Option Lexer := do
  let l ← l.saveKey s
  let (name, rest) ← Token.readName (l.rest.drop 1)
  return ((l.allowKey false).push (t name)).goTo rest

/-- A tag. -/
def tag (l : Lexer) (s : Spot) : Option Lexer := do
  let l ← l.saveKey s
  let (t, rest) ← Token.readTag l.inFlow l.rest
  return ((l.allowKey false).push t).goTo rest

/-- A block scalar. -/
def block (l : Lexer) (literal : Bool) : Option Lexer := do
  let l ← l.dropKey
  let (text, rest) ← blockText literal l.indent (l.rest.drop 1)
  return ((l.allowKey true).push (.scalar false (String.ofList text))).goTo rest

/-- A quoted scalar. -/
def quote (l : Lexer) (s : Spot) (double : Bool) : Option Lexer := do
  let l ← l.saveKey s
  let (text, rest) ← quotedText double (l.rest.length + 1) (l.rest.drop 1)
  return ((l.allowKey false).push (.scalar false (String.ofList text))).goTo rest

/-- A plain scalar; a key may follow if line breaks do. -/
def plainScalar (l : Lexer) (s : Spot) : Option Lexer := do
  let l ← l.saveKey s
  let (text, follows, rest) ← plain l.inFlow (l.indent + 1) (l.rest.length + 1) l.rest
  return ((l.allowKey follows).push (.scalar true (String.ofList text))).goTo rest

/-- Characters that no plain scalar starts with, or only before others. -/
def isIndicator (c : Char) : Bool :=
  c ∈ ['-', '?', ':', ',', '[', ']', '{', '}', '#', '&', '*', '!', '|', '>', '\'', '"', '%', '@', '`']

/-- Whether a plain scalar starts at a spot. -/
def startsPlain (flow : Bool) (s : Spot) (rest : List Spot) : Bool :=
  !(isSpacing s.char || isIndicator s.char)
    || (s.char = '-' && !(rest.head?.map fun t => isBlank t.char).getD false)
    || (!flow && (s.char = '?' || s.char = ':') && !atGap rest)

/-- Reads the token that starts at a spot. -/
def read (l : Lexer) (s : Spot) (rest : List Spot) : Option Lexer :=
  let spots := s :: rest
  if s.column = 0 && s.char = '%' then l.directive
  else if Spot.atMark '-' spots then l.boundary .documentStart
  else if Spot.atMark '.' spots then l.boundary .documentEnd
  else if s.char = '[' then l.openFlow s .flowListStart
  else if s.char = '{' then l.openFlow s .flowMappingStart
  else if s.char = ']' then l.closeFlow .flowListEnd
  else if s.char = '}' then l.closeFlow .flowMappingEnd
  else if s.char = ',' then l.flowEntry
  else if s.char = '-' && atGap rest then l.blockEntry s
  else if s.char = '?' && (l.inFlow || atGap rest) then l.keyMark s
  else if s.char = ':' && (l.inFlow || atGap rest) then l.valueMark s
  else if s.char = '*' then l.name s .alias
  else if s.char = '&' then l.name s .anchor
  else if s.char = '!' then l.tag s
  else if s.char = '|' && !l.inFlow then l.block true
  else if s.char = '>' && !l.inFlow then l.block false
  else if s.char = '\'' then l.quote s false
  else if s.char = '"' then l.quote s true
  else if startsPlain l.inFlow s rest then l.plainScalar s
  else none

/-! ## §3. The whole text. -/

/-- Reads to the end of the text.  Every token takes a character, so their
number bounds the rounds. -/
def run : Nat → Lexer → Option (List Token)
  | 0, _ => none
  | rounds + 1, l =>
      let (allowed, rest) := skip l.inFlow false l.keyAllowed l.rest
      let l := (l.allowKey allowed).goTo rest
      match rest with
      | [] => (l.closeBlocks (-1)).dropKey.map fun l => l.tokens.reverse
      | s :: more => do
          let l ← l.dropStale s
          let l ← (l.closeBlocks s.column).read s more
          run rounds l

/-- The tokens of a text, if it can be cut into tokens. -/
def tokens? (text : String) : Option (List Token) :=
  let cs := text.toList
  if cs.all isAllowed then
    let spots := Spot.place cs
    run (spots.length + 1) { rest := spots }
  else none

end Lexer

end FlowBench.Yaml

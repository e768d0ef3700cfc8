/-
  FlowBench.Url.Host
  ──────────────────
  **Hosts.**

  A host is a domain, or an address of 32 or 128 bits.  A domain whose last
  label is a number is an address of 32 bits, which may be written with
  fewer than four parts and in octal or hexadecimal.  Domains are lower
  case, and their labels ASCII.
-/
import FlowBench.Url.Label

namespace FlowBench.Url

/-- Why a text is no URL. -/
inductive Fault where
  | emptyHost
  | badDomain
  | badService
  | badIpv4
  | badIpv6
  | badCharacter
  /-- There is no scheme. -/
  | relative
  deriving DecidableEq, Repr

/-- The words for a fault. -/
def Fault.message : Fault → String
  | .emptyHost => "empty host"
  | .badDomain => "invalid international domain name"
  | .badService => "invalid port number"
  | .badIpv4 => "invalid IPv4 address"
  | .badIpv6 => "invalid IPv6 address"
  | .badCharacter => "invalid domain character"
  | .relative => "relative URL without a base"

/-- A host. -/
inductive Host where
  | domain (name : String)
  | ipv4 (address : Nat)
  | ipv6 (pieces : List Nat)
  deriving DecidableEq, Repr

namespace Host

/-- Cuts characters at every one that meets a condition. -/
def splitAt (p : Char → Bool) : List Char → List (List Char)
  | [] => [[]]
  | c :: rest =>
      if p c then [] :: splitAt p rest
      else
        match splitAt p rest with
        | part :: parts => (c :: part) :: parts
        | [] => [[c]]

/-! ## §1. Addresses of 32 bits. -/

/-- A number in a base that its beginning tells; none if it is no number. -/
def number? (cs : List Char) : Option Nat :=
  let (base, digits) : Nat × List Char := match cs with
    | '0' :: 'x' :: rest => (16, rest)
    | '0' :: 'X' :: rest => (16, rest)
    | '0' :: c :: rest => (8, c :: rest)
    | _ => (10, cs)
  if cs.isEmpty then none
  else digits.foldlM (fun n c =>
    (hexValue? c).bind fun d => if d < base then some (n * base + d) else none) 0

/-- Whether a domain is an address: its last label, a closing empty one
apart, is a number. -/
def endsInNumber (cs : List Char) : Bool :=
  let labels := (splitAt (· = '.') cs).reverse
  let last := match labels with
    | [] :: last :: _ => last
    | last :: _ => last
    | [] => []
  (!last.isEmpty && last.all Char.isDigit) || (number? last).isSome

/-- Puts the parts of an address together: all but the last are bytes, the
last is the rest. -/
def joinParts (count : Nat) : List Nat → Option Nat
  | [] => none
  | [last] => if last < Nat.pow 256 (5 - count) then some last else none
  | part :: rest =>
      if 255 < part then none
      else (joinParts count rest).map fun n =>
        part * Nat.pow 256 (3 - (count - (rest.length + 1))) + n

/-- An address of 32 bits. -/
def ipv4? (cs : List Char) : Option Nat :=
  let labels := splitAt (· = '.') cs
  let labels := if labels.getLast? = some [] then labels.dropLast else labels
  if 4 < labels.length then none
  else
    match labels.mapM number? with
    | some parts => joinParts parts.length parts
    | none => none

/-! ## §2. Addresses of 128 bits. -/

/-- A piece: one to four hexadecimal digits. -/
def piece? (cs : List Char) : Option Nat :=
  if cs.isEmpty || 4 < cs.length then none
  else cs.foldlM (fun n c => (hexValue? c).map fun d => n * 16 + d) 0

/-- A byte in decimal without needless zeros. -/
def byteNumber? (cs : List Char) : Option Nat :=
  if cs.isEmpty || 3 < cs.length || (1 < cs.length && cs.head? = some '0') then none
  else
    (cs.foldlM (fun (n : Nat) (c : Char) =>
      if c.isDigit then some (n * 10 + (c.toNat - 48)) else none) 0).filter (· < 256)

/-- The two pieces of an address of 32 bits at the end. -/
def lastPieces? (cs : List Char) : Option (List Nat) :=
  match (splitAt (· = '.') cs).mapM byteNumber? with
  | some [a, b, c, d] => some [a * 256 + b, c * 256 + d]
  | _ => none

/-- The pieces of groups between colons; the last may be an address of 32
bits if it ends the whole. -/
def pieces? (ending : Bool) : List (List Char) → Option (List Nat)
  | [] => some []
  | [last] =>
      if ending && last.contains '.' then lastPieces? last else (piece? last).map fun n => [n]
  | group :: rest => do
      let n ← piece? group
      return n :: (← pieces? ending rest)

/-- The pieces of a text between colons. -/
def groups? (ending : Bool) (cs : List Char) : Option (List Nat) :=
  if cs.isEmpty then some [] else pieces? ending (splitAt (· = ':') cs)

/-- What stands before and after the first two colons in a row. -/
def splitGap : List Char → Option (List Char × List Char)
  | ':' :: ':' :: rest => some ([], rest)
  | c :: rest => (splitGap rest).map fun (before, after) => (c :: before, after)
  | [] => none

/-- An address of 128 bits; a gap stands for the pieces that are missing. -/
def ipv6? (cs : List Char) : Option (List Nat) :=
  match splitGap cs with
  | some (before, after) => do
      let front ← groups? false before
      let back ← groups? true after
      if front.length + back.length < 8 then
        return front ++ List.replicate (8 - (front.length + back.length)) 0 ++ back
      else none
  | none => do
      let ps ← pieces? true (splitAt (· = ':') cs)
      if ps.length = 8 then return ps else none

/-- The number of zeros at the start. -/
def leadingZeros (ps : List Nat) : Nat := (ps.takeWhile (· = 0)).length

/-- The length of the longest run of zeros. -/
def longestRun : List Nat → Nat
  | [] => 0
  | p :: rest => max (leadingZeros (p :: rest)) (longestRun rest)

/-- A lower-case hexadecimal numeral. -/
def pieceText (n : Nat) : List Char := Nat.toDigits 16 n

/-- The pieces between colons. -/
def piecesText (ps : List Nat) : List Char := (ps.map pieceText).intersperse [':'] |>.flatten

/-- The pieces before the first run of zeros of a length. -/
def beforeRun (run : Nat) : List Nat → List Nat
  | [] => []
  | p :: rest => if leadingZeros (p :: rest) = run then [] else p :: beforeRun run rest

/-- The text of an address of 128 bits; the first of the longest runs of two
or more zeros is left out. -/
def ipv6Text (ps : List Nat) : List Char :=
  let run := longestRun ps
  if run < 2 then piecesText ps
  else
    let before := beforeRun run ps
    piecesText before ++ [':', ':'] ++ piecesText (ps.drop (before.length + run))

/-! ## §3. Domains. -/

/-- The ASCII form of a domain: its characters are folded and composed, and
cut into labels at the full stops. -/
def domainText? (cs : List Char) : Option (List Char) := do
  let folded ← cs.mapM Folding.fold?
  let labels ← (splitAt (· = '.') (Composition.composed folded.flatten)).mapM Label.ofFolded?
  if Direction.isSound (labels.map Label.chars) then
    some ((labels.map Label.text).intersperse ['.']).flatten
  else none

/-! ## §4. Hosts. -/

/-- An address in brackets. -/
def ofBrackets (cs : List Char) : Except Fault Host :=
  if cs.getLast? = some ']' then
    match ipv6? (cs.drop 1).dropLast with
    | some ps => .ok (.ipv6 ps)
    | none => .error .badIpv6
  else .error .badIpv6

/-- The host of a URL of the web. -/
def parse (cs : List Char) : Except Fault Host :=
  if cs.head? = some '[' then ofBrackets cs
  else
    match (text? (decode cs)).bind domainText? with
    | none => .error .badDomain
    | some name =>
        if name.isEmpty then .error .emptyHost
        else if endsInNumber name then
          match ipv4? name with
          | some n => .ok (.ipv4 n)
          | none => .error .badIpv4
        else .ok (.domain (String.ofList name))

/-- Characters that no other host holds. -/
def isForbiddenElsewhere (c : Char) : Bool :=
  c.toNat = 0
    || c ∈ ['\t', '\n', '\r', ' ', '#', '/', ':', '<', '>', '?', '@', '[', '\\', ']', '^', '|']

/-- The host of any other URL, which is taken as it is. -/
def parseElsewhere (cs : List Char) : Except Fault Host :=
  if cs.head? = some '[' then ofBrackets cs
  else if cs.any isForbiddenElsewhere then .error .badCharacter
  else .ok (.domain (String.ofList (encode controlSet cs)))

/-- The text of an address of 32 bits. -/
def ipv4Text (n : Nat) : String :=
  ".".intercalate ([n / 0x1000000, n / 0x10000 % 256, n / 0x100 % 256, n % 256].map toString)

/-- The text of a host. -/
def text : Host → String
  | .domain name => name
  | .ipv4 n => ipv4Text n
  | .ipv6 ps => "[" ++ String.ofList (ipv6Text ps) ++ "]"

end Host

end FlowBench.Url

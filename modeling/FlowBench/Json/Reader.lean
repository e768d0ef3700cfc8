/-
  FlowBench.Json.Reader
  ─────────────────────
  **Reading values from text.**

  A text is cut into tokens, and the tokens are put together with a stack of
  open brackets.  A repeated key replaces the earlier field, brackets nest
  at most 127 deep, and a text that is not exactly one value is refused.

  An integer numeral within 64 bits is an integer, every other numeral a
  double: the digits are rounded first, at most as many of them as fit 64
  bits, and then scaled by the power of ten.  A numeral beyond the doubles
  is refused.
-/
import FlowBench.Json.Value
import FlowBench.Number.Decimal

namespace FlowBench.Json

/-! ## §1. Numerals. -/

/-- A decimal digit's value. -/
def digitValue (c : Char) : Nat := c.toNat - '0'.toNat

/-- Reads digits into a number for as long as it stays below `2^64`; gives
back the number and the digits left. -/
def takeDigits : Nat → List Char → Nat × List Char
  | acc, [] => (acc, [])
  | acc, c :: rest =>
      if acc * 10 + digitValue c < 0x10000000000000000 then takeDigits (acc * 10 + digitValue c) rest
      else (acc, c :: rest)

/-- The value of a numeral, by its sign, whole digits, fraction digits (if
there is a point) and exponent (if there is one).  Whole digits that do not
fit count as zeros; reading goes on behind the point as long as digits
fit. -/
def numeral (negative : Bool) (whole : List Char) (fraction : Option (List Char))
    (exponent : Option Int) : Option Value :=
  let (digits, beyond) := takeDigits 0 whole
  let plain := fraction.isNone && exponent.isNone
  if plain && beyond.isEmpty && !negative then some (.int digits)
  else if plain && beyond.isEmpty && negative && 0 < digits && digits ≤ 0x8000000000000000 then
    some (.int (-(digits : Int)))
  else
    let places := fraction.getD []
    let (digits, unread) := takeDigits digits places
    let scale : Int := beyond.length + unread.length - places.length
    (Decimal.scaled ⟨negative, digits, scale + exponent.getD 0⟩).map Value.float

/-- Cuts off leading digits. -/
def digitSpan (cs : List Char) : List Char × List Char :=
  (cs.takeWhile Char.isDigit, cs.dropWhile Char.isDigit)

/-- The number written by digits. -/
def naturalOf (digits : List Char) : Nat :=
  digits.foldl (fun n c => n * 10 + digitValue c) 0

/-- Cuts off an exponent, if one starts here. -/
def exponentSpan (cs : List Char) : Option (Option Int × List Char) :=
  match cs with
  | c :: rest =>
      if c = 'e' ∨ c = 'E' then
        let (negative, rest) :=
          match rest with
          | '-' :: r => (true, r)
          | '+' :: r => (false, r)
          | r => (false, r)
        let (digits, rest) := digitSpan rest
        if digits.isEmpty then none
        else
          let n := naturalOf digits
          some (some (if negative then -(n : Int) else n), rest)
      else some (none, cs)
  | [] => some (none, [])

/-- Cuts off a numeral: no needless leading zero, digits on both sides of a
point. -/
def numberSpan (cs : List Char) : Option (Value × List Char) := do
  let (negative, cs) := match cs with
    | '-' :: rest => (true, rest)
    | _ => (false, cs)
  let (whole, rest) := digitSpan cs
  if whole.isEmpty ∨ (whole.head? = some '0' ∧ 1 < whole.length) then none
  let (fraction, rest) ← match rest with
    | '.' :: rest =>
        let (places, rest) := digitSpan rest
        if places.isEmpty then none else some (some places, rest)
    | _ => some (none, rest)
  let (exponent, rest) ← exponentSpan rest
  let value ← numeral negative whole fraction exponent
  return (value, rest)

/-! ## §2. Quoted text. -/

/-- The value of a hexadecimal digit. -/
def hexValue? (c : Char) : Option Nat :=
  if c.isDigit then some (c.toNat - '0'.toNat)
  else if 'a' ≤ c ∧ c ≤ 'f' then some (c.toNat - 'a'.toNat + 10)
  else if 'A' ≤ c ∧ c ≤ 'F' then some (c.toNat - 'A'.toNat + 10)
  else none

/-- The number of four hexadecimal digits. -/
def hex4? (a b c d : Char) : Option Nat := do
  return ((← hexValue? a) * 16 + (← hexValue? b)) * 256 + (← hexValue? c) * 16 + (← hexValue? d)

/-- The text up to the closing quote, and what follows it.  A character
outside the basic plane may be escaped as a pair of surrogates; a single
surrogate and a bare control character are refused. -/
def stringSpan : List Char → Option (List Char × List Char)
  | '"' :: rest => some ([], rest)
  | '\\' :: 'u' :: a :: b :: c :: d :: rest => do
      let n ← hex4? a b c d
      if 0xDC00 ≤ n ∧ n ≤ 0xDFFF then none
      if 0xD800 ≤ n ∧ n ≤ 0xDBFF then
        match rest with
        | '\\' :: 'u' :: e :: f :: g :: h :: rest =>
            let m ← hex4? e f g h
            if 0xDC00 ≤ m ∧ m ≤ 0xDFFF then
              let (text, after) ← stringSpan rest
              return (Char.ofNat (0x10000 + (n - 0xD800) * 0x400 + (m - 0xDC00)) :: text, after)
            else none
        | _ => none
      else
        let (text, after) ← stringSpan rest
        return (Char.ofNat n :: text, after)
  | '\\' :: e :: rest => do
      let c ← match e with
        | '"' => some '"'
        | '\\' => some '\\'
        | '/' => some '/'
        | 'b' => some (Char.ofNat 8)
        | 'f' => some (Char.ofNat 12)
        | 'n' => some '\n'
        | 'r' => some '\r'
        | 't' => some '\t'
        | _ => none
      let (text, after) ← stringSpan rest
      return (c :: text, after)
  | c :: rest => do
      if c.toNat < 0x20 ∨ c = '\\' then none
      let (text, after) ← stringSpan rest
      return (c :: text, after)
  | [] => none

/-! ## §3. Tokens. -/

/-- A lexical unit. -/
inductive Token where
  | openList | closeList | openObject | closeObject | comma | colon
  | text (s : String)
  | scalar (v : Value)

/-- Blanks between tokens. -/
def isGap (c : Char) : Bool := c = ' ' || c = '\n' || c = '\t' || c = '\r'

/-- Cuts off a literal word. -/
def word? (w : List Char) (cs : List Char) : Option (List Char) :=
  if w.isPrefixOf cs then some (cs.drop w.length) else none

/-- The tokens of a text, given at least as many steps as it has
characters. -/
def tokens : Nat → List Char → Option (List Token)
  | _, [] => some []
  | 0, _ => none
  | steps + 1, c :: rest =>
      if isGap c then tokens steps rest
      else
        let next : Option (Token × List Char) :=
          match c with
          | '[' => some (.openList, rest)
          | ']' => some (.closeList, rest)
          | '\x7b' => some (.openObject, rest)
          | '\x7d' => some (.closeObject, rest)
          | ',' => some (.comma, rest)
          | ':' => some (.colon, rest)
          | '"' => (stringSpan rest).map fun (s, after) => (.text (String.ofList s), after)
          | 'n' => (word? "ull".toList rest).map fun after => (.scalar .null, after)
          | 't' => (word? "rue".toList rest).map fun after => (.scalar (.bool true), after)
          | 'f' => (word? "alse".toList rest).map fun after => (.scalar (.bool false), after)
          | _ => (numberSpan (c :: rest)).map fun (v, after) => (.scalar v, after)
        next.bind fun (t, after) => (tokens steps after).map (t :: ·)

/-! ## §4. Values. -/

/-- An open bracket with what it holds so far, the last item first. -/
inductive Frame where
  | list (items : List Value)
  | object (fields : List (String × Value)) (key : String)

/-- What may come next. -/
inductive Expect where
  | item
  | itemOrClose
  | key
  | keyOrClose
  | colon
  | separator
  | nothing
  deriving DecidableEq

/-- Where a reader stands: what it expects, its open brackets from the
inside out, and the value once it is complete. -/
structure Stance where
  expect : Expect
  frames : List Frame
  result : Value

/-- Brackets may be open this many at a time. -/
def maxDepth : Nat := 127

/-- A value is complete: it goes into the innermost bracket. -/
def Stance.place (v : Value) : List Frame → Stance
  | [] => ⟨.nothing, [], v⟩
  | .list items :: outer => ⟨.separator, .list (v :: items) :: outer, .null⟩
  | .object fields key :: outer =>
      ⟨.separator, .object (Entries.insert key v fields) key :: outer, .null⟩

/-- Reads one token. -/
def Stance.step (s : Stance) (t : Token) : Option Stance :=
  let open? (f : Frame) (expect : Expect) : Option Stance :=
    if s.frames.length < maxDepth then some ⟨expect, f :: s.frames, .null⟩ else none
  match s.expect, t, s.frames with
  | .item, .scalar v, fs | .itemOrClose, .scalar v, fs => some (place v fs)
  | .item, .text w, fs | .itemOrClose, .text w, fs => some (place (.str w) fs)
  | .item, .openList, _ | .itemOrClose, .openList, _ => open? (.list []) .itemOrClose
  | .item, .openObject, _ | .itemOrClose, .openObject, _ => open? (.object [] "") .keyOrClose
  | .itemOrClose, .closeList, .list items :: fs
  | .separator, .closeList, .list items :: fs => some (place (.arr items.reverse) fs)
  | .keyOrClose, .closeObject, .object fields _ :: fs
  | .separator, .closeObject, .object fields _ :: fs => some (place (.obj fields) fs)
  | .separator, .comma, .list items :: fs => some ⟨.item, .list items :: fs, .null⟩
  | .separator, .comma, .object fields k :: fs => some ⟨.key, .object fields k :: fs, .null⟩
  | .key, .text w, .object fields _ :: fs
  | .keyOrClose, .text w, .object fields _ :: fs => some ⟨.colon, .object fields w :: fs, .null⟩
  | .colon, .colon, fs => some ⟨.item, fs, .null⟩
  | _, _, _ => none

/-- The one value that a text writes. -/
def read? (text : String) : Option Value := do
  let cs := text.toList
  let ts ← tokens cs.length cs
  let last ← ts.foldlM Stance.step ⟨.item, [], .null⟩
  if last.expect = .nothing then some last.result else none

end FlowBench.Json

/-
  FlowBench.Toml.Scalar
  ─────────────────────
  **TOML scalars.**

  Texts, numbers, and dates and times.  Each reader gives a value and what
  follows it, or nothing.
-/
import FlowBench.Json.Reader
import FlowBench.Number.Decimal
import FlowBench.Toml.Value

namespace FlowBench.Toml

open FlowBench.Json (hexValue? naturalOf)

/-! ## §1. Characters. -/

/-- Whether a character may stand in a text or a comment. -/
def isTextChar (c : Char) : Bool := c = '\t' || (0x20 ≤ c.toNat && c.toNat ≠ 0x7F)

/-- Whether a character may stand in a key without quotes. -/
def isBareChar (c : Char) : Bool := c.isAlphanum || c = '-' || c = '_'

/-- Whether a character parts others on a line. -/
def isGap (c : Char) : Bool := c = ' ' || c = '\t'

/-- What follows a line break. -/
def newline? : List Char → Option (List Char)
  | '\n' :: rest => some rest
  | '\r' :: '\n' :: rest => some rest
  | _ => none

/-- Skips gaps and line breaks. -/
def skipBreaks : List Char → List Char
  | '\r' :: '\n' :: rest => skipBreaks rest
  | c :: rest => if isGap c || c = '\n' then skipBreaks rest else c :: rest
  | [] => []

theorem skipBreaks_length_le (cs : List Char) : (skipBreaks cs).length ≤ cs.length := by
  fun_induction skipBreaks cs with
  | case1 rest ih => simp only [List.length_cons]; omega
  | case2 c rest _ _ ih => simp only [List.length_cons]; omega
  | case3 => exact Nat.le_refl _
  | case4 => exact Nat.le_refl _

/-! ## §2. Texts. -/

/-- The number of hexadecimal digits. -/
def hexNumber? (digits : List Char) : Option Nat :=
  digits.foldlM (fun n c => (hexValue? c).map fun d => n * 16 + d) 0

/-- The character with a number in hexadecimal digits, of which there must be
as many as asked for. -/
def numbered? (count : Nat) (cs : List Char) : Option Char := do
  let digits := cs.take count
  if digits.length < count then none
  let n ← hexNumber? digits
  if n.isValidChar then some (Char.ofNat n) else none

/-- What stands behind a backslash: the character meant, and how many
characters it takes. -/
def escape? : List Char → Option (Char × Nat)
  | 'b' :: _ => some ('\x08', 1)
  | 't' :: _ => some ('\t', 1)
  | 'n' :: _ => some ('\n', 1)
  | 'f' :: _ => some ('\x0c', 1)
  | 'r' :: _ => some ('\r', 1)
  | '"' :: _ => some ('"', 1)
  | '\\' :: _ => some ('\\', 1)
  | 'u' :: rest => (numbered? 4 rest).map fun c => (c, 5)
  | 'U' :: rest => (numbered? 8 rest).map fun c => (c, 9)
  | _ => none

/-- A text with escapes, up to its closing quote. -/
def escapedText : List Char → Option (List Char × List Char)
  | [] => none
  | c :: rest =>
      if c = '"' then some ([], rest)
      else if c = '\\' then do
        let (x, used) ← escape? rest
        let (body, rest) ← escapedText (rest.drop used)
        return (x :: body, rest)
      else if isTextChar c then do
        let (body, rest) ← escapedText rest
        return (c :: body, rest)
      else none
termination_by cs => cs.length
decreasing_by
  all_goals simp only [List.length_drop, List.length_cons]
  all_goals omega

/-- A text as it stands, up to its closing quote. -/
def plainText (cs : List Char) : Option (List Char × List Char) :=
  let body := cs.takeWhile fun c => c ≠ '\'' && isTextChar c
  match cs.drop body.length with
  | '\'' :: rest => some (body, rest)
  | _ => none

/-- A text of several lines, up to its three closing quotes; one or two more
in front of them belong to the text.  With double quotes it has escapes, and
a backslash at the end of a line joins it to the next word. -/
def longText (quote : Char) : List Char → Option (List Char × List Char)
  | [] => none
  | c :: rest =>
      if c = quote then
        let more := (rest.takeWhile (· = quote)).length
        if more < 2 then do
          let (body, rest) ← longText quote (rest.drop more)
          return (List.replicate (more + 1) quote ++ body, rest)
        else if more < 5 then some (List.replicate (more - 2) quote, rest.drop more)
        else none
      else if c = '\\' && quote = '"' then
        if (newline? (rest.dropWhile isGap)).isSome then longText quote (skipBreaks rest)
        else do
          let (x, used) ← escape? rest
          let (body, rest) ← longText quote (rest.drop used)
          return (x :: body, rest)
      else if c = '\r' then
        if rest.head? = some '\n' then longText quote rest else none
      else if isTextChar c || c = '\n' then do
        let (body, rest) ← longText quote rest
        return (c :: body, rest)
      else none
termination_by cs => cs.length
decreasing_by
  all_goals simp only [List.length_drop, List.length_cons]
  all_goals first
    | omega
    | exact Nat.lt_succ_of_le (skipBreaks_length_le _)

/-- A text of several lines, without the line break behind its opening. -/
def longTextFrom (quote : Char) (cs : List Char) : Option (List Char × List Char) :=
  longText quote ((newline? cs).getD cs)

/-- A text on one line. -/
def shortText? : List Char → Option (List Char × List Char)
  | '"' :: rest => escapedText rest
  | '\'' :: rest => plainText rest
  | _ => none

/-- A text. -/
def text? : List Char → Option (List Char × List Char)
  | '"' :: '"' :: '"' :: rest => longTextFrom '"' rest
  | '\'' :: '\'' :: '\'' :: rest => longTextFrom '\'' rest
  | cs => shortText? cs

/-! ## §3. Numbers. -/

/-- More digits, between which there may be single underscores. -/
def moreDigits (isDigit : Char → Bool) : List Char → List Char × List Char
  | '_' :: c :: rest =>
      if isDigit c then
        let (digits, rest) := moreDigits isDigit rest
        (c :: digits, rest)
      else ([], '_' :: c :: rest)
  | c :: rest =>
      if isDigit c then
        let (digits, rest) := moreDigits isDigit rest
        (c :: digits, rest)
      else ([], c :: rest)
  | [] => ([], [])

/-- Digits, between which there may be single underscores. -/
def digits? (isDigit : Char → Bool) : List Char → Option (List Char × List Char)
  | c :: rest =>
      if isDigit c then
        let (digits, rest) := moreDigits isDigit rest
        some (c :: digits, rest)
      else none
  | [] => none

/-- An integer that fits 64 bits with a sign. -/
def integer? (i : Int) : Option Toml :=
  if -0x8000000000000000 ≤ i && i < 0x8000000000000000 then some (.integer i) else none

/-- An integer to a base, behind the sign of the base. -/
def basedInteger (base : Nat) (cs : List Char) : Option (Toml × List Char) := do
  let below (c : Char) : Bool := (hexValue? c).any fun d => d < base
  let (digits, rest) ← digits? below cs
  let n := digits.foldl (fun n c => n * base + (hexValue? c).getD 0) 0
  return (← integer? n, rest)

/-- Cuts off a sign, which tells whether a number is negative. -/
def sign : List Char → Bool × List Char
  | '+' :: rest => (false, rest)
  | '-' :: rest => (true, rest)
  | cs => (false, cs)

/-- Cuts off a fraction, if there is one. -/
def fraction? : List Char → Option (Option (List Char) × List Char)
  | '.' :: rest => (digits? Char.isDigit rest).map fun (ds, rest) => (some ds, rest)
  | cs => some (none, cs)

/-- Cuts off an exponent, if there is one. -/
def exponent? : List Char → Option (Option Int × List Char)
  | c :: cs =>
      if c = 'e' || c = 'E' then do
        let (negative, cs) := sign cs
        let (ds, rest) ← digits? Char.isDigit cs
        let n : Int := naturalOf ds
        return (some (if negative then -n else n), rest)
      else some (none, c :: cs)
  | [] => some (none, [])

/-- A decimal number behind its sign.  One that is greater than every float
is refused. -/
def decimal? (negative : Bool) (cs : List Char) : Option (Toml × List Char) := do
  let (whole, rest) ← digits? Char.isDigit cs
  if whole.head? = some '0' && 1 < whole.length then none
  let (places, rest) ← fraction? rest
  let (exponent, rest) ← exponent? rest
  if places.isNone && exponent.isNone then
    let n : Int := naturalOf whole
    return (← integer? (if negative then -n else n), rest)
  let ds := places.getD []
  let x : Binary64 := Decimal.nearest ⟨negative, naturalOf (whole ++ ds), exponent.getD 0 - ds.length⟩
  if x = .infinite false then none else some (.float x, rest)

/-- A number. -/
def number? : List Char → Option (Toml × List Char)
  | '0' :: 'x' :: rest => basedInteger 16 rest
  | '0' :: 'o' :: rest => basedInteger 8 rest
  | '0' :: 'b' :: rest => basedInteger 2 rest
  | cs =>
      let (negative, cs) := sign cs
      match cs with
      | 'i' :: 'n' :: 'f' :: rest => some (.float (.infinite negative), rest)
      | 'n' :: 'a' :: 'n' :: rest => some (.float .nan, rest)
      | cs => decimal? negative cs

/-! ## §4. Dates and times. -/

/-- A number of exactly so many digits. -/
def fixed? (count : Nat) (cs : List Char) : Option (Nat × List Char) :=
  let digits := cs.take count
  if digits.length = count && digits.all Char.isDigit then some (naturalOf digits, cs.drop count)
  else none

/-- What follows a character. -/
def after? (c : Char) : List Char → Option (List Char)
  | x :: rest => if x = c then some rest else none
  | [] => none

/-- The days of a month. -/
def daysOf (year month : Nat) : Nat :=
  if month = 2 then
    if year % 4 = 0 && (year % 100 ≠ 0 || year % 400 = 0) then 29 else 28
  else if month ∈ [4, 6, 9, 11] then 30
  else 31

/-- What follows a date. -/
def date? (cs : List Char) : Option (List Char) := do
  let (year, cs) ← fixed? 4 cs
  let (month, cs) ← fixed? 2 (← after? '-' cs)
  let (day, cs) ← fixed? 2 (← after? '-' cs)
  if 1 ≤ month && month ≤ 12 && 1 ≤ day && day ≤ daysOf year month then some cs else none

/-- What follows an hour and a minute. -/
def minutes? (cs : List Char) : Option (List Char) := do
  let (hour, cs) ← fixed? 2 cs
  let (minute, cs) ← fixed? 2 (← after? ':' cs)
  if hour < 24 && minute < 60 then some cs else none

/-- What follows a time of day. -/
def time? (cs : List Char) : Option (List Char) := do
  let cs ← minutes? cs
  let (second, cs) ← fixed? 2 (← after? ':' cs)
  if 60 < second then none
  match cs with
  | '.' :: c :: rest => if c.isDigit then some (rest.dropWhile Char.isDigit) else some cs
  | cs => some cs

/-- What follows the distance of a time of day from that of Greenwich, if it
is given. -/
def offset? (cs : List Char) : Option (List Char) :=
  match cs with
  | 'Z' :: rest => some rest
  | 'z' :: rest => some rest
  | '+' :: rest => minutes? rest
  | '-' :: rest => minutes? rest
  | cs => some cs

/-- What follows a date or a time of day or both. -/
def momentEnd? (cs : List Char) : Option (List Char) :=
  match time? cs, date? cs with
  | some rest, _ => some rest
  | none, none => none
  | none, some [] => some []
  | none, some (c :: rest) =>
      if c = 'T' || c = 't' || c = ' ' then
        match time? rest with
        | some rest => offset? rest
        | none => some (c :: rest)
      else some (c :: rest)

/-- Whether a number goes on as a date or as a time. -/
def looksLikeMoment (cs : List Char) : Bool :=
  let after := cs.dropWhile Char.isDigit
  let count := cs.length - after.length
  (count = 4 && after.head? = some '-') || (count = 2 && after.head? = some ':')

/-- A number, a date or a time. -/
def digitsValue? (cs : List Char) : Option (Toml × List Char) :=
  if looksLikeMoment cs then
    (momentEnd? cs).map fun rest =>
      (.moment (String.ofList (cs.take (cs.length - rest.length))), rest)
  else number? cs

/-- A value that does not hold others. -/
def scalar? : List Char → Option (Toml × List Char)
  | 't' :: 'r' :: 'u' :: 'e' :: rest => some (.bool true, rest)
  | 'f' :: 'a' :: 'l' :: 's' :: 'e' :: rest => some (.bool false, rest)
  | c :: rest =>
      if c = '"' || c = '\'' then
        (text? (c :: rest)).map fun (body, rest) => (.text (String.ofList body), rest)
      else digitsValue? (c :: rest)
  | [] => none

end FlowBench.Toml

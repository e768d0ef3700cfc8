/-
  FlowBench.Url.Encoding
  ──────────────────────
  **Percent encoding.**

  A character that may not stand in a part of a URL is written as the bytes
  of its UTF-8 form, each as a percent sign and two hexadecimal digits.  Each
  part of a URL has its own set of such characters; control characters and
  everything beyond ASCII are in all of them.
-/
import FlowBench.Text.Blank

namespace FlowBench.Url

/-! ## §1. Sets. -/

/-- Control characters and everything beyond ASCII. -/
def controlSet (c : Char) : Bool := c.toNat < 0x20 || 0x7F ≤ c.toNat

/-- What is encoded in a fragment. -/
def fragmentSet (c : Char) : Bool := controlSet c || c ∈ [' ', '"', '<', '>', '\x60']

/-- What is encoded in a query; with a scheme of the web an apostrophe is,
too. -/
def querySet (special : Bool) (c : Char) : Bool :=
  controlSet c || c ∈ [' ', '"', '#', '<', '>'] || (special && c = '\'')

/-- What is encoded in a path. -/
def pathSet (c : Char) : Bool := fragmentSet c || c ∈ ['#', '?', '{', '}']

/-- What is encoded in a segment that is added to a path. -/
def segmentSet (special : Bool) (c : Char) : Bool :=
  pathSet c || c = '/' || c = '%' || (special && c = '\\')

/-- What is encoded in the name of a user. -/
def userSet (c : Char) : Bool :=
  pathSet c || c ∈ ['/', ':', ';', '=', '@', '[', '\\', ']', '^', '|']

/-! ## §2. Encoding. -/

/-- An upper-case hexadecimal digit. -/
def hexDigit (n : Nat) : Char := (Nat.digitChar n).toUpper

/-- A byte as a percent sign and two digits. -/
def encodeByte (b : UInt8) : List Char := ['%', hexDigit (b.toNat / 16), hexDigit (b.toNat % 16)]

/-- A character, encoded. -/
def encodeChar (c : Char) : List Char := (String.utf8EncodeChar c).flatMap encodeByte

/-- A text in which the characters of a set are encoded. -/
def encode (set : Char → Bool) (cs : List Char) : List Char :=
  cs.flatMap fun c => if set c then encodeChar c else [c]

/-! ## §3. Decoding. -/

/-- The value of a hexadecimal digit. -/
def hexValue? (c : Char) : Option Nat :=
  if c.isDigit then some (c.toNat - '0'.toNat)
  else if 'a' ≤ c ∧ c ≤ 'f' then some (c.toNat - 'a'.toNat + 10)
  else if 'A' ≤ c ∧ c ≤ 'F' then some (c.toNat - 'A'.toNat + 10)
  else none

/-- The byte that two hexadecimal digits write. -/
def byte? (a b : Char) : Option UInt8 :=
  match hexValue? a, hexValue? b with
  | some x, some y => some (UInt8.ofNat (x * 16 + y))
  | _, _ => none

/-- The bytes that an encoded text writes; a percent sign without two digits
stands for itself. -/
def decode : List Char → List UInt8
  | '%' :: a :: b :: rest =>
      match byte? a b with
      | some x => x :: decode rest
      | none => String.utf8EncodeChar '%' ++ decode (a :: b :: rest)
  | c :: rest => String.utf8EncodeChar c ++ decode rest
  | [] => []

/-- The text of bytes, if they are UTF-8. -/
def text? (bytes : List UInt8) : Option (List Char) :=
  (String.fromUTF8? ⟨bytes.toArray⟩).map String.toList

end FlowBench.Url

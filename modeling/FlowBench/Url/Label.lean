/-
  FlowBench.Url.Label
  ───────────────────
  **Labels of domains.**

  A domain is a row of labels.  Each is kept in an ASCII form: one that is
  ASCII as it is, any other encoded.  A label that comes encoded must say
  what would be encoded that way.
-/
import FlowBench.Url.Direction
import FlowBench.Url.Folding
import FlowBench.Url.Punycode

namespace FlowBench.Url

/-- A label. -/
structure Label where
  /-- Its ASCII form. -/
  text : List Char
  /-- What it says. -/
  chars : List Char
  deriving DecidableEq, Repr

namespace Label

/-- Characters of ASCII that no domain holds. -/
def isForbidden (c : Char) : Bool :=
  c.toNat ≤ 0x20 || c.toNat = 0x7F
    || c ∈ ['#', '%', '/', ':', '<', '>', '?', '@', '[', '\\', ']', '^', '|']

/-- Whether characters are all ASCII. -/
def isPlain (cs : List Char) : Bool := cs.all fun c => c.toNat < 0x80

/-- Whether a label may say something: its joiners and marks are in place,
and it is not too long to be encoded. -/
def isSayable (cs : List Char) : Bool :=
  !cs.any isForbidden && Joining.isSound cs && (isPlain cs || cs.length ≤ 1000)

/-- What an encoded label says, given what follows its mark: characters as
domains are kept in. -/
def decoded? (code : List Char) : Option (List Char) :=
  if code.getLast? = some '-' || code.isEmpty || 2000 < code.length then none
  else
    match Punycode.decode code with
    | some cs =>
        if cs.all Folding.isSettled && Composition.composed cs = cs && !cs.contains '.' then some cs
        else none
    | none => none

/-- The label of folded characters. -/
def ofFolded? (cs : List Char) : Option Label :=
  let label :=
    if Punycode.marker.isPrefixOf cs then
      if isPlain cs then
        (decoded? (cs.drop Punycode.marker.length)).map fun chars => ⟨cs, chars⟩
      else none
    else if isPlain cs then some ⟨cs, cs⟩
    else some ⟨Punycode.marker ++ Punycode.encode cs, cs⟩
  label.filter fun l => isSayable l.chars

end Label

end FlowBench.Url

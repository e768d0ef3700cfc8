/-
  FlowBench.Yaml.Character
  ────────────────────────
  **Character classes.**

  The classes that YAML text is cut by: line breaks, blanks, the characters
  of an anchor's name, those of a tag, those that a text may hold at all,
  and those that need no escape in quotes.
-/

namespace FlowBench.Yaml

/-- Line breaks. -/
def isBreak (c : Char) : Bool :=
  c = '\n' || c = '\r' || c.toNat = 0x85 || c.toNat = 0x2028 || c.toNat = 0x2029

/-- Blanks within a line. -/
def isBlank (c : Char) : Bool := c = ' ' || c = '\t'

/-- Blanks and line breaks. -/
def isSpacing (c : Char) : Bool := c = ' ' || c = '\t' || isBreak c

/-- The mark that tells how a text is encoded, which may start a line. -/
def isMark (c : Char) : Bool := c.toNat = 0xFEFF

/-- Characters of names. -/
def isName (c : Char) : Bool := c.isAlphanum || c = '_' || c = '-'

/-- Characters of a tag; inside angle brackets a few more. -/
def isTagChar (bracketed : Bool) (c : Char) : Bool :=
  isName c || c ∈ [';', '/', '?', ':', '@', '&', '=', '+', '$', '.', '%', '!', '~', '*', '\'', '(', ')']
    || (bracketed && c ∈ [',', '[', ']'])

/-- Brackets and commas of lists and mappings on one line. -/
def isFlowMark (c : Char) : Bool := c ∈ [',', '[', ']', '{', '}']

/-- Characters that may stand in a YAML text. -/
def isAllowed (c : Char) : Bool :=
  let n := c.toNat
  n = 0x09 || n = 0x0A || n = 0x0D || (0x20 ≤ n && n ≤ 0x7E) || n = 0x85
    || (0xA0 ≤ n && n ≤ 0xFFFD) || 0x10000 ≤ n

/-- Characters that stand in a text without an escape. -/
def isPrintable (c : Char) : Bool :=
  let n := c.toNat
  n = 0x0A || (0x20 ≤ n && n ≤ 0x7E)
    || (0xA0 ≤ n && n ≠ 0xFEFF && n ≠ 0xFFFE && n ≠ 0xFFFF)

end FlowBench.Yaml

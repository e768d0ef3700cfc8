/-
  FlowBench.Template
  ──────────────────
  **Texts with spans.**

  A span is `\{\{`, a content without a line break, and the first `}}` that
  follows.  Spans are found from left to right, the leftmost first, and an
  opening that has no close on its line is plain text.  `split` cuts a text
  into its spans and the literals between them; resolving replaces each span
  by the text of what its content refers to, and leaves it as it stands when
  that finds nothing.  What is put in is not read again.
-/
import FlowBench.Reference
import FlowBench.Json.Printer

namespace FlowBench.Template

/-! ## §1. Spans. -/

/-- Reads to the first close on this line: the content, and what follows
the close. -/
def content? : List Char → Option (List Char × List Char)
  | [] => none
  | '}' :: '}' :: after => some ([], after)
  | c :: rest =>
      if c = '\n' then none
      else (content? rest).map fun (body, after) => (c :: body, after)

/-- The span that starts here: its content, and what follows it. -/
def span? : List Char → Option (List Char × List Char)
  | '{' :: '{' :: rest => content? rest
  | _ => none

theorem content?_length {cs body after : List Char} (h : content? cs = some (body, after)) :
    cs.length = body.length + 2 + after.length := by
  fun_induction content? cs generalizing body after with
  | case1 => simp at h
  | case2 after' => simp only [Option.some.injEq, Prod.mk.injEq] at h; simp [← h.1, ← h.2]; omega
  | case3 rest => simp at h
  | case4 c rest hclose hline ih =>
    obtain ⟨⟨body', after'⟩, hrec, heq⟩ := Option.map_eq_some_iff.1 h
    simp only [Prod.mk.injEq] at heq
    have := ih hrec
    simp only [List.length_cons, ← heq.1, ← heq.2]
    omega

theorem span?_length {cs body after : List Char} (h : span? cs = some (body, after)) :
    cs.length = body.length + 4 + after.length := by
  unfold span? at h
  split at h
  · have := content?_length h
    simp only [List.length_cons]
    omega
  · simp at h

/-- A span as it stands in the text. -/
def delimited (body : List Char) : List Char := '{' :: '{' :: body ++ ['}', '}']

/-- A text cut at its spans: each span's content with the literal in front
of it, and the literal after the last. -/
structure Parts where
  spans : List (List Char × List Char)
  last : List Char
  deriving DecidableEq, Repr

/-- Puts a character in front of the first literal. -/
def Parts.push (c : Char) : Parts → Parts
  | ⟨[], last⟩ => ⟨[], c :: last⟩
  | ⟨(literal, body) :: more, last⟩ => ⟨(c :: literal, body) :: more, last⟩

/-- Puts a span in front. -/
def Parts.open (body : List Char) (p : Parts) : Parts := ⟨([], body) :: p.spans, p.last⟩

/-- Cuts a text at its spans. -/
def split (cs : List Char) : Parts :=
  match cs with
  | [] => ⟨[], []⟩
  | c :: rest =>
      match _h : span? (c :: rest) with
      | some (body, after) => (split after).open body
      | none => (split rest).push c
termination_by cs.length
decreasing_by
  · have := span?_length _h; simp only [List.length_cons] at this ⊢; omega
  · simp

/-- The texts of the spans' contents, trimmed. -/
def contents (text : String) : List String :=
  (split text.toList).spans.map fun s => String.ofList (trim s.2)

/-- Whether a text has an opening at all. -/
def hasOpening : List Char → Bool
  | '{' :: '{' :: _ => true
  | _ :: rest => hasOpening rest
  | [] => false

/-! ## §2. Resolving. -/

/-- What a span's content finds; a blank content finds nothing. -/
def find? (clock : String) (u : Context) (body : List Char) : Option Value :=
  let expr := String.ofList (trim body)
  if expr.isEmpty then none else (Reference.parse expr).resolve? clock u

/-- What stands in place of a span. -/
def replacement (clock : String) (u : Context) (body : List Char) : List Char :=
  match find? clock u body with
  | some v => v.render.toList
  | none => delimited body

/-- A resolved text, and the spans that were left in place, in order. -/
structure Resolution where
  text : String
  unresolved : List String
  deriving DecidableEq, Repr

/-- Replaces every span that finds a value.  A text without an opening is its
own resolution. -/
def resolve (clock : String) (u : Context) (text : String) : Resolution :=
  if hasOpening text.toList then
    let p := split text.toList
    { text := String.ofList
        (p.spans.flatMap (fun s => s.1 ++ replacement clock u s.2) ++ p.last)
      unresolved := (p.spans.filter fun s => (find? clock u s.2).isNone).map fun s =>
        String.ofList (delimited s.2) }
  else ⟨text, []⟩

/-! ## §3. References. -/

/-- The references of a text, span by span; blank spans have none. -/
def references (text : String) : List Reference :=
  ((contents text).filter fun expr => !expr.isEmpty).map Reference.parse

/-- The display names that a text refers to, each once, in order. -/
def referencedNames (text : String) : List String :=
  ((references text).filterMap Reference.nodeName?).foldl
    (fun names name => if name ∈ names then names else names ++ [name]) []

end FlowBench.Template

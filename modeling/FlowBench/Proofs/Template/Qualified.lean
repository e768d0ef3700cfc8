/-
  FlowBench.Proofs.Template.Qualified
  ───────────────────────────────────
  **A qualified reference in a text.**

  A name in single quotes may hold anything but its quote and what ends the
  span, and a path anything that stays on its line.  The text made of such a
  reference is one span, and what the span finds is what the path finds in
  the output of the named node: no part of the name or of the path is taken
  for a delimiter, a keyword or the clock.
-/
import FlowBench.Proofs.Reference.Spelling
import FlowBench.Proofs.Template.Resolve
import FlowBench.Proofs.Text.Blank

namespace FlowBench

namespace Template

variable {node path clock : String} {u : Context}

/-! ## §1. One qualified reference. -/

/-- A name and a path that stand in a span as they are: the name between
single quotes, the path up to the blank in front of the close. -/
structure Plain (node path : String) : Prop where
  quote : '\'' ∉ node.toList
  nodeLine : '\n' ∉ node.toList
  nodeClose : ¬ close <:+: node.toList
  pathNonempty : path ≠ ""
  pathLine : '\n' ∉ path.toList
  pathClose : ¬ close <:+: path.toList
  pathEnd : ∀ c, path.toList.getLast? = some c → isBlank c = false

/-- The text made of one qualified reference. -/
def qualifiedText (node path : String) : String :=
  "\x7b\x7b $('" ++ node ++ "').item.json." ++ path ++ " \x7d\x7d"

/-- Its spelling, with neither blanks nor double quotes. -/
def spelled (h : Plain node path) : Reference.Spelling where
  before := []
  quote := '\''
  node := node
  after := []
  path := some path
  before_blank := blank_nil
  quote_eq := .inl rfl
  quote_notMem := h.quote
  after_blank := blank_nil
  onLine := by
    rintro _ ⟨⟩
    exact ⟨h.pathNonempty, h.pathLine⟩

/-- The content of its span. -/
def qualifiedBody (node path : String) : List Char :=
  [' ', '$', '('] ++ '\'' :: (node.toList ++ '\'' :: (Reference.marker ++ '.' ::
    (path.toList ++ [' '])))

theorem qualifiedBody_eq (h : Plain node path) :
    qualifiedBody node path = ' ' :: (spelled h).text ++ [' '] := by
  show _ = ' ' :: '$' :: '(' :: '\'' ::
    (node.toList ++ '\'' :: (Reference.marker ++ '.' :: path.toList)) ++ [' ']
  simp only [qualifiedBody, List.append_assoc, List.cons_append, List.nil_append]

theorem toList_qualifiedText (node path : String) :
    (qualifiedText node path).toList = delimited (qualifiedBody node path) := by
  have hopen : "\x7b\x7b $('".toList = ['{', '{', ' ', '$', '(', '\''] := rfl
  have hmarker : "').item.json.".toList = '\'' :: (Reference.marker ++ ['.']) := rfl
  have hclose : " \x7d\x7d".toList = [' ', '}', '}'] := rfl
  rw [qualifiedText, String.toList_append, String.toList_append, String.toList_append,
    String.toList_append, hopen, hmarker, hclose]
  simp only [delimited, qualifiedBody, List.append_assoc, List.cons_append, List.nil_append]

/-- **The text is one span.**  The name ends in front of a quote and the path
in front of a blank, so a brace at the end of either meets no other. -/
theorem isSpan_qualifiedText (h : Plain node path) :
    IsSpan (qualifiedText node path).toList (qualifiedBody node path) [] := by
  refine ⟨by rw [toList_qualifiedText, List.append_nil], ?_, ?_⟩
  · have hmarker : '\n' ∉ Reference.marker := by decide
    simp [qualifiedBody, h.nodeLine, h.pathLine, hmarker]
  · have hbody : qualifiedBody node path ++ ['}'] = [' ', '$', '('] ++ '\'' :: (node.toList ++
        '\'' :: (Reference.marker ++ '.' :: (path.toList ++ ' ' :: ['}']))) := by
      simp only [qualifiedBody, List.append_assoc, List.cons_append, List.nil_append]
    have hmarker : ¬ close <:+: Reference.marker := by decide +kernel
    have hopen : ¬ close <:+: [' ', '$', '('] := by decide
    have hbrace : ¬ close <:+: ['}'] := by decide
    rw [hbody, close_infix_append_cons_iff (by decide), close_infix_append_cons_iff (by decide),
      close_infix_append_cons_iff (by decide), close_infix_append_cons_iff (by decide)]
    rintro (hin | hin | hin | hin | hin)
    · exact hopen hin
    · exact h.nodeClose hin
    · exact hmarker hin
    · exact h.pathClose hin
    · exact hbrace hin

/-- **The span finds what the path finds in the output of the node.** -/
theorem find?_qualifiedBody (h : Plain node path) :
    find? clock u (qualifiedBody node path) = (u.named.get? node).bind fun v => v.lookup? path := by
  have htrim : trim (qualifiedBody node path) = (spelled h).text := by
    have hblank : ∀ c ∈ [' '], isBlank c = true := by
      intro c hc
      rw [List.mem_singleton.1 hc]
      rfl
    rw [qualifiedBody_eq h]
    show trim ([' '] ++ (spelled h).text ++ [' ']) = _
    refine trim_between hblank hblank ?_ ?_
    · rintro _ ⟨⟩
      decide
    · intro c hc
      have hpath : path.toList ≠ [] := fun hnil =>
        h.pathNonempty (String.toList_eq_nil_iff.1 hnil)
      have htext : (spelled h).text =
          ('$' :: '(' :: '\'' :: (node.toList ++ '\'' :: (Reference.marker ++ ['.']))) ++
            path.toList := by
        show '$' :: '(' :: '\'' ::
          (node.toList ++ '\'' :: (Reference.marker ++ '.' :: path.toList)) = _
        simp only [List.append_assoc, List.cons_append, List.nil_append]
      rw [htext, List.getLast?_append_of_ne_nil _ hpath] at hc
      exact h.pathEnd c hc
  have hne : trim (qualifiedBody node path) ≠ [] := by
    rw [htrim]
    exact List.cons_ne_nil _ _
  have hparse : Reference.parse (String.ofList (spelled h).text) = .qualified node (some path) :=
    Reference.parse_eq_qualified_iff.2 ⟨spelled h, String.toList_ofList.symm, rfl, rfl⟩
  rw [find?_of_trim_ne_nil hne, htrim, hparse]
  rfl

/-! ## §2. The theorem. -/

/-- **A qualified reference is what is spelled as one, in one way.**

The text of a reference is qualified exactly when it has a spelling, which
tells the name and the path; it has one spelling at most; and every other
text is direct.  So a plain name and a plain path, set into the qualified form
between the delimiters, make a text of one span.  It resolves to what the path
finds in the output bound to the name, and to itself where that is nothing. -/
theorem reads_what_is_spelled :
    (∀ (e node : String) (path : Option String), Reference.parse e = .qualified node path ↔
      ∃ s : Reference.Spelling, s.text = e.toList ∧ s.node = node ∧ s.path = path) ∧
    (∀ s t : Reference.Spelling, s.text = t.text → s = t) ∧
    (∀ e : String, (∀ s : Reference.Spelling, s.text ≠ e.toList) →
      Reference.parse e = .direct e) ∧
    ∀ node path : String, Plain node path →
      let text := "\x7b\x7b $('" ++ node ++ "').item.json." ++ path ++ " \x7d\x7d"
      (∃ body, IsSpan text.toList body [] ∧ split text.toList = ⟨[([], body)], []⟩) ∧
        ∀ (clock : String) (u : Context),
          (∀ v, ((u.named.get? node).bind fun w => w.lookup? path) = some v →
            resolve clock u text = ⟨v.render, []⟩) ∧
          (((u.named.get? node).bind fun w => w.lookup? path) = none →
            resolve clock u text = ⟨text, [text]⟩) := by
  refine ⟨fun _ _ _ => Reference.parse_eq_qualified_iff, fun _ _ => Reference.Spelling.text_inj,
    fun _ => Reference.parse_eq_direct, ?_⟩
  intro node path h text
  have hspan : IsSpan text.toList (qualifiedBody node path) [] := isSpan_qualifiedText h
  have hsplit : split text.toList = ⟨[([], qualifiedBody node path)], []⟩ := by
    rw [split_of_isSpan hspan, split]
    rfl
  refine ⟨⟨_, hspan, hsplit⟩, ?_⟩
  intro clock u
  rw [resolve_eq, hsplit]
  constructor
  · intro v hv
    have hfind : find? clock u (qualifiedBody node path) = some v :=
      (find?_qualifiedBody h).trans hv
    simp [Parts.fill, Parts.missing, replacement, hfind]
  · intro hnone
    have hfind : find? clock u (qualifiedBody node path) = none :=
      (find?_qualifiedBody h).trans hnone
    have htext : String.ofList (delimited (qualifiedBody node path)) = text := by
      rw [← toList_qualifiedText, String.ofList_toList]
      rfl
    simp [Parts.fill, Parts.missing, replacement, hfind, htext]

/-- The name and the path hold the delimiters, the marker, quotes, dots and a
keyword; a space in front of the path is part of it. -/
theorem reads_name_of_delimiters :
    let node := "$json.a[0] \").item.json.x \x7b\x7b \x7d"
    let path := " k\x7d.now"
    let text := "\x7b\x7b $('" ++ node ++ "').item.json." ++ path ++ " \x7d\x7d"
    let output : Value := .obj [(" k\x7d", .obj [("now", .str "then")])]
    let u : Context := { named := Table.empty.insert node output }
    Plain node path ∧ (split text.toList).spans.length = 1 ∧
      resolve "12:00" u text = ⟨"then", []⟩ ∧ resolve "12:00" {} text = ⟨text, [text]⟩ := by
  intro node path text output u
  have hplain : Plain node path :=
    { quote := by decide +kernel
      nodeLine := by decide +kernel
      nodeClose := by decide +kernel
      pathNonempty := by decide +kernel
      pathLine := by decide +kernel
      pathClose := by decide +kernel
      pathEnd := by
        intro c hc
        have hlast : path.toList.getLast? = some 'w' := by decide +kernel
        rw [hlast] at hc
        cases hc
        decide }
  have hfound : ((u.named.get? node).bind fun w => w.lookup? path) = some (.str "then") := by
    have hnode : u.named.get? node = some output := by
      rw [Table.get?_insert, if_pos rfl]
    have hpath : Path.parse? path = some [⟨" k\x7d", []⟩, ⟨"now", []⟩] := by decide +kernel
    rw [hnode, Option.bind_some, Value.lookup?, hpath]
    rfl
  obtain ⟨⟨body, -, hsplit⟩, hresolve⟩ := reads_what_is_spelled.2.2.2 node path hplain
  refine ⟨hplain, ?_, (hresolve "12:00" u).1 _ hfound, (hresolve "12:00" {}).2 rfl⟩
  rw [hsplit]
  rfl

/-- A tab is a blank, and quotes may be double; a line break ends the form. -/
example : Reference.parse "$(\t\"A\" ).item.json" = .qualified "A" none ∧
    Reference.parse "$('A').item.json.x\ny" = .direct "$('A').item.json.x\ny" := by
  decide +kernel

end Template

end FlowBench

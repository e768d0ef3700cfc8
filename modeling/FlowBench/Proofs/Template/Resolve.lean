/-
  FlowBench.Proofs.Template.Resolve
  ─────────────────────────────────
  **Resolving fills the spans of the one cut.**

  `Filled` says part by part what a resolved text is and which spans are left
  in place.  It looks at the parts of the text and at what the spans find,
  never at what was put in.  `resolve` and `references` go by the same cut,
  and so does the early return for a text without an opening.
-/
import FlowBench.Proofs.Template.Cut

namespace FlowBench.Template

variable {clock : String} {u : Context} {body : List Char}

/-! ## §1. What a span finds. -/

theorem ofList_trim_isEmpty_iff (body : List Char) :
    (String.ofList (trim body)).isEmpty = true ↔ trim body = [] := by
  rw [String.isEmpty_iff, String.ofList_eq_empty_iff]

/-- A content that is not blank finds what it refers to. -/
theorem find?_of_trim_ne_nil (h : trim body ≠ []) :
    find? clock u body = (Reference.parse (String.ofList (trim body))).resolve? clock u := by
  unfold find?
  show (if _ then _ else _) = _
  rw [if_neg fun hempty => h ((ofList_trim_isEmpty_iff body).1 hempty)]

/-- A blank content finds nothing. -/
theorem find?_of_trim_eq_nil (h : trim body = []) : find? clock u body = none := by
  unfold find?
  show (if _ then _ else _) = _
  rw [if_pos ((ofList_trim_isEmpty_iff body).2 h)]

/-- A span finds what its content, trimmed and not blank, refers to. -/
theorem find?_eq_some_iff {v : Value} :
    find? clock u body = some v ↔
      trim body ≠ [] ∧ (Reference.parse (String.ofList (trim body))).resolve? clock u = some v := by
  by_cases hblank : trim body = []
  · rw [find?_of_trim_eq_nil hblank]
    simp [hblank]
  · rw [find?_of_trim_ne_nil hblank, and_iff_right hblank]

theorem find?_eq_none_iff :
    find? clock u body = none ↔
      trim body = [] ∨ (Reference.parse (String.ofList (trim body))).resolve? clock u = none := by
  by_cases hblank : trim body = []
  · rw [find?_of_trim_eq_nil hblank]
    simp [hblank]
  · rw [find?_of_trim_ne_nil hblank, or_iff_right hblank]

/-! ## §2. Filling the parts of a text. -/

variable (clock u) in
/-- The parts of a text filled in: the text that comes out, and the spans
left in place in order. -/
inductive Filled : Parts → List Char → List String → Prop where
  | last (cs : List Char) : Filled ⟨[], cs⟩ cs []
  /-- A span that finds a value is replaced by its text. -/
  | found {literal body out last : List Char} {spans : List (List Char × List Char)}
      {missing : List String} {v : Value} (hblank : trim body ≠ [])
      (hv : (Reference.parse (String.ofList (trim body))).resolve? clock u = some v)
      (h : Filled ⟨spans, last⟩ out missing) :
      Filled ⟨(literal, body) :: spans, last⟩ (literal ++ v.render.toList ++ out) missing
  /-- A blank span, or one that finds nothing, stays as it stands. -/
  | missed {literal body out last : List Char} {spans : List (List Char × List Char)}
      {missing : List String} (hmiss : trim body = [] ∨
        (Reference.parse (String.ofList (trim body))).resolve? clock u = none)
      (h : Filled ⟨spans, last⟩ out missing) :
      Filled ⟨(literal, body) :: spans, last⟩ (literal ++ delimited body ++ out)
        (String.ofList (delimited body) :: missing)

/-- The text that comes out of parts. -/
def Parts.fill (clock : String) (u : Context) (p : Parts) : List Char :=
  p.spans.flatMap (fun s => s.1 ++ replacement clock u s.2) ++ p.last

/-- The spans of parts that are left in place. -/
def Parts.missing (clock : String) (u : Context) (p : Parts) : List String :=
  (p.spans.filter fun s => (find? clock u s.2).isNone).map fun s => String.ofList (delimited s.2)

theorem filled : ∀ (spans : List (List Char × List Char)) (last : List Char),
    Filled clock u ⟨spans, last⟩ (Parts.fill clock u ⟨spans, last⟩)
      (Parts.missing clock u ⟨spans, last⟩)
  | [], last => .last last
  | (literal, body) :: spans, last => by
    have ih := filled spans last
    unfold Parts.fill Parts.missing at *
    rw [List.flatMap_cons, List.filter_cons, List.append_assoc]
    unfold replacement at *
    cases hfind : find? clock u body with
    | some v =>
      obtain ⟨hblank, hv⟩ := find?_eq_some_iff.1 hfind
      exact .found hblank hv ih
    | none => exact .missed (find?_eq_none_iff.1 hfind) ih

/-- What comes out is told by the parts. -/
theorem Filled.unique {p : Parts} {out out' : List Char} {missing missing' : List String}
    (h : Filled clock u p out missing) (h' : Filled clock u p out' missing') :
    out = out' ∧ missing = missing' := by
  induction h generalizing out' missing' with
  | last cs =>
    cases h'
    exact ⟨rfl, rfl⟩
  | found hblank hv _ ih =>
    cases h' with
    | found _ hv' hrest =>
      obtain ⟨rfl, rfl⟩ := ih hrest
      rw [hv] at hv'
      cases hv'
      exact ⟨rfl, rfl⟩
    | missed hmiss _ =>
      rcases hmiss with hmiss | hmiss
      · exact absurd hmiss hblank
      · rw [hv] at hmiss
        cases hmiss
  | missed hmiss _ ih =>
    cases h' with
    | found hblank' hv' _ =>
      rcases hmiss with hmiss | hmiss
      · exact absurd hmiss hblank'
      · rw [hmiss] at hv'
        cases hv'
    | missed _ hrest =>
      obtain ⟨rfl, rfl⟩ := ih hrest
      exact ⟨rfl, rfl⟩

theorem filled_iff {p : Parts} {out : List Char} {missing : List String} :
    Filled clock u p out missing ↔ out = p.fill clock u ∧ missing = p.missing clock u := by
  constructor
  · intro h
    exact h.unique (filled p.spans p.last)
  · rintro ⟨rfl, rfl⟩
    exact filled p.spans p.last

/-- A span that finds nothing stays as it stands. -/
theorem replacement_of_missed (h : find? clock u body = none) :
    replacement clock u body = delimited body := by
  unfold replacement
  rw [h]

/-- A span that finds nothing is among the missing. -/
theorem Parts.mem_missing {p : Parts} {s : List Char × List Char} (hs : s ∈ p.spans)
    (h : find? clock u s.2 = none) : String.ofList (delimited s.2) ∈ p.missing clock u := by
  refine List.mem_map.2 ⟨s, List.mem_filter.2 ⟨hs, ?_⟩, rfl⟩
  rw [h]
  rfl

/-- A span that finds nothing stands between what comes out of the parts in
front of it and of those behind it, and is among the missing. -/
theorem Parts.fill_of_missed {spans after : List (List Char × List Char)}
    {literal last : List Char} (h : find? clock u body = none) :
    Parts.fill clock u ⟨spans ++ (literal, body) :: after, last⟩ =
        Parts.fill clock u ⟨spans, literal⟩ ++ delimited body ++
          Parts.fill clock u ⟨after, last⟩ ∧
      String.ofList (delimited body) ∈
        Parts.missing clock u ⟨spans ++ (literal, body) :: after, last⟩ := by
  constructor
  · unfold Parts.fill
    rw [List.flatMap_append, List.flatMap_cons, replacement_of_missed h]
    simp only [List.append_assoc]
  · have hs : (literal, body) ∈ spans ++ (literal, body) :: after :=
      List.mem_append_right spans List.mem_cons_self
    exact Parts.mem_missing (s := (literal, body)) hs h

/-! ## §3. Resolving. -/

/-- A text without an opening is one literal. -/
theorem split_of_no_opening {text : String} (h : hasOpening text.toList = false) :
    split text.toList = ⟨[], text.toList⟩ := by
  refine split_of_spanless (spanless_of_no_opening fun hinfix => ?_)
  rw [hasOpening_iff.2 hinfix] at h
  cases h

/-- **Resolving goes by the cut**, also where it returns early. -/
theorem resolve_eq (text : String) :
    resolve clock u text =
      ⟨String.ofList ((split text.toList).fill clock u), (split text.toList).missing clock u⟩ := by
  unfold resolve
  cases h : hasOpening text.toList with
  | true => rfl
  | false =>
    rw [split_of_no_opening h]
    show (⟨text, []⟩ : Resolution) = ⟨String.ofList text.toList, []⟩
    rw [String.ofList_toList]

theorem filled_resolve_iff {text : String} {out : List Char} {missing : List String} :
    Filled clock u (split text.toList) out missing ↔
      out = (resolve clock u text).text.toList ∧ missing = (resolve clock u text).unresolved := by
  rw [filled_iff, resolve_eq]
  show _ ↔ out = (String.ofList _).toList ∧ _
  rw [String.toList_ofList]

/-- The references are those of the spans that are not blank. -/
theorem references_eq (text : String) :
    references text =
      (((split text.toList).spans.map fun s => trim s.2).filter fun expr => expr ≠ []).map
        fun expr => Reference.parse (String.ofList expr) := by
  unfold references contents
  generalize (split text.toList).spans = spans
  induction spans with
  | nil => rfl
  | cons s rest ih =>
    rw [List.map_cons, List.filter_cons, List.map_cons, List.filter_cons]
    by_cases hblank : trim s.2 = []
    · have hempty := (ofList_trim_isEmpty_iff s.2).2 hblank
      rw [hempty]
      simpa [hblank] using ih
    · have hempty := Bool.eq_false_iff.2 fun h => hblank ((ofList_trim_isEmpty_iff s.2).1 h)
      rw [hempty]
      simpa [hblank] using ih

/-- **A text has one decomposition, and everything goes by it.**  The text is
cut at its spans in exactly one way, with no span left in a literal.  What
comes out of resolving, and the spans it reports, are the parts filled in;
the references are those of the same spans; and a text without an opening,
which is returned at once, is a single literal that comes out as it is. -/
theorem resolves_by_the_one_cut (text : String) :
    ∃ p, Cut text.toList p ∧ (∀ q, Cut text.toList q → q = p) ∧
      p.text = text.toList ∧ (∀ s ∈ p.spans, Spanless s.1) ∧ Spanless p.last ∧
      (∀ clock u out missing, Filled clock u p out missing ↔
        out = (resolve clock u text).text.toList ∧
          missing = (resolve clock u text).unresolved) ∧
      references text =
        ((p.spans.map fun s => trim s.2).filter fun expr => expr ≠ []).map
          (fun expr => Reference.parse (String.ofList expr)) ∧
      (¬ ['{', '{'] <:+: text.toList → p = ⟨[], text.toList⟩ ∧
        ∀ clock u, resolve clock u text = ⟨text, []⟩) := by
  -- everything is said of the cut that `split` finds, which is the only one
  have hcut := cut_split text.toList
  refine ⟨split text.toList, hcut, fun q hq => (cut_iff.1 hq).symm, hcut.text_eq,
    hcut.spanless.1, hcut.spanless.2, fun _ _ _ _ => filled_resolve_iff, references_eq text, ?_⟩
  intro hopening
  have hnone : hasOpening text.toList = false :=
    Bool.eq_false_iff.2 fun h => hopening (hasOpening_iff.1 h)
  refine ⟨split_of_no_opening hnone, fun clock u => ?_⟩
  unfold resolve
  rw [hnone]
  rfl

/-- The leftmost opening is taken, and the first close ends the span. -/
example : split ['}', '{', '{', '{', 'A', '}', '}', '}'] = ⟨[(['}'], ['{', 'A'])], ['}']⟩ := by
  decide +kernel

/-- A span that finds a value is replaced, and what the value spells is not
looked into; a span that finds nothing is kept. -/
example :
    let u : Context :=
      { named := Table.ofList [("A", .object [("x", .str "{{ B }}")]), ("B", .bool true)] }
    let r := resolve "" u "{{ A.x }}, {{ A.y }}"
    r.text = "{{ B }}, {{ A.y }}" ∧ r.unresolved = ["{{ A.y }}"] := by
  decide +kernel

end FlowBench.Template

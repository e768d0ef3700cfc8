/-
  FlowBench.Proofs.Template.Dependency
  ────────────────────────────────────
  **A text depends on the names that it refers to.**

  `referencedNames` tells from a text alone which nodes it reads.  Nothing
  else comes in: two contexts with the same ordered outputs that bind those
  names alike, and the three keys that no reference names, give the same
  text and leave the same spans.  The extractor cuts the name off the text of
  a path and the resolver takes it off the path's first segment, so the step
  that carries the proof is that each key looked up is named or is one of the
  three (`root_key_of_parse?`).
-/
import FlowBench.Proofs.Context
import FlowBench.Proofs.Template.Resolve

namespace FlowBench

/-- The keys that a path may start at without naming a node: the keywords,
and the empty key of a path that starts with a bracket. -/
def unnamedKeys : List String := [jsonKey, inputKey, ""]

/-- Two contexts have the same ordered outputs, and bind some names alike. -/
structure Context.AgreeOn (names : List String) (u v : Context) : Prop where
  ordered : u.ordered = v.ordered
  named : ∀ name ∈ names, u.named.get? name = v.named.get? name

variable {u v : Context} {names : List String}

/-! ## §1. One reference. -/

/-- A key of the merged view is bound by what has the key's name and by the
ordered outputs. -/
theorem Context.AgreeOn.root?_eq (h : AgreeOn names u v) {key : String} (hkey : key ∈ names) :
    u.root? key = v.root? key := by
  rw [u.root?_eq, v.root?_eq, h.ordered, h.named key hkey]

namespace Reference

/-- **The key that a direct path starts at is named, or one of the three.** -/
theorem root_key_of_parse? {path : String} {head : Segment} {rest : List Segment}
    (hparse : Path.parse? path = some (head :: rest)) (hnow : path ≠ nowPath) :
    head.key ∈ unnamedKeys ∨ (direct path).nodeName? = some head.key := by
  by_cases hkey : head.key ∈ unnamedKeys
  · exact .inl hkey
  · simp only [unnamedKeys, List.mem_cons, List.not_mem_nil, or_false, not_or] at hkey
    obtain ⟨hjson, hinput, hempty⟩ := hkey
    right
    rw [nodeName?_direct_eq_some_iff]
    exact ⟨head, rest, hparse, rfl, hempty, hinput, hjson, hnow⟩

/-- A reference finds the same wherever its name and the three keys are bound
alike. -/
theorem resolve?_congr {r : Reference} (h : Context.AgreeOn (unnamedKeys ++ names) u v)
    (hname : ∀ name, r.nodeName? = some name → name ∈ names) (clock : String) :
    r.resolve? clock u = r.resolve? clock v := by
  cases r with
  | qualified node path =>
    have hnode : u.named.get? node = v.named.get? node :=
      h.named node (List.mem_append_right _ (hname node rfl))
    cases path with
    | none => exact hnode
    | some path =>
      show (u.named.get? node).bind _ = (v.named.get? node).bind _
      rw [hnode]
  | direct path =>
    show u.resolve? clock path = v.resolve? clock path
    by_cases hnow : path = nowPath
    · -- the clock is read from neither
      rw [hnow, u.resolve?_nowPath, v.resolve?_nowPath]
    · cases hparse : Path.parse? path with
      | none => rw [u.resolve?_of_malformed hparse hnow, v.resolve?_of_malformed hparse hnow]
      | some segments =>
        obtain ⟨head, rest, rfl⟩ := Path.exists_head hparse
        rw [u.resolve?_of_parse? hparse hnow, v.resolve?_of_parse? hparse hnow]
        have hkey : head.key ∈ unnamedKeys ++ names := by
          rcases root_key_of_parse? hparse hnow with hkey | hkey
          · exact List.mem_append_left _ hkey
          · exact List.mem_append_right _ (hname head.key hkey)
        rw [h.root?_eq hkey]

end Reference

/-! ## §2. The names of a text. -/

namespace Template

/-- Names are put together once each, and none is lost. -/
theorem mem_foldl_once {found : List String} {name : String} : ∀ {names : List String},
    name ∈ found.foldl (fun names name => if name ∈ names then names else names ++ [name]) names ↔
      name ∈ names ∨ name ∈ found := by
  -- the names put together so far stay general
  induction found with
  | nil => simp
  | cons first rest ih =>
    intro names
    rw [List.foldl_cons, ih]
    by_cases hfirst : first ∈ names
    · rw [if_pos hfirst, List.mem_cons]
      constructor
      · rintro (h | h)
        · exact .inl h
        · exact .inr (.inr h)
      · rintro (h | rfl | h)
        · exact .inl h
        · exact .inl hfirst
        · exact .inr h
    · rw [if_neg hfirst, List.mem_append, List.mem_singleton, List.mem_cons, or_assoc]

/-- A text refers to the names of its references. -/
theorem mem_referencedNames_iff {text name : String} :
    name ∈ referencedNames text ↔ ∃ r ∈ references text, r.nodeName? = some name := by
  unfold referencedNames
  rw [mem_foldl_once, List.mem_filterMap]
  simp

/-- A blank content names nothing. -/
theorem nodeName?_blank : (Reference.parse (String.ofList [])).nodeName? = none := by
  decide +kernel

/-- The name that a span of a text reads is among those of the text. -/
theorem mem_referencedNames_of_span {text : String} {s : List Char × List Char}
    (hs : s ∈ (split text.toList).spans) {name : String}
    (hname : (Reference.parse (String.ofList (trim s.2))).nodeName? = some name) :
    name ∈ referencedNames text := by
  -- a span that names something is not blank, so it is among the references
  have hblank : trim s.2 ≠ [] := by
    intro hblank
    rw [hblank, nodeName?_blank] at hname
    cases hname
  rw [mem_referencedNames_iff, references_eq]
  refine ⟨_, List.mem_map.2 ⟨trim s.2, ?_, rfl⟩, hname⟩
  exact List.mem_filter.2 ⟨List.mem_map.2 ⟨s, hs, rfl⟩, by simpa using hblank⟩

/-! ## §3. The theorem. -/

variable {clock : String}

/-- The spans of a text find the same wherever its names are bound alike. -/
theorem find?_congr {text : String} (h : Context.AgreeOn (unnamedKeys ++ referencedNames text) u v)
    {s : List Char × List Char} (hs : s ∈ (split text.toList).spans) :
    find? clock u s.2 = find? clock v s.2 := by
  have hreference :=
    Reference.resolve?_congr h (fun name hname => mem_referencedNames_of_span hs hname) clock
  unfold find?
  show (if _ then _ else Reference.resolve? clock u _) =
    if _ then _ else Reference.resolve? clock v _
  rw [hreference]

variable {p : Parts}

/-- What comes out of parts is told by what their spans find. -/
theorem Parts.fill_congr (h : ∀ s ∈ p.spans, find? clock u s.2 = find? clock v s.2) :
    p.fill clock u = p.fill clock v := by
  unfold Parts.fill
  congr 1
  apply List.flatMap_congr
  intro s hs
  unfold replacement
  rw [h s hs]

theorem Parts.missing_congr (h : ∀ s ∈ p.spans, find? clock u s.2 = find? clock v s.2) :
    p.missing clock u = p.missing clock v := by
  unfold Parts.missing
  congr 1
  apply List.filter_congr
  intro s hs
  rw [h s hs]

/-- **What a text resolves to depends on the names that it refers to.**

Contexts with the same ordered outputs that bind the referenced names alike,
and `$json`, `$input` and the empty name, resolve the text to the same text
and leave the same spans of it, at the same reading of the clock.  A span that
reads a name finds nothing in any context that does not bind the name: it is
left as it stands, and reported. -/
theorem resolve_depends_on_referenced_names (text clock : String) :
    (∀ u v : Context, u.ordered = v.ordered →
      (∀ name ∈ referencedNames text, u.named.get? name = v.named.get? name) →
      (∀ key ∈ [jsonKey, inputKey, ""], u.named.get? key = v.named.get? key) →
        (resolve clock u text).text = (resolve clock v text).text ∧
          (resolve clock u text).unresolved = (resolve clock v text).unresolved) ∧
    ∀ s ∈ (split text.toList).spans, ∀ name,
      (Reference.parse (String.ofList (trim s.2))).nodeName? = some name →
        name ∈ referencedNames text ∧
          ∀ u : Context, u.named.get? name = none →
            find? clock u s.2 = none ∧ replacement clock u s.2 = delimited s.2 ∧
              String.ofList (delimited s.2) ∈ (resolve clock u text).unresolved := by
  constructor
  · intro u v hordered hnames hkeys
    have hagree : Context.AgreeOn (unnamedKeys ++ referencedNames text) u v := by
      refine ⟨hordered, ?_⟩
      intro name hname
      rcases List.mem_append.1 hname with hname | hname
      · exact hkeys name hname
      · exact hnames name hname
    have hfind : ∀ s ∈ (split text.toList).spans, find? clock u s.2 = find? clock v s.2 :=
      fun s hs => find?_congr hagree hs
    rw [resolve_eq, resolve_eq]
    constructor
    · exact congrArg String.ofList (Parts.fill_congr hfind)
    · exact Parts.missing_congr hfind
  · intro s hs name hname
    refine ⟨mem_referencedNames_of_span hs hname, ?_⟩
    intro u hnone
    have hmiss : find? clock u s.2 = none :=
      find?_eq_none_iff.2 (.inr (Reference.resolve?_eq_none hname hnone clock))
    refine ⟨hmiss, replacement_of_missed hmiss, ?_⟩
    rw [resolve_eq]
    exact Parts.mem_missing hs hmiss

/-- Contexts that bind `E` apart show a text that does not refer to it alike,
in either form of reference; the span of `D`, which neither binds, stays. -/
theorem resolve_ignores_unreferenced_name :
    let text := "{{ A.x }} \x7b\x7b $('B.C').item.json \x7d\x7d {{ $json }} {{ D }}"
    let shared : Table Value :=
      (Table.empty.insert "A" (.obj [("x", .str "1")])).insert "B.C" (.str "2")
    let u : Context := { ordered := [.str "3"], named := shared }
    let v : Context := { ordered := [.str "3"], named := shared.insert "E" .null }
    (∀ name ∈ referencedNames text, u.named.get? name = v.named.get? name) ∧
      (∀ key ∈ [jsonKey, inputKey, ""], u.named.get? key = v.named.get? key) ∧
      (resolve "" u text).text = "1 2 3 {{ D }}" ∧ (resolve "" v text).text = "1 2 3 {{ D }}" ∧
      ∀ w : Context, w.named.get? "D" = none →
        "{{ D }}" ∈ (resolve "" w text).unresolved := by
  intro text shared u v
  have hreferenced : referencedNames text = ["A", "B.C", "D"] := by decide +kernel
  have hother : ∀ name, name ≠ "E" → u.named.get? name = v.named.get? name := by
    intro name hne
    show shared.get? name = (shared.insert "E" .null).get? name
    rw [shared.get?_insert "E" name, if_neg hne]
  have hnames : ∀ name ∈ referencedNames text, u.named.get? name = v.named.get? name := by
    intro name hname
    apply hother
    rw [hreferenced] at hname
    rintro rfl
    exact absurd hname (by decide)
  have hkeys : ∀ key ∈ [jsonKey, inputKey, ""], u.named.get? key = v.named.get? key := by
    intro key hkey
    apply hother
    rintro rfl
    exact absurd hkey (by decide)
  obtain ⟨hsame, hspans⟩ := resolve_depends_on_referenced_names text ""
  have hu : (resolve "" u text).text = "1 2 3 {{ D }}" := by decide +kernel
  refine ⟨hnames, hkeys, hu, ?_, ?_⟩
  · rw [← (hsame u v rfl hnames hkeys).1]
    exact hu
  · intro w hnone
    have hspan : ([' '], " D ".toList) ∈ (split text.toList).spans := by decide +kernel
    obtain ⟨-, hmiss⟩ := hspans _ hspan "D" (by decide +kernel)
    exact (hmiss w hnone).2.2

end Template

end FlowBench

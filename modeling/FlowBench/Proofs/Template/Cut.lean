/-
  FlowBench.Proofs.Template.Cut
  ─────────────────────────────
  **A text is cut in one way.**

  `IsSpan` says what a span is without reading it: an opening, a content on
  one line, and the first close that follows.  `Cut` says what it is to cut a
  text at its spans: the leftmost span is taken, then the leftmost of what
  follows it, until there is none.  There is exactly one way to do so, the
  one that `split` finds (`cut_iff`), and no literal has a span in it.
-/
import FlowBench.Template

namespace FlowBench.Template

/-! ## §1. Spans. -/

/-- The closing of a span. -/
def close : List Char := ['}', '}']

/-- A text starts with a span: `body` is its content, up to the first close
and without a line break, and `after` is what follows it. -/
def IsSpan (cs body after : List Char) : Prop :=
  cs = delimited body ++ after ∧ '\n' ∉ body ∧ ¬ close <:+: body ++ ['}']

/-- A text starts with a span. -/
def Opens (cs : List Char) : Prop := ∃ body after, IsSpan cs body after

/-- There is no span anywhere in a text. -/
def Spanless (cs : List Char) : Prop := ∀ s, s <:+ cs → ¬ Opens s

/-- No close comes before the one behind the content: not at its start, nor
further on. -/
theorem not_close_infix_cons_iff {c : Char} {body : List Char} :
    ¬ close <:+: (c :: body) ++ ['}'] ↔
      (c = '}' → (body ++ ['}']).head? ≠ some '}') ∧ ¬ close <:+: body ++ ['}'] := by
  rw [List.cons_append, List.infix_cons_iff, not_or]
  refine and_congr_left fun _ => ?_
  unfold close
  cases body with
  | nil => simp [List.cons_prefix_cons, eq_comm]
  | cons d rest => simp [List.cons_prefix_cons, eq_comm]

/-- A close lies on one side of a character that is none of its own. -/
theorem close_infix_append_cons_iff {cs ds : List Char} {c : Char} (hc : c ≠ '}') :
    close <:+: cs ++ c :: ds ↔ close <:+: cs ∨ close <:+: ds := by
  have hhead : ∀ {l : List Char}, l <+: c :: ds → l <:+ close → l = [] := by
    intro l hl hclose
    cases l with
    | nil => rfl
    | cons d l =>
      rw [List.cons_prefix_cons] at hl
      have hmem : d ∈ close := hclose.subset List.mem_cons_self
      simp only [close, List.mem_cons, List.not_mem_nil, or_false, or_self] at hmem
      exact absurd (hl.1.symm.trans hmem) hc
  rw [List.infix_append_iff, List.infix_cons_iff]
  constructor
  · rintro (h | (h | h) | ⟨l, l', heq, hl, hl'⟩)
    · exact .inl h
    · exact absurd (hhead h (List.suffix_refl _)) (by decide)
    · exact .inr h
    · -- what lies behind the character is no part of the close
      obtain rfl := hhead hl' ⟨l, heq.symm⟩
      rw [List.append_nil] at heq
      exact .inl (heq ▸ hl.isInfix)
  · rintro (h | h)
    · exact .inl h
    · exact .inr (.inl (.inr h))

theorem head?_append_close (body after : List Char) :
    (body ++ close ++ after).head? = (body ++ ['}']).head? := by
  cases body <;> rfl

/-- What is read is a content up to the first close. -/
theorem content?_sound {cs body after : List Char} (h : content? cs = some (body, after)) :
    cs = body ++ close ++ after ∧ '\n' ∉ body ∧ ¬ close <:+: body ++ ['}'] := by
  fun_induction content? cs generalizing body after with
  | case1 => cases h
  | case2 after' =>
    cases h
    exact ⟨rfl, List.not_mem_nil, by decide⟩
  | case3 rest => cases h
  | case4 c rest hclose hline ih =>
    obtain ⟨⟨body', after'⟩, hrec, heq⟩ := Option.map_eq_some_iff.1 h
    cases heq
    obtain ⟨rfl, hbody, hfirst⟩ := ih hrec
    refine ⟨rfl, List.not_mem_cons_of_ne_of_not_mem (Ne.symm hline) hbody, ?_⟩
    rw [not_close_infix_cons_iff]
    refine ⟨fun hc hhead => ?_, hfirst⟩
    -- two braces here would have been read as the close
    rw [← head?_append_close body' after, List.head?_eq_some_iff] at hhead
    obtain ⟨ys, hys⟩ := hhead
    exact hclose ys hc hys

/-- A content up to the first close is read. -/
theorem content?_append : ∀ {body : List Char} (after : List Char), '\n' ∉ body →
    ¬ close <:+: body ++ ['}'] → content? (body ++ close ++ after) = some (body, after)
  | [], _, _, _ => rfl
  | c :: body, after, hline, hfirst => by
    rw [List.mem_cons, not_or] at hline
    rw [not_close_infix_cons_iff] at hfirst
    -- the reader does not stop here, since no close starts here
    have hclose : ∀ ys, c = '}' → body ++ close ++ after = '}' :: ys → False := by
      intro ys hc hys
      refine hfirst.1 hc ?_
      rw [← head?_append_close body after, hys]
      rfl
    show content? (c :: (body ++ close ++ after)) = _
    rw [content?.eq_3 _ _ hclose, if_neg (Ne.symm hline.1),
      content?_append after hline.2 hfirst.2]
    rfl

/-- **What `span?` reads is a span, and it reads every span.** -/
theorem span?_eq_some_iff {cs body after : List Char} :
    span? cs = some (body, after) ↔ IsSpan cs body after := by
  have hdelimited : ∀ body after,
      delimited body ++ after = '{' :: '{' :: (body ++ close ++ after) := fun _ _ => rfl
  unfold IsSpan
  rw [hdelimited]
  constructor
  · intro h
    unfold span? at h
    split at h
    · obtain ⟨rfl, hrest⟩ := content?_sound h
      exact ⟨rfl, hrest⟩
    · cases h
  · rintro ⟨rfl, hline, hfirst⟩
    exact content?_append after hline hfirst

theorem span?_eq_none_iff {cs : List Char} : span? cs = none ↔ ¬ Opens cs := by
  unfold Opens
  rw [Option.eq_none_iff_forall_ne_some]
  constructor
  · rintro h ⟨body, after, hspan⟩
    exact h (body, after) (span?_eq_some_iff.2 hspan)
  · rintro h ⟨body, after⟩ hspan
    exact h ⟨body, after, span?_eq_some_iff.1 hspan⟩

theorem not_opens_nil : ¬ Opens [] := by
  rintro ⟨body, after, heq, -⟩
  cases heq

/-- What follows does not matter for a span. -/
theorem Opens.append {cs : List Char} (h : Opens cs) (more : List Char) : Opens (cs ++ more) := by
  obtain ⟨body, after, rfl, hrest⟩ := h
  exact ⟨body, after ++ more, by rw [List.append_assoc], hrest⟩

/-! ## §2. Cutting. -/

/-- A text cut at its spans: the leftmost span is the next, and what follows
it is cut in the same way. -/
inductive Cut : List Char → Parts → Prop where
  | plain {cs : List Char} (h : Spanless cs) : Cut cs ⟨[], cs⟩
  | span {literal rest body after : List Char} {p : Parts}
      (hleft : ∀ s, s ≠ [] → s <:+ literal → ¬ Opens (s ++ rest))
      (hspan : IsSpan rest body after) (h : Cut after p) :
      Cut (literal ++ rest) ⟨(literal, body) :: p.spans, p.last⟩

/-- The text of which these are the parts. -/
def Parts.text (p : Parts) : List Char :=
  p.spans.flatMap (fun s => s.1 ++ delimited s.2) ++ p.last

theorem Cut.text_eq {cs : List Char} {p : Parts} (h : Cut cs p) : p.text = cs := by
  induction h with
  | plain => rfl
  | @span literal rest body after p _ hspan _ ih =>
    unfold Parts.text at ih ⊢
    rw [List.flatMap_cons, List.append_assoc, ih, hspan.1, List.append_assoc]

/-- No literal of a cut has a span in it. -/
theorem Cut.spanless {cs : List Char} {p : Parts} (h : Cut cs p) :
    (∀ s ∈ p.spans, Spanless s.1) ∧ Spanless p.last := by
  induction h with
  | plain h => exact ⟨by simp, h⟩
  | @span literal rest body after p hleft _ _ ih =>
    refine ⟨List.forall_mem_cons.2 ⟨fun s hs hopens => ?_, ih.1⟩, ih.2⟩
    -- a span inside the literal would be further left than the one taken
    by_cases hnil : s = []
    · rw [hnil] at hopens
      exact not_opens_nil hopens
    · exact hleft s hnil hs (hopens.append rest)

/-! ## §3. The one cut. -/

theorem split_of_isSpan {cs body after : List Char} (h : IsSpan cs body after) :
    split cs = (split after).open body := by
  have hspan := span?_eq_some_iff.2 h
  cases cs with
  | nil => cases h.1
  | cons c rest =>
    rw [split]
    split
    · next heq =>
      rw [hspan] at heq
      cases heq
      rfl
    · next heq =>
      rw [hspan] at heq
      cases heq

theorem split_of_not_opens {c : Char} {cs : List Char} (h : ¬ Opens (c :: cs)) :
    split (c :: cs) = (split cs).push c := by
  have hnone := span?_eq_none_iff.2 h
  rw [split]
  split
  · next heq =>
    rw [hnone] at heq
    cases heq
  · rfl

/-- A character at which no span starts goes to the first literal. -/
theorem Cut.push {c : Char} {cs : List Char} {p : Parts} (hc : ¬ Opens (c :: cs)) (h : Cut cs p) :
    Cut (c :: cs) (p.push c) := by
  cases h with
  | plain h =>
    refine .plain fun s hs => ?_
    rcases List.suffix_cons_iff.1 hs with rfl | hs
    · exact hc
    · exact h s hs
  | @span literal rest body after p hleft hspan h =>
    show Cut ((c :: literal) ++ rest) _
    refine .span (fun s hnil hs => ?_) hspan h
    rcases List.suffix_cons_iff.1 hs with rfl | hs
    · exact hc
    · exact hleft s hnil hs

theorem cut_split (cs : List Char) : Cut cs (split cs) := by
  fun_induction split cs with
  | case1 =>
    refine .plain fun s hs => ?_
    rw [List.suffix_nil.1 hs]
    exact not_opens_nil
  | case2 c rest body after hspan ih =>
    show Cut ([] ++ (c :: rest)) _
    refine .span (fun s hnil hs => ?_) (span?_eq_some_iff.1 hspan) ih
    exact absurd (List.suffix_nil.1 hs) hnil
  | case3 c rest hnone ih => exact ih.push (span?_eq_none_iff.1 hnone)

theorem split_of_spanless : ∀ {cs : List Char}, Spanless cs → split cs = ⟨[], cs⟩
  | [], _ => by rw [split]
  | c :: rest, h => by
    rw [split_of_not_opens (h _ (List.suffix_refl _)),
      split_of_spanless fun s hs => h s (hs.trans (List.suffix_cons c rest))]
    rfl

/-- The literal in front of the leftmost span is passed over. -/
theorem split_append {rest body after : List Char} (hspan : IsSpan rest body after) :
    ∀ {literal : List Char}, (∀ s, s ≠ [] → s <:+ literal → ¬ Opens (s ++ rest)) →
      split (literal ++ rest) = ⟨(literal, body) :: (split after).spans, (split after).last⟩
  | [], _ => split_of_isSpan hspan
  | c :: literal, hleft => by
    have hc : ¬ Opens (c :: (literal ++ rest)) :=
      hleft (c :: literal) (List.cons_ne_nil c literal) (List.suffix_refl _)
    rw [List.cons_append, split_of_not_opens hc, split_append hspan fun s hnil hs =>
      hleft s hnil (hs.trans (List.suffix_cons c literal))]
    rfl

/-- **A text is cut in exactly one way, the one that `split` finds.** -/
theorem cut_iff {cs : List Char} {p : Parts} : Cut cs p ↔ split cs = p := by
  constructor
  · intro h
    induction h with
    | plain h => exact split_of_spanless h
    | span hleft hspan _ ih => rw [split_append hspan hleft, ih]
  · rintro rfl
    exact cut_split cs

/-! ## §4. Texts without an opening. -/

theorem hasOpening_iff : ∀ {cs : List Char}, hasOpening cs = true ↔ ['{', '{'] <:+: cs
  | [] => by simp [hasOpening]
  | c :: rest => by
    rw [List.infix_cons_iff]
    unfold hasOpening
    split
    · next heq =>
      cases heq
      simp
    · next hnot heq =>
      cases heq
      rw [hasOpening_iff]
      refine (or_iff_right fun hpre => ?_).symm
      obtain ⟨t, ht⟩ := hpre
      cases ht
      exact hnot t rfl rfl
    · next heq => cases heq

/-- Where no opening is, no span is. -/
theorem spanless_of_no_opening {cs : List Char} (h : ¬ ['{', '{'] <:+: cs) : Spanless cs := by
  rintro s hs ⟨body, after, rfl, -⟩
  refine h (List.IsInfix.trans ?_ hs.isInfix)
  exact ⟨[], body ++ close ++ after, rfl⟩

end FlowBench.Template

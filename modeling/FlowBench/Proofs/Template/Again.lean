/-
  FlowBench.Proofs.Template.Again
  ───────────────────────────────
  **A resolved text stays as it is.**

  What is put in for a span stands next to what was around it: openings that
  never closed, braces, spans that were left in place.  As long as it holds
  no opening brace, no new span comes of it.  An opening in front of a span
  would have closed with the span's own close, had a line break not come
  first (`not_opens_of_isSpan`), and that line break stays where it is.  So
  the spans of a resolved text are those that were left in place
  (`Cut.exists_fill`), and to resolve it again leaves them again.
-/
import Mathlib.Data.List.Basic
import FlowBench.Proofs.Template.Resolve

namespace FlowBench

/-- Whether a reference finds something is not up to the clock. -/
theorem Reference.resolve?_eq_none_of_clock {r : Reference} {clock : String} {u : Context}
    (h : r.resolve? clock u = none) (later : String) : r.resolve? later u = none := by
  cases r with
  | qualified node path => cases path <;> exact h
  | direct path =>
    change u.resolve? clock path = none at h
    show u.resolve? later path = none
    unfold Context.resolve? at h ⊢
    by_cases hnow : path = nowPath
    · rw [if_pos hnow] at h
      cases h
    · rw [if_neg hnow] at h ⊢
      exact h

namespace Template

variable {clock later : String} {u : Context} {body : List Char} {cs ds rest after : List Char}
  {p : Parts}

theorem find?_eq_none_of_clock (h : find? clock u body = none) (later : String) :
    find? later u body = none := by
  rw [find?_eq_none_iff] at h ⊢
  exact h.imp_right fun hmiss => Reference.resolve?_eq_none_of_clock hmiss later

/-! ## §1. What stands in front of a span. -/

/-- An opening is a brace, and another one. -/
theorem Opens.head? (h : Opens cs) : cs.head? = some '{' := by
  obtain ⟨body, after, rfl, -⟩ := h
  rfl

/-- A brace in front of a span opens it one place earlier. -/
theorem IsSpan.cons_brace (h : IsSpan rest body after) :
    IsSpan ('{' :: rest) ('{' :: body) after := by
  obtain ⟨rfl, hline, hfirst⟩ := h
  refine ⟨rfl, by simpa using hline, ?_⟩
  have hnil : ¬ close <:+: [] := by decide
  rw [List.cons_append, ← List.nil_append ('{' :: _), close_infix_append_cons_iff (by decide)]
  exact fun hin => hin.elim hnil hfirst

/-- An opening in front of a span closes with it, unless a close or a line
break comes first. -/
theorem IsSpan.opening_append (h : IsSpan rest body after) {text : List Char} (hline : '\n' ∉ text)
    (hclose : ¬ close <:+: text) :
    IsSpan ('{' :: '{' :: text ++ rest) (text ++ '{' :: '{' :: body) after := by
  obtain ⟨rfl, hbody, hfirst⟩ := h
  refine ⟨by simp [delimited], by simp [hline, hbody], ?_⟩
  have hnil : ¬ close <:+: [] := by decide
  rw [List.append_assoc, List.cons_append, List.cons_append,
    close_infix_append_cons_iff (by decide), ← List.nil_append ('{' :: _),
    close_infix_append_cons_iff (by decide)]
  rintro (hin | hin | hin)
  · exact hclose hin
  · exact hnil hin
  · exact hfirst hin

/-- **What stands in front of a span, and does not open with it, does not
open with anything.** -/
theorem not_opens_of_isSpan (hspan : IsSpan rest body after) (hne : cs ≠ [])
    (h : ¬ Opens (cs ++ rest)) (ds : List Char) : ¬ Opens (cs ++ ds) := by
  rintro ⟨content, last, heq, hline, hfirst⟩
  have hwhole : ∀ more, cs ≠ delimited content ++ more := by
    rintro more rfl
    exact h ⟨content, more ++ rest, by rw [List.append_assoc], hline, hfirst⟩
  rcases List.append_eq_append_iff.1 heq with ⟨more, hcontent, -⟩ | ⟨more, hcs, -⟩
  · -- the span reaches beyond what stands in front, which is an opening without a close
    rcases List.eq_nil_or_concat more with rfl | ⟨front, x, rfl⟩
    · exact hwhole [] (by rw [hcontent, List.append_nil, List.append_nil])
    · have hfront : '{' :: '{' :: (content ++ ['}']) = cs ++ front := by
        have hends : '{' :: '{' :: (content ++ ['}']) ++ ['}'] = cs ++ front ++ [x] := by
          rw [List.concat_eq_append, ← List.append_assoc] at hcontent
          rw [← hcontent]
          simp [delimited]
        exact (List.append_inj' hends rfl).1
      match cs, hne, hfront with
      | [_], _, rfl => exact h ⟨_, _, hspan.cons_brace⟩
      | _ :: _ :: text, _, hfront =>
        obtain ⟨rfl, rfl, htext⟩ : _ ∧ _ ∧ content ++ ['}'] = text ++ front := by
          simpa using hfront
        have hprefix : text <+: content ++ ['}'] := ⟨front, htext.symm⟩
        have hline' : '\n' ∉ text := fun hmem => by simpa [hline] using hprefix.subset hmem
        exact h ⟨_, _, hspan.opening_append hline' fun hin => hfirst (hin.trans hprefix.isInfix)⟩
  · exact hwhole more hcs

/-! ## §2. Characters in front of parts. -/

/-- Characters at which no span starts go to the first literal. -/
theorem Cut.foldr_push (h : Cut ds p) :
    ∀ {cs : List Char}, (∀ s, s ≠ [] → s <:+ cs → ¬ Opens (s ++ ds)) →
      Cut (cs ++ ds) (cs.foldr Parts.push p)
  | [], _ => h
  | c :: cs, hleft => by
    have hc : ¬ Opens (c :: (cs ++ ds)) := hleft _ (List.cons_ne_nil c cs) (List.suffix_refl _)
    exact (Cut.foldr_push h fun s hne hs =>
      hleft s hne (hs.trans (List.suffix_cons c cs))).push hc

theorem map_snd_push (c : Char) (p : Parts) :
    (p.push c).spans.map Prod.snd = p.spans.map Prod.snd := by
  obtain ⟨spans, last⟩ := p
  cases spans <;> rfl

theorem map_snd_foldr_push (cs : List Char) (p : Parts) :
    (cs.foldr Parts.push p).spans.map Prod.snd = p.spans.map Prod.snd := by
  induction cs with
  | nil => rfl
  | cons c cs ih => rw [List.foldr_cons, map_snd_push, ih]

/-! ## §3. Filling in. -/

/-- The contents of the spans of parts that find nothing. -/
def Parts.missed (clock : String) (u : Context) (p : Parts) : List (List Char) :=
  (p.spans.map Prod.snd).filter fun body => (find? clock u body).isNone

theorem Parts.missing_eq (p : Parts) :
    p.missing clock u = (p.missed clock u).map fun body => String.ofList (delimited body) := by
  unfold missing missed
  rw [List.filter_map, List.map_map]
  rfl

theorem Parts.fill_cons (literal body : List Char) (p : Parts) :
    Parts.fill clock u ⟨(literal, body) :: p.spans, p.last⟩ =
      literal ++ (replacement clock u body ++ p.fill clock u) := by
  unfold fill
  rw [List.flatMap_cons, List.append_assoc, List.append_assoc]

/-- Where no span finds anything, the text comes out as it is. -/
theorem Parts.fill_eq_text (h : ∀ s ∈ p.spans, find? clock u s.2 = none) :
    p.fill clock u = p.text := by
  unfold fill text
  congr 1
  apply List.flatMap_congr
  intro s hs
  rw [replacement_of_missed (h s hs)]

/-- **The spans of a text that is filled in are those that found nothing**,
as long as nothing was put in that holds an opening brace. -/
theorem Cut.exists_fill (h : Cut cs p) (hplain : ∀ s ∈ p.spans, ∀ v, find? clock u s.2 = some v →
      '{' ∉ v.render.toList) :
    ∃ q, Cut (p.fill clock u) q ∧ q.spans.map Prod.snd = p.missed clock u := by
  induction h with
  | @plain cs h => exact ⟨⟨[], cs⟩, .plain h, rfl⟩
  | @span literal rest body after p hleft hspan _ ih =>
    rw [List.forall_mem_cons] at hplain
    obtain ⟨q, hcut, hq⟩ := ih hplain.2
    have hliteral : ∀ ds s, s ≠ [] → s <:+ literal → ¬ Opens (s ++ ds) :=
      fun ds s hne hs => not_opens_of_isSpan hspan hne (hleft s hne hs) ds
    rw [Parts.fill_cons]
    unfold Parts.missed at hq ⊢
    rw [List.map_cons, List.filter_cons]
    cases hfind : find? clock u body with
    | none =>
      refine ⟨⟨(literal, body) :: q.spans, q.last⟩, ?_, by simp [hq]⟩
      rw [replacement_of_missed hfind]
      exact .span (hliteral _) ⟨rfl, hspan.2⟩ hcut
    | some v =>
      -- what was put in opens nothing, so it goes to the literal with what was in front of it
      have hvalue : ∀ s, s ≠ [] → s <:+ v.render.toList → ¬ Opens (s ++ p.fill clock u) := by
        intro s hne hs hopens
        have hhead := hopens.head?
        rw [List.head?_append_of_ne_nil _ hne] at hhead
        exact hplain.1 v hfind (hs.subset (List.mem_of_head? hhead))
      have hreplaced : replacement clock u body = v.render.toList := by
        unfold replacement
        rw [hfind]
      refine ⟨literal.foldr Parts.push (v.render.toList.foldr Parts.push q), ?_, ?_⟩
      · rw [hreplaced]
        exact (hcut.foldr_push hvalue).foldr_push (hliteral _)
      · rw [map_snd_foldr_push, map_snd_foldr_push]
        exact hq

/-! ## §4. The theorem. -/

/-- **To resolve a resolved text changes nothing**, as long as no span found
anything that holds an opening brace.  The same spans are left in place, and
reported; and the clock may have moved on. -/
theorem resolved_text_stays (text clock later : String) (u : Context)
    (hplain : ∀ s ∈ (split text.toList).spans, ∀ v, find? clock u s.2 = some v →
      '{' ∉ v.render.toList) :
    let once := resolve clock u text
    (resolve later u once.text).text = once.text ∧
      (resolve later u once.text).unresolved = once.unresolved := by
  intro once
  obtain ⟨q, hcut, hq⟩ := (cut_split text.toList).exists_fill hplain
  have hmissed : ∀ s ∈ q.spans, find? later u s.2 = none := by
    intro s hs
    have hmem : s.2 ∈ q.spans.map Prod.snd := List.mem_map_of_mem hs
    rw [hq] at hmem
    exact find?_eq_none_of_clock (Option.isNone_iff_eq_none.1 (List.mem_filter.1 hmem).2) later
  have honce : once = ⟨String.ofList ((split text.toList).fill clock u),
      (split text.toList).missing clock u⟩ := resolve_eq text
  have hsplit : split once.text.toList = q := by
    rw [honce]
    show split (String.ofList _).toList = q
    rw [String.toList_ofList]
    exact cut_iff.1 hcut
  rw [resolve_eq, hsplit]
  constructor
  · show String.ofList (q.fill later u) = once.text
    rw [Parts.fill_eq_text hmissed, hcut.text_eq, honce]
  · show q.missing later u = once.unresolved
    have hall : q.missed later u = q.spans.map Prod.snd := by
      unfold Parts.missed
      rw [List.filter_eq_self, List.forall_mem_map]
      intro s hs
      rw [hmissed s hs]
      rfl
    rw [honce, Parts.missing_eq, Parts.missing_eq, hall, hq]

/-- An opening that never closes, closes put in behind it and behind a line
break, a blank span, one that finds nothing, and the clock read earlier. -/
theorem resolved_text_of_leftovers_stays :
    let text := "\x7b\x7b \n\x7b\x7bA\x7d\x7d\x7d" ++
      " \x7b\x7b \x7d\x7d\x7b\x7bB\x7d\x7d \x7b\x7bnow\x7d\x7d"
    let u : Context := { named := Table.empty.insert "A" (.str "x\x7d\x7d\n\x7d") }
    let out := "\x7b\x7b \nx\x7d\x7d\n\x7d\x7d \x7b\x7b \x7d\x7d\x7b\x7bB\x7d\x7d 12:00"
    (∀ s ∈ (split text.toList).spans, ∀ v, find? "12:00" u s.2 = some v →
        '{' ∉ v.render.toList) ∧
      resolve "12:00" u text = ⟨out, ["\x7b\x7b \x7d\x7d", "\x7b\x7bB\x7d\x7d"]⟩ ∧
      (resolve "12:05" u out).text = out ∧
      (resolve "12:05" u out).unresolved = ["\x7b\x7b \x7d\x7d", "\x7b\x7bB\x7d\x7d"] := by
  intro text u out
  have hall : ((split text.toList).spans.all fun s =>
      (find? "12:00" u s.2).all fun v => decide ('{' ∉ v.render.toList)) = true := by
    decide +kernel
  have hplain : ∀ s ∈ (split text.toList).spans, ∀ v, find? "12:00" u s.2 = some v →
      '{' ∉ v.render.toList := by
    intro s hs v hv
    have hs := List.all_eq_true.1 hall s hs
    rw [hv] at hs
    exact of_decide_eq_true hs
  have honce : resolve "12:00" u text =
      ⟨out, ["\x7b\x7b \x7d\x7d", "\x7b\x7bB\x7d\x7d"]⟩ := by decide +kernel
  have hagain := resolved_text_stays text "12:00" "12:05" u hplain
  rw [honce] at hagain
  exact ⟨hplain, honce, hagain⟩

/-- A single brace that is put in joins the span behind it. -/
example :
    let u : Context := { named := Table.empty.insert "A" (.str "\x7b") }
    let once := resolve "" u "\x7b\x7bA\x7d\x7d\x7b\x7bB\x7d\x7d"
    once.unresolved = ["\x7b\x7bB\x7d\x7d"] ∧
      (resolve "" u once.text).unresolved = ["\x7b\x7b\x7bB\x7d\x7d"] := by
  decide +kernel

end Template

end FlowBench

/-
  FlowBench.Proofs.Reference.Spelling
  ───────────────────────────────────
  **How a qualified reference is spelled.**

  `Spelling` is a qualified reference taken apart, down to its blanks and its
  quote.  The reader takes each part up to the first character that cannot
  belong to it, so it accepts exactly the texts that have a spelling
  (`parse_eq_qualified_iff`), and no text has two (`Spelling.text_inj`).
-/
import Mathlib.Data.List.TakeWhile
import FlowBench.Reference

namespace FlowBench.Reference

variable {cs ds : List Char} {c d : Char} {path : Option String}

/-! ## §1. Parts of a text. -/

/-- A run of characters of one class ends at the first that is not of it. -/
theorem run_inj {p : Char → Bool} {run other : List Char} (hrun : ∀ x ∈ run, p x = true)
    (hother : ∀ x ∈ other, p x = true) (hc : ¬ p c = true) (hd : ¬ p d = true)
    (h : run ++ c :: cs = other ++ d :: ds) : run = other ∧ c = d ∧ cs = ds := by
  have hlength := congrArg (List.takeWhile p) h
  rw [List.takeWhile_append_of_pos hrun, List.takeWhile_append_of_pos hother,
    List.takeWhile_cons_of_neg hc, List.takeWhile_cons_of_neg hd, List.append_nil,
    List.append_nil] at hlength
  subst hlength
  rw [List.append_cancel_left_eq, List.cons.injEq] at h
  exact ⟨rfl, h⟩

/-- A text is cut at its first character outside a class. -/
theorem eq_takeWhile_append {p : Char → Bool} (h : cs.dropWhile p = d :: ds) :
    cs = cs.takeWhile p ++ d :: ds ∧ ¬ p d = true := by
  constructor
  · rw [← h, List.takeWhile_append_dropWhile]
  · have hhead := List.head?_dropWhile_not p cs
    rw [h] at hhead
    exact Bool.eq_false_iff.1 hhead

/-- A quote is not blank. -/
theorem not_isBlank_quote {q : Char} (h : q = '\'' ∨ q = '"') : ¬ isBlank q = true := by
  rcases h with rfl | rfl <;> decide

theorem strip?_append (word rest : List Char) : strip? word (word ++ rest) = some rest := by
  induction word with
  | nil => rfl
  | cons w word ih =>
    show (if w = w then strip? word (word ++ rest) else none) = _
    rw [if_pos rfl, ih]

theorem strip?_eq_some_iff {word rest : List Char} :
    strip? word cs = some rest ↔ cs = word ++ rest := by
  constructor
  · intro h
    fun_induction strip? word cs with
    | case1 cs =>
      cases h
      rfl
    | case2 word c cs ih => rw [ih h, List.cons_append]
    | case3 => cases h
    | case4 => cases h
  · rintro rfl
    exact strip?_append word rest

/-! ## §2. What follows the name. -/

/-- What closes the parenthesis and leads to the output. -/
def marker : List Char := ").item.json".toList

/-- A path behind the marker, where there is one. -/
def writeTail : Option String → List Char
  | none => []
  | some path => '.' :: path.toList

/-- A path stands on one line, and is not empty. -/
def OnLine (path : Option String) : Prop := ∀ p, path = some p → p ≠ "" ∧ '\n' ∉ p.toList

theorem writeTail_inj {p q : Option String} (h : writeTail p = writeTail q) : p = q := by
  cases p with
  | none => cases q with
    | none => rfl
    | some q => cases h
  | some p => cases q with
    | none => cases h
    | some q =>
      rw [writeTail, writeTail, List.cons.injEq] at h
      rw [String.toList_inj.1 h.2]

theorem tail?_eq_some_iff : tail? cs = some path ↔ OnLine path ∧ cs = marker ++ writeTail path := by
  unfold tail?
  constructor
  · intro h
    split at h
    · next hstrip =>
      cases h
      refine ⟨?_, strip?_eq_some_iff.1 hstrip⟩
      rintro p ⟨⟩
    · next p hstrip =>
      split at h
      · cases h
      · next hline =>
        cases h
        rw [Bool.or_eq_true, not_or, List.isEmpty_iff, List.contains_iff_mem] at hline
        refine ⟨?_, ?_⟩
        · rintro _ ⟨⟩
          rwa [ne_eq, String.ofList_eq_empty_iff, String.toList_ofList]
        · rw [writeTail, String.toList_ofList]
          exact strip?_eq_some_iff.1 hstrip
    · cases h
  · rintro ⟨hline, rfl⟩
    have hstrip : strip? ").item.json".toList (marker ++ writeTail path) = some (writeTail path) :=
      strip?_append _ _
    rw [hstrip]
    cases path with
    | none => rfl
    | some p =>
      obtain ⟨hne, hline⟩ := hline p rfl
      have hnil : p.toList ≠ [] := fun h => hne (String.toList_eq_nil_iff.1 h)
      show (if _ then _ else some (some (String.ofList p.toList))) = _
      rw [if_neg (by simp [hnil, hline]), String.ofList_toList]

/-! ## §3. Spellings. -/

/-- A qualified reference, taken apart. -/
@[ext] structure Spelling where
  /-- The blanks in front of the quoted name. -/
  before : List Char
  quote : Char
  node : String
  /-- The blanks behind the quoted name. -/
  after : List Char
  path : Option String
  before_blank : ∀ c ∈ before, isBlank c = true
  quote_eq : quote = '\'' ∨ quote = '"'
  quote_notMem : quote ∉ node.toList
  after_blank : ∀ c ∈ after, isBlank c = true
  onLine : OnLine path

namespace Spelling

/-- What follows the quoted name. -/
def rest (s : Spelling) : List Char := s.after ++ (marker ++ writeTail s.path)

/-- The text that is spelled. -/
def text (s : Spelling) : List Char :=
  "$(".toList ++ (s.before ++ s.quote :: (s.node.toList ++ s.quote :: s.rest))

/-- The name reaches to the quote that closes it. -/
theorem ne_quote (s : Spelling) : ∀ x ∈ s.node.toList, decide (x ≠ s.quote) = true := by
  intro x hx
  rw [decide_eq_true_iff]
  rintro rfl
  exact s.quote_notMem hx

/-- **No text is spelled in two ways.** -/
theorem text_inj {s t : Spelling} (h : s.text = t.text) : s = t := by
  -- each part is told from the next by its last character
  obtain ⟨hbefore, hquote, h⟩ := run_inj s.before_blank t.before_blank
    (not_isBlank_quote s.quote_eq) (not_isBlank_quote t.quote_eq) (List.append_cancel_left h)
  rw [hquote] at h
  have hnode := s.ne_quote
  rw [hquote] at hnode
  obtain ⟨hname, -, h⟩ := run_inj hnode t.ne_quote (by simp) (by simp) h
  have hmarker : ¬ isBlank ')' = true := by decide
  obtain ⟨hafter, -, h⟩ := run_inj s.after_blank t.after_blank hmarker hmarker h
  have hpath : writeTail s.path = writeTail t.path := List.append_cancel_left h
  exact Spelling.ext hbefore hquote (String.toList_inj.1 hname) hafter (writeTail_inj hpath)

/-- What is spelled is read. -/
theorem qualified?_text {s : Spelling} {e : String} (h : s.text = e.toList) :
    qualified? e = some (.qualified s.node s.path) := by
  have hmarker : (marker ++ writeTail s.path).dropWhile isBlank = marker ++ writeTail s.path :=
    List.dropWhile_cons_of_neg (by decide)
  have htail : tail? (marker ++ writeTail s.path) = some s.path :=
    tail?_eq_some_iff.2 ⟨s.onLine, rfl⟩
  unfold qualified?
  rw [← h, text, strip?_append]
  simp only [Option.bind_eq_bind, Option.bind_some, List.dropWhile_append_of_pos s.before_blank,
    List.dropWhile_cons_of_neg (not_isBlank_quote s.quote_eq), if_pos s.quote_eq,
    List.dropWhile_append_of_pos s.ne_quote, List.takeWhile_append_of_pos s.ne_quote]
  simp [rest, List.dropWhile_append_of_pos s.after_blank, hmarker, htail]

/-- What is read is spelled. -/
theorem exists_of_qualified? {e : String} {r : Reference} (h : qualified? e = some r) :
    ∃ s : Spelling, s.text = e.toList ∧ r = .qualified s.node s.path := by
  unfold qualified? at h
  obtain ⟨cs, hopen, h⟩ := Option.bind_eq_some_iff.1 h
  rw [strip?_eq_some_iff] at hopen
  split at h
  · next q rest hq =>
    split at h
    · next hquote =>
      split at h
      · next x after hafter =>
        obtain ⟨path, htail, h⟩ := Option.bind_eq_some_iff.1 h
        cases h
        obtain ⟨hbefore, -⟩ := eq_takeWhile_append hq
        obtain ⟨hnode, hx⟩ := eq_takeWhile_append hafter
        obtain ⟨hline, hrest⟩ := tail?_eq_some_iff.1 htail
        -- the name is closed by the quote that opened it
        obtain rfl : x = q := by simpa using hx
        have hname : (String.ofList (rest.takeWhile (· ≠ x))).toList = rest.takeWhile (· ≠ x) :=
          String.toList_ofList
        refine ⟨{
          before := cs.takeWhile isBlank
          quote := x
          node := String.ofList (rest.takeWhile (· ≠ x))
          after := after.takeWhile isBlank
          path := path
          before_blank := fun c hc => List.mem_takeWhile_imp hc
          quote_eq := hquote
          quote_notMem := ?_
          after_blank := fun c hc => List.mem_takeWhile_imp hc
          onLine := hline }, ?_, rfl⟩
        · rw [hname]
          intro hmem
          simpa using List.mem_takeWhile_imp hmem
        · show "$(".toList ++ (cs.takeWhile isBlank ++ x ::
            ((String.ofList (rest.takeWhile (· ≠ x))).toList ++ x ::
              (after.takeWhile isBlank ++ (marker ++ writeTail path)))) = _
          rw [← hrest, List.takeWhile_append_dropWhile, hname, ← hnode, ← hbefore, hopen]
      · cases h
    · cases h
  · cases h

end Spelling

/-! ## §4. Telling the form. -/

/-- **What is read as a qualified reference is what is spelled as one.** -/
theorem parse_eq_qualified_iff {e node : String} :
    parse e = .qualified node path ↔
      ∃ s : Spelling, s.text = e.toList ∧ s.node = node ∧ s.path = path := by
  unfold parse
  constructor
  · intro h
    cases hread : qualified? e with
    | none =>
      rw [hread] at h
      cases h
    | some r =>
      rw [hread] at h
      obtain ⟨s, htext, rfl⟩ := Spelling.exists_of_qualified? hread
      cases h
      exact ⟨s, htext, rfl, rfl⟩
  · rintro ⟨s, htext, rfl, rfl⟩
    rw [Spelling.qualified?_text htext]
    rfl

/-- What is not spelled as a qualified reference is a direct one. -/
theorem parse_eq_direct {e : String} (h : ∀ s : Spelling, s.text ≠ e.toList) :
    parse e = .direct e := by
  unfold parse
  cases hread : qualified? e with
  | none => rfl
  | some r =>
    obtain ⟨s, htext, -⟩ := Spelling.exists_of_qualified? hread
    exact absurd htext (h s)

end FlowBench.Reference

/-
  FlowBench.Proofs.Url.Segment
  ────────────────────────────
  **Where a name leads that is added to a path.**

  A plain name becomes one segment, from which it is read back.  The other
  names are dots, which add nothing, and those with tabs or line breaks,
  which lose them; what is left of such a name may be two dots, and then it
  climbs out of the path (`appendSegment_cases`).  Segments are added behind
  the `stem` of a path, unless that is one empty segment, which is lost
  (`placed_eq_below_iff`).
-/
import FlowBench.Proofs.Url.Encoding
import FlowBench.Url.Parser

namespace FlowBench.Url

/-! ## §1. Names. -/

/-- A name that a path takes as it is: no dots that lead elsewhere, and no
tab or line break. -/
def IsPlain (name : String) : Prop :=
  name ≠ "." ∧ name ≠ ".." ∧ kept name.toList = name.toList

instance (name : String) : Decidable (IsPlain name) := by
  unfold IsPlain
  infer_instance

/-- A name that leads out of the path it is added to: two dots, which count
once the tabs and line breaks are left out. -/
def Climbs (name : String) : Prop := name ≠ ".." ∧ kept name.toList = ['.', '.']

instance (name : String) : Decidable (Climbs name) := by
  unfold Climbs
  infer_instance

theorem Climbs.not_dots {name : String} (h : Climbs name) : ¬ (name = "." ∨ name = "..") := by
  intro hdots
  obtain rfl | rfl := hdots
  · exact absurd h.2 (by decide)
  · exact h.1 rfl

/-- The segment that a name is written as. -/
def written (special : Bool) (name : String) : String :=
  String.ofList (encode (segmentSet special) (kept name.toList))

theorem text?_decode_written (special : Bool) (name : String) :
    text? (decode (written special name).toList) = some (kept name.toList) := by
  rw [written, String.toList_ofList, text?_decode_encode rfl]

/-! ## §2. Dots. -/

theorem text?_decode_of_isDoubleDot {s : String} (h : isDoubleDot s = true) :
    text? (decode s.toList) = some ['.', '.'] := by
  have hbytes : decode s.toList = ['.', '.'].flatMap String.utf8EncodeChar := by
    simp only [isDoubleDot, List.mem_cons, List.not_mem_nil, or_false, decide_eq_true_eq] at h
    obtain rfl | rfl | rfl | rfl | rfl | rfl | rfl | rfl | rfl := h <;> decide
  rw [hbytes, text?_utf8]

theorem text?_decode_of_isSingleDot {s : String} (h : isSingleDot s = true) :
    text? (decode s.toList) = some ['.'] := by
  have hbytes : decode s.toList = ['.'].flatMap String.utf8EncodeChar := by
    simp only [isSingleDot, List.mem_cons, List.not_mem_nil, or_false, decide_eq_true_eq] at h
    obtain rfl | rfl | rfl := h <;> decide
  rw [hbytes, text?_utf8]

/-- Of the ways to write two dots only the plain one is ever written. -/
theorem isDoubleDot_written {special : Bool} {name : String} :
    isDoubleDot (written special name) = true ↔ kept name.toList = ['.', '.'] := by
  constructor
  · -- All nine ways read as two dots, and what is written reads as what is kept.
    intro h
    have hread := text?_decode_of_isDoubleDot h
    rw [text?_decode_written] at hread
    exact Option.some.inj hread
  · intro h
    rw [written, h]
    cases special <;> decide

theorem isSingleDot_written {special : Bool} {name : String} :
    isSingleDot (written special name) = true ↔ kept name.toList = ['.'] := by
  constructor
  · intro h
    have hread := text?_decode_of_isSingleDot h
    rw [text?_decode_written] at hread
    exact Option.some.inj hread
  · intro h
    rw [written, h]
    cases special <;> decide

/-! ## §3. One name. -/

/-- The path to which segments are added: the empty segment of the root gives
way. -/
def front (names : List String) : List String := if names = [""] then [] else names

/-- A name of dots as it stands adds nothing. -/
theorem appendSegment_of_dots {name : String} (h : name = "." ∨ name = "..") (special : Bool)
    (names : List String) : appendSegment special names name = names :=
  if_pos (by simpa using h)

/-- Every other name is added as what it is written as. -/
theorem appendSegment_of_not_dots {name : String} (h : ¬ (name = "." ∨ name = ".."))
    (special : Bool) (names : List String) :
    appendSegment special names name =
      if isDoubleDot (written special name) then above (front names) ++ [""]
      else if isSingleDot (written special name) then front names ++ [""]
      else front names ++ [written special name] :=
  if_neg (by simpa using h)

/-- **What adding a name does to a path.**  Dots add nothing; a name that
climbs leaves only the place above; one that is a dot but for tabs and line
breaks adds an empty segment; every other adds what it is written as. -/
theorem appendSegment_cases (special : Bool) (names : List String) (name : String) :
    (name = "." ∨ name = "..") ∧ appendSegment special names name = names
      ∨ Climbs name ∧ appendSegment special names name = above (front names) ++ [""]
      ∨ name ≠ "." ∧ kept name.toList = ['.']
          ∧ appendSegment special names name = front names ++ [""]
      ∨ ¬ (name = "." ∨ name = "..") ∧ ¬ Climbs name
          ∧ appendSegment special names name = front names ++ [written special name] := by
  by_cases hdots : name = "." ∨ name = ".."
  · left
    exact ⟨hdots, appendSegment_of_dots hdots special names⟩
  · have hone : name ≠ "." := fun h => hdots (.inl h)
    have htwo : name ≠ ".." := fun h => hdots (.inr h)
    right
    rw [appendSegment_of_not_dots hdots]
    by_cases hclimb : kept name.toList = ['.', '.']
    · left
      exact ⟨⟨htwo, hclimb⟩, if_pos (isDoubleDot_written.2 hclimb)⟩
    · right
      rw [if_neg fun h => hclimb (isDoubleDot_written.1 h)]
      by_cases hdot : kept name.toList = ['.']
      · left
        exact ⟨hone, hdot, if_pos (isSingleDot_written.2 hdot)⟩
      · right
        exact ⟨hdots, fun h => hclimb h.2, if_neg fun h => hdot (isSingleDot_written.1 h)⟩

/-- **A tab at the end of a name is not seen**, unless it keeps the name from
being dots. -/
theorem appendSegment_concat_tab {name : String} (h : ¬ (name = "." ∨ name = ".."))
    (special : Bool) (names : List String) :
    appendSegment special names (name ++ "\t") = appendSegment special names name := by
  have hkept : kept (name ++ "\t").toList = kept name.toList := by
    rw [String.toList_append, kept, kept, List.filter_append]
    exact List.append_nil _
  have htab : '\t' ∈ (name ++ "\t").toList := by
    rw [String.toList_append]
    exact List.mem_append_right _ (by decide)
  have hdots : ¬ (name ++ "\t" = "." ∨ name ++ "\t" = "..") := by
    intro hdots
    obtain heq | heq := hdots
    all_goals
      rw [heq] at htab
      exact absurd htab (by decide)
  rw [appendSegment_of_not_dots hdots, appendSegment_of_not_dots h, written, hkept]
  rfl

/-! ## §4. Below a URL. -/

/-- The segments of a URL's path without an empty one at its end. -/
def stem (u : Url) : List String :=
  match u.location with
  | .whole _ => []
  | .segments names => if names.getLast? = some "" then names.dropLast else names

/-- The URL with segments behind the stem. -/
def below (u : Url) (names : List String) : Url :=
  { u with location := .segments (u.stem ++ names) }

/-- The URL with segments where they are put. -/
def placed (u : Url) (names : List String) : Url :=
  { u with location := .segments (front u.stem ++ names) }

/-- The path that is made ready for segments is the stem. -/
theorem front_withoutEmptyEnd {u : Url} {names : List String} (h : u.location = .segments names) :
    front (withoutEmptyEnd names) = front u.stem := by
  have hstem : u.stem = if names.getLast? = some "" then names.dropLast else names := by
    rw [stem, h]
  rw [hstem, withoutEmptyEnd]
  by_cases hend : names.getLast? = some ""
  · obtain ⟨init, rfl⟩ := List.getLast?_eq_some_iff.1 hend
    -- The root keeps its only segment, which then gives way.
    cases init with
    | nil => rfl
    | cons a rest => rw [hend, if_pos (by simp), if_pos rfl]
  · rw [if_neg (by simp [hend]), if_neg hend]

/-- **Segments are put behind the stem, or behind nothing where the stem is
one empty segment.** -/
theorem placed_eq_below_iff {u : Url} {names others : List String} :
    u.placed names = u.below others ↔
      u.stem ≠ [""] ∧ names = others ∨ u.stem = [""] ∧ names = "" :: others := by
  have hpath : u.placed names = u.below others ↔ front u.stem ++ names = u.stem ++ others := by
    constructor
    · intro h
      exact Location.segments.inj (congrArg Url.location h)
    · intro h
      rw [placed, below, h]
  rw [hpath, front]
  by_cases hstem : u.stem = [""]
  · simp [hstem]
  · simp [hstem]

/-- Whether a path would read as a host is not told by its last segment. -/
theorem readsAsHost_concat (names : List String) (s t : String) :
    readsAsHost (.segments (names ++ [s])) = readsAsHost (.segments (names ++ [t])) := by
  cases names with
  | nil => simp [readsAsHost]
  | cons a rest => cases rest <;> by_cases ha : a = "" <;> simp [readsAsHost, ha]

/-- Two URLs that differ only in the last segment differ in their texts. -/
theorem text_placed_inj {u : Url} (names : List String) {s t : String}
    (h : (u.placed (names ++ [s])).text = (u.placed (names ++ [t])).text) : s = t := by
  unfold placed at h
  rw [← List.append_assoc, ← List.append_assoc] at h
  unfold text pathAndQuery Location.text at h
  rw [readsAsHost_concat _ s t] at h
  -- The texts before and behind the last segment are the same and cancel.
  simpa [String.join_append, String.append_assoc] using h

end FlowBench.Url

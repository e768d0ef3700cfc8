/-
  FlowBench.Proofs.Path.Grammar
  ─────────────────────────────
  **The grammar of paths.**

  A `Spelling` is a segment of a path taken apart, down to the blanks and the
  sign of each index.  The reader accepts exactly the texts whose pieces
  between points have a spelling (`parse?_eq_some_iff`), and gives back what
  is written of any segments that can be written (`parse?_write`).

  Nothing bounds the loop over brackets but the text itself: a group that was
  read is behind it, so what is left is shorter (`loop_indices?`).
-/
import Mathlib.Data.List.Forall2
import FlowBench.Proofs.Path
import FlowBench.Proofs.Text.Blank

namespace FlowBench.Path

/-! ## §1. Spellings. -/

/-- A number as an index may write it. -/
def signed (plus : Bool) (digits : List Char) : List Char := if plus then '+' :: digits else digits

/-- An index between brackets, taken apart. -/
structure Bracket where
  before : List Char
  plus : Bool
  digits : List Char
  after : List Char
  before_blank : ∀ c ∈ before, isBlank c = true
  digits_nonempty : digits ≠ []
  digits_decimal : ∀ c ∈ digits, c.isDigit = true
  after_blank : ∀ c ∈ after, isBlank c = true
  bounded : Nat.ofDigitChars 10 digits 0 < UInt64.size

namespace Bracket

/-- What stands between the brackets. -/
def inner (b : Bracket) : List Char := b.before ++ signed b.plus b.digits ++ b.after

def text (b : Bracket) : List Char := '[' :: (b.inner ++ [']'])

def index (b : Bracket) : Nat := Nat.ofDigitChars 10 b.digits 0

end Bracket

/-- A segment of a path, taken apart. -/
structure Spelling where
  key : String
  brackets : List Bracket
  key_open : '[' ∉ key.toList
  nonempty : key ≠ "" ∨ brackets ≠ []

namespace Spelling

def text (s : Spelling) : List Char := s.key.toList ++ s.brackets.flatMap Bracket.text

def segment (s : Spelling) : Segment := ⟨s.key, s.brackets.map Bracket.index⟩

end Spelling

/-- A text spells a segment. -/
def Spells (cs : List Char) (s : Segment) : Prop := ∃ p : Spelling, p.text = cs ∧ p.segment = s

/-! ## §2. Numbers. -/

theorem natural?_eq_some_iff {cs : List Char} {n : Nat} :
    natural? cs = some n ↔
      cs ≠ [] ∧ (∀ c ∈ cs, c.isDigit = true) ∧ Nat.ofDigitChars 10 cs 0 = n := by
  have hvalue : cs.foldl (fun n c => n * 10 + (c.toNat - '0'.toNat)) 0 =
      Nat.ofDigitChars 10 cs 0 := by
    unfold Nat.ofDigitChars
    simp only [Nat.mul_comm]
  have hrefused : (cs.isEmpty || !cs.all Char.isDigit) = true ↔
      ¬ (cs ≠ [] ∧ ∀ c ∈ cs, c.isDigit = true) := by
    rw [not_and_or, Bool.or_eq_true, List.isEmpty_iff, Bool.not_eq_true', ← Bool.not_eq_true,
      List.all_eq_true, not_not]
  unfold natural?
  rw [hvalue, ← and_assoc]
  by_cases h : cs ≠ [] ∧ ∀ c ∈ cs, c.isDigit = true
  · rw [if_neg (fun hcond => hrefused.1 hcond h), Option.some.injEq]
    exact (and_iff_right h).symm
  · rw [if_pos (hrefused.2 h)]
    simp [h]

/-- Digits are read as an index if their number is below the bound. -/
theorem bounded_eq_some_iff {digits : List Char} {i : Nat} :
    ((natural? digits).bind fun n => if n < indexBound then some n else none) = some i ↔
      digits ≠ [] ∧ (∀ c ∈ digits, c.isDigit = true) ∧ Nat.ofDigitChars 10 digits 0 = i ∧
        i < UInt64.size := by
  have hbound : indexBound = UInt64.size := by decide
  rw [Option.bind_eq_some_iff, hbound]
  constructor
  · intro h
    obtain ⟨n, hn, hi⟩ := h
    obtain ⟨hne, hall, hvalue⟩ := natural?_eq_some_iff.1 hn
    obtain ⟨hlt, hsame⟩ := Option.ite_none_right_eq_some.1 hi
    obtain rfl := Option.some.inj hsame
    exact ⟨hne, hall, hvalue, hlt⟩
  · intro h
    obtain ⟨hne, hall, hvalue, hlt⟩ := h
    exact ⟨i, natural?_eq_some_iff.2 ⟨hne, hall, hvalue⟩, if_pos hlt⟩

/-- An index is read from digits with or without a plus sign. -/
theorem index?_eq_some_iff {cs : List Char} {i : Nat} :
    index? cs = some i ↔ ∃ plus digits, cs = signed plus digits ∧ digits ≠ [] ∧
      (∀ c ∈ digits, c.isDigit = true) ∧ Nat.ofDigitChars 10 digits 0 = i ∧ i < UInt64.size := by
  constructor
  · intro h
    unfold index? at h
    split at h
    · exact ⟨true, _, rfl, bounded_eq_some_iff.1 h⟩
    · exact ⟨false, cs, rfl, bounded_eq_some_iff.1 h⟩
  · intro h
    obtain ⟨plus, digits, rfl, hdigits⟩ := h
    cases plus with
    | true => exact bounded_eq_some_iff.2 hdigits
    | false =>
      show index? digits = some i
      unfold index?
      split
      · -- a plus sign is no digit
        obtain ⟨-, hall, -⟩ := hdigits
        exact absurd (hall '+' List.mem_cons_self) (by decide)
      · exact bounded_eq_some_iff.2 hdigits

/-! ## §3. Brackets. -/

/-- A text reaches to the first of the characters it does not hold. -/
theorem takeWhile_dropWhile_append {c : Char} {cs rest : List Char} (h : c ∉ cs)
    (hrest : rest.head? = none ∨ rest.head? = some c) :
    (cs ++ rest).takeWhile (· ≠ c) = cs ∧ (cs ++ rest).dropWhile (· ≠ c) = rest := by
  have hall : ∀ x ∈ cs, decide (x ≠ c) = true := by
    intro x hx
    rw [decide_eq_true_iff]
    rintro rfl
    exact h hx
  rw [List.takeWhile_append_of_pos hall, List.dropWhile_append_of_pos hall]
  cases rest with
  | nil => exact ⟨List.append_nil cs, rfl⟩
  | cons d rest =>
    obtain rfl : d = c := by simpa using hrest
    rw [List.takeWhile_cons_of_neg (by simp), List.dropWhile_cons_of_neg (by simp)]
    exact ⟨List.append_nil cs, rfl⟩

namespace Bracket

variable (b : Bracket)

/-- A bracket's number holds neither blanks nor a bracket. -/
theorem of_mem_number {c : Char} (h : c ∈ signed b.plus b.digits) :
    isBlank c = false ∧ c ≠ ']' := by
  have hcases : c = '+' ∨ c ∈ b.digits := by
    unfold signed at h
    split at h
    · exact List.mem_cons.1 h
    · exact .inr h
  obtain rfl | hdigit := hcases
  · decide
  · have hdecimal := b.digits_decimal c hdigit
    refine ⟨not_isBlank_of_isDigit hdecimal, ?_⟩
    rintro rfl
    exact absurd hdecimal (by decide)

theorem close_notMem_inner : ']' ∉ b.inner := by
  have hblank : ¬ isBlank ']' = true := by decide
  unfold inner
  rw [List.mem_append, List.mem_append]
  rintro ((hmem | hmem) | hmem)
  · exact hblank (b.before_blank _ hmem)
  · exact (b.of_mem_number hmem).2 rfl
  · exact hblank (b.after_blank _ hmem)

theorem index?_trim_inner : index? (trim b.inner) = some b.index := by
  have htrim : trim b.inner = signed b.plus b.digits := by
    refine trim_between b.before_blank b.after_blank ?_ ?_
    · intro c hc
      exact (b.of_mem_number (List.mem_of_mem_head? hc)).1
    · intro c hc
      exact (b.of_mem_number (List.mem_of_getLast? hc)).1
  rw [htrim, index?_eq_some_iff]
  exact ⟨b.plus, b.digits, rfl, b.digits_nonempty, b.digits_decimal, rfl, b.bounded⟩

/-- What trims to an index is the inside of a bracket with it. -/
theorem exists_of_index? {cs : List Char} {i : Nat} (h : index? (trim cs) = some i) :
    ∃ b : Bracket, b.inner = cs ∧ b.index = i := by
  obtain ⟨before, after, hbefore, hafter, hcs⟩ := exists_blanks_around_trim cs
  obtain ⟨plus, digits, htrim, hne, hall, hvalue, hlt⟩ := index?_eq_some_iff.1 h
  rw [htrim] at hcs
  exact ⟨⟨before, plus, digits, after, hbefore, hne, hall, hafter, hvalue ▸ hlt⟩, hcs.symm, hvalue⟩

end Bracket

/-- A bracket in front is read first. -/
theorem indices?_bracket (b : Bracket) (rest : List Char) :
    indices? (b.text ++ rest) = (indices? rest).map (b.index :: ·) := by
  obtain ⟨htake, hdrop⟩ : _ ∧ (b.inner ++ ']' :: rest).dropWhile (· ≠ ']') = ']' :: rest :=
    takeWhile_dropWhile_append b.close_notMem_inner (.inr rfl)
  have htext : b.text ++ rest = '[' :: (b.inner ++ ']' :: rest) := by
    unfold Bracket.text
    simp
  rw [htext, indices?]
  split
  · next after hafter =>
    obtain rfl : rest = after := by
      rw [hdrop] at hafter
      exact (List.cons.inj hafter).2
    rw [htake, b.index?_trim_inner]
    cases indices? rest <;> rfl
  · next hnone => exact absurd hdrop (hnone rest)

/-- **A row of brackets is read as the indices in it**, and nothing else
is. -/
theorem indices?_eq_some_iff {cs : List Char} {is : List Nat} :
    indices? cs = some is ↔
      ∃ bs : List Bracket, bs.flatMap Bracket.text = cs ∧ bs.map Bracket.index = is := by
  constructor
  · intro h
    fun_induction indices? cs generalizing is with
    | case1 =>
      cases h
      exact ⟨[], rfl, rfl⟩
    | case2 rest after hafter ih =>
      obtain ⟨i, hi, h⟩ := Option.bind_eq_some_iff.1 h
      obtain ⟨is', his, h⟩ := Option.bind_eq_some_iff.1 h
      cases h
      -- the first bracket reaches to the first that closes
      obtain ⟨b, hinner, hindex⟩ := Bracket.exists_of_index? hi
      obtain ⟨bs, htext, hindices⟩ := ih his
      refine ⟨b :: bs, ?_, ?_⟩
      · rw [List.flatMap_cons, htext, Bracket.text, hinner, List.cons_append, List.append_assoc,
          List.singleton_append, ← hafter, List.takeWhile_append_dropWhile]
      · rw [List.map_cons, hindex, hindices]
    | case3 => cases h
    | case4 => cases h
  · intro h
    obtain ⟨bs, rfl, rfl⟩ := h
    induction bs with
    | nil => rw [List.flatMap_nil, List.map_nil, indices?]
    | cons b bs ih =>
      rw [List.flatMap_cons, indices?_bracket, ih]
      rfl

/-! ## §4. The loop over brackets. -/

/-- The loop over brackets, trip after trip: from what is left of the text
and the indices read so far to what it ends with. -/
inductive Loop : List Char → List Nat → Option (List Nat) → Prop
  | done {sofar : List Nat} : Loop [] sofar (some sofar)
  | unopened {c : Char} {rest : List Char} {sofar : List Nat} :
      c ≠ '[' → Loop (c :: rest) sofar none
  | unclosed {rest : List Char} {sofar : List Nat} : ']' ∉ rest → Loop ('[' :: rest) sofar none
  | unread {inner after : List Char} {sofar : List Nat} :
      ']' ∉ inner → index? (trim inner) = none → Loop ('[' :: (inner ++ ']' :: after)) sofar none
  | trip {inner after : List Char} {sofar : List Nat} {i : Nat} {result : Option (List Nat)} :
      ']' ∉ inner → index? (trim inner) = some i → Loop after (sofar ++ [i]) result →
      Loop ('[' :: (inner ++ ']' :: after)) sofar result

/-- **The loop over brackets ends on every text**, with the indices that are
read of it behind those it had. -/
theorem loop_indices? (cs : List Char) (sofar : List Nat) :
    Loop cs sofar ((indices? cs).map (sofar ++ ·)) := by
  fun_induction indices? cs generalizing sofar with
  | case1 =>
    rw [Option.map_some, List.append_nil]
    exact .done
  | case2 rest after hafter ih =>
    have hrest : rest = rest.takeWhile (· ≠ ']') ++ ']' :: after := by
      rw [← hafter, List.takeWhile_append_dropWhile]
    have hinner : ']' ∉ rest.takeWhile (· ≠ ']') := by
      intro hmem
      exact absurd (List.mem_takeWhile_imp hmem) (by decide)
    generalize rest.takeWhile (· ≠ ']') = inner at hrest hinner
    subst hrest
    cases hread : index? (trim inner) with
    | none => exact .unread hinner hread
    | some i =>
      -- the index of this trip goes behind those of the trips before
      have hnext := ih (sofar ++ [i])
      refine .trip hinner hread ?_
      cases hmore : indices? after with
      | none =>
        rw [hmore] at hnext
        exact hnext
      | some is =>
        rw [hmore, Option.map_some, List.append_assoc] at hnext
        exact hnext
  | case3 rest hnone =>
    refine .unclosed ?_
    intro hclose
    obtain ⟨inner, after, rfl, hinner⟩ := List.eq_append_cons_of_mem hclose
    exact hnone after (takeWhile_dropWhile_append hinner (.inr rfl)).2
  | case4 cs hnil hopen =>
    cases cs with
    | nil => exact absurd rfl hnil
    | cons c rest =>
      refine .unopened ?_
      rintro rfl
      exact hopen rest rfl

/-! ## §5. Segments. -/

/-- A row of brackets starts with a bracket, if it is not empty. -/
theorem takeWhile_dropWhile_text (p : Spelling) :
    p.text.takeWhile (· ≠ '[') = p.key.toList ∧
      p.text.dropWhile (· ≠ '[') = p.brackets.flatMap Bracket.text := by
  refine takeWhile_dropWhile_append p.key_open ?_
  cases p.brackets with
  | nil => exact .inl rfl
  | cons b bs => exact .inr rfl

/-- **A text is read as a segment exactly when it spells it.** -/
theorem segment?_eq_some_iff {cs : List Char} {s : Segment} :
    segment? cs = some s ↔ Spells cs s := by
  constructor
  · intro h
    unfold segment? at h
    obtain ⟨is, his, h⟩ := Option.bind_eq_some_iff.1 h
    obtain ⟨bs, htext, hindices⟩ := indices?_eq_some_iff.1 his
    split at h
    · cases h
    · next hnonempty =>
      cases h
      rw [Bool.and_eq_true, not_and_or, List.isEmpty_iff, List.isEmpty_iff] at hnonempty
      refine ⟨⟨String.ofList (cs.takeWhile (· ≠ '[')), bs, ?_, ?_⟩, ?_, ?_⟩
      · rw [String.toList_ofList]
        intro hmem
        exact absurd (List.mem_takeWhile_imp hmem) (by decide)
      · refine hnonempty.imp ?_ ?_
        · intro hne hempty
          exact hne (String.ofList_eq_empty_iff.1 hempty)
        · rintro hne rfl
          exact hne hindices.symm
      · show (String.ofList _).toList ++ bs.flatMap Bracket.text = cs
        rw [String.toList_ofList, htext, List.takeWhile_append_dropWhile]
      · rw [Spelling.segment, hindices]
  · intro h
    obtain ⟨p, rfl, rfl⟩ := h
    obtain ⟨hkey, hbrackets⟩ := takeWhile_dropWhile_text p
    have hindices : indices? (p.brackets.flatMap Bracket.text) = some (p.brackets.map Bracket.index) :=
      indices?_eq_some_iff.2 ⟨p.brackets, rfl, rfl⟩
    have hnonempty : ¬ (p.key.toList.isEmpty && (p.brackets.map Bracket.index).isEmpty) = true := by
      rw [Bool.and_eq_true, not_and_or, List.isEmpty_iff, List.isEmpty_iff, List.map_eq_nil_iff,
        String.toList_eq_nil_iff]
      exact p.nonempty
    unfold segment?
    rw [hkey, hbrackets, hindices]
    show (if _ then none else some _) = _
    rw [if_neg hnonempty, String.ofList_toList]
    rfl

/-! ## §6. Paths. -/

/-- Reading each piece succeeds exactly when every piece can be read. -/
theorem mapM_eq_some_iff {α β : Type} {f : α → Option β} {as : List α} {bs : List β} :
    as.mapM f = some bs ↔ List.Forall₂ (fun a b => f a = some b) as bs := by
  induction as generalizing bs with
  | nil =>
    constructor
    · intro h
      cases h
      exact .nil
    · rintro ⟨⟩
      rfl
  | cons a as ih =>
    rw [List.mapM_cons]
    constructor
    · intro h
      obtain ⟨b, hb, h⟩ := Option.bind_eq_some_iff.1 h
      obtain ⟨bs', hbs, h⟩ := Option.bind_eq_some_iff.1 h
      cases h
      exact .cons hb (ih.1 hbs)
    · intro h
      cases h with
      | cons hb hbs =>
        rw [hb, ih.2 hbs]
        rfl

theorem mapM_eq_none_iff {α β : Type} {f : α → Option β} {as : List α} :
    as.mapM f = none ↔ ∃ a ∈ as, f a = none := by
  induction as with
  | nil => simp
  | cons a as ih =>
    rw [List.mapM_cons]
    cases hread : f a with
    | none => simp [hread]
    | some b => cases hmore : as.mapM f <;> simp_all

/-- **A path is read exactly when each of its pieces spells a segment.** -/
theorem parse?_eq_some_iff {path : String} {segments : List Segment} :
    parse? path = some segments ↔
      path ≠ "" ∧ List.Forall₂ Spells (path.toList.splitOn '.') segments := by
  have hread : (fun cs s => segment? cs = some s) = Spells := by
    funext cs s
    exact propext segment?_eq_some_iff
  rw [parse?_eq_mapM, mapM_eq_some_iff, hread, pieces_eq_splitOnP]
  refine ⟨fun h => ⟨?_, h⟩, fun h => h.2⟩
  -- the one piece of the empty text spells nothing
  rintro rfl
  cases h with
  | cons hspells _ => exact absurd (segment?_eq_some_iff.2 hspells) (by simp [segment?_nil])

/-- A path is refused exactly when one of its pieces spells nothing. -/
theorem parse?_eq_none_iff {path : String} :
    parse? path = none ↔
      path = "" ∨ ∃ piece ∈ path.toList.splitOn '.', ∀ s, ¬ Spells piece s := by
  have hpiece : ∀ cs : List Char, segment? cs = none ↔ ∀ s, ¬ Spells cs s := by
    intro cs
    rw [Option.eq_none_iff_forall_ne_some]
    exact forall_congr' fun s => not_congr segment?_eq_some_iff
  rw [parse?_eq_mapM, mapM_eq_none_iff, pieces_eq_splitOnP]
  simp only [hpiece]
  refine ⟨.inr, ?_⟩
  rintro (rfl | h)
  · exact ⟨[], List.mem_cons_self, (hpiece []).1 segment?_nil⟩
  · exact h

/-! ## §7. Paths that are written. -/

/-- A segment that can be written so that it is read again. -/
structure Writable (s : Segment) : Prop where
  no_point : '.' ∉ s.key.toList
  key_open : '[' ∉ s.key.toList
  nonempty : s.key ≠ "" ∨ s.indices ≠ []
  bounded : ∀ i ∈ s.indices, i < UInt64.size

/-- The bracket that an index is written as. -/
def Bracket.written (i : Nat) (h : i < UInt64.size) : Bracket where
  before := []
  plus := false
  digits := Nat.toDigits 10 i
  after := []
  before_blank := blank_nil
  digits_nonempty := Nat.toDigits_ne_nil
  digits_decimal := fun _ hc => Nat.isDigit_of_mem_toDigits (by decide) (by decide) hc
  after_blank := blank_nil
  bounded := by rwa [Nat.ofDigitChars_toDigits (by decide) (by decide)]

theorem Bracket.index_written (i : Nat) (h : i < UInt64.size) : (Bracket.written i h).index = i :=
  Nat.ofDigitChars_toDigits (by decide) (by decide)

theorem Bracket.text_written (i : Nat) (h : i < UInt64.size) :
    (Bracket.written i h).text = ("[" ++ toString i ++ "]").toList := by
  rw [String.toList_append, String.toList_append, Nat.toString_eq_ofList_toDigits,
    String.toList_ofList]
  simp [Bracket.text, Bracket.inner, Bracket.written, signed]

/-- Indices below the bound are the indices of the brackets written of
them. -/
theorem exists_brackets_written {is : List Nat} (h : ∀ i ∈ is, i < UInt64.size) :
    ∃ bs : List Bracket, bs.map Bracket.index = is ∧
      bs.flatMap Bracket.text = (String.join (is.map fun i => "[" ++ toString i ++ "]")).toList := by
  rw [String.toList_join]
  induction is with
  | nil => exact ⟨[], rfl, rfl⟩
  | cons i is ih =>
    have hi : i < UInt64.size := h i List.mem_cons_self
    obtain ⟨bs, hindices, htext⟩ := ih fun j hj => h j (List.mem_cons_of_mem i hj)
    refine ⟨Bracket.written i hi :: bs, ?_, ?_⟩
    · rw [List.map_cons, hindices, Bracket.index_written]
    · rw [List.flatMap_cons, htext, Bracket.text_written, List.map_cons, List.flatMap_cons]

/-- A segment is spelled by what is written of it. -/
theorem spells_writeSegment {s : Segment} (h : Writable s) : Spells (writeSegment s).toList s := by
  obtain ⟨bs, hindices, htext⟩ := exists_brackets_written h.bounded
  have hnonempty : s.key ≠ "" ∨ bs ≠ [] := by
    refine h.nonempty.imp_right ?_
    rintro hne rfl
    exact hne hindices.symm
  refine ⟨⟨s.key, bs, h.key_open, hnonempty⟩, ?_, ?_⟩
  · show s.key.toList ++ bs.flatMap Bracket.text = _
    rw [htext, writeSegment, String.toList_append]
  · show (⟨s.key, bs.map Bracket.index⟩ : Segment) = s
    rw [hindices]

/-- What is written of a segment has no point. -/
theorem point_notMem_writeSegment {s : Segment} (h : Writable s) :
    '.' ∉ (writeSegment s).toList := by
  rw [writeSegment, String.toList_append, String.toList_join, List.mem_append, not_or]
  refine ⟨h.no_point, ?_⟩
  intro hmem
  obtain ⟨text, htext, hpoint⟩ := List.mem_flatMap.1 hmem
  obtain ⟨i, -, rfl⟩ := List.mem_map.1 htext
  rw [Nat.toString_eq_ofList_toDigits] at hpoint
  have hdigit : '.' ∈ Nat.toDigits 10 i := by simpa using hpoint
  exact absurd (Nat.isDigit_of_mem_toDigits (by decide) (by decide) hdigit) (by decide)

/-- **Segments that are written are read again.** -/
theorem parse?_write {segments : List Segment} (hne : segments ≠ [])
    (h : ∀ s ∈ segments, Writable s) : parse? (write segments) = some segments := by
  have hpieces : pieces (write segments).toList =
      segments.map fun s => (writeSegment s).toList := by
    rw [pieces_eq_splitOnP, write, String.toList_intercalate, List.map_map]
    refine List.splitOn_intercalate '.' ?_ ?_
    · intro cs hcs
      obtain ⟨s, hs, rfl⟩ := List.mem_map.1 hcs
      exact point_notMem_writeSegment (h s hs)
    · exact fun hnil => hne (List.map_eq_nil_iff.1 hnil)
  rw [parse?_eq_mapM, hpieces, mapM_eq_some_iff, List.forall₂_map_left_iff, List.forall₂_same]
  intro s hs
  exact segment?_eq_some_iff.2 (spells_writeSegment (h s hs))

/-! ## §8. The grammar. -/

/-- **A path is read by its grammar.**  It is read as segments exactly when
it is not empty and its pieces between points spell them one by one, and as
nothing when it is empty or one of its pieces spells no segment; what is
written of segments is read as them; and on every text the loop over
brackets ends. -/
theorem read_by_grammar :
    (∀ path segments, parse? path = some segments ↔
      path ≠ "" ∧ List.Forall₂ Spells (path.toList.splitOn '.') segments) ∧
    (∀ path, parse? path = none ↔
      path = "" ∨ ∃ piece ∈ path.toList.splitOn '.', ∀ s, ¬ Spells piece s) ∧
    (∀ segments, segments ≠ [] → (∀ s ∈ segments, Writable s) →
      parse? (write segments) = some segments) ∧
    ∀ cs, Loop cs [] (indices? cs) := by
  refine ⟨fun _ _ => parse?_eq_some_iff, fun _ => parse?_eq_none_iff, fun _ => parse?_write, ?_⟩
  intro cs
  have hends : Loop cs [] ((indices? cs).map ([] ++ ·)) := loop_indices? cs []
  rwa [show (([] : List Nat) ++ ·) = id from rfl, Option.map_id] at hends

/-- The largest index, a key that closes a bracket it never opened, and a
segment without a key are written and read again. -/
theorem largest_index_read_again :
    let segments : List Segment := [⟨"a]", [1, 18446744073709551615]⟩, ⟨"", [0]⟩]
    segments ≠ [] ∧ (∀ s ∈ segments, Writable s) ∧
      write segments = "a][1][18446744073709551615].[0]" ∧
      parse? "a][1][18446744073709551615].[0]" = some segments := by
  intro segments
  have hwritable : ∀ s ∈ segments, Writable s := by
    have hboth : Writable ⟨"a]", [1, 18446744073709551615]⟩ ∧ Writable ⟨"", [0]⟩ :=
      ⟨⟨by decide, by decide, by decide, by decide⟩, ⟨by decide, by decide, by decide, by decide⟩⟩
    simpa [segments] using hboth
  have hwritten : write segments = "a][1][18446744073709551615].[0]" := by decide
  have hne : segments ≠ [] := List.cons_ne_nil _ _
  exact ⟨hne, hwritable, hwritten, hwritten ▸ read_by_grammar.2.2.1 segments hne hwritable⟩

end FlowBench.Path

/-
  FlowBench.Proofs.Yaml.Tree
  ──────────────────────────
  **Trees that write a document.**

  A tree writes a document if it has the document's parts, in the document's
  order, and each scalar means what stands in its place; a single-precision
  number may be written as any double that is rounded to it.  A document
  reads back if the tree of its text writes it.  Nothing else is asked of the
  syntax: the value of such a tree tells the document, whatever place it is
  read at.
-/
import FlowBench.Proofs.Document
import FlowBench.Yaml.Printer
import FlowBench.Yaml.Reader

namespace FlowBench.Yaml

namespace Tree

open Value (Tells FieldsTell)

/-! ## §1. Writing a document. -/

/-- Whether a scalar, by its text and its meaning, says what a document
says. -/
def scalarSays (text : String) : Plain → Document → Bool
  | .null, .null => true
  | .bool b, .bool c => b = c
  | .int i, .int j => i = j && inRange i
  | .float y, .double x => y = x
  | .float y, .single x => if x.isFinite then y.isFinite && y.convert = x else !y.isFinite
  | .text, .text s => text = s
  | _, _ => false

mutual
/-- Whether a tree writes a document. -/
def writes : Document → Tree → Bool
  | .list ds, .list tag items => (ownTag? tag).isNone && writesItems ds items
  | .record ds, .mapping tag entries => (ownTag? tag).isNone && writesFields ds entries
  | d, .scalar tag p text =>
      (ownTag? tag).isNone
        && match meaning tag p text with
          | .ok m => scalarSays text m d
          | .error _ => false
  | _, _ => false

/-- Whether items write those of a list. -/
def writesItems : List Document → List Tree → Bool
  | [], [] => true
  | d :: ds, t :: ts => writes d t && writesItems ds ts
  | _, _ => false

/-- Whether entries write the fields of a record. -/
def writesFields : List (String × Document) → List (Tree × Tree) → Bool
  | [], [] => true
  | (key, d) :: ds, (.scalar _ _ text, t) :: es => text = key && writes d t && writesFields ds es
  | _, _ => false
end

variable {d : Document} {t : Tree} {tag : Option String} {isPlain : Bool} {text : String}

theorem writes_scalar_iff : writes d (.scalar tag isPlain text) = true ↔
    ownTag? tag = none ∧ ∃ m, meaning tag isPlain text = .ok m ∧ scalarSays text m d = true := by
  have heq : writes d (.scalar tag isPlain text) = ((ownTag? tag).isNone
      && match meaning tag isPlain text with
        | .ok m => scalarSays text m d
        | .error _ => false) := by
    cases d <;> rfl
  rw [heq, Bool.and_eq_true, Option.isNone_iff_eq_none]
  cases meaning tag isPlain text <;> simp

theorem writes_list_iff {ds : List Document} : writes (.list ds) t = true ↔
    ∃ tag items, t = .list tag items ∧ ownTag? tag = none ∧ writesItems ds items = true := by
  constructor
  · intro h
    cases t with
    | list tag items =>
      rw [writes, Bool.and_eq_true, Option.isNone_iff_eq_none] at h
      exact ⟨tag, items, rfl, h⟩
    | scalar tag p text =>
      -- no scalar means a list
      obtain ⟨-, m, -, hsays⟩ := writes_scalar_iff.1 h
      cases m <;> exact absurd hsays Bool.false_ne_true
    | _ => exact absurd h Bool.false_ne_true
  · rintro ⟨tag, items, rfl, htag, hitems⟩
    rw [writes, htag, hitems]
    rfl

theorem writes_record_iff {ds : List (String × Document)} : writes (.record ds) t = true ↔
    ∃ tag entries, t = .mapping tag entries ∧ ownTag? tag = none
      ∧ writesFields ds entries = true := by
  constructor
  · intro h
    cases t with
    | mapping tag entries =>
      rw [writes, Bool.and_eq_true, Option.isNone_iff_eq_none] at h
      exact ⟨tag, entries, rfl, h⟩
    | scalar tag p text =>
      -- no scalar means a record
      obtain ⟨-, m, -, hsays⟩ := writes_scalar_iff.1 h
      cases m <;> exact absurd hsays Bool.false_ne_true
    | _ => exact absurd h Bool.false_ne_true
  · rintro ⟨tag, entries, rfl, htag, hentries⟩
    rw [writes, htag, hentries]
    rfl

/-- What is neither a list nor a record is written by a scalar. -/
theorem exists_scalar_of_writes (h : writes d t = true) (hlist : ∀ ds, d ≠ .list ds)
    (hrecord : ∀ ds, d ≠ .record ds) : ∃ tag p text, t = .scalar tag p text := by
  cases t with
  | scalar tag p text => exact ⟨tag, p, text, rfl⟩
  | list =>
    cases d with
    | list ds => exact absurd rfl (hlist ds)
    | _ => exact absurd h Bool.false_ne_true
  | mapping =>
    cases d with
    | record ds => exact absurd rfl (hrecord ds)
    | _ => exact absurd h Bool.false_ne_true
  | _ => cases d <;> exact absurd h Bool.false_ne_true

theorem writes_text {s : String} (h : writes (.text s) t = true) :
    ∃ tag p, t = .scalar tag p s ∧ ownTag? tag = none := by
  obtain ⟨tag, p, text, rfl⟩ := exists_scalar_of_writes h nofun nofun
  obtain ⟨htag, m, -, hsays⟩ := writes_scalar_iff.1 h
  cases m with
  | text =>
    obtain rfl : text = s := of_decide_eq_true hsays
    exact ⟨tag, p, rfl, htag⟩
  | _ => exact absurd hsays Bool.false_ne_true

theorem writesItems_iff : ∀ {ds : List Document} {ts : List Tree}, writesItems ds ts = true ↔
    List.Forall₂ (fun d t => writes d t = true) ds ts
  | [], [] => by simp [writesItems]
  | [], _ :: _ => by simp [writesItems]
  | _ :: _, [] => by simp [writesItems]
  | d :: ds, t :: ts => by
    rw [writesItems, Bool.and_eq_true, writesItems_iff, List.forall₂_cons]

theorem writesFields_iff : ∀ {ds : List (String × Document)} {es : List (Tree × Tree)},
    writesFields ds es = true ↔
      List.Forall₂ (fun f e => (∃ tag p, e.1 = .scalar tag p f.1) ∧ writes f.2 e.2 = true) ds es
  | [], [] => by simp [writesFields]
  | [], _ :: _ => by simp [writesFields]
  | _ :: _, [] => by simp [writesFields]
  | (key, d) :: ds, (k, t) :: es => by
    cases k with
    | scalar tag p text =>
      rw [writesFields, Bool.and_eq_true, Bool.and_eq_true, decide_eq_true_eq, writesFields_iff,
        List.forall₂_cons]
      refine and_congr_left fun _ => and_congr_left fun _ => ?_
      constructor
      · rintro rfl
        exact ⟨tag, p, rfl⟩
      · rintro ⟨_, _, heq⟩
        exact (Tree.scalar.inj heq).2.2
    | _ => simp [writesFields]

/-! ## §2. The value of a tree that writes a document. -/

theorem scalarValue_of_says {m : Plain} (h : scalarSays text m d = true) (place : String) :
    ∃ v, scalarValue place text m = .ok v ∧ v.Tells d := by
  cases m with
  | null =>
    cases d with
    | null => exact ⟨_, rfl, .null⟩
    | _ => exact absurd h Bool.false_ne_true
  | bool b =>
    cases d with
    | bool c =>
      obtain rfl : b = c := of_decide_eq_true h
      exact ⟨_, rfl, .bool b⟩
    | _ => exact absurd h Bool.false_ne_true
  | int i =>
    cases d with
    | int j =>
      obtain ⟨heq, hrange⟩ := Bool.and_eq_true_iff.1 h
      obtain rfl : i = j := of_decide_eq_true heq
      exact ⟨_, if_pos hrange, .int i⟩
    | _ => exact absurd h Bool.false_ne_true
  | float y =>
    cases d with
    | double x =>
      obtain rfl : y = x := of_decide_eq_true h
      exact ⟨_, rfl, .double y⟩
    | single x =>
      rw [scalarSays] at h
      split at h
      case isTrue =>
        obtain ⟨hfinite, hround⟩ := Bool.and_eq_true_iff.1 h
        exact ⟨_, congrArg _ (if_pos hfinite), .single hfinite (of_decide_eq_true hround)⟩
      case isFalse hx =>
        have hy : ¬ y.isFinite = true := by simpa using h
        exact ⟨_, congrArg _ (if_neg hy), .unbounded (Bool.eq_false_of_not_eq_true hx)⟩
    | _ => exact absurd h Bool.false_ne_true
  | text =>
    cases d with
    | text s =>
      obtain rfl : text = s := of_decide_eq_true h
      exact ⟨_, rfl, .text text⟩
    | _ => exact absurd h Bool.false_ne_true

/-- The value of a scalar that writes a document. -/
theorem value_of_scalar (h : writes d t = true) (hlist : ∀ ds, d ≠ .list ds)
    (hrecord : ∀ ds, d ≠ .record ds) (place : String) :
    ∃ v, t.value place = .ok v ∧ v.Tells d := by
  obtain ⟨tag, p, text, rfl⟩ := exists_scalar_of_writes h hlist hrecord
  obtain ⟨htag, m, hmeaning, hsays⟩ := writes_scalar_iff.1 h
  obtain ⟨v, hv, htells⟩ := scalarValue_of_says hsays place
  refine ⟨v, ?_, htells⟩
  rw [value, htag]
  simp only [hmeaning]
  exact hv

mutual
/-- The value of a tree that writes a document tells the document. -/
theorem value_of_writes : (d : Document) → ∀ {t : Tree}, writes d t = true →
    ∀ place, ∃ v, t.value place = .ok v ∧ v.Tells d
  | .null, _, h, place => value_of_scalar h nofun nofun place
  | .bool _, _, h, place => value_of_scalar h nofun nofun place
  | .int _, _, h, place => value_of_scalar h nofun nofun place
  | .double _, _, h, place => value_of_scalar h nofun nofun place
  | .single _, _, h, place => value_of_scalar h nofun nofun place
  | .text _, _, h, place => value_of_scalar h nofun nofun place
  | .list ds, _, h, place => by
    obtain ⟨tag, items, rfl, htag, hitems⟩ := writes_list_iff.1 h
    obtain ⟨vs, hvs, htells⟩ := values_of_writesItems ds hitems place 0
    refine ⟨.arr vs, ?_, .list htells⟩
    rw [value, htag, hvs]
    rfl
  | .record ds, _, h, place => by
    obtain ⟨tag, entries, rfl, htag, hentries⟩ := writes_record_iff.1 h
    obtain ⟨es, hes, htell⟩ := values_of_writesFields ds hentries place "a string key"
    refine ⟨.object es, ?_, htell.tells⟩
    rw [value, htag, hes]
    rfl

theorem values_of_writesItems : (ds : List Document) → ∀ {ts : List Tree},
    writesItems ds ts = true → ∀ place index,
      ∃ vs, itemValues place index ts = .ok vs ∧ List.Forall₂ Tells vs ds
  | [], [], _, _, _ => ⟨[], rfl, .nil⟩
  | d :: ds, t :: ts, h, place, index => by
    rw [writesItems, Bool.and_eq_true] at h
    obtain ⟨v, hv, htells⟩ := value_of_writes d h.1 (Fault.item place index)
    obtain ⟨vs, hvs, hmore⟩ := values_of_writesItems ds h.2 place (index + 1)
    refine ⟨v :: vs, ?_, .cons htells hmore⟩
    rw [itemValues, hv, hvs]
    rfl

theorem values_of_writesFields : (ds : List (String × Document)) → ∀ {es : List (Tree × Tree)},
    writesFields ds es = true → ∀ place expected,
      ∃ vs, fieldValues place expected es = .ok vs ∧ FieldsTell vs ds
  | [], [], _, _, _ => ⟨[], rfl, .nil⟩
  | (key, d) :: ds, (.scalar tag p text, t) :: es, h, place, expected => by
    rw [writesFields, Bool.and_eq_true, Bool.and_eq_true, decide_eq_true_eq] at h
    obtain ⟨⟨rfl, ht⟩, hes⟩ := h
    obtain ⟨v, hv, htells⟩ := value_of_writes d ht (Fault.field place text)
    obtain ⟨vs, hvs, hmore⟩ := values_of_writesFields ds hes place "a string"
    refine ⟨(text, v) :: vs, ?_, .cons ⟨rfl, htells⟩ hmore⟩
    rw [fieldValues, keyText]
    show (value (Fault.field place text) t >>= _) = _
    rw [hv, hvs]
    rfl
end

theorem isNull_plain (tag : Option String) (text : String) :
    (scalar tag true text).isNull
      = if tag = standardTag "null" then
          if isNullWord text then .ok true else .error (.invalidValue (.text text) "null")
        else .ok (tag.isNone && (text.isEmpty || isNullWord text)) := rfl

/-- Where a word stands for null, null tells what it writes. -/
theorem isNull_of_writes (h : writes d t = true) :
    (t.isNull = .ok true ∧ Tells .null d) ∨ t.isNull = .ok false := by
  cases t with
  | scalar tag p text =>
    obtain ⟨-, m, hmeaning, hsays⟩ := writes_scalar_iff.1 h
    have hnull (hm : meaning tag p text = .ok .null) : Tells .null d := by
      obtain rfl := Except.ok.inj (hmeaning.symm.trans hm)
      obtain ⟨v, hv, htells⟩ := scalarValue_of_says hsays ""
      cases hv
      exact htells
    cases p with
    | false => exact .inr rfl
    | true =>
      rw [isNull_plain]
      by_cases htag : tag = standardTag "null"
      · subst htag
        by_cases hword : isNullWord text = true
        · exact .inl ⟨by rw [if_pos rfl, if_pos hword], hnull (if_pos hword)⟩
        · -- the tag would ask for a word that stands for null
          cases hmeaning.symm.trans (show meaning _ true text = .error "null" from if_neg hword)
      · rw [if_neg htag]
        cases tag with
        | some => exact .inr rfl
        | none =>
          by_cases hword : (text.isEmpty || isNullWord text) = true
          · have hof : Plain.of text = .null := if_pos hword
            exact .inl ⟨congrArg _ hword, hnull (congrArg _ hof)⟩
          · exact .inr (congrArg _ (Bool.eq_false_of_not_eq_true hword))
  | _ => exact .inr rfl

end Tree

/-- Whether a document reads back from its text. -/
def readsBack (d : Document) : Bool := (tree? (print d)).any (Tree.writes d)

end FlowBench.Yaml

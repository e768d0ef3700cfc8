/-
  FlowBench.Proofs.Shape
  ──────────────────────
  **Documents that fit a shape.**

  A shape is read in two ways: off a value, and off the tree of a text.  A
  document fits a shape if both succeed, on whatever value tells it and on
  whatever tree writes it, and give back a value that tells it again.  There
  is one rule for each shape; a record fits if its fields, in order, fit
  those of the shape, where all but the required ones may be left out.
-/
import FlowBench.Proofs.Yaml.Tree

namespace FlowBench

open Value (Tells FieldsTell)
open Entries (get?)

/-! ## §1. Reading one by one. -/

section Lists

variable {α β γ ε : Type}

theorem mapM_eq_ok {f : α → Except ε β} {R : β → γ → Prop} {as : List α} {cs : List γ}
    (h : List.Forall₂ (fun a c => ∃ b, f a = .ok b ∧ R b c) as cs) :
    ∃ bs, as.mapM f = .ok bs ∧ List.Forall₂ R bs cs := by
  induction h with
  | nil => exact ⟨[], rfl, .nil⟩
  | @cons a c as cs ha _ ih =>
    obtain ⟨b, hb, hR⟩ := ha
    obtain ⟨bs, hbs, hRs⟩ := ih
    refine ⟨b :: bs, ?_, .cons hR hRs⟩
    rw [List.mapM_cons, hb]
    show (as.mapM f >>= _) = _
    rw [hbs]
    rfl

theorem filterMapM_eq_ok {f : α → Except ε (Option β)} {R : α → β → Prop} {as : List α}
    (h : ∀ a ∈ as, ∃ b, f a = .ok (some b) ∧ R a b) :
    ∃ bs, as.filterMapM f = .ok bs ∧ List.Forall₂ R as bs := by
  induction as with
  | nil => exact ⟨[], rfl, .nil⟩
  | cons a as ih =>
    obtain ⟨b, hb, hR⟩ := h a List.mem_cons_self
    obtain ⟨bs, hbs, hRs⟩ := ih fun a' ha' => h a' (List.mem_cons_of_mem a ha')
    refine ⟨b :: bs, ?_, .cons hR hRs⟩
    rw [List.filterMapM_cons, hb]
    show (as.filterMapM f >>= _) = _
    rw [hbs]
    rfl

/-- What is true of a list's members may be used when it is gone through. -/
theorem forall₂_mem {R S : α → β → Prop} {as : List α} {bs : List β} (h : List.Forall₂ R as bs)
    (himp : ∀ a ∈ as, ∀ b, R a b → S a b) : List.Forall₂ S as bs :=
  ((List.forall₂_and_left _ _).2 ⟨fun _ ha => ha, h⟩).imp fun a b hab => himp a hab.1 b hab.2

theorem forall₂_zipIdx {R : α → β → Prop} {as : List α} {bs : List β} (h : List.Forall₂ R as bs)
    (n : Nat) : List.Forall₂ (fun e b => R e.1 b) (as.zipIdx n) bs := by
  induction h generalizing n with
  | nil => exact .nil
  | cons hab _ ih => exact .cons hab (ih (n + 1))

end Lists

/-! ## §2. Fitting. -/

namespace Document

/-- Both readings of a shape understand a document. -/
structure Fits (d : Document) (s : Shape) : Prop where
  read : ∀ {v : Value}, v.Tells d → ∀ source, ∃ w, s.read source v = .ok w ∧ w.Tells d
  readTree : ∀ {t : Yaml.Tree}, t.writes d → ∀ place, ∃ w, t.read place s = .ok w ∧ w.Tells d

variable {d : Document} {s : Shape}

theorem fits_any : d.Fits .any where
  read {v} hv _ := ⟨v, rfl, hv⟩
  readTree ht place := Yaml.Tree.value_of_writes d ht place

/-- Where a tree is read by its value, nothing is asked beyond that. -/
theorem Fits.of_value
    (hread : ∀ {v : Value}, v.Tells d → ∀ source, ∃ w, s.read source v = .ok w ∧ w.Tells d)
    (htree : ∀ place (t : Yaml.Tree), t.read place s = (do
      let v ← t.value place
      (s.read .held v).mapError fun cause => ⟨some place, cause⟩)) : d.Fits s where
  read := hread
  readTree {t} ht place := by
    obtain ⟨v, hv, htells⟩ := Yaml.Tree.value_of_writes d ht place
    obtain ⟨w, hw, hback⟩ := hread htells .held
    refine ⟨w, ?_, hback⟩
    rw [htree, hv]
    show Except.mapError _ (s.read .held v) = _
    rw [hw]
    rfl

theorem fits_text (text : String) : (Document.text text).Fits .text where
  read hv _ := by
    cases hv
    exact ⟨_, rfl, .text text⟩
  readTree ht _ := by
    obtain ⟨tag, p, rfl, -⟩ := Yaml.Tree.writes_text ht
    exact ⟨_, rfl, .text text⟩

theorem fits_choice {word : String} {words : List String} (h : word ∈ words) :
    (Document.text word).Fits (.choice words) where
  read hv _ := by
    cases hv
    exact ⟨_, if_pos h, .text word⟩
  readTree ht place := by
    obtain ⟨tag, p, rfl, htag⟩ := Yaml.Tree.writes_text ht
    refine ⟨.str word, ?_, .text word⟩
    show Yaml.Tree.readChoice place words (.scalar tag p word) = _
    unfold Yaml.Tree.readChoice
    simp only [htag]
    exact if_pos h

theorem fits_truth (b : Bool) : (Document.bool b).Fits .truth := by
  refine .of_value (fun hv _ => ?_) fun place t => by simp only [Yaml.Tree.read]
  cases hv
  exact ⟨_, rfl, .bool b⟩

theorem fits_single {x : Binary32} (hx : x.isFinite = true) : (Document.single x).Fits .single := by
  refine .of_value (fun hv _ => ?_) fun place t => by simp only [Yaml.Tree.read]
  cases hv with
  | @single _ y _ hround =>
    obtain ⟨hfinite, hwide⟩ := Binary.widen_exact hx
    refine ⟨_, rfl, ?_⟩
    rw [hround]
    exact .single hfinite hwide
  | unbounded hnot => exact absurd hx (by rw [hnot]; exact Bool.false_ne_true)

theorem fits_bare (title : String) : (Document.record []).Fits (.bare title) := by
  refine .of_value (fun hv _ => ?_) fun place t => by simp only [Yaml.Tree.read]
  obtain ⟨fields, rfl, hfields⟩ := hv.fields
  cases hfields
  exact ⟨.object [], rfl, hv⟩

theorem Fits.orNull (h : d.Fits s) : d.Fits (.orNull s) where
  read {v} hv source := by
    cases hnull : v with
    | null => exact ⟨.null, rfl, hnull ▸ hv⟩
    | _ => exact h.read (hnull ▸ hv) source
  readTree {t} ht place := by
    rcases Yaml.Tree.isNull_of_writes ht with ⟨hnull, htells⟩ | hnull
    · exact ⟨.null, by simp only [Yaml.Tree.read, hnull], htells⟩
    · obtain ⟨w, hw, hback⟩ := h.readTree ht place
      exact ⟨w, by simp only [Yaml.Tree.read, hnull, hw], hback⟩

/-- A further check must keep what the document says. -/
theorem Fits.refined {check : Value → Except ShapeError Value} (h : d.Fits s)
    (hcheck : ∀ v, v.Tells d → ∃ w, check v = .ok w ∧ w.Tells d) : d.Fits (.refined s check) where
  read hv source := by
    obtain ⟨v, hread, hv⟩ := h.read hv source
    obtain ⟨w, hw, hback⟩ := hcheck v hv
    refine ⟨w, ?_, hback⟩
    simp only [Shape.read, hread, Except.bind, hw]
  readTree ht place := by
    obtain ⟨v, hread, hv⟩ := h.readTree ht place
    obtain ⟨w, hw, hback⟩ := hcheck v hv
    refine ⟨w, ?_, hback⟩
    simp only [Yaml.Tree.read, hread]
    show Except.mapError _ (check v) = _
    rw [hw]
    rfl

theorem fits_list {ds : List Document} (h : ∀ d ∈ ds, d.Fits s) :
    (Document.list ds).Fits (.list s) where
  read hv source := by
    cases hv with
    | list hitems =>
      obtain ⟨ws, hws, htell⟩ := mapM_eq_ok (forall₂_mem hitems.flip fun d hd v hv =>
        (h d hd).read hv source).flip
      refine ⟨.arr ws, ?_, .list htell⟩
      rw [Shape.read, hws]
      rfl
  readTree ht place := by
    obtain ⟨tag, items, rfl, -, hitems⟩ := Yaml.Tree.writes_list_iff.1 ht
    have hread : List.Forall₂ (fun (t : Yaml.Tree) d =>
        ∀ place, ∃ w, t.read place s = .ok w ∧ w.Tells d) items ds :=
      (forall₂_mem (Yaml.Tree.writesItems_iff.1 hitems) fun d hd _ ht => (h d hd).readTree ht).flip
    obtain ⟨ws, hws, htell⟩ := mapM_eq_ok ((forall₂_zipIdx hread 0).imp fun e _ he =>
      he (Yaml.Fault.item place e.2))
    refine ⟨.arr ws, ?_, .list htell⟩
    rw [Yaml.Tree.read, hws]
    rfl

/-! ## §3. Tables and records. -/

section Keyed

variable {ds : List (String × Document)} {es ws : List (String × Value)}

/-- Each field of an object that tells a record tells one of its fields. -/
theorem exists_told (hes : Entries.Increasing es) (hds : (ds.map Prod.fst).Nodup)
    (htell : ∀ k, Option.Rel Tells (get? k es) (get? k ds)) {e : String × Value} (he : e ∈ es) :
    ∃ d, (e.1, d) ∈ ds ∧ e.2.Tells d := by
  have hrel := htell e.1
  rw [(Entries.get?_eq_some_iff hes.nodup).2 he] at hrel
  generalize hd : get? e.1 ds = found at hrel
  cases hrel with
  | some htells => exact ⟨_, (Entries.get?_eq_some_iff hds).1 hd, htells⟩

theorem keys_subset (htell : ∀ k, Option.Rel Tells (get? k es) (get? k ds)) :
    ds.map Prod.fst ⊆ es.map Prod.fst := by
  intro k hk
  by_contra hnot
  have hrel := htell k
  rw [(Entries.get?_eq_none_iff k es).2 hnot] at hrel
  generalize hd : get? k ds = d at hrel
  cases hrel
  exact (Entries.get?_eq_none_iff k ds).1 hd hk

/-- Fields in key order that were read one by one tell the record again. -/
theorem tells_of_read (hes : Entries.Increasing es) (hds : (ds.map Prod.fst).Nodup)
    (htell : ∀ k, Option.Rel Tells (get? k es) (get? k ds))
    (hread : List.Forall₂ (fun w e => w.1 = e.1 ∧ ∃ d, (w.1, d) ∈ ds ∧ w.2.Tells d) ws es) :
    Entries.Increasing ws ∧ (Value.obj ws).Tells (.record ds) := by
  have hkeys : ws.map Prod.fst = es.map Prod.fst :=
    List.forall₂_eq_eq_eq ▸ List.forall₂_map_left_iff.2 (List.forall₂_map_right_iff.2
      (hread.imp fun _ _ he => he.1))
  have hws : Entries.Increasing ws := by
    unfold Entries.Increasing at hes ⊢
    rwa [hkeys]
  refine ⟨hws, Value.tells_of_get? hws hds fun k => ?_⟩
  have hrel := Entries.rel_get? (R := fun k w _ => ∃ d, (k, d) ∈ ds ∧ Tells w d) hread k
  have hback := htell k
  generalize get? k es = e at hrel hback
  generalize get? k ws = w at hrel ⊢
  cases hrel with
  | none =>
    generalize get? k ds = d at hback ⊢
    cases hback
    exact .none
  | some hkeep =>
    obtain ⟨d, hd, htells⟩ := hkeep
    rw [(Entries.get?_eq_some_iff hds).2 hd]
    exact .some htells

theorem fits_table (hds : (ds.map Prod.fst).Nodup) (h : ∀ e ∈ ds, e.2.Fits s) :
    (Document.record ds).Fits (.table s) where
  read hv source := by
    have htell := hv.field? hds
    obtain ⟨fields, rfl, -⟩ := hv.fields
    have hes := Entries.increasing_ofList fields
    have hstep : ∀ e ∈ Entries.ofList fields,
        ∃ w, ((s.read source e.2).map fun v => (e.1, v)) = .ok w
          ∧ (w.1 = e.1 ∧ ∃ d, (w.1, d) ∈ ds ∧ w.2.Tells d) := fun e he => by
      obtain ⟨d, hd, htells⟩ := exists_told hes hds htell he
      obtain ⟨w, hw, hback⟩ := (h _ hd).read htells source
      exact ⟨(e.1, w), by rw [hw]; rfl, rfl, d, hd, hback⟩
    obtain ⟨ws, hws, hread⟩ := mapM_eq_ok (List.forall₂_same.2 hstep)
    refine ⟨.obj ws, ?_, (tells_of_read hes hds htell hread).2⟩
    show Shape.read source (.table s) (.obj (Entries.ofList fields)) = _
    rw [Shape.read, hws]
    rfl
  readTree ht place := by
    obtain ⟨tag, entries, rfl, -, hentries⟩ := Yaml.Tree.writes_record_iff.1 ht
    have hstep : List.Forall₂ (fun (e : Yaml.Tree × Yaml.Tree) f => ∃ w, (do
        let key ← Yaml.Tree.keyText place "a string" e.1
        let v ← e.2.read (Yaml.Fault.field place key) s
        return (key, v)) = .ok w ∧ (w.1 = f.1 ∧ w.2.Tells f.2)) entries ds := by
      refine (forall₂_mem (Yaml.Tree.writesFields_iff.1 hentries) fun f hf e he => ?_).flip
      obtain ⟨key, t⟩ := e
      obtain ⟨⟨tag, p, rfl⟩, ht⟩ := he
      obtain ⟨w, hw, hback⟩ := (h f hf).readTree ht (Yaml.Fault.field place f.1)
      refine ⟨(f.1, w), ?_, rfl, hback⟩
      show (t.read (Yaml.Fault.field place f.1) s >>= _) = _
      rw [hw]
      rfl
    obtain ⟨ws, hws, htell⟩ := mapM_eq_ok hstep
    refine ⟨.object ws, ?_, FieldsTell.tells htell⟩
    rw [Yaml.Tree.read, hws]
    rfl

end Keyed

/-- Fields of a document, in the order of a record's: all but the required
ones may be left out. -/
inductive FitFields : List (String × Document) → List (String × Presence × Shape) → Prop where
  | nil : FitFields [] []
  | given {name : String} {d : Document} {presence : Presence} {s : Shape}
      {ds : List (String × Document)} {fields : List (String × Presence × Shape)}
      (hd : d.Fits s) (h : FitFields ds fields) :
      FitFields ((name, d) :: ds) ((name, presence, s) :: fields)
  | omitted {name : String} {presence : Presence} {s : Shape}
      {ds : List (String × Document)} {fields : List (String × Presence × Shape)}
      (hp : presence ≠ .required) (h : FitFields ds fields) :
      FitFields ds ((name, presence, s) :: fields)

namespace FitFields

variable {ds : List (String × Document)} {fields : List (String × Presence × Shape)}

theorem sublist (h : FitFields ds fields) :
    (ds.map Prod.fst).Sublist (fields.map Prod.fst) := by
  induction h with
  | nil => exact .slnil
  | given _ _ ih => exact ih.cons_cons _
  | omitted _ _ ih => exact ih.cons _

/-- Where all that is given is read, nothing is missed. -/
theorem missing?_eq_none (h : FitFields ds fields) {keys : List String}
    (hkeys : ds.map Prod.fst ⊆ keys) : Shape.missing? fields keys = none := by
  unfold Shape.missing?
  rw [Option.map_eq_none_iff, List.find?_eq_none]
  intro f hf
  induction h with
  | nil => cases hf
  | given _ _ ih =>
    rw [List.map_cons, List.cons_subset] at hkeys
    rcases List.mem_cons.1 hf with rfl | hf
    · simp [hkeys.1]
    · exact ih hkeys.2 hf
  | omitted hp _ ih =>
    rcases List.mem_cons.1 hf with rfl | hf
    · simp [hp]
    · exact ih hkeys hf

/-- A field that is written only when it is there. -/
theorem optional {key : String} {s : Shape} {o : Option Document} (ho : ∀ d, o = some d → d.Fits s)
    (h : FitFields ds fields) :
    FitFields (optionalField key o ++ ds) ((key, .defaulted, s) :: fields) := by
  cases o with
  | none => exact .omitted nofun h
  | some d => exact .given (ho d rfl) h

theorem optional_last {key : String} {s : Shape} {o : Option Document}
    (ho : ∀ d, o = some d → d.Fits s) :
    FitFields (optionalField key o) [(key, .defaulted, s)] := by
  simpa using optional ho .nil

/-- A field that is written unless it is empty. -/
theorem nonempty {key : String} {s : Shape} {d : Document} (isEmpty : Bool) (hd : d.Fits s)
    (h : FitFields ds fields) :
    FitFields ((if isEmpty then [] else [(key, d)]) ++ ds) ((key, .defaulted, s) :: fields) := by
  cases isEmpty with
  | true => exact .omitted nofun h
  | false => exact .given hd h

theorem nonempty_last {key : String} {s : Shape} {d : Document} (isEmpty : Bool) (hd : d.Fits s) :
    FitFields (if isEmpty then [] else [(key, d)]) [(key, .defaulted, s)] := by
  simpa using nonempty isEmpty hd .nil

/-- A field that is given has a place in the record, and fits there. -/
theorem exists_field (h : FitFields ds fields) {f : String × Document} (hf : f ∈ ds) :
    ∃ presence s, (f.1, presence, s) ∈ fields ∧ f.2.Fits s := by
  induction h with
  | nil => cases hf
  | given hd _ ih =>
    rcases List.mem_cons.1 hf with rfl | hf
    · exact ⟨_, _, List.mem_cons_self, hd⟩
    · obtain ⟨presence, s, hmem, hfits⟩ := ih hf
      exact ⟨presence, s, List.mem_cons_of_mem _ hmem, hfits⟩
  | omitted _ _ ih =>
    obtain ⟨presence, s, hmem, hfits⟩ := ih hf
    exact ⟨presence, s, List.mem_cons_of_mem _ hmem, hfits⟩

end FitFields

/-- The place of a field is found by its name. -/
theorem readField_eq (source : Source) (key : String) (v : Value)
    (fields : List (String × Presence × Shape)) :
    Shape.readField source fields key v = match get? key fields with
      | some f => (f.2.read source v).map fun w => some (key, w)
      | none => .ok none := by
  induction fields with
  | nil => rfl
  | cons f rest ih =>
    obtain ⟨name, presence, s⟩ := f
    rw [Shape.readField, get?]
    split
    case isTrue hname => rw [hname]
    case isFalse => exact ih

theorem readFieldTree_eq (place key : String) (t : Yaml.Tree)
    (fields : List (String × Presence × Shape)) :
    Yaml.Tree.readField place fields key t = match get? key fields with
      | some f => (t.read (Yaml.Fault.field place key) f.2).map fun w => some (key, w)
      | none => .ok none := by
  induction fields with
  | nil => rfl
  | cons f rest ih =>
    obtain ⟨name, presence, s⟩ := f
    rw [Yaml.Tree.readField, get?]
    split
    case isTrue hname => rw [hname]
    case isFalse => exact ih

namespace FitFields

variable {ds : List (String × Document)} {fields : List (String × Presence × Shape)}
  {f : String × Document}

theorem readField (h : FitFields ds fields) (hnames : (fields.map Prod.fst).Nodup) (hf : f ∈ ds)
    {v : Value} (hv : v.Tells f.2) (source : Source) :
    ∃ w, Shape.readField source fields f.1 v = .ok (some (f.1, w)) ∧ w.Tells f.2 := by
  obtain ⟨presence, s, hs, hfits⟩ := h.exists_field hf
  obtain ⟨w, hw, hback⟩ := hfits.read hv source
  refine ⟨w, ?_, hback⟩
  rw [readField_eq, (Entries.get?_eq_some_iff hnames).2 hs]
  show Except.map _ (s.read source v) = _
  rw [hw]
  rfl

theorem readFieldTree (h : FitFields ds fields) (hnames : (fields.map Prod.fst).Nodup)
    (hf : f ∈ ds) {t : Yaml.Tree} (ht : t.writes f.2) (place : String) :
    ∃ w, Yaml.Tree.readField place fields f.1 t = .ok (some (f.1, w)) ∧ w.Tells f.2 := by
  obtain ⟨presence, s, hs, hfits⟩ := h.exists_field hf
  obtain ⟨w, hw, hback⟩ := hfits.readTree ht (Yaml.Fault.field place f.1)
  refine ⟨w, ?_, hback⟩
  rw [readFieldTree_eq, (Entries.get?_eq_some_iff hnames).2 hs]
  show Except.map _ (t.read (Yaml.Fault.field place f.1) s) = _
  rw [hw]
  rfl

end FitFields

theorem repeated?_eq_none (fields : List (String × Presence × Shape)) : ∀ {keys : List String},
    keys.Nodup → Yaml.Tree.repeated? fields keys = none
  | [], _ => rfl
  | key :: rest, h => by
    rw [List.nodup_cons] at h
    have hnew : rest.contains key = false := by simpa using h.1
    rw [Yaml.Tree.repeated?, hnew, Bool.false_and, if_neg Bool.false_ne_true,
      repeated?_eq_none fields h.2]

/-- Fields that were read in the order of a record tell it. -/
theorem fieldsTell_of_given {ds : List (String × Document)}
    {given : List (String × Option (String × Value))}
    (h : List.Forall₂
      (fun g f => g.1 = f.1 ∧ ∃ v, g.2 = some (f.1, v) ∧ Tells v f.2) given ds) :
    given.map Prod.fst = ds.map Prod.fst ∧ FieldsTell (given.filterMap Prod.snd) ds := by
  induction h with
  | nil => exact ⟨rfl, .nil⟩
  | cons he _ ih =>
    obtain ⟨hkey, v, hv, htells⟩ := he
    rw [List.map_cons, List.map_cons, hkey, ih.1, List.filterMap_cons_some hv]
    exact ⟨rfl, .cons ⟨rfl, htells⟩ ih.2⟩

theorem fits_record {title : String} {ds : List (String × Document)}
    {fields : List (String × Presence × Shape)} (h : FitFields ds fields)
    (hnames : (fields.map Prod.fst).Nodup) : (Document.record ds).Fits (.record title fields) where
  read hv source := by
    have hds := h.sublist.nodup hnames
    have htell := hv.field? hds
    obtain ⟨given, rfl, -⟩ := hv.fields
    -- a value has its fields in key order, so they meet the record's by their keys
    have hes := Entries.increasing_ofList given
    have hstep : ∀ e ∈ Entries.ofList given,
        ∃ w, Shape.readField source fields e.1 e.2 = .ok (some w)
          ∧ (w.1 = e.1 ∧ ∃ d, (w.1, d) ∈ ds ∧ w.2.Tells d) := fun e he => by
      obtain ⟨d, hd, htells⟩ := exists_told hes hds htell he
      obtain ⟨w, hw, hback⟩ := h.readField hnames hd htells source
      exact ⟨(e.1, w), hw, rfl, d, hd, hback⟩
    obtain ⟨ws, hws, hread⟩ := filterMapM_eq_ok hstep
    obtain ⟨hincreasing, hback⟩ := tells_of_read hes hds htell hread.flip
    refine ⟨.object ws, ?_, by rwa [Value.object, Entries.ofList_eq_self hincreasing]⟩
    have hmissing := h.missing?_eq_none (keys_subset htell)
    simp only [Value.object, Shape.read, hws, hmissing, bind, Except.bind]
  readTree ht place := by
    have hds := h.sublist.nodup hnames
    obtain ⟨tag, entries, rfl, -, hentries⟩ := Yaml.Tree.writes_record_iff.1 ht
    -- a tree has its entries in the record's order, so they meet one by one
    have hstep : List.Forall₂ (fun (e : Yaml.Tree × Yaml.Tree) f => ∃ w, (do
        let key ← Yaml.Tree.keyText place "field identifier" e.1
        let field ← Yaml.Tree.readField place fields key e.2
        return (key, field)) = .ok w
          ∧ (w.1 = f.1 ∧ ∃ v, w.2 = some (f.1, v) ∧ v.Tells f.2)) entries ds := by
      refine (forall₂_mem (Yaml.Tree.writesFields_iff.1 hentries) fun f hf e he => ?_).flip
      obtain ⟨key, t⟩ := e
      obtain ⟨⟨tag, p, rfl⟩, ht⟩ := he
      obtain ⟨w, hw, hback⟩ := h.readFieldTree hnames hf ht place
      refine ⟨(f.1, some (f.1, w)), ?_, rfl, w, rfl, hback⟩
      show (Yaml.Tree.readField place fields f.1 t >>= _) = _
      rw [hw]
      rfl
    obtain ⟨given, hgiven, hread⟩ := mapM_eq_ok hstep
    obtain ⟨hkeys, htell⟩ := fieldsTell_of_given hread
    refine ⟨.object (given.filterMap Prod.snd), ?_, htell.tells⟩
    have hrepeated := repeated?_eq_none fields hds
    have hmissing := h.missing?_eq_none (List.Subset.refl (ds.map Prod.fst))
    rw [Yaml.Tree.read]
    show (Yaml.Fault.locate place (List.mapM _ entries) >>= _) = _
    rw [hgiven]
    simp only [Yaml.Fault.locate, Except.mapError, bind, Except.bind, hkeys, hrepeated, hmissing]

end Document

/-! ## §4. What is read back. -/

namespace Value

variable {v : Value} {ds : List (String × Document)} {k : String}

theorem Tells.field?_eq_some (h : v.Tells (.record ds)) (hds : (ds.map Prod.fst).Nodup)
    {d : Document} (hk : get? k ds = some d) : ∃ x, v.field? k = some x ∧ x.Tells d := by
  have hrel := h.field? hds k
  rw [hk] at hrel
  generalize v.field? k = found at hrel
  cases hrel with
  | some hx => exact ⟨_, rfl, hx⟩

theorem Tells.field?_eq_none (h : v.Tells (.record ds)) (hds : (ds.map Prod.fst).Nodup)
    (hk : get? k ds = none) : v.field? k = none := by
  have hrel := h.field? hds k
  rw [hk] at hrel
  generalize v.field? k = found at hrel
  cases hrel
  rfl

theorem Tells.textAt?_eq (h : v.Tells (.record ds)) (hds : (ds.map Prod.fst).Nodup)
    {text : Option String} (hk : get? k ds = text.map .text) : v.textAt? k = text := by
  unfold textAt?
  cases text with
  | none => rw [h.field?_eq_none hds hk]; rfl
  | some s =>
    obtain ⟨x, hx, htells⟩ := h.field?_eq_some hds hk
    cases htells
    rw [hx]
    rfl

theorem Tells.textAtD_eq (h : v.Tells (.record ds)) (hds : (ds.map Prod.fst).Nodup)
    {text : String} (hk : get? k ds = some (.text text)) (fallback : String) :
    v.textAtD k fallback = text := by
  have htext : v.textAt? k = some text := h.textAt?_eq hds hk
  rw [textAtD, htext]
  rfl

theorem Tells.truthAtD_eq (h : v.Tells (.record ds)) (hds : (ds.map Prod.fst).Nodup)
    {b : Bool} (hk : get? k ds = some (.bool b)) (fallback : Bool) :
    v.truthAtD k fallback = b := by
  obtain ⟨x, hx, htells⟩ := h.field?_eq_some hds hk
  cases htells
  rw [truthAtD, hx]
  rfl

theorem Tells.singleAt?_eq (h : v.Tells (.record ds)) (hds : (ds.map Prod.fst).Nodup)
    {x : Option Binary32} (hx : ∀ y, x = some y → y.isFinite = true)
    (hk : get? k ds = x.map .single) : v.singleAt? k = x := by
  unfold singleAt?
  cases x with
  | none => rw [h.field?_eq_none hds hk]
  | some y =>
    obtain ⟨w, hw, htells⟩ := h.field?_eq_some hds hk
    rw [hw]
    cases htells with
    | single _ hround => exact congrArg some hround
    | unbounded hnot => exact absurd (hx y rfl) (by rw [hnot]; exact Bool.false_ne_true)

theorem Tells.listAt (h : v.Tells (.record ds)) (hds : (ds.map Prod.fst).Nodup)
    {items : List Document} (hk : get? k ds = some (.list items)) :
    List.Forall₂ Tells (v.listAt k) items := by
  obtain ⟨x, hx, htells⟩ := h.field?_eq_some hds hk
  cases htells with
  | list hitems =>
    rw [Value.listAt, hx]
    exact hitems

/-- The items of a list that is written unless it is empty. -/
theorem Tells.listAt_of_nonempty (h : v.Tells (.record ds)) (hds : (ds.map Prod.fst).Nodup)
    {items : List Document} (hk : get? k ds = if items.isEmpty then none else some (.list items)) :
    List.Forall₂ Tells (v.listAt k) items := by
  split at hk
  case isTrue hempty =>
    rw [List.isEmpty_iff.1 hempty, Value.listAt, h.field?_eq_none hds hk]
    exact .nil
  case isFalse => exact h.listAt hds hk

/-- Items that tell documents of things describe these things, where each
document does. -/
theorem map_eq_of_tells {α : Type} {f : α → Document} {g : Value → α} {things : List α}
    {items : List Value} (hg : ∀ a ∈ things, ∀ w, w.Tells (f a) → g w = a)
    (h : List.Forall₂ Tells items (things.map f)) : items.map g = things := by
  rw [List.forall₂_map_right_iff] at h
  have heq := forall₂_mem h.flip fun a ha w hw => hg a ha w hw
  exact List.forall₂_eq_eq_eq ▸ List.forall₂_map_left_iff.2 heq.flip

theorem Tells.tableAt (h : v.Tells (.record ds)) (hds : (ds.map Prod.fst).Nodup)
    {fields : List (String × Document)} (hfields : (fields.map Prod.fst).Nodup)
    (hk : get? k ds = some (.record fields)) (key : String) :
    Option.Rel Tells ((v.tableAt k).get? key) (get? key fields) := by
  obtain ⟨x, hx, htells⟩ := h.field?_eq_some hds hk
  have hrel := htells.field? hfields key
  obtain ⟨es, rfl, -⟩ := htells.fields
  rw [Value.tableAt, hx]
  show Option.Rel Tells (get? key (Entries.ofList (Entries.ofList es))) _
  rwa [Entries.get?_ofList (Entries.increasing_ofList es).nodup]

/-- A table that is told entry by entry, where each entry tells one value
only. -/
theorem Tells.tableAt_eq {α : Type} {t : Table α} {f : α → Document} {g : Value → Option α}
    (h : v.Tells (.record ds)) (hds : (ds.map Prod.fst).Nodup)
    (hg : ∀ a w, (∃ key, t.get? key = some a) → w.Tells (f a) → g w = some a)
    (hk : get? k ds = some (.record (t.entries.map fun e => (e.1, f e.2)))) :
    (v.tableAt k).filterMap g = t := by
  refine Table.ext_get? fun key => ?_
  have hkeys : ((t.entries.map fun e => (e.1, f e.2)).map Prod.fst).Nodup := by
    rw [List.map_map]
    exact t.increasing.nodup
  have hrel := h.tableAt hds hkeys hk key
  rw [Entries.get?_map] at hrel
  rw [Table.get?_filterMap]
  generalize (v.tableAt k).get? key = found at hrel ⊢
  change Option.Rel Tells found ((t.get? key).map f) at hrel
  cases ha : t.get? key with
  | none =>
    rw [ha] at hrel
    cases hrel
    rfl
  | some a =>
    rw [ha] at hrel
    cases hrel with
    | some hw => exact hg a _ ⟨key, ha⟩ hw

/-- A table that is written unless it is empty. -/
theorem Tells.tableAt_of_nonempty {α : Type} {t : Table α} {f : α → Document}
    {g : Value → Option α} (h : v.Tells (.record ds)) (hds : (ds.map Prod.fst).Nodup)
    (hg : ∀ a w, (∃ key, t.get? key = some a) → w.Tells (f a) → g w = some a)
    (hk : get? k ds
      = if t.isEmpty then none else some (.record (t.entries.map fun e => (e.1, f e.2)))) :
    (v.tableAt k).filterMap g = t := by
  split at hk
  case isTrue hempty =>
    obtain rfl : t = Table.empty := Table.eq_empty_of_isEmpty hempty
    rw [Value.tableAt, h.field?_eq_none hds hk]
    rfl
  case isFalse => exact h.tableAt_eq hds hg hk

end Value

end FlowBench

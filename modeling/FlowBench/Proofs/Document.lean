/-
  FlowBench.Proofs.Document
  ─────────────────────────
  **What a value tells of a document.**

  A document keeps apart what a value does not: single precision, and the
  order of fields.  So a document is told by more than one value: where it
  has a single-precision number, any double will do that is rounded to it.
  `Value.Tells` is this relation.  The value that a document stands for tells
  it, and of a document that is made of a value nothing but that value does,
  if it is one that data can have: its objects in key order, its floats
  numbers.
-/
import FlowBench.Document
import FlowBench.Proofs.Number.Binary
import FlowBench.Proofs.Table

namespace FlowBench

namespace Value

/-! ## §1. Values of data. -/

mutual
/-- A value that data can have: no key stands twice or out of order, and
every float is a number. -/
def Proper : Value → Prop
  | .float x => x.isFinite = true
  | .arr items => ItemsProper items
  | .obj fields => Entries.Increasing fields ∧ FieldsProper fields
  | .null | .bool _ | .int _ | .str _ => True

/-- Every item of a list is proper. -/
def ItemsProper : List Value → Prop
  | [] => True
  | v :: rest => v.Proper ∧ ItemsProper rest

/-- Every field of an object is proper. -/
def FieldsProper : List (String × Value) → Prop
  | [] => True
  | (_, v) :: rest => v.Proper ∧ FieldsProper rest
end

/-! ## §2. Telling. -/

/-- A value tells a document: it has the same parts.  A single-precision
number is told by a double that is rounded to it, and one that is not finite
by `null`. -/
inductive Tells : Value → Document → Prop where
  | null : Tells .null .null
  | bool (b : Bool) : Tells (.bool b) (.bool b)
  | int (i : Int) : Tells (.int i) (.int i)
  | double (x : Binary64) : Tells (Document.numberValue x) (.double x)
  | single {x : Binary32} {y : Binary64} (hfinite : y.isFinite = true) (hround : y.convert = x) :
      Tells (.float y) (.single x)
  | unbounded {x : Binary32} (hx : x.isFinite = false) : Tells .null (.single x)
  | text (s : String) : Tells (.str s) (.text s)
  | list {items : List Value} {ds : List Document} (hitems : List.Forall₂ Tells items ds) :
      Tells (.arr items) (.list ds)
  | record {fields : List (String × Value)} {ds : List (String × Document)}
      (hkeys : fields.map Prod.fst = ds.map Prod.fst)
      (hfields : List.Forall₂ Tells (fields.map Prod.snd) (ds.map Prod.snd)) :
      Tells (.object fields) (.record ds)

/-- Fields tell the fields of a document, one by one. -/
def FieldsTell (fields : List (String × Value)) (ds : List (String × Document)) : Prop :=
  List.Forall₂ (fun e f => e.1 = f.1 ∧ e.2.Tells f.2) fields ds

theorem fieldsTell_iff {fields : List (String × Value)} {ds : List (String × Document)} :
    FieldsTell fields ds ↔ fields.map Prod.fst = ds.map Prod.fst
      ∧ List.Forall₂ Tells (fields.map Prod.snd) (ds.map Prod.snd) := by
  rw [← List.forall₂_eq_eq_eq, List.forall₂_map_left_iff, List.forall₂_map_right_iff,
    List.forall₂_map_left_iff, List.forall₂_map_right_iff]
  constructor
  · intro h
    exact ⟨h.imp fun _ _ he => he.1, h.imp fun _ _ he => he.2⟩
  · rintro ⟨hkeys, hvalues⟩
    induction hkeys with
    | nil => exact .nil
    | cons hkey _ ih =>
      cases hvalues with
      | cons hvalue hvalues => exact .cons ⟨hkey, hvalue⟩ (ih hvalues)

theorem FieldsTell.tells {fields : List (String × Value)} {ds : List (String × Document)}
    (h : FieldsTell fields ds) : (object fields).Tells (.record ds) :=
  .record (fieldsTell_iff.1 h).1 (fieldsTell_iff.1 h).2

theorem Tells.fields {v : Value} {ds : List (String × Document)} (h : v.Tells (.record ds)) :
    ∃ fields, v = object fields ∧ FieldsTell fields ds := by
  cases h with
  | record hkeys hfields => exact ⟨_, rfl, fieldsTell_iff.2 ⟨hkeys, hfields⟩⟩

end Value

/-! ## §3. The value of a document. -/

namespace Document

open Value

theorem numberValue_tells_single (x : Binary32) : (numberValue x.convert).Tells (.single x) := by
  cases hx : x.isFinite with
  | true =>
    obtain ⟨hfinite, hround⟩ := Binary.widen_exact hx
    rw [numberValue, if_pos hfinite]
    exact .single hfinite hround
  | false =>
    -- what is no number stays none
    have hwide : (x.convert : Binary64).isFinite = false := Binary.convert_not_finite hx
    rw [numberValue, if_neg (by rw [hwide]; exact Bool.false_ne_true)]
    exact .unbounded hx

mutual
/-- The value that a document stands for tells it. -/
theorem tells_toValue : (d : Document) → d.toValue.Tells d
  | .null => by rw [toValue]; exact .null
  | .bool b => by rw [toValue]; exact .bool b
  | .int i => by rw [toValue]; exact .int i
  | .double x => by rw [toValue]; exact .double x
  | .single x => by rw [toValue]; exact numberValue_tells_single x
  | .text s => by rw [toValue]; exact .text s
  | .list ds => by rw [toValue]; exact .list (tells_toItems ds)
  | .record ds => by rw [toValue]; exact (tells_toFields ds).tells

theorem tells_toItems : (ds : List Document) → List.Forall₂ Tells (toItems ds) ds
  | [] => by rw [toItems]; exact .nil
  | d :: rest => by rw [toItems]; exact .cons (tells_toValue d) (tells_toItems rest)

theorem tells_toFields : (ds : List (String × Document)) → FieldsTell (toFields ds) ds
  | [] => by rw [toFields]; exact .nil
  | (_, d) :: rest => by rw [toFields]; exact .cons ⟨rfl, tells_toValue d⟩ (tells_toFields rest)
end

mutual
/-- The document of a value tells of that value only. -/
theorem eq_of_tells_ofValue : (v : Value) → v.Proper → ∀ {w : Value}, w.Tells (ofValue v) → w = v
  | .null, _, _, h => by rw [ofValue] at h; cases h; rfl
  | .bool _, _, _, h => by rw [ofValue] at h; cases h; rfl
  | .int _, _, _, h => by rw [ofValue] at h; cases h; rfl
  | .str _, _, _, h => by rw [ofValue] at h; cases h; rfl
  | .float x, hx, _, h => by
    rw [ofValue] at h
    cases h
    exact if_pos hx
  | .arr items, hitems, _, h => by
    rw [ofValue] at h
    cases h with
    | list h => rw [eq_of_tells_ofItems items hitems h]
  | .obj fields, ⟨hkeys, hfields⟩, _, h => by
    rw [ofValue] at h
    obtain ⟨told, rfl, htold⟩ := h.fields
    rw [eq_of_tells_ofFields fields hfields htold, object, Entries.ofList_eq_self hkeys]

theorem eq_of_tells_ofItems : (vs : List Value) → ItemsProper vs →
    ∀ {ws : List Value}, List.Forall₂ Tells ws (ofItems vs) → ws = vs
  | [], _, _, h => by rw [ofItems] at h; cases h; rfl
  | v :: rest, ⟨hv, hrest⟩, _, h => by
    rw [ofItems] at h
    cases h with
    | cons hw hws => rw [eq_of_tells_ofValue v hv hw, eq_of_tells_ofItems rest hrest hws]

theorem eq_of_tells_ofFields : (fs : List (String × Value)) → FieldsProper fs →
    ∀ {es : List (String × Value)}, FieldsTell es (ofFields fs) → es = fs
  | [], _, _, h => by rw [ofFields] at h; cases h; rfl
  | (k, v) :: rest, ⟨hv, hrest⟩, _, h => by
    rw [ofFields] at h
    cases h with
    | @cons e _ _ _ he hes =>
      obtain ⟨key, w⟩ := e
      obtain ⟨rfl, hw⟩ : key = k ∧ w.Tells (ofValue v) := he
      rw [eq_of_tells_ofValue v hv hw, eq_of_tells_ofFields rest hrest hes]
end

theorem ofFields_eq_map (fields : List (String × Value)) :
    ofFields fields = fields.map fun e => (e.1, ofValue e.2) := by
  induction fields with
  | nil => rw [ofFields, List.map_nil]
  | cons e rest ih => rw [ofFields, ih, List.map_cons]

end Document

/-! ## §4. Fields by their keys. -/

namespace Value

open Entries (get?)

variable {v : Value} {ds : List (String × Document)} {k : String}

theorem FieldsTell.keys {fields : List (String × Value)} (h : FieldsTell fields ds) :
    fields.map Prod.fst = ds.map Prod.fst := (fieldsTell_iff.1 h).1

/-- Under each key of a record stands what tells its field. -/
theorem Tells.field? (h : v.Tells (.record ds)) (hds : (ds.map Prod.fst).Nodup) (k : String) :
    Option.Rel Tells (v.field? k) (get? k ds) := by
  obtain ⟨fields, rfl, hfields⟩ := h.fields
  rw [object, Value.field?, Entries.get?_ofList (by rwa [hfields.keys])]
  exact Entries.rel_get? (R := fun _ => Tells) hfields k

/-- Fields in key order that tell the fields of a record, key by key. -/
theorem tells_of_get? {fields : List (String × Value)} (hfields : Entries.Increasing fields)
    (hds : (ds.map Prod.fst).Nodup) (h : ∀ k, Option.Rel Tells (get? k fields) (get? k ds)) :
    (Value.obj fields).Tells (.record ds) := by
  have hfound : ∀ f ∈ ds, ∃ x, get? f.1 fields = some x ∧ x.Tells f.2 := by
    intro f hf
    have hrel := h f.1
    rw [(Entries.get?_eq_some_iff hds).2 hf] at hrel
    cases hget : get? f.1 fields with
    | none => rw [hget] at hrel; cases hrel
    | some x => rw [hget] at hrel; cases hrel with | some hx => exact ⟨x, rfl, hx⟩
  -- the same fields, in the order of the record
  let told := ds.map fun f => (f.1, (get? f.1 fields).getD .null)
  have htold : FieldsTell told ds := by
    refine List.forall₂_map_left_iff.2 (List.forall₂_same.2 fun f hf => ⟨rfl, ?_⟩)
    obtain ⟨x, hget, hx⟩ := hfound f hf
    rw [hget]
    exact hx
  have hnodup : (told.map Prod.fst).Nodup := by rwa [htold.keys]
  have heq : Entries.ofList told = fields := by
    refine (Entries.increasing_ofList told).ext hfields fun k => ?_
    rw [Entries.get?_ofList hnodup, Entries.get?_map_key fun key => (get? key fields).getD .null]
    have hrel := h k
    generalize get? k fields = found at hrel ⊢
    generalize get? k ds = d at hrel ⊢
    cases hrel with
    | some _ => rfl
    | none => rfl
  rw [← heq]
  exact htold.tells

end Value

end FlowBench

/-
  FlowBench.Table
  ───────────────
  **Finite maps from texts, kept in key order.**

  A table is its list of entries in strictly increasing key order, so that
  two tables with the same look-ups are the same value and every listing of
  a table is sorted.  Keys are compared by code point, which is also the
  order of their UTF-8 bytes.

  The list operations come first (an object of a data value is such a list);
  `Table` packages a list with its order.
-/

namespace FlowBench

universe u v

/-! ## §1. Entry lists. -/

namespace Entries

variable {α : Type u} {β : Type v}

/-- The value of the first entry with the given key. -/
def get? (key : String) : List (String × α) → Option α
  | [] => none
  | (k, a) :: rest => if k = key then some a else get? key rest

/-- Puts an entry at its place, replacing the one that holds its key. -/
def insert (key : String) (a : α) : List (String × α) → List (String × α)
  | [] => [(key, a)]
  | (k, b) :: rest =>
      if key < k then (key, a) :: (k, b) :: rest
      else if key = k then (key, a) :: rest
      else (k, b) :: insert key a rest

/-- Drops the entries with the given key. -/
def erase (key : String) (es : List (String × α)) : List (String × α) :=
  es.filter (fun e => e.1 ≠ key)

/-- Inserts every entry in turn, so that a later one wins. -/
def ofList (es : List (String × α)) : List (String × α) :=
  es.foldl (fun acc e => insert e.1 e.2 acc) []

/-- Keys in strictly increasing order. -/
def Increasing (es : List (String × α)) : Prop :=
  (es.map Prod.fst).Pairwise (· < ·)

theorem mem_insert_key {key k : String} {a : α} {es : List (String × α)}
    (h : k ∈ (insert key a es).map Prod.fst) : k = key ∨ k ∈ es.map Prod.fst := by
  induction es with
  | nil => simp [insert] at h; exact .inl h
  | cons e rest ih =>
    obtain ⟨k', b⟩ := e
    simp only [insert] at h
    split at h
    · simp only [List.map_cons, List.mem_cons] at h ⊢; exact h
    · split at h
      · simp only [List.map_cons, List.mem_cons] at h ⊢
        rcases h with h | h
        · exact .inl h
        · exact .inr (.inr h)
      · simp only [List.map_cons, List.mem_cons] at h ⊢
        rcases h with h | h
        · exact .inr (.inl h)
        · rcases ih h with h | h
          · exact .inl h
          · exact .inr (.inr h)

theorem increasing_insert (key : String) (a : α) {es : List (String × α)}
    (h : Increasing es) : Increasing (insert key a es) := by
  induction es with
  | nil => simp [insert, Increasing]
  | cons e rest ih =>
    obtain ⟨k, b⟩ := e
    have hrest : Increasing rest := (List.pairwise_cons.1 h).2
    have hall : ∀ x ∈ rest.map Prod.fst, k < x := (List.pairwise_cons.1 h).1
    simp only [insert]
    split
    · rename_i hlt
      refine List.pairwise_cons.2 ⟨?_, h⟩
      intro x hx
      rcases List.mem_cons.1 hx with rfl | hx
      · exact hlt
      · exact String.lt_trans hlt (hall x hx)
    · split
      · rename_i heq
        subst heq
        exact List.pairwise_cons.2 ⟨hall, hrest⟩
      · rename_i hnlt hne
        have hgt : k < key := by
          rcases Std.lt_trichotomy key k with h' | h' | h'
          · exact absurd h' hnlt
          · exact absurd h' hne
          · exact h'
        refine List.pairwise_cons.2 ⟨?_, ih hrest⟩
        intro x hx
        rcases mem_insert_key hx with rfl | hx
        · exact hgt
        · exact hall x hx

theorem increasing_erase (key : String) {es : List (String × α)}
    (h : Increasing es) : Increasing (erase key es) :=
  List.Pairwise.sublist (List.Sublist.map _ List.filter_sublist) h

theorem increasing_foldl_insert (more : List (String × α)) {es : List (String × α)}
    (h : Increasing es) :
    Increasing (more.foldl (fun acc e => insert e.1 e.2 acc) es) := by
  induction more generalizing es with
  | nil => exact h
  | cons e rest ih => exact ih (increasing_insert e.1 e.2 h)

theorem get?_insert (key k : String) (a : α) {es : List (String × α)}
    (h : Increasing es) :
    get? k (insert key a es) = if k = key then some a else get? k es := by
  induction es with
  | nil => simp [insert, get?, eq_comm]
  | cons e rest ih =>
    obtain ⟨k', b⟩ := e
    have hrest : Increasing rest := (List.pairwise_cons.1 h).2
    simp only [insert]
    split
    · simp [get?, eq_comm]
    · split
      · rename_i heq
        subst heq
        by_cases hk : k = key
        · simp [get?, hk]
        · simp [get?, hk, Ne.symm hk]
      · rename_i hne
        simp only [get?, ih hrest]
        by_cases hk' : k' = k
        · subst hk'; simp [Ne.symm hne]
        · simp [hk']

theorem get?_erase (key k : String) (es : List (String × α)) :
    get? k (erase key es) = if k = key then none else get? k es := by
  induction es with
  | nil => simp [erase, get?]
  | cons e rest ih =>
    obtain ⟨k', b⟩ := e
    simp only [erase] at ih ⊢
    by_cases hk' : k' = key
    · subst hk'
      by_cases hk : k = k'
      · subst hk; simpa [get?] using ih
      · simp [get?, hk, Ne.symm hk] at ih ⊢; exact ih
    · simp only [List.filter_cons, ne_eq, hk', not_false_eq_true, decide_true, if_true, get?, ih]
      by_cases hk : k' = k
      · subst hk; simp [hk']
      · simp [hk]

theorem get?_eq_none_iff (k : String) (es : List (String × α)) :
    get? k es = none ↔ k ∉ es.map Prod.fst := by
  induction es with
  | nil => simp [get?]
  | cons e rest ih =>
    obtain ⟨k', b⟩ := e
    by_cases hk : k' = k
    · subst hk; simp [get?]
    · have hk' : k ≠ k' := fun h => hk h.symm
      simp only [get?, hk, if_false, ih, List.map_cons, List.mem_cons, not_or]
      exact ⟨fun h => ⟨hk', h⟩, fun h => h.2⟩

end Entries

/-! ## §2. Tables. -/

/-- A finite map from texts, as its entries in key order. -/
structure Table (α : Type u) where
  /-- The entries, by increasing key. -/
  entries : List (String × α)
  /-- No key is repeated and none is out of order. -/
  increasing : Entries.Increasing entries := by exact List.Pairwise.nil
  deriving DecidableEq

namespace Table

variable {α : Type u} {β : Type v}

/-- The table without entries. -/
def empty : Table α := ⟨[], List.Pairwise.nil⟩

instance : Inhabited (Table α) := ⟨empty⟩

/-- The value held under a key. -/
def get? (t : Table α) (key : String) : Option α := Entries.get? key t.entries

/-- Whether a key is held. -/
def contains (t : Table α) (key : String) : Bool := (t.get? key).isSome

/-- Sets the value held under a key. -/
def insert (t : Table α) (key : String) (a : α) : Table α :=
  ⟨Entries.insert key a t.entries, Entries.increasing_insert key a t.increasing⟩

/-- Drops a key. -/
def erase (t : Table α) (key : String) : Table α :=
  ⟨Entries.erase key t.entries, Entries.increasing_erase key t.increasing⟩

/-- The table of a list of entries; of two with one key the later wins. -/
def ofList (es : List (String × α)) : Table α :=
  ⟨Entries.ofList es, Entries.increasing_foldl_insert es List.Pairwise.nil⟩

/-- The keys, in order. -/
def keys (t : Table α) : List String := t.entries.map Prod.fst

/-- The number of keys. -/
def size (t : Table α) : Nat := t.entries.length

/-- Whether no key is held. -/
def isEmpty (t : Table α) : Bool := t.entries.isEmpty

/-- Changes every value, given its key. -/
def mapWithKey (f : String → α → β) (t : Table α) : Table β :=
  ⟨t.entries.map (fun e => (e.1, f e.1 e.2)), by
    have h : (t.entries.map (fun e => (e.1, f e.1 e.2))).map Prod.fst
        = t.entries.map Prod.fst := by simp
    simpa only [Entries.Increasing, h] using t.increasing⟩

/-- Keeps the entries with a value under `f`. -/
def filterMap (f : α → Option β) (t : Table α) : Table β :=
  ⟨t.entries.filterMap (fun e => (f e.2).map (fun b => (e.1, b))), by
    have h := t.increasing
    revert h
    generalize t.entries = es
    intro h
    induction es with
    | nil => exact List.Pairwise.nil
    | cons e rest ih =>
      have hrest := (List.pairwise_cons.1 h).2
      have hall := (List.pairwise_cons.1 h).1
      rw [List.filterMap_cons]
      split
      · exact ih hrest
      · rename_i b hb
        obtain ⟨c, _, rfl⟩ := Option.map_eq_some_iff.1 hb
        refine List.pairwise_cons.2 ⟨?_, ih hrest⟩
        intro x hx
        obtain ⟨y, hy, rfl⟩ := List.mem_map.1 hx
        obtain ⟨z, hz, hzy⟩ := List.mem_filterMap.1 hy
        obtain ⟨w, _, rfl⟩ := Option.map_eq_some_iff.1 hzy
        exact hall z.1 (List.mem_map.2 ⟨z, hz, rfl⟩)⟩

@[simp] theorem get?_insert (t : Table α) (key k : String) (a : α) :
    (t.insert key a).get? k = if k = key then some a else t.get? k :=
  Entries.get?_insert key k a t.increasing

@[simp] theorem get?_erase (t : Table α) (key k : String) :
    (t.erase key).get? k = if k = key then none else t.get? k :=
  Entries.get?_erase key k t.entries

@[simp] theorem get?_empty (k : String) : (empty : Table α).get? k = none := rfl

theorem mem_keys_iff (t : Table α) (k : String) : k ∈ t.keys ↔ (t.get? k).isSome = true := by
  rw [← Option.ne_none_iff_isSome, ne_eq, get?, Entries.get?_eq_none_iff, keys]
  exact Decidable.not_not.symm

end Table

end FlowBench

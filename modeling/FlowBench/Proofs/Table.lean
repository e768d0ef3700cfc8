/-
  FlowBench.Proofs.Table
  ──────────────────────
  **Look-ups in tables that are built up.**

  A list of entries without a repeated key, inserted one by one, is found
  again entry by entry; filtered values are found where they were.
-/
import Mathlib.Data.List.Forall2
import Mathlib.Data.List.Nodup
import Mathlib.Data.Option.Basic
import FlowBench.Table

namespace FlowBench

universe u v

/-! ## §1. Entry lists. -/

namespace Entries

variable {α : Type u}

/-- Where no key is repeated, an entry is what its key finds. -/
theorem get?_eq_some_iff {k : String} {a : α} : ∀ {es : List (String × α)},
    (es.map Prod.fst).Nodup → (get? k es = some a ↔ (k, a) ∈ es)
  | [], _ => by simp [get?]
  | (k', b) :: rest, h => by
    rw [List.map_cons, List.nodup_cons] at h
    obtain ⟨hnew, hrest⟩ := h
    unfold get?
    by_cases hk : k' = k
    · subst hk
      rw [if_pos rfl, List.mem_cons]
      constructor
      · intro heq
        cases heq
        exact .inl rfl
      · rintro (heq | hmem)
        · cases heq
          rfl
        · exact absurd (List.mem_map.2 ⟨_, hmem, rfl⟩) hnew
    · rw [if_neg hk, get?_eq_some_iff hrest, List.mem_cons]
      refine ⟨.inr, ?_⟩
      rintro (heq | hmem)
      · cases heq
        exact absurd rfl hk
      · exact hmem

/-- What is inserted under a new key goes with the key. -/
theorem erase_insert {k : String} (a : α) : ∀ {es : List (String × α)}, get? k es = none →
    erase k (insert k a es) = es
  | [], _ => by simp [insert, erase]
  | (k', b) :: rest, h => by
    have hne : k' ≠ k := by
      rintro rfl
      simp [get?] at h
    have hrest : get? k rest = none := by rwa [get?, if_neg hne] at h
    have hkept : erase k ((k', b) :: rest) = (k', b) :: rest := by
      unfold erase
      rw [List.filter_eq_self]
      intro e he
      rw [decide_eq_true_eq]
      intro heq
      exact (get?_eq_none_iff k _).1 h (List.mem_map.2 ⟨e, he, heq⟩)
    unfold insert
    split
    · rw [← hkept]
      simp [erase]
    · rw [if_neg (fun heq => hne heq.symm)]
      show erase k ((k', b) :: insert k a rest) = _
      have hcons : ∀ es : List (String × α), erase k ((k', b) :: es) = (k', b) :: erase k es := by
        intro es
        simp [erase, hne]
      rw [hcons, erase_insert a hrest]

theorem Increasing.nodup {es : List (String × α)} (h : Increasing es) : (es.map Prod.fst).Nodup :=
  List.Pairwise.imp (fun hlt => String.ne_of_lt hlt) h

/-- Entries in key order are told by what their keys find. -/
theorem Increasing.ext {es fs : List (String × α)} (hes : Increasing es) (hfs : Increasing fs)
    (h : ∀ k, get? k es = get? k fs) : es = fs := by
  have hperm : es.Perm fs := by
    refine (List.perm_ext_iff_of_nodup hes.nodup.of_map hfs.nodup.of_map).2 fun e => ?_
    rw [← get?_eq_some_iff hes.nodup, ← get?_eq_some_iff hfs.nodup, h]
  refine hperm.eq_of_pairwise ?_ (List.pairwise_map.1 hes) (List.pairwise_map.1 hfs)
  intro a b _ _ hab hba
  exact absurd (String.lt_trans hab hba) (String.lt_irrefl _)

/-- A key finds the entry inserted under it, else what was there before. -/
theorem get?_foldl_insert (k : String) : ∀ {es acc : List (String × α)}, Increasing acc →
    (es.map Prod.fst).Nodup →
      get? k (es.foldl (fun acc e => insert e.1 e.2 acc) acc) = (get? k es).or (get? k acc)
  | [], _, _, _ => rfl
  | (k', a) :: rest, acc, hacc, h => by
    rw [List.map_cons, List.nodup_cons] at h
    obtain ⟨hnew, hrest⟩ := h
    rw [List.foldl_cons, get?_foldl_insert k (increasing_insert k' a hacc) hrest,
      get?_insert k' k a hacc]
    show _ = (if k' = k then some a else get? k rest).or (get? k acc)
    by_cases hk : k' = k
    · subst hk
      -- the key is not met again
      rw [(get?_eq_none_iff k' rest).2 hnew, if_pos rfl, if_pos rfl]
      rfl
    · rw [if_neg hk, if_neg (fun heq => hk heq.symm)]

theorem mem_of_mem_insert {key : String} {a : α} {e : String × α} :
    ∀ {es : List (String × α)}, e ∈ insert key a es → e = (key, a) ∨ e ∈ es
  | [], h => .inl (List.mem_singleton.1 h)
  | (k, b) :: rest, h => by
    unfold insert at h
    split at h
    · exact List.mem_cons.1 h
    · split at h
      · rcases List.mem_cons.1 h with rfl | h
        · exact .inl rfl
        · exact .inr (List.mem_cons_of_mem _ h)
      · rcases List.mem_cons.1 h with rfl | h
        · exact .inr List.mem_cons_self
        · exact (mem_of_mem_insert h).imp_right (List.mem_cons_of_mem _)

theorem mem_of_mem_foldl_insert {e : String × α} {es acc : List (String × α)}
    (h : e ∈ es.foldl (fun acc e => insert e.1 e.2 acc) acc) : e ∈ es ∨ e ∈ acc := by
  induction es generalizing acc with
  | nil => exact .inr h
  | cons first rest ih =>
    rcases ih h with h | h
    · exact .inl (List.mem_cons_of_mem _ h)
    · rcases mem_of_mem_insert h with rfl | h
      · exact .inl List.mem_cons_self
      · exact .inr h

/-- Nothing is in a list of entries that was not put there. -/
theorem mem_of_mem_ofList {e : String × α} {es : List (String × α)} (h : e ∈ ofList es) :
    e ∈ es :=
  (mem_of_mem_foldl_insert h).resolve_right List.not_mem_nil

theorem increasing_ofList (es : List (String × α)) : Increasing (ofList es) :=
  increasing_foldl_insert es List.Pairwise.nil

theorem get?_ofList {es : List (String × α)} (h : (es.map Prod.fst).Nodup) (k : String) :
    get? k (ofList es) = get? k es := by
  have hnil : Increasing ([] : List (String × α)) := List.Pairwise.nil
  rw [ofList, get?_foldl_insert k hnil h]
  exact Option.or_none

/-- Entries in key order stay as they are. -/
theorem ofList_eq_self {es : List (String × α)} (h : Increasing es) : ofList es = es :=
  (increasing_ofList es).ext h (get?_ofList h.nodup)

/-- Values that their keys tell are found where the keys are. -/
theorem get?_map_key {β : Type v} (g : String → β) (k : String) (es : List (String × α)) :
    get? k (es.map fun e => (e.1, g e.1)) = (get? k es).map fun _ => g k := by
  induction es with
  | nil => rfl
  | cons e rest ih =>
    rw [List.map_cons]
    unfold get?
    split
    case isTrue hk => rw [hk]; rfl
    case isFalse => exact ih

theorem get?_map {β : Type v} (f : α → β) (k : String) (es : List (String × α)) :
    get? k (es.map fun e => (e.1, f e.2)) = (get? k es).map f := by
  induction es with
  | nil => rfl
  | cons e rest ih =>
    rw [List.map_cons]
    unfold get?
    split
    · rfl
    · exact ih

/-- What is listed first is found first. -/
theorem get?_append (k : String) (es fs : List (String × α)) :
    get? k (es ++ fs) = (get? k es).or (get? k fs) := by
  induction es with
  | nil => rfl
  | cons e rest ih =>
    obtain ⟨key, a⟩ := e
    rw [List.cons_append, get?, get?]
    split
    · rfl
    · exact ih

/-- Entries that correspond one by one correspond under each key. -/
theorem rel_get? {β : Type v} {R : String → α → β → Prop} {es : List (String × α)}
    {fs : List (String × β)} (h : List.Forall₂ (fun e f => e.1 = f.1 ∧ R e.1 e.2 f.2) es fs)
    (k : String) : Option.Rel (R k) (get? k es) (get? k fs) := by
  induction h with
  | nil => exact .none
  | @cons e f _ _ he _ ih =>
    obtain ⟨key, a⟩ := e
    obtain ⟨key', b⟩ := f
    obtain ⟨rfl, hab⟩ : key = key' ∧ R key a b := he
    unfold get?
    by_cases hk : key = k
    · rw [if_pos hk, if_pos hk, ← hk]
      exact .some hab
    · rw [if_neg hk, if_neg hk]
      exact ih

end Entries

/-! ## §2. Tables. -/

namespace Table

variable {α : Type u} {β : Type v}

/-- A key finds the entry inserted under it, else what was there before. -/
theorem get?_foldl_insert (k : String) {es : List (String × α)} (t : Table α)
    (h : (es.map Prod.fst).Nodup) :
    (es.foldl (fun t e => t.insert e.1 e.2) t).get? k = (Entries.get? k es).or (t.get? k) := by
  have hentries : (es.foldl (fun t e => t.insert e.1 e.2) t).entries
      = es.foldl (fun acc e => Entries.insert e.1 e.2 acc) t.entries := by
    clear h
    induction es generalizing t with
    | nil => rfl
    | cons e rest ih => exact ih (t.insert e.1 e.2)
  unfold get?
  rw [hentries, Entries.get?_foldl_insert k t.increasing h]

theorem get?_eq_some_iff {t : Table α} {k : String} {a : α} :
    t.get? k = some a ↔ (k, a) ∈ t.entries :=
  Entries.get?_eq_some_iff t.increasing.nodup

/-- A table is told by what its keys find. -/
theorem ext_get? {t u : Table α} (h : ∀ k, t.get? k = u.get? k) : t = u := by
  obtain ⟨es, hes⟩ := t
  obtain ⟨fs, hfs⟩ := u
  obtain rfl := hes.ext hfs h
  rfl

/-- What is inserted under a new key goes with the key. -/
theorem erase_insert {t : Table α} {k : String} (h : t.get? k = none) (a : α) :
    (t.insert k a).erase k = t := by
  obtain ⟨es, hes⟩ := t
  simp only [insert, erase, Table.mk.injEq]
  exact Entries.erase_insert a h

/-- A value under a filter is found where it was. -/
theorem get?_filterMap_eq_some_iff {f : α → Option β} {t : Table α} {k : String} {b : β} :
    (t.filterMap f).get? k = some b ↔ ∃ a, t.get? k = some a ∧ f a = some b := by
  rw [get?_eq_some_iff]
  show (k, b) ∈ t.entries.filterMap (fun e => (f e.2).map fun b => (e.1, b)) ↔ _
  rw [List.mem_filterMap]
  constructor
  · rintro ⟨⟨k', a⟩, he, hb⟩
    obtain ⟨b', hb', heq⟩ := Option.map_eq_some_iff.1 hb
    cases heq
    exact ⟨a, get?_eq_some_iff.2 he, hb'⟩
  · rintro ⟨a, ha, hb⟩
    exact ⟨(k, a), get?_eq_some_iff.1 ha, by simp [hb]⟩

/-- A value that is changed is found where it was. -/
theorem get?_mapWithKey (f : String → α → β) (t : Table α) (k : String) :
    (t.mapWithKey f).get? k = (t.get? k).map (f k) := by
  ext b
  rw [get?_eq_some_iff, Option.map_eq_some_iff]
  show (k, b) ∈ t.entries.map (fun e => (e.1, f e.1 e.2)) ↔ _
  rw [List.mem_map]
  constructor
  · rintro ⟨⟨k', a⟩, he, heq⟩
    cases heq
    exact ⟨a, get?_eq_some_iff.2 he, rfl⟩
  · rintro ⟨a, ha, rfl⟩
    exact ⟨(k, a), get?_eq_some_iff.1 ha, rfl⟩

theorem get?_filterMap (f : α → Option β) (t : Table α) (k : String) :
    (t.filterMap f).get? k = (t.get? k).bind f := by
  ext b
  rw [get?_filterMap_eq_some_iff, Option.bind_eq_some_iff]

theorem eq_empty_of_isEmpty {t : Table α} (h : t.isEmpty = true) : t = empty := by
  obtain ⟨es, hes⟩ := t
  obtain rfl := List.isEmpty_iff.1 h
  rfl

theorem filterMap_some (t : Table α) : t.filterMap some = t := by
  refine ext_get? fun k => ?_
  rw [get?_filterMap, Option.bind_fun_some]

end Table

end FlowBench

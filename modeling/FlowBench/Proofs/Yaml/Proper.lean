/-
  FlowBench.Proofs.Yaml.Proper
  ────────────────────────────
  **What a session file keeps is proper.**

  A node of a YAML text that stands for a value stands for a proper one: a
  float that is no number is read as null, and the entries of a mapping are
  put in order.  The outputs of a session file are read as a table of any
  values, so they are proper, whatever else the file holds.
-/
import FlowBench.Proofs.Json.Proper
import FlowBench.Proofs.Workflow.File

namespace FlowBench

/-! ## §1. Results. -/

section Results

variable {ε α β : Type} {x : Except ε α} {b : β}

theorem map_eq_ok_iff {f : α → β} : x.map f = .ok b ↔ ∃ a, x = .ok a ∧ f a = b := by
  cases x <;> simp [Except.map]

theorem bind_eq_ok_iff {f : α → Except ε β} :
    (x >>= f) = .ok b ↔ ∃ a, x = .ok a ∧ f a = .ok b := by
  cases x <;> simp [bind, Except.bind]

/-- What is gathered from a list comes from its members. -/
theorem exists_of_mapM {f : α → Except ε β} : ∀ {as : List α} {bs : List β},
    as.mapM f = .ok bs → ∀ b ∈ bs, ∃ a ∈ as, f a = .ok b
  | [], _, h => by
    cases h
    simp
  | a :: as, bs, h => by
    rw [List.mapM_cons, bind_eq_ok_iff] at h
    obtain ⟨b, hb, h⟩ := h
    obtain ⟨more, hmore, h⟩ := bind_eq_ok_iff.1 h
    cases h
    refine List.forall_mem_cons.2 ⟨⟨a, List.mem_cons_self, hb⟩, fun b' hb' => ?_⟩
    obtain ⟨a', ha', heq⟩ := exists_of_mapM hmore b' hb'
    exact ⟨a', List.mem_cons_of_mem a ha', heq⟩

end Results

namespace Yaml.Tree

/-! ## §2. Values of trees. -/

theorem proper_scalarValue {place text : String} {m : Plain} {v : Value}
    (h : scalarValue place text m = .ok v) : v.Proper := by
  cases m with
  | int i =>
    rw [scalarValue] at h
    split at h
    · cases h
      exact trivial
    · cases h
  | float x =>
    cases h
    exact Document.proper_numberValue x
  | _ =>
    cases h
    exact trivial

mutual
/-- The value that a node stands for is proper. -/
theorem proper_value : (t : Tree) → ∀ {place : String} {v : Value},
    t.value place = .ok v → v.Proper
  | .scalar tag p text, place, v, h => by
    unfold value at h
    split at h
    · cases h
    · split at h
      · exact proper_scalarValue h
      · cases h
  | .list tag items, place, v, h => by
    unfold value at h
    split at h
    · cases h
    · obtain ⟨vs, hvs, rfl⟩ := map_eq_ok_iff.1 h
      exact Value.proper_arr_iff.2 (proper_itemValues items hvs)
  | .mapping tag entries, place, v, h => by
    unfold value at h
    split at h
    · cases h
    · obtain ⟨es, hes, rfl⟩ := map_eq_ok_iff.1 h
      exact Value.proper_object (proper_fieldValues entries hes)
  | .alias _, _, _, h => by cases h
  | .tooDeep, _, _, h => by cases h

theorem proper_itemValues : (ts : List Tree) → ∀ {place : String} {index : Nat}
    {vs : List Value}, itemValues place index ts = .ok vs → ∀ v ∈ vs, v.Proper
  | [], _, _, _, h => by
    cases h
    simp
  | t :: rest, place, index, vs, h => by
    rw [itemValues, bind_eq_ok_iff] at h
    obtain ⟨v, hv, h⟩ := h
    obtain ⟨more, hmore, h⟩ := bind_eq_ok_iff.1 h
    cases h
    exact List.forall_mem_cons.2 ⟨proper_value t hv, proper_itemValues rest hmore⟩

theorem proper_fieldValues : (es : List (Tree × Tree)) → ∀ {place expected : String}
    {fs : List (String × Value)}, fieldValues place expected es = .ok fs → ∀ e ∈ fs, e.2.Proper
  | [], _, _, _, h => by
    cases h
    simp
  | (k, t) :: rest, place, expected, fs, h => by
    rw [fieldValues, bind_eq_ok_iff] at h
    obtain ⟨key, -, h⟩ := h
    obtain ⟨v, hv, h⟩ := bind_eq_ok_iff.1 h
    obtain ⟨more, hmore, h⟩ := bind_eq_ok_iff.1 h
    cases h
    exact List.forall_mem_cons.2 ⟨proper_value t hv, proper_fieldValues rest hmore⟩
end

/-! ## §3. Tables and records. -/

theorem locate_eq_ok_iff {α : Type} {place : String} {r : Except Fault α} {a : α} :
    Fault.locate place r = .ok a ↔ r = .ok a := by
  cases r <;> simp [Fault.locate, Except.mapError]

/-- A table of any values is proper. -/
theorem proper_table {t : Tree} {place : String} {v : Value}
    (h : t.read place (.table .any) = .ok v) : v.Proper := by
  cases t with
  | mapping tag entries =>
    rw [read, locate_eq_ok_iff, map_eq_ok_iff] at h
    obtain ⟨fields, hfields, rfl⟩ := h
    refine Value.proper_object fun e he => ?_
    obtain ⟨⟨k, t⟩, -, hentry⟩ := exists_of_mapM hfields e he
    obtain ⟨key, -, hentry⟩ := bind_eq_ok_iff.1 hentry
    obtain ⟨u, hu, hentry⟩ := bind_eq_ok_iff.1 hentry
    cases hentry
    rw [read] at hu
    exact proper_value t hu
  | _ =>
    simp only [read] at h
    split at h
    · cases h
      exact Value.proper_empty
    · cases h

/-- What is read as a record is a mapping, or as good as one. -/
theorem exists_entries_of_read {t : Tree} {place title : String}
    {fields : List (String × Presence × Shape)} {v : Value}
    (h : t.read place (.record title fields) = .ok v) :
    ∃ entries, (mapping none entries).read place (.record title fields) = .ok v := by
  simp only [read] at h ⊢
  cases t with
  | mapping tag entries => exact ⟨entries, h⟩
  | _ =>
    dsimp only at h
    split at h
    · exact ⟨[], h⟩
    · cases h

/-- A field of a record was read as its shape. -/
theorem exists_read_of_field {t : Tree} {place title key : String}
    {fields : List (String × Presence × Shape)} {v u : Value}
    (h : t.read place (.record title fields) = .ok v) (hu : v.field? key = some u) :
    ∃ f, Entries.get? key fields = some f ∧ ∃ t' place', read place' f.2 t' = .ok u := by
  obtain ⟨entries, h⟩ := exists_entries_of_read h
  simp only [read] at h
  obtain ⟨_, -, h⟩ := bind_eq_ok_iff.1 h
  obtain ⟨given, hgiven, h⟩ := bind_eq_ok_iff.1 h
  rw [locate_eq_ok_iff] at hgiven
  split at h
  · cases h
  · cases h
  · cases h
    -- the field was gathered from an entry, which was read as a field of this name
    have hmem := (Entries.get?_eq_some_iff (Entries.increasing_ofList _).nodup).1 hu
    obtain ⟨⟨name, field⟩, hpair, hfield⟩ := List.mem_filterMap.1 (Entries.mem_of_mem_ofList hmem)
    obtain ⟨⟨k, t'⟩, -, hentry⟩ := exists_of_mapM hgiven _ hpair
    obtain ⟨name', -, hentry⟩ := bind_eq_ok_iff.1 hentry
    obtain ⟨field', hread, hentry⟩ := bind_eq_ok_iff.1 hentry
    cases hentry
    obtain rfl : field = some (key, u) := hfield
    rw [Document.readFieldTree_eq] at hread
    split at hread
    · next f hf =>
      obtain ⟨w, hw, heq⟩ := map_eq_ok_iff.1 hread
      cases heq
      exact ⟨f, hf, t', _, hw⟩
    · cases hread

end Yaml.Tree

/-! ## §4. Session files. -/

namespace Workflow

/-- The outputs of data that was read as a session file are proper. -/
theorem proper_outputs_of_readAs {text : String} {v : Value}
    (h : Yaml.readAs shape text = .ok v) {id : String} {u : Value}
    (hu : (ofShaped v).outputs.get? id = some u) : u.Proper := by
  obtain ⟨t, hread⟩ : ∃ t : Yaml.Tree, t.read "" shape = .ok v := by
    unfold Yaml.readAs at h
    split at h
    · cases h
    · next t _ =>
      split at h
      · next w hw =>
        cases h
        exact ⟨t, hw⟩
      · cases h
  have houtputs : (ofShaped v).outputs = v.tableAt "outputs" := rfl
  rw [houtputs] at hu
  unfold Value.tableAt at hu
  split at hu
  · next fields hfields =>
    obtain ⟨f, hf, t', place, hread'⟩ := Yaml.Tree.exists_read_of_field hread hfields
    cases hf
    have hproper := Yaml.Tree.proper_table hread'
    rw [Value.proper_obj_iff] at hproper
    have hmem := Entries.mem_of_mem_ofList (Table.get?_eq_some_iff.1 hu)
    exact hproper.2 _ hmem
  · cases hu

/-- **A session file holds a sound workflow with proper outputs.** -/
theorem of_ofYaml {text : String} {w : Workflow} (h : ofYaml text = .ok w) :
    w.validate = .ok () ∧ ∀ id v, w.outputs.get? id = some v → v.Proper := by
  cases hread : Yaml.readAs shape text with
  | error e =>
    unfold ofYaml at h
    rw [hread] at h
    cases e <;> cases h
  | ok v =>
    rw [ofYaml_of_readAs hread] at h
    obtain ⟨_, hvalid, rfl⟩ := map_eq_ok_iff.1 h
    exact ⟨hvalid, fun id u hu => proper_outputs_of_readAs hread hu⟩

end Workflow

end FlowBench

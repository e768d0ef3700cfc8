/-
  FlowBench.Proofs.Store
  ──────────────────────
  **What each operation of the store leaves under an id.**
-/
import FlowBench.Proofs.Table
import FlowBench.Store

namespace FlowBench.Store

variable (s : Store) (id k : String)

/-! ## §1. Tests. -/

@[simp] theorem get?_succeed (output : Value) (d : Nat) :
    (s.succeed id output d).get? k =
      if k = id then some { output := some output, error := none, duration := some d }
      else s.get? k :=
  Table.get?_insert s.states id k _

@[simp] theorem get?_fail (message : String) (d : Nat) :
    (s.fail id message d).get? k =
      if k = id then some { (s.get? id).getD {} with error := some ⟨message, d⟩ }
      else s.get? k :=
  Table.get?_insert s.states id k _

@[simp] theorem get?_clear : (s.clear id).get? k = if k = id then none else s.get? k :=
  Table.get?_erase s.states id k

/-! ## §2. Outputs. -/

theorem output?_clear : (s.clear id).output? k = if k = id then none else s.output? k := by
  unfold output?
  rw [get?_clear]
  split <;> rfl

/-- The outputs of a store are those kept of its nodes. -/
theorem get?_outputs : s.outputs.get? id = s.output? id := Table.get?_filterMap _ s.states id

@[simp] theorem get?_seed (output : Value) :
    (s.seed id output).get? k = if k = id then some { output := some output } else s.get? k :=
  Table.get?_insert s.states id k _

/-- Seeding inserts the states of the outputs. -/
theorem states_foldl_seed : ∀ (es : List (String × Value)) (s : Store),
    (es.foldl (fun s e => s.seed e.1 e.2) s).states =
      (es.map fun e => (e.1, ({ output := some e.2 } : NodeState))).foldl
        (fun t e => t.insert e.1 e.2) s.states
  | [], _ => rfl
  | e :: rest, s => states_foldl_seed rest (s.seed e.1 e.2)

/-- A store of outputs holds each output and nothing else. -/
theorem get?_ofOutputs (outputs : Table Value) :
    (ofOutputs outputs).get? id = (outputs.get? id).map fun v => { output := some v } := by
  have hkeys : (outputs.entries.map fun e => (e.1, ({ output := some e.2 } : NodeState))).map
      Prod.fst = outputs.entries.map Prod.fst := by
    rw [List.map_map]
    rfl
  unfold Store.get? ofOutputs
  rw [states_foldl_seed, Table.get?_foldl_insert id _ (hkeys ▸ outputs.increasing.nodup)]
  show (Entries.get? id _).or none = _
  rw [Option.or_none]
  ext st
  rw [Entries.get?_eq_some_iff (hkeys ▸ outputs.increasing.nodup), Option.map_eq_some_iff]
  constructor
  · intro hmem
    obtain ⟨⟨k, v⟩, he, heq⟩ := List.mem_map.1 hmem
    cases heq
    exact ⟨v, Table.get?_eq_some_iff.2 he, rfl⟩
  · rintro ⟨v, hv, rfl⟩
    exact List.mem_map.2 ⟨(id, v), Table.get?_eq_some_iff.1 hv, rfl⟩

theorem output?_ofOutputs (outputs : Table Value) :
    (ofOutputs outputs).output? id = outputs.get? id := by
  unfold output?
  rw [get?_ofOutputs]
  cases outputs.get? id <;> rfl

end FlowBench.Store

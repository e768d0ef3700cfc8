/-
  FlowBench.Proofs.Workflow.Names
  ───────────────────────────────
  **A free name is always found.**

  Of a base and the base with the numbers from 1 on behind it no two are the
  same, so as many nodes as there are numbers cannot hold all of them
  (`exists_free_number`).  The search therefore never comes back with a name
  that another node holds.
-/
import Mathlib.Data.List.Nodup
import Mathlib.Data.List.Perm.Subperm
import Std.Data.String.ToNat
import FlowBench.Workflow.Edit

namespace FlowBench.Workflow

/-! ## §1. Numbered names. -/

/-- The names that are tried behind a base, up to a number. -/
def numbered (base : String) (count : Nat) : List String :=
  (List.range' 1 count).map fun n => base ++ toString n

theorem append_toString_inj {base : String} {m n : Nat}
    (h : base ++ toString m = base ++ toString n) : m = n := by
  have hdigits : toString m = toString n := (String.append_right_inj base).1 h
  rw [Nat.toString_eq_repr, Nat.toString_eq_repr] at hdigits
  exact Nat.repr_inj.1 hdigits

/-- A number behind a base makes another name of it. -/
theorem append_toString_ne (base : String) (n : Nat) : base ++ toString n ≠ base := by
  intro h
  have hempty : toString n = "" := by
    rw [← String.append_right_inj base, h, String.append_empty]
  rw [Nat.toString_eq_repr] at hempty
  exact Nat.toDigits_ne_nil (String.ofList_eq_empty_iff.1 hempty)

/-- No two of the names that are tried are the same. -/
theorem nodup_numbered (base : String) (count : Nat) : (base :: numbered base count).Nodup := by
  rw [List.nodup_cons]
  constructor
  · intro h
    obtain ⟨n, _, hn⟩ := List.mem_map.1 h
    exact append_toString_ne base n hn
  · exact List.Nodup.map (fun _ _ => append_toString_inj) List.nodup_range'

/-! ## §2. The search. -/

variable (w : Workflow) (exclude : Option String)

theorem isTaken_iff (name : String) :
    w.isTaken exclude name = true ↔ ∃ n ∈ w.nodes, n.name = name ∧ some n.id ≠ exclude := by
  unfold isTaken
  simp

/-- A name that is taken is the name of a node. -/
theorem mem_names_of_isTaken {name : String} (h : w.isTaken exclude name = true) :
    name ∈ w.nodes.map Node.name := by
  obtain ⟨n, hn, hname, _⟩ := (w.isTaken_iff exclude name).1 h
  exact List.mem_map.2 ⟨n, hn, hname⟩

/-- **The nodes of a workflow cannot hold a base and as many numbered names
as there are nodes.** -/
theorem exists_free_number {base : String} (hbase : w.isTaken exclude base = true) :
    ∃ name ∈ numbered base w.nodes.length, w.isTaken exclude name = false := by
  by_contra hall
  have htaken : ∀ name ∈ base :: numbered base w.nodes.length, w.isTaken exclude name = true := by
    intro name hname
    rcases List.mem_cons.1 hname with rfl | hname
    · exact hbase
    · by_contra hfree
      exact hall ⟨name, hname, Bool.eq_false_iff.2 hfree⟩
  -- then each of these names is held by a node
  have hsub : base :: numbered base w.nodes.length ⊆ w.nodes.map Node.name :=
    fun name hname => w.mem_names_of_isTaken exclude (htaken name hname)
  have hlen := ((nodup_numbered base w.nodes.length).subperm hsub).length_le
  -- one more name than nodes
  simp only [numbered, List.length_cons, List.length_map, List.length_range'] at hlen
  omega

/-- **The name that the search gives is free.** -/
theorem uniqueName_free (base : String) :
    w.isTaken exclude (w.uniqueName base exclude) = false := by
  unfold uniqueName
  by_cases hbase : w.isTaken exclude base = true
  · rw [if_pos hbase]
    show w.isTaken exclude
      (((numbered base w.nodes.length).find? fun name => !w.isTaken exclude name).getD base) = false
    obtain ⟨name, hmem, hfree⟩ := w.exists_free_number exclude hbase
    cases hfind : (numbered base w.nodes.length).find? fun name => !w.isTaken exclude name with
    | none =>
      have hnot := List.find?_eq_none.1 hfind name hmem
      rw [hfree] at hnot
      exact absurd rfl hnot
    | some found => simpa using List.find?_some hfind
  · rw [if_neg hbase]
    exact Bool.eq_false_iff.2 hbase

end FlowBench.Workflow

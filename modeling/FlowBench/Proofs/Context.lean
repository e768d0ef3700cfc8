/-
  FlowBench.Proofs.Context
  ────────────────────────
  **What a node sees reads like one object.**

  The merged view is never built to resolve a path.  The key of the first
  segment is looked up apart, names before keywords, and the rest of the
  path applies to what that finds.  The theorem says that a path finds all
  the same what it finds in the one object that binds the keywords and, over
  them, the names.

  A path that starts with a bracket has no first key.  It would stay at the
  object itself; the look-up takes it to the node without a display name.
-/
import FlowBench.Proofs.Reference
import FlowBench.Proofs.Table
import FlowBench.Context

namespace FlowBench

/-! ## §1. The first segment. -/

/-- A path has a first segment. -/
theorem Path.exists_head {path : String} {segments : List Segment}
    (h : Path.parse? path = some segments) : ∃ head rest, segments = head :: rest := by
  unfold Path.parse? at h
  split at h
  · cases h
  · obtain ⟨more, hmore⟩ := Path.pieces_eq_cons path.toList
    rw [hmore, List.mapM_cons] at h
    obtain ⟨head, -, h⟩ := Option.bind_eq_some_iff.1 h
    obtain ⟨rest, -, h⟩ := Option.bind_eq_some_iff.1 h
    cases h
    exact ⟨head, rest, rfl⟩

/-- A path follows its first segment, then the others. -/
theorem Value.lookup?_of_parse? {path : String} {head : Segment} {rest : List Segment}
    (h : Path.parse? path = some (head :: rest)) (v : Value) :
    v.lookup? path =
      (v.step? head.key).bind fun w => (w.descend? head.indices).bind fun x => x.walk? rest := by
  unfold Value.lookup?
  rw [h]
  show ((v.step? head.key).bind fun w => w.descend? head.indices).bind (fun x => x.walk? rest) = _
  rw [Option.bind_assoc]

/-- Without a key the first segment is where it starts. -/
theorem Value.step?_empty (v : Value) : v.step? "" = some v := rfl

/-- Behind a bracket at the start of a path there is no first key. -/
theorem Path.key_of_bracket {path : String} {head : Segment} {rest : List Segment}
    (h : Path.parse? path = some (head :: rest)) (hbracket : path.toList.head? = some '[') :
    head.key = "" := by
  rw [Path.key_of_parse? h]
  obtain ⟨cs, hcs⟩ := List.head?_eq_some_iff.1 hbracket
  rw [hcs, List.takeWhile_cons_of_neg (by simp)]

namespace Context

variable (u : Context)

/-- What is seen follows the first segment from the view, then the others
from there. -/
theorem resolve?_of_parse? {path : String} {head : Segment} {rest : List Segment}
    (h : Path.parse? path = some (head :: rest)) (hnow : path ≠ nowPath) (clock : String) :
    u.resolve? clock path =
      (u.root? head.key).bind fun w => (w.descend? head.indices).bind fun x => x.walk? rest := by
  unfold resolve?
  rw [if_neg hnow, h]

/-- Where there is nothing to follow, nothing is found. -/
theorem resolve?_of_malformed {path : String} (h : Path.parse? path = none) (hnow : path ≠ nowPath)
    (clock : String) : u.resolve? clock path = none := by
  unfold resolve?
  rw [if_neg hnow, h]

theorem resolve?_nowPath (clock : String) : u.resolve? clock nowPath = some (.str clock) := by
  unfold resolve?
  rw [if_pos rfl]

/-! ## §2. The merged view. -/

/-- What a key of the merged view is bound to: a name before a keyword. -/
theorem root?_eq (key : String) :
    u.root? key = (u.named.get? key).or
      (if key = inputKey then some (.arr u.ordered)
        else if key = jsonKey then u.ordered.head? else none) := by
  unfold root?
  cases u.named.get? key <;> rfl

/-- **The merged view is an object with these bindings.** -/
theorem exists_merged_eq : ∃ t : Table Value, u.merged = .ofTable t ∧
    ∀ key, t.get? key = u.root? key := by
  refine ⟨_, rfl, ?_⟩
  intro key
  -- the names are put in after the keywords, so that a name wins
  rw [root?_eq, Table.get?_foldl_insert key _ u.named.increasing.nodup]
  show (u.named.get? key).or _ = _
  congr 1
  have hne : jsonKey ≠ inputKey := by decide
  by_cases hinput : key = inputKey
  · subst hinput
    cases u.ordered.head? <;> simp [hne.symm]
  · by_cases hjson : key = jsonKey
    · subst hjson
      cases u.ordered.head? <;> simp [hne]
    · cases u.ordered.head? <;> simp [hinput, hjson]

/-- Its keys are followed as they are bound. -/
theorem step?_merged {key : String} (h : key ≠ "") : u.merged.step? key = u.root? key := by
  obtain ⟨t, hmerged, ht⟩ := u.exists_merged_eq
  rw [hmerged, ← ht]
  unfold Value.step?
  rw [if_neg (by simpa using h)]
  rfl

/-- The empty key is no keyword. -/
theorem root?_empty : u.root? "" = u.named.get? "" := by
  rw [root?_eq, if_neg (by decide), if_neg (by decide), Option.or_none]

/-! ## §3. The theorem. -/

/-- **A path finds in what a node sees what it finds in one object.**

The object binds every name to its output, `$input` to the list of the ordered
outputs and `$json` to the first of them if there is one, each unless a name
hides it.  A path whose first segment has a key finds what it finds there.  A
path that starts with a bracket finds what it finds in the output of the node
without a display name, and nothing if there is none.  A malformed path finds
nothing anywhere. -/
theorem resolves_in_one_object (clock : String) (path : String) (hnow : path ≠ nowPath) :
    (∃ t : Table Value, u.merged = .ofTable t ∧ ∀ key, t.get? key =
      (u.named.get? key).or
        (if key = inputKey then some (.arr u.ordered)
          else if key = jsonKey then u.ordered.head? else none)) ∧
    (∀ head rest, Path.parse? path = some (head :: rest) → head.key ≠ "" →
      u.resolve? clock path = u.merged.lookup? path) ∧
    (path.toList.head? = some '[' →
      u.resolve? clock path = (u.named.get? "").bind fun v => v.lookup? path) ∧
    (Path.parse? path = none →
      u.resolve? clock path = none ∧ ∀ v : Value, v.lookup? path = none) := by
  have hmalformed : Path.parse? path = none →
      u.resolve? clock path = none ∧ ∀ v : Value, v.lookup? path = none := by
    intro hparse
    unfold resolve? Value.lookup?
    rw [if_neg hnow, hparse]
    exact ⟨rfl, fun _ => rfl⟩
  refine ⟨?_, ?_, ?_, hmalformed⟩
  · obtain ⟨t, hmerged, ht⟩ := u.exists_merged_eq
    exact ⟨t, hmerged, fun key => (ht key).trans (u.root?_eq key)⟩
  · intro head rest hparse hkey
    rw [u.resolve?_of_parse? hparse hnow, Value.lookup?_of_parse? hparse, u.step?_merged hkey]
  · intro hbracket
    cases hparse : Path.parse? path with
    | none =>
      obtain ⟨hmiss, hnowhere⟩ := hmalformed hparse
      rw [hmiss]
      cases u.named.get? "" with
      | none => rfl
      | some v => exact (hnowhere v).symm
    | some segments =>
      obtain ⟨head, rest, rfl⟩ := Path.exists_head hparse
      have hkey : head.key = "" := Path.key_of_bracket hparse hbracket
      rw [u.resolve?_of_parse? hparse hnow, hkey, root?_empty]
      congr 1
      funext v
      rw [Value.lookup?_of_parse? hparse, hkey, Value.step?_empty, Option.bind_some]

/-- A name hides a keyword, and a path that starts with a bracket goes to the
node without a display name. -/
theorem resolves_beside_hidden_keyword :
    let u : Context :=
      { ordered := [.bool true]
        named := (Table.empty.insert "" (.arr [.null, .str "x"])).insert "$json"
          (.obj [("a", .str "y")]) }
    "$json.a" ≠ nowPath ∧ "[1]" ≠ nowPath ∧
      u.resolve? "" "$json.a" = u.merged.lookup? "$json.a" ∧
      (u.resolve? "" "$json.a").bind Value.str? = some "y" ∧
      (u.resolve? "" "[1]").bind Value.str? = some "x" := by
  intro u
  have hjson : "$json.a" ≠ nowPath := by decide
  have hindex : "[1]" ≠ nowPath := by decide
  obtain ⟨-, hkey, -, -⟩ := u.resolves_in_one_object "" "$json.a" hjson
  obtain ⟨-, -, hbracket, -⟩ := u.resolves_in_one_object "" "[1]" hindex
  have hmerged : u.resolve? "" "$json.a" = u.merged.lookup? "$json.a" :=
    hkey ⟨"$json", []⟩ [⟨"a", []⟩] (by decide +kernel) (by decide)
  refine ⟨hjson, hindex, hmerged, ?_, ?_⟩
  · rw [hmerged]
    decide +kernel
  · rw [hbracket (by decide)]
    decide +kernel

end Context

end FlowBench

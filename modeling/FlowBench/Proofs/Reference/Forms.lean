/-
  FlowBench.Proofs.Reference.Forms
  ────────────────────────────────
  **The two forms of a reference say the same.**

  A qualified reference looks its path up in the output of the node that it
  names.  A direct path is read as a whole: its first segment is the name,
  looked up in the merged view, and the rest applies to what that finds.
  The name is a segment of its own when it has neither point nor bracket;
  the merged view differs from the outputs by name in its keywords only, and
  the clock is read only by a path that is `now` and nothing else.
-/
import FlowBench.Proofs.Context
import FlowBench.Proofs.Path

namespace FlowBench

variable {u : Context} {name : String}

/-- A name that is no keyword, or hides the one it is, is read from the
outputs by name. -/
theorem Context.root?_of_name
    (h : u.named.get? name = none → name ≠ jsonKey ∧ name ≠ inputKey) :
    u.root? name = u.named.get? name := by
  rw [u.root?_eq]
  cases hget : u.named.get? name with
  | some v => rfl
  | none =>
    obtain ⟨hjson, hinput⟩ := h hget
    rw [if_neg hinput, if_neg hjson]
    rfl

/-- A joined path is not the clock's. -/
theorem join_ne_nowPath (p q : String) : p ++ "." ++ q ≠ nowPath := by
  intro h
  have hpoint : '.' ∈ (p ++ "." ++ q).toList := by simp
  rw [h] at hpoint
  exact absurd hpoint (by decide)

namespace Reference

/-- **A qualified reference and a direct path find the same.**

The name is not empty and has neither point nor bracket, and it is not a
keyword that no node hides.  The path may be any text: where it is malformed
both find nothing.  Without a path the direct form is the name alone, and the
clock's name is the only one that does not read the node. -/
theorem forms_agree (clock : String) (u : Context) (name : String) (hne : name ≠ "")
    (hpoint : '.' ∉ name.toList) (hbracket : '[' ∉ name.toList)
    (hkeyword : u.named.get? name = none → name ≠ jsonKey ∧ name ≠ inputKey) :
    (∀ path : String, (qualified name (some path)).resolve? clock u =
      (direct (name ++ "." ++ path)).resolve? clock u) ∧
    (name ≠ nowPath → (qualified name none).resolve? clock u =
      (direct name).resolve? clock u) ∧
    (name = nowPath → (direct name).resolve? clock u = some (.str clock)) := by
  have hname := Path.parse?_of_key hne hpoint hbracket
  have hroot := Context.root?_of_name hkeyword
  refine ⟨?_, ?_, ?_⟩
  · intro path
    show (u.named.get? name).bind (fun v => v.lookup? path) = u.resolve? clock (name ++ "." ++ path)
    -- the name is the first segment of the joined path, and the rest is the path's own
    have hjoin := Path.parse?_join name path
    rw [hname, Option.bind_some] at hjoin
    unfold Value.lookup?
    cases hpath : Path.parse? path with
    | none =>
      -- the joined path is as malformed as its second half
      rw [hpath] at hjoin
      rw [u.resolve?_of_malformed hjoin (join_ne_nowPath name path)]
      cases u.named.get? name <;> rfl
    | some segments =>
      rw [hpath] at hjoin
      rw [u.resolve?_of_parse? hjoin (join_ne_nowPath name path), hroot]
      rfl
  · intro hnow
    show u.named.get? name = u.resolve? clock name
    rw [u.resolve?_of_parse? hname hnow, hroot]
    cases u.named.get? name <;> rfl
  · rintro rfl
    exact u.resolve?_nowPath clock

/-- The node `now` is read by either form once a path follows, here one that
starts with a bracket; and so is one that hides `$json`. -/
theorem forms_agree_of_now_and_hidden_keyword :
    let u : Context :=
      { named := (Table.empty.insert "now" (.arr [.null, .obj [("x", .str "found")]])).insert
          "$json" (.str "hidden") }
    ("now" ≠ "" ∧ '.' ∉ "now".toList ∧ '[' ∉ "now".toList ∧ u.named.get? "now" ≠ none) ∧
      ("$json" ≠ "" ∧ '.' ∉ "$json".toList ∧ '[' ∉ "$json".toList ∧
        u.named.get? "$json" ≠ none) ∧
      (qualified "now" (some "[1].x")).resolve? "12:00" u =
        (direct ("now" ++ "." ++ "[1].x")).resolve? "12:00" u ∧
      ((qualified "now" (some "[1].x")).resolve? "12:00" u).bind Value.str? = some "found" ∧
      (direct "now").resolve? "12:00" u = some (.str "12:00") ∧
      (qualified "$json" none).resolve? "12:00" u = (direct "$json").resolve? "12:00" u := by
  intro u
  have hnow : u.named.get? "now" ≠ none := by decide +kernel
  have hjson : u.named.get? "$json" ≠ none := by decide +kernel
  obtain ⟨hpath, -, hclock⟩ := forms_agree "12:00" u "now" (by decide) (by decide) (by decide)
    fun h => absurd h hnow
  obtain ⟨-, hbare, -⟩ := forms_agree "12:00" u "$json" (by decide) (by decide) (by decide)
    fun h => absurd h hjson
  have hfound : ((qualified "now" (some "[1].x")).resolve? "12:00" u).bind Value.str? =
      some "found" := by decide +kernel
  exact ⟨⟨by decide, by decide, by decide, hnow⟩, ⟨by decide, by decide, by decide, hjson⟩,
    hpath "[1].x", hfound, hclock rfl, hbare (by decide)⟩

/-- A keyword that no node hides is read by the direct form alone. -/
example : ((direct "$json").resolve? "" { ordered := [.null] }).isSome = true ∧
    ((qualified "$json" none).resolve? "" { ordered := [.null] }).isSome = false := by
  decide +kernel

end Reference

end FlowBench

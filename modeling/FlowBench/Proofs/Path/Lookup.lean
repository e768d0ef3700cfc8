/-
  FlowBench.Proofs.Path.Lookup
  ────────────────────────────
  **Looking up along a joined path.**

  Segments are followed from left to right, so a value is looked up along a
  path that is joined by points by looking up along its parts in turn.  A part
  that is malformed makes the joined path malformed, and a malformed path
  finds nothing; so the parts may be any texts.
-/
import FlowBench.Proofs.Path

namespace FlowBench.Value

/-- Following more segments goes on from what the first ones lead to. -/
theorem walk?_append (v : Value) (ss ts : List Segment) :
    v.walk? (ss ++ ts) = (v.walk? ss).bind fun u => u.walk? ts :=
  List.foldlM_append

/-- What a joined path finds, its second part finds in what the first finds. -/
theorem lookup?_join (v : Value) (p q : String) :
    v.lookup? (p ++ "." ++ q) = (v.lookup? p).bind fun u => u.lookup? q := by
  unfold lookup?
  rw [Path.parse?_join]
  cases Path.parse? p with
  | none => rfl
  | some ss =>
    rw [Option.bind_some, Option.bind_some]
    cases Path.parse? q with
    | none =>
      -- nothing is followed along the joined path, and nothing from where the first part leads
      show none = (v.walk? ss).bind fun _ => none
      rw [Option.bind_fun_none]
    | some ts => exact v.walk?_append ss ts

/-- A path that is joined of several finds what they find in turn. -/
theorem lookup?_intercalate (v : Value) (p : String) (rest : List String) :
    v.lookup? (String.intercalate "." (p :: rest)) = (p :: rest).foldlM lookup? v := by
  induction rest generalizing p with
  | nil =>
    rw [List.foldlM_cons]
    exact (Option.bind_fun_some _).symm
  | cons q rest ih =>
    -- the first two parts are one path, to which the others are joined
    have hjoined : String.intercalate "." (p :: q :: rest) =
        String.intercalate "." ((p ++ "." ++ q) :: rest) := rfl
    rw [hjoined, ih]
    calc ((p ++ "." ++ q) :: rest).foldlM lookup? v
        = (v.lookup? (p ++ "." ++ q)).bind fun u => rest.foldlM lookup? u := List.foldlM_cons
      _ = ((v.lookup? p).bind fun w => w.lookup? q).bind fun u => rest.foldlM lookup? u := by
        rw [lookup?_join]
      _ = (v.lookup? p).bind fun w => (w.lookup? q).bind fun u => rest.foldlM lookup? u :=
        Option.bind_assoc _ _ _
      _ = (p :: q :: rest).foldlM lookup? v := rfl

/-- **Looking up composes.**  Whatever the texts and the value,

* a path joined of two finds what the second finds in the value that the first
  finds, and nothing where the first finds nothing;
* a path joined of any number of texts finds what they find in turn. -/
theorem lookup_composes (root : Value) :
    (∀ p q : String,
      root.lookup? (p ++ "." ++ q) =
        match root.lookup? p with
        | some v => v.lookup? q
        | none => none) ∧
    ∀ (p : String) (rest : List String),
      root.lookup? (String.intercalate "." (p :: rest)) = (p :: rest).foldlM lookup? root := by
  refine ⟨fun p q => ?_, root.lookup?_intercalate⟩
  rw [lookup?_join]
  cases root.lookup? p <;> rfl

/-- The first part leads to an item, and the second to a field of it. -/
example : ((object [("a", arr [null, object [("b", .str "x")]])]).lookup?
    ("a[1]" ++ "." ++ "b")).any (· matches .str "x") = true := by decide +kernel

/-- A point that stands in brackets cuts them in two: the first half is
malformed, and so is the whole. -/
example : (arr [arr [null]]).lookup? ("[0" ++ "." ++ "][0]") = none := by decide +kernel

end FlowBench.Value

/-
  FlowBench.Yaml.Reader
  ─────────────────────
  **Reading YAML text as data of a shape.**

  The text must hold one document, and its tree must have the shape.  In a
  place for a text any scalar is taken as it is written; in a place for a
  list, a table or a record an absent node is an empty one.  Records have to
  be mappings.  A fault is told with its place: that of the innermost list,
  mapping or scalar around it.
-/
import FlowBench.Yaml.Tree.Builder
import FlowBench.Yaml.Tree.Meaning

namespace FlowBench.Yaml

namespace Tree

/-- Reads a node as one of a few words.  The word may be the name of a tag
with nothing behind it; a tag that is none of them has no place of its
own. -/
def readChoice (place : String) (words : List String) (t : Tree) : Except Fault Value :=
  let tag := match t with
    | .scalar tag _ _ => tag
    | .list tag _ => tag
    | .mapping tag _ => tag
    | _ => none
  match ownTag? tag, t with
  | some w, t =>
      if w ∉ words then .error ⟨none, .unknownVariant w words⟩
      else
        match t with
        | .scalar _ _ text =>
            if text.isEmpty || isNullWord text then .ok (.str w)
            else Fault.raise place (.invalidValue (.text text) "null")
        | t => Fault.raise place (t.misfit "unit")
  | none, .scalar _ _ text =>
      if text ∈ words then .ok (.str text) else Fault.raise place (.unknownVariant text words)
  | none, t => Fault.raise place (t.misfit "a YAML tag starting with '!'")

/-- The first field that is given twice. -/
def repeated? (fields : List (String × Presence × Shape)) : List String → Option String
  | [] => none
  | key :: rest =>
      if rest.contains key && fields.any (fun f => f.1 = key) then some key
      else repeated? fields rest

mutual
/-- Reads a node as a shape. -/
def read (place : String) : Shape → Tree → Except Fault Value
  | .any, t => t.value place
  | .text, .scalar _ _ text => .ok (.str text)
  | .text, t => Fault.raise place (t.misfit "a string")
  | .orNull s, t =>
      match t.isNull with
      | .error cause => .error ⟨none, cause⟩
      | .ok true => .ok .null
      | .ok false => read place s t
  | .list s, .list _ items =>
      Fault.locate place
        ((items.zipIdx.mapM fun e => read (Fault.item place e.2) s e.1).map .arr)
  | .list _, t => if t.isAbsent then .ok (.arr []) else Fault.raise place (t.misfit "a sequence")
  | .table s, .mapping _ entries =>
      Fault.locate place
        ((entries.mapM fun (e : Tree × Tree) => do
          let key ← keyText place "a string" e.1
          let v ← read (Fault.field place key) s e.2
          return (key, v)).map .object)
  | .table _, t => if t.isAbsent then .ok (.obj []) else Fault.raise place (t.misfit "a map")
  | .choice words, t => t.readChoice place words
  | .record title fields, t => do
      let entries ← match t with
        | .mapping _ entries => .ok entries
        | t => if t.isAbsent then .ok [] else Fault.raise place (t.misfit title)
      let given ← Fault.locate place (entries.mapM fun (e : Tree × Tree) => do
        let key ← keyText place "field identifier" e.1
        let field ← readField place fields key e.2
        return (key, field))
      match repeated? fields (given.map Prod.fst), Shape.missing? fields (given.map Prod.fst) with
      | some name, _ => Fault.raise place (.duplicateField name)
      | none, some name => Fault.raise place (.missingField name)
      | none, none => .ok (.object (given.filterMap Prod.snd))
  | .refined s check, t => do
      let v ← read place s t
      (check v).mapError fun cause => ⟨none, cause⟩
  | s, t => do
      let v ← t.value place
      (s.read .held v).mapError fun cause => ⟨some place, cause⟩

/-- Reads one field of a record; one that the record does not know is passed
over. -/
def readField (place : String) :
    List (String × Presence × Shape) → String → Tree → Except Fault (Option (String × Value))
  | [], _, _ => .ok none
  | (name, _, s) :: rest, key, t =>
      if name = key then (read (Fault.field place key) s t).map fun v => some (name, v)
      else readField place rest key t
end

end Tree

/-- Why a text cannot be read as data of a shape. -/
inductive ReadError where
  /-- It is no YAML document of data. -/
  | malformed
  /-- The data has another shape. -/
  | misshapen (fault : Fault)
  deriving DecidableEq, Repr

/-- The tree of a text. -/
def tree? (text : String) : Option Tree := (Lexer.tokens? text).bind Tree.ofTokens?

/-- Reads a text as data of a shape. -/
def readAs (shape : Shape) (text : String) : Except ReadError Value :=
  match tree? text with
  | none => .error .malformed
  | some t =>
      match t.read "" shape with
      | .ok v => .ok v
      | .error fault => .error (if t.isData then .misshapen fault else .malformed)

end FlowBench.Yaml

/-
  FlowBench.Toml.Table
  ────────────────────
  **Filling TOML tables.**

  A path leads from a table to one inside it, and makes the tables that are
  not there.  What is complete is not added to: tables in braces, tables
  with headers by dotted keys, and whatever is no table.
-/
import FlowBench.Toml.Value

namespace FlowBench.Toml

/-- The fields of a table. -/
abbrev Fields := List (String × Toml)

namespace Fields

/-- Gives a field a value. -/
def set (key : String) (v : Toml) : Fields → Fields
  | [] => [(key, v)]
  | (k, w) :: rest => if k = key then (k, v) :: rest else (k, w) :: set key v rest

/-- Adds a field that is not there. -/
def add? (key : String) (v : Toml) (fields : Fields) : Option Fields :=
  match fields.lookup key with
  | some _ => none
  | none => some (fields ++ [(key, v)])

/-- Changes the fields at the end of a path, which was written as a dotted
key or as a header. -/
def change? (dotted : Bool) (change : Origin → Fields → Option Fields) :
    List String → Origin → Fields → Option Fields
  | [], origin, fields => change origin fields
  | key :: path, _, fields =>
      match fields.lookup key with
      | none =>
          let origin := if dotted then .dotted else .implied
          (change? dotted change path origin []).map fun inner =>
            fields ++ [(key, .table origin inner)]
      | some (.table origin inner) =>
          if origin = .inline || (dotted && origin = .header) then none
          else
            (change? dotted change path origin inner).map fun inner =>
              set key (.table origin inner) fields
      | some (.array items) =>
          match items.getLast? with
          | some (.table .header inner) =>
              (change? dotted change path .header inner).map fun inner =>
                set key (.array (items.dropLast ++ [.table .header inner])) fields
          | _ => none
      | some _ => none

/-- Adds the value of a dotted key. -/
def addAt? (path : List String) (key : String) (v : Toml) (origin : Origin) (fields : Fields) :
    Option Fields :=
  change? true
    (fun origin fields => if path.isEmpty || origin = .dotted then add? key v fields else none)
    path origin fields

/-- Opens a table by its header. -/
def openTable? (path : List String) (key : String) (fields : Fields) : Option Fields :=
  change? false
    (fun _ fields =>
      match fields.lookup key with
      | none => some (fields ++ [(key, .table .header [])])
      | some (.table .implied inner) => some (set key (.table .header inner) fields)
      | some _ => none)
    path .header fields

/-- Opens one more item of an array of tables by its header. -/
def openItem? (path : List String) (key : String) (fields : Fields) : Option Fields :=
  change? false
    (fun _ fields =>
      match fields.lookup key with
      | none => some (fields ++ [(key, .array [.table .header []])])
      | some (.array items) =>
          match items.getLast? with
          | some (.table .header _) => some (set key (.array (items ++ [.table .header []])) fields)
          | _ => none
      | some _ => none)
    path .header fields

end Fields

end FlowBench.Toml

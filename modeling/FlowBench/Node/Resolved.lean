/-
  FlowBench.Node.Resolved
  ───────────────────────
  **Configurations with their spans resolved.**

  Every text that may hold spans is replaced by its resolution; the rest is
  left alone.  The report names the texts that have an opening at all, with
  the spans that stayed in place.
-/
import FlowBench.Node.Config
import FlowBench.Template

namespace FlowBench

/-- One text after resolution. -/
structure ResolvedField where
  field : String
  template : String
  result : String
  unresolved : List String
  deriving DecidableEq, Repr

/-- A configuration after resolution. -/
structure ResolvedConfig where
  config : NodeConfig
  fields : List ResolvedField

/-- The number of spans that stayed in place. -/
def ResolvedConfig.unresolvedCount (r : ResolvedConfig) : Nat :=
  r.fields.foldl (fun count f => count + f.unresolved.length) 0

/-- Resolves a configuration against what its node sees. -/
def NodeConfig.resolve (clock : String) (u : Context) (c : NodeConfig) : ResolvedConfig :=
  { config := c.mapTexts fun _ text => (Template.resolve clock u text).text
    fields := (c.texts.filter fun t => Template.hasOpening t.2.toList).map fun t =>
      let r := Template.resolve clock u t.2
      ⟨t.1, t.2, r.text, r.unresolved⟩ }

end FlowBench

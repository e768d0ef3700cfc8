/-
  FlowBench.Settings.File
  ───────────────────────
  **Settings files.**

  The settings are kept in a TOML file, in two sections.  What else stands in
  the file is left alone.  When there is no file, nothing is set.
-/
import FlowBench.Plan.Basic
import FlowBench.Settings.Basic
import FlowBench.Toml.Reader

namespace FlowBench.Settings

/-! ## §1. Shape. -/

/-- The fields of a section; a list gives them in the order of their names,
and a moment gives none. -/
def sectionFields? (names : List String) : Toml → Option Toml.Fields
  | .table _ fields => some fields
  | .array items => if names.length ≤ items.length then some (names.zip items) else none
  | .moment _ => some []
  | _ => none

/-- The section with a name, or an empty one. -/
def section? (document : Toml.Fields) (name : String) (names : List String) : Option Toml.Fields :=
  match document.lookup name with
  | some v => sectionFields? names v
  | none => some []

/-- The text of a field, if it is there. -/
def textField? (fields : Toml.Fields) (name : String) : Option (Option String) :=
  match fields.lookup name with
  | none => some none
  | some (.text s) => some (some s)
  | some _ => none

/-- The count of a field, if it is there. -/
def countField? (fields : Toml.Fields) (name : String) : Option (Option Nat) :=
  match fields.lookup name with
  | none => some none
  | some (.integer i) => if 0 ≤ i then some (some i.toNat) else none
  | some _ => none

/-- The settings of a document. -/
def ofFields? (document : Toml.Fields) : Option Settings := do
  let backend ← section? document "backend" ["url", "api_key", "timeout_secs"]
  let logging ← section? document "logging" ["filter"]
  return { url := ← textField? backend "url", apiKey := ← textField? backend "api_key"
           timeoutSeconds := ← countField? backend "timeout_secs"
           filter := ← textField? logging "filter" }

/-- Reads the text of a settings file. -/
def ofToml (text : String) : Except Error Settings :=
  match (Toml.read? text).bind ofFields? with
  | some s => .ok s
  | none => .error .malformedConfig

/-! ## §2. Files. -/

/-- Whether a fault says that there is no file. -/
def isAbsence (fault : FileFault) : Bool :=
  fault ∈ [.missing, .notDirectory, .tooLong, .unnamable]

/-- The settings in what was read from a file. -/
def ofFile : Except FileFault String → Except Error Settings
  | .ok text => ofToml text
  | .error fault =>
      if isAbsence fault then .ok {}
      else .error (.config ("Failed to read config file: " ++ fault.text))

/-- Loads the settings file at a place. -/
def load (file : String) : Plan.Fallible Settings :=
  ExceptT.mk (.read file fun r => .done (ofFile r))

end FlowBench.Settings

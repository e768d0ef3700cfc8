/-
  FlowBench.Error
  ───────────────
  **What can go wrong, and what to do about it.**

  Every failure has a code, a text, a shorter text for the person who runs a
  test, and in most cases advice.  A path that finds nothing and a cycle of
  edges are no failures.
-/

namespace FlowBench

/-- The failures. -/
inductive Error where
  /-- A session file does not describe a workflow. -/
  | parse (details : String)
  /-- A session file is no YAML document at all. -/
  | malformedSession
  | io (text : String)
  | config (reason : String)
  /-- A settings file is no settings document. -/
  | malformedConfig
  | nodeNotFound (node : String)
  | duplicateNodeId (node : String)
  | duplicateName (name : String)
  /-- An edge has an end that does not exist. -/
  | danglingEdge (edge node : String)
  /-- An edge's id belongs to another connection. -/
  | duplicateEdgeId (edge : String)
  /-- An edge leaves a node by a way out that the node does not have. -/
  | unknownHandle (edge node handle : String)
  | testInProgress (node : String)
  | testCancelled (node : String)
  /-- The executor ran the node, and it failed. -/
  | execution (node message : String)
  /-- The backend did not give a usable answer. -/
  | backend (status : Nat) (message : String)
  | credentialNotFound (credential : String)
  deriving DecidableEq, Repr

namespace Error

/-- The code of a failure. -/
def code : Error → String
  | parse _ => "NW-001"
  | malformedSession => "NW-001"
  | io _ => "NW-002"
  | config _ => "NW-003"
  | malformedConfig => "NW-003"
  | nodeNotFound _ => "NW-010"
  | duplicateNodeId _ => "NW-011"
  | duplicateName _ => "NW-012"
  | danglingEdge _ _ => "NW-013"
  | duplicateEdgeId _ => "NW-014"
  | unknownHandle _ _ _ => "NW-015"
  | testInProgress _ => "NW-030"
  | testCancelled _ => "NW-031"
  | execution _ _ => "NW-032"
  | backend _ _ => "NW-033"
  | credentialNotFound _ => "NW-040"

/-- The description of a failure, without its code. -/
def description : Error → String
  | parse details => "Failed to parse session file: " ++ details
  | malformedSession => "Failed to parse session file: not a YAML document"
  | io text => "IO error: " ++ text
  | config reason => "Configuration error: " ++ reason
  | malformedConfig => "Configuration error: Failed to parse config file: not a settings document"
  | nodeNotFound node => "Node '" ++ node ++ "' not found"
  | duplicateNodeId node => "Duplicate node id '" ++ node ++ "'"
  | duplicateName name => "Duplicate display name '" ++ name ++ "'"
  | danglingEdge edge node => "Edge '" ++ edge ++ "' references unknown node '" ++ node ++ "'"
  | duplicateEdgeId edge => "Edge id '" ++ edge ++ "' is already used by a different connection"
  | unknownHandle edge node handle =>
      "Edge '" ++ edge ++ "' leaves '" ++ node ++ "' through undeclared handle '" ++ handle ++ "'"
  | testInProgress node => "A test is already in progress for node '" ++ node ++ "'"
  | testCancelled node => "Test for node '" ++ node ++ "' was cancelled"
  | execution node message => "Node '" ++ node ++ "' failed: " ++ message
  | backend status message => "Backend returned " ++ toString status ++ ": " ++ message
  | credentialNotFound credential => "Credential '" ++ credential ++ "' not found"

/-- The full text of a failure. -/
def message (e : Error) : String := "[" ++ e.code ++ "] " ++ e.description

/-- The text that a node keeps of its failed test. -/
def userMessage : Error → String
  | execution _ text => text
  | backend status text => "backend returned " ++ toString status ++ ": " ++ text
  | e => e.description

/-- Advice. -/
def fix? : Error → Option String
  | parse _ | malformedSession => some "Check YAML syntax: indentation and quoting"
  | io _ => some "Check file path and permissions"
  | config _ | malformedConfig =>
      some "Check ~/.config/nodewire/config.toml or NODEWIRE_* env vars"
  | nodeNotFound _ => some "Use a node id declared under nodes:"
  | duplicateNodeId _ => some "Give every node a unique id"
  | duplicateName _ =>
      some "Rename one of the nodes; display names are used in \x7b\x7b Name.path \x7d\x7d references"
  | danglingEdge _ _ => some "Declare the node or remove the edge"
  | duplicateEdgeId _ => some "Give the edge its own id or drop the id field"
  | unknownHandle _ _ _ =>
      some "Use one of the source node's output handles (true/false, output<n>, fallback)"
  | testInProgress _ => some "Cancel the running test before starting a new one"
  | testCancelled _ => none
  | execution _ _ => some "Check the node configuration and upstream data"
  | backend _ _ => some "Check backend.url and that the executor is reachable"
  | credentialNotFound _ => some "Create the credential or fix credential_id"

end Error

end FlowBench

/-
  FlowBench.Yaml.Tree.Builder
  ───────────────────────────
  **Trees from tokens.**

  The grammar of the tokens.  Where a node can be missing an absent scalar
  stands for it.  Every node that has an anchor is enrolled under a number
  when it begins, so that an alias inside it finds it; a name that is used
  again belongs to the later node.
-/
import FlowBench.Yaml.Tree

namespace FlowBench.Yaml

/-- What is known while a tree is built. -/
structure Builder where
  /-- The tokens to come. -/
  rest : List Token
  /-- What the handles of tags stand for. -/
  handles : List (String × String) := [("!", "!"), ("!!", "tag:yaml.org,2002:")]
  /-- The numbers of the anchors' names. -/
  names : List (String × Nat) := []
  /-- The anchored nodes in the order in which they begin, by number; those
  that are not complete have no tree yet. -/
  anchored : Array (Nat × Option Tree) := #[]

/-- A step of building, which may fail. -/
abbrev Build (α : Type) : Type := StateT Builder Option α

namespace Builder

/-! ## §1. Small steps. -/

/-- The next token. -/
def peek : Build (Option Token) := do return (← get).rest.head?

/-- Goes past the next token. -/
def advance : Build Unit := modify fun b => { b with rest := b.rest.drop 1 }

/-- Whether the next token is one of a few. -/
def nextIs (ts : List Token) : Build Bool := do
  match ← peek with
  | some t => return ts.contains t
  | none => return false

/-- Goes past a token that has to come next. -/
def expect (t : Token) : Build Unit := do
  if ← nextIs [t] then advance else failure

/-- A text up to its first NUL, which ends a tag. -/
def beforeNul (text : String) : String :=
  String.ofList (text.toList.takeWhile fun c => c.toNat ≠ 0)

/-- The whole tag that a handle and the rest of a tag write. -/
def wholeTag (handle rest : String) : Build String := do
  if handle.isEmpty then return beforeNul rest
  else
    match (← get).handles.find? fun h => h.1 = handle with
    | some h => return beforeNul (h.2 ++ rest)
    | none => failure

/-- Gives a node that begins a number; the number tells how many names there
are. -/
def enroll (name : String) : Build Nat := do
  let b ← get
  let number := b.names.length
  set { b with
    names := (name, number) :: b.names.filter fun n => n.1 ≠ name
    anchored := b.anchored.push (number, none) }
  return b.anchored.size

/-- Completes an enrolled node. -/
def complete (place : Nat) (t : Tree) : Build Unit :=
  modify fun b => { b with anchored := b.anchored.modify place fun e => (e.1, some t) }

/-- The alias of a name. -/
def aliasOf (name : String) : Build Tree := do
  match (← get).names.find? fun n => n.1 = name with
  | some n => return .alias n.2
  | none => failure

/-- The anchor and the tag in front of a node, in either order. -/
def properties : Build (Option String × Option String) := do
  match ← peek with
  | some (.anchor name) => do
      advance
      match ← peek with
      | some (.tag handle rest) => do
          advance
          return (some name, some (← wholeTag handle rest))
      | _ => return (some name, none)
  | some (.tag handle rest) => do
      advance
      match ← peek with
      | some (.anchor name) => do
          advance
          return (some name, some (← wholeTag handle rest))
      | _ => return (none, some (← wholeTag handle rest))
  | _ => return (none, none)

/-! ## §2. Nodes. -/

mutual
/-- A node; `block` says whether blocks may stand here, and `compact`
whether the items of a list may, without a deeper block around them.  Every
step takes a token or is followed by one that does, so twice their number
bounds the steps. -/
def node : Nat → Bool → Bool → Build Tree
  | 0, _, _ => failure
  | steps + 1, block, compact => do
      match ← peek with
      | some (.alias name) => do
          advance
          aliasOf name
      | _ => do
          let (anchor, tag) ← properties
          match anchor with
          | none => content steps block compact tag tag.isSome
          | some name => do
              let place ← enroll name
              let t ← content steps block compact tag true
              complete place t
              return t

/-- A node behind its anchor and tag, which an absent scalar may follow. -/
def content : Nat → Bool → Bool → Option String → Bool → Build Tree
  | 0, _, _, _, _ => failure
  | steps + 1, block, compact, tag, mayMiss => do
      let missing : Build Tree := if mayMiss then return .scalar tag true "" else failure
      match ← peek with
      | some .blockEntry =>
          if compact then return .list tag (← compactItems steps) else missing
      | some (.scalar p text) => do
          advance
          return .scalar tag p text
      | some .flowListStart => do
          advance
          return .list tag (← flowItems steps true)
      | some .flowMappingStart => do
          advance
          return .mapping tag (← flowEntries steps true)
      | some .blockListStart =>
          if block then do
            advance
            return .list tag (← blockItems steps)
          else missing
      | some .blockMappingStart =>
          if block then do
            advance
            return .mapping tag (← blockEntries steps)
          else missing
      | _ => missing

/-- The items of a block list. -/
def blockItems : Nat → Build (List Tree)
  | 0 => failure
  | steps + 1 => do
      match ← peek with
      | some .blockEntry => do
          advance
          let t ← if ← nextIs [.blockEntry, .blockEnd] then pure Tree.absent
            else node steps true false
          return t :: (← blockItems steps)
      | some .blockEnd => do
          advance
          return []
      | _ => failure

/-- The items of a list that stands no deeper than its key. -/
def compactItems : Nat → Build (List Tree)
  | 0 => failure
  | steps + 1 => do
      match ← peek with
      | some .blockEntry => do
          advance
          let t ← if ← nextIs [.blockEntry, .key, .value, .blockEnd] then pure Tree.absent
            else node steps true false
          return t :: (← compactItems steps)
      | _ => return []

/-- The entries of a block mapping. -/
def blockEntries : Nat → Build (List (Tree × Tree))
  | 0 => failure
  | steps + 1 => do
      match ← peek with
      | some .key => do
          advance
          let k ← blockPart steps
          let v ← if ← nextIs [.value] then do
              advance
              blockPart steps
            else pure Tree.absent
          return (k, v) :: (← blockEntries steps)
      | some .blockEnd => do
          advance
          return []
      | _ => failure

/-- A key or a value of a block mapping. -/
def blockPart : Nat → Build Tree
  | 0 => failure
  | steps + 1 => do
      if ← nextIs [.key, .value, .blockEnd] then return Tree.absent
      else node steps true true

/-- The items of a list in brackets. -/
def flowItems : Nat → Bool → Build (List Tree)
  | 0, _ => failure
  | steps + 1, first => do
      if ← nextIs [.flowListEnd] then do
        advance
        return []
      else do
        unless first do expect .flowEntry
        match ← peek with
        | some .key => do
            advance
            let k ← if ← nextIs [.value, .flowEntry, .flowListEnd] then do
                advance
                pure Tree.absent
              else node steps false false
            let v ← flowValue steps .flowListEnd
            return .mapping none [(k, v)] :: (← flowItems steps false)
        | some .flowListEnd => do
            advance
            return []
        | _ => do
            let t ← node steps false false
            return t :: (← flowItems steps false)

/-- The entries of a mapping in braces. -/
def flowEntries : Nat → Bool → Build (List (Tree × Tree))
  | 0, _ => failure
  | steps + 1, first => do
      if ← nextIs [.flowMappingEnd] then do
        advance
        return []
      else do
        unless first do expect .flowEntry
        match ← peek with
        | some .key => do
            advance
            let k ← if ← nextIs [.value, .flowEntry, .flowMappingEnd] then pure Tree.absent
              else node steps false false
            let v ← flowValue steps .flowMappingEnd
            return (k, v) :: (← flowEntries steps false)
        | some .flowMappingEnd => do
            advance
            return []
        | _ => do
            let k ← node steps false false
            return (k, Tree.absent) :: (← flowEntries steps false)

/-- The value behind a key in brackets or braces. -/
def flowValue : Nat → Token → Build Tree
  | 0, _ => failure
  | steps + 1, closing => do
      if ← nextIs [.value] then do
        advance
        if ← nextIs [.flowEntry, closing] then return Tree.absent
        else node steps false false
      else return Tree.absent
end

/-! ## §3. Documents. -/

/-- The directives in front of a document. -/
def directives : Nat → Bool → List String → Build Unit
  | 0, _, _ => failure
  | steps + 1, versioned, known => do
      match ← peek with
      | some (.version major minor) =>
          if versioned || major ≠ 1 || (minor ≠ 1 && minor ≠ 2) then failure
          else do
            advance
            directives steps true known
      | some (.handle name beginning) =>
          if known.contains name then failure
          else do
            advance
            modify fun b => { b with handles := (name, beginning) :: b.handles }
            directives steps versioned (name :: known)
      | _ => return ()

/-- Whether a document is announced. -/
def announced : Build Bool := do
  match ← peek with
  | some (.version _ _) => return true
  | some (.handle _ _) => return true
  | some .documentStart => return true
  | _ => return false

/-- Whether the content of an announced document is missing. -/
def contentMissing : Build Bool := do
  match ← peek with
  | none => return true
  | some .documentEnd => return true
  | _ => announced

/-- The only document of a text. -/
def document (steps : Nat) : Build Tree := do
  if (← peek).isNone then return Tree.absent
  else
    let t ← if ← announced then do
        directives steps false []
        expect .documentStart
        if ← contentMissing then pure Tree.absent else node steps true false
      else node steps true false
    modify fun b => { b with rest := b.rest.dropWhile fun t => t = .documentEnd }
    if (← peek).isNone then return t else failure

end Builder

namespace Tree

/-- The tree of the only document that tokens write, aliases expanded.  There
may be a hundred repetitions for every mark of the document. -/
def ofTokens? (tokens : List Token) : Option Tree := do
  let (t, b) ← (Builder.document (2 * tokens.length + 2)).run { rest := tokens }
  let anchored? (number : Nat) : Option Tree :=
    (b.anchored.toList.reverse.find? fun e => e.1 = number).bind Prod.snd
  let (t, _) ← (expand anchored? maxDepth t).run (100 * t.size)
  return t

end Tree

end FlowBench.Yaml

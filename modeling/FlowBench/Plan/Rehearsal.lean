/-
  FlowBench.Plan.Rehearsal
  ────────────────────────
  **Plans carried out in memory.**

  A folder holds texts by their names; a name with slashes lies in folders
  of its own.  A rehearsal carries a plan out on a folder, answers its
  requests from a list, and takes down what is printed.
-/
import FlowBench.Plan.Basic
import FlowBench.Table

namespace FlowBench

/-! ## §1. Folders. -/

/-- A folder. -/
structure Folder where
  /-- The texts of the files, by path. -/
  files : Table String := Table.empty

/-- What there is at a path. -/
inductive FolderEntry where
  | file (name text : String)
  | directory

namespace Folder

/-- Whether a path leads to a folder in this one. -/
def hasDirectory (f : Folder) (name : String) : Bool :=
  f.files.keys.any fun k => (name ++ "/").toList.isPrefixOf k.toList

/-- The place above a place; the one above the folder is outside it. -/
def parent : Option (List String) → Option (List String)
  | some (part :: parts) => some (part :: parts).dropLast
  | _ => none

/-- How many bytes a part of a path may have. -/
def maxPart : Nat := 255

/-- How many bytes a path may have. -/
def maxPath : Nat := 4095

/-- Follows the parts of a path from a place: the parts that lead there from
the folder, or nothing if it lies outside.  Outside there are the folders
around this one, and nothing else. -/
def follow (f : Folder) : Option (List String) → List String → Except FileFault FolderEntry
  | _, [] => .ok .directory
  | place, part :: rest =>
      if part = "" || part = "." then f.follow place rest
      else if part = ".." then f.follow (parent place) rest
      else if maxPart < part.utf8ByteSize then .error .tooLong
      else
        match place with
        | none => .error .missing
        | some above =>
            let name := String.intercalate "/" (above ++ [part])
            match f.files.get? name with
            | some text => if rest.isEmpty then .ok (.file name text) else .error .notDirectory
            | none =>
                if f.hasDirectory name then f.follow (some (above ++ [part])) rest
                else .error .missing

/-- What there is at a path. -/
def find (f : Folder) (path : String) : Except FileFault FolderEntry :=
  if path.contains (Char.ofNat 0) then .error .unnamable
  else if path.isEmpty then .error .missing
  else if maxPath < path.utf8ByteSize then .error .tooLong
  else f.follow (if path.startsWith "/" then none else some []) (path.splitOn "/")

/-- The text of the file at a path. -/
def read (f : Folder) (path : String) : Except FileFault String :=
  match f.find path with
  | .ok (.file _ text) => .ok text
  | .ok .directory => .error .directory
  | .error fault => .error fault

/-- Replaces the text of the file at a path; a file that is not there is made. -/
def write (f : Folder) (path text : String) : Except FileFault Folder :=
  match f.find path with
  | .ok (.file name _) => .ok ⟨f.files.insert name text⟩
  | .ok .directory => .error .directory
  | .error .missing => .ok ⟨f.files.insert path text⟩
  | .error fault => .error fault

end Folder

/-! ## §2. Rehearsals. -/

/-- What a rehearsal works on, and what came of it. -/
structure Rehearsal where
  folder : Folder := {}
  /-- The replies to come; `none` when there is no reply. -/
  replies : List (Option Http.Reply) := []
  /-- The requests so far. -/
  requests : List Http.Request := []
  /-- What was printed so far. -/
  printed : String := ""
  /-- What was printed so far for whoever watches. -/
  noted : String := ""

namespace Rehearsal

/-- The next reply; when the list is used up, one that says nothing. -/
def nextReply (r : Rehearsal) : Option Http.Reply := r.replies.head?.getD (some ⟨200, ""⟩)

/-- Carries a plan out. -/
def run {α : Type} : Plan α → Rehearsal → Rehearsal × α
  | .done a, r => (r, a)
  | .read file next, r => run (next (r.folder.read file)) r
  | .write file text next, r =>
      match r.folder.write file text with
      | .ok folder => run (next (.ok ())) { r with folder := folder }
      | .error fault => run (next (.error fault)) r
  | .print line next, r => run next { r with printed := r.printed ++ line ++ "\n" }
  | .note line next, r => run next { r with noted := r.noted ++ line ++ "\n" }
  | .send request next, r =>
      run (next r.nextReply)
        { r with replies := r.replies.drop 1, requests := r.requests ++ [request] }

/-- Carries a plan out after what was done so far. -/
def perform {α : Type} (r : Rehearsal) (p : Plan α) : Rehearsal × α := run p r

end Rehearsal

end FlowBench

/-
  FlowBench.Proofs.Plan.Files
  ───────────────────────────
  **What a plan does to the files.**

  A folder in which a text was replaced is the same folder, but for that text
  (`follow_insert`).  Most plans keep the files, and so do plans that are made
  of them.  A plan that may fail is all or nothing if it keeps the files when
  it fails; for that, only what comes last may write.
-/
import FlowBench.Command.Basic
import FlowBench.Plan.Rehearsal
import FlowBench.Proofs.Table

namespace FlowBench

/-! ## §1. Folders. -/

/-- What there is at a path once the text under a name was replaced. -/
def FolderEntry.replaced (name text : String) : FolderEntry → FolderEntry
  | .file other old => .file other (if other = name then text else old)
  | .directory => .directory

namespace Folder

variable {f : Folder} {name old text path : String}

/-- A file that is replaced leaves the folders as they are. -/
theorem hasDirectory_insert (h : f.files.get? name = some old) (text above : String) :
    (Folder.mk (f.files.insert name text)).hasDirectory above = f.hasDirectory above := by
  have hkeys (k : String) : k ∈ (f.files.insert name text).keys ↔ k ∈ f.files.keys := by
    rw [Table.mem_keys_iff, Table.mem_keys_iff, Table.get?_insert]
    split
    · next hk => simp [hk, h]
    · rfl
  unfold hasDirectory
  rw [Bool.eq_iff_iff, List.any_eq_true, List.any_eq_true]
  simp only [hkeys]

/-- Every path leads where it led before. -/
theorem follow_insert (h : f.files.get? name = some old) (text : String) :
    ∀ (parts : List String) (place : Option (List String)),
      (Folder.mk (f.files.insert name text)).follow place parts =
        (f.follow place parts).map (FolderEntry.replaced name text)
  | [], _ => rfl
  | part :: rest, place => by
    unfold follow
    split
    · exact follow_insert h text rest place
    · split
      · exact follow_insert h text rest (parent place)
      · split
        · rfl
        · cases place with
          | none => rfl
          | some above =>
            dsimp only
            rw [Table.get?_insert, hasDirectory_insert h, follow_insert h text rest]
            -- a name is a file before and behind, or neither; only its text may differ
            by_cases hname : String.intercalate "/" (above ++ [part]) = name
            · rw [if_pos hname, hname, h]
              dsimp only
              split
              · simp [Except.map, FolderEntry.replaced]
              · rfl
            · rw [if_neg hname]
              cases f.files.get? (String.intercalate "/" (above ++ [part])) with
              | some t =>
                dsimp only
                split
                · simp [Except.map, FolderEntry.replaced, hname]
                · rfl
              | none =>
                dsimp only
                split <;> rfl

theorem find_insert (h : f.files.get? name = some old) (text path : String) :
    (Folder.mk (f.files.insert name text)).find path =
      (f.find path).map (FolderEntry.replaced name text) := by
  unfold find
  split
  · rfl
  · split
    · rfl
    · split
      · rfl
      · exact follow_insert h text _ _

theorem get?_of_follow : ∀ (parts : List String) {place : Option (List String)},
    f.follow place parts = .ok (.file name text) → f.files.get? name = some text
  | [], _, h => by cases h
  | part :: rest, place, h => by
    unfold follow at h
    split at h
    · exact get?_of_follow rest h
    · split at h
      · exact get?_of_follow rest h
      · split at h
        · cases h
        · split at h
          · cases h
          · dsimp only at h
            split at h
            · next hget =>
              split at h
              · cases h
                exact hget
              · cases h
            · split at h
              · exact get?_of_follow rest h
              · cases h

/-- The file that a path leads to is held under its name. -/
theorem get?_of_find (h : f.find path = .ok (.file name text)) : f.files.get? name = some text := by
  unfold find at h
  split at h
  · cases h
  · split at h
    · cases h
    · split at h
      · cases h
      · exact get?_of_follow _ h

/-- A file that can be read can be replaced.  Then its new text is read there,
and what is elsewhere is read as before. -/
theorem write_of_read (h : f.read path = .ok old) (text : String) :
    ∃ g, f.write path text = .ok g ∧ g.read path = .ok text ∧
      ∀ other, f.find other ≠ f.find path → g.read other = f.read other := by
  unfold read at h
  split at h
  · next name _ hfind =>
    cases h
    have hget := get?_of_find hfind
    refine ⟨⟨f.files.insert name text⟩, ?_, ?_, fun other hother => ?_⟩
    · simp only [write, hfind]
    · simp only [read, find_insert hget, hfind, Except.map, FolderEntry.replaced, if_pos]
    · unfold read
      rw [find_insert hget]
      cases hentry : f.find other with
      | error fault => rfl
      | ok entry =>
        cases entry with
        | directory => rfl
        | file name' text' =>
          -- under one name there is one file
          have hname : name' ≠ name := by
            rintro rfl
            rw [get?_of_find hentry, Option.some.injEq] at hget
            exact hother (by rw [hentry, hfind, hget])
          simp [Except.map, FolderEntry.replaced, hname]
  · cases h
  · cases h

theorem read_empty (f : Folder) : f.read "" = .error .missing := by
  have hnul : "".contains (Char.ofNat 0) = false := by simp
  unfold read find
  rw [hnul]
  rfl

/-- A file that is alone in a folder is read under its name. -/
theorem read_alone (text : String) :
    (⟨Table.ofList [("s", text)]⟩ : Folder).read "s" = .ok text := by
  have hnul : "s".contains (Char.ofNat 0) = false := by simp
  have hroot : "s".startsWith "/" = false := by decide +kernel
  have hcut : "s".splitOn "/" = ["s"] := by
    rw [String.splitOn, if_neg (by decide), String.splitOnAux, if_neg (by decide),
      if_neg (by decide), String.splitOnAux, if_pos (by decide)]
    decide +kernel
  unfold read find
  rw [hnul, hroot, hcut]
  rfl

end Folder

/-! ## §2. Plans that keep the files. -/

namespace Rehearsal

/-- A plan that goes on with what came back goes on in the world that is
left. -/
theorem run_bind {α β : Type} (p : Plan α) (next : α → Plan β) (world : Rehearsal) :
    run (p.bind next) world = run (next (run p world).2) (run p world).1 := by
  induction p generalizing world with
  | done a => rfl
  | read file more ih => exact ih _ _
  | write file text more ih =>
    simp only [Plan.bind, run]
    split
    · exact ih _ _
    · exact ih _ _
  | print line more ih => exact ih _
  | note line more ih => exact ih _
  | send request more ih => exact ih _ _

/-- A world in which one more line was printed. -/
def saying (world : Rehearsal) (line : String) : Rehearsal :=
  { world with printed := world.printed ++ line ++ "\n" }

/-- What comes of a plan is told by the files and the replies. -/
theorem run_congr {α : Type} (p : Plan α) {world other : Rehearsal}
    (hfolder : world.folder = other.folder) (hreplies : world.replies = other.replies) :
    (run p world).2 = (run p other).2 := by
  induction p generalizing world other with
  | done a => rfl
  | read file more ih =>
    simp only [run, hfolder]
    exact ih _ hfolder hreplies
  | write file text more ih =>
    simp only [run, hfolder]
    split
    · exact ih _ rfl hreplies
    · exact ih _ hfolder hreplies
  | print line more ih => exact ih hfolder hreplies
  | note line more ih => exact ih hfolder hreplies
  | send request more ih =>
    simp only [run, nextReply, hreplies]
    exact ih _ hfolder rfl

theorem run_saying {α : Type} (p : Plan α) (world : Rehearsal) (line : String) :
    (run p (world.saying line)).2 = (run p world).2 := run_congr p rfl rfl

end Rehearsal

namespace Plan

variable {α β : Type}

/-- A plan changes no file, whatever it meets. -/
def KeepsFiles (p : Plan α) : Prop := ∀ world, (Rehearsal.run p world).1.folder = world.folder

theorem keepsFiles_done (a : α) : KeepsFiles (.done a) := fun _ => rfl

theorem KeepsFiles.bind {p : Plan α} {next : α → Plan β} (hp : p.KeepsFiles)
    (hnext : ∀ a, (next a).KeepsFiles) : (p.bind next).KeepsFiles := by
  intro world
  rw [Rehearsal.run_bind, hnext, hp]

theorem keepsFiles_printAll : ∀ lines : List String, (printAll lines).KeepsFiles
  | [], _ => rfl
  | _ :: rest, _ => keepsFiles_printAll rest _

/-- Lines are printed one after the other, and that is all. -/
theorem run_printAll : ∀ (lines : List String) (world : Rehearsal),
    Rehearsal.run (printAll lines) world = (lines.foldl Rehearsal.saying world, ())
  | [], _ => rfl
  | line :: rest, world => run_printAll rest (world.saying line)

theorem keepsFiles_noteAll : ∀ lines : List String, (noteAll lines).KeepsFiles
  | [], _ => rfl
  | _ :: rest, _ => keepsFiles_noteAll rest _

/-! ## §3. Plans that may fail. -/

namespace Fallible

variable {p : Fallible α} {next : α → Fallible β} {world : Rehearsal}

theorem run_bind (p : Fallible α) (next : α → Fallible β) (world : Rehearsal) :
    Rehearsal.run (p >>= next).run world = match Rehearsal.run p.run world with
      | (after, .ok a) => Rehearsal.run (next a).run after
      | (after, .error e) => (after, .error e) := by
  show Rehearsal.run (p.run.bind _) world = _
  rw [Rehearsal.run_bind]
  obtain ⟨after, result⟩ := Rehearsal.run p.run world
  cases result <;> rfl

/-- A plan succeeds if its parts do, one after the other. -/
theorem ok_bind_iff {b : β} : (Rehearsal.run (p >>= next).run world).2 = .ok b ↔
    ∃ a, (Rehearsal.run p.run world).2 = .ok a ∧
      (Rehearsal.run (next a).run (Rehearsal.run p.run world).1).2 = .ok b := by
  rw [run_bind]
  obtain ⟨after, result⟩ := Rehearsal.run p.run world
  cases result <;> simp

/-- Behind a part that only looks the world is the same. -/
theorem ok_look_iff {r : Except Error α} (hp : Rehearsal.run p.run world = (world, r)) {b : β} :
    (Rehearsal.run (p >>= next).run world).2 = .ok b ↔
      ∃ a, r = .ok a ∧ (Rehearsal.run (next a).run world).2 = .ok b := by
  rw [ok_bind_iff, hp]

theorem run_lift (p : Plan α) (world : Rehearsal) :
    Rehearsal.run (liftM p : Fallible α).run world =
      ((Rehearsal.run p world).1, .ok (Rehearsal.run p world).2) := by
  show Rehearsal.run (p.bind _) world = _
  rw [Rehearsal.run_bind]
  rfl

theorem run_textOf (file : String) (world : Rehearsal) :
    Rehearsal.run (textOf file).run world =
      (world, (world.folder.read file).mapError fun fault => .io fault.text) := rfl

/-- The workflow in a file is read without any change. -/
theorem run_workflowIn (file : String) (world : Rehearsal) :
    Rehearsal.run (Command.workflowIn file).run world = (world, match world.folder.read file with
      | .ok text => Workflow.ofYaml text
      | .error fault => .error (.io fault.text)) := by
  unfold Command.workflowIn
  rw [run_bind, run_textOf]
  cases world.folder.read file <;> rfl

theorem keepsFiles_give (r : Except Error α) : (give r).run.KeepsFiles := fun _ => rfl

theorem keepsFiles_exchange (r : Http.Request) : (exchange r).run.KeepsFiles := by
  intro world
  unfold exchange
  split <;> rfl

theorem keepsFiles_lift {p : Plan α} (hp : p.KeepsFiles) :
    (liftM p : Fallible α).run.KeepsFiles := by
  intro world
  rw [run_lift]
  exact hp world

theorem keepsFiles_bind (hp : p.run.KeepsFiles) (hnext : ∀ a, (next a).run.KeepsFiles) :
    (p >>= next).run.KeepsFiles := by
  intro world
  have hfirst := hp world
  rw [run_bind]
  generalize Rehearsal.run p.run world = first at hfirst ⊢
  obtain ⟨after, result⟩ := first
  cases result with
  | error e => exact hfirst
  | ok a => exact (hnext a after).trans hfirst

/-- A plan that fails leaves the files as they were. -/
def AllOrNothing (p : Fallible α) : Prop :=
  ∀ world e, (Rehearsal.run p.run world).2 = .error e →
    (Rehearsal.run p.run world).1.folder = world.folder

theorem AllOrNothing.of_keepsFiles (hp : p.run.KeepsFiles) : AllOrNothing p :=
  fun world _ _ => hp world

/-- What does not write may come before. -/
theorem AllOrNothing.after (hp : p.run.KeepsFiles) (hnext : ∀ a, AllOrNothing (next a)) :
    AllOrNothing (p >>= next) := by
  intro world e
  have hfirst := hp world
  rw [run_bind]
  generalize Rehearsal.run p.run world = first at hfirst ⊢
  obtain ⟨after, result⟩ := first
  cases result with
  | error _ => exact fun _ => hfirst
  | ok a => exact fun h => (hnext a after e h).trans hfirst

/-- What does not fail may come behind. -/
theorem AllOrNothing.before {q : Plan β} (hp : AllOrNothing p) :
    AllOrNothing (p >>= fun _ => liftM q) := by
  intro world e
  have hfirst := hp world
  rw [run_bind]
  generalize Rehearsal.run p.run world = first at hfirst ⊢
  obtain ⟨after, result⟩ := first
  cases result with
  | error e' => exact fun _ => hfirst e' rfl
  | ok a =>
    intro h
    dsimp only at h
    rw [run_lift] at h
    cases h

theorem allOrNothing_replaceText (file text : String) : AllOrNothing (replaceText file text) := by
  intro world e h
  unfold replaceText at h ⊢
  simp only [ExceptT.run_mk, Rehearsal.run] at h ⊢
  split at h
  · cases h
  · rfl

end Fallible

end Plan

end FlowBench

/-
  FlowBench.Proofs.Workflow.Naming
  ────────────────────────────────
  **The names that nodes get.**

  A base that is held already gets the least number behind it that makes it
  free.  There are as many nodes as numbers that can be passed over, so the
  count stops within 32 bits (`counts_of_leastFree`).  Which name a node gets
  when it is renamed depends on the names of the others alone, so asking
  again for the same name changes nothing (`renameNode_again`).
-/
import Mathlib.Data.Nat.Init
import FlowBench.Proofs.Workflow.Edit

namespace FlowBench.Workflow

variable (w : Workflow) (exclude : Option String) (base : String)

/-! ## §1. The least free number. -/

/-- A node other than the excluded one holds a name. -/
def Held (name : String) : Prop := ∃ m ∈ w.nodes, m.name = name ∧ some m.id ≠ exclude

/-- A number is the least one from 1 on that makes a free name of a base. -/
structure LeastFree (n : Nat) : Prop where
  positive : 1 ≤ n
  free : ¬ w.Held exclude (base ++ toString n)
  least : ∀ m, 1 ≤ m → m < n → w.Held exclude (base ++ toString m)

/-- A count in 32 bits, from a number to the first one that makes a free
name.  A number is tried once the one after it has been formed. -/
inductive Counts : UInt32 → UInt32 → Prop
  | stop {k : UInt32} : k.toNat + 1 < UInt32.size →
      w.isTaken exclude (base ++ toString k.toNat) = false → Counts k k
  | more {k n : UInt32} : k.toNat + 1 < UInt32.size →
      w.isTaken exclude (base ++ toString k.toNat) = true → Counts (k + 1) n → Counts k n

variable {w exclude base}

theorem isTaken_iff_held {name : String} :
    w.isTaken exclude name = true ↔ w.Held exclude name := w.isTaken_iff exclude name

theorem isTaken_eq_false_iff {name : String} :
    w.isTaken exclude name = false ↔ ¬ w.Held exclude name := by
  rw [← isTaken_iff_held, Bool.not_eq_true]

theorem not_held_uniqueName : ¬ w.Held exclude (w.uniqueName base exclude) :=
  isTaken_eq_false_iff.1 (w.uniqueName_free exclude base)

/-- The search through the numbers finds the least free one. -/
theorem exists_leastFree (h : w.Held exclude base) :
    ∃ n, ((List.range' 1 w.nodes.length).find? fun n => !w.isTaken exclude (base ++ toString n)) =
        some n ∧ w.LeastFree exclude base n ∧ n ≤ w.nodes.length := by
  obtain ⟨name, hname, hfree⟩ := w.exists_free_number exclude (isTaken_iff_held.2 h)
  obtain ⟨k, hk, rfl⟩ := List.mem_map.1 hname
  have hfound : ((List.range' 1 w.nodes.length).find?
      fun n => !w.isTaken exclude (base ++ toString n)).isSome = true := by
    rw [List.find?_isSome]
    exact ⟨k, hk, by rw [hfree]; rfl⟩
  obtain ⟨n, hn⟩ := Option.isSome_iff_exists.1 hfound
  obtain ⟨hstop, hmem, hbelow⟩ := List.find?_range'_eq_some.1 hn
  obtain ⟨hpositive, hlast⟩ := List.mem_range'_1.1 hmem
  refine ⟨n, hn, ⟨hpositive, ?_, ?_⟩, by omega⟩
  · rw [Bool.not_eq_true'] at hstop
    exact isTaken_eq_false_iff.1 hstop
  · intro m hm hlt
    have htaken := hbelow m hm hlt
    rw [Bool.not_not] at htaken
    exact isTaken_iff_held.1 htaken

/-- **A base that is held gets the least number that makes it free**, and
there are at least as many nodes. -/
theorem uniqueName_of_held (h : w.Held exclude base) :
    ∃ n, w.LeastFree exclude base n ∧ n ≤ w.nodes.length ∧
      w.uniqueName base exclude = base ++ toString n := by
  obtain ⟨n, hn, hleast, hle⟩ := exists_leastFree h
  refine ⟨n, hleast, hle, ?_⟩
  unfold uniqueName
  rw [if_pos (isTaken_iff_held.2 h)]
  -- searching the names is searching the numbers
  show (((List.range' 1 w.nodes.length).map fun n => base ++ toString n).find?
    fun name => !w.isTaken exclude name).getD base = _
  rw [List.find?_map]
  show (((List.range' 1 w.nodes.length).find?
    fun n => !w.isTaken exclude (base ++ toString n)).map _).getD base = _
  rw [hn]
  rfl

theorem uniqueName_of_not_held (h : ¬ w.Held exclude base) : w.uniqueName base exclude = base := by
  unfold uniqueName
  rw [if_neg fun htaken => h (isTaken_iff_held.1 htaken)]

/-- **The count reaches the least free number** from every number below it,
if that number has a next one in 32 bits. -/
theorem counts_of_leastFree {n : Nat} (hn : w.LeastFree exclude base n)
    (hbound : n + 1 < UInt32.size) {k : Nat} (hk : 1 ≤ k) (hle : k ≤ n) :
    w.Counts exclude base (UInt32.ofNat k) (UInt32.ofNat n) := by
  -- the induction goes down from the free number
  induction hle using Nat.decreasingInduction with
  | self =>
    have hself : (UInt32.ofNat n).toNat = n := UInt32.toNat_ofNat_of_lt' (by omega)
    refine .stop (by rwa [hself]) ?_
    rw [hself]
    exact isTaken_eq_false_iff.2 hn.free
  | of_succ k hlt ih =>
    have hself : (UInt32.ofNat k).toNat = k := UInt32.toNat_ofNat_of_lt' (by omega)
    refine .more (by rw [hself]; omega) ?_ ?_
    · rw [hself]
      exact isTaken_iff_held.2 (hn.least k hk hlt)
    · have hnext := ih (by omega)
      rwa [UInt32.ofNat_add] at hnext

/-! ## §2. Renaming again. -/

/-- Giving a node another name leaves the names of the others. -/
theorem held_named_iff {w' : Workflow} {id free name : String}
    (hnodes : w'.nodes = w.nodes.map (named id free)) :
    w'.Held (some id) name ↔ w.Held (some id) name := by
  unfold Held
  rw [hnodes]
  constructor
  · rintro ⟨m', hm', hname, hne⟩
    obtain ⟨m, hm, rfl⟩ := List.mem_map.1 hm'
    rw [id_named] at hne
    rw [name_named, if_neg (fun h => hne (congrArg some h))] at hname
    exact ⟨m, hm, hname, hne⟩
  · rintro ⟨m, hm, hname, hne⟩
    refine ⟨named id free m, List.mem_map_of_mem hm, ?_, ?_⟩
    · rwa [name_named, if_neg fun h => hne (congrArg some h)]
    · rwa [id_named]

/-- The name that is chosen depends on the names that are held and on how
many nodes there are. -/
theorem uniqueName_congr {w' : Workflow} (hlength : w'.nodes.length = w.nodes.length)
    (hheld : ∀ name, w'.Held exclude name ↔ w.Held exclude name) :
    w'.uniqueName base exclude = w.uniqueName base exclude := by
  have htaken : w'.isTaken exclude = w.isTaken exclude := by
    funext name
    rw [Bool.eq_iff_iff, isTaken_iff_held, isTaken_iff_held]
    exact hheld name
  unfold uniqueName
  rw [htaken, hlength]

theorem named_named (id name : String) (m : Node) :
    named id name (named id name m) = named id name m := by
  by_cases h : m.id = id
  · simp [named, h]
  · simp [named, h]

/-- **Asking again for the same name changes nothing.** -/
theorem renameNode_again (hw : w.Valid) {w' : Workflow} {id name free : String}
    (h : w.renameNode id name = .ok (w', free)) : w'.renameNode id name = .ok (w', free) := by
  have hids' : (w'.nodes.map Node.id).Nodup := (hw.renameNode h).ids
  have hhas : w'.Has id ↔ w.Has id := has_renameNode_iff h
  obtain ⟨hid, hfree, hw'⟩ := renameNode_eq_ok_iff.1 h
  have hnodes : w'.nodes = w.nodes.map (named id free) := by
    rw [hw', ← setName_eq_map id free hw.ids]
  -- the node has the name by now
  have hsame : setName id free w'.nodes = w'.nodes := by
    rw [setName_eq_map id free hids', hnodes, List.map_map]
    exact List.map_congr_left fun m _ => named_named id free m
  refine renameNode_eq_ok_iff.2 ⟨hhas.2 hid, ?_, ?_⟩
  · have hlength : w'.nodes.length = w.nodes.length := by rw [hnodes, List.length_map]
    rw [hfree, uniqueName_congr hlength fun _ => held_named_iff hnodes]
  · rw [hsame]

/-! ## §3. The names that nodes get. -/

variable (w)

/-- **Every node gets a name of its own.**  A base that no other node holds
is taken as it is; any other one gets the least number behind it that makes
it free, which is at most the number of nodes, so the count in 32 bits stops
there.  A node that is added or renamed gets such a name, the names of the
others stay, and asking again for the same name gives the same name. -/
theorem nodes_get_free_names (h : w.validate = .ok ())
    (hsize : w.nodes.length < UInt32.size - 1) :
    (∀ exclude base,
      (¬ w.Held exclude base → w.uniqueName base exclude = base) ∧
      (w.Held exclude base → ∃ n, w.LeastFree exclude base n ∧ n ≤ w.nodes.length ∧
        w.uniqueName base exclude = base ++ toString n ∧
        w.Counts exclude base 1 (UInt32.ofNat n) ∧ (UInt32.ofNat n).toNat = n)) ∧
    (∀ id name config, ¬ w.Has id → ∃ w' n, w.addNode id name config = .ok (w', n) ∧
      n.id = id ∧ n.name = w.uniqueName (name.getD config.kind.defaultName) none ∧
      w'.nodes = w.nodes ++ [n] ∧ ∀ m ∈ w.nodes, m.name ≠ n.name) ∧
    (∀ id name, w.Has id → ∃ w' free, w.renameNode id name = .ok (w', free) ∧
      free = w.uniqueName name (some id) ∧
      w'.nodes = w.nodes.map (named id free) ∧
      (∀ m ∈ w'.nodes, m.name = free ↔ m.id = id) ∧
      w'.renameNode id name = .ok (w', free)) := by
  have hw : w.Valid := (validate_eq_ok_iff w).1 h
  refine ⟨?_, ?_, ?_⟩
  · intro exclude base
    refine ⟨uniqueName_of_not_held, ?_⟩
    intro hheld
    obtain ⟨n, hn, hle, hname⟩ := uniqueName_of_held hheld
    have hbound : n + 1 < UInt32.size := by omega
    exact ⟨n, hn, hle, hname, counts_of_leastFree hn hbound (Nat.le_refl 1) hn.positive,
      UInt32.toNat_ofNat_of_lt' (by omega)⟩
  · intro id name config hnew
    have hids : ∀ m ∈ w.nodes, m.id ≠ id := fun m hm heq => hnew ⟨m, hm, heq⟩
    refine ⟨_, _, addNode_eq_ok_iff.2 ⟨hids, rfl, rfl⟩, rfl, rfl, rfl, ?_⟩
    intro m hm heq
    exact not_held_uniqueName ⟨m, hm, heq, by simp⟩
  · intro id name hhas
    have hrename : w.renameNode id name = .ok (_, _) := renameNode_eq_ok_iff.2 ⟨hhas, rfl, rfl⟩
    refine ⟨_, _, hrename, rfl, setName_eq_map id _ hw.ids, ?_, renameNode_again hw hrename⟩
    intro m' hm'
    rw [setName_eq_map id _ hw.ids] at hm'
    obtain ⟨m, hm, rfl⟩ := List.mem_map.1 hm'
    rw [name_named, id_named]
    constructor
    · intro hname
      by_contra hne
      rw [if_neg hne] at hname
      exact not_held_uniqueName ⟨m, hm, hname, by simpa using hne⟩
    · intro hid
      rw [if_pos hid]

/-- Names that look numbered already are passed over one by one, and a node
does not stand in its own way. -/
theorem numbered_names_passed_over :
    let w : Workflow :=
      { nodes := [⟨"a", "Set", .manual⟩, ⟨"b", "Set1", .manual⟩, ⟨"c", "Set11", .manual⟩] }
    w.validate = .ok () ∧ w.nodes.length < UInt32.size - 1 ∧
      (∃ w' n, w.addNode "d" (some "Set1") .manual = .ok (w', n) ∧ n.name = "Set12") ∧
      ∃ w', w.renameNode "b" "Set" = .ok (w', "Set1") ∧
        w'.renameNode "b" "Set" = .ok (w', "Set1") := by
  intro w
  have h : w.validate = .ok () := by decide
  have hsize : w.nodes.length < UInt32.size - 1 := by decide
  obtain ⟨-, hadd, hrename⟩ := nodes_get_free_names w h hsize
  have hnew : ¬ w.Has "d" := by
    rintro ⟨m, hm, hid⟩
    revert m
    decide
  obtain ⟨w', n, hadded, -, hname, -⟩ := hadd "d" (some "Set1") .manual hnew
  obtain ⟨w'', free, hrenamed, hfree, -, -, hagain⟩ :=
    hrename "b" "Set" ⟨_, List.mem_cons_of_mem _ List.mem_cons_self, rfl⟩
  obtain rfl : free = "Set1" := hfree.trans (by decide)
  exact ⟨h, hsize, ⟨w', n, hadded, hname.trans (by decide)⟩, w'', hrenamed, hagain⟩

end FlowBench.Workflow

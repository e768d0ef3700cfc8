/-
  FlowBench.Proofs.Store.History
  ──────────────────────────────
  **A store knows of a node what was written of it last.**

  Stores are written through handles, and a clone of a handle leads to the
  same store.  Of all that is written, an entry hangs on the writes of its own
  node through the handles of its own store (`entry_run`), and of these on the
  ones since the node was cleared last (`foldl_sinceClear`).  The error is
  told by the latest of them alone; the output and the duration outlive the
  failures that follow them.  `knows_latest_writes` puts this together.
-/
import Mathlib.Data.List.DropRight
import FlowBench.Proofs.Store

namespace FlowBench

/-! ## §1. Writes of a node. -/

/-- What may be written of a node. -/
inductive Store.Write where
  | seed (output : Value)
  | succeed (output : Value) (duration : Nat)
  | fail (message : String) (duration : Nat)
  | clear

namespace Store.Write

/-- Writes of a node of a store. -/
def onStore (s : Store) (id : String) : Write → Store
  | seed output => s.seed id output
  | succeed output duration => s.succeed id output duration
  | fail message duration => s.fail id message duration
  | clear => s.clear id

/-- What a write makes of what is known of its node. -/
def onEntry (known : Option NodeState) : Write → Option NodeState
  | seed output => some { output := some output }
  | succeed output duration =>
      some { output := some output, error := none, duration := some duration }
  | fail message duration => some { known.getD {} with error := some ⟨message, duration⟩ }
  | clear => none

/-- The output that a write brings. -/
def output? : Write → Option Value
  | seed output => some output
  | succeed output _ => some output
  | fail _ _ => none
  | clear => none

/-- The error that a write tells. -/
def failure? : Write → Option TestError
  | fail message duration => some ⟨message, duration⟩
  | _ => none

/-- Whether a write clears its node. -/
def isClear : Write → Bool
  | clear => true
  | _ => false

/-- The writes since the last one that cleared the node. -/
def sinceClear (ws : List Write) : List Write := ws.rtakeWhile fun w => !w.isClear

/-- A write changes the entry of its own node and no other. -/
theorem get?_onStore (s : Store) (id k : String) (w : Write) :
    (w.onStore s id).get? k = if k = id then w.onEntry (s.get? id) else s.get? k := by
  cases w with
  | seed output => exact get?_seed s id k output
  | succeed output d => exact get?_succeed s id k output d
  | fail message d => exact get?_fail s id k message d
  | clear => exact get?_clear s id k

/-- What is known of a node is told by the writes since it was cleared. -/
theorem foldl_sinceClear (ws : List Write) :
    (sinceClear ws).foldl onEntry none = ws.foldl onEntry none := by
  -- by the last write, which clears the node or is one of those since
  induction ws using List.reverseRecOn with
  | nil => rfl
  | append_singleton ws w ih =>
    unfold sinceClear at ih ⊢
    rw [List.rtakeWhile_concat, List.foldl_append]
    cases hw : w.isClear with
    | true =>
      obtain rfl : w = clear := by cases w <;> simp_all [isClear]
      rfl
    | false =>
      rw [if_pos (by rfl), List.foldl_append, ih]

theorem not_isClear_of_mem_sinceClear {ws : List Write} {w : Write} (h : w ∈ sinceClear ws) :
    w.isClear = false := by
  simpa using List.mem_rtakeWhile_imp h

/-! ## §2. What they tell. -/

/-- What is known of a node is what its writes tell, none of which clears
it. -/
structure Tell (ws : List Write) (known : Option NodeState) : Prop where
  uncleared : ∀ w ∈ ws, w.isClear = false
  absent : known = none ↔ ws = []
  output : known.bind NodeState.output = (ws.filterMap output?).getLast?
  error : known.bind NodeState.error = ws.getLast?.bind failure?
  /-- It is that of the latest success, unless a seed came after it. -/
  duration : ∀ d, known.bind NodeState.duration = some d ↔
    ∃ earlier v later, ws = earlier ++ .succeed v d :: later ∧ ∀ w ∈ later, w.output? = none

/-- Behind the last write with an output there may be one more without. -/
theorem exists_last_concat_iff {ws : List Write} {w : Write} {d : Nat} :
    (∃ earlier v later, ws ++ [w] = earlier ++ .succeed v d :: later ∧
        ∀ x ∈ later, x.output? = none) ↔
      (∃ v, w = .succeed v d) ∨ (w.output? = none ∧
        ∃ earlier v later, ws = earlier ++ .succeed v d :: later ∧
          ∀ x ∈ later, x.output? = none) := by
  constructor
  · rintro ⟨earlier, v, later, heq, hlater⟩
    rcases List.eq_nil_or_concat later with rfl | ⟨init, last, rfl⟩
    · obtain ⟨-, hlast⟩ := List.append_inj' heq rfl
      exact .inl ⟨v, by simpa using hlast⟩
    · rw [List.concat_eq_append, ← List.cons_append, ← List.append_assoc] at heq
      obtain ⟨rfl, hlast⟩ := List.append_inj' heq rfl
      obtain rfl : w = last := by simpa using hlast
      rw [List.concat_eq_append, List.forall_mem_append] at hlater
      exact .inr ⟨hlater.2 w (List.mem_singleton_self w), earlier, v, init, rfl, hlater.1⟩
  · rintro (⟨v, rfl⟩ | ⟨hw, earlier, v, later, rfl, hlater⟩)
    · exact ⟨ws, v, [], rfl, by simp⟩
    · refine ⟨earlier, v, later ++ [w], by simp, ?_⟩
      rw [List.forall_mem_append]
      exact ⟨hlater, fun x hx => List.mem_singleton.1 hx ▸ hw⟩

namespace Tell

variable {ws : List Write} {known : Option NodeState}

theorem nil : Tell [] none where
  uncleared := by simp
  absent := by simp
  output := rfl
  error := rfl
  duration d := by simp

/-- One more write is told too. -/
theorem concat (h : Tell ws known) {w : Write} (hw : w.isClear = false) :
    Tell (ws ++ [w]) (w.onEntry known) := by
  have huncleared : ∀ x ∈ ws ++ [w], x.isClear = false := by
    rw [List.forall_mem_append]
    exact ⟨h.uncleared, fun x hx => List.mem_singleton.1 hx ▸ hw⟩
  have habsent : w.onEntry known = none ↔ ws ++ [w] = [] := by
    cases w <;> simp_all [onEntry, isClear]
  cases w with
  | clear => cases hw
  | seed output =>
    refine ⟨huncleared, habsent, ?_, ?_, fun d => ?_⟩
    · simp [onEntry, output?]
    · simp [onEntry, failure?]
    · rw [exists_last_concat_iff]
      simp [onEntry, output?]
  | succeed output duration =>
    refine ⟨huncleared, habsent, ?_, ?_, fun d => ?_⟩
    · simp [onEntry, output?]
    · simp [onEntry, failure?]
    · rw [exists_last_concat_iff]
      simp [onEntry, output?]
  | fail message duration =>
    -- a failure leaves the output and the duration that were there
    have hkept : ∀ {α : Type} (part : NodeState → Option α), part {} = none →
        part (known.getD {}) = known.bind part := by
      intro α part hpart
      cases known with
      | none => exact hpart
      | some state => rfl
    refine ⟨huncleared, habsent, ?_, ?_, fun d => ?_⟩
    · rw [List.filterMap_append]
      show (known.getD {}).output = _
      rw [hkept NodeState.output rfl, h.output]
      simp [output?]
    · simp [onEntry, failure?]
    · rw [exists_last_concat_iff, ← h.duration, ← hkept NodeState.duration rfl]
      simp [onEntry, output?]

theorem foldl_onEntry (ws : List Write) (hws : ∀ w ∈ ws, w.isClear = false) :
    Tell ws (ws.foldl onEntry none) := by
  induction ws using List.reverseRecOn with
  | nil => exact nil
  | append_singleton ws w ih =>
    rw [List.forall_mem_append] at hws
    rw [List.foldl_append]
    exact (ih hws.1).concat (hws.2 w (List.mem_singleton_self w))

variable (h : Tell ws known)

include h

/-- There is an output exactly if a write brought one. -/
theorem isSome_output_iff :
    (known.bind NodeState.output).isSome = true ↔ ∃ w ∈ ws, w.output?.isSome = true := by
  rw [h.output, List.getLast?_isSome, ne_eq, List.filterMap_eq_nil_iff]
  simp [Option.ne_none_iff_isSome]

/-- There is an error exactly if the latest write told one. -/
theorem isSome_error_iff :
    (known.bind NodeState.error).isSome = true ↔
      ∃ earlier w, ws = earlier ++ [w] ∧ w.failure?.isSome = true := by
  rw [h.error]
  rcases List.eq_nil_or_concat ws with rfl | ⟨earlier, w, rfl⟩
  · simp
  · rw [List.concat_eq_append]
    simp

/-- What is known is live exactly if the latest write brought an output. -/
theorem isLive_iff :
    known.any NodeState.isLive = true ↔
      ∃ earlier w, ws = earlier ++ [w] ∧ w.output?.isSome = true := by
  have hparts : known.any NodeState.isLive = true ↔
      (known.bind NodeState.output).isSome = true ∧
        ¬ (known.bind NodeState.error).isSome = true := by
    cases known <;> simp [NodeState.isLive]
  rw [hparts, h.isSome_output_iff, h.isSome_error_iff]
  rcases List.eq_nil_or_concat ws with rfl | ⟨earlier, w, rfl⟩
  · simp
  · -- the latest write either brings an output or tells an error
    rw [List.concat_eq_append] at *
    have hw := h.uncleared w (by simp)
    cases w <;> simp_all [output?, failure?, isClear]

/-- What is known is stale exactly if the latest write failed and one before
it brought an output. -/
theorem isStale_iff :
    known.any NodeState.isStale = true ↔
      ∃ earlier w, ws = earlier ++ [w] ∧ w.failure?.isSome = true ∧
        ∃ x ∈ earlier, x.output?.isSome = true := by
  have hparts : known.any NodeState.isStale = true ↔
      (known.bind NodeState.output).isSome = true ∧ (known.bind NodeState.error).isSome = true := by
    cases known <;> simp [NodeState.isStale]
  rw [hparts, h.isSome_output_iff, h.isSome_error_iff]
  rcases List.eq_nil_or_concat ws with rfl | ⟨earlier, w, rfl⟩
  · simp
  · rw [List.concat_eq_append]
    cases w <;> simp [output?, failure?]

end Tell

end Store.Write

/-! ## §3. Stores behind handles. -/

open Store (Write)

/-- Stores, and the handles that lead to them. -/
structure Shelf where
  stores : List Store := []
  /-- By handle, the place of the store that it leads to. -/
  handles : List Nat := []
  /-- Every handle leads to a store. -/
  lead : ∀ place ∈ handles, place < stores.length := by exact List.forall_mem_nil _

namespace Shelf

/-- Makes a new store and a handle on it. -/
def make (s : Shelf) : Shelf where
  stores := s.stores ++ [Store.mk Table.empty]
  handles := s.handles ++ [s.stores.length]
  lead := by
    intro place hplace
    rw [List.length_append]
    rcases List.mem_append.1 hplace with hold | hnew
    · exact Nat.lt_add_right _ (s.lead place hold)
    · rw [List.mem_singleton.1 hnew]
      exact Nat.lt_succ_self _

/-- Makes another handle on the store of a handle, if there is such a
handle. -/
def clone (s : Shelf) (handle : Nat) : Shelf where
  stores := s.stores
  handles := s.handles ++ s.handles[handle]?.toList
  lead := by
    intro place hplace
    rcases List.mem_append.1 hplace with hold | hnew
    · exact s.lead place hold
    · rw [Option.mem_toList] at hnew
      exact s.lead place (List.mem_of_getElem? hnew)

/-- Writes of a node in the store at a place. -/
def writeAt (s : Shelf) (place : Nat) (id : String) (w : Write) : Shelf where
  stores := s.stores.modify place fun t => w.onStore t id
  handles := s.handles
  lead := by
    intro place hplace
    rw [List.length_modify]
    exact s.lead place hplace

/-- What may be done with stores; handles are numbered as they are made. -/
inductive Act where
  | make
  | clone (handle : Nat)
  /-- Writes of a node through a handle. -/
  | write (handle : Nat) (id : String) (w : Write)

/-- Does something.  Through a handle that nobody made nothing is done. -/
def perform (s : Shelf) : Act → Shelf
  | .make => s.make
  | .clone handle => s.clone handle
  | .write handle id w =>
      match s.handles[handle]? with
      | some place => s.writeAt place id w
      | none => s

/-- What acts lead to. -/
def run (s : Shelf) (acts : List Act) : Shelf := acts.foldl perform s

/-- What is known of a node in the store at a place. -/
def entry (s : Shelf) (place : Nat) (id : String) : Option NodeState :=
  s.stores[place]?.bind fun t => t.get? id

/-- What an act writes of a node in the store at a place. -/
def written? (s : Shelf) (place : Nat) (id : String) : Act → Option Write
  | .write handle node w => if s.handles[handle]? = some place ∧ id = node then some w else none
  | _ => none

/-- What acts write of a node in the store at a place, through whatever
handles. -/
def writes (s : Shelf) (place : Nat) (id : String) : List Act → List Write
  | [] => []
  | a :: rest => (s.written? place id a).toList ++ (s.perform a).writes place id rest

variable {s : Shelf} {place : Nat} {id : String}

/-- In a new store nothing is known, as where there is none. -/
theorem entry_make (s : Shelf) : s.make.entry place id = s.entry place id := by
  show ((s.stores ++ [Store.mk Table.empty])[place]?).bind (fun t => t.get? id) =
    s.stores[place]?.bind fun t => t.get? id
  rcases Nat.lt_trichotomy place s.stores.length with hlt | rfl | hgt
  · rw [List.getElem?_append_left hlt]
  · rw [List.getElem?_concat_length, List.getElem?_eq_none (Nat.le_refl _)]
    rfl
  · have hbeyond : (s.stores ++ [Store.mk Table.empty]).length ≤ place := by
      rw [List.length_append]
      exact hgt
    rw [List.getElem?_eq_none hbeyond, List.getElem?_eq_none (Nat.le_of_lt hgt)]

/-- A write changes the entry of its node in its store, and no other. -/
theorem entry_writeAt (s : Shelf) {target : Nat} (htarget : target < s.stores.length)
    (node : String) (w : Write) :
    (s.writeAt target node w).entry place id =
      if target = place ∧ id = node then w.onEntry (s.entry place node) else s.entry place id := by
  unfold writeAt entry
  rw [List.getElem?_modify]
  by_cases hplace : target = place
  · subst hplace
    rw [List.getElem?_eq_getElem htarget]
    simp [Write.get?_onStore]
  · simp [hplace]

/-- An act changes an entry by what it writes of it. -/
theorem entry_perform (s : Shelf) (a : Act) :
    (s.perform a).entry place id =
      (s.written? place id a).toList.foldl Write.onEntry (s.entry place id) := by
  cases a with
  | make => exact s.entry_make
  | clone handle => rfl
  | write handle node w =>
    cases hhandle : s.handles[handle]? with
    | none => simp [perform, written?, hhandle]
    | some target =>
      have htarget : target < s.stores.length := s.lead target (List.mem_of_getElem? hhandle)
      simp only [perform, written?, hhandle, Option.some.injEq]
      rw [s.entry_writeAt htarget]
      by_cases hown : target = place ∧ id = node
      · obtain ⟨rfl, rfl⟩ := hown
        simp
      · simp [hown]

/-- **An entry hangs on the writes of its own node, through the handles of its
own store.** -/
theorem entry_run (s : Shelf) (acts : List Act) :
    (s.run acts).entry place id =
      (s.writes place id acts).foldl Write.onEntry (s.entry place id) := by
  induction acts generalizing s with
  | nil => rfl
  | cons a rest ih =>
    show ((s.perform a).run rest).entry place id = _
    rw [ih, entry_perform, writes, List.foldl_append]

/-- **A store knows of a node what was written of it last.**  Stores are made
and cloned, and nodes are written of through any handles.  Then in the store
that a handle leads to, for every node, by the writes of the node through the
handles of this store since the last one that cleared it:

* something is known exactly if there is such a write;
* the output is that of the latest seed or success, if there is one;
* the error is that of the latest write, if it failed;
* what is known is live exactly if the latest write is a seed or a success;
* it is stale exactly if the latest write failed and one before it is a seed
  or a success;
* the duration is that of the latest success, unless a seed came after it;
* the node is among the outputs, which are listed in order, exactly if one of
  the writes is a seed or a success, and with its output;
* a write of another node leaves what is known of this one. -/
theorem knows_latest_writes (acts : List Act) (handle place : Nat)
    (hhandle : (run {} acts).handles[handle]? = some place) :
    ∃ s, (run {} acts).stores[place]? = some s ∧ Entries.Increasing s.outputs.entries ∧ ∀ id,
      let ws := Write.sinceClear (writes {} place id acts)
      (s.get? id = none ↔ ws = []) ∧
      s.output? id = (ws.filterMap Write.output?).getLast? ∧
      s.error? id = ws.getLast?.bind Write.failure? ∧
      ((s.get? id).any NodeState.isLive = true ↔
        ∃ earlier w, ws = earlier ++ [w] ∧ w.output?.isSome = true) ∧
      (s.isStale id = true ↔
        ∃ earlier w, ws = earlier ++ [w] ∧ w.failure?.isSome = true ∧
          ∃ x ∈ earlier, x.output?.isSome = true) ∧
      (∀ d, (s.get? id).bind NodeState.duration = some d ↔
        ∃ earlier v later, ws = earlier ++ .succeed v d :: later ∧
          ∀ w ∈ later, w.output? = none) ∧
      (id ∈ s.outputs.keys ↔ ∃ w ∈ ws, w.output?.isSome = true) ∧
      s.outputs.get? id = s.output? id ∧
      ∀ through other w, other ≠ id →
        ((run {} acts).perform (.write through other w)).entry place id = s.get? id := by
  have hplace := (run {} acts).lead place (List.mem_of_getElem? hhandle)
  refine ⟨(run {} acts).stores[place], List.getElem?_eq_getElem hplace, Table.increasing _, ?_⟩
  intro id ws
  have hentry : (run {} acts).entry place id = (run {} acts).stores[place].get? id := by
    rw [entry, List.getElem?_eq_getElem hplace, Option.bind_some]
  have htell : Write.Tell ws ((run {} acts).stores[place].get? id) := by
    have hrun : (run {} acts).entry place id = ws.foldl Write.onEntry none :=
      (entry_run {} acts).trans (Write.foldl_sinceClear _).symm
    rw [← hentry, hrun]
    exact .foldl_onEntry ws fun w => Write.not_isClear_of_mem_sinceClear
  refine ⟨htell.absent, htell.output, htell.error, htell.isLive_iff, ?_, htell.duration, ?_,
    Store.get?_outputs _ id, ?_⟩
  · rw [← htell.isStale_iff]
    unfold Store.isStale
    cases (run {} acts).stores[place].get? id <;> rfl
  · rw [Table.mem_keys_iff, Store.get?_outputs]
    exact htell.isSome_output_iff
  · intro through other w hother
    rw [entry_perform, ← hentry]
    simp [written?, hother.symm]

/-- A test fails through a clone, in between another node is seeded, and a
node of the same id is cleared in another store: the output and the duration
of the success before stay. -/
theorem failure_through_clone_keeps_output :
    let acts : List Act :=
      [.make, .clone 0, .write 0 "n" (.seed .null), .write 0 "n" (.succeed (.int 1) 5),
        .write 1 "n" (.fail "boom" 7), .write 0 "m" (.seed .null), .make, .write 2 "n" .clear]
    (run {} acts).handles[0]? = some 0 ∧
      ∃ s, (run {} acts).stores[0]? = some s ∧ s.output? "n" = some (.int 1) ∧
        s.error? "n" = some ⟨"boom", 7⟩ ∧ s.isStale "n" = true ∧
        (s.get? "n").bind NodeState.duration = some 5 := by
  intro acts
  have hhandle : (run {} acts).handles[0]? = some 0 := rfl
  obtain ⟨s, hs, -, hknown⟩ := knows_latest_writes acts 0 0 hhandle
  obtain ⟨-, houtput, herror, -, hstale, hduration, -⟩ := hknown "n"
  have hws : Write.sinceClear (writes {} 0 "n" acts) =
      [.seed .null, .succeed (.int 1) 5, .fail "boom" 7] := rfl
  rw [hws] at houtput herror hstale hduration
  refine ⟨hhandle, s, hs, houtput, herror, hstale.2 ?_, (hduration 5).2 ?_⟩
  · exact ⟨[.seed .null, .succeed (.int 1) 5], .fail "boom" 7, rfl, rfl, .seed .null,
      List.mem_cons_self, rfl⟩
  · exact ⟨[.seed .null], .int 1, [.fail "boom" 7], rfl, by simp [Write.output?]⟩

end Shelf

end FlowBench

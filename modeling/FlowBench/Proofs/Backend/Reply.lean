/-
  FlowBench.Proofs.Backend.Reply
  ──────────────────────────────
  **What a reply leaves behind.**

  A reply is an output, a message of failure or nothing usable.  Which of the
  three it is depends on the class of its status and on two fields of its
  body, where a body that is blank or no JSON has no fields (`field?_value_iff`).
  The session keeps what it is told: an output replaces the one of before, a
  failure of either kind stands next to it.
-/
import FlowBench.Executor
import FlowBench.Proofs.Node.Texts
import FlowBench.Proofs.Graph.Index
import FlowBench.Proofs.Plan.Files
import FlowBench.Proofs.Session.Request
import FlowBench.Proofs.Text.Blank

namespace FlowBench

/-! ## §1. Blank bodies. -/

namespace Json

theorem numberSpan_of_blank {c : Char} {rest : List Char} (h : isBlank c = true) :
    numberSpan (c :: rest) = none := by
  have hdigit : c.isDigit = false := by
    by_contra hd
    rw [Bool.not_eq_false] at hd
    rw [not_isBlank_of_isDigit hd] at h
    cases h
  have hminus : c ≠ '-' := by
    rintro rfl
    exact absurd h (by decide)
  have hspan : digitSpan (c :: rest) = ([], c :: rest) := by
    unfold digitSpan
    rw [List.takeWhile_cons_of_neg (by simp [hdigit]), List.dropWhile_cons_of_neg (by simp [hdigit])]
  simp [numberSpan, hspan, hminus]

/-- No token starts with a blank. -/
theorem tokens_of_blank : ∀ (steps : Nat) (cs : List Char), (∀ c ∈ cs, isBlank c = true) →
    tokens steps cs = none ∨ tokens steps cs = some []
  | steps, [], _ => by
    right
    cases steps <;> rfl
  | 0, c :: rest, _ => .inl rfl
  | steps + 1, c :: rest, h => by
    have hblank : isBlank c = true := h c List.mem_cons_self
    unfold tokens
    split
    · exact tokens_of_blank steps rest fun x hx => h x (List.mem_cons_of_mem c hx)
    · left
      -- A blank is no mark and starts no quoted text and no word, so only a
      -- numeral could start with it.
      dsimp only
      split
      case h_11 =>
        rw [numberSpan_of_blank hblank]
        rfl
      all_goals exact absurd hblank (by decide)

/-- A blank text writes no value. -/
theorem read?_of_blank {text : String} (h : ∀ c ∈ text.toList, isBlank c = true) :
    read? text = none := by
  unfold read?
  dsimp only
  -- without a token the reader goes on expecting a value
  obtain hnone | hnil := tokens_of_blank text.toList.length text.toList h
  · rw [hnone]
    rfl
  · rw [hnil]
    rfl

end Json

/-! ## §2. What a reply says. -/

namespace Http.Reply

variable {r : Http.Reply} {node : String} {v : Value} {text : String}

/-- The body of a reply is an object that holds a value under a key. -/
def Holds (r : Http.Reply) (key : String) (v : Value) : Prop :=
  ∃ fields, Json.read? r.body = some (.obj fields) ∧ Entries.get? key fields = some v

/-- The status of a reply tells of success. -/
def Succeeds (r : Http.Reply) : Prop := 200 ≤ r.status ∧ r.status < 300

theorem succeeded_iff : r.succeeded = true ↔ r.Succeeds := by
  simp [succeeded, Succeeds]

/-- Only an object gives an object. -/
theorem value_eq_obj_iff {fields : List (String × Value)} :
    r.value = .obj fields ↔ Json.read? r.body = some (.obj fields) := by
  unfold value
  by_cases hblank : r.body.toList.all isBlank = true
  · rw [if_pos hblank, Json.read?_of_blank (List.all_eq_true.1 hblank)]
    simp
  · rw [if_neg hblank]
    cases Json.read? r.body with
    | none => simp
    | some v => simp

/-- **The fields of a reply are those that its body holds.** -/
theorem field?_value_iff {key : String} : r.value.field? key = some v ↔ r.Holds key v := by
  unfold Holds
  constructor
  · intro h
    unfold Value.field? at h
    split at h
    · next fields hobj => exact ⟨fields, value_eq_obj_iff.1 hobj, h⟩
    · cases h
  · intro h
    obtain ⟨fields, hbody, hget⟩ := h
    rw [value_eq_obj_iff.2 hbody]
    exact hget

theorem errorText?_value_iff : errorText? r.value = some text ↔ r.Holds "error" (.str text) := by
  unfold errorText?
  rw [Option.bind_eq_some_iff, ← field?_value_iff]
  constructor
  · intro h
    obtain ⟨v, hv, htext⟩ := h
    unfold Value.str? at htext
    split at htext
    · cases htext
      exact hv
    · cases htext
  · intro h
    exact ⟨_, h, rfl⟩

theorem Holds.unique {key : String} {u : Value} (h : r.Holds key v) (h' : r.Holds key u) :
    v = u := by
  rw [← field?_value_iff] at h h'
  exact Option.some.inj (h.symm.trans h')

/-- What a reply says of a test.  A text as the error is a message of failure
even if there is an output; a status that tells of no success makes both
unusable. -/
inductive Means (r : Http.Reply) (node : String) : Except Error Value → Prop
  | output {v : Value} : r.Succeeds → r.Holds "output" v →
      (∀ text, ¬ r.Holds "error" (.str text)) → Means r node (.ok v)
  | failure {text : String} : r.Succeeds → r.Holds "error" (.str text) →
      Means r node (.error (.execution node text))
  | unusable {text : String} :
      ¬ (r.Succeeds ∧ ((∃ v, r.Holds "output" v) ∨ ∃ text, r.Holds "error" (.str text))) →
      Means r node (.error (.backend r.status text))

/-- **A reply is taken for what it says.** -/
theorem means_output (r : Http.Reply) (node : String) : r.Means node (r.output node) := by
  unfold output
  -- the cases are those of the reader: first the message, then the status
  cases herror : errorText? r.value with
  | some text =>
    have hholds := errorText?_value_iff.1 herror
    show Means _ _ (if _ then _ else _)
    split
    · next hstatus => exact .failure (succeeded_iff.1 hstatus) hholds
    · next hstatus => exact .unusable fun h => hstatus (succeeded_iff.2 h.1)
  | none =>
    have hquiet : ∀ text, ¬ r.Holds "error" (.str text) := by
      intro text hholds
      rw [errorText?_value_iff.2 hholds] at herror
      cases herror
    show Means _ _ (if _ then _ else _)
    split
    · next hstatus =>
      cases hfield : r.value.field? "output" with
      | some v => exact .output (succeeded_iff.1 hstatus) (field?_value_iff.1 hfield) hquiet
      | none =>
        refine .unusable ?_
        rintro ⟨-, ⟨v, hholds⟩ | ⟨text, hholds⟩⟩
        · rw [field?_value_iff.2 hholds] at hfield
          cases hfield
        · exact hquiet text hholds
    · next hstatus => exact .unusable fun h => hstatus (succeeded_iff.2 h.1)

namespace Means

variable {result : Except Error Value} (h : r.Means node result)

include h

theorem eq_ok_iff : result = .ok v ↔
    r.Succeeds ∧ r.Holds "output" v ∧ ∀ text, ¬ r.Holds "error" (.str text) := by
  constructor
  · rintro rfl
    cases h with
    | output hstatus hholds hquiet => exact ⟨hstatus, hholds, hquiet⟩
  · rintro ⟨hstatus, hholds, hquiet⟩
    cases h with
    | output _ hholds' _ => rw [hholds'.unique hholds]
    | failure _ herror => exact absurd herror (hquiet _)
    | unusable hnot => exact absurd ⟨hstatus, .inl ⟨v, hholds⟩⟩ hnot

theorem eq_execution_iff : result = .error (.execution node text) ↔
    r.Succeeds ∧ r.Holds "error" (.str text) := by
  constructor
  · rintro rfl
    cases h with
    | failure hstatus hholds => exact ⟨hstatus, hholds⟩
  · rintro ⟨hstatus, hholds⟩
    cases h with
    | output _ _ hquiet => exact absurd hholds (hquiet text)
    | failure _ hholds' => rw [Value.str.inj (hholds'.unique hholds)]
    | unusable hnot => exact absurd ⟨hstatus, .inr ⟨text, hholds⟩⟩ hnot

theorem exists_backend_iff : (∃ text, result = .error (.backend r.status text)) ↔
    ¬ (r.Succeeds ∧ ((∃ v, r.Holds "output" v) ∨ ∃ text, r.Holds "error" (.str text))) := by
  constructor
  · rintro ⟨text, rfl⟩
    cases h with
    | unusable hnot => exact hnot
  · intro hnot
    cases h with
    | output hstatus hholds _ => exact absurd ⟨hstatus, .inl ⟨_, hholds⟩⟩ hnot
    | failure hstatus hholds => exact absurd ⟨hstatus, .inr ⟨_, hholds⟩⟩ hnot
    | unusable => exact ⟨_, rfl⟩

end Means

end Http.Reply

/-! ## §3. The exchange. -/

/-- A backend that is reached is asked once, and its reply says what comes of
the test. -/
theorem Backend.perform_outcome (b : Backend) {f : Flight} (hcred : f.credentialId = none)
    (hsend : (b.testRequest (f.request none)).isSendable = true) {world : Rehearsal}
    {reply : Http.Reply} (hreply : world.nextReply = some reply) :
    world.perform ((Executor.backend b).outcome f).run =
      ({ world with
          replies := world.replies.drop 1
          requests := world.requests ++ [b.testRequest (f.request none)] },
        reply.output f.node.id) := by
  have hplan : (Executor.backend b).outcome f = b.test (f.request none) := by
    unfold Executor.outcome
    rw [hcred]
    rfl
  rw [hplan]
  unfold Backend.test Plan.exchange
  rw [if_pos hsend]
  show Rehearsal.run (.send (b.testRequest (f.request none)) _) world = _
  rw [Rehearsal.run, hreply]
  rfl

/-! ## §4. The session. -/

namespace Session

variable {s s' : Session} {f : Flight}

/-- The graph is always the index of some workflow. -/
theorem exists_indexed_run (w : Workflow) (acts : List Act) :
    ∃ w', ((ofWorkflow w).run acts).graph = .ofWorkflow w' := by
  have hkeep : ∀ {s a s' answer}, Step s a s' answer →
      (∃ w', s.graph = .ofWorkflow w') → ∃ w', s'.graph = .ofWorkflow w' := by
    intro s a s' answer hs h
    cases hs with
    | added | renamed | removed => exact ⟨_, rfl⟩
    | connected => split <;> exact ⟨_, rfl⟩
    | _ => simpa using h
  exact run_keeps hkeep acts ⟨w, rfl⟩

/-- A test that starts is one of the node with the id, and the credential it
asks for is the one that the node names. -/
theorem flight_of_test {w : Workflow} {past : List Act} {clock node : String} {n : Node}
    (hn : ((ofWorkflow w).run past).node node = .ok n)
    (hstart : ((ofWorkflow w).run past).perform (.test clock node) = (s', .tested (.ok f))) :
    f.node.id = node ∧ f.credentialId = n.config.credentialId := by
  obtain ⟨m, hm, rfl, -⟩ := (step_of_perform hstart).flight_of_started
  obtain ⟨w', hindexed⟩ := exists_indexed_run w past
  -- resolving the texts of a configuration leaves its credential
  have hsame : m = n := by
    rw [Session.node, hm] at hn
    exact Except.ok.inj hn
  rw [hindexed] at hm
  refine ⟨FlowGraph.id_of_node?_ofWorkflow hm, ?_⟩
  rw [← hsame]
  exact NodeConfig.credentialId_mapTexts (fun _ => Template.resolved clock _) m.config

/-- A test that nobody ended is under way and its signal is silent. -/
theorem silent_of_not_ended {w : Workflow} {past between : List Act} {clock node : String}
    (hstart : ((ofWorkflow w).run past).perform (.test clock node) = (s', .tested (.ok f)))
    (hopen : ∀ m ∈ s'.moments between, ¬ m.Returns f.permit.number)
    (hnot : ¬ ∃ m ∈ s'.moments between, m.Ends node) :
    f.permit.node = node ∧ (s'.run between).Booked ∧ f ∈ (s'.run between).flights ∧
      f.permit.number ∉ (s'.run between).gate.fired := by
  have hbooked := booked_run w past
  have hs := step_of_perform hstart
  obtain ⟨hperm, -, hmem, hfired₁⟩ := hs.of_started
  have hnode : f.permit.node = node := by rw [hperm]
  obtain ⟨hb, hf, hfired⟩ := run_under_way between (hs.booked hbooked) hmem hopen
  refine ⟨hnode, hb, hf, fun h => ?_⟩
  rw [hfired, hnode, hfired₁, hperm] at h
  -- the number is new, so nobody fired its signal before
  exact h.elim (fun hold => absurd (hbooked.fired _ hold) (Nat.lt_irrefl _)) hnot

/-- A result that reaches a test under way finishes it at once. -/
theorem perform_result (hb : s.Booked) (hf : f ∈ s.flights)
    (hsilent : f.permit.number ∉ s.gate.fired) (r : Except Error Value) (d : Nat) :
    s.perform (.resume f.permit.number (.result r) d) =
      ((s.finish f r d).1, .resumed (.returns (s.finish f r d).2)) := by
  have hcancelled := (s.gate.isCancelled_eq_false_iff f.permit).2 hsilent
  simp only [perform, hb.flight?_eq hf, resume, hcancelled]
  rfl

/-- A test from its start to its end finishes with what its executor gives. -/
theorem perform_whole_test {clock node : String} {x : Executor}
    (hstart : s.perform (.test clock node) = (s', .tested (.ok f))) (world : Rehearsal) :
    (world.perform (s.test clock x node)).2 =
      s'.finish f (world.perform (x.outcome f).run).2 0 := by
  have hlaunch : s.start clock node = (s', .ok f) := by
    simp only [perform, Prod.mk.injEq, Answer.tested.injEq] at hstart
    exact Prod.ext hstart.1 hstart.2
  unfold Session.test Rehearsal.perform
  rw [hlaunch]
  show (Rehearsal.run ((x.outcome f).run.bind _) world).2 = _
  rw [Rehearsal.run_bind]
  rfl

/-- **A reply settles a test by its status and two fields.**  A node that
names no credential is tested by a backend after any `past`; while its test is
under way the session goes on with `between`, but the node is neither
cancelled nor removed.  Whatever reply comes, and whatever its body,

* the test gives an output exactly when the status tells of success and the
  body is an object with that output and no text as its error; it is then the
  output of the node, which has no error;
* it gives a message of failure exactly when the status tells of success and
  the body has that text as its error;
* in every other case it gives a failure of the backend with that status;
* a failure leaves the output as it was and its text as the error.

A test that is waited for from its start to its end is the case that nothing
comes in between. -/
theorem reply_settles_test (w : Workflow) (past between : List Act) (clock node : String)
    (s₁ : Session) (f : Flight) (n : Node)
    (hn : ((ofWorkflow w).run past).node node = .ok n) (hcred : n.config.credentialId = none)
    (hstart : ((ofWorkflow w).run past).perform (.test clock node) = (s₁, .tested (.ok f)))
    (hopen : ∀ m ∈ s₁.moments between, ¬ m.Returns f.permit.number)
    (hnot : ¬ ∃ m ∈ s₁.moments between, m.Ends node)
    (b : Backend) (hsend : (b.testRequest (f.request none)).isSendable = true)
    (world : Rehearsal) (reply : Http.Reply) (hreply : world.nextReply = some reply)
    (duration : Nat) :
    let result := (world.perform ((Executor.backend b).outcome f).run).2
    let wake := (s₁.run between).moment (.resume f.permit.number (.result result) duration)
    let whole := (world.perform (((ofWorkflow w).run past).test clock (.backend b) node)).2
    (∀ v, wake.answer = .resumed (.returns (.ok v)) ↔
      reply.Succeeds ∧ reply.Holds "output" v ∧
        ∀ text, ¬ reply.Holds "error" (.str text)) ∧
    (∀ v, wake.answer = .resumed (.returns (.ok v)) →
      wake.after.store.output? node = some v ∧ wake.after.store.error? node = none) ∧
    (∀ text, wake.answer = .resumed (.returns (.error (.execution node text))) ↔
      reply.Succeeds ∧ reply.Holds "error" (.str text)) ∧
    ((∃ text, wake.answer = .resumed (.returns (.error (.backend reply.status text)))) ↔
      ¬ (reply.Succeeds ∧
        ((∃ v, reply.Holds "output" v) ∨ ∃ text, reply.Holds "error" (.str text)))) ∧
    (∀ e, wake.answer = .resumed (.returns (.error e)) →
      wake.after.store.output? node = wake.before.store.output? node ∧
        wake.after.store.error? node = some ⟨e.userMessage, duration⟩) ∧
    s₁.perform (.resume f.permit.number (.result result) 0) =
      (whole.1, .resumed (.returns whole.2)) := by
  intro result wake whole
  obtain ⟨hid, hasks⟩ := flight_of_test hn hstart
  have hexchange := b.perform_outcome (hasks.trans hcred) hsend hreply
  have hresult : result = reply.output node := by
    show (world.perform _).2 = _
    rw [hexchange, hid]
  have hmeans : reply.Means node result := hresult ▸ reply.means_output node
  obtain ⟨hnode, hb, hf, hsilent⟩ := silent_of_not_ended hstart hopen hnot
  -- nobody ended the test, so what it gives is the result
  have hwake : wake.answer = .resumed (.returns result) ∧
      Recorded node result duration wake.before.store wake.after.store := by
    have hstep : Step (s₁.run between) _ wake.after wake.answer := step_perform _ _
    rcases hstep.of_silent hb hf hsilent with ⟨r, hr, hanswer, hrecorded⟩ | ⟨hnone, -⟩
    · cases hr
      rw [hnode] at hrecorded
      exact ⟨hanswer, hrecorded⟩
    · cases hnone
  obtain ⟨hanswer, hrecorded, -⟩ := hwake
  have hgives : ∀ r, wake.answer = .resumed (.returns r) ↔ result = r := by
    intro r
    rw [hanswer, Answer.resumed.injEq, Progress.returns.injEq]
  refine ⟨?_, ?_, ?_, ?_, ?_, ?_⟩
  · intro v
    rw [hgives, hmeans.eq_ok_iff]
  · intro v hv
    rw [(hgives _).1 hv] at hrecorded
    exact hrecorded
  · intro text
    rw [hgives, hmeans.eq_execution_iff]
  · simp only [hgives]
    exact hmeans.exists_backend_iff
  · intro e he
    rw [(hgives _).1 he] at hrecorded
    exact hrecorded
  · have hopen₁ : ∀ m ∈ s₁.moments [], ¬ m.Returns f.permit.number := fun m hm => by cases hm
    have hnot₁ : ¬ ∃ m ∈ s₁.moments [], m.Ends node := fun ⟨m, hm, _⟩ => by cases hm
    obtain ⟨-, hb₁, hf₁, hsilent₁⟩ := silent_of_not_ended hstart hopen₁ hnot₁
    have hwhole : whole = s₁.finish f result 0 := perform_whole_test hstart world
    rw [hwhole]
    exact perform_result hb₁ hf₁ hsilent₁ result 0

/-- A message of failure outweighs the output next to it, which therefore does
not replace the one of before. -/
theorem failure_keeps_output_of_before :
    let w : Workflow :=
      { nodes := [⟨"n", "N", .manual⟩], outputs := Table.empty.insert "n" (.str "before") }
    let b : Backend :=
      { base := ⟨"http", some { host := some (.domain "localhost") }, .segments ["api"], none,
          none⟩ }
    let reply : Http.Reply := ⟨200, "\x7b\"output\":2,\"error\":\"boom\"\x7d"⟩
    let world : Rehearsal := { replies := [some reply] }
    let start := ((ofWorkflow w).run []).perform (.test "" "n")
    ∃ f, start = (start.1, .tested (.ok f)) ∧
      let result := (world.perform ((Executor.backend b).outcome f).run).2
      let wake := (start.1.run []).moment (.resume f.permit.number (.result result) 7)
      reply.Holds "output" (.int 2) ∧
        wake.answer = .resumed (.returns (.error (.execution "n" "boom"))) ∧
        wake.after.store.output? "n" = some (.str "before") ∧
        wake.after.store.error? "n" = some ⟨"boom", 7⟩ := by
  intro w b reply world start
  let f : Flight := (ofWorkflow w).prepare "" ⟨"n", "N", .manual⟩ ⟨"n", 0⟩
  have hstart : start = (start.1, .tested (.ok f)) :=
    Prod.ext rfl (started_of_free (by decide +kernel) (by decide +kernel))
  have hopen : ∀ m ∈ start.1.moments [], ¬ m.Returns f.permit.number := fun m hm => by cases hm
  have hnot : ¬ ∃ m ∈ start.1.moments [], m.Ends "n" := fun ⟨m, hm, _⟩ => by cases hm
  obtain ⟨-, -, hfailure, -, hkept, -⟩ :=
    reply_settles_test w [] [] "" "n" start.1 f ⟨"n", "N", .manual⟩ rfl rfl hstart hopen hnot b rfl
      world reply rfl 7
  have hbody : Json.read? "\x7b\"output\":2,\"error\":\"boom\"\x7d" =
      some (.obj [("error", .str "boom"), ("output", .int 2)]) := by
    rfl
  have hsuccess : reply.Succeeds := ⟨by decide, by decide⟩
  have hanswer := (hfailure "boom").2 ⟨hsuccess, _, hbody, rfl⟩
  obtain ⟨hout, herror⟩ := hkept _ hanswer
  exact ⟨f, hstart, ⟨_, hbody, rfl⟩, hanswer, hout.trans rfl, herror⟩

end Session

end FlowBench

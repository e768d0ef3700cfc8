/-
  FlowBench.Proofs.Node.Resolved
  ──────────────────────────────
  **Resolving touches the texts and nothing else.**

  `SameFrame` says, kind by kind, which parts of a configuration are no texts
  that may hold spans, and that two configurations have them in common.  A
  frame and the texts in it make up the configuration (`SameFrame.eq_of_texts`),
  so a configuration that is resolved is told by its frame, which it keeps,
  and its texts, which are resolved one by one.
-/
import Mathlib.Data.List.Infix
import FlowBench.Proofs.Node.Texts
import FlowBench.Proofs.Template.Cut

namespace FlowBench.NodeConfig

variable {f : String → String → String} {c d e : NodeConfig} {label : String} {t u : Table String}

/-! ## §1. What is not text. -/

/-- Two configurations differ in nothing but the texts that may hold spans. -/
inductive SameFrame : NodeConfig → NodeConfig → Prop where
  | manual : SameFrame .manual .manual
  | webhook (c : Webhook) : SameFrame (.webhook c) (.webhook c)
  | schedule (c : Schedule) : SameFrame (.schedule c) (.schedule c)
  | httpRequest {c d : HttpRequest} (method : d.method = c.method)
      (headers : d.headers.keys = c.headers.keys) (query : d.query.keys = c.query.keys)
      (body : d.body.isSome = c.body.isSome) (credential : d.credentialId = c.credentialId) :
      SameFrame (.httpRequest c) (.httpRequest d)
  | llm {c d : Llm} (provider : d.provider = c.provider) (model : d.model = c.model)
      (system : d.systemPrompt.isSome = c.systemPrompt.isSome)
      (temperature : d.temperature = c.temperature)
      (credential : d.credentialId = c.credentialId) : SameFrame (.llm c) (.llm d)
  | conditional {c d : Conditional} (operator : d.operator = c.operator) :
      SameFrame (.conditional c) (.conditional d)
  | switch {c d : Switch} (rules : (d.rules.map fun r => (r.operator, r.label)) =
        c.rules.map fun r => (r.operator, r.label))
      (fallback : d.fallback = c.fallback) : SameFrame (.switch c) (.switch d)
  | code (c : Code) : SameFrame (.code c) (.code c)
  | set {c d : SetFields} (keys : d.fields.keys = c.fields.keys) : SameFrame (.set c) (.set d)

theorem keys_mapTable (label : String) (f : String → String → String) (t : Table String) :
    (mapTable label f t).keys = t.keys := by
  unfold mapTable Table.mapWithKey Table.keys
  rw [List.map_map]
  rfl

/-- **A change of texts keeps the frame.** -/
theorem sameFrame_mapTexts (f : String → String → String) (c : NodeConfig) :
    SameFrame c (c.mapTexts f) := by
  cases c with
  | manual => exact .manual
  | webhook c => exact .webhook c
  | schedule c => exact .schedule c
  | httpRequest c =>
    exact .httpRequest rfl (keys_mapTable _ f _) (keys_mapTable _ f _) Option.isSome_map rfl
  | llm c => exact .llm rfl rfl Option.isSome_map rfl rfl
  | conditional c => exact .conditional rfl
  | switch c =>
    refine .switch (List.ext_getElem? fun i => ?_) rfl
    rw [List.getElem?_map, List.getElem?_mapIdx, List.getElem?_map, Option.map_map]
    rfl
  | code c => exact .code c
  | set c => exact .set (keys_mapTable _ f _)

namespace SameFrame

/-- Two configurations with the frame of a third have one frame. -/
theorem common (hd : SameFrame c d) (he : SameFrame c e) : SameFrame e d := by
  cases hd with
  | manual | webhook | schedule | code =>
    cases he
    constructor
  | httpRequest method headers query body credential =>
    cases he with
    | httpRequest method' headers' query' body' credential' =>
      exact .httpRequest (method.trans method'.symm) (headers.trans headers'.symm)
        (query.trans query'.symm) (body.trans body'.symm) (credential.trans credential'.symm)
  | llm provider model system temperature credential =>
    cases he with
    | llm provider' model' system' temperature' credential' =>
      exact .llm (provider.trans provider'.symm) (model.trans model'.symm)
        (system.trans system'.symm) (temperature.trans temperature'.symm)
        (credential.trans credential'.symm)
  | conditional operator =>
    cases he with
    | conditional operator' => exact .conditional (operator.trans operator'.symm)
  | switch rules fallback =>
    cases he with
    | switch rules' fallback' =>
      exact .switch (rules.trans rules'.symm) (fallback.trans fallback'.symm)
  | set keys =>
    cases he with
    | set keys' => exact .set (keys.trans keys'.symm)

theorem kind_eq (h : SameFrame c d) : d.kind = c.kind := by cases h <;> rfl

theorem credentialId_eq (h : SameFrame c d) : d.credentialId = c.credentialId := by
  cases h with
  | httpRequest _ _ _ _ credential => exact credential
  | llm _ _ _ _ credential => exact credential
  | _ => rfl

/-- The ways out of a node are part of its frame. -/
theorem handles_eq (h : SameFrame c d) : d.handles = c.handles := by
  cases h with
  | switch rules fallback =>
    have hlength := congrArg List.length rules
    rw [List.length_map, List.length_map] at hlength
    unfold handles
    dsimp only
    rw [hlength, fallback]
  | _ => rfl

end SameFrame

/-! ## §2. A frame and its texts. -/

theorem length_tableTexts (label : String) (t : Table String) :
    (tableTexts label t).length = t.keys.length := by
  unfold tableTexts Table.keys
  rw [List.length_map, List.length_map]

/-- A table is told by its texts, whose names tell the keys. -/
theorem tableTexts_inj (h : tableTexts label t = tableTexts label u) : t = u := by
  have hinj : Function.Injective fun e : String × String => (label ++ "." ++ e.1, e.2) := by
    rintro ⟨k, a⟩ ⟨k', b⟩ heq
    rw [Prod.mk.injEq, String.append_right_inj] at heq
    exact Prod.ext heq.1 heq.2
  have hentries : t.entries = u.entries := List.map_injective_iff.2 hinj h
  obtain ⟨es, hes⟩ := t
  obtain ⟨fs, hfs⟩ := u
  obtain rfl : es = fs := hentries
  rfl

theorem optionTexts_inj {name : String} {a b : Option String}
    (h : (a.map fun text => (name, text)).toList = (b.map fun text => (name, text)).toList) :
    a = b := by
  cases a <;> cases b <;> simp_all

theorem rule_ext {r s : SwitchRule} (hoperator : r.operator = s.operator)
    (hvalue : r.value = s.value) (hlabel : r.label = s.label) : r = s := by
  obtain ⟨operator, value, label⟩ := r
  cases hoperator
  cases hvalue
  cases hlabel
  rfl

/-- **A configuration is made up of its frame and its texts.** -/
theorem SameFrame.eq_of_texts (h : SameFrame c d) (ht : d.texts = c.texts) : d = c := by
  cases h with
  | manual | webhook | schedule | code => rfl
  | @httpRequest c d method headers query body credential =>
    have hheaders : (tableTexts "headers" d.headers).length =
        (tableTexts "headers" c.headers).length := by
      rw [length_tableTexts, length_tableTexts, headers]
    have hquery : (tableTexts "query" d.query).length = (tableTexts "query" c.query).length := by
      rw [length_tableTexts, length_tableTexts, query]
    -- the groups of texts are as long as each other, so they are the same one by one
    obtain ⟨hfront, hbodies⟩ := List.append_inj ht (by simp [hheaders, hquery])
    obtain ⟨hfront, hqueries⟩ := List.append_inj hfront (by simp [hheaders])
    obtain ⟨hurl, hheads⟩ := List.cons.inj hfront
    cases c
    cases d
    simp only [httpRequest.injEq, HttpRequest.mk.injEq]
    exact ⟨method, (Prod.mk.inj hurl).2, tableTexts_inj hheads, tableTexts_inj hqueries,
      optionTexts_inj hbodies, credential⟩
  | @llm c d provider model system temperature credential =>
    obtain ⟨hsystem, hprompt⟩ := List.append_inj' ht rfl
    cases c
    cases d
    simp only [llm.injEq, Llm.mk.injEq]
    exact ⟨provider, model, optionTexts_inj hsystem, by simpa using hprompt, temperature,
      credential⟩
  | @conditional c d operator =>
    cases c
    cases d
    simp only [texts, List.cons.injEq, Prod.mk.injEq] at ht
    simp only [conditional.injEq, Conditional.mk.injEq]
    exact ⟨ht.1.2, operator, ht.2.1.2⟩
  | @switch c d rules fallback =>
    obtain ⟨hvalue, hrules⟩ := List.cons.inj ht
    have hlength := congrArg List.length rules
    rw [List.length_map, List.length_map] at hlength
    have hsame : d.rules = c.rules := by
      refine List.ext_getElem hlength fun i hi hi' => ?_
      have hparts := congrArg (fun l => l[i]?) rules
      have htexts := congrArg (fun l => l[i]?) hrules
      simp only [List.getElem?_map, List.getElem?_mapIdx, List.getElem?_eq_getElem hi,
        List.getElem?_eq_getElem hi', Option.map_some, Option.some.injEq,
        Prod.mk.injEq] at hparts htexts
      exact rule_ext hparts.1 htexts.2 hparts.2
    cases c
    cases d
    simp only [switch.injEq, Switch.mk.injEq]
    exact ⟨(Prod.mk.inj hvalue).2, hsame, fallback⟩
  | @set c d keys =>
    cases c
    cases d
    simp only [set.injEq, SetFields.mk.injEq]
    exact tableTexts_inj ht

/-! ## §3. One text. -/

/-- Sets the text with a name. -/
def setText (c : NodeConfig) (name text : String) : NodeConfig :=
  c.mapTexts fun other old => if other = name then text else old

/-- **Setting a text sets it where it is read, and no other.** -/
theorem texts_setText {i : Nat} {name old : String} (h : c.texts[i]? = some (name, old))
    (text : String) : (c.setText name text).texts = c.texts.set i (name, text) := by
  obtain ⟨hi, hname⟩ := List.getElem?_eq_some_iff.1 h
  have hnodup : (c.texts.map Prod.fst).Nodup := c.nodup_textNames
  rw [setText, texts_mapTexts]
  refine List.ext_getElem (by simp) fun j hj hj' => ?_
  rw [List.getElem_map, List.getElem_set]
  rw [List.length_map] at hj
  by_cases hij : i = j
  · subst hij
    rw [if_pos rfl, hname, if_pos rfl]
  · -- another place has another name
    have hne : (c.texts[j]).1 ≠ name := by
      intro heq
      refine hij ((List.getElem?_inj (by simpa using hi) hnodup).1 ?_)
      rw [List.getElem?_map, List.getElem?_map, h, List.getElem?_eq_getElem hj, Option.map_some,
        Option.map_some, heq]
    rw [if_neg hij, if_neg hne]

/-- Setting a text to what it is changes nothing. -/
theorem setText_self {name text : String} (h : (name, text) ∈ c.texts) :
    c.setText name text = c := by
  refine (mapTexts_congr fun x hx => ?_).trans c.mapTexts_self
  by_cases hname : x.1 = name
  · -- a name belongs to one text
    rw [if_pos hname, List.inj_on_of_nodup_map c.nodup_textNames hx h hname]
  · rw [if_neg hname]

/-! ## §4. The theorem. -/

/-- **To resolve a configuration is to resolve its texts, each in its place.**

The frame stays, and with it the kind, the credential, the ways out and the
names of the texts; each text becomes its own resolution; and there is no
other configuration of which this holds.  The report lists the texts that have
an opening, in order, each as it was, as it became and with the spans left in
it.  Names address texts alike to read and to write: to set the text that is
read at a place changes it at that place alone, and to set it to what is read
there changes nothing. -/
theorem resolves_texts_in_place (clock : String) (u : Context) (c : NodeConfig) :
    let r := c.resolve clock u
    let resolved := c.texts.map fun t => (t.1, (Template.resolve clock u t.2).text)
    (r.config.kind = c.kind ∧ r.config.credentialId = c.credentialId ∧
      r.config.handles = c.handles ∧ r.config.textNames = c.textNames) ∧
    c.SameFrame r.config ∧ r.config.texts = resolved ∧
    (∀ d, c.SameFrame d → d.texts = resolved → d = r.config) ∧
    (r.fields.map fun x => (x.field, x.template)) =
      c.texts.filter (fun t => ['{', '{'] <:+: t.2.toList) ∧
    (∀ x ∈ r.fields, x.result = (Template.resolve clock u x.template).text ∧
      x.unresolved = (Template.resolve clock u x.template).unresolved) ∧
    ∀ (i : Nat) (name old text : String), c.texts[i]? = some (name, old) →
      (c.setText name text).texts = c.texts.set i (name, text) ∧
        c.SameFrame (c.setText name text) ∧ c.setText name old = c := by
  intro r resolved
  have hconfig : r.config = c.mapTexts fun _ text => (Template.resolve clock u text).text := rfl
  have hframe : c.SameFrame r.config := hconfig ▸ sameFrame_mapTexts _ c
  have htexts : r.config.texts = resolved := by rw [hconfig, texts_mapTexts]
  have hnames : r.config.textNames = c.textNames := by
    unfold textNames
    rw [htexts, List.map_map]
    rfl
  refine ⟨⟨hframe.kind_eq, hframe.credentialId_eq, hframe.handles_eq, hnames⟩, hframe, htexts,
    ?_, ?_, ?_, ?_⟩
  · intro d hd hdtexts
    exact (hd.common hframe).eq_of_texts (hdtexts.trans htexts.symm)
  · show ((c.texts.filter fun t => Template.hasOpening t.2.toList).map _).map _ = _
    rw [List.map_map]
    refine (List.map_id _).trans (List.filter_congr fun t _ => ?_)
    rw [Bool.eq_iff_iff, decide_eq_true_iff]
    exact Template.hasOpening_iff
  · intro x hx
    obtain ⟨t, -, rfl⟩ := List.mem_map.1 hx
    exact ⟨rfl, rfl⟩
  · intro i name old text h
    exact ⟨texts_setText h text, sameFrame_mapTexts _ c,
      setText_self (List.mem_of_getElem? h)⟩

/-- A request with a span that is found, one that is not, a text without an
opening, and an opening that is no span. -/
theorem resolves_texts_of_request :
    let u : Context := { named := Table.empty.insert "A" (.obj [("id", .str "7")]) }
    let c : NodeConfig := .httpRequest
      { url := "/\x7b\x7bA.id\x7d\x7d", headers := Table.empty.insert "K" "\x7b\x7bB\x7d\x7d"
        query := Table.empty.insert "q" "A.id", body := some "\x7b\x7b", credentialId := some "k" }
    let d : NodeConfig := .httpRequest
      { url := "/7", headers := Table.empty.insert "K" "\x7b\x7bB\x7d\x7d"
        query := Table.empty.insert "q" "A.id", body := some "\x7b\x7b", credentialId := some "k" }
    (c.resolve "" u).config = d ∧
      ((c.resolve "" u).fields.map fun x => (x.field, x.unresolved)) =
        [("url", []), ("headers.K", ["\x7b\x7bB\x7d\x7d"]), ("body", [])] ∧
      (c.setText "query.q" "x").texts = c.texts.set 2 ("query.q", "x") := by
  intro u c d
  obtain ⟨-, -, -, hunique, -, -, hset⟩ := resolves_texts_in_place "" u c
  have hframe : c.SameFrame d := .httpRequest rfl rfl rfl rfl rfl
  refine ⟨(hunique d hframe (by decide +kernel)).symm, by decide +kernel, ?_⟩
  exact (hset 2 "query.q" "A.id" "x" (by decide +kernel)).1

end FlowBench.NodeConfig

/-
  FlowBench.Proofs.Node.Schema
  ────────────────────────────
  **Configurations read back from their documents.**

  For every kind of node the document of its settings fits the kind's shape,
  so nothing that is written is refused; and whatever value tells the
  settings describes the configuration they are the settings of, so nothing
  that is left out when writing is read as anything else.  The temperature of
  a language model is the only part that can fail to be told: it must be a
  number.
-/
import FlowBench.Node.Schema
import FlowBench.Proofs.Shape

namespace FlowBench

open Document (Fits FitFields optionalField)
open Entries (get?)
open Value (Tells)

/-! ## §1. Fields that may be left out. -/

namespace Document

@[simp] theorem get?_optionalField (k key : String) (d : Option Document) :
    get? k (optionalField key d) = if key = k then d else none := by
  cases d with
  | none => rw [ite_self]; rfl
  | some d => rfl

@[simp] theorem get?_optionalText (k key : String) (text : Option String) :
    get? k (NodeConfig.optionalText key text) = if key = k then text.map .text else none :=
  get?_optionalField k key _

@[simp] theorem get?_nonempty (k key : String) (isEmpty : Bool) (d : Document) :
    get? k (if isEmpty then [] else [(key, d)])
      = if key = k then if isEmpty then none else some d else none := by
  cases isEmpty with
  | true => exact (ite_self _).symm
  | false => rfl

theorem fits_optionalText {text : Option String} (d : Document) (hd : text.map .text = some d) :
    d.Fits (.orNull .text) := by
  obtain ⟨s, -, rfl⟩ := Option.map_eq_some_iff.1 hd
  exact (fits_text s).orNull

theorem fits_texts (t : Table String) : (ofTexts t).Fits (.table .text) := by
  refine fits_table ?_ ?_
  · rw [List.map_map]
    exact t.increasing.nodup
  · intro e he
    obtain ⟨f, -, rfl⟩ := List.mem_map.1 he
    exact fits_text f.2

end Document

namespace Value

variable {v : Value} {ds : List (String × Document)} {k : String}

theorem Tells.textsAt_eq (h : v.Tells (.record ds)) (hds : (ds.map Prod.fst).Nodup)
    {t : Table String} (hk : get? k ds = some (.ofTexts t)) : v.textsAt k = t :=
  h.tableAt_eq hds (fun _ _ _ hw => by cases hw; rfl) hk

/-- The texts of a table that is written unless it is empty. -/
theorem Tells.textsAt_of_nonempty (h : v.Tells (.record ds)) (hds : (ds.map Prod.fst).Nodup)
    {t : Table String} (hk : get? k ds = if t.isEmpty then none else some (.ofTexts t)) :
    v.textsAt k = t :=
  h.tableAt_of_nonempty hds (fun _ _ _ hw => by cases hw; rfl) hk

theorem Tells.operatorAt_eq (h : v.Tells (.record ds)) (hds : (ds.map Prod.fst).Nodup)
    {c : Comparison} (hk : get? "operator" ds = some (.text c.word)) :
    NodeConfig.operatorAt v = c := by
  have hword : v.textAt? "operator" = some c.word := h.textAt?_eq hds hk
  rw [NodeConfig.operatorAt, hword]
  exact congrArg (Option.getD · .equals) (Comparison.ofWord?_word c)

end Value

/-! ## §2. Words. -/

theorem Comparison.word_mem_words (c : Comparison) : c.word ∈ Comparison.words := by
  cases c <;> decide

theorem NodeKind.word_mem_words (k : NodeKind) : k.word ∈ NodeKind.words := by
  cases k <;> decide

/-! ## §3. Configurations. -/

namespace NodeKind

/-- The fields of a kind's configuration. -/
def fieldShapes (k : NodeKind) : List (String × Presence × Shape) :=
  match k.shape with
  | .record _ fields => fields
  | _ => []

theorem nodup_fieldShapes (k : NodeKind) : (k.fieldShapes.map Prod.fst).Nodup := by
  cases k <;> decide

end NodeKind

namespace NodeConfig

/-- The temperature it sets. -/
def temperature? : NodeConfig → Option Binary32
  | .llm c => c.temperature
  | _ => none

/-- The fields of its settings. -/
def parts (c : NodeConfig) : List (String × Document) :=
  match c.settings with
  | .record ds => ds
  | _ => []

theorem settings_eq_record (c : NodeConfig) : c.settings = .record c.parts := by
  cases c <;> rfl

/-! ### Rules of a switch -/

theorem fitFields_rule (r : SwitchRule) : FitFields
    ([("operator", .text r.operator.word), ("value", .text r.value)] ++ optionalText "label" r.label)
    [Shape.usual "operator" Shape.comparison, Shape.needed "value" .text,
      Shape.usual "label" (.orNull .text)] :=
  .given (Document.fits_choice r.operator.word_mem_words) <|
    .given (Document.fits_text r.value) <| .optional_last Document.fits_optionalText

theorem fits_rule (r : SwitchRule) : (ruleDocument r).Fits Shape.switchRule :=
  Document.fits_record (fitFields_rule r) (by decide)

theorem ruleOf_of_tells {r : SwitchRule} {v : Value} (h : v.Tells (ruleDocument r)) :
    ruleOf v = r := by
  have hds := (fitFields_rule r).sublist.nodup (by decide)
  have hoperator : operatorAt v = r.operator := h.operatorAt_eq hds rfl
  have hvalue : v.textAtD "value" "" = r.value := h.textAtD_eq hds rfl ""
  have hlabel : v.textAt? "label" = r.label := h.textAt?_eq hds (by simp [get?])
  rw [ruleOf, hoperator, hvalue, hlabel]

/-! ### The nine kinds -/

/-- The fields that are written are those of the kind, each of its shape. -/
theorem fitFields (c : NodeConfig) (hc : ∀ x, c.temperature? = some x → x.isFinite = true) :
    FitFields c.parts c.kind.fieldShapes := by
  cases c with
  | manual => exact .nil
  | webhook c => exact .given (Document.fits_text _) <| .given (Document.fits_text _) .nil
  | schedule c =>
    exact .given (Document.fits_text _) <| .optional_last Document.fits_optionalText
  | httpRequest c =>
    simp only [parts, settings, nonemptyTable, List.append_assoc, List.cons_append,
      List.nil_append]
    exact .given (Document.fits_text _) <| .given (Document.fits_text _) <|
      .nonempty _ (Document.fits_texts _) <| .nonempty _ (Document.fits_texts _) <|
      .optional Document.fits_optionalText <| .optional_last Document.fits_optionalText
  | llm c =>
    have htemperature (d : Document) (hd : c.temperature.map .single = some d) :
        d.Fits (.orNull .single) := by
      obtain ⟨x, hx, rfl⟩ := Option.map_eq_some_iff.1 hd
      exact (Document.fits_single (hc x hx)).orNull
    simp only [parts, settings, List.append_assoc, List.cons_append, List.nil_append]
    exact .given (Document.fits_text _) <| .given (Document.fits_text _) <|
      .optional Document.fits_optionalText <| .given (Document.fits_text _) <|
      .optional htemperature <| .optional_last Document.fits_optionalText
  | conditional c =>
    exact .given (Document.fits_text _) <|
      .given (Document.fits_choice c.operator.word_mem_words) <|
      .given (Document.fits_text _) .nil
  | switch c =>
    have hrules : ∀ d ∈ c.rules.map ruleDocument, d.Fits Shape.switchRule := by
      intro d hd
      obtain ⟨r, -, rfl⟩ := List.mem_map.1 hd
      exact fits_rule r
    exact .given (Document.fits_text _) <| .given (Document.fits_list hrules) <|
      .given (Document.fits_truth _) .nil
  | code c => exact .given (Document.fits_text _) <| .given (Document.fits_text _) .nil
  | set c => exact .given (Document.fits_texts _) .nil

theorem fits_settings (c : NodeConfig) (hc : ∀ x, c.temperature? = some x → x.isFinite = true) :
    c.settings.Fits c.kind.shape := by
  have hfields := fitFields c hc
  have hnames := c.kind.nodup_fieldShapes
  rw [settings_eq_record]
  cases c with
  | manual => exact Document.fits_bare _
  | _ => exact Document.fits_record hfields hnames

/-- Whatever tells the settings of a configuration describes it. -/
theorem ofShaped_of_tells (c : NodeConfig) (hc : ∀ x, c.temperature? = some x → x.isFinite = true)
    {v : Value} (h : v.Tells c.settings) : ofShaped c.kind v = c := by
  have hds := (fitFields c hc).sublist.nodup c.kind.nodup_fieldShapes
  rw [settings_eq_record] at h
  -- part by part: a field that was left out finds nothing under its key
  cases c with
  | manual => rfl
  | webhook c =>
    have hpath : v.textAtD "path" "" = c.path := h.textAtD_eq hds rfl ""
    have hmethod : v.textAtD "method" "GET" = c.method := h.textAtD_eq hds rfl "GET"
    simp only [kind, ofShaped, hpath, hmethod]
  | schedule c =>
    have hcron : v.textAtD "cron" "" = c.cron := h.textAtD_eq hds rfl ""
    have htimezone : v.textAt? "timezone" = c.timezone :=
      h.textAt?_eq hds (by simp [parts, settings, get?])
    simp only [kind, ofShaped, hcron, htimezone]
  | httpRequest c =>
    have hmethod : v.textAtD "method" "GET" = c.method := h.textAtD_eq hds rfl "GET"
    have hurl : v.textAtD "url" "" = c.url := h.textAtD_eq hds rfl ""
    have hheaders : v.textsAt "headers" = c.headers := h.textsAt_of_nonempty hds (by
      simp [parts, settings, nonemptyTable, get?, Entries.get?_append])
    have hquery : v.textsAt "query" = c.query := h.textsAt_of_nonempty hds (by
      simp [parts, settings, nonemptyTable, get?, Entries.get?_append])
    have hbody : v.textAt? "body" = c.body := h.textAt?_eq hds (by
      simp [parts, settings, nonemptyTable, get?, Entries.get?_append])
    have hcredential : v.textAt? "credential_id" = c.credentialId := h.textAt?_eq hds (by
      simp [parts, settings, nonemptyTable, get?, Entries.get?_append])
    simp only [kind, ofShaped, hmethod, hurl, hheaders, hquery, hbody, hcredential]
  | llm c =>
    have hprovider : v.textAtD "provider" "" = c.provider := h.textAtD_eq hds rfl ""
    have hmodel : v.textAtD "model" "" = c.model := h.textAtD_eq hds rfl ""
    have hsystem : v.textAt? "system_prompt" = c.systemPrompt := h.textAt?_eq hds (by
      simp [parts, settings, get?, Entries.get?_append])
    have hprompt : v.textAtD "prompt" "" = c.prompt := h.textAtD_eq hds (by
      simp [parts, settings, get?, Entries.get?_append]) ""
    have htemperature : v.singleAt? "temperature" = c.temperature := h.singleAt?_eq hds hc (by
      simp [parts, settings, get?, Entries.get?_append])
    have hcredential : v.textAt? "credential_id" = c.credentialId := h.textAt?_eq hds (by
      simp [parts, settings, get?, Entries.get?_append])
    simp only [kind, ofShaped, hprovider, hmodel, hsystem, hprompt, htemperature, hcredential]
  | conditional c =>
    have hleft : v.textAtD "left" "" = c.left := h.textAtD_eq hds rfl ""
    have hoperator : operatorAt v = c.operator := h.operatorAt_eq hds rfl
    have hright : v.textAtD "right" "" = c.right := h.textAtD_eq hds rfl ""
    simp only [kind, ofShaped, hleft, hoperator, hright]
  | switch c =>
    have hvalue : v.textAtD "value" "" = c.value := h.textAtD_eq hds rfl ""
    have hrules : (v.listAt "rules").map ruleOf = c.rules :=
      Value.map_eq_of_tells (fun _ _ _ hr => ruleOf_of_tells hr) (h.listAt hds rfl)
    have hfallback : v.truthAtD "fallback" true = c.fallback := h.truthAtD_eq hds rfl true
    simp only [kind, ofShaped, hvalue, hrules, hfallback]
  | code c =>
    have hlanguage : v.textAtD "language" "javascript" = c.language := h.textAtD_eq hds rfl _
    have hsource : v.textAtD "source" "" = c.source := h.textAtD_eq hds rfl ""
    simp only [kind, ofShaped, hlanguage, hsource]
  | set c =>
    have hfields : v.textsAt "fields" = c.fields := h.textsAt_eq hds rfl
    simp only [kind, ofShaped, hfields]

end NodeConfig

end FlowBench

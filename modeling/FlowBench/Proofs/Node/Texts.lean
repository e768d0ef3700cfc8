/-
  FlowBench.Proofs.Node.Texts
  ───────────────────────────
  **Reading and changing the texts of a configuration.**

  `texts` reads and `mapTexts` writes, for every kind of node: what is read
  after a change is what was read before it, changed (`texts_mapTexts`); two
  changes that agree on what is read are one (`mapTexts_congr`); a change
  after a change is one change (`mapTexts_mapTexts`); and no two texts share
  a name (`nodup_textNames`).  So a change is told by the list of what it did
  to each text, one after the other (`foldl_refill`).
-/
import Mathlib.Data.List.Nodup
import FlowBench.Event.Kind
import FlowBench.Node.Resolved
import FlowBench.Proofs.Table
import FlowBench.Proofs.Workflow.Names

namespace FlowBench.NodeConfig

variable {f g : String → String → String} {c : NodeConfig} {label : String} {t : Table String}

/-! ## §1. Tables of texts. -/

theorem tableTexts_mapTable (label : String) (f : String → String → String) (t : Table String) :
    tableTexts label (mapTable label f t) = (tableTexts label t).map fun x => (x.1, f x.1 x.2) := by
  unfold tableTexts mapTable Table.mapWithKey
  rw [List.map_map, List.map_map]
  rfl

theorem mapTable_congr (h : ∀ x ∈ tableTexts label t, f x.1 x.2 = g x.1 x.2) :
    mapTable label f t = mapTable label g t := by
  have hentries : ∀ e ∈ t.entries, f (label ++ "." ++ e.1) e.2 = g (label ++ "." ++ e.1) e.2 :=
    fun e he => h _ (List.mem_map_of_mem (f := fun e => (label ++ "." ++ e.1, e.2)) he)
  unfold mapTable Table.mapWithKey
  simp only [Table.mk.injEq]
  refine List.map_congr_left fun e he => ?_
  rw [hentries e he]

theorem mapTable_mapTable (label : String) (f g : String → String → String) (t : Table String) :
    mapTable label g (mapTable label f t) =
      mapTable label (fun name text => g name (f name text)) t := by
  unfold mapTable Table.mapWithKey
  simp only [Table.mk.injEq, List.map_map]
  rfl

theorem mapTable_self (label : String) (t : Table String) :
    mapTable label (fun _ text => text) t = t := by
  unfold mapTable Table.mapWithKey
  obtain ⟨es, hes⟩ := t
  simp only [Table.mk.injEq]
  exact List.map_id _

/-- The texts of a table have the names of its keys, behind the label. -/
theorem names_tableTexts (label : String) (t : Table String) :
    (tableTexts label t).map Prod.fst = t.keys.map fun key => label ++ "." ++ key := by
  unfold tableTexts Table.keys
  rw [List.map_map, List.map_map]
  rfl

theorem nodup_names_tableTexts (label : String) (t : Table String) :
    ((tableTexts label t).map Prod.fst).Nodup := by
  rw [names_tableTexts]
  exact t.increasing.nodup.map fun _ _ h => (String.append_right_inj _).1 h

/-- The names of a table's texts start as the label does. -/
theorem head?_of_mem_names {name : String} (h : name ∈ (tableTexts label t).map Prod.fst)
    (hlabel : label.toList ≠ []) : name.toList.head? = label.toList.head? := by
  rw [names_tableTexts] at h
  obtain ⟨key, -, rfl⟩ := List.mem_map.1 h
  rw [String.append_assoc, String.toList_append, List.head?_append_of_ne_nil _ hlabel]

/-! ## §2. Configurations. -/

/-- **What is read after a change is what was read before it, changed.** -/
theorem texts_mapTexts (f : String → String → String) (c : NodeConfig) :
    (c.mapTexts f).texts = c.texts.map fun x => (x.1, f x.1 x.2) := by
  cases c with
  | manual | webhook | schedule | code => rfl
  | httpRequest c =>
    simp only [mapTexts, texts, tableTexts_mapTable, List.map_cons, List.map_append]
    cases c.body <;> rfl
  | llm c =>
    simp only [mapTexts, texts, List.map_append]
    cases c.systemPrompt <;> rfl
  | conditional c => rfl
  | switch c =>
    refine congrArg (List.cons _) (List.ext_getElem? fun i => ?_)
    simp only [List.getElem?_mapIdx, List.getElem?_map, Option.map_map]
    rfl
  | set c => exact tableTexts_mapTable _ f _

/-- **Changes that agree on what is read are one change.** -/
theorem mapTexts_congr (h : ∀ x ∈ c.texts, f x.1 x.2 = g x.1 x.2) :
    c.mapTexts f = c.mapTexts g := by
  cases c with
  | manual | webhook | schedule | code => rfl
  | httpRequest c =>
    have hurl : f "url" c.url = g "url" c.url := h ("url", c.url) (by simp [texts])
    have hheaders : mapTable "headers" f c.headers = mapTable "headers" g c.headers :=
      mapTable_congr fun x hx => h x (by simp [texts, hx])
    have hquery : mapTable "query" f c.query = mapTable "query" g c.query :=
      mapTable_congr fun x hx => h x (by simp [texts, hx])
    have hbody : c.body.map (f "body") = c.body.map (g "body") :=
      Option.map_congr fun text htext => h ("body", text) (by simp [texts, htext])
    simp only [mapTexts, hurl, hheaders, hquery, hbody]
  | llm c =>
    have hsystem : c.systemPrompt.map (f "system_prompt") = c.systemPrompt.map (g "system_prompt") :=
      Option.map_congr fun text htext => h ("system_prompt", text) (by simp [texts, htext])
    have hprompt : f "prompt" c.prompt = g "prompt" c.prompt :=
      h ("prompt", c.prompt) (by simp [texts])
    simp only [mapTexts, hsystem, hprompt]
  | conditional c =>
    have hleft : f "left" c.left = g "left" c.left := h ("left", c.left) (by simp [texts])
    have hright : f "right" c.right = g "right" c.right :=
      h ("right", c.right) (by simp [texts])
    simp only [mapTexts, hleft, hright]
  | switch c =>
    have hvalue : f "value" c.value = g "value" c.value :=
      h ("value", c.value) (by simp [texts])
    have hrule : ∀ i (hi : i < c.rules.length),
        f (ruleText i) c.rules[i].value = g (ruleText i) c.rules[i].value := by
      intro i hi
      refine h (ruleText i, c.rules[i].value) (List.mem_cons_of_mem _ ?_)
      exact List.mem_mapIdx.2 ⟨i, hi, rfl⟩
    have hrules : (c.rules.mapIdx fun i r => { r with value := f (ruleText i) r.value }) =
        c.rules.mapIdx fun i r => { r with value := g (ruleText i) r.value } :=
      List.mapIdx_eq_mapIdx_iff.2 fun i hi => by rw [hrule i hi]
    simp only [mapTexts, hvalue, hrules]
  | set c =>
    have hfields : mapTable "fields" f c.fields = mapTable "fields" g c.fields := mapTable_congr h
    simp only [mapTexts, hfields]

/-- **A change after a change is one change.** -/
theorem mapTexts_mapTexts (f g : String → String → String) (c : NodeConfig) :
    (c.mapTexts f).mapTexts g = c.mapTexts fun name text => g name (f name text) := by
  cases c with
  | manual | webhook | schedule | code | conditional => rfl
  | httpRequest c =>
    simp only [mapTexts, mapTable_mapTable, Option.map_map]
    rfl
  | llm c =>
    simp only [mapTexts, Option.map_map]
    rfl
  | switch c =>
    simp only [mapTexts, List.mapIdx_mapIdx]
    rfl
  | set c => simp only [mapTexts, mapTable_mapTable]

/-- A change that changes nothing. -/
theorem mapTexts_self (c : NodeConfig) : (c.mapTexts fun _ text => text) = c := by
  cases c with
  | manual | webhook | schedule | code | conditional => rfl
  | httpRequest c => simp only [mapTexts, mapTable_self, Option.map_id_fun', id]
  | llm c => simp only [mapTexts, Option.map_id_fun', id]
  | switch c =>
    have hrules : (c.rules.mapIdx fun _ r => { r with value := r.value }) = c.rules := by
      rw [List.mapIdx_eq_iff]
      exact fun i => Option.map_id'.symm
    simp only [mapTexts, hrules]
  | set c => simp only [mapTexts, mapTable_self]

/-- A change of texts asks for the same credential. -/
theorem credentialId_mapTexts (f : String → String → String) (c : NodeConfig) :
    (c.mapTexts f).credentialId = c.credentialId := by
  cases c <;> rfl

/-! ## §3. Names. -/

theorem ruleText_inj {i j : Nat} (h : ruleText i = ruleText j) : i = j := by
  have hdigits := (String.append_left_inj _).1 h
  exact Workflow.append_toString_inj hdigits

/-- **No two texts of a configuration share a name.** -/
theorem nodup_textNames (c : NodeConfig) : c.textNames.Nodup := by
  unfold textNames
  cases c with
  | manual | webhook | schedule | code => exact List.nodup_nil
  | httpRequest c =>
    -- The four groups of names start with different letters.
    have hheaders : ∀ name ∈ (tableTexts "headers" c.headers).map Prod.fst,
        name.toList.head? = some 'h' := fun name h => head?_of_mem_names h (by decide)
    have hquery : ∀ name ∈ (tableTexts "query" c.query).map Prod.fst,
        name.toList.head? = some 'q' := fun name h => head?_of_mem_names h (by decide)
    have hbody : ∀ name ∈ (c.body.map fun t => ("body", t)).toList.map Prod.fst,
        name.toList.head? = some 'b' := by
      cases c.body <;> simp
    have hbodies : ((c.body.map fun t => ("body", t)).toList.map Prod.fst).Nodup := by
      cases c.body <;> simp
    simp only [texts, List.map_append, List.map_cons]
    rw [List.nodup_append, List.nodup_append, List.nodup_cons]
    refine ⟨⟨⟨?_, nodup_names_tableTexts _ _⟩, nodup_names_tableTexts _ _, ?_⟩, hbodies, ?_⟩
    · intro h
      exact absurd (hheaders _ h) (by decide)
    · intro name hname other hother heq
      have hletter := hquery _ (heq ▸ hother)
      obtain rfl | hname := List.mem_cons.1 hname
      · exact absurd hletter (by decide)
      · rw [hheaders _ hname] at hletter
        exact absurd hletter (by decide)
    · intro name hname other hother heq
      have hletter := hbody _ (heq ▸ hother)
      obtain hname | hname := List.mem_append.1 hname
      · obtain rfl | hname := List.mem_cons.1 hname
        · exact absurd hletter (by decide)
        · rw [hheaders _ hname] at hletter
          exact absurd hletter (by decide)
      · rw [hquery _ hname] at hletter
        exact absurd hletter (by decide)
  | llm c =>
    cases h : c.systemPrompt <;> simp [texts, h]
  | conditional c => simp [texts]
  | switch c =>
    have hnames : (c.rules.mapIdx fun i r => (ruleText i, r.value)).map Prod.fst =
        (List.range c.rules.length).map ruleText := by
      refine List.ext_getElem (by simp) fun i hi hi' => ?_
      simp
    show ("value" :: (c.rules.mapIdx fun i r => (ruleText i, r.value)).map Prod.fst).Nodup
    rw [hnames, List.nodup_cons]
    refine ⟨?_, List.nodup_range.map fun _ _ h => ruleText_inj h⟩
    intro h
    obtain ⟨i, -, heq⟩ := List.mem_map.1 h
    -- The value and the rules start with different letters, too.
    have hletter := congrArg (fun name => name.toList.head?) heq
    rw [ruleText] at hletter
    simp at hletter
  | set c => exact nodup_names_tableTexts _ _

/-! ## §4. A change told text by text. -/

/-- Puts back what an event tells: the named text, if it is still the
template, becomes the result. -/
def refill (c : NodeConfig) : EventKind → NodeConfig
  | .templateResolved _ field template result =>
      c.mapTexts fun name text => if name = field ∧ text = template then result else text
  | _ => c

/-- The events that tell what a change does to some texts. -/
def changes (id : String) (f : String → String → String) (ts : List (String × String)) :
    List EventKind :=
  ts.map fun x => .templateResolved id x.1 x.2 (f x.1 x.2)

/-- **What is told text by text is put back text by text.** -/
theorem foldl_refill (id : String) (f : String → String → String) :
    ∀ (ts : List (String × String)) (c : NodeConfig), (ts.map Prod.fst).Nodup →
      (changes id f ts).foldl refill c =
        c.mapTexts fun name text => if (name, text) ∈ ts then f name text else text
  | [], c, _ => by
    simp only [List.not_mem_nil, if_false]
    exact (mapTexts_self c).symm
  -- By induction on the texts told; the configuration is another after each.
  | (field, template) :: rest, c, h => by
    rw [List.map_cons, List.nodup_cons] at h
    obtain ⟨hnew, hrest⟩ := h
    show (changes id f rest).foldl refill (refill c _) = _
    -- The first change and those of the rest are one change of `c`.
    rw [foldl_refill id f rest _ hrest, refill, mapTexts_mapTexts]
    refine mapTexts_congr fun x _ => ?_
    obtain ⟨name, text⟩ := x
    dsimp only
    by_cases hx : name = field ∧ text = template
    · -- The name does not come again, so its new text stays.
      obtain ⟨rfl, rfl⟩ := hx
      have hdone : (name, f name text) ∉ rest :=
        fun hmem => hnew (List.mem_map.2 ⟨_, hmem, rfl⟩)
      rw [if_pos (And.intro rfl rfl), if_neg hdone, if_pos List.mem_cons_self]
    · have hmem : (name, text) ∈ (field, template) :: rest ↔ (name, text) ∈ rest := by
        rw [List.mem_cons, Prod.mk.injEq, or_iff_right hx]
      simp only [if_neg hx, hmem]

/-- A change that leaves some texts alone is told by what it does to the
others. -/
theorem foldl_refill_filter (id : String) {p : String → Bool}
    (h : ∀ x ∈ c.texts, p x.2 = false → f x.1 x.2 = x.2) :
    (changes id f (c.texts.filter fun x => p x.2)).foldl refill c = c.mapTexts f := by
  have hnames : ((c.texts.filter fun x => p x.2).map Prod.fst).Nodup :=
    c.nodup_textNames.sublist (List.filter_sublist.map _)
  rw [foldl_refill id f _ c hnames]
  refine mapTexts_congr fun x hx => ?_
  by_cases hp : p x.2 = true
  · rw [if_pos (List.mem_filter.2 ⟨hx, hp⟩)]
  · have hnot : x ∉ c.texts.filter fun x => p x.2 := fun hmem => hp (List.mem_filter.1 hmem).2
    rw [if_neg hnot]
    exact (h x hx (Bool.eq_false_iff.2 hp)).symm

end FlowBench.NodeConfig

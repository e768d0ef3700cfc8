/-
  FlowBench.Proofs.Json.Proper
  ────────────────────────────
  **Every value that is read from JSON is proper.**

  A value could hold a float that is no number, or fields out of order; the
  reader makes no such value.  Its numerals are numbers, because it gathers no
  more digits than fit 64 bits (`isFinite_of_scaled`), and its objects are
  built field by field.  The brackets that are still open carry the invariant:
  a token that is read keeps what they hold proper.
-/
import FlowBench.Json.Reader
import FlowBench.Proofs.Document
import FlowBench.Proofs.Number.Decimal

namespace FlowBench

/-! ## §1. Building values. -/

namespace Value

variable {v : Value} {items : List Value} {fields : List (String × Value)}

theorem itemsProper_iff : ∀ {items : List Value}, ItemsProper items ↔ ∀ v ∈ items, v.Proper
  | [] => by simp [ItemsProper]
  | v :: rest => by rw [ItemsProper, itemsProper_iff, List.forall_mem_cons]

theorem fieldsProper_iff : ∀ {fields : List (String × Value)},
    FieldsProper fields ↔ ∀ e ∈ fields, e.2.Proper
  | [] => by simp [FieldsProper]
  | (k, v) :: rest => by rw [FieldsProper, fieldsProper_iff, List.forall_mem_cons]

theorem proper_arr_iff : (arr items).Proper ↔ ∀ v ∈ items, v.Proper := by
  rw [Proper, itemsProper_iff]

theorem proper_obj_iff :
    (obj fields).Proper ↔ Entries.Increasing fields ∧ ∀ e ∈ fields, e.2.Proper := by
  rw [Proper, fieldsProper_iff]

theorem proper_insert (hfields : (obj fields).Proper) (key : String) (hv : v.Proper) :
    (obj (Entries.insert key v fields)).Proper := by
  rw [proper_obj_iff] at hfields ⊢
  refine ⟨Entries.increasing_insert key v hfields.1, fun e he => ?_⟩
  rcases Entries.mem_of_mem_insert he with rfl | he
  · exact hv
  · exact hfields.2 e he

theorem proper_empty : (obj []).Proper := proper_obj_iff.2 ⟨List.Pairwise.nil, by simp⟩

/-- An object of proper values is proper. -/
theorem proper_object (h : ∀ e ∈ fields, e.2.Proper) : (object fields).Proper :=
  proper_obj_iff.2
    ⟨Entries.increasing_ofList fields, fun e he => h e (Entries.mem_of_mem_ofList he)⟩

/-- The fields of a proper object are proper. -/
theorem Proper.field {key : String} {u : Value} (hv : v.Proper) (h : v.field? key = some u) :
    u.Proper := by
  cases v with
  | obj fields =>
    obtain ⟨hincreasing, hfields⟩ := proper_obj_iff.1 hv
    exact hfields _ ((Entries.get?_eq_some_iff hincreasing.nodup).1 h)
  | _ => cases h

end Value

/-! ## §2. Values of documents. -/

namespace Document

open Value

theorem proper_numberValue (x : Binary64) : (numberValue x).Proper := by
  unfold numberValue
  split
  · next hfinite => exact hfinite
  · exact trivial

mutual
/-- The value that a document stands for is proper. -/
theorem proper_toValue : (d : Document) → d.toValue.Proper
  | .null => trivial
  | .bool _ => trivial
  | .int _ => trivial
  | .double x => proper_numberValue x
  | .single x => proper_numberValue x.convert
  | .text _ => trivial
  | .list ds => by
    rw [toValue, proper_arr_iff]
    exact proper_toItems ds
  | .record ds => by
    rw [toValue]
    exact proper_object (proper_toFields ds)

theorem proper_toItems : (ds : List Document) → ∀ v ∈ toItems ds, v.Proper
  | [] => by simp [toItems]
  | d :: rest => by
    rw [toItems, List.forall_mem_cons]
    exact ⟨proper_toValue d, proper_toItems rest⟩

theorem proper_toFields : (ds : List (String × Document)) → ∀ e ∈ toFields ds, e.2.Proper
  | [] => by simp [toFields]
  | (_, d) :: rest => by
    rw [toFields, List.forall_mem_cons]
    exact ⟨proper_toValue d, proper_toFields rest⟩
end

end Document

namespace Json

/-! ## §3. Tokens. -/

/-- Digits are gathered only as long as they fit 64 bits. -/
theorem takeDigits_lt : ∀ (acc : Nat) (cs : List Char), acc < 2 ^ 64 →
    (takeDigits acc cs).1 < 2 ^ 64
  | _, [], h => h
  | acc, c :: rest, h => by
    unfold takeDigits
    split
    · next hfits => exact takeDigits_lt _ rest hfits
    · exact h

theorem proper_numeral {negative : Bool} {whole : List Char} {fraction : Option (List Char)}
    {exponent : Option Int} {v : Value} (h : numeral negative whole fraction exponent = some v) :
    v.Proper := by
  have hwhole := takeDigits_lt 0 whole (by decide)
  unfold numeral at h
  dsimp only at h
  split at h
  · cases h
    exact trivial
  · split at h
    · cases h
      exact trivial
    · obtain ⟨x, hx, rfl⟩ := Option.map_eq_some_iff.1 h
      exact Decimal.isFinite_of_scaled (takeDigits_lt _ (fraction.getD []) hwhole) hx

/-- Whatever a numeral starts with, its exponent and its value are read
last. -/
theorem proper_of_exponent {negative : Bool} {whole rest after : List Char}
    {fraction : Option (List Char)} {v : Value}
    (h : ((exponentSpan rest).bind fun e =>
      (numeral negative whole fraction e.1).bind fun value => some (value, e.2)) =
        some (v, after)) : v.Proper := by
  obtain ⟨e, -, he⟩ := Option.bind_eq_some_iff.1 h
  obtain ⟨value, hvalue, heq⟩ := Option.bind_eq_some_iff.1 he
  cases heq
  exact proper_numeral hvalue

theorem proper_numberSpan {cs after : List Char} {v : Value}
    (h : numberSpan cs = some (v, after)) : v.Proper := by
  unfold numberSpan at h
  simp only [Option.bind_eq_bind, Option.pure_def, Option.bind_none, Option.bind_some] at h
  -- with a sign and without one
  split at h
  all_goals
    split at h
    · cases h
    · split at h
      · split at h
        · cases h
        · exact proper_of_exponent h
      · exact proper_of_exponent h

/-- A token that is a value is a proper one. -/
def Token.Proper : Token → Prop
  | .scalar v => v.Proper
  | _ => True

theorem proper_tokens : ∀ (steps : Nat) {cs : List Char} {ts : List Token},
    tokens steps cs = some ts → ∀ t ∈ ts, t.Proper
  | steps, [], ts, h => by
    cases steps <;> cases h <;> simp
  | 0, _ :: _, _, h => by cases h
  | steps + 1, c :: rest, ts, h => by
    unfold tokens at h
    split at h
    · exact proper_tokens steps h
    · obtain ⟨⟨t, after⟩, hnext, hmore⟩ := Option.bind_eq_some_iff.1 h
      obtain ⟨more, hrest, rfl⟩ := Option.map_eq_some_iff.1 hmore
      rw [List.forall_mem_cons]
      refine ⟨?_, proper_tokens steps hrest⟩
      -- only a numeral could be improper
      split at hnext
      case h_11 =>
        obtain ⟨⟨v, left⟩, hspan, heq⟩ := Option.map_eq_some_iff.1 hnext
        cases heq
        exact proper_numberSpan hspan
      case h_7 | h_8 | h_9 | h_10 =>
        obtain ⟨_, -, heq⟩ := Option.map_eq_some_iff.1 hnext
        cases heq
        exact trivial
      all_goals
        cases hnext
        exact trivial

/-! ## §4. Values. -/

/-- What an open bracket holds so far is proper. -/
def Frame.Proper : Frame → Prop
  | .list items => ∀ v ∈ items, v.Proper
  | .object fields _ => (Value.obj fields).Proper

/-- What a reader holds so far is proper. -/
structure Stance.Proper (s : Stance) : Prop where
  frames : ∀ f ∈ s.frames, f.Proper
  result : s.result.Proper

namespace Stance

variable {s s' : Stance} {t : Token} {v : Value} {frames : List Frame} {expect : Expect}

theorem Proper.of_frames (h : ∀ f ∈ frames, f.Proper) : Proper ⟨expect, frames, .null⟩ :=
  ⟨h, trivial⟩

theorem proper_place (hv : v.Proper) (h : ∀ f ∈ frames, f.Proper) : (place v frames).Proper := by
  cases frames with
  | nil => exact ⟨by simp [place], hv⟩
  | cons f outer =>
    rw [List.forall_mem_cons] at h
    obtain ⟨hf, houter⟩ := h
    cases f with
    | list items =>
      refine .of_frames (List.forall_mem_cons.2 ⟨?_, houter⟩)
      exact List.forall_mem_cons.2 ⟨hv, hf⟩
    | object fields key =>
      exact .of_frames (List.forall_mem_cons.2 ⟨Value.proper_insert hf key hv, houter⟩)

theorem proper_opened {f : Frame} (hf : f.Proper) (hframes : ∀ f ∈ frames, f.Proper)
    (h : (if frames.length < maxDepth then
      some (⟨expect, f :: frames, .null⟩ : Stance) else none) = some s') : s'.Proper := by
  split at h
  · cases h
    exact .of_frames (List.forall_mem_cons.2 ⟨hf, hframes⟩)
  · cases h

/-- Reading a proper token keeps what is held proper. -/
theorem Proper.step (hs : s.Proper) (ht : t.Proper) (h : s.step t = some s') : s'.Proper := by
  obtain ⟨expect, frames, result⟩ := s
  obtain ⟨hframes, -⟩ := hs
  unfold Stance.step at h
  dsimp only at h hframes
  split at h
  case h_1 | h_2 =>
    cases h
    exact proper_place ht hframes
  case h_3 | h_4 =>
    cases h
    exact proper_place trivial hframes
  case h_5 | h_6 => exact proper_opened (f := .list []) (fun _ hv => nomatch hv) hframes h
  case h_7 | h_8 => exact proper_opened (f := .object [] "") Value.proper_empty hframes h
  case h_9 | h_10 =>
    cases h
    rw [List.forall_mem_cons] at hframes
    refine proper_place (Value.proper_arr_iff.2 fun v hv => ?_) hframes.2
    exact hframes.1 v (List.mem_reverse.1 hv)
  case h_11 | h_12 =>
    cases h
    rw [List.forall_mem_cons] at hframes
    exact proper_place hframes.1 hframes.2
  case h_13 | h_14 | h_17 =>
    cases h
    exact .of_frames hframes
  case h_15 | h_16 =>
    -- the key changes, the fields do not
    cases h
    rw [List.forall_mem_cons] at hframes
    exact .of_frames (List.forall_mem_cons.2 hframes)
  case h_18 => cases h

/-- Reading proper tokens keeps what is held proper. -/
theorem Proper.run : ∀ {ts : List Token} {s s' : Stance}, s.Proper → (∀ t ∈ ts, t.Proper) →
    ts.foldlM Stance.step s = some s' → s'.Proper
  | [], _, _, hs, _, h => by
    cases h
    exact hs
  | t :: ts, s, s', hs, hts, h => by
    rw [List.foldlM_cons] at h
    obtain ⟨next, hnext, hrest⟩ := Option.bind_eq_some_iff.1 h
    rw [List.forall_mem_cons] at hts
    exact (hs.step hts.1 hnext).run hts.2 hrest

end Stance

/-- **The value of a text is proper.** -/
theorem proper_read {text : String} {v : Value} (h : read? text = some v) : v.Proper := by
  unfold read? at h
  obtain ⟨ts, hts, h⟩ := Option.bind_eq_some_iff.1 h
  obtain ⟨last, hlast, h⟩ := Option.bind_eq_some_iff.1 h
  have hproper := Stance.Proper.run (.of_frames (by simp)) (proper_tokens _ hts) hlast
  split at h
  · cases h
    exact hproper.result
  · cases h

end Json

end FlowBench

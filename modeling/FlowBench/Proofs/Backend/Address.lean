/-
  FlowBench.Proofs.Backend.Address
  ────────────────────────────────
  **Where a backend is asked for a credential.**

  A credential is meant to lie below the base, in the collection
  `credentials`, at one segment that reads as its id.  That is where it is
  asked for exactly when the id is plain, and plain ids never share an
  address (`credential_address`).  Of the others some are asked for at the
  address of a different id, and some even outside the collection.
-/
import FlowBench.Backend.Reply
import FlowBench.Plan.Rehearsal
import FlowBench.Proofs.Url.Segment

namespace FlowBench.Backend

open Url

/-! ## §1. Addresses. -/

/-- A URL is the address of the credential with an id: two segments below the
base, the collection and one that reads as the id. -/
def IsAddressOf (base : Url) (id : String) (u : Url) : Prop :=
  ∃ segment, u = base.below ["credentials", segment]
    ∧ text? (decode segment.toList) = some id.toList

/-- A URL is that of the collection of credentials, or of something in it. -/
def InCollection (base u : Url) : Prop := ∃ names, u = base.below ("credentials" :: names)

/-- The collection is added as it is written. -/
theorem appendSegment_collection (special : Bool) (names : List String) :
    appendSegment special names "credentials" = front names ++ ["credentials"] := by
  have hdots : ¬ ("credentials" = "." ∨ "credentials" = "..") := by decide
  have hwritten : written special "credentials" = "credentials" := by
    cases special <;> decide +kernel
  rw [appendSegment_of_not_dots hdots, hwritten]
  rfl

/-- The id is added to the path of the collection. -/
theorem credentialRequest_url {b : Backend} (hbase : b.base.canBeBase = true) (id : String) :
    (b.credentialRequest id).url = { b.base with
      location := .segments (appendSegment (isSpecial b.base.scheme)
        (front b.base.stem ++ ["credentials"]) id) } := by
  cases hpath : b.base.location with
  | whole text =>
    rw [canBeBase, hpath] at hbase
    contradiction
  | segments names =>
    show b.base.append ["credentials", id] = _
    rw [append, hpath]
    dsimp only
    rw [List.foldl_cons, List.foldl_cons, List.foldl_nil, appendSegment_collection,
      front_withoutEmptyEnd hpath]

/-- **Where the request for a credential goes.**  Dots ask for the collection
itself, and an id that climbs for what the base is in; an id that is a dot but
for tabs and line breaks asks for an empty segment, and every other for what
it is written as. -/
theorem credentialRequest_cases {b : Backend} (hbase : b.base.canBeBase = true) (id : String) :
    (id = "." ∨ id = "..") ∧ (b.credentialRequest id).url = b.base.placed ["credentials"]
      ∨ Climbs id ∧ (b.credentialRequest id).url = b.base.placed [""]
      ∨ id ≠ "." ∧ kept id.toList = ['.']
          ∧ (b.credentialRequest id).url = b.base.placed ["credentials", ""]
      ∨ ¬ (id = "." ∨ id = "..") ∧ ¬ Climbs id
          ∧ (b.credentialRequest id).url
            = b.base.placed ["credentials", written (isSpecial b.base.scheme) id] := by
  -- The path of the collection is not the root, and it ends on no drive, so
  -- that climbing from it leads to the stem.
  let collection := front b.base.stem ++ ["credentials"]
  have hlast : collection.getLast? = some "credentials" := List.getLast?_concat
  have hfront : front collection = collection := by
    refine if_neg fun heq => ?_
    rw [heq] at hlast
    exact absurd hlast (by decide)
  have habove : above collection = front b.base.stem := by
    unfold above
    rw [hlast]
    exact List.dropLast_concat
  have hcases := appendSegment_cases (isSpecial b.base.scheme) collection id
  rw [hfront, habove] at hcases
  rw [credentialRequest_url hbase]
  unfold placed
  obtain ⟨hdots, heq⟩ | ⟨hclimb, heq⟩ | ⟨hone, hdot, heq⟩ | ⟨hdots, hclimb, heq⟩ := hcases
  · left
    exact ⟨hdots, by rw [heq]⟩
  · right; left
    exact ⟨hclimb, by rw [heq]⟩
  · right; right; left
    exact ⟨hone, hdot, by rw [heq, List.append_assoc]; rfl⟩
  · right; right; right
    exact ⟨hdots, hclimb, by rw [heq, List.append_assoc]; rfl⟩

theorem credentialRequest_of_plain {b : Backend} (hbase : b.base.canBeBase = true) {id : String}
    (h : IsPlain id) : (b.credentialRequest id).url =
      b.base.placed ["credentials", written (isSpecial b.base.scheme) id] := by
  obtain ⟨hone, htwo, hkept⟩ := h
  obtain ⟨hdots, -⟩ | ⟨hclimb, -⟩ | ⟨-, hdot, -⟩ | ⟨-, -, heq⟩ := credentialRequest_cases hbase id
  · exact absurd hdots (not_or.2 ⟨hone, htwo⟩)
  · -- An id that climbs and has nothing left out is two dots.
    have hid : id = ".." := String.toList_inj.1 (hkept.symm.trans hclimb.2)
    exact absurd hid htwo
  · have hid : id = "." := String.toList_inj.1 (hkept.symm.trans hdot)
    exact absurd hid hone
  · exact heq

theorem credentialRequest_of_climbs {b : Backend} (hbase : b.base.canBeBase = true) {id : String}
    (h : Climbs id) : (b.credentialRequest id).url = b.base.placed [""] := by
  obtain ⟨hdots, -⟩ | ⟨-, heq⟩ | ⟨-, hdot, -⟩ | ⟨-, hnot, -⟩ := credentialRequest_cases hbase id
  · exact absurd hdots h.not_dots
  · exact heq
  · rw [h.2] at hdot
    exact absurd hdot (by decide)
  · exact absurd h hnot

theorem credentialRequest_of_not_climbs {b : Backend} (hbase : b.base.canBeBase = true)
    {id : String} (h : ¬ Climbs id) :
    ∃ names, (b.credentialRequest id).url = b.base.placed ("credentials" :: names) := by
  obtain ⟨-, heq⟩ | ⟨hclimb, -⟩ | ⟨-, -, heq⟩ | ⟨-, -, heq⟩ := credentialRequest_cases hbase id
  · exact ⟨_, heq⟩
  · exact absurd hclimb h
  · exact ⟨_, heq⟩
  · exact ⟨_, heq⟩

/-! ## §2. What is sent. -/

/-- Getting a credential sends that request, once, unless the key cannot be
sent; then nothing is sent. -/
theorem requests_perform_credential (b : Backend) (id : String) (r : Rehearsal) :
    (r.perform (b.credential id)).1.requests = r.requests ++
      if (b.credentialRequest id).isSendable = true then [b.credentialRequest id] else [] := by
  unfold credential Plan.exchange
  by_cases hsend : (b.credentialRequest id).isSendable = true
  · rw [if_pos hsend, if_pos hsend]
    show (Rehearsal.run (.send (b.credentialRequest id) _) r).1.requests = _
    rw [Rehearsal.run]
    -- Whatever the reply, nothing more is sent.
    cases r.nextReply with
    | none => rfl
    | some reply => rfl
  · rw [if_neg hsend, if_neg hsend, List.append_nil]
    rfl

/-! ## §3. Which address it is. -/

/-- Nothing is put into the collection where the stem is one empty segment. -/
theorem placed_collection_eq_below_iff {u : Url} {names others : List String} :
    u.placed ("credentials" :: names) = u.below ("credentials" :: others) ↔
      u.stem ≠ [""] ∧ names = others := by
  rw [placed_eq_below_iff]
  simp

theorem placed_empty_ne_below (u : Url) (others : List String) :
    u.placed [""] ≠ u.below ("credentials" :: others) := by
  rw [ne_eq, placed_eq_below_iff]
  simp

/-- The address is right exactly for plain ids, at every base but the one
whose stem is lost. -/
theorem isAddressOf_credentialRequest_iff {b : Backend} (hbase : b.base.canBeBase = true)
    (id : String) :
    IsAddressOf b.base id (b.credentialRequest id).url ↔ b.base.stem ≠ [""] ∧ IsPlain id := by
  constructor
  · intro haddress
    obtain ⟨segment, hurl, hread⟩ := haddress
    obtain ⟨-, heq⟩ | ⟨-, heq⟩ | ⟨-, hdot, heq⟩ | ⟨hdots, -, heq⟩ := credentialRequest_cases hbase id
    · obtain ⟨-, hnames⟩ := placed_collection_eq_below_iff.1 (heq.symm.trans hurl)
      cases hnames
    · exact absurd (heq.symm.trans hurl) (placed_empty_ne_below _ _)
    · -- The empty segment reads as the empty id, which is no dot.
      obtain ⟨-, hnames⟩ := placed_collection_eq_below_iff.1 (heq.symm.trans hurl)
      cases hnames
      have hid : id.toList = [] := (Option.some.inj hread).symm
      rw [hid] at hdot
      exact absurd hdot (by decide)
    · obtain ⟨hstem, hnames⟩ := placed_collection_eq_below_iff.1 (heq.symm.trans hurl)
      cases hnames
      rw [text?_decode_written] at hread
      exact ⟨hstem, fun h => hdots (.inl h), fun h => hdots (.inr h), Option.some.inj hread⟩
  · intro h
    obtain ⟨hstem, hplain⟩ := h
    refine ⟨written (isSpecial b.base.scheme) id, ?_, ?_⟩
    · rw [credentialRequest_of_plain hbase hplain, placed_collection_eq_below_iff]
      exact ⟨hstem, rfl⟩
    · rw [text?_decode_written, hplain.2.2]

/-- Of plain ids the text of the address tells the id. -/
theorem id_of_address_text {b : Backend} (hbase : b.base.canBeBase = true) {id other : String}
    (hid : IsPlain id) (hother : IsPlain other)
    (htext : (b.credentialRequest id).url.text = (b.credentialRequest other).url.text) :
    id = other := by
  rw [credentialRequest_of_plain hbase hid, credentialRequest_of_plain hbase hother] at htext
  have hsegment := text_placed_inj ["credentials"] htext
  have hread := text?_decode_written (isSpecial b.base.scheme) id
  rw [hsegment, text?_decode_written, hid.2.2, hother.2.2] at hread
  exact String.toList_inj.1 (Option.some.inj hread).symm

/-- The request stays in the collection unless the id climbs. -/
theorem inCollection_credentialRequest_iff {b : Backend} (hbase : b.base.canBeBase = true)
    (id : String) :
    InCollection b.base (b.credentialRequest id).url ↔ b.base.stem ≠ [""] ∧ ¬ Climbs id := by
  constructor
  · intro hin
    obtain ⟨names, hurl⟩ := hin
    have hnot : ¬ Climbs id := by
      intro hclimb
      rw [credentialRequest_of_climbs hbase hclimb] at hurl
      exact placed_empty_ne_below _ _ hurl
    obtain ⟨more, heq⟩ := credentialRequest_of_not_climbs hbase hnot
    exact ⟨(placed_collection_eq_below_iff.1 (heq.symm.trans hurl)).1, hnot⟩
  · intro h
    obtain ⟨hstem, hnot⟩ := h
    obtain ⟨more, heq⟩ := credentialRequest_of_not_climbs hbase hnot
    exact ⟨more, heq.trans (placed_collection_eq_below_iff.2 ⟨hstem, rfl⟩)⟩

/-- Every id shares its address with another one. -/
theorem exists_other_credentialRequest {b : Backend} (hbase : b.base.canBeBase = true)
    (id : String) :
    ∃ other, other ≠ id ∧ (b.credentialRequest other).url = (b.credentialRequest id).url := by
  by_cases hdots : id = "." ∨ id = ".."
  · have hsame : (b.credentialRequest ".").url = (b.credentialRequest "..").url := by
      rw [credentialRequest_url hbase, credentialRequest_url hbase,
        appendSegment_of_dots (.inl rfl), appendSegment_of_dots (.inr rfl)]
    obtain rfl | rfl := hdots
    · exact ⟨"..", by decide, hsame.symm⟩
    · exact ⟨".", by decide, hsame⟩
  · refine ⟨id ++ "\t", ?_, ?_⟩
    · intro heq
      have hlength := congrArg String.length heq
      rw [String.length_append] at hlength
      have htab : "\t".length = 1 := by decide
      omega
    · rw [credentialRequest_url hbase, credentialRequest_url hbase, appendSegment_concat_tab hdots]

/-- **Where credentials are asked for.**  At every backend whose address can
be a base, getting a credential sends one request (unless the key cannot be
sent).  Its address is that of the credential exactly when the id is plain,
and it is in the collection exactly when the id does not climb; only below a
path of two slashes it is neither.  Plain ids with one address, told by its
text, are one id.  But every id shares its address with another one, of which
tabs or line breaks are not seen or which is dots, and an id that climbs asks
for what the base is in. -/
theorem credential_address (b : Backend) (id : String) (hbase : b.base.canBeBase = true) :
    (∀ r : Rehearsal, (r.perform (b.credential id)).1.requests = r.requests ++
        if (b.credentialRequest id).isSendable = true then [b.credentialRequest id] else [])
      ∧ (IsAddressOf b.base id (b.credentialRequest id).url ↔ b.base.stem ≠ [""] ∧ IsPlain id)
      ∧ (∀ other, IsPlain id → IsPlain other →
          (b.credentialRequest id).url.text = (b.credentialRequest other).url.text → id = other)
      ∧ (InCollection b.base (b.credentialRequest id).url ↔ b.base.stem ≠ [""] ∧ ¬ Climbs id)
      ∧ (Climbs id → (b.credentialRequest id).url = b.base.placed [""])
      ∧ ∃ other, other ≠ id ∧ (b.credentialRequest other).url = (b.credentialRequest id).url := by
  refine ⟨requests_perform_credential b id, isAddressOf_credentialRequest_iff hbase id, ?_,
    inCollection_credentialRequest_iff hbase id, credentialRequest_of_climbs hbase,
    exists_other_credentialRequest hbase id⟩
  intro other hid hother htext
  exact id_of_address_text hbase hid hother htext

/-- A space is written with a percent sign, below a path that ends on a
slash. -/
theorem credential_address_of_space :
    let b : Backend :=
      { base := ⟨"http", some { host := some (.domain "localhost") }, .segments ["api", ""], none,
          none⟩ }
    b.base.canBeBase = true ∧ IsPlain "a b" ∧
      IsAddressOf b.base "a b" (b.credentialRequest "a b").url ∧
      (b.credentialRequest "a b").url.text = "http://localhost/api/credentials/a%20b" := by
  intro b
  have hbase : b.base.canBeBase = true := rfl
  have hplain : IsPlain "a b" := by decide
  have hstem : b.base.stem ≠ [""] := by decide
  obtain ⟨-, haddress, -⟩ := credential_address b "a b" hbase
  exact ⟨hbase, hplain, haddress.2 ⟨hstem, hplain⟩, by decide +kernel⟩

/-- A tab is not seen: two ids share an address, and two dots behind one
leave the collection. -/
theorem credential_address_past_tab :
    let b : Backend :=
      { base := ⟨"http", some { host := some (.domain "localhost") }, .segments ["api", ""], none,
          none⟩ }
    b.base.canBeBase = true ∧
      (b.credentialRequest "a\tb").url = (b.credentialRequest "ab").url ∧
      (b.credentialRequest "a\tb").url.text = "http://localhost/api/credentials/ab" ∧
      (b.credentialRequest "\t..").url.text = "http://localhost/api/" := by
  decide +kernel

end FlowBench.Backend

import StellarOnramp.Gateway.PublishedDocuments

/-! When publishing a list of single bits succeeds. -/

namespace StellarOnramp.Gateway

open Attempts JsText Octets
open StellarOnramp.Identity

-----------------------------------------------------------------------------------------
-- Canonical text of a document
-----------------------------------------------------------------------------------------

/-- The value has a canonical text wherever it stands. -/
def Canonical (value : Json.Value) : Prop := ∀ path, ∃ text, canonicalJson path value = .ok text

theorem canonical_string (text : JsString) : Canonical (.string text) :=
  fun _ => ⟨Json.quote text, rfl⟩

/-- Item after item, by induction on the list. -/
theorem canonicalItems_succeeds (path : JsString) {items : List Json.Value}
    (each : ∀ item ∈ items, Canonical item) (position : Nat)
    : ∃ parts, canonicalItems path position items = .ok parts := by
  induction items generalizing position with
  | nil => exact ⟨[], rfl⟩
  | cons item rest ih =>
      obtain ⟨here, later⟩ := List.forall_mem_cons.mp each
      obtain ⟨part, written⟩ := here (path ++ js "[" ++ numberText position ++ js "]")
      obtain ⟨parts, more⟩ := ih later (position + 1)
      exact ⟨part :: parts, bind_eq_ok.mpr ⟨part, written, bind_eq_ok.mpr ⟨parts, more, rfl⟩⟩⟩

theorem canonical_array {items : List Json.Value} (each : ∀ item ∈ items, Canonical item)
    : Canonical (.array items) := by
  intro path
  obtain ⟨parts, written⟩ := canonicalItems_succeeds path each 0
  exact ⟨_, bind_eq_ok.mpr ⟨parts, written, rfl⟩⟩

/-- Each member is printed under its own path. -/
theorem canonicalMembers_eq (path : JsString) (members : List (JsString × Json.Value))
    : canonicalMembers path members
      = members.map
          (fun member => (member.1, canonicalJson (path ++ js "." ++ member.1) member.2)) := by
  induction members with
  | nil => rfl
  | cons member rest ih =>
      obtain ⟨key, value⟩ := member
      rw [canonicalMembers, ih]
      rfl

theorem assertKeys_eq_ok {path : JsString} {members : List (JsString × Attempt JsString)}
    (printable : ∀ member ∈ members, isPrintable member.1 = true)
    : assertKeys path members = .ok () := by
  induction members with
  | nil => rfl
  | cons member rest ih =>
      obtain ⟨key, part⟩ := member
      obtain ⟨here, later⟩ := List.forall_mem_cons.mp printable
      exact failIf_bind_eq_ok.mpr ⟨ne_false_of_eq_true here, ih later⟩

theorem canonicalParts_succeeds {members : List (JsString × Attempt JsString)}
    (each : ∀ member ∈ members, ∃ text, member.2 = .ok text)
    : ∃ parts, canonicalParts members = .ok parts := by
  induction members with
  | nil => exact ⟨[], rfl⟩
  | cons member rest ih =>
      obtain ⟨key, part⟩ := member
      obtain ⟨⟨text, written⟩, later⟩ := List.forall_mem_cons.mp each
      obtain ⟨parts, more⟩ := ih later
      exact ⟨_, bind_eq_ok.mpr ⟨text, written, bind_eq_ok.mpr ⟨parts, more, rfl⟩⟩⟩

/-- Sorting keeps the members, so an object is canonical when its members are. -/
theorem canonical_object {members : List (JsString × Json.Value)}
    (printable : ∀ member ∈ members, isPrintable member.1 = true)
    (each : ∀ member ∈ members, Canonical member.2)
    : Canonical (.object members) := by
  intro path
  have keys : assertKeys path (canonicalMembers path members) = .ok () := by
    refine assertKeys_eq_ok fun member found => ?_
    rw [canonicalMembers_eq] at found
    obtain ⟨source, here, rfl⟩ := List.mem_map.mp found
    exact printable source here
  have texts
      : ∀ member ∈ sortedByKey (canonicalMembers path members), ∃ text, member.2 = .ok text := by
    intro member found
    rw [sortedByKey, List.mem_insertionSort, canonicalMembers_eq] at found
    obtain ⟨source, here, rfl⟩ := List.mem_map.mp found
    exact each source here _
  obtain ⟨parts, written⟩ := canonicalParts_succeeds texts
  exact ⟨_, bind_eq_ok.mpr ⟨(), keys, bind_eq_ok.mpr ⟨parts, written, rfl⟩⟩⟩

/-- An object of strings under printable keys. -/
theorem canonical_strings {members : List (JsString × Json.Value)}
    (printable : (members.all (fun member => isPrintable member.1)) = true)
    (strings : ∀ member ∈ members, Canonical member.2)
    : Canonical (.object members) :=
  canonical_object (List.all_eq_true.mp printable) strings

theorem canonical_proofConfigOf (request : PublishStatusListRequest) (created : JsString)
    : Canonical (proofConfigOf request created) := by
  apply canonical_strings rfl
  simp only [List.mem_cons, List.not_mem_nil, or_false, forall_eq_or_imp, forall_eq]
  exact ⟨canonical_string _, canonical_string _, canonical_string _, canonical_string _,
    canonical_string _⟩

/-- The document has printable keys and only strings, lists and objects of them. -/
theorem canonical_unsignedDocument (request : PublishStatusListRequest)
    (purpose encodedList validFrom validUntil : JsString)
    : Canonical
        (unsignedDocument request (wireList purpose 1 encodedList) validFrom validUntil) := by
  have subject : Canonical (credentialSubject request.url (wireList purpose 1 encodedList)) := by
    apply canonical_strings rfl
    simp only [wireList, ↓reduceIte, optionalMember, List.append_nil, List.mem_cons,
      List.not_mem_nil, or_false, forall_eq_or_imp, forall_eq]
    exact ⟨canonical_string _, canonical_string _, canonical_string _, canonical_string _⟩
  have context : Canonical (.array [.string vcV2Context]) :=
    canonical_array (by simp [canonical_string])
  have kind
      : Canonical
          (.array
            [.string (js "VerifiableCredential"), .string bitstringStatusListCredentialType]) :=
    canonical_array (by simp [canonical_string])
  apply canonical_strings rfl
  simp only [List.mem_cons, List.not_mem_nil, or_false, forall_eq_or_imp, forall_eq]
  exact ⟨context, canonical_string _, kind, canonical_string _, canonical_string _,
    canonical_string _, subject⟩

/-- A document of a list of single bits can be signed, whatever its dates. -/
theorem exists_signingInput (sha256 : Bytes → Bytes) (request : PublishStatusListRequest)
    (purpose encodedList validFrom validUntil created : JsString)
    : ∃ input,
        statusListSigningInput sha256
            (unsignedDocument request (wireList purpose 1 encodedList) validFrom validUntil)
            (proofConfigOf request created)
          = .ok input := by
  obtain ⟨config, configText⟩ := canonical_proofConfigOf request created (js "$")
  obtain ⟨unsigned, unsignedText⟩ :=
    canonical_unsignedDocument request purpose encodedList validFrom validUntil (js "$")
  exact ⟨_, bind_eq_ok.mpr ⟨config, configText, bind_eq_ok.mpr ⟨unsigned, unsignedText, rfl⟩⟩⟩

-----------------------------------------------------------------------------------------
-- Success
-----------------------------------------------------------------------------------------

/-- A request that the checks of the publisher let through. -/
structure Publishable (libraries : StatusLibraries) (request : PublishStatusListRequest)
    (entries : Nat)
    : Prop where
  reachable : ∃ url, assertHttpsUrl libraries request.url (js "status list URL") = .ok url
  issuer : request.issuer ≠ []
  labelled : request.verificationMethod ≠ []
  natural : 0 ≤ request.validFromSeconds
  window : request.validFromSeconds < request.validUntil
  last : request.validUntil ≤ lastSecond
  known : request.statusPurpose ∈ statusPurposes
  single : request.statusSize = none
  counted : request.entries.getD minimumStatusListEntries = entries
  floor : minimumStatusListEntries ≤ entries
  whole : entries % 8 = 0
  buffer : entries / 8 ≤ libraries.platform.maxBufferBytes
  small : entries ≤ 2 ^ 31
  inside : ∀ index ∈ request.revoked, 0 ≤ index ∧ index < entries
  signs
    : ∃ der,
        request.signingKey.privateKey = .ok der
        ∧ ∀ message, ∃ signature, libraries.signatures.sign der message = some signature

theorem assertRevoked_eq_ok {indexes : List Number} (natural : ∀ index ∈ indexes, 0 ≤ index)
    : assertRevoked indexes = .ok () := by
  induction indexes with
  | nil => rfl
  | cons index rest ih =>
      obtain ⟨here, later⟩ := List.forall_mem_cons.mp natural
      exact failIf_bind_eq_ok.mpr ⟨not_lt.mpr here, ih later⟩

/-- Up to the last second that a date can have, a time has its text. -/
theorem toXsdDateTime_succeeds {seconds : Number} (natural : 0 ≤ seconds)
    (last : seconds ≤ lastSecond)
    : toXsdDateTime seconds = .ok (dateText seconds) :=
  failIf_bind_eq_ok.mpr ⟨not_lt.mpr natural, failIf_bind_eq_ok.mpr ⟨not_lt.mpr last, rfl⟩⟩

/-- Witness: the checks in source order; the document has a canonical text. -/
theorem Publishable.publishStatusList_succeeds {libraries : StatusLibraries}
    {request : PublishStatusListRequest} {entries : Nat}
    (publishable : Publishable libraries request entries)
    : ∃ document, publishStatusList libraries request = .ok document := by
  obtain ⟨url, reachable⟩ := publishable.reachable
  obtain ⟨der, keyed, signs⟩ := publishable.signs
  obtain ⟨list, encoded⟩ :=
    encodeStatusList_succeeds libraries.platform request.encoding publishable.known
      publishable.single publishable.counted publishable.floor publishable.whole
      publishable.buffer publishable.small publishable.inside
  obtain ⟨_, statusSize, bits, shape⟩ := encodeStatusList_eq_ok encoded
  have single : statusSize = 1 := by
    have requested : request.statusSize.getD 1 = statusSize := shape.requested
    rw [publishable.single, Option.getD_none] at requested
    exact_mod_cast requested.symm
  subst single
  obtain ⟨message, input⟩ :=
    shape.list ▸
      exists_signingInput libraries.sha256 request request.encoding.statusPurpose
        (encodedBits libraries.platform bits) (dateText request.validFromSeconds)
        (dateText request.validUntil) (dateText request.validFromSeconds)
  obtain ⟨signature, signed⟩ := signs message
  have later : 0 ≤ request.validUntil := publishable.natural.trans publishable.window.le
  have early : request.validFromSeconds ≤ lastSecond :=
    publishable.window.le.trans publishable.last
  have fromText := toXsdDateTime_succeeds publishable.natural early
  have untilText := toXsdDateTime_succeeds later publishable.last
  refine ⟨signedDocument request list signature, ?_⟩
  refine bind_eq_ok.mpr ⟨url, reachable, failIf_bind_eq_ok.mpr ⟨publishable.issuer, ?_⟩⟩
  refine failIf_bind_eq_ok.mpr ⟨publishable.labelled, ?_⟩
  refine failIf_bind_eq_ok.mpr ⟨not_lt.mpr publishable.natural, ?_⟩
  refine failIf_bind_eq_ok.mpr ⟨not_le.mpr publishable.window, ?_⟩
  refine bind_eq_ok.mpr
    ⟨(), assertRevoked_eq_ok fun index member => (publishable.inside index member).1, ?_⟩
  refine bind_eq_ok.mpr ⟨list, encoded, bind_eq_ok.mpr ⟨_, fromText, ?_⟩⟩
  refine bind_eq_ok.mpr ⟨_, untilText, bind_eq_ok.mpr ⟨_, fromText, ?_⟩⟩
  refine bind_eq_ok.mpr ⟨der, keyed, bind_eq_ok.mpr ⟨_, input, ?_⟩⟩
  exact bind_eq_ok.mpr ⟨signature, throwing_eq_ok.mpr signed, rfl⟩

end StellarOnramp.Gateway

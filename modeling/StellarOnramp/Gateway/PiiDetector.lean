import Mathlib.Data.List.Infix
import StellarOnramp.Library.ObjectWalk
import StellarOnramp.Library.TextSearch

/-! The detector for personal data: an artefact is flattened into text, and the octets of that
text are searched for four forms of each secret.
-/

namespace StellarOnramp.Gateway.Pii

open JsText ObjectWalk Octets TextSearch

-----------------------------------------------------------------------------------------
-- Artefacts
-----------------------------------------------------------------------------------------

/-- Any value. `other` is a number, a boolean, a bigint, a symbol or a function, with the text
that `String()` gives of it.
-/
inductive Artefact (Ref : Type) where
  | nullish
  | str (text : JsString)
  | other (text : JsString)
  | object (ref : Ref)
  deriving DecidableEq

/-- What the search reads of an object; members are its own enumerable properties. -/
inductive Contents (Ref : Type) where
  | octets (octets : Bytes)
  | error (name message : JsString) (stack : Option JsString) (cause : Artefact Ref)
      (members : List (JsString × Artefact Ref))
  | array (items : List (Artefact Ref))
  | map (entries : List (Artefact Ref × Artefact Ref))
  | set (items : List (Artefact Ref))
  | record (members : List (JsString × Artefact Ref))

variable {Ref : Type}

def collectMember (member : JsString × Artefact Ref) : List (Action (Artefact Ref) JsString) :=
  [.emit member.1, .visit member.2]

def collectEntry (entry : Artefact Ref × Artefact Ref) : List (Action (Artefact Ref) JsString) :=
  [.visit entry.1, .visit entry.2]

/-- The binary text of octets, and their hexadecimal text. -/
def collectContents : Contents Ref → List (Action (Artefact Ref) JsString)
  | .octets octets => [.emit (ofOctets octets), .emit (bytesToHex octets)]
  | .error name message stack cause members =>
      [.emit name, .emit message, .emit (stack.getD []), .visit cause]
        ++ members.flatMap collectMember
  | .array items => items.map .visit
  | .map entries => entries.flatMap collectEntry
  | .set items => items.map .visit
  | .record members => members.flatMap collectMember

/-- One call of `collect`. -/
def collectWalk (objects : Ref → Contents Ref) : Walk (Artefact Ref) JsString where
  tracked
    | .object _ => true
    | _ => false
  actions
    | .nullish => []
    | .str text => [.emit text]
    | .other text => [.emit text]
    | .object ref => collectContents (objects ref)

/-- A call at depth 12 is the last. -/
def auditLevels : Nat := 13

/-- The parts are joined with `NUL`. -/
def auditBytes [DecidableEq Ref] (objects : Ref → Contents Ref) (value : Artefact Ref) : Bytes :=
  utf8ToBytes (join 0 ((collectWalk objects).collect auditLevels [] value).1)

-----------------------------------------------------------------------------------------
-- Encodings
-----------------------------------------------------------------------------------------

inductive PiiEncoding where
  | utf8
  | hexAscii
  | base64Ascii
  | sha256
  deriving DecidableEq

/-- What the octets are searched for. -/
def candidates (sha256 : Bytes → BytesN 32) (raw : Bytes) : List (PiiEncoding × Bytes) :=
  [
    (.utf8, raw),
    (.hexAscii, hexText raw),
    (.base64Ascii, base64Text raw),
    (.sha256, (sha256 raw).val)
  ]

def findEncodings (sha256 : Bytes → BytesN 32) (haystack : Bytes) (secret : JsString)
    : List PiiEncoding :=
  let raw := utf8ToBytes secret
  if raw = [] then
    []
  else
    ((candidates sha256 raw).filter (fun candidate => candidate.2 <:+: haystack)).map Prod.fst

/-- The strings at a place: a string itself, the keys of an object, the texts of an error. -/
def Artefact.texts (objects : Ref → Contents Ref) : Artefact Ref → List JsString
  | .str text => [text]
  | .object ref =>
      match objects ref with
      | .record members => members.map Prod.fst
      | .error name message stack _ members =>
          name :: message :: (stack.toList ++ members.map Prod.fst)
      | _ => []
  | _ => []

/-- The octets at a place. -/
def Artefact.octets (objects : Ref → Contents Ref) : Artefact Ref → Option Bytes
  | .object ref =>
      match objects ref with
      | .octets octets => some octets
      | _ => none
  | _ => none

/-- The leaks that no other content can hide. The digest in hexadecimal is not among them, and
the digest of a byte array only where all its octets are ASCII.
-/
def ShowsAt (sha256 : Bytes → BytesN 32) (objects : Ref → Contents Ref) (secret : JsString)
    (place : Artefact Ref)
    : Prop :=
  let raw := utf8ToBytes secret
  (∃ text ∈ place.texts objects,
      HeldWhole secret text
      ∨ bytesToHex raw <:+: text
      ∨ ofOctets (base64Text raw) <:+: text)
  ∨ ∃ octets, place.octets objects = some octets
      ∧ (raw <:+: octets ∨ isAscii (sha256 raw).val = true ∧ (sha256 raw).val <:+: octets)

/-- A route of at most twelve steps leads to a leak that nothing hides, and no object on it lies
so far away on another one that the rest of the route would go past twelve steps.
-/
def Shows (sha256 : Bytes → BytesN 32) (objects : Ref → Contents Ref) (artefact : Artefact Ref)
    (secret : JsString)
    : Prop :=
  ∃ place,
    (collectWalk objects).Sure (12 + 1) artefact 0 place ∧ ShowsAt sha256 objects secret place

-----------------------------------------------------------------------------------------
-- What the detector finds
-----------------------------------------------------------------------------------------

section

variable {sha256 : Bytes → BytesN 32} {haystack : Bytes} {secret what : JsString}

theorem findEncodings_ne_nil (filled : secret ≠ [])
    : findEncodings sha256 haystack secret ≠ []
      ↔ ∃ needle ∈ (candidates sha256 (utf8ToBytes secret)).map Prod.snd,
          needle <:+: haystack := by
  rw [findEncodings, if_neg (utf8ToBytes_ne_nil filled), Ne, List.map_eq_nil_iff,
    List.filter_eq_nil_iff]
  simp only [decide_eq_true_eq, List.mem_map, exists_exists_and_eq_and]
  push Not
  rfl

end

section

variable {objects : Ref → Contents Ref} {place : Artefact Ref}

/-- The strings of a place are among its parts. -/
theorem emit_of_mem_texts {text : JsString} (found : text ∈ place.texts objects)
    : .emit text ∈ (collectWalk objects).actions place := by
  have key {members : List (JsString × Artefact Ref)} (held : text ∈ members.map Prod.fst)
      : .emit text ∈ members.flatMap collectMember := by
    obtain ⟨member, listed, rfl⟩ := List.mem_map.mp held
    exact List.mem_flatMap.mpr ⟨member, listed, List.mem_cons_self⟩
  cases place with
  | nullish => cases found
  | other _ => cases found
  | str own =>
      obtain rfl := List.mem_singleton.mp found
      exact List.mem_cons_self
  | object ref =>
      change .emit text ∈ collectContents (objects ref)
      simp only [Artefact.texts] at found
      cases held : objects ref with
      | octets _ => simp [held] at found
      | array _ => simp [held] at found
      | map _ => simp [held] at found
      | set _ => simp [held] at found
      | record members =>
          rw [held] at found
          exact key found
      | error name message stack cause members =>
          rw [held] at found
          simp only [List.mem_cons, List.mem_append, Option.mem_toList] at found
          simp only [collectContents, List.mem_append, List.mem_cons, Action.emit.injEq]
          rcases found with rfl | rfl | rfl | member
          · simp
          · simp
          · simp
          · exact .inr (key member)

theorem emit_of_octets {octets : Bytes} (found : place.octets objects = some octets)
    : .emit (ofOctets octets) ∈ (collectWalk objects).actions place
      ∧ .emit (bytesToHex octets) ∈ (collectWalk objects).actions place := by
  cases place with
  | object ref =>
      change .emit _ ∈ collectContents (objects ref) ∧ .emit _ ∈ collectContents (objects ref)
      simp only [Artefact.octets] at found
      cases held : objects ref with
      | octets own =>
          rw [held] at found
          obtain rfl := Option.some.inj found
          simp [collectContents]
      | _ => simp [held] at found
  | _ => cases found

end

section

variable [DecidableEq Ref] {sha256 : Bytes → BytesN 32} {objects : Ref → Contents Ref}
  {artefact place : Artefact Ref} {secret : JsString}

/-- The parts are written one by one. -/
theorem auditBytes_eq
    : auditBytes objects artefact
      = join 0 (((collectWalk objects).collect auditLevels [] artefact).1.map utf8ToBytes) :=
  utf8ToBytes_join (by decide) _

/-- A needle in the text of a place that the search enters is found. -/
theorem infix_auditBytes {needle : Bytes} {part : JsString}
    (entered : place ∈ (collectWalk objects).entered auditLevels artefact)
    (pushed : .emit part ∈ (collectWalk objects).actions place)
    (inside : needle <:+: utf8ToBytes part)
    : needle <:+: auditBytes objects artefact := by
  rw [auditBytes_eq]
  refine inside.trans (infix_join (List.mem_map_of_mem ?_))
  exact Walk.mem_collect_iff.mpr ⟨place, entered, pushed⟩

/-- A leak that nothing hides is found at every place that the search enters. -/
theorem ShowsAt.found (filled : secret ≠ [])
    (entered : place ∈ (collectWalk objects).entered auditLevels artefact)
    (shows : ShowsAt sha256 objects secret place)
    : findEncodings sha256 (auditBytes objects artefact) secret ≠ [] := by
  have raw := utf8ToBytes_ne_nil filled
  have caught (needle : Bytes) {part : JsString}
      (sought : needle ∈ (candidates sha256 (utf8ToBytes secret)).map Prod.snd)
      (pushed : .emit part ∈ (collectWalk objects).actions place)
      (inside : needle <:+: utf8ToBytes part)
      : findEncodings sha256 (auditBytes objects artefact) secret ≠ [] :=
    (findEncodings_ne_nil filled).mpr ⟨needle, sought, infix_auditBytes entered pushed inside⟩
  rcases shows with ⟨text, found, held⟩ | ⟨octets, found, held⟩
  · have pushed := emit_of_mem_texts found
    rcases held with whole | hex | base64
    · exact caught _ (by simp [candidates]) pushed (whole.lies_within filled)
    · exact caught (hexText _) (by simp [candidates]) pushed
        (infix_utf8ToBytes_of_ascii (isAscii_hexText _) (hexText_ne_nil raw) hex)
    · exact caught (base64Text _) (by simp [candidates]) pushed
        (infix_utf8ToBytes_of_ascii (isAscii_base64Text _) (base64Text_ne_nil raw) base64)
  · obtain ⟨binary, hexadecimal⟩ := emit_of_octets found
    rcases held with plain | ⟨ascii, digest⟩
    · refine caught (hexText (utf8ToBytes secret)) (by simp [candidates]) hexadecimal ?_
      rw [utf8ToBytes_bytesToHex]
      exact hexText_infix plain
    · refine caught (sha256 (utf8ToBytes secret)).val (by simp [candidates]) binary ?_
      exact infix_utf8ToBytes_ofOctets ascii
        (List.ne_nil_of_length_pos (by rw [(sha256 _).property]; decide)) digest

end

end StellarOnramp.Gateway.Pii

import StellarOnramp.Gateway.PublishSuccess
import StellarOnramp.Identity.Binding
import StellarOnramp.Library.JsonOrder
import StellarOnramp.Library.Utf8

/-! What the canonical text of a value says, and what the octets under a signature fix. -/

namespace StellarOnramp.Gateway

open Attempts JsNumber JsText Octets
open Json (SameUpToOrder sorted sortedItems sortedMembers sortMembers stringify stringifyItems
  stringifyMembers)
open StellarOnramp.Identity

-----------------------------------------------------------------------------------------
-- Any value
-----------------------------------------------------------------------------------------

/-- A value that code can pass, without cycles. The keys of an object are distinct. -/
inductive JsValue where
  | undefined
  | null
  | boolean (value : Bool)
  | number (value : Int)
  /-- A number that is not an integer, as its text. -/
  | fraction (text : JsString)
  | string (text : JsString)
  | array (items : List JsValue)
  | object (members : List (JsString × JsValue))
  /-- A function, a symbol or a bigint, by its `typeof`. -/
  | other (typeName : JsString)

namespace JsValue

def isUndefined : JsValue → Bool
  | undefined => true
  | _ => false

def notJson (path typeName : JsString) : Failure :=
  refusingToCanonicalise path (typeName ++ js " is not a JSON value")

mutual

/-- `canonicalJson` for any value; a member that is undefined is left out. -/
def canonicalJson (path : JsString) : JsValue → Attempt JsString
  | .null => .ok (js "null")
  | .boolean value => .ok (if value then js "true" else js "false")
  | .number value => do
      failIf (value < 0 ∨ ¬ isSafeInteger value) (refusingToCanonicalise path numberComplaint)
      .ok (numberText value)
  | .fraction _ => .error (refusingToCanonicalise path numberComplaint)
  | .string text => .ok (Json.quote text)
  | .array items => do
      let parts ← canonicalItems path 0 items
      .ok (js "[" ++ Json.joined parts ++ js "]")
  | .object members => do
      let members := canonicalMembers path members
      assertKeys path members
      let parts ← canonicalParts (sortedByKey members)
      .ok (js "\x7b" ++ Json.joined parts ++ js "\x7d")
  | .undefined => .error (notJson path (js "undefined"))
  | .other typeName => .error (notJson path typeName)

def canonicalItems (path : JsString) (position : Nat) : List JsValue → Attempt (List JsString)
  | [] => .ok []
  | item :: rest => do
      let part ← canonicalJson (path ++ js "[" ++ numberText position ++ js "]") item
      let parts ← canonicalItems path (position + 1) rest
      .ok (part :: parts)

def canonicalMembers (path : JsString)
    : List (JsString × JsValue) → List (JsString × Attempt JsString)
  | [] => []
  | (key, value) :: rest =>
      if value.isUndefined then
        canonicalMembers path rest
      else
        (key, canonicalJson (path ++ js "." ++ key) value) :: canonicalMembers path rest

end

mutual

/-- The JSON value, when there is one: undefined members are ignored. -/
def toJson : JsValue → Option Json.Value
  | .undefined => none
  | .null => some .null
  | .boolean value => some (.boolean value)
  | .number value => some (.number value)
  | .fraction text => some (.fraction text)
  | .string text => some (.string text)
  | .array items => (toJsonItems items).map .array
  | .object members => (toJsonMembers members).map .object
  | .other _ => none

def toJsonItems : List JsValue → Option (List Json.Value)
  | [] => some []
  | item :: rest => do
      let item ← toJson item
      let rest ← toJsonItems rest
      some (item :: rest)

def toJsonMembers : List (JsString × JsValue) → Option (List (JsString × Json.Value))
  | [] => some []
  | (key, value) :: rest =>
      if value.isUndefined then
        toJsonMembers rest
      else do
        let value ← toJson value
        let rest ← toJsonMembers rest
        some ((key, value) :: rest)

end

mutual

/-- No object has two members with one key. -/
def Distinct : JsValue → Prop
  | .array items => DistinctItems items
  | .object members => (members.map Prod.fst).Nodup ∧ DistinctMembers members
  | _ => True

def DistinctItems : List JsValue → Prop
  | [] => True
  | item :: rest => Distinct item ∧ DistinctItems rest

def DistinctMembers : List (JsString × JsValue) → Prop
  | [] => True
  | (_, value) :: rest => Distinct value ∧ DistinctMembers rest

end

mutual

/-- A JSON value is one that code can pass. -/
def ofJson : Json.Value → JsValue
  | .null => .null
  | .boolean value => .boolean value
  | .number value => .number value
  | .fraction text => .fraction text
  | .string text => .string text
  | .array items => .array (ofJsonItems items)
  | .object members => .object (ofJsonMembers members)

def ofJsonItems : List Json.Value → List JsValue
  | [] => []
  | item :: rest => ofJson item :: ofJsonItems rest

def ofJsonMembers : List (JsString × Json.Value) → List (JsString × JsValue)
  | [] => []
  | (key, value) :: rest => (key, ofJson value) :: ofJsonMembers rest

end

theorem isUndefined_ofJson (value : Json.Value) : (ofJson value).isUndefined = false := by
  cases value <;> rfl

mutual

/-- A JSON value is left as it is, by induction on it. -/
theorem toJson_ofJson : ∀ value : Json.Value, (ofJson value).toJson = some value
  | .null => rfl
  | .boolean _ => rfl
  | .number _ => rfl
  | .fraction _ => rfl
  | .string _ => rfl
  | .array items => congrArg (Option.map Json.Value.array) (toJsonItems_ofJsonItems items)
  | .object members =>
      congrArg (Option.map Json.Value.object) (toJsonMembers_ofJsonMembers members)

theorem toJsonItems_ofJsonItems
    : ∀ items : List Json.Value, toJsonItems (ofJsonItems items) = some items
  | [] => rfl
  | item :: rest => by
      rw [ofJsonItems, toJsonItems, toJson_ofJson item, toJsonItems_ofJsonItems rest]
      rfl

theorem toJsonMembers_ofJsonMembers
    : ∀ members : List (JsString × Json.Value), toJsonMembers (ofJsonMembers members) = some members
  | [] => rfl
  | (key, value) :: rest => by
      rw [ofJsonMembers, toJsonMembers, isUndefined_ofJson, if_neg Bool.false_ne_true,
        toJson_ofJson value, toJsonMembers_ofJsonMembers rest]
      rfl

end

mutual

/-- On a JSON value the two functions agree, errors included. -/
theorem canonicalJson_ofJson
    : ∀ (value : Json.Value) (path : JsString),
        (ofJson value).canonicalJson path = Gateway.canonicalJson path value
  | .null, _ => rfl
  | .boolean _, _ => rfl
  | .number _, _ => rfl
  | .fraction _, _ => rfl
  | .string _, _ => rfl
  | .array items, path => by
      rw [ofJson, canonicalJson, canonicalItems_ofJsonItems items path 0]
      rfl
  | .object members, path => by
      rw [ofJson, canonicalJson, canonicalMembers_ofJsonMembers members path]
      rfl

theorem canonicalItems_ofJsonItems
    : ∀ (items : List Json.Value) (path : JsString) (position : Nat),
        canonicalItems path position (ofJsonItems items)
        = Gateway.canonicalItems path position items
  | [], _, _ => rfl
  | item :: rest, path, position => by
      rw [ofJsonItems, canonicalItems, canonicalJson_ofJson item,
        canonicalItems_ofJsonItems rest]
      rfl

theorem canonicalMembers_ofJsonMembers
    : ∀ (members : List (JsString × Json.Value)) (path : JsString),
        canonicalMembers path (ofJsonMembers members) = Gateway.canonicalMembers path members
  | [], _ => rfl
  | (key, value) :: rest, path => by
      rw [ofJsonMembers, canonicalMembers, isUndefined_ofJson, if_neg Bool.false_ne_true,
        canonicalJson_ofJson value, canonicalMembers_ofJsonMembers rest]
      rfl

end

end JsValue

-----------------------------------------------------------------------------------------
-- The text of a value
-----------------------------------------------------------------------------------------

mutual

/-- The subset that has a canonical text. -/
def Accepted : Json.Value → Prop
  | .number value => 0 ≤ value ∧ value ≤ 2 ^ 53 - 1
  | .fraction _ => False
  | .array items => AcceptedItems items
  | .object members =>
      (∀ member ∈ members, isPrintable member.1 = true) ∧ AcceptedMembers members
  | _ => True

def AcceptedItems : List Json.Value → Prop
  | [] => True
  | item :: rest => Accepted item ∧ AcceptedItems rest

def AcceptedMembers : List (JsString × Json.Value) → Prop
  | [] => True
  | (_, value) :: rest => Accepted value ∧ AcceptedMembers rest

end

theorem stringifyMembers_eq (members : List (JsString × Json.Value))
    : stringifyMembers members
      = members.map fun member => Json.quote member.1 ++ js ":" ++ stringify member.2 := by
  induction members with
  | nil => rfl
  | cons member rest ih =>
      rw [List.map_cons, ← ih]
      rfl

/-- The parts of an object are written when each of its members is. -/
theorem canonicalParts_eq_ok {members : List (JsString × Attempt JsString)}
    {parts : List JsString}
    : canonicalParts members = .ok parts
      ↔ ∃ texts : List (JsString × JsString),
          members = texts.map (fun member => (member.1, .ok member.2))
          ∧ parts = texts.map fun member => Json.quote member.1 ++ js ":" ++ member.2 := by
  induction members generalizing parts with
  | nil =>
      constructor
      · intro written
        cases written
        exact ⟨[], rfl, rfl⟩
      · intro written
        obtain ⟨texts, none, rfl⟩ := written
        obtain rfl := List.map_eq_nil_iff.mp none.symm
        rfl
  | cons member rest ih =>
      obtain ⟨key, attempt⟩ := member
      rw [canonicalParts, bind_eq_ok]
      constructor
      · intro written
        obtain ⟨text, here, written⟩ := written
        obtain ⟨later, there, rfl⟩ := bind_ok_eq_ok.mp written
        obtain ⟨texts, rfl, rfl⟩ := ih.mp there
        exact ⟨(key, text) :: texts, by rw [here, List.map_cons], rfl⟩
      · intro written
        obtain ⟨texts, same, rfl⟩ := written
        obtain ⟨⟨key', text⟩, texts, rfl, member, rest⟩ := List.map_eq_cons_iff.mp same.symm
        obtain ⟨rfl, rfl⟩ := Prod.mk.inj member
        exact ⟨text, rfl, bind_ok_eq_ok.mpr ⟨_, ih.mpr ⟨texts, rest.symm, rfl⟩, rfl⟩⟩

theorem assertKeys_eq_ok_iff {path : JsString} {members : List (JsString × Attempt JsString)}
    : assertKeys path members = .ok () ↔ ∀ member ∈ members, isPrintable member.1 = true := by
  refine ⟨?_, assertKeys_eq_ok⟩
  induction members with
  | nil =>
      intro _ member held
      cases held
  | cons member rest ih =>
      intro passed
      obtain ⟨printable, passed⟩ := failIf_bind_eq_ok.mp passed
      exact List.forall_mem_cons.mpr ⟨Bool.eq_true_of_not_eq_false printable, ih passed⟩

theorem stringify_sorted_object (members : List (JsString × Json.Value))
    : stringify (sorted (.object members))
      = js "\x7b"
          ++ Json.joined ((sortMembers members).map fun member =>
            Json.quote member.1 ++ js ":" ++ stringify (sorted member.2))
          ++ js "\x7d" := by
  rw [sorted, stringify, Json.sortedMembers_eq, Json.sortMembers_map, stringifyMembers_eq,
    List.map_map]
  rfl

/-- A member that has been written. -/
def written (member : JsString × JsString) : JsString × Attempt JsString :=
  (member.1, .ok member.2)

theorem written_injective : Function.Injective written := by
  intro left right same
  obtain ⟨key, text⟩ := Prod.mk.inj same
  exact Prod.ext key (Except.ok.inj text)

theorem sortedByKey_map_written (texts : List (JsString × JsString))
    : sortedByKey (texts.map written) = (sortMembers texts).map written :=
  Json.sortMembers_map Except.ok texts

/-- An object is written when each of its members is, in the order of the keys. -/
theorem object_eq_ok {path text : JsString} {members : List (JsString × Attempt JsString)}
    : (do
        assertKeys path members
        let parts ← canonicalParts (sortedByKey members)
        .ok (js "\x7b" ++ Json.joined parts ++ js "\x7d"))
        = Except.ok text
      ↔ (∀ member ∈ members, isPrintable member.1 = true)
        ∧ ∃ texts : List (JsString × JsString),
            members = texts.map written
            ∧ text
              = js "\x7b"
                  ++ Json.joined ((sortMembers texts).map fun member =>
                    Json.quote member.1 ++ js ":" ++ member.2)
                  ++ js "\x7d" := by
  rw [bind_eq_ok]
  constructor
  · intro passed
    obtain ⟨⟨⟩, keys, passed⟩ := passed
    obtain ⟨parts, parted, rfl⟩ := bind_ok_eq_ok.mp passed
    obtain ⟨inOrder, same, rfl⟩ := canonicalParts_eq_ok.mp parted
    have order : members.Perm (inOrder.map written) :=
      (Json.sortMembers_perm members).symm.trans (.of_eq same)
    obtain ⟨texts, -, rfl⟩ := Json.exists_perm_of_map_perm order
    rw [sortedByKey_map_written] at same
    have ordered := written_injective.list_map same
    exact ⟨assertKeys_eq_ok_iff.mp keys, texts, rfl, by rw [ordered]⟩
  · intro shape
    obtain ⟨keys, texts, rfl, rfl⟩ := shape
    refine ⟨(), assertKeys_eq_ok_iff.mpr keys, bind_ok_eq_ok.mpr ⟨_, ?_, rfl⟩⟩
    exact canonicalParts_eq_ok.mpr ⟨sortMembers texts, sortedByKey_map_written texts, rfl⟩

namespace JsValue

/-- The text of a value with no parts. -/
theorem atom_eq_ok {json : Json.Value} {text : JsString} (accepted : Accepted json)
    : (.ok (stringify (sorted json)) : Attempt JsString) = .ok text
      ↔ ∃ found, some json = some found ∧ Accepted found ∧ text = stringify (sorted found) := by
  constructor
  · intro same
    exact ⟨json, rfl, accepted, (Except.ok.inj same).symm⟩
  · intro shape
    obtain ⟨found, same, -, rfl⟩ := shape
    rw [Option.some.inj same]

theorem refused_eq_ok {failure : Failure} {text : JsString}
    : (.error failure : Attempt JsString) = .ok text
      ↔ ∃ found, none = some found ∧ Accepted found ∧ text = stringify (sorted found) := by
  constructor
  · intro same
    cases same
  · intro shape
    obtain ⟨found, same, -⟩ := shape
    cases same

mutual

/-- A value has a canonical text exactly when it is JSON of the subset, and then the text is
that of its normal form. By induction on the value.
-/
theorem canonicalJson_eq_ok
    : ∀ (value : JsValue) (path text : JsString),
        value.canonicalJson path = .ok text
        ↔ ∃ json, value.toJson = some json ∧ Accepted json ∧ text = stringify (sorted json)
  | .undefined, _, _ => refused_eq_ok
  | .other _, _, _ => refused_eq_ok
  | .null, _, text => @atom_eq_ok .null text trivial
  | .boolean value, _, text => @atom_eq_ok (.boolean value) text trivial
  | .string content, _, text => @atom_eq_ok (.string content) text trivial
  | .number value, path, text => by
      rw [canonicalJson, failIf_bind_eq_ok]
      constructor
      · intro passed
        obtain ⟨small, written⟩ := passed
        obtain ⟨natural, safe⟩ := not_or.mp small
        have bound : value.natAbs ≤ 2 ^ 53 - 1 := not_not.mp safe
        exact ⟨.number value, rfl, ⟨by omega, by omega⟩, (Except.ok.inj written).symm⟩
      · intro shape
        obtain ⟨found, read, accepted, rfl⟩ := shape
        obtain rfl := Option.some.inj read
        obtain ⟨natural, bound⟩ := accepted
        have safe : value.natAbs ≤ 2 ^ 53 - 1 := by omega
        exact ⟨not_or.mpr ⟨not_lt.mpr natural, not_not.mpr safe⟩, rfl⟩
  | .fraction literal, path, text => by
      constructor
      · intro written
        cases written
      · intro shape
        obtain ⟨found, read, accepted, -⟩ := shape
        obtain rfl := Option.some.inj read
        exact accepted.elim
  | .array items, path, text => by
      rw [canonicalJson, bind_ok_eq_ok]
      constructor
      · intro written
        obtain ⟨parts, written, rfl⟩ := written
        obtain ⟨json, read, accepted, rfl⟩ := (canonicalItems_eq_ok items path 0 parts).mp written
        exact ⟨.array json, by rw [toJson, read]; rfl, accepted, rfl⟩
      · intro shape
        obtain ⟨found, read, accepted, rfl⟩ := shape
        obtain ⟨json, inner, rfl⟩ := Option.map_eq_some_iff.mp read
        exact ⟨_, (canonicalItems_eq_ok items path 0 _).mpr ⟨json, inner, accepted, rfl⟩, rfl⟩
  | .object members, path, text => by
      rw [canonicalJson]
      apply object_eq_ok.trans
      constructor
      · intro shape
        obtain ⟨keys, texts, same, rfl⟩ := shape
        obtain ⟨json, read, accepted, rfl⟩ := (canonicalMembers_eq_texts members path texts).mp same
        refine ⟨.object json, by rw [toJson, read]; rfl, ⟨?_, accepted⟩, ?_⟩
        · intro member held
          rw [same, List.map_map] at keys
          exact keys _ (List.mem_map_of_mem held)
        · rw [stringify_sorted_object, Json.sortMembers_map fun value => stringify (sorted value),
            List.map_map]
          rfl
      · intro shape
        obtain ⟨found, read, accepted, rfl⟩ := shape
        obtain ⟨json, inner, rfl⟩ := Option.map_eq_some_iff.mp read
        have same := (canonicalMembers_eq_texts members path _).mpr ⟨json, inner, accepted.2, rfl⟩
        refine ⟨?_, _, same, ?_⟩
        · intro member held
          rw [same, List.map_map] at held
          obtain ⟨source, here, rfl⟩ := List.mem_map.mp held
          exact accepted.1 source here
        · rw [stringify_sorted_object, Json.sortMembers_map fun value => stringify (sorted value),
            List.map_map]
          rfl

theorem canonicalItems_eq_ok
    : ∀ (items : List JsValue) (path : JsString) (position : Nat) (parts : List JsString),
        canonicalItems path position items = .ok parts
        ↔ ∃ json,
            toJsonItems items = some json
            ∧ AcceptedItems json
            ∧ parts = stringifyItems (sortedItems json)
  | [], _, _, parts => by
      constructor
      · intro written
        exact ⟨[], rfl, trivial, (Except.ok.inj written).symm⟩
      · intro shape
        obtain ⟨json, read, -, rfl⟩ := shape
        obtain rfl := Option.some.inj read
        rfl
  | item :: rest, path, position, parts => by
      rw [canonicalItems, bind_eq_ok]
      constructor
      · intro written
        obtain ⟨part, here, written⟩ := written
        obtain ⟨later, there, rfl⟩ := bind_ok_eq_ok.mp written
        obtain ⟨value, read, accepted, rfl⟩ := (canonicalJson_eq_ok item _ part).mp here
        obtain ⟨values, reads, accepteds, rfl⟩ := (canonicalItems_eq_ok rest path _ later).mp there
        exact ⟨value :: values, by rw [toJsonItems, read, reads]; rfl, ⟨accepted, accepteds⟩, rfl⟩
      · intro shape
        obtain ⟨json, read, accepted, rfl⟩ := shape
        rw [toJsonItems] at read
        obtain ⟨value, here, read⟩ := Option.bind_eq_some_iff.mp read
        obtain ⟨values, there, read⟩ := Option.bind_eq_some_iff.mp read
        obtain rfl := Option.some.inj read
        refine ⟨_, (canonicalJson_eq_ok item _ _).mpr ⟨value, here, accepted.1, rfl⟩, ?_⟩
        exact bind_ok_eq_ok.mpr
          ⟨_, (canonicalItems_eq_ok rest path _ _).mpr ⟨values, there, accepted.2, rfl⟩, rfl⟩

theorem canonicalMembers_eq_texts
    : ∀ (members : List (JsString × JsValue)) (path : JsString)
        (texts : List (JsString × JsString)),
        canonicalMembers path members = texts.map written
        ↔ ∃ json,
            toJsonMembers members = some json
            ∧ AcceptedMembers json
            ∧ texts = json.map fun member => (member.1, stringify (sorted member.2))
  | [], _, texts => by
      constructor
      · intro same
        exact ⟨[], rfl, trivial, List.map_eq_nil_iff.mp same.symm⟩
      · intro shape
        obtain ⟨json, read, -, rfl⟩ := shape
        obtain rfl := Option.some.inj read
        rfl
  | (key, value) :: rest, path, texts => by
      rw [canonicalMembers, toJsonMembers]
      split
      case isTrue => exact canonicalMembers_eq_texts rest path texts
      case isFalse =>
        constructor
        · intro same
          obtain ⟨⟨key, text⟩, later, rfl, member, there⟩ := List.map_eq_cons_iff.mp same.symm
          obtain ⟨rfl, here⟩ := Prod.mk.inj member
          obtain ⟨json, read, accepted, rfl⟩ := (canonicalJson_eq_ok value _ text).mp here.symm
          obtain ⟨others, reads, accepteds, rfl⟩ :=
            (canonicalMembers_eq_texts rest path later).mp there.symm
          exact ⟨(key, json) :: others, by rw [read, reads]; rfl, ⟨accepted, accepteds⟩, rfl⟩
        · intro shape
          obtain ⟨json, read, accepted, rfl⟩ := shape
          obtain ⟨found, here, read⟩ := Option.bind_eq_some_iff.mp read
          obtain ⟨others, there, read⟩ := Option.bind_eq_some_iff.mp read
          obtain rfl := Option.some.inj read
          rw [(canonicalJson_eq_ok value _ _).mpr ⟨found, here, accepted.1, rfl⟩,
            (canonicalMembers_eq_texts rest path _).mpr ⟨others, there, accepted.2, rfl⟩]
          rfl

end

mutual

/-- The keys of the JSON value are those of the members that are kept. -/
theorem Distinct.toJson
    : ∀ {value : JsValue} {json : Json.Value},
        Distinct value → value.toJson = some json → Json.Distinct json
  | .array items, _, distinct, read => by
      obtain ⟨json, inner, rfl⟩ := Option.map_eq_some_iff.mp read
      exact DistinctItems.toJson distinct inner
  | .object members, _, distinct, read => by
      obtain ⟨json, inner, rfl⟩ := Option.map_eq_some_iff.mp read
      obtain ⟨kept, each⟩ := DistinctMembers.toJson distinct.2 inner
      exact ⟨kept.nodup distinct.1, each⟩
  | .undefined, _, _, read => by cases read
  | .other _, _, _, read => by cases read
  | .null, _, _, read => Option.some.inj read ▸ trivial
  | .boolean _, _, _, read => Option.some.inj read ▸ trivial
  | .number _, _, _, read => Option.some.inj read ▸ trivial
  | .fraction _, _, _, read => Option.some.inj read ▸ trivial
  | .string _, _, _, read => Option.some.inj read ▸ trivial

theorem DistinctItems.toJson
    : ∀ {items : List JsValue} {json : List Json.Value},
        DistinctItems items → toJsonItems items = some json → Json.DistinctItems json
  | [], _, _, read => Option.some.inj read ▸ trivial
  | item :: rest, _, distinct, read => by
      obtain ⟨value, here, read⟩ := Option.bind_eq_some_iff.mp read
      obtain ⟨values, there, read⟩ := Option.bind_eq_some_iff.mp read
      obtain rfl := Option.some.inj read
      exact ⟨Distinct.toJson distinct.1 here, DistinctItems.toJson distinct.2 there⟩

theorem DistinctMembers.toJson
    : ∀ {members : List (JsString × JsValue)} {json : List (JsString × Json.Value)},
        DistinctMembers members
        → toJsonMembers members = some json
        → (json.map Prod.fst).Sublist (members.map Prod.fst) ∧ Json.DistinctMembers json
  | [], _, _, read => Option.some.inj read ▸ ⟨.slnil, trivial⟩
  | (key, value) :: rest, _, distinct, read => by
      rw [toJsonMembers] at read
      split at read
      case isTrue =>
        obtain ⟨kept, each⟩ := DistinctMembers.toJson distinct.2 read
        exact ⟨kept.cons key, each⟩
      case isFalse =>
        obtain ⟨found, here, read⟩ := Option.bind_eq_some_iff.mp read
        obtain ⟨others, there, read⟩ := Option.bind_eq_some_iff.mp read
        obtain rfl := Option.some.inj read
        obtain ⟨kept, each⟩ := DistinctMembers.toJson distinct.2 there
        exact ⟨kept.cons_cons key, Distinct.toJson distinct.1 here, each⟩

end

/-- Equal up to the order of members, where undefined members do not count. -/
def SameUpToOrder (left right : JsValue) : Prop :=
  ∃ json other,
    left.toJson = some json ∧ right.toJson = some other ∧ Json.SameUpToOrder json other

end JsValue

-----------------------------------------------------------------------------------------
-- Reading it back
-----------------------------------------------------------------------------------------

theorem plainMembers_iff {members : List (JsString × Json.Value)}
    : Json.PlainMembers members ↔ ∀ member ∈ members, Json.Plain member.2 := by
  induction members with
  | nil => exact ⟨fun _ _ held => absurd held List.not_mem_nil, fun _ => trivial⟩
  | cons member rest ih =>
      rw [List.forall_mem_cons, ← ih]
      rfl

mutual

/-- The normal form of accepted JSON is read back from its text. -/
theorem Accepted.plain
    : ∀ {json : Json.Value}, Accepted json → Json.Distinct json → Json.Plain (sorted json)
  | .null, _, _ => trivial
  | .boolean _, _, _ => trivial
  | .number _, accepted, _ => accepted
  | .fraction _, accepted, _ => accepted
  | .string _, _, _ => trivial
  | .array _, accepted, distinct => AcceptedItems.plain accepted distinct
  | .object members, accepted, distinct => by
      have order := Json.sortMembers_perm (sortedMembers members)
      refine ⟨?_, ?_⟩
      · rw [(order.map Prod.fst).nodup_iff, Json.sortedMembers_keys]
        exact distinct.1
      · apply plainMembers_iff.mpr
        intro member held
        exact plainMembers_iff.mp (AcceptedMembers.plain accepted.2 distinct.2) member
          (order.mem_iff.mp held)

theorem AcceptedItems.plain
    : ∀ {items : List Json.Value},
        AcceptedItems items → Json.DistinctItems items → Json.PlainItems (sortedItems items)
  | [], _, _ => trivial
  | _ :: _, accepted, distinct =>
      ⟨Accepted.plain accepted.1 distinct.1, AcceptedItems.plain accepted.2 distinct.2⟩

theorem AcceptedMembers.plain
    : ∀ {members : List (JsString × Json.Value)},
        AcceptedMembers members
        → Json.DistinctMembers members
        → Json.PlainMembers (sortedMembers members)
  | [], _, _ => trivial
  | _ :: _, accepted, distinct =>
      ⟨Accepted.plain accepted.1 distinct.1, AcceptedMembers.plain accepted.2 distinct.2⟩

end

/-- The text of an accepted value parses to its normal form. -/
theorem parse_canonical (other : JsString → Json.Value) {json : Json.Value}
    (accepted : Accepted json) (distinct : Json.Distinct json)
    : Json.parse other (stringify (sorted json)) = some (sorted json) :=
  Json.parse_stringify other (accepted.plain distinct)

/-- Accepted values have one text exactly when they are the same up to order. -/
theorem stringify_sorted_eq_iff {left right : Json.Value} (accepted : Accepted left)
    (otherAccepted : Accepted right) (distinct : Json.Distinct left)
    (otherDistinct : Json.Distinct right)
    : stringify (sorted left) = stringify (sorted right) ↔ SameUpToOrder left right := by
  rw [Json.sameUpToOrder_iff distinct]
  constructor
  · intro same
    have parsed := parse_canonical (fun _ => .null) accepted distinct
    rw [same, parse_canonical _ otherAccepted otherDistinct] at parsed
    exact (Option.some.inj parsed).symm
  · intro same
    rw [same]

/-- The text of a JSON value. -/
theorem canonicalJson_eq_ok {json : Json.Value} {path text : JsString}
    : canonicalJson path json = .ok text ↔ Accepted json ∧ text = stringify (sorted json) := by
  rw [← JsValue.canonicalJson_ofJson, JsValue.canonicalJson_eq_ok]
  simp only [JsValue.toJson_ofJson, Option.some.injEq, exists_eq_left']

-----------------------------------------------------------------------------------------
-- Signed documents
-----------------------------------------------------------------------------------------

/-- The digest does not collide on the canonical texts of two values. -/
def DigestSeparates (sha256 : Bytes → Bytes) (left right : Json.Value) : Prop :=
  ∀ text other,
    canonicalJson (js "$") left = .ok text
    → canonicalJson (js "$") right = .ok other
    → CollisionFree sha256 (utf8ToBytes text) (utf8ToBytes other)

/-- Values with one digest are the same up to order. -/
theorem DigestSeparates.same {sha256 : Bytes → Bytes} {left right : Json.Value}
    (separates : DigestSeparates sha256 left right) (distinct : Json.Distinct left)
    (otherDistinct : Json.Distinct right) {text other : JsString}
    (canonical : canonicalJson (js "$") left = .ok text)
    (otherCanonical : canonicalJson (js "$") right = .ok other)
    (digests : sha256 (utf8ToBytes text) = sha256 (utf8ToBytes other))
    : SameUpToOrder left right := by
  have octets := separates text other canonical otherCanonical digests
  obtain ⟨accepted, rfl⟩ := canonicalJson_eq_ok.mp canonical
  obtain ⟨otherAccepted, rfl⟩ := canonicalJson_eq_ok.mp otherCanonical
  have texts :=
    utf8ToBytes_inj (Json.wellFormed_stringify _ (accepted.plain distinct))
      (Json.wellFormed_stringify _ (otherAccepted.plain otherDistinct)) octets
  exact (stringify_sorted_eq_iff accepted otherAccepted distinct otherDistinct).mp texts

/-- A signing input is made of the texts of two values. -/
theorem statusListSigningInput_eq_ok {sha256 : Bytes → Bytes} {document config : Json.Value}
    {input : Bytes}
    : statusListSigningInput sha256 document config = .ok input
      ↔ ∃ text unsigned,
          canonicalJson (js "$") config = .ok text
          ∧ canonicalJson (js "$") (document.without (js "proof")) = .ok unsigned
          ∧ input
            = statusListDomain ++ sha256 (utf8ToBytes text) ++ sha256 (utf8ToBytes unsigned) := by
  rw [statusListSigningInput, bind_eq_ok]
  constructor
  · intro written
    obtain ⟨text, configured, written⟩ := written
    obtain ⟨unsigned, canonical, rfl⟩ := bind_ok_eq_ok.mp written
    exact ⟨text, unsigned, configured, canonical, rfl⟩
  · intro shape
    obtain ⟨text, unsigned, configured, canonical, rfl⟩ := shape
    exact ⟨text, configured, bind_ok_eq_ok.mpr ⟨unsigned, canonical, rfl⟩⟩

/-- Documents with one signing input agree outside the proof and the signature. -/
theorem signedMembers_same {sha256 : Bytes → Bytes}
    (sized : ∀ message, (sha256 message).length = 32)
    {left right leftProof rightProof : Json.Value} {input : Bytes} (distinct : Json.Distinct left)
    (otherDistinct : Json.Distinct right) (proved : left.get (js "proof") = some leftProof)
    (otherProved : right.get (js "proof") = some rightProof)
    (signed
      : statusListSigningInput sha256 left (leftProof.without (js "proofValue")) = .ok input)
    (otherSigned
      : statusListSigningInput sha256 right (rightProof.without (js "proofValue")) = .ok input)
    (configs
      : DigestSeparates sha256 (leftProof.without (js "proofValue"))
          (rightProof.without (js "proofValue")))
    (documents
      : DigestSeparates sha256 (left.without (js "proof")) (right.without (js "proof")))
    : (∀ key, key ≠ js "proof" → Option.Rel SameUpToOrder (left.get key) (right.get key))
      ∧ ∀ key,
          key ≠ js "proofValue"
          → Option.Rel SameUpToOrder (leftProof.get key) (rightProof.get key) := by
  obtain ⟨text, unsigned, config, document, written⟩ := statusListSigningInput_eq_ok.mp signed
  obtain ⟨text', unsigned', config', document', rfl⟩ :=
    statusListSigningInput_eq_ok.mp otherSigned
  have proofDistinct := distinct.get proved
  have otherProofDistinct := otherDistinct.get otherProved
  rw [List.append_assoc, List.append_assoc] at written
  obtain ⟨configDigests, documentDigests⟩ :=
    List.append_inj (List.append_cancel_left written) ((sized _).trans (sized _).symm)
  have sameDocument :=
    documents.same (distinct.without _) (otherDistinct.without _) document document'
      documentDigests.symm
  have sameConfig :=
    configs.same (proofDistinct.without _) (otherProofDistinct.without _) config config'
      configDigests.symm
  constructor
  · intro key apart
    rw [← Json.get_without left apart, ← Json.get_without right apart]
    exact sameDocument.get (distinct.without _) key
  · intro key apart
    rw [← Json.get_without leftProof apart, ← Json.get_without rightProof apart]
    exact sameConfig.get (proofDistinct.without _) key

/-- The values with a canonical text are the ones of the subset. The text of each parses to
the value, up to the order of members, so two have one text exactly when they are the same up
to this order. Documents with one signing input agree outside the proof and the signature,
unless the digest collides on their texts.
-/
theorem canonicalJson_faithful (other : JsString → Json.Value) (sha256 : Bytes → Bytes)
    (sized : ∀ message, (sha256 message).length = 32)
    : (∀ (value : JsValue) (path : JsString),
        (∃ text, value.canonicalJson path = .ok text)
        ↔ ∃ json, value.toJson = some json ∧ Accepted json)
      ∧ (∀ (value : JsValue) (path text : JsString),
          value.Distinct
          → value.canonicalJson path = .ok text
          → ∃ parsed,
              Json.parse other text = some parsed
              ∧ (JsValue.ofJson parsed).SameUpToOrder value)
      ∧ (∀ (left right : JsValue) (path path' text text' : JsString),
          left.Distinct
          → right.Distinct
          → left.canonicalJson path = .ok text
          → right.canonicalJson path' = .ok text'
          → (text = text' ↔ left.SameUpToOrder right))
      ∧ ∀ (left right leftProof rightProof : Json.Value) (input : Bytes),
          Json.Distinct left
          → Json.Distinct right
          → left.get (js "proof") = some leftProof
          → right.get (js "proof") = some rightProof
          → statusListSigningInput sha256 left (leftProof.without (js "proofValue")) = .ok input
          → statusListSigningInput sha256 right (rightProof.without (js "proofValue")) = .ok input
          → DigestSeparates sha256 (leftProof.without (js "proofValue"))
              (rightProof.without (js "proofValue"))
          → DigestSeparates sha256 (left.without (js "proof")) (right.without (js "proof"))
          → (∀ key, key ≠ js "proof" → Option.Rel SameUpToOrder (left.get key) (right.get key))
            ∧ ∀ key,
                key ≠ js "proofValue"
                → Option.Rel SameUpToOrder (leftProof.get key) (rightProof.get key) := by
  refine ⟨?_, ?_, ?_, ?_⟩
  · intro value path
    constructor
    · intro written
      obtain ⟨text, written⟩ := written
      obtain ⟨json, read, accepted, -⟩ := (value.canonicalJson_eq_ok path text).mp written
      exact ⟨json, read, accepted⟩
    · intro shape
      obtain ⟨json, read, accepted⟩ := shape
      exact ⟨_, (value.canonicalJson_eq_ok path _).mpr ⟨json, read, accepted, rfl⟩⟩
  · intro value path text distinct written
    obtain ⟨json, read, accepted, rfl⟩ := (value.canonicalJson_eq_ok path text).mp written
    refine ⟨sorted json, parse_canonical other accepted (distinct.toJson read), ?_⟩
    exact ⟨sorted json, json, JsValue.toJson_ofJson _, read, Json.sameUpToOrder_sorted json⟩
  · intro left right path path' text text' distinct otherDistinct written otherWritten
    obtain ⟨json, read, accepted, rfl⟩ := (left.canonicalJson_eq_ok path text).mp written
    obtain ⟨json', read', accepted', rfl⟩ :=
      (right.canonicalJson_eq_ok path' text').mp otherWritten
    rw [stringify_sorted_eq_iff accepted accepted' (distinct.toJson read)
      (otherDistinct.toJson read')]
    constructor
    · intro same
      exact ⟨json, json', read, read', same⟩
    · intro same
      obtain ⟨found, found', here, here', same⟩ := same
      rw [read] at here
      rw [read'] at here'
      obtain rfl := Option.some.inj here
      obtain rfl := Option.some.inj here'
      exact same
  · intro left right leftProof rightProof input distinct otherDistinct proved otherProved signed
      otherSigned configs documents
    exact signedMembers_same sized distinct otherDistinct proved otherProved signed otherSigned
      configs documents

namespace CanonicalSample

def value : JsValue :=
  .object
    [
      (js "s", .string [0xD800, 34]),
      (js "gone", .undefined),
      (js "b", .array [.number 1, .null])
    ]

def reordered : JsValue :=
  .object [(js "b", .array [.number 1, .null]), (js "s", .string [0xD800, 34])]

def text : JsString := js "\x7b\"b\":[1,null],\"s\":\"\\ud800\\\"\"\x7d"

def proof (signature : JsString) : Json.Value :=
  .object [(js "type", .string (js "t")), (js "proofValue", .string signature)]

def document : Json.Value :=
  .object [(js "issuer", .string (js "a")), (js "proof", proof (js "u1"))]

/-- The same document with its members in another order and another signature. -/
def resigned : Json.Value :=
  .object [(js "proof", proof (js "u2")), (js "issuer", .string (js "a"))]

/-- One digest for everything. -/
def digest (_ : Bytes) : Bytes := List.replicate 32 0

theorem digestSeparates {left right : Json.Value}
    (same : canonicalJson (js "$") left = canonicalJson (js "$") right)
    : DigestSeparates digest left right := by
  intro text other canonical otherCanonical _
  rw [canonical, otherCanonical] at same
  rw [Except.ok.inj same]

end CanonicalSample

/-- A value with an undefined member and a lone surrogate, and a document signed twice. -/
theorem canonicalJson_faithful_sample
    : (∃ parsed,
        Json.parse (fun _ => .null) CanonicalSample.text = some parsed
        ∧ (JsValue.ofJson parsed).SameUpToOrder CanonicalSample.value)
      ∧ (CanonicalSample.text = CanonicalSample.text
        ↔ CanonicalSample.value.SameUpToOrder CanonicalSample.reordered)
      ∧ ∀ key,
          key ≠ js "proof"
          → Option.Rel SameUpToOrder (CanonicalSample.document.get key)
              (CanonicalSample.resigned.get key) := by
  obtain ⟨-, parsed, texts, documents⟩ :=
    canonicalJson_faithful (fun _ => .null) CanonicalSample.digest fun _ => rfl
  have written
      : CanonicalSample.value.canonicalJson (js "$") = .ok CanonicalSample.text := by
    decide +kernel
  have otherWritten
      : CanonicalSample.reordered.canonicalJson (js "$") = .ok CanonicalSample.text := by
    decide +kernel
  have distinct : CanonicalSample.value.Distinct :=
    ⟨by decide, trivial, trivial, ⟨trivial, trivial, trivial⟩, trivial⟩
  have otherDistinct : CanonicalSample.reordered.Distinct :=
    ⟨by decide, ⟨trivial, trivial, trivial⟩, trivial, trivial⟩
  refine ⟨parsed _ _ _ distinct written,
    texts _ _ _ _ _ _ distinct otherDistinct written otherWritten, ?_⟩
  exact (documents CanonicalSample.document CanonicalSample.resigned
    (CanonicalSample.proof (js "u1")) (CanonicalSample.proof (js "u2"))
    (statusListDomain ++ List.replicate 64 0)
    ⟨by decide, trivial, ⟨by decide, trivial, trivial, trivial⟩, trivial⟩
    ⟨by decide, ⟨by decide, trivial, trivial, trivial⟩, trivial, trivial⟩ rfl rfl
    (by decide +kernel) (by decide +kernel) (CanonicalSample.digestSeparates (by decide +kernel))
    (CanonicalSample.digestSeparates (by decide +kernel))).1

end StellarOnramp.Gateway

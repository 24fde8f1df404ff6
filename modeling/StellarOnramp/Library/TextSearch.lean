import Mathlib.Data.List.GetD
import StellarOnramp.Library.Utf8

/-! Searching octets for text: parts joined with a separator, strings written in UTF-8, and the
hexadecimal and base64 forms of octets. A needle without the separator lies in one part.
-/

namespace TextSearch

open JsText Octets

-----------------------------------------------------------------------------------------
-- Joined parts
-----------------------------------------------------------------------------------------

section

variable {Unit : Type} {separator : Unit} {needle : List Unit}

/-- The parts with a separator between any two. -/
def join (separator : Unit) : List (List Unit) → List Unit
  | [] => []
  | [part] => part
  | part :: next :: rest => part ++ separator :: join separator (next :: rest)

theorem infix_separated_iff (absent : separator ∉ needle) {left right : List Unit}
    : needle <:+: left ++ separator :: right ↔ needle <:+: left ∨ needle <:+: right := by
  rw [List.infix_append_iff]
  constructor
  · rintro (inside | inside | ⟨front, back, rfl, ends, starts⟩)
    · exact .inl inside
    · rcases List.infix_cons_iff.mp inside with starts | later
      · cases needle with
        | nil => exact .inl (List.nil_infix)
        | cons unit rest =>
            obtain ⟨rfl, -⟩ := List.cons_prefix_cons.mp starts
            exact absurd List.mem_cons_self absent
      · exact .inr later
    · cases back with
      | nil => exact .inl (by simpa using ends.isInfix)
      | cons unit rest =>
          obtain ⟨rfl, -⟩ := List.cons_prefix_cons.mp starts
          exact absurd (List.mem_append_right _ List.mem_cons_self) absent
  · rintro (inside | inside)
    · exact .inl inside
    · exact .inr (.inl (List.infix_cons inside))

/-- A part lies in the joined parts. -/
theorem infix_join {parts : List (List Unit)} {part : List Unit} (found : part ∈ parts)
    : part <:+: join separator parts := by
  induction parts using join.induct with
  | case1 => cases found
  | case2 single =>
      cases List.mem_singleton.mp found
      exact List.infix_rfl
  | case3 first next rest ih =>
      rw [join]
      rcases List.mem_cons.mp found with rfl | later
      · exact (List.prefix_append _ _).isInfix
      · exact (ih later).trans (List.infix_append_of_infix_right (List.infix_cons List.infix_rfl))

/-- A needle without the separator lies in one of the parts, by induction on them. -/
theorem infix_join_iff (filled : needle ≠ []) (absent : separator ∉ needle)
    (parts : List (List Unit))
    : needle <:+: join separator parts ↔ ∃ part ∈ parts, needle <:+: part := by
  induction parts using join.induct with
  | case1 => simp [join, filled]
  | case2 single => simp [join]
  | case3 first next rest ih =>
      rw [join, infix_separated_iff absent, ih]
      simp

end

-----------------------------------------------------------------------------------------
-- UTF-8
-----------------------------------------------------------------------------------------

/-- A surrogate pair lies across the boundary. -/
def splitsPair (left right : JsString) : Bool :=
  left.getLast?.any isHighSurrogate && right.head?.any isLowSurrogate

/-- The text has the form at a place that no surrogate pair crosses. -/
def HeldWhole (form text : JsString) : Prop :=
  ∃ before after,
    text = before ++ form ++ after
    ∧ splitsPair before form = false
    ∧ splitsPair form after = false

/-- Text is written part by part where no pair is split, by induction on the first part. -/
theorem utf8ToBytes_append {left right : JsString} (whole : splitsPair left right = false)
    : utf8ToBytes (left ++ right) = utf8ToBytes left ++ utf8ToBytes right := by
  induction left using utf8ToBytes.induct with
  | case1 => rfl
  | case2 first =>
      cases right with
      | nil => simp [utf8ToBytes]
      | cons next rest =>
          have single : ¬ (isHighSurrogate first && isLowSurrogate next) = true := by
            simpa [splitsPair] using whole
          exact if_neg single
  | case3 first next rest pair ih =>
      have later : splitsPair rest right = false := by
        cases rest with
        | nil => rfl
        | cons unit rest => simpa [splitsPair] using whole
      simp only [List.cons_append] at ih ⊢
      rw [utf8ToBytes, if_pos pair, utf8ToBytes, if_pos pair, ih later, List.append_assoc]
  | case4 first next rest single ih =>
      have later : splitsPair (next :: rest) right = false := by
        simpa [splitsPair] using whole
      simp only [List.cons_append] at ih ⊢
      rw [utf8ToBytes, if_neg single, utf8ToBytes, if_neg single, ih later, List.append_assoc]

/-- Parts joined with an ASCII unit are written one by one. -/
theorem utf8ToBytes_join {unit : UInt16} (small : unit < 128) (parts : List JsString)
    : utf8ToBytes (join unit parts) = join unit.toUInt8 (parts.map utf8ToBytes) := by
  induction parts using join.induct with
  | case1 => rfl
  | case2 single => rfl
  | case3 first next rest ih =>
      rw [join, utf8ToBytes_split small, ih]
      rfl

/-- Text held whole is held by the octets. -/
theorem HeldWhole.lies_within {form text : JsString} (filled : form ≠ [])
    (held : HeldWhole form text) : utf8ToBytes form <:+: utf8ToBytes text := by
  obtain ⟨before, after, rfl, front, back⟩ := held
  have last : splitsPair (before ++ form) after = false := by
    rw [← back, splitsPair, splitsPair, List.getLast?_append_of_ne_nil _ filled]
  rw [utf8ToBytes_append last, utf8ToBytes_append front]
  exact List.infix_append _ _ _

/-- Octets read as units are no surrogates. -/
theorem not_surrogate_toUInt16 (octet : UInt8)
    : isHighSurrogate octet.toUInt16 = false ∧ isLowSurrogate octet.toUInt16 = false := by
  have bound : octet.toUInt16.toNat < 256 := octet.toNat_lt
  simp only [isHighSurrogate, isLowSurrogate, UInt16.le_iff_toNat_le, Bool.and_eq_false_iff,
    decide_eq_false_iff_not]
  exact ⟨.inl (by change ¬ 0xD800 ≤ _; omega), .inl (by change ¬ 0xDC00 ≤ _; omega)⟩

theorem splitsPair_ofOctets (octets : Bytes) (right : JsString)
    : splitsPair (ofOctets octets) right = false := by
  rw [splitsPair, ofOctets, List.getLast?_map]
  cases octets.getLast? with
  | none => rfl
  | some last => simp [(not_surrogate_toUInt16 last).1]

theorem splitsPair_ofOctets_right (left : JsString) (octets : Bytes)
    : splitsPair left (ofOctets octets) = false := by
  rw [splitsPair, ofOctets, List.head?_map]
  cases octets.head? with
  | none => simp
  | some first => simp [(not_surrogate_toUInt16 first).2]

/-- ASCII octets that a text spells are among those it is written in. -/
theorem infix_utf8ToBytes_of_ascii {octets : Bytes} (plain : isAscii octets = true)
    (filled : octets ≠ []) {text : JsString} (held : ofOctets octets <:+: text)
    : octets <:+: utf8ToBytes text := by
  obtain ⟨before, after, rfl⟩ := held
  have whole : HeldWhole (ofOctets octets) (before ++ ofOctets octets ++ after) :=
    ⟨before, after, rfl, splitsPair_ofOctets_right _ _, splitsPair_ofOctets _ _⟩
  have spelled := whole.lies_within (by simpa [ofOctets] using filled)
  rwa [utf8ToBytes_ofOctets plain] at spelled

theorem infix_utf8ToBytes_ofOctets {needle octets : Bytes} (plain : isAscii needle = true)
    (filled : needle ≠ []) (held : needle <:+: octets)
    : needle <:+: utf8ToBytes (ofOctets octets) := by
  obtain ⟨before, after, rfl⟩ := held
  refine infix_utf8ToBytes_of_ascii plain filled ⟨ofOctets before, ofOctets after, ?_⟩
  simp only [ofOctets_append]

-----------------------------------------------------------------------------------------
-- Hexadecimal and base64
-----------------------------------------------------------------------------------------

theorem utf8ToBytes_bytesToHex (octets : Bytes)
    : utf8ToBytes (bytesToHex octets) = hexText octets :=
  utf8ToBytes_ofOctets (isAscii_hexText octets)

theorem hexText_infix {needle octets : Bytes} (held : needle <:+: octets)
    : hexText needle <:+: hexText octets := by
  obtain ⟨before, after, rfl⟩ := held
  simp only [hexText_append]
  exact List.infix_append _ _ _

theorem hexText_ne_nil {octets : Bytes} (filled : octets ≠ []) : hexText octets ≠ [] := by
  obtain ⟨octet, rest, rfl⟩ := List.exists_cons_of_ne_nil filled
  exact List.cons_ne_nil _ _

def base64Alphabet : Bytes :=
  ascii "ABCDEFGHIJKLMNOPQRSTUVWXYZabcdefghijklmnopqrstuvwxyz0123456789+/"

def base64Char (sextet : Nat) : UInt8 := base64Alphabet.getD sextet 61

/-- Base64 with the standard alphabet and padding. -/
def base64Text : Bytes → Bytes
  | [] => []
  | [a] => [base64Char (a.toNat / 4), base64Char (a.toNat % 4 * 16), 61, 61]
  | [a, b] =>
      [
        base64Char (a.toNat / 4),
        base64Char (a.toNat % 4 * 16 + b.toNat / 16),
        base64Char (b.toNat % 16 * 4),
        61
      ]
  | a :: b :: c :: rest =>
      base64Char (a.toNat / 4)
        :: base64Char (a.toNat % 4 * 16 + b.toNat / 16)
        :: base64Char (b.toNat % 16 * 4 + c.toNat / 64)
        :: base64Char (c.toNat % 64)
        :: base64Text rest

theorem base64Char_lt (sextet : Nat) : base64Char sextet < 128 := by
  have known : ∀ octet ∈ base64Alphabet, octet < 128 := by decide +kernel
  unfold base64Char
  by_cases inside : sextet < base64Alphabet.length
  · rw [List.getD_eq_getElem _ _ inside]
    exact known _ (List.getElem_mem inside)
  · rw [List.getD_eq_default _ _ (Nat.not_lt.mp inside)]
    decide

theorem isAscii_base64Text (octets : Bytes) : isAscii (base64Text octets) = true := by
  induction octets using base64Text.induct with
  | case1 => rfl
  | case2 a => simp [base64Text, isAscii, base64Char_lt]
  | case3 a b => simp [base64Text, isAscii, base64Char_lt]
  | case4 a b c rest ih =>
      simp only [isAscii] at ih
      simp [base64Text, isAscii, base64Char_lt, ih]

theorem base64Text_ne_nil {octets : Bytes} (filled : octets ≠ []) : base64Text octets ≠ [] := by
  rcases octets with _ | ⟨a, _ | ⟨b, _ | ⟨c, rest⟩⟩⟩
  · exact absurd rfl filled
  all_goals exact List.cons_ne_nil _ _

end TextSearch

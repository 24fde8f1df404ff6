import StellarOnramp.Library.JsonParse

/-! Well-formed strings, which their UTF-8 octets tell apart. Canonical text is well formed. -/

namespace JsText

open Octets

-----------------------------------------------------------------------------------------
-- Code points
-----------------------------------------------------------------------------------------

/-- What a continuation octet carries. -/
def continuation (rest : Bytes) (position : Nat) : Nat := (rest.getD position 0).toNat - 0x80

theorem continuation_eq {rest : Bytes} {position value : Nat}
    (held : rest.getD position 0 = UInt8.ofNat (0x80 + value % 64))
    : continuation rest position = value % 64 := by
  have small : 0x80 + value % 64 < 256 := by omega
  unfold continuation
  rw [held, UInt8.toNat_ofNat', Nat.mod_eq_of_lt small, Nat.add_sub_cancel_left]

/-- The code point at the front of well-formed octets, and what is behind it. -/
def readPoint : Bytes → Nat × Bytes
  | [] => (0, [])
  | first :: rest =>
      if first.toNat < 0x80 then
        (first.toNat, rest)
      else if first.toNat < 0xE0 then
        ((first.toNat - 0xC0) * 64 + continuation rest 0, rest.drop 1)
      else if first.toNat < 0xF0 then
        ((first.toNat - 0xE0) * 4096 + continuation rest 0 * 64 + continuation rest 1, rest.drop 2)
      else
        ((first.toNat - 0xF0) * 262144 + continuation rest 0 * 4096 + continuation rest 1 * 64
            + continuation rest 2,
          rest.drop 3)

/-- The octets of a code point read back, whatever is behind them. -/
theorem readPoint_encodePoint {point : Nat} (valid : point < 0x110000) (rest : Bytes)
    : readPoint (encodePoint point ++ rest) = (point, rest) := by
  have octet {value : Nat} (small : value < 256) : (UInt8.ofNat value).toNat = value := by
    rw [UInt8.toNat_ofNat', Nat.mod_eq_of_lt small]
  unfold encodePoint
  split
  · simp only [List.cons_append, List.nil_append, readPoint]
    rw [octet (by omega), if_pos (by omega)]
  split
  · simp only [List.cons_append, List.nil_append, readPoint]
    rw [octet (by omega), if_neg (by omega), if_pos (by omega), continuation_eq rfl, Prod.mk.injEq]
    exact ⟨by omega, rfl⟩
  split
  · simp only [List.cons_append, List.nil_append, readPoint]
    rw [octet (by omega), if_neg (by omega), if_neg (by omega), if_pos (by omega),
      continuation_eq rfl, continuation_eq rfl, Prod.mk.injEq]
    exact ⟨by omega, rfl⟩
  · simp only [List.cons_append, List.nil_append, readPoint]
    rw [octet (by omega), if_neg (by omega), if_neg (by omega), if_neg (by omega),
      continuation_eq rfl, continuation_eq rfl, continuation_eq rfl, Prod.mk.injEq]
    exact ⟨by omega, rfl⟩

-----------------------------------------------------------------------------------------
-- Well-formed strings
-----------------------------------------------------------------------------------------

/-- Every surrogate is part of a pair. -/
def wellFormed : JsString → Bool
  | [] => true
  | [unit] => !(isHighSurrogate unit || isLowSurrogate unit)
  | unit :: next :: rest =>
      if isHighSurrogate unit && isLowSurrogate next then
        wellFormed rest
      else
        !(isHighSurrogate unit || isLowSurrogate unit) && wellFormed (next :: rest)

/-- The units of a code point. -/
def pointUnits (point : Nat) : JsString :=
  if point < 0x10000 then
    [UInt16.ofNat point]
  else
    [
      UInt16.ofNat (0xD800 + (point - 0x10000) / 0x400),
      UInt16.ofNat (0xDC00 + (point - 0x10000) % 0x400)
    ]

theorem pointUnits_unit (unit : UInt16) : pointUnits unit.toNat = [unit] := by
  have bound := unit.toNat_lt
  rw [pointUnits, if_pos (by omega), UInt16.ofNat_toNat]

theorem pointUnits_pair {high low : UInt16} (isHigh : isHighSurrogate high = true)
    (isLow : isLowSurrogate low = true)
    : pointUnits (0x10000 + (high.toNat - 0xD800) * 0x400 + (low.toNat - 0xDC00))
      = [high, low] := by
  simp only [isHighSurrogate, isLowSurrogate, Bool.and_eq_true, decide_eq_true_eq,
    UInt16.le_iff_toNat_le, UInt16.lt_iff_toNat_lt] at isHigh isLow
  obtain ⟨high_least, high_most⟩ : 0xD800 ≤ high.toNat ∧ high.toNat < 0xDC00 := isHigh
  obtain ⟨low_least, low_most⟩ : 0xDC00 ≤ low.toNat ∧ low.toNat < 0xE000 := isLow
  rw [pointUnits, if_neg (by omega)]
  have first
      : 0xD800 + (0x10000 + (high.toNat - 0xD800) * 0x400 + (low.toNat - 0xDC00) - 0x10000) / 0x400
        = high.toNat := by
    omega
  have second
      : 0xDC00 + (0x10000 + (high.toNat - 0xD800) * 0x400 + (low.toNat - 0xDC00) - 0x10000) % 0x400
        = low.toNat := by
    omega
  rw [first, second, UInt16.ofNat_toNat, UInt16.ofNat_toNat]

/-- A well-formed string has a code point in front, which is written first. -/
theorem wellFormed_front {text : JsString} (filled : text ≠ []) (formed : wellFormed text = true)
    : ∃ point rest,
        point < 0x110000
        ∧ text = pointUnits point ++ rest
        ∧ wellFormed rest = true
        ∧ utf8ToBytes text = encodePoint point ++ utf8ToBytes rest
        ∧ rest.length < text.length := by
  have single {unit : UInt16} (plain : (!(isHighSurrogate unit || isLowSurrogate unit)) = true)
      : encodeUnit unit = encodePoint unit.toNat := by
    rw [Bool.not_eq_true'] at plain
    rw [encodeUnit, plain, if_neg Bool.false_ne_true]
  have small (unit : UInt16) : unit.toNat < 0x110000 := by
    have bound := unit.toNat_lt
    omega
  cases text using wellFormed.fun_cases with
  | case1 => exact absurd rfl filled
  | case2 unit =>
      refine ⟨unit.toNat, [], small unit, ?_, rfl, ?_, Nat.zero_lt_one⟩
      · rw [pointUnits_unit]
        rfl
      · rw [utf8ToBytes, utf8ToBytes, List.append_nil]
        exact single formed
  | case3 unit next rest pair =>
      obtain ⟨high, low⟩ := Bool.and_eq_true_iff.mp pair
      rw [wellFormed, if_pos pair] at formed
      refine
        ⟨0x10000 + (unit.toNat - 0xD800) * 0x400 + (next.toNat - 0xDC00), rest, ?_, ?_, formed,
          ?_, ?_⟩
      · simp only [isHighSurrogate, isLowSurrogate, Bool.and_eq_true, decide_eq_true_eq,
          UInt16.le_iff_toNat_le, UInt16.lt_iff_toNat_lt] at high low
        obtain ⟨-, most⟩ : 0xD800 ≤ unit.toNat ∧ unit.toNat < 0xDC00 := high
        obtain ⟨-, last⟩ : 0xDC00 ≤ next.toNat ∧ next.toNat < 0xE000 := low
        omega
      · rw [pointUnits_pair high low]
        rfl
      · rw [utf8ToBytes, if_pos pair, encodePair]
      · exact Nat.lt_add_of_pos_right Nat.zero_lt_two
  | case4 unit next rest apart =>
      rw [wellFormed, if_neg apart, Bool.and_eq_true] at formed
      refine ⟨unit.toNat, next :: rest, small unit, ?_, formed.2, ?_, Nat.lt_succ_self _⟩
      · rw [pointUnits_unit]
        rfl
      · rw [utf8ToBytes, if_neg apart, single formed.1]

theorem utf8ToBytes_ne_nil {text : JsString} (filled : text ≠ []) : utf8ToBytes text ≠ [] := by
  obtain ⟨unit, rest, rfl⟩ := List.exists_cons_of_ne_nil filled
  rcases utf8ToBytes_cons unit rest with ⟨-, written⟩ | ⟨-, octet, later, written, -⟩
  · exact written ▸ List.cons_ne_nil _ _
  · exact written ▸ List.cons_ne_nil _ _

/-- Well-formed strings with the same octets are the same, by induction on the length. -/
theorem utf8ToBytes_inj {left right : JsString} (formed : wellFormed left = true)
    (otherFormed : wellFormed right = true) (same : utf8ToBytes left = utf8ToBytes right)
    : left = right := by
  induction count : left.length using Nat.strong_induction_on generalizing left right with
  | _ count ih =>
      by_cases empty : left = []
      · subst empty
        by_contra filled
        exact utf8ToBytes_ne_nil (Ne.symm filled) same.symm
      · have filled : right ≠ [] := by
          rintro rfl
          exact utf8ToBytes_ne_nil empty same
        obtain ⟨point, rest, valid, front, restFormed, written, shorter⟩ :=
          wellFormed_front empty formed
        obtain ⟨point', rest', valid', front', restFormed', written', -⟩ :=
          wellFormed_front filled otherFormed
        rw [written, written'] at same
        have read := congrArg readPoint same
        rw [readPoint_encodePoint valid, readPoint_encodePoint valid', Prod.mk.injEq] at read
        obtain ⟨rfl, octets⟩ := read
        have later := ih rest.length (count ▸ shorter) restFormed restFormed' octets rfl
        rw [front, front', later]

theorem wellFormed_plain_cons {unit : UInt16}
    (plain : (isHighSurrogate unit || isLowSurrogate unit) = false) (rest : JsString)
    : wellFormed (unit :: rest) = wellFormed rest := by
  obtain ⟨high, low⟩ := Bool.or_eq_false_iff.mp plain
  cases rest with
  | nil =>
      change (!(isHighSurrogate unit || isLowSurrogate unit)) = true
      rw [plain, Bool.not_false]
  | cons next rest =>
      rw [wellFormed, high, low, Bool.false_and, if_neg Bool.false_ne_true, Bool.or_self,
        Bool.not_false, Bool.true_and]

theorem wellFormed_append {left right : JsString} (formed : wellFormed left = true)
    : wellFormed (left ++ right) = wellFormed right := by
  induction left using wellFormed.induct with
  | case1 => rfl
  | case2 unit =>
      rw [wellFormed, Bool.not_eq_true'] at formed
      exact wellFormed_plain_cons formed right
  | case3 unit next rest pair ih =>
      rw [wellFormed, if_pos pair] at formed
      rw [List.cons_append, List.cons_append, wellFormed, if_pos pair]
      exact ih formed
  | case4 unit next rest apart ih =>
      rw [wellFormed, if_neg apart, Bool.and_eq_true, Bool.not_eq_true'] at formed
      rw [List.cons_append, wellFormed_plain_cons formed.1]
      exact ih formed.2

/-- A string of units outside the surrogates. -/
theorem wellFormed_of_plain {text : JsString}
    (plain : ∀ unit ∈ text, (isHighSurrogate unit || isLowSurrogate unit) = false)
    : wellFormed text = true := by
  induction text with
  | nil => rfl
  | cons unit rest ih =>
      obtain ⟨here, later⟩ := List.forall_mem_cons.mp plain
      rw [wellFormed_plain_cons here]
      exact ih later

theorem wellFormed_of_ascii {text : JsString} (plain : text.all (fun unit => unit < 128) = true)
    : wellFormed text = true := by
  apply wellFormed_of_plain
  intro unit member
  have bound : unit.toNat < 128 :=
    UInt16.lt_iff_toNat_lt.mp (of_decide_eq_true (List.all_eq_true.mp plain unit member))
  have high : isHighSurrogate unit = false := by
    simp only [isHighSurrogate, UInt16.le_iff_toNat_le, Bool.and_eq_false_iff,
      decide_eq_false_iff_not]
    exact Or.inl (by change ¬ 0xD800 ≤ _; omega)
  rw [high, isLowSurrogate_of_lt (of_decide_eq_true (List.all_eq_true.mp plain unit member))]
  rfl

end JsText

namespace Json

open JsText Octets

-----------------------------------------------------------------------------------------
-- Text
-----------------------------------------------------------------------------------------

theorem wellFormed_unicodeEscape (unit : UInt16) : wellFormed (unicodeEscape unit) = true := by
  rw [unicodeEscape, wellFormed_append (by decide)]
  apply wellFormed_of_ascii
  apply List.all_eq_true.mpr
  intro digit member
  have hex := List.all_eq_true.mp (bytesToHex_all _) digit member
  simp only [isLowerHexDigit, Bool.or_eq_true, Bool.and_eq_true, decide_eq_true_eq] at hex
  apply decide_eq_true
  rcases hex with ⟨-, most⟩ | ⟨-, most⟩
  · exact UInt16.lt_of_le_of_lt most (by decide)
  · exact UInt16.lt_of_le_of_lt most (by decide)

/-- A quoted unit stands on its own. -/
theorem wellFormed_quoteUnit (unit : UInt16) : wellFormed (quoteUnit unit) = true := by
  unfold quoteUnit
  iterate 7
    split
    · decide
  split
  · exact wellFormed_unicodeEscape unit
  split
  · exact wellFormed_unicodeEscape unit
  case isFalse plain =>
    rw [wellFormed_plain_cons (Bool.eq_false_iff.mpr plain)]
    rfl

theorem wellFormed_quoteUnits (text : JsString) : wellFormed (quoteUnits text) = true := by
  induction text using quoteUnits.induct with
  | case1 => rfl
  | case2 unit => exact wellFormed_quoteUnit unit
  | case3 unit next rest pair ih =>
      rw [quoteUnits, if_pos pair, wellFormed, if_pos pair]
      exact ih
  | case4 unit next rest single ih =>
      rw [quoteUnits, if_neg single, wellFormed_append (wellFormed_quoteUnit unit)]
      exact ih

theorem wellFormed_quote (text : JsString) : wellFormed (quote text) = true := by
  rw [quote, List.append_assoc, wellFormed_append (by decide),
    wellFormed_append (wellFormed_quoteUnits text)]
  decide

theorem wellFormed_joined {parts : List JsString}
    (each : ∀ part ∈ parts, wellFormed part = true)
    : wellFormed (joined parts) = true := by
  induction parts using joined.induct with
  | case1 => rfl
  | case2 part => exact each part List.mem_cons_self
  | case3 part rest filled ih =>
      obtain ⟨here, later⟩ := List.forall_mem_cons.mp each
      rw [joined, List.append_assoc, wellFormed_append here, wellFormed_append (by decide)]
      · exact ih later
      · exact filled

mutual

/-- The text of a value is well formed, by induction on the value. -/
theorem wellFormed_stringify : ∀ value : Value, Plain value → wellFormed (stringify value) = true
  | .null, _ => by decide
  | .boolean true, _ => by decide
  | .boolean false, _ => by decide
  | .number value, plain => by
      obtain ⟨value, rfl⟩ := Int.eq_ofNat_of_zero_le plain.1
      obtain ⟨digits, -⟩ := numberText_spec value
      apply wellFormed_of_ascii
      apply List.all_eq_true.mpr
      intro unit member
      have digit := List.all_eq_true.mp digits unit member
      simp only [isDigit, Bool.and_eq_true, decide_eq_true_eq] at digit
      exact decide_eq_true (UInt16.lt_of_le_of_lt digit.2 (by decide))
  | .fraction _, plain => absurd plain id
  | .string text, _ => wellFormed_quote text
  | .array items, plain => by
      rw [stringify, List.append_assoc, wellFormed_append (by decide),
        wellFormed_append (wellFormed_joined (wellFormed_stringifyItems items plain))]
      decide
  | .object members, plain => by
      rw [stringify, List.append_assoc, wellFormed_append (by decide),
        wellFormed_append (wellFormed_joined (wellFormed_stringifyMembers members plain.2))]
      decide

theorem wellFormed_stringifyItems
    : ∀ items : List Value,
        PlainItems items → ∀ part ∈ stringifyItems items, wellFormed part = true
  | [], _ => by
      intro part member
      cases member
  | item :: rest, plain => by
      rw [stringifyItems, List.forall_mem_cons]
      exact ⟨wellFormed_stringify item plain.1, wellFormed_stringifyItems rest plain.2⟩

theorem wellFormed_stringifyMembers
    : ∀ members : List (JsString × Value),
        PlainMembers members → ∀ part ∈ stringifyMembers members, wellFormed part = true
  | [], _ => by
      intro part member
      cases member
  | (key, value) :: rest, plain => by
      rw [stringifyMembers, List.forall_mem_cons]
      refine ⟨?_, wellFormed_stringifyMembers rest plain.2⟩
      rw [List.append_assoc, wellFormed_append (wellFormed_quote key),
        wellFormed_append (by decide)]
      exact wellFormed_stringify value plain.1

end

end Json

import StellarOnramp.Library.JsText

/-! JSON values and the text that `JSON.stringify` writes for them. -/

namespace Json

open JsText Octets

/-- A parsed value. The keys of an object are distinct, as a parser leaves them. -/
inductive Value where
  | null
  | boolean (value : Bool)
  | number (value : Int)
  /-- A number that is not an integer, as its text. -/
  | fraction (text : JsString)
  | string (text : JsString)
  | array (items : List Value)
  | object (members : List (JsString × Value))

namespace Value

/-- A member of an object; other values have none. -/
def get (value : Value) (key : JsString) : Option Value :=
  match value with
  | object members => members.lookup key
  | _ => none

/-- The text of a string value. -/
def asString : Value → Option JsString
  | string text => some text
  | _ => none

def isObject : Value → Bool
  | object _ => true
  | _ => false

/-- The elements of an array. -/
def asArray : Value → Option (List Value)
  | array items => some items
  | _ => none

/-- An array `includes` a string. -/
def includesText (items : List Value) (text : JsString) : Bool :=
  items.any (fun item => item.asString == some text)

/-- The object without a member. -/
def without (value : Value) (key : JsString) : Value :=
  match value with
  | object members => object (members.filter (fun member => member.1 != key))
  | other => other

/-- The object with a new member behind the others. -/
def extend (value : Value) (key : JsString) (member : Value) : Value :=
  match value with
  | object members => object (members ++ [(key, member)])
  | other => other

end Value

/-- A string member of an object. -/
def text (value : Value) (key : JsString) : Option JsString :=
  (value.get key).bind Value.asString

-----------------------------------------------------------------------------------------
-- Text
-----------------------------------------------------------------------------------------

/-- `\uXXXX`, in lower-case digits. -/
def unicodeEscape (unit : UInt16) : JsString :=
  js "\\u" ++ bytesToHex [(unit >>> 8).toUInt8, unit.toUInt8]

/-- A unit inside quotes. -/
def quoteUnit (unit : UInt16) : JsString :=
  if unit = 8 then js "\\b"
  else if unit = 9 then js "\\t"
  else if unit = 10 then js "\\n"
  else if unit = 12 then js "\\f"
  else if unit = 13 then js "\\r"
  else if unit = 34 then js "\\\""
  else if unit = 92 then js "\\\\"
  else if unit < 32 then unicodeEscape unit
  else if isHighSurrogate unit || isLowSurrogate unit then unicodeEscape unit
  else [unit]

/-- Surrogate pairs are kept; a lone surrogate is escaped, so the text is well formed. -/
def quoteUnits : JsString → JsString
  | [] => []
  | [unit] => quoteUnit unit
  | unit :: next :: rest =>
      if isHighSurrogate unit && isLowSurrogate next then
        unit :: next :: quoteUnits rest
      else
        quoteUnit unit ++ quoteUnits (next :: rest)

def quote (text : JsString) : JsString :=
  js "\"" ++ quoteUnits text ++ js "\""

/-- Join parts with a comma. -/
def joined : List JsString → JsString
  | [] => []
  | [part] => part
  | part :: rest => part ++ js "," ++ joined rest

mutual

/-- `JSON.stringify` without indentation. -/
def stringify : Value → JsString
  | .null => js "null"
  | .boolean value => if value then js "true" else js "false"
  | .number value => numberText value
  | .fraction text => text
  | .string text => quote text
  | .array items => js "[" ++ joined (stringifyItems items) ++ js "]"
  | .object members => js "\x7b" ++ joined (stringifyMembers members) ++ js "\x7d"

def stringifyItems : List Value → List JsString
  | [] => []
  | item :: rest => stringify item :: stringifyItems rest

def stringifyMembers : List (JsString × Value) → List JsString
  | [] => []
  | (key, value) :: rest => (quote key ++ js ":" ++ stringify value) :: stringifyMembers rest

end

mutual

/-- `String(value)` of a parsed value. -/
def toText : Value → JsString
  | .null => js "null"
  | .boolean value => if value then js "true" else js "false"
  | .number value => numberText value
  | .fraction text => text
  | .string text => text
  | .array items => joined (itemTexts items)
  | .object _ => js "[object Object]"

/-- Inside an array, `null` is written as nothing. -/
def itemTexts : List Value → List JsString
  | [] => []
  | .null :: rest => [] :: itemTexts rest
  | item :: rest => toText item :: itemTexts rest

end

/-- `String(member)` of a member that may be missing. -/
def memberText (member : Option Value) : JsString :=
  (member.map toText).getD (js "undefined")

example
    : stringify (.object [(js "a", .array [.number 7, .null]), (js "b", .string [10, 65, 0xD800])])
      = js "\x7b\"a\":[7,null],\"b\":\"\\nA\\ud800\"\x7d" := by
  decide

-----------------------------------------------------------------------------------------
-- The octets of a text
-----------------------------------------------------------------------------------------

/-- Parts with commas between them. -/
def joinedOctets : List Nat → Nat
  | [] => 0
  | [part] => part
  | part :: rest => part + 1 + joinedOctets rest

mutual

/-- How many octets the text of a value has. -/
def octets : Value → Nat
  | .null => 4
  | .boolean value => if value then 4 else 5
  | .number value => octetLength (numberText value)
  | .fraction text => octetLength text
  | .string text => octetLength (quote text)
  | .array items => 2 + joinedOctets (itemOctets items)
  | .object members => 2 + joinedOctets (memberOctets members)

def itemOctets : List Value → List Nat
  | [] => []
  | item :: rest => octets item :: itemOctets rest

def memberOctets : List (JsString × Value) → List Nat
  | [] => []
  | (key, value) :: rest => (octetLength (quote key) + 1 + octets value) :: memberOctets rest

end

theorem octetLength_joined (parts : List JsString)
    : octetLength (joined parts) = joinedOctets (parts.map octetLength) := by
  induction parts using joined.induct with
  | case1 => rfl
  | case2 part => rfl
  | case3 part rest several ih =>
      have comma : octetLength (joined (part :: rest))
          = octetLength part + 1 + octetLength (joined rest) := by
        rw [joined, List.append_assoc]
        · exact octetLength_split 44 (by decide) part (joined rest)
        · exact several
      rw [comma, ih, List.map_cons]
      cases rest with
      | nil => exact absurd rfl several
      | cons next later => rfl

/-- Text between two ASCII units. -/
theorem octetLength_between (opening closing : UInt16) (first : opening < 128)
    (last : closing < 128) (text : JsString)
    : octetLength ([opening] ++ text ++ [closing]) = 2 + octetLength text := by
  have whole := octetLength_split opening first [] (text ++ [closing])
  have rest := octetLength_split closing last text []
  have nothing : octetLength [] = 0 := rfl
  rw [List.append_assoc]
  simp only [List.nil_append, List.cons_append] at whole ⊢
  omega

mutual

/-- The text of a value has its octets, by induction on the value. -/
theorem octetLength_stringify : ∀ value, octetLength (stringify value) = octets value
  | .null => rfl
  | .boolean true => rfl
  | .boolean false => rfl
  | .number _ => rfl
  | .fraction _ => rfl
  | .string _ => rfl
  | .array items => by
      have between :=
        octetLength_between 91 93 (by decide) (by decide)
          (joined (stringifyItems items))
      rw [octetLength_joined, octetLength_stringifyItems items] at between
      exact between
  | .object members => by
      have between :=
        octetLength_between 123 125 (by decide) (by decide)
          (joined (stringifyMembers members))
      rw [octetLength_joined, octetLength_stringifyMembers members] at between
      exact between

theorem octetLength_stringifyItems
    : ∀ items, (stringifyItems items).map octetLength = itemOctets items
  | [] => rfl
  | item :: rest => by
      rw [stringifyItems, itemOctets, List.map_cons, octetLength_stringify item,
        octetLength_stringifyItems rest]

theorem octetLength_stringifyMembers
    : ∀ members, (stringifyMembers members).map octetLength = memberOctets members
  | [] => rfl
  | (key, value) :: rest => by
      have colon : octetLength (quote key ++ js ":" ++ stringify value)
          = octetLength (quote key) + 1 + octetLength (stringify value) := by
        rw [List.append_assoc]
        exact octetLength_split 58 (by decide) (quote key) (stringify value)
      rw [stringifyMembers, memberOctets, List.map_cons, colon, octetLength_stringify value,
        octetLength_stringifyMembers rest]

end

end Json

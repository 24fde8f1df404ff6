import StellarOnramp.Identity.Base64
import StellarOnramp.Library.Json

/-! Bitstring status lists: the codec of the list and the entry that a credential reads. The
compression streams of the platform are a parameter.
-/

namespace StellarOnramp.Identity

open Attempts JsNumber JsText Octets

/-- The fewest entries that a list may hold; a privacy floor. -/
def minimumStatusListEntries : Nat := 131072

/-- The most octets that a list may decompress to. -/
def maxStatusListBytes : Nat := 16 * 1024 * 1024

def multibaseBase64urlNopadPrefix : UInt16 := 117

/-- The purposes that a verifier acts on. -/
def statusPurposes : List JsString := [js "revocation", js "suspension"]

/-- The platform: the compression streams, `none` where reading fails, and the largest buffer
that it allocates.
-/
structure Platform where
  gzip : Bytes → Bytes
  gunzip : Bytes → Option Bytes
  maxBufferBytes : Nat

/-- A resolved list, in wire shape. Its optional members come from remote data. -/
structure BitstringStatusList where
  statusPurpose : JsString
  encodedList : JsString
  statusSize : Option Json.Value
  statusMessage : Option Json.Value

/-- A list that was decompressed. The first index is the most significant bit of `bits[0]`. -/
structure DecodedStatusList where
  statusPurpose : JsString
  statusSize : Nat
  bits : Bytes

def DecodedStatusList.bitLength (list : DecodedStatusList) : Nat := list.bits.length * 8

def DecodedStatusList.entryCount (list : DecodedStatusList) : Nat :=
  list.bitLength / list.statusSize

-----------------------------------------------------------------------------------------
-- Bit access
-----------------------------------------------------------------------------------------

/-- An element of a typed array as an operand; outside the array it is `undefined`, which the
operators read as zero.
-/
def octetAt (bits : Bytes) (position : Number) : Number :=
  if position < 0 then 0 else ((bits[position.toNat]?).getD 0).toNat

def outsideBitstring (bitIndex : Number) : Failure :=
  statusListFailure (js "bit index " ++ numberText bitIndex ++ js " is outside the bitstring")

def bitAt (bits : Bytes) (bitIndex : Number) : Attempt Number := do
  failIf (bitIndex < 0 ∨ bitIndex ≥ bits.length * 8) (outsideBitstring bitIndex)
  let byte := octetAt bits (shiftRight bitIndex 3)
  .ok (bitAnd (shiftRight byte (7 - bitAnd bitIndex 7).toNat) 1)

/-- Write an element; a write outside the array is ignored. -/
def writeOctet (bits : Bytes) (position : Number) (value : Number) : Bytes :=
  if position < 0 then bits else bits.set position.toNat (toOctet value)

def setBit (bits : Bytes) (bitIndex : Number) : Attempt Bytes := do
  failIf (bitIndex < 0 ∨ bitIndex ≥ bits.length * 8) (outsideBitstring bitIndex)
  let position := shiftRight bitIndex 3
  .ok
    (writeOctet bits position
      (bitOr (octetAt bits position) (shiftRight 0x80 (bitAnd bitIndex 7).toNat)))

/-- Read `count` bits behind `value`, most significant first. -/
def readBits (bits : Bytes) : Nat → Number → Number → Attempt Number
  | 0, _, value => .ok value
  | count + 1, position, value => do
      let bit ← bitAt bits position
      readBits bits count (position + 1) (bitOr (shiftLeft value 1) bit)

/-- The status of an entry. -/
def statusAt (list : DecodedStatusList) (index : Number) : Attempt Number := do
  failIf (index < 0)
    (statusListFailure
      (js "status list index " ++ numberText index ++ js " must be a non-negative integer"))
  let start := index * list.statusSize
  failIf (start + list.statusSize > list.bitLength)
    (statusListFailure
      (js "RANGE_ERROR: entry " ++ numberText index ++ js " (bits " ++ numberText start ++ js ".."
        ++ numberText (start + list.statusSize - 1) ++ js ") is outside a "
        ++ numberText list.bitLength ++ js "-bit status list"))
  readBits list.bits list.statusSize start 0

-----------------------------------------------------------------------------------------
-- Checks on remote data
-----------------------------------------------------------------------------------------

/-- An absent size is one bit. -/
def normalizeStatusSize (raw : Option Json.Value) : Attempt Nat :=
  match raw with
  | none => .ok 1
  | some (.number size) => do
      failIf (size < 1)
        (statusListFailure
          (js "statusSize must be an integer greater than zero, got " ++ numberText size))
      failIf (size > 8)
        (statusListFailure
          (js "statusSize " ++ numberText size ++ js " exceeds the supported maximum of 8"))
      .ok size.toNat
  | some other =>
      .error
        (statusListFailure
          (js "statusSize must be an integer greater than zero, got " ++ Json.stringify other))

/-- The longest fragment of remote data that a message quotes. -/
def maxEchoedDetailChars : Nat := 80

def clampForDetail (value : Option Json.Value) : JsString :=
  let s := (value.map Json.stringify).getD (js "undefined")
  if s.length ≤ maxEchoedDetailChars then
    s
  else
    s.take maxEchoedDetailChars ++ js "... (" ++ numberText s.length ++ js " chars, truncated)"

def isHexDigit (unit : UInt16) : Bool :=
  isLowerHexDigit unit || (65 ≤ unit && unit ≤ 70)

/-- `/^0x[0-9a-fA-F]+$/` -/
def isStatusCode (text : JsString) : Bool :=
  text.take 2 == js "0x" && (text.drop 2 != [] && (text.drop 2).all isHexDigit)

/-- One element of `statusMessage`. -/
def assertStatusEntry (position : Nat) (entry : Json.Value) : Attempt Unit := do
  let place := js "statusMessage[" ++ numberText position ++ js "]"
  failIf (entry.isObject = false) (statusListFailure (place ++ js " must be an object"))
  failIf (((Json.text entry (js "status")).any isStatusCode) = false)
    (statusListFailure
      (place ++ js ".status must be a \"0x\"-prefixed hexadecimal string, got "
        ++ clampForDetail (entry.get (js "status"))))
  failIf (Json.text entry (js "message") = none)
    (statusListFailure (place ++ js ".message must be a string"))

def assertStatusEntries : Nat → List Json.Value → Attempt Unit
  | _, [] => .ok ()
  | position, entry :: rest => do
      assertStatusEntry position entry
      assertStatusEntries (position + 1) rest

/-- Above one bit, an entry for every status is required. -/
def assertStatusMessage (raw : Option Json.Value) (statusSize : Nat) : Attempt Unit :=
  match raw with
  | none =>
      failIf (1 < statusSize)
        (statusListFailure
          (js "statusMessage is REQUIRED when statusSize is greater than 1 (statusSize "
            ++ numberText statusSize ++ js "); a multi-bit status list without it has no "
            ++ js "defined meaning for its non-zero values"))
  | some (.array entries) => do
      failIf (entries.length ≠ 2 ^ statusSize)
        (statusListFailure
          (js "statusMessage must hold exactly " ++ numberText (2 ^ statusSize : Nat)
            ++ js " elements for statusSize " ++ numberText statusSize ++ js ", got "
            ++ numberText entries.length))
      assertStatusEntries 0 entries
  | some _ => .error (statusListFailure (js "statusMessage must be an array"))

def assertKnownPurpose (purpose : JsString) : Attempt JsString := do
  failIf (purpose ∉ statusPurposes)
    (statusListFailure
      (js "unsupported statusPurpose \"" ++ purpose ++ js "\"; this verifier acts only on "
        ++ js "revocation/suspension and refuses to treat anything else as \"not revoked\""))
  .ok purpose

-----------------------------------------------------------------------------------------
-- Decoding and encoding
-----------------------------------------------------------------------------------------

def multibaseDecode (s : JsString) : Attempt Bytes :=
  match s with
  | [] => .error (statusListFailure (js "encodedList must be a non-empty multibase string"))
  | first :: rest => do
      failIf (first ≠ multibaseBase64urlNopadPrefix)
        (statusListFailure
          (js "encodedList must use the multibase \"u\" (base64url-no-pad) prefix, got \""
            ++ [first] ++ js "\""))
      base64urlDecode rest

/-- Decompress, but no further than the ceiling. -/
def gunzip (platform : Platform) (compressed : Bytes) : Attempt Bytes :=
  match platform.gunzip compressed with
  | none => .error (statusListFailure (js "status list is not valid GZIP"))
  | some bits => do
      failIf (maxStatusListBytes < bits.length)
        (statusListFailure
          (js "status list expands past the 16777216-byte ceiling; refusing to decompress "
            ++ js "further"))
      .ok bits

/-- Decode a list for a purpose, if one is asked about. -/
def decodeStatusList (platform : Platform) (list : BitstringStatusList)
    (expectedPurpose : Option JsString)
    : Attempt DecodedStatusList := do
  let statusPurpose ← assertKnownPurpose list.statusPurpose
  failIf (expectedPurpose.any (fun expected => expected != statusPurpose) = true)
    (statusListFailure
      (js "statusPurpose mismatch: verifier asked about \"" ++ expectedPurpose.getD []
        ++ js "\" but the supplied list is a \"" ++ statusPurpose ++ js "\" list"))
  let statusSize ← normalizeStatusSize list.statusSize
  assertStatusMessage list.statusMessage statusSize
  let compressed ← multibaseDecode list.encodedList
  let bits ← gunzip platform compressed
  let decoded : DecodedStatusList := { statusPurpose, statusSize, bits }
  failIf (decoded.entryCount < minimumStatusListEntries)
    (statusListFailure
      (js "STATUS_LIST_LENGTH_ERROR: list holds " ++ numberText decoded.entryCount
        ++ js " entries (" ++ numberText bits.length ++ js " bytes / statusSize "
        ++ numberText statusSize ++ js "), spec minimum is 131072. A short list is a privacy "
        ++ js "leak, so it is rejected rather than padded."))
  .ok decoded

structure EncodeStatusListOptions where
  statusPurpose : JsString
  set : List Number
  entries : Option Number
  statusSize : Option Number

/-- Set every bit of `count` from a position on. -/
def setBits : Nat → Number → Bytes → Attempt Bytes
  | 0, _, bits => .ok bits
  | count + 1, position, bits => do
      let bits ← setBit bits position
      setBits count (position + 1) bits

/-- Set the entries of a list one after another. -/
def setEntries (entries : Number) (statusSize : Nat) : List Number → Bytes → Attempt Bytes
  | [], bits => .ok bits
  | idx :: rest, bits => do
      failIf (idx < 0 ∨ idx ≥ entries)
        (statusListFailure
          (js "index " ++ numberText idx ++ js " is outside a " ++ numberText entries
            ++ js "-entry list"))
      let bits ← setBits statusSize (idx * statusSize) bits
      setEntries entries statusSize rest bits

/-- A number in hexadecimal digits without padding. -/
def hexNumberText (value : Nat) : JsString :=
  (Nat.toDigits 16 value).map (fun char => UInt16.ofNat char.toNat)

/-- The default message of a status. -/
def defaultStatusMessage (statusPurpose : JsString) (status : Nat) : Json.Value :=
  .object
    [
      (js "status", .string (js "0x" ++ hexNumberText status)),
      (
        js "message",
        .string
          (if status = 0 then
            js "valid"
          else
            (if statusPurpose = js "suspension" then js "suspended" else js "revoked")
              ++ js " (code " ++ numberText status ++ js ")")
      )
    ]

/-- A bitstring, compressed and in multibase text. -/
def encodedBits (platform : Platform) (bits : Bytes) : JsString :=
  multibaseBase64urlNopadPrefix :: base64urlEncode (platform.gzip bits)

/-- The list in wire shape. Above one bit it gets a default message for every status. -/
def wireList (statusPurpose : JsString) (statusSize : Nat) (encodedList : JsString)
    : BitstringStatusList :=
  if statusSize = 1 then
    { statusPurpose, encodedList, statusSize := none, statusMessage := none }
  else
    {
      statusPurpose
      encodedList
      statusSize := some (.number statusSize)
      statusMessage :=
        some (.array ((List.range (2 ^ statusSize)).map (defaultStatusMessage statusPurpose)))
    }

/-- Build a list whose given entries have every bit set. -/
def encodeStatusList (platform : Platform) (options : EncodeStatusListOptions)
    : Attempt BitstringStatusList := do
  let statusPurpose ← assertKnownPurpose options.statusPurpose
  let statusSize ← normalizeStatusSize (options.statusSize.map Json.Value.number)
  let entries := options.entries.getD minimumStatusListEntries
  failIf (entries < minimumStatusListEntries)
    (statusListFailure
      (js "a status list must hold at least 131072 entries, got " ++ numberText entries))
  let bitLength := entries * statusSize
  failIf (bitLength % 8 ≠ 0)
    (statusListFailure (js "entries * statusSize must be a whole number of bytes"))
  -- The platform throws a RangeError for a larger array.
  failIf (bitLength / 8 > platform.maxBufferBytes) libraryFailure
  let bits ← setEntries entries statusSize options.set (List.replicate (bitLength / 8).toNat 0)
  .ok (wireList statusPurpose statusSize (encodedBits platform bits))

end StellarOnramp.Identity

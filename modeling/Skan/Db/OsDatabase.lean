import Skan.Detect.ServiceDb
import Skan.Packet.TCP

/-!
# The OS fingerprint database

`src/db/os_db.cpp`: how the text of a database is read, line by line, into fingerprints.

A fingerprint is open from its `Fingerprint` line to the next one, or to the end; then `finalize`
checks it and adds it to the others. Whatever fails, the parser gives up with a database that holds
nothing.
-/

namespace Skan.Db

open Skan.Core Skan.Packet Skan.Detect

inductive FingerprintField where
  | ttl
  | dontFragment
  | window
  | mss
  | windowScale
  | sackPermitted
  | timestamps
  | tcpOptions
  | tcpFlags
  | ackBehavior
  | sequenceBehavior
  | responseBehavior
  | icmpTtl
  | icmpType
  | icmpCode
  | udpPayloadLength
  | udpResponseBehavior
  | responsePresence
  deriving DecidableEq

structure FingerprintSignature where
  field : FingerprintField := .ttl
  number : Option ℤ := none
  minimum : Option ℤ := none
  maximum : Option ℤ := none
  boolean : Option Bool := none
  text : Text := []
  options : List TcpOptionKind := []
  deriving DecidableEq

structure OSFingerprint where
  name : Text := []
  vendor : Text := []
  family : Text := []
  generation : Text := []
  deviceType : Text := []
  signatures : List FingerprintSignature := []
  addressFamily : AddressFamily := .ipv4
  id : Text := []
  specificity : ℕ := 0
  deriving DecidableEq

structure OSFingerprintDatabase where
  status : StatusCode := .ok
  fingerprints : List OSFingerprint := []

namespace OsDb

/-- `kMaximumDatabaseBytes`. -/
def maximumDatabaseBytes : ℕ := 1048576

/-- `kMaximumLineBytes`. -/
def maximumLineBytes : ℕ := 4096

/-- `kMaximumFingerprints`. -/
def maximumFingerprints : ℕ := 256

/-- `kMaximumSignatures`. -/
def maximumSignatures : ℕ := 64

/-- `kMaximumStringBytes`. -/
def maximumStringBytes : ℕ := 128

/-! ### Values -/

def isBlank (c : UInt8) : Bool := c = 0x20 || c = 0x09 || c = 0x0D

/-- `trim`. -/
def trim (value : Text) : Text := ((value.dropWhile isBlank).reverse.dropWhile isBlank).reverse

/-- `parse_integer`: `std::from_chars` into a `std::int64_t`, of the whole text. -/
def parseInteger (text : Text) : Option ℤ :=
  match trim text with
  | 0x2D :: digits => ((unsignedNumber 10 digits).filter (· ≤ 2 ^ 63)).map fun n ↦ -(n : ℤ)
  | digits => ((unsignedNumber 10 digits).filter (· < 2 ^ 63)).map fun n ↦ (n : ℤ)

/-- `parse_range`. -/
def parseRange (text : Text) : Option (ℤ × ℤ) :=
  match (trim text).span (· ≠ 0x2D) with
  | (_, []) => none
  | (front, _ :: back) =>
    if front = [] || back = [] then none
    else do
      let minimum ← parseInteger front
      let maximum ← parseInteger back
      if minimum < 0 || maximum < minimum then none else some (minimum, maximum)

/-- `parse_boolean`. -/
def parseBoolean (text : Text) : Option Bool :=
  let text := trim text
  if text = literal "Y" || text = literal "YES" || text = literal "1" then some true
  else if text = literal "N" || text = literal "NO" || text = literal "0" then some false
  else none

/-- `split_pipe` and `split_comma`. -/
def splitTrimmed (separator : UInt8) (text : Text) : List Text :=
  (text.splitOn separator).map trim

/-- `parse_option`. -/
def parseOption (text : Text) : Option TcpOptionKind :=
  let text := trim text
  if text = literal "NOP" then some .nop
  else if text = literal "MSS" then some .mss
  else if text = literal "WS" || text = literal "WSCALE" then some .windowScale
  else if text = literal "SACK" then some .sackPermitted
  else if text = literal "TS" || text = literal "TIMESTAMP" then some .timestamp
  else none

/-- `parse_family`. -/
def parseFamily (text : Text) : Option AddressFamily :=
  let text := trim text
  if text = literal "IPv4" || text = literal "ipv4" then some .ipv4
  else if text = literal "IPv6" || text = literal "ipv6" then some .ipv6
  else none

/-! ### Signatures -/

/-- The keys of a number. -/
def numberField (key : Text) : Option FingerprintField :=
  if key = literal "TTL" then some .ttl
  else if key = literal "WINDOW" then some .window
  else if key = literal "MSS" then some .mss
  else if key = literal "WSCALE" then some .windowScale
  else if key = literal "TCP_FLAGS" then some .tcpFlags
  else if key = literal "ICMP_TTL" then some .icmpTtl
  else if key = literal "UDP_PAYLOAD_LENGTH" then some .udpPayloadLength
  else if key = literal "ICMP_TYPE" then some .icmpType
  else if key = literal "ICMP_CODE" then some .icmpCode
  else none

/-- The keys of a truth value. -/
def booleanField (key : Text) : Option FingerprintField :=
  if key = literal "DF" then some .dontFragment
  else if key = literal "SACK" then some .sackPermitted
  else if key = literal "TIMESTAMP" then some .timestamps
  else if key = literal "RESPONSE_PRESENCE" then some .responsePresence
  else none

/-- The keys of a range. -/
def rangeField (key : Text) : Option FingerprintField :=
  if key = literal "TTL_RANGE" then some .ttl
  else if key = literal "WINDOW_RANGE" then some .window
  else if key = literal "ICMP_TTL_RANGE" then some .icmpTtl
  else if key = literal "UDP_PAYLOAD_RANGE" then some .udpPayloadLength
  else none

/-- The keys of a text. -/
def textField (key : Text) : Option FingerprintField :=
  if key = literal "UDP_RESPONSE_BEHAVIOR" then some .udpResponseBehavior
  else if key = literal "ACK_BEHAVIOR" then some .ackBehavior
  else if key = literal "SEQUENCE_BEHAVIOR" then some .sequenceBehavior
  else if key = literal "RESPONSE_BEHAVIOR" then some .responseBehavior
  else none

/-- The signature of a field, if the key and the value are recognized. -/
def signature (key value : Text) : Option FingerprintSignature :=
  match numberField key, booleanField key, rangeField key, textField key with
  | some field, _, _, _ =>
    ((parseInteger value).filter (0 ≤ ·)).map fun number ↦ { field, number := some number }
  | _, some field, _, _ => (parseBoolean value).map fun boolean ↦ { field, boolean := some boolean }
  | _, _, some field, _ => (parseRange value).map fun (minimum, maximum) ↦
    { field, minimum := some minimum, maximum := some maximum }
  | _, _, _, some field => some { field, text := value }
  | _, _, _, _ =>
    if key = literal "TCP_OPTIONS" then
      ((splitTrimmed 0x2C value).mapM parseOption).map fun options ↦
        { field := .tcpOptions, options }
    else none

/-! ### Lines -/

/-- What the loop of `parse` keeps from line to line. -/
structure OsState where
  current : Option OSFingerprint := none
  hasClass : Bool := false
  hasFamilyMetadata : Bool := false
  names : List Text := []
  ids : List Text := []
  fingerprints : List OSFingerprint := []

/-- `has_field`. -/
def hasField (fingerprint : OSFingerprint) (field : FingerprintField) : Bool :=
  fingerprint.signatures.any (·.field = field)

/-- What `finalize` fills in. -/
def completed (current : OSFingerprint) : OSFingerprint :=
  { current with
    id := if current.id = [] then current.name else current.id
    specificity :=
      if current.specificity = 0 then current.signatures.length % 2 ^ 16
      else current.specificity }

/-- `finalize`. -/
def finalize (expectedFamily : AddressFamily) (s : OsState) : Option OsState :=
  match s.current with
  | none => some s
  | some current =>
    let current := completed current
    if !s.hasClass || current.signatures = [] || current.vendor = [] || current.family = [] ||
        maximumStringBytes < current.name.length || maximumStringBytes < current.vendor.length ||
        maximumStringBytes < current.family.length ||
        maximumStringBytes < current.generation.length ||
        maximumStringBytes < current.deviceType.length ||
        maximumSignatures < current.signatures.length ||
        (expectedFamily = .ipv6 && !s.hasFamilyMetadata) ||
        (expectedFamily ≠ .unknown && current.addressFamily ≠ expectedFamily) ||
        maximumFingerprints ≤ s.fingerprints.length || current.name ∈ s.names ||
        current.id ∈ s.ids then
      none
    else
      some { s with
        current := none
        hasClass := false
        names := current.name :: s.names
        ids := current.id :: s.ids
        fingerprints := s.fingerprints ++ [current] }

/-- A `Fingerprint` line. -/
def fingerprintLine (expectedFamily : AddressFamily) (s : OsState) (view : Text) :
    Option OsState := do
  let s ← finalize expectedFamily s
  let name := trim (view.drop 11)
  if name = [] then none
  else
    some { s with
      current := some
        { name
          id := name
          addressFamily := if expectedFamily = .unknown then .ipv4 else expectedFamily }
      hasFamilyMetadata := false }

/-- A `Class` line. -/
def classLine (current : OSFingerprint) (view : Text) : Option OSFingerprint :=
  let values := splitTrimmed 0x7C (view.drop 6)
  if values.length < 2 || 4 < values.length || [] ∈ values then none
  else
    some { current with
      vendor := values.getD 0 []
      family := values.getD 1 []
      generation := values.getD 2 []
      deviceType := values.getD 3 [] }

/-- A line `key=value`, and whether it was the address family. -/
def fieldLine (expectedFamily : AddressFamily) (hasFamilyMetadata : Bool)
    (current : OSFingerprint) (key value : Text) : Option (OSFingerprint × Bool) :=
  if key = literal "ID" then
    if maximumStringBytes < value.length || current.id ≠ current.name then none
    else some ({ current with id := value }, hasFamilyMetadata)
  else if key = literal "SPECIFICITY" then
    match (parseInteger value).filter fun n ↦ 0 < n && n ≤ 65535 with
    | none => none
    | some n => some ({ current with specificity := n.toNat }, hasFamilyMetadata)
  else if key = literal "ADDRESS_FAMILY" then
    match parseFamily value with
    | none => none
    | some family =>
      if hasFamilyMetadata || (expectedFamily ≠ .unknown && family ≠ expectedFamily) then none
      else some ({ current with addressFamily := family }, true)
  else
    match signature key value with
    | none => none
    | some signature =>
      if hasField current signature.field || maximumStringBytes < signature.text.length ||
          maximumSignatures < signature.options.length ||
          maximumSignatures ≤ current.signatures.length then
        none
      else
        some ({ current with signatures := current.signatures ++ [signature] }, hasFamilyMetadata)

/-- A line without the comment and the blanks around it. -/
def content (line : Text) : Text :=
  let view := trim line
  if 0x23 ∈ view then trim (view.takeWhile (· ≠ 0x23)) else view

/-- A pass of the loop of `parse`; nothing if it gives up. -/
def osLine (expectedFamily : AddressFamily) (s : OsState) (line : Text) : Option OsState :=
  if maximumLineBytes < line.length then none
  else
    let view := content line
    if view = [] then some s
    else if (literal "Fingerprint ").isPrefixOf view then fingerprintLine expectedFamily s view
    else
      match s.current with
      | none => none
      | some current =>
        if (literal "Class ").isPrefixOf view then
          if s.hasClass then none
          else (classLine current view).map fun current ↦
            { s with current := some current, hasClass := true }
        else
          match view.span (· ≠ 0x3D) with
          | (_, []) | ([], _) => none
          | (key, _ :: value) =>
            let key := trim key
            let value := trim value
            if key = [] || value = [] then none
            else (fieldLine expectedFamily s.hasFamilyMetadata current key value).map
              fun (current, hasFamilyMetadata) ↦
                { s with current := some current, hasFamilyMetadata }

/-! ### Databases -/

/-- A database, and the status that is reported of reading it. -/
structure Load where
  database : OSFingerprintDatabase
  status : StatusCode

/-- `parse`. -/
def parse (expectedFamily : AddressFamily) (text : Text) : Load :=
  if maximumDatabaseBytes < text.length then
    { database := { status := .parseError }, status := .parseError }
  else
    let read := ((ServiceDb.lines text).foldlM (osLine expectedFamily) {}).bind
      (finalize expectedFamily)
    match read with
    | none => { database := {}, status := .parseError }
    | some s =>
      if s.fingerprints = [] then { database := {}, status := .parseError }
      else { database := { fingerprints := s.fingerprints }, status := .ok }

end OsDb

end Skan.Db

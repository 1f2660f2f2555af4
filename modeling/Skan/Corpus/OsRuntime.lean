import Skan.Corpus.RuntimeLines

/-!
# The importer of OS fingerprint databases

`parse_os_runtime` of `tools/corpus/runtime.py`. A `Fingerprint` line ends the fingerprint before
it, whose record is made then (`finalizeOs`). -/

namespace Skan.Corpus

/-- `_OSFingerprint`. -/
structure RuntimeFingerprint where
  name : Str
  runtimeId : Str
  addressFamily : OSAddressFamily
  vendor : Option Str := none
  osFamily : Option Str := none
  osGeneration : Str := []
  deviceType : Str := []
  specificity : Option ℕ := none
  hasAddressFamily : Bool := false
  signatures : List OSSignature := []
  fields : List Str := []

/-- The variables of the loop over the lines. -/
structure OsImport where
  records : List CanonicalRecord := []
  names : List Str := []
  ids : List Str := []
  current : Option RuntimeFingerprint := none
  material : Bytes := []

/-! ### Directives -/

/-- `_OS_NUMERIC_DIRECTIVES`, with the maxima; every minimum is zero. -/
def osNumericDirectives : List (Str × SignatureField × ℕ) :=
  [("TTL".toList, .ttl, 255), ("WINDOW".toList, .window, 65535), ("MSS".toList, .mss, 65535),
    ("WSCALE".toList, .windowScale, 255), ("TCP_FLAGS".toList, .tcpFlags, 255),
    ("ICMP_TTL".toList, .icmpTtl, 255), ("ICMP_TYPE".toList, .icmpType, 255),
    ("ICMP_CODE".toList, .icmpCode, 255), ("UDP_PAYLOAD_LENGTH".toList, .udpPayloadLength, 65535)]

/-- `_OS_RANGE_DIRECTIVES`. -/
def osRangeDirectives : List (Str × SignatureField × ℕ) :=
  [("TTL_RANGE".toList, .ttl, 255), ("WINDOW_RANGE".toList, .window, 65535),
    ("ICMP_TTL_RANGE".toList, .icmpTtl, 255),
      ("UDP_PAYLOAD_RANGE".toList, .udpPayloadLength, 65535)]

/-- `_OS_BOOLEAN_DIRECTIVES`. -/
def osBooleanDirectives : List (Str × SignatureField) :=
  [("DF".toList, .dontFragment), ("SACK".toList, .sackPermitted), ("TIMESTAMP".toList, .timestamps),
    ("RESPONSE_PRESENCE".toList, .responsePresence)]

/-- `_OS_TEXT_DIRECTIVES`. -/
def osTextDirectives : List (Str × SignatureField) :=
  [("ACK_BEHAVIOR".toList, .ackBehavior), ("SEQUENCE_BEHAVIOR".toList, .sequenceBehavior),
    ("RESPONSE_BEHAVIOR".toList, .responseBehavior),
    ("UDP_RESPONSE_BEHAVIOR".toList, .udpResponseBehavior)]

/-- `aliases`. -/
def optionAliases : List (Bytes × Str) :=
  [(bytesOf "NOP", "NOP".toList), (bytesOf "MSS", "MSS".toList), (bytesOf "WS", "WS".toList),
    (bytesOf "WSCALE", "WS".toList), (bytesOf "SACK", "SACK".toList), (bytesOf "TS", "TS".toList),
    (bytesOf "TIMESTAMP", "TS".toList)]

/-- The bytes that `strip(b" \t\r")` removes. -/
def isBlank (c : UInt8) : Bool := c = 0x20 || c = 0x09 || c = 0x0D

def stripBlanks (value : Bytes) : Bytes := Strings.strip isBlank value

/-- `_os_boolean`. -/
def osBoolean (value : Bytes) (lineNumber : ℕ) : Except RuntimeCorpusError Bool :=
  let normalized := stripBlanks value
  if normalized ∈ [bytesOf "Y", bytesOf "YES", bytesOf "1"] then .ok true
  else if normalized ∈ [bytesOf "N", bytesOf "NO", bytesOf "0"] then .ok false
  else raise s!"line {lineNumber}: invalid OS boolean"

/-- `_os_range`. -/
def osRange (value : Bytes) (field : String) (maximum : ℕ) :
    Except RuntimeCorpusError SignatureValue :=
  match Strings.partition 0x2D value with
  | (lower, some upper) => do
    demand (!lower.isEmpty && !upper.isEmpty && 0x2D ∉ upper) s!"invalid {field} range"
    let parsedLower ← unsigned (stripBlanks lower) field 0 maximum
    let parsedUpper ← unsigned (stripBlanks upper) field 0 maximum
    demand (parsedLower ≤ parsedUpper) s!"invalid {field} range"
    return .range parsedLower parsedUpper
  | _ => raise s!"invalid {field} range"

/-- One TCP option. -/
def tcpOption (lineNumber : ℕ) (option : Bytes) : Except RuntimeCorpusError Str :=
  match optionAliases.lookup (stripBlanks option) with
  | some name => .ok name
  | none => raise s!"line {lineNumber}: invalid TCP option"

/-- The signature of a directive line, if the directive is one of a signature. -/
def signatureOf (key : Str) (value : Bytes) (lineNumber : ℕ) :
    Option (SignatureField × Except RuntimeCorpusError OSSignature) :=
  match osNumericDirectives.lookup key with
  | some (field, maximum) => some (field, do
      let number ← unsigned value (String.ofList field.name) 0 maximum
      return { field, operator := .eq, value := .number number })
  | none =>
    match osRangeDirectives.lookup key with
    | some (field, maximum) => some (field, do
        let value ← osRange value (String.ofList field.name) maximum
        return { field, operator := .range, value })
    | none =>
      match osBooleanDirectives.lookup key with
      | some field => some (field, do
          let flag ← osBoolean value lineNumber
          return { field, operator := .bool, value := .bool flag })
      | none =>
        if key = "TCP_OPTIONS".toList then some (.tcpOptions, do
          let options ← (value.splitOn 0x2C).mapM (tcpOption lineNumber)
          return { field := .tcpOptions, operator := .tcpOptions, value := .options options })
        else
          match osTextDirectives.lookup key with
          | some field => some (field, do
              let text ← utf8Text value (String.ofList field.name)
              return { field, operator := .text, value := .text text })
          | none => none

/-! ### Records -/

section

variable (py : Platform) (context : ImportContext)

/-- `_finalize_os`, of a fingerprint. -/
def finalizeOs (fingerprint : RuntimeFingerprint) (material : Bytes)
    (records : List CanonicalRecord) : Except RuntimeCorpusError (List CanonicalRecord) :=
  match fingerprint.vendor, fingerprint.osFamily with
  | some vendor, some osFamily => do
    demand (!fingerprint.signatures.isEmpty &&
        (fingerprint.addressFamily ≠ .ipv6 || fingerprint.hasAddressFamily))
      s!"incomplete OS fingerprint: {String.ofList fingerprint.name}"
    let record ← record py
      (.osFingerprint {
        runtimeId := fingerprint.runtimeId
        name := fingerprint.name
        vendor, osFamily
        osGeneration := fingerprint.osGeneration
        deviceType := fingerprint.deviceType
        addressFamily := fingerprint.addressFamily
        specificity := fingerprint.specificity.getD fingerprint.signatures.length
        signatures := fingerprint.signatures })
      (context.sourcePath ++ ":fingerprint:".toList ++ fingerprint.runtimeId) material context
    return records ++ [record]
  | _, _ => raise s!"incomplete OS fingerprint: {String.ofList fingerprint.name}"

/-- `_finalize_os`. -/
def finalizeCurrent (s : OsImport) : Except RuntimeCorpusError (List CanonicalRecord) :=
  match s.current with
  | some fingerprint => finalizeOs py context fingerprint s.material s.records
  | none => .ok s.records

/-! ### Lines -/

/-- A `Fingerprint` line. -/
def fingerprintLine (addressFamily : OSAddressFamily) (s : OsImport) (content material : Bytes)
    (lineNumber : ℕ) : Except RuntimeCorpusError OsImport := do
  let records ← finalizeCurrent py context s
  let name ← utf8Text (stripBlanks (content.drop 12)) "OS fingerprint name"
  demand (!name.isEmpty) s!"line {lineNumber}: empty OS fingerprint name"
  demand (name ∉ s.names)
    s!"line {lineNumber}: duplicate OS fingerprint name: {String.ofList name}"
  demand (records.length < maxProbes) s!"OS fingerprint count exceeds {maxProbes}"
  return { s with
    records
    names := name :: s.names
    current := some { name, runtimeId := name, addressFamily }
    material }

/-- A `Class` line. -/
def classLine (current : RuntimeFingerprint) (content : Bytes) (lineNumber : ℕ) :
    Except RuntimeCorpusError RuntimeFingerprint := do
  demand ("Class".toList ∉ current.fields) s!"line {lineNumber}: duplicate OS field: Class"
  let values := ((content.drop 6).splitOn 0x7C).map stripBlanks
  demand (values.all (!·.isEmpty)) s!"line {lineNumber}: malformed OS Class"
  let fields := "Class".toList :: current.fields
  match values with
  | [vendor, family] => do
    let vendor ← utf8Text vendor "OS vendor"
    let osFamily ← utf8Text family "OS family"
    return { current with
      vendor := some vendor, osFamily := some osFamily, osGeneration := [], deviceType :=
        [], fields }
  | [vendor, family, generation] => do
    let vendor ← utf8Text vendor "OS vendor"
    let osFamily ← utf8Text family "OS family"
    let osGeneration ← utf8Text generation "OS generation"
    return { current with
      vendor := some vendor, osFamily := some osFamily, osGeneration, deviceType := [], fields }
  | [vendor, family, generation, device] => do
    let vendor ← utf8Text vendor "OS vendor"
    let osFamily ← utf8Text family "OS family"
    let osGeneration ← utf8Text generation "OS generation"
    let deviceType ← utf8Text device "OS device type"
    return { current with
      vendor := some vendor, osFamily := some osFamily, osGeneration, deviceType, fields }
  | _ => raise s!"line {lineNumber}: malformed OS Class"

/-- The directives that are not of a signature: the fingerprint and the identifiers so far. -/
def identityDirective (addressFamily : OSAddressFamily) (ids : List Str)
    (current : RuntimeFingerprint) (key : Str) (value : Bytes) (lineNumber : ℕ) :
    Except RuntimeCorpusError (RuntimeFingerprint × List Str) :=
  if key = "ID".toList then do
    let runtimeId ← utf8Text value "OS fingerprint ID"
    demand (runtimeId ∉ ids)
      s!"line {lineNumber}: duplicate OS fingerprint ID: {String.ofList runtimeId}"
    demand (current.runtimeId = current.name) s!"line {lineNumber}: duplicate OS field: ID"
    return ({ current with runtimeId, fields := key :: current.fields }, runtimeId :: ids)
  else if key = "SPECIFICITY".toList then do
    let specificity ← unsigned value "OS specificity" 1 65535
    return ({ current with specificity := some specificity, fields := key :: current.fields }, ids)
  else if key = "ADDRESS_FAMILY".toList then do
    let text ← asciiText value "OS address family"
    let parsedFamily ← match text.map Char.toLower with
      | ['i', 'p', 'v', '4'] => .ok OSAddressFamily.ipv4
      | ['i', 'p', 'v', '6'] => .ok OSAddressFamily.ipv6
      | _ => raise s!"line {lineNumber}: invalid OS address family"
    demand (parsedFamily = addressFamily) "mixed OS address family"
    return ({ current with hasAddressFamily := true, fields := key :: current.fields }, ids)
  else raise s!"line {lineNumber}: unknown OS directive: {String.ofList key}"

/-- A line with an assignment. -/
def directiveLine (addressFamily : OSAddressFamily) (s : OsImport) (current : RuntimeFingerprint)
    (content : Bytes) (lineNumber : ℕ) : Except RuntimeCorpusError OsImport :=
  match Strings.partition 0x3D content with
  | (rawKey, some rawValue) => do
    let keyBytes := stripBlanks rawKey
    let value := stripBlanks rawValue
    demand (!keyBytes.isEmpty && !value.isEmpty) s!"line {lineNumber}: malformed OS directive"
    let key ← asciiText keyBytes s!"line {lineNumber} OS directive"
    demand (key ∉ current.fields) s!"line {lineNumber}: duplicate OS field: {String.ofList key}"
    match signatureOf key value lineNumber with
    | some (field, parsed) => do
      demand (field.name ∉ current.fields)
        s!"line {lineNumber}: duplicate OS signature field: {String.ofList field.name}"
      let signature ← parsed
      return { s with
        current := some { current with
          signatures := current.signatures ++ [signature]
          fields := field.name :: current.fields } }
    | none => do
      let (current, ids) ← identityDirective addressFamily s.ids current key value lineNumber
      return { s with current := some current, ids }
  | _ => raise s!"line {lineNumber}: malformed OS directive"

/-- What a line adds to the material of a fingerprint: the line without the carriage return at its
end, and the newline unless the line is the last one. -/
def canonicalMaterial (rawLine : Bytes) (isLast : Bool) : Bytes :=
  (if rawLine.getLast? = some 0x0D then rawLine.dropLast else rawLine) ++
    if isLast then [] else [0x0A]

/-- A line without its comment. -/
def osContent (rawLine : Bytes) : Bytes :=
  match Strings.partition 0x23 (stripBlanks rawLine) with
  | (content, some _) => stripBlanks content
  | (content, none) => content

/-- A pass of the loop over the lines. -/
def osLine (addressFamily : OSAddressFamily) (count : ℕ) (s : OsImport) (numbered : Bytes × ℕ) :
    Except RuntimeCorpusError OsImport := do
  let (rawLine, lineNumber) := numbered
  demand (rawLine.length ≤ maxOsLineBytes) s!"line {lineNumber} exceeds {maxOsLineBytes} bytes"
  let material := canonicalMaterial rawLine (count ≤ lineNumber)
  let content := osContent rawLine
  if (bytesOf "Fingerprint ").isPrefixOf content then
    fingerprintLine py context addressFamily s content material lineNumber
  else
    match s.current with
    | none => do
      demand content.isEmpty s!"line {lineNumber}: OS directive without Fingerprint"
      return s
    | some current => do
      let s := { s with material := s.material ++ material }
      if content.isEmpty then return s
      else if (bytesOf "Class ").isPrefixOf content then
        let current ← classLine current content lineNumber
        return { s with current := some current }
      else directiveLine addressFamily s current content lineNumber

/-- The runtime identifiers of fingerprint records. -/
def runtimeIds (records : List CanonicalRecord) : List Str :=
  records.filterMap fun record ↦
    match record.body with
    | .osFingerprint body => some body.runtimeId
    | _ => none

/-- `parse_os_runtime`. -/
def parseOsRuntime (text : Bytes) (addressFamily : OSAddressFamily) :
    Except RuntimeCorpusError (List CanonicalRecord) := do
  demand (text.length ≤ maxDatabaseBytes) s!"database exceeds {maxDatabaseBytes} bytes"
  demand (.osFingerprint ∈ context.source.approvedDataClasses)
    "source policy does not authorize OS runtime records"
  let lines := text.splitOn 0x0A
  let s ← (lines.zipIdx 1).foldlM (osLine py context addressFamily lines.length) {}
  let records ← finalizeCurrent py context s
  demand (!records.isEmpty) "OS runtime contains no fingerprints"
  demand (runtimeIds records).Nodup "duplicate OS fingerprint ID"
  return records

end

end Skan.Corpus

import Skan.Library.Strings
import Skan.Output.Double

/-!
# The migration of OS fingerprint databases

`parse_os_db` and `emit_os_db` of `tools/corpus/runtime_os_db.py`: the text of a database as
canonical records, and records as the text of a database.

The texts are ASCII, so a character is a byte, and `text` is what `read_text` gives. Of a
`CanonicalRecord` of `tools/corpus/external_model.py` only the fields are modelled that depend on
the text or that the emitter reads; its hash `stable_record_id` is a parameter.
-/

namespace Skan.Corpus.RuntimeOsDb

open Skan.Core

/-- `ValueError`. -/
structure ValueError where
  message : Text
  deriving DecidableEq

/-! ### Texts -/

def isUpper (c : UInt8) : Bool := 0x41 ≤ c && c ≤ 0x5A

def isLower (c : UInt8) : Bool := 0x61 ≤ c && c ≤ 0x7A

def isFeatureChar (c : UInt8) : Bool := isUpper c || isDigit c || c = 0x5F

/-- `_FEATURE_RE`. -/
def isFeature : Text → Bool
  | [] => false
  | c :: cs => isUpper c && cs.all isFeatureChar

def isNameChar (c : UInt8) : Bool :=
  isUpper c || isLower c || isDigit c || c = 0x5F || c = 0x2E || c = 0x2B || c = 0x2D

/-- `_NAME_RE`. -/
def isName (name : Text) : Bool := !name.isEmpty && name.all isNameChar

/-- `str.isspace` of one character. -/
def isSpace (c : UInt8) : Bool := (0x09 ≤ c && c ≤ 0x0D) || (0x1C ≤ c && c ≤ 0x20)

/-- `str.strip`. -/
def strip (text : Text) : Text := Strings.strip isSpace text

/-- `str.lower`. -/
def lower (text : Text) : Text := text.map fun c ↦ if isUpper c then c + 0x20 else c

/-- The characters that end a line. -/
def isLineEnd (c : UInt8) : Bool := (0x0A ≤ c && c ≤ 0x0D) || (0x1C ≤ c && c ≤ 0x1E)

/-- `str.splitlines`, behind what was read of the first line. -/
def splitLinesFrom (current : Text) : Text → List Text
  | [] => if current = [] then [] else [current]
  | 0x0D :: 0x0A :: rest => current :: splitLinesFrom [] rest
  | c :: rest =>
    if isLineEnd c then current :: splitLinesFrom [] rest else splitLinesFrom (current ++ [c]) rest

/-- `str.splitlines`. -/
def splitLines (text : Text) : List Text := splitLinesFrom [] text

/-- The digits of a number, between two of which an underscore may stand. -/
def digits : Text → Option Text
  | [] => none
  | [c] => if isDigit c then some [c] else none
  | c :: 0x5F :: rest => if isDigit c then (digits rest).map (c :: ·) else none
  | c :: rest => if isDigit c then (digits rest).map (c :: ·) else none

/-- Whether there is a minus sign, and what stands behind the sign. -/
def signed : Text → Bool × Text
  | 0x2D :: number => (true, number)
  | 0x2B :: number => (false, number)
  | number => (false, number)

/-- `int(text, 10)`, which refuses numbers of more than 4300 digits. -/
def int (text : Text) : Option ℤ :=
  let (negative, number) := signed (strip text)
  ((digits number).filter (·.length ≤ 4300)).map fun digits ↦
    let n : ℕ := digits.foldl (fun n c ↦ n * 10 + (c.toNat - 0x30)) 0
    if negative then -n else n

/-- `f"{n}"`. -/
def integer (n : ℤ) : Text :=
  if n < 0 then 0x2D :: Output.decimal n.natAbs else Output.decimal n.natAbs

/-- `repr`. -/
def repr (text : Text) : Text :=
  let quote : UInt8 := if 0x27 ∈ text && 0x22 ∉ text then 0x22 else 0x27
  let character (c : UInt8) : Text :=
    if c = quote || c = 0x5C then [0x5C, c]
    else if c = 0x09 then literal "\\t"
    else if c = 0x0A then literal "\\n"
    else if c = 0x0D then literal "\\r"
    else if c < 0x20 || c = 0x7F then literal "\\x" ++ Utf8.encode (Strings.hexPair c)
    else [c]
  quote :: text.flatMap character ++ [quote]

/-- `repr` of a text that may be `None`. -/
def reprOptional : Option Text → Text
  | none => literal "None"
  | some text => repr text

/-! ### Records -/

/-- The fields of a `CanonicalRecord` that depend on the text or that the emitter reads. -/
structure CanonicalRecord where
  id : Text := []
  kind : Text
  addressFamily : Text
  vendor : Option Text
  osFamily : Option Text
  osGeneration : Option Text
  deviceType : Option Text
  fingerprintName : Option Text
  fingerprintNativeId : Option Text
  specificity : Option ℤ
  osFeatures : List (Text × Text)
  probeOrder : Option ℕ
  deriving DecidableEq

/-- The order of Python's tuples. -/
def tupleLe {α : Type} [LT α] [DecidableLT α] [DecidableEq α] (left right : α × Text) : Bool :=
  left.1 < right.1 || (left.1 = right.1 && left.2 ≤ right.2)

/-- `_ALLOWED_FAMILIES`. -/
def allowedFamilies : List Text := [literal "ipv4", literal "ipv6"]

/-! ### Reading -/

/-- The value of `"class"`. -/
structure ClassParts where
  vendor : Text
  osFamily : Text
  osGeneration : Text
  deviceType : Text
  deriving DecidableEq

/-- The dictionary `current`. -/
structure RawRecord where
  name : Text
  nativeId : Option Text := none
  specificity : Option ℤ := none
  classParts : Option ClassParts := none
  features : List (Text × Text) := []
  line : ℕ
  order : ℕ
  deriving DecidableEq

/-- What the loop of `parse_os_db` keeps from line to line. A raw record is there with its class. -/
structure Parsing where
  rawRecords : List (RawRecord × ClassParts) := []
  current : Option RawRecord := none
  names : List Text := []
  nativeIds : List Text := []
  deriving DecidableEq

section

variable (path : Text)

/-- `raise _fail(path, line_number, message)`. -/
def fail {α : Type} (lineNumber : ℕ) (message : Text) : Except ValueError α :=
  .error ⟨path ++ [0x3A] ++ Output.decimal lineNumber ++ literal ": " ++ message⟩

/-- `flush`. -/
def flush (s : Parsing) : Except ValueError Parsing :=
  match s.current with
  | none => .ok s
  | some current =>
    match current.classParts with
    | none => fail path current.line (literal "Fingerprint requires Class")
    | some parts =>
      if current.features = [] then
        fail path current.line (literal "Fingerprint requires at least one feature")
      else .ok { s with rawRecords := s.rawRecords ++ [(current, parts)], current := none }

/-- A `Fingerprint` line. -/
def fingerprintLine (lineNumber : ℕ) (s : Parsing) (content : Text) :
    Except ValueError Parsing := do
  let s ← flush path s
  let name := strip (content.drop 12)
  if !isName name then fail path lineNumber (literal "invalid Fingerprint name")
  else if name ∈ s.names then fail path lineNumber (literal "duplicate Fingerprint " ++ name)
  else
    return { s with
      names := name :: s.names
      current := some { name, line := lineNumber, order := s.rawRecords.length } }

/-- A `Class` line. -/
def classLine (lineNumber : ℕ) (current : RawRecord) (content : Text) :
    Except ValueError RawRecord :=
  if current.classParts.isSome then fail path lineNumber (literal "duplicate Class")
  else
    match ((content.drop 6).splitOn 0x7C).map strip with
    | [vendor, osFamily, osGeneration, deviceType] =>
      if vendor = [] || osFamily = [] || osGeneration = [] || deviceType = [] then
        fail path lineNumber
          (literal "Class requires vendor | os family | generation | device type")
      else .ok { current with classParts := some { vendor, osFamily, osGeneration, deviceType } }
    | _ =>
      fail path lineNumber (literal "Class requires vendor | os family | generation | device type")

/-- `_normalized_family`. -/
def normalizedFamily (value : Text) (lineNumber : ℕ) : Except ValueError Text :=
  let normalized := lower (strip value)
  if normalized ∈ allowedFamilies then .ok normalized
  else fail path lineNumber (literal "unsupported address family " ++ repr value)

/-- A line `key=value`, and the native ids behind it. -/
def featureLine (addressFamily : Text) (lineNumber : ℕ) (nativeIds : List Text)
    (current : RawRecord) (key value : Text) : Except ValueError (RawRecord × List Text) :=
  if key = literal "ID" then
    if current.nativeId.isSome then fail path lineNumber (literal "duplicate ID")
    else if value = [] then fail path lineNumber (literal "ID must be non-empty")
    else if value ∈ nativeIds then fail path lineNumber (literal "duplicate ID " ++ value)
    else .ok ({ current with nativeId := some value }, value :: nativeIds)
  else if key = literal "SPECIFICITY" then
    if current.specificity.isSome then fail path lineNumber (literal "duplicate SPECIFICITY")
    else
      match int value with
      | none => fail path lineNumber (literal "SPECIFICITY must be an integer")
      | some specificity =>
        if specificity < 0 then fail path lineNumber (literal "SPECIFICITY must be non-negative")
        else .ok ({ current with specificity := some specificity }, nativeIds)
  else if key = literal "ADDRESS_FAMILY" then do
    let declared ← normalizedFamily path value lineNumber
    if declared ≠ lower addressFamily then
      fail path lineNumber (literal "ADDRESS_FAMILY " ++ repr value ++
        literal " does not match requested " ++ repr addressFamily)
    else return (current, nativeIds)
  else if !isFeature key then
    fail path lineNumber (literal "invalid feature key " ++ repr key)
  else if key ∈ current.features.map (·.1) then
    fail path lineNumber (literal "duplicate feature " ++ key)
  else .ok ({ current with features := current.features ++ [(key, value)] }, nativeIds)

/-- A line without the comment and the spaces around it. -/
def content (rawLine : Text) : Text := strip (rawLine.takeWhile (· ≠ 0x23))

/-- A pass of the loop of `parse_os_db`. -/
def parseLine (addressFamily : Text) (s : Parsing) (numbered : Text × ℕ) :
    Except ValueError Parsing :=
  let (rawLine, lineNumber) := numbered
  let content := content rawLine
  if content = [] then .ok s
  else if (literal "Fingerprint ").isPrefixOf content then fingerprintLine path lineNumber s content
  else
    match s.current with
    | none => fail path lineNumber (literal "directive appears before Fingerprint")
    | some current =>
      if (literal "Class ").isPrefixOf content then
        (classLine path lineNumber current content).map fun current ↦
          { s with current := some current }
      else
        match Strings.partition 0x3D content with
        | ([], _) | (_, none) | (_, some []) =>
          fail path lineNumber (literal "expected KEY=VALUE or Class")
        | (key, some value) =>
          (featureLine path addressFamily lineNumber s.nativeIds current (strip key)
            (strip value)).map fun (current, nativeIds) ↦
              { s with current := some current, nativeIds }

/-- The raw records of the lines. -/
def parseLines (addressFamily text : Text) : Except ValueError (List (RawRecord × ClassParts)) := do
  let s ← ((splitLines text).zipIdx 1).foldlM (parseLine path addressFamily) {}
  let s ← flush path s
  return s.rawRecords

end

/-- The record that is made of a raw one. -/
def RawRecord.record (stableRecordId : CanonicalRecord → Text) (family : Text) (raw : RawRecord)
    (parts : ClassParts) : CanonicalRecord :=
  let record : CanonicalRecord :=
    { kind := literal "os_fingerprint"
      addressFamily := family
      vendor := some parts.vendor
      osFamily := some parts.osFamily
      osGeneration := some parts.osGeneration
      deviceType := some parts.deviceType
      fingerprintName := some raw.name
      fingerprintNativeId := raw.nativeId
      specificity := raw.specificity
      osFeatures := raw.features.mergeSort tupleLe
      probeOrder := some raw.order }
  -- `_finish`
  { record with id := stableRecordId record }

/-- `parse_os_db`. -/
def parseOsDb (stableRecordId : CanonicalRecord → Text) (path addressFamily text : Text) :
    Except ValueError (List CanonicalRecord) := do
  let family := lower addressFamily
  if family ∉ allowedFamilies then
    throw ⟨literal "address_family must be ipv4 or ipv6"⟩
  let rawRecords ← parseLines path addressFamily text
  if rawRecords = [] then throw ⟨path ++ literal ": database contains no fingerprints"⟩
  return rawRecords.map fun (raw, parts) ↦ raw.record stableRecordId family parts

/-! ### Writing -/

/-- What the loop of `emit_os_db` keeps from record to record. -/
structure Emission where
  names : List Text := []
  nativeIds : List Text := []
  lines : List Text := []

/-- The inner loop, behind the features that were seen. -/
def featureLines (name : Text) : List Text → List (Text × Text) → Except ValueError (List Text)
  | _, [] => .ok []
  | seenFeatures, (key, value) :: rest =>
    if !isFeature key || key ∈ seenFeatures || value = [] then
      .error ⟨literal "fingerprint " ++ name ++ literal " has invalid or duplicate feature " ++
        repr key⟩
    else (featureLines name (key :: seenFeatures) rest).map ((key ++ 0x3D :: value) :: ·)

/-- The line of a native id, and the native ids behind it. -/
def nativeIdLines (nativeIds : List Text) : Option Text → Except ValueError (List Text × List Text)
  | none => .ok ([], nativeIds)
  | some nativeId =>
    if nativeId = [] || nativeId ∈ nativeIds then
      .error ⟨literal "invalid or duplicate fingerprint native ID " ++ repr nativeId⟩
    else .ok ([literal "ID=" ++ nativeId], nativeId :: nativeIds)

/-- The line of a specificity. -/
def specificityLines (name : Text) : Option ℤ → Except ValueError (List Text)
  | none => .ok []
  | some specificity =>
    if specificity < 0 then
      .error ⟨literal "fingerprint " ++ name ++ literal " has invalid specificity"⟩
    else .ok [literal "SPECIFICITY=" ++ integer specificity]

/-- The `Class` line of a record that has all parts. -/
def classText (record : CanonicalRecord) : Option Text :=
  match record.vendor, record.osFamily, record.osGeneration, record.deviceType with
  | some vendor, some osFamily, some osGeneration, some deviceType =>
    if vendor = [] || osFamily = [] || osGeneration = [] || deviceType = [] then none
    else some (literal "Class " ++ vendor ++ literal " | " ++ osFamily ++ literal " | " ++
      osGeneration ++ literal " | " ++ deviceType)
  | _, _, _, _ => none

/-- A pass of the loop of `emit_os_db` over `count` records. -/
def emitRecord (family : Text) (count : ℕ) (s : Emission) (indexed : CanonicalRecord × ℕ) :
    Except ValueError Emission := do
  let (record, index) := indexed
  let name := record.fingerprintName.getD []
  if !isName name then
    throw ⟨literal "invalid fingerprint name " ++ reprOptional record.fingerprintName⟩
  if name ∈ s.names then throw ⟨literal "duplicate Fingerprint " ++ name⟩
  match classText record with
  | none => throw ⟨literal "fingerprint " ++ name ++ literal " has incomplete Class metadata"⟩
  | some classText =>
    if record.osFeatures = [] then
      throw ⟨literal "fingerprint " ++ name ++ literal " has no OS features"⟩
    let (idLines, nativeIds) ← nativeIdLines s.nativeIds record.fingerprintNativeId
    let specificity ← specificityLines name record.specificity
    let sorted := record.osFeatures.mergeSort fun left right ↦ left.1 ≤ right.1
    let features ← featureLines name [] sorted
    return {
      names := name :: s.names
      nativeIds
      lines := s.lines ++ [literal "Fingerprint " ++ name] ++ idLines ++ specificity ++
        (if family = literal "ipv6" then [literal "ADDRESS_FAMILY=IPv6"] else []) ++
        [classText] ++ features ++ (if index + 1 < count then [[]] else []) }

/-- `emit_os_db`. -/
def emitOsDb (records : List CanonicalRecord) : Except ValueError Text := do
  if records.any (·.kind ≠ literal "os_fingerprint") then
    throw ⟨literal "os runtime emitter accepts only os_fingerprint records"⟩
  match records with
  | [] => return []
  | first :: _ =>
    let family := first.addressFamily
    if records.any (·.addressFamily ≠ family) || family ∉ allowedFamilies then
      throw ⟨literal "os runtime emitter requires exactly one address family"⟩
    if records.any (·.probeOrder.isNone) then
      throw ⟨literal "os_fingerprint records require probe_order"⟩
    let order (record : CanonicalRecord) : ℕ := record.probeOrder.getD 0
    if ¬ (records.map order).Nodup then
      throw ⟨literal "os runtime records contain duplicate probe_order"⟩
    let ordered := records.mergeSort fun left right ↦
      tupleLe (order left, left.id) (order right, right.id)
    if ordered.map order ≠ List.range ordered.length then
      throw ⟨literal "os runtime records require contiguous probe_order starting at zero"⟩
    let s ← ordered.zipIdx.foldlM (emitRecord family ordered.length) {}
    return [0x0A].intercalate s.lines ++ [0x0A]

end Skan.Corpus.RuntimeOsDb

import Skan.Corpus.Records

/-!
# Lines of a runtime database

What the importers of `tools/corpus/runtime.py` share: the lexer of a service line (comments, quotes
and escapes), assignments, numbers, and `_record`, which makes a canonical record of what was read.

A dictionary of fields is a list of pairs in the order of insertion.
-/

namespace Skan.Corpus

open Skan.Output (Double)

/-- `RuntimeCorpusError`. -/
structure RuntimeCorpusError where
  message : String
  deriving DecidableEq

/-- `raise RuntimeCorpusError(message)`. -/
def raise {α : Type} (message : String) : Except RuntimeCorpusError α := .error ⟨message⟩

/-- `if not condition: raise RuntimeCorpusError(message)`. -/
def demand (condition : Bool) (message : String) : Except RuntimeCorpusError Unit :=
  if condition then .ok () else raise message

/-- A literal `b"..."`. -/
def bytesOf (literal : String) : Bytes := Utf8.encode literal.toList

/-! ### Limits -/

def maxDatabaseBytes : ℕ := 2 ^ 20
def maxLineBytes : ℕ := 16 * 2 ^ 10
def maxOsLineBytes : ℕ := 4096
def maxProbes : ℕ := 256
def maxRulesPerProbe : ℕ := 256

/-- `_SPACE`. -/
def isSpaceByte (c : UInt8) : Bool :=
  c = 0x20 || c = 0x09 || c = 0x0D || c = 0x0A || c = 0x0B || c = 0x0C

/-! ### Lexer -/

/-- `_without_comment`, behind bytes that leave the loop in this state. -/
def withoutCommentFrom (quoted escaped : Bool) : Bytes → Bytes
  | [] => []
  | character :: rest =>
    if escaped then character :: withoutCommentFrom quoted false rest
    else if quoted && character = 0x5C then character :: withoutCommentFrom quoted true rest
    else if character = 0x22 then character :: withoutCommentFrom (!quoted) false rest
    else if !quoted && character = 0x23 then []
    else character :: withoutCommentFrom quoted false rest

/-- `_without_comment`. -/
def withoutComment (line : Bytes) : Bytes := withoutCommentFrom false false line

/-- The byte for the character behind a backslash. -/
def decodedEscape (escaped : UInt8) : Option UInt8 :=
  if escaped = 0x72 then some 0x0D
  else if escaped = 0x6E then some 0x0A
  else if escaped = 0x74 then some 0x09
  else if escaped = 0x5C then some 0x5C
  else if escaped = 0x22 then some 0x22
  else none

/-- The byte that two hexadecimal digits stand for. -/
def hexByte (high low : UInt8) : Option UInt8 :=
  match Strings.hexValue (Strings.chr high), Strings.hexValue (Strings.chr low) with
  | some high, some low => some (UInt8.ofNat (high * 16 + low))
  | _, _ => none

/-- Puts bytes in front of the token that was read. -/
def pushed (bytes : Bytes) (read : Except RuntimeCorpusError (Bytes × Bytes)) :
    Except RuntimeCorpusError (Bytes × Bytes) :=
  read.map fun (token, rest) ↦ (bytes ++ token, rest)

/-- The inner loop of `_tokenize`, of at most as many passes as given: a token and what follows
it. -/
def readToken (lineNumber : ℕ) : ℕ → Bool → Bytes → Except RuntimeCorpusError (Bytes × Bytes)
  | _, quoted, [] =>
    if quoted then raise s!"line {lineNumber}: unterminated quote" else .ok ([], [])
  | 0, _, rest => .ok ([], rest)
  | fuel + 1, quoted, character :: rest =>
    if character = 0x22 then readToken lineNumber fuel (!quoted) rest
    else if character = 0x5C then
      match rest with
      | [] => raise s!"line {lineNumber}: trailing escape"
      | 0x78 :: high :: low :: rest =>
        match hexByte high low with
        | some byte => pushed [byte] (readToken lineNumber fuel quoted rest)
        | none => pushed [0x5C, 0x78] (readToken lineNumber fuel quoted (high :: low :: rest))
      | escaped :: rest =>
        match decodedEscape escaped with
        | some byte => pushed [byte] (readToken lineNumber fuel quoted rest)
        | none => pushed [0x5C, escaped] (readToken lineNumber fuel quoted rest)
    else if !quoted && isSpaceByte character then .ok ([], rest)
    else pushed [character] (readToken lineNumber fuel quoted rest)

/-- The outer loop. -/
def tokenizeFrom (lineNumber : ℕ) : ℕ → Bytes → Except RuntimeCorpusError (List Bytes)
  | 0, _ => .ok []
  | fuel + 1, line =>
    match line.dropWhile isSpaceByte with
    | [] => .ok []
    | line => do
      let (token, rest) ← readToken lineNumber line.length false line
      return token :: (← tokenizeFrom lineNumber fuel rest)

/-- `_tokenize`: no loop runs more often than there are bytes. -/
def tokenize (line : Bytes) (lineNumber : ℕ) : Except RuntimeCorpusError (List Bytes) :=
  tokenizeFrom lineNumber (line.length + 1) line

/-! ### Values -/

/-- `_ascii`. -/
def asciiText (value : Bytes) (context : String) : Except RuntimeCorpusError Str :=
  match Strings.ascii value with
  | some text => .ok text
  | none => raise s!"{context} must be ASCII"

/-- `_text`. -/
def utf8Text (value : Bytes) (context : String) : Except RuntimeCorpusError Str :=
  match Utf8.decode value with
  | some text => .ok text
  | none => raise s!"{context} must be UTF-8"

/-- A dictionary of fields. -/
abbrev Fields := List (Str × Bytes)

/-- `fields[key] = value`. -/
def Fields.set (fields : Fields) (key : Str) (value : Bytes) : Fields :=
  if fields.any (·.1 = key) then
    fields.map fun field ↦ if field.1 = key then (key, value) else field
  else fields ++ [(key, value)]

/-- One pass of `_assignments`. -/
def assignment (directive : String) (lineNumber : ℕ) (fields : Fields) (token : Bytes) :
    Except RuntimeCorpusError Fields :=
  match Strings.partition 0x3D token with
  | (keyBytes, some value) => do
    demand (!keyBytes.isEmpty && !value.isEmpty)
      s!"line {lineNumber}: malformed {directive} assignment"
    let key ← asciiText keyBytes s!"line {lineNumber} {directive} field"
    demand (!fields.any (·.1 = key))
      s!"line {lineNumber}: duplicate {directive} field: {String.ofList key}"
    return fields ++ [(key, value)]
  | _ => raise s!"line {lineNumber}: malformed {directive} assignment"

/-- `_assignments`. -/
def assignments (tokens : List Bytes) (directive : String) (lineNumber : ℕ) :
    Except RuntimeCorpusError Fields :=
  tokens.foldlM (assignment directive lineNumber) []

/-- `unknown`: an error if there is a field that is not supported. -/
def supportedOnly (fields : Fields) (supported : List Str) (directive : String) (lineNumber : ℕ) :
    Except RuntimeCorpusError Unit :=
  match ((fields.map (·.1)).filter (· ∉ supported)).insertionSort (· ≤ ·) with
  | [] => .ok ()
  | unknown :: _ =>
    raise s!"line {lineNumber}: unknown {directive} field: {String.ofList unknown}"

/-- `missing`: an error if there is a required field that is not given. -/
def requiredGiven (fields : Fields) (required : List Str) (directive : String) (lineNumber : ℕ) :
    Except RuntimeCorpusError Unit :=
  match (required.filter (· ∉ fields.map (·.1))).insertionSort (· ≤ ·) with
  | [] => .ok ()
  | missing :: _ =>
    raise s!"line {lineNumber}: missing {directive} field: {String.ofList missing}"

/-- `_unsigned`. -/
def unsigned (value : Bytes) (fieldName : String) (minimum maximum : ℕ) :
    Except RuntimeCorpusError ℕ := do
  let text ← asciiText value fieldName
  demand (!text.isEmpty && text.all isDecimal) s!"invalid {fieldName}"
  let result := Nat.ofDigitChars 10 text 0
  demand (minimum ≤ result && result ≤ maximum) s!"invalid {fieldName}"
  return result

/-- One pass of the loop of `_ports`. -/
def portsItem (expanded : List ℕ) (item : Bytes) : Except RuntimeCorpusError (List ℕ) := do
  demand (!item.isEmpty) "invalid ports"
  let (startBytes, separated) := Strings.partition 0x2D item
  let first ← unsigned startBytes "ports" 1 65535
  let last ← match separated with
    | some endBytes => unsigned endBytes "ports" 1 65535
    | none => .ok first
  demand (first ≤ last && last + 1 - first ≤ maxPorts) "invalid ports"
  let expanded := expanded ++ List.range' first (last + 1 - first)
  demand (expanded.length ≤ maxPorts) s!"ports exceed {maxPorts} entries"
  return expanded

/-- `_ports`. -/
def portList (value : Bytes) : Except RuntimeCorpusError (List ℕ) := do
  let expanded ← (value.splitOn 0x2C).foldlM portsItem []
  demand expanded.Nodup "ports contain duplicates"
  return expanded.insertionSort (· ≤ ·)

/-- `_fallbacks`. -/
def fallbackList (value : Bytes) : Except RuntimeCorpusError (List Str) := do
  let rawNames := value.splitOn 0x2C
  demand (1 ≤ rawNames.length && rawNames.length ≤ maxFallbacks)
    s!"fallback exceeds {maxFallbacks} entries"
  let names ← rawNames.mapM (asciiText · "fallback name")
  demand (names.all isProbeName) "invalid fallback name"
  demand names.Nodup "fallback contains duplicates"
  return names

/-- The digits behind a decimal point, and what follows them. -/
def fractionOf : Str → Str × Str
  | '.' :: rest => (rest.takeWhile isDecimal, rest.dropWhile isDecimal)
  | rest => ([], rest)

/-- An exponent behind its sign. -/
def exponentDigits : Str → Str
  | '+' :: digits => digits
  | '-' :: digits => digits
  | digits => digits

/-- An exponent, or nothing. -/
def isExponent : Str → Bool
  | [] => true
  | e :: rest =>
    (e = 'e' || e = 'E') && !(exponentDigits rest).isEmpty && (exponentDigits rest).all isDecimal

/-- `_FLOAT`, behind the sign. -/
def isMagnitude (text : Str) : Bool :=
  let integral := text.takeWhile isDecimal
  let (fraction, rest) := fractionOf (text.dropWhile isDecimal)
  !(integral.isEmpty && fraction.isEmpty) && isExponent rest

/-- `_FLOAT`. -/
def isFloat : Str → Bool
  | '-' :: text => isMagnitude text
  | text => isMagnitude text

/-- What is documented of `Platform`: ASCII text is in normal form, and so is text in normal form
behind ASCII text and a colon, with which nothing composes; `repr` of a float between zero and one
is a decimal, with an exponent if need be, that `float` reads back. -/
structure Platform.Lawful (py : Platform) : Prop where
  nfc_ascii : ∀ text : Str, (∀ c ∈ text, c.toNat ≤ 0x7F) → py.normalizeNfc text = text
  nfc_colon : ∀ front back : Str, (∀ c ∈ front, c.toNat ≤ 0x7F) → py.normalizeNfc back = back →
    py.normalizeNfc (front ++ ':' :: back) = front ++ ':' :: back
  isFloat_repr : ∀ x, isUnit x → isFloat (py.repr x)
  float_repr : ∀ x, isUnit x → py.float (py.repr x) = some x

/-! ### Records -/

/-- The check of `ImportContext.__post_init__`. -/
def isSourcePath (path : Str) : Bool :=
  !path.isEmpty && (Utf8.encode path).length ≤ 128 && '\\' ∉ path && path.head? ≠ some '/' &&
    (path.splitOn '/').all fun part ↦ part ∉ ([[], ['.'], ['.', '.']] : List Str)

/-- `ImportContext`. -/
structure ImportContext where
  source : SourcePolicy
  sourcePath : Str
  isSourcePath_sourcePath : isSourcePath sourcePath

/-- The `sources` that `_record` checks against: the one of the context. -/
def ImportContext.sources (context : ImportContext) (id : Str) : Option SourcePolicy :=
  if id = context.source.id then some context.source else none

section

variable (py : Platform) (body : RecordBody) (sourceRecordId : Str) (material : Bytes)
  (context : ImportContext)

/-- The `value` of `_record`, under an identifier. -/
def recordValue (id : Str) : CanonicalRecord where
  schemaVersion := 2
  id := id
  body := body
  provenance := [
    { sourceId := context.source.id
      sourceRecordId := sourceRecordId
      sourceRevision := context.source.pinnedRevision
      sourceUrl := context.source.sourceUrl
      sourceLicense := context.source.licenseSpdxOrPolicy
      snapshotHash := context.source.expectedHash
      recordHash := "sha256:".toList ++ hexdigest py material }]
  firstImportedRevision := context.source.pinnedRevision
  lastVerifiedRevision := context.source.pinnedRevision
  status := .verified
  notes := "Imported from ".toList ++ context.sourcePath ++ ['.']

/-- What `_record` parses. -/
def parsedRecord : Except CanonicalRecordError CanonicalRecord := do
  let parsedBody ← parseBody py body
  parseRecord py (recordValue py body sourceRecordId material context
    (stableRecordId py parsedBody))
    context.sources

/-- `_record`. -/
def record : Except RuntimeCorpusError CanonicalRecord :=
  match parsedRecord py body sourceRecordId material context with
  | .ok record => .ok record
  | .error error => raise s!"{String.ofList sourceRecordId}: {error.message}"

end

end Skan.Corpus

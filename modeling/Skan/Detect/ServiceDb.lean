import Skan.Detect.Probe
import Skan.Detect.ProtocolParsers
import Skan.PortScan.PortList

/-!
# The service database

`src/detect/service_db.cpp`: how the text of a database is read, line by line, into probes and their
rules, and what is checked of them in the end.

The loops of `tokenize` are passes over what is left of a line (`pass`), so that what it reads on
the way can be stated as well as what it returns.

A parser that gives up returns in one of two ways. Most places clear the probes and set both
statuses (`fail`); some set the statuses and return the database as it is. `Exit` tells which.
-/

namespace Skan.Detect

open Skan.Core Skan.PortScan

/-- What the database leaves to the standard library: whether a regular expression compiles, and the
number that a text is in full, if it is a finite one. -/
structure DatabaseLibrary where
  regexCompiles : Text → Bool
  fromCharsDouble : Text → Option ℚ

namespace ServiceDb

/-- `kMaximumDatabaseBytes`. -/
def maximumDatabaseBytes : ℕ := 1048576

/-- `kMaximumLineBytes`. -/
def maximumLineBytes : ℕ := 16384

/-- `kMaximumProbeCount`. -/
def maximumProbeCount : ℕ := 256

/-- `kMaximumRulesPerProbe`. -/
def maximumRulesPerProbe : ℕ := 256

/-- `kMaximumPatternBytes`. -/
def maximumPatternBytes : ℕ := 4096

/-- `kMaximumRegexPatternBytes`. -/
def maximumRegexPatternBytes : ℕ := 512

/-- `kMaximumFallbacksPerProbe`. -/
def maximumFallbacksPerProbe : ℕ := 16

/-- `kMaximumProbeTimeoutMs`. -/
def maximumProbeTimeoutMs : ℕ := 60000

/-! ### Lines and tokens -/

/-- The lines `std::getline` gives. -/
def lines (text : Text) : List Text :=
  let lines := text.splitOn 0x0A
  if lines.getLast? = some [] then lines.dropLast else lines

/-- `without_comment`, behind characters that leave the loop in this state. -/
def withoutCommentFrom (quoted escaped : Bool) : Text → Text
  | [] => []
  | c :: text =>
    if escaped then c :: withoutCommentFrom quoted false text
    else if quoted && c = 0x5C then c :: withoutCommentFrom quoted true text
    else if c = 0x22 then c :: withoutCommentFrom (!quoted) false text
    else if !quoted && c = 0x23 then []
    else c :: withoutCommentFrom quoted false text

/-- `without_comment`. -/
def withoutComment (line : Text) : Text := withoutCommentFrom false false line

/-- `decode_escape`. -/
def decodeEscape (escaped : UInt8) : Option UInt8 :=
  if escaped = 0x72 then some 0x0D
  else if escaped = 0x6E then some 0x0A
  else if escaped = 0x74 then some 0x09
  else if escaped = 0x5C then some 0x5C
  else if escaped = 0x22 then some 0x22
  else none

/-- The byte after `\x`, if there are two hexadecimal digits, and what follows them. -/
def hexEscape (text : Text) : Option (UInt8 × Text) :=
  match text with
  | high :: low :: rest =>
    match digitValue high, digitValue low with
    | some high, some low => some (UInt8.ofNat (high * 16 + low), rest)
    | _, _ => none
  | _ => none

/-- What stands for an escaped character, and what follows it. -/
def escape (escaped : UInt8) (rest : Text) : Text × Text :=
  match (if escaped = 0x78 then hexEscape rest else none) with
  | some (byte, rest) => ([byte], rest)
  | none =>
    match decodeEscape escaped with
    | some byte => ([byte], rest)
    | none => ([0x5C, escaped], rest)

/-- A pass of the inner loop of `tokenize`: what it adds to the token, whether it is inside quotes
then, and what is left. Nothing at the end of the line, and after a backslash there. -/
def pass (quoted : Bool) : Text → Option (Text × Bool × Text)
  | [] => none
  | c :: text =>
    if c = 0x22 then some ([], !quoted, text)
    else if c = 0x5C then
      match text with
      | [] => none
      | escaped :: rest =>
        let (bytes, rest) := escape escaped rest
        some (bytes, quoted, rest)
    else some ([c], quoted, text)

/-- The inner loop of `tokenize`, of at most as many passes as given: a token and what is left. -/
def readToken : ℕ → Bool → Text → Option (Text × Text)
  | _, quoted, [] => if quoted then none else some ([], [])
  | 0, _, _ :: _ => none
  | fuel + 1, quoted, c :: text =>
    if !quoted && isSpace c then some ([], text)
    else
      match pass quoted (c :: text) with
      | none => none
      | some (bytes, quoted, rest) =>
        (readToken fuel quoted rest).map fun (token, rest) ↦ (bytes ++ token, rest)

/-- The outer loop of `tokenize`. -/
def tokenizeLoop : ℕ → Text → Option (List Text)
  | 0, _ => none
  | fuel + 1, line =>
    match line.dropWhile isSpace with
    | [] => some []
    | line => do
      let (token, rest) ← readToken line.length false line
      return token :: (← tokenizeLoop fuel rest)

/-- `tokenize`: no loop takes more passes than there are characters. -/
def tokenize (line : Text) : Option (List Text) := tokenizeLoop (line.length + 1) line

/-- `split_assignment`. -/
def splitAssignment (token : Text) : Option (Text × Text) :=
  match token.span (· ≠ 0x3D) with
  | (_, []) => none
  | (key, _ :: value) => if key = [] || value = [] then none else some (key, value)

/-! ### Values -/

/-- `parse_unsigned`. -/
def parseUnsigned (value : Text) : Option ℕ := Target.fromCharsWhole value

/-- `parse_confidence`. -/
def parseConfidence (library : DatabaseLibrary) (value : Text) : Option ℚ :=
  if value = [] then none
  else (library.fromCharsDouble value).filter fun confidence ↦ 0 ≤ confidence && confidence ≤ 1

/-- `parse_match_type`. -/
def parseMatchType (value : Text) : Option ServiceMatchType :=
  if value = literal "exact" then some .exact
  else if value = literal "prefix" then some .prefixed
  else if value = literal "suffix" then some .suffix
  else if value = literal "substring" then some .substring
  else if value = literal "regex" then some .regex
  else none

/-- `parse_name_list`: the names behind those there are. A comma may end the list. -/
def parseNameList (value : Text) (names : List Text) : Option (List Text) := do
  let parts := value.splitOn 0x2C
  let parts := if parts.getLast? = some [] then parts.dropLast else parts
  let names ← parts.foldlM (fun names name ↦
    if name = [] || maximumFallbacksPerProbe ≤ names.length ||
        !name.all (fun c ↦ isLetter c || isDigit c || c = 0x5F || c = 0x2D) then
      none
    else some (names ++ [name])) names
  if names = [] then none else some names

/-- The loop of `regex_is_bounded`, behind so many opening parentheses. -/
def regexIsBoundedFrom : ℕ → Bool → Text → Bool
  | _, escaped, [] => !escaped
  | captures, true, c :: pattern =>
    -- backreferences are not supported
    if 0x31 ≤ c && c ≤ 0x39 then false else regexIsBoundedFrom captures false pattern
  | captures, false, c :: pattern =>
    if c = 0x5C then regexIsBoundedFrom captures true pattern
    else
      let captures := if c = 0x28 then captures + 1 else captures
      if 16 < captures then false
      else if (c = 0x2A || c = 0x2B) && pattern.head? = some 0x29 &&
          (pattern[1]? = some 0x2A || pattern[1]? = some 0x2B || pattern[1]? = some 0x7B) then
        false
      else regexIsBoundedFrom captures false pattern

/-- `regex_is_bounded`. -/
def regexIsBounded (pattern : Text) : Bool :=
  pattern.length ≤ maximumRegexPatternBytes && regexIsBoundedFrom 0 false pattern

/-! ### Lines -/

/-- How `parse` gives up: with the probes cleared, or with those read so far. -/
inductive Exit where
  | cleared
  | kept
  deriving DecidableEq

/-- A field of a probe. -/
def probeField (definition : ServiceProbeDefinition) (token : Text) :
    Except Exit ServiceProbeDefinition :=
  match splitAssignment token with
  | none => .error .cleared
  | some (key, value) =>
    if key = literal "rarity" then
      match (parseUnsigned value).filter (· ≠ 0) with
      | none => .error .kept
      | some rarity => .ok { definition with rarity }
    else if key = literal "priority" then
      match (parseUnsigned value).filter fun priority ↦ priority ≠ 0 && priority ≤ 100 with
      | none => .error .cleared
      | some priority => .ok { definition with priority }
    else if key = literal "timeout" then
      match (parseUnsigned value).filter fun ms ↦ ms ≠ 0 && ms ≤ maximumProbeTimeoutMs with
      | none => .error .cleared
      | some ms => .ok { definition with timeout := some ms }
    else if key = literal "fallback" then
      match parseNameList value definition.fallbackProbeNames with
      | none => .error .cleared
      | some fallbackProbeNames => .ok { definition with fallbackProbeNames }
    else if key = literal "ports" then
      let selection := parsePorts value definition.protocol
      if selection.status ≠ .ok then .error .kept
      else .ok { definition with portHints := selection.ports }
    else if key = literal "protocol" then
      if (value = literal "tcp" && definition.protocol = .tcp) ||
          (value = literal "udp" && definition.protocol = .udp) then
        .ok definition
      else .error .cleared
    else .error .cleared

/-- A line that begins with `Probe`, behind so many probes; without this word. -/
def probeLine (count : ℕ) (tokens : List Text) : Except Exit ServiceProbeDefinition :=
  match tokens with
  | transport :: name :: fields =>
    if transport ≠ literal "TCP" && transport ≠ literal "UDP" || maximumProbeCount ≤ count then
      .error .cleared
    else
      let protocol : Protocol := if transport = literal "UDP" then .udp else .tcp
      fields.foldlM probeField { id := name, name, protocol }
  | _ => .error .cleared

/-- A rule, and whether it has a pattern, a service and a confidence yet. -/
structure RuleFields where
  rule : ServiceMatchRule
  hasPattern : Bool := false
  hasService : Bool := false
  hasConfidence : Bool := false

/-- A field of a rule. -/
def ruleField (library : DatabaseLibrary) (fields : RuleFields) (token : Text) :
    Except Exit RuleFields :=
  let rule := fields.rule
  match splitAssignment token with
  | none => .error .cleared
  | some (key, value) =>
    if key = literal "type" then
      match parseMatchType value with
      | none => .error .kept
      | some type => .ok { fields with rule := { rule with type } }
    else if key = literal "pattern" then
      if maximumPatternBytes < value.length then .error .cleared
      else .ok { fields with rule := { rule with pattern := value }, hasPattern := true }
    else if key = literal "service" then
      .ok { fields with rule := { rule with service := value }, hasService := true }
    else if key = literal "product" then
      .ok { fields with rule := { rule with product := value } }
    else if key = literal "version" then
      .ok { fields with rule := { rule with version := value } }
    else if key = literal "extra" then .ok { fields with rule := { rule with extra := value } }
    else if key = literal "hostname" then
      .ok { fields with rule := { rule with hostname := value } }
    else if key = literal "tunnel" then
      .ok { fields with rule := { rule with tunnel := value } }
    else if key = literal "confidence" then
      match parseConfidence library value with
      | none => .error .kept
      | some confidence =>
        .ok { fields with rule := { rule with confidence }, hasConfidence := true }
    else .error .cleared

/-- The specificity of a rule. -/
def specificity (rule : ServiceMatchRule) : ℕ :=
  let base :=
    match rule.type with
    | .exact => 4000
    | .prefixed => 3000
    | .substring => 2000
    | _ => 1000
  base + rule.pattern.length

/-- A line that begins with `match` or `softmatch`, behind so many rules; without this word. -/
def ruleLine (library : DatabaseLibrary) (strength : ServiceMatchStrength) (count : ℕ)
    (tokens : List Text) : Except Exit ServiceMatchRule := do
  let fields ← tokens.foldlM (ruleField library) { rule := { strength } }
  let rule := fields.rule
  if !fields.hasPattern || !fields.hasService || !fields.hasConfidence ||
      maximumRulesPerProbe ≤ count then
    throw .cleared
  let rule := { rule with specificity := specificity rule }
  if rule.type ≠ .regex then return rule
  if !regexIsBounded rule.pattern || !library.regexCompiles rule.pattern then throw .cleared
  return { rule with compiledRegex := some rule.pattern }

/-- What a line makes of the probes that were read before it. The last of these is the one that
`send` and `match` lines are about. -/
def parseLine (library : DatabaseLibrary) (probes : List ServiceProbeDefinition) (line : Text) :
    Except Exit (List ServiceProbeDefinition) := do
  if maximumLineBytes < line.length then throw .cleared
  let content := trim (withoutComment line)
  if content = [] then return probes
  match tokenize content with
  | none | some [] => throw .cleared
  | some (first :: tokens) =>
    if first = literal "Probe" then
      return probes ++ [← probeLine probes.length tokens]
    else if first = literal "send" then
      match probes.getLast?, tokens with
      | some current, [payload] => return probes.dropLast ++ [{ current with payload }]
      | _, _ => throw .cleared
    else if first = literal "match" || first = literal "softmatch" then
      match probes.getLast? with
      | none => throw .cleared
      | some current =>
        let strength := if first = literal "softmatch" then .soft else .hard
        let rule ← ruleLine library strength current.rules.length tokens
        return probes.dropLast ++ [{ current with rules := current.rules ++ [rule] }]
    else throw .cleared

/-! ### Databases -/

/-- What the probes of a database have to be: named, each by a name of its own. -/
def namesDiffer (probes : List ServiceProbeDefinition) : Bool :=
  probes.all (·.id ≠ []) && (probes.map (·.name)).Nodup

/-- A fallback of a probe is another probe of its protocol, and is named once. -/
def fallbacksValid (probes : List ServiceProbeDefinition) : Bool :=
  probes.all fun probe ↦
    probe.fallbackProbeNames.Nodup && probe.fallbackProbeNames.all fun name ↦
      name ≠ probe.name &&
        (probes.find? (·.name = name)).any (·.protocol = probe.protocol)

/-- The check of all of the probes. -/
def finished (probes : List ServiceProbeDefinition) : StatusCode :=
  if probes ≠ [] && namesDiffer probes && fallbacksValid probes then .ok else .parseError

/-- A database, and the status that is reported of reading it. -/
structure Load where
  database : ServiceProbeDatabase
  status : StatusCode

/-- The loop of `parse` over the lines, behind those that gave these probes. -/
def parseLines (library : DatabaseLibrary) (probes : List ServiceProbeDefinition) :
    List Text → Load
  | [] =>
    let status := finished probes
    { database := { status, probes := if status ≠ .ok then [] else probes }, status }
  | line :: lines =>
    match parseLine library probes line with
    | .ok probes => parseLines library probes lines
    | .error .cleared => { database := { status := .parseError }, status := .parseError }
    | .error .kept => { database := { status := .parseError, probes }, status := .parseError }

/-- `parse`. -/
def parse (library : DatabaseLibrary) (text : Text) : Load :=
  if maximumDatabaseBytes < text.length then
    { database := { status := .parseError }, status := .parseError }
  else parseLines library [] (lines text)

/-- What is in a file, as far as it could be read, and whether there was an error then. -/
structure FileContents where
  contents : Text
  bad : Bool := false

/-- `load_file`, of a file that could be opened or not. -/
def loadFile (library : DatabaseLibrary) (file : Option FileContents) : Load :=
  match file with
  | none => { database := { status := .notFound }, status := .notFound }
  | some file =>
    if maximumDatabaseBytes < file.contents.length then
      { database := {}, status := .parseError }
    else if file.bad then { database := {}, status := .ioError }
    else parse library file.contents

end ServiceDb

end Skan.Detect

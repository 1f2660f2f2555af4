import Skan.Corpus.RuntimeLines

/-!
# The importer of service databases

`parse_service_runtime` of `tools/corpus/runtime.py`: the lines are read into probes with their
rules, and the probes and the rules are made records. -/

namespace Skan.Corpus

open Skan.Output (Double)

/-- `_Rule`. -/
structure RuntimeRule where
  strength : Strength
  fields : Fields
  material : Bytes
  deriving DecidableEq

/-- `_Probe`. -/
structure RuntimeProbe where
  name : Str
  transport : Transport
  rarity : ℕ := 1
  priority : ℕ := 50
  timeoutMs : Option ℕ := none
  ports : List ℕ := []
  fallbacks : List Str := []
  payload : Option Bytes := none
  declarationOrder : ℕ := 0
  headerMaterial : Bytes := []
  sendMaterial : Bytes := []
  rules : List RuntimeRule := []
  deriving DecidableEq

/-- The probes that were read; the last of them is `current`. -/
structure ServiceImport where
  earlier : List RuntimeProbe := []
  current : Option RuntimeProbe := none

/-- `probes`. -/
def ServiceImport.probes (s : ServiceImport) : List RuntimeProbe := s.earlier ++ s.current.toList

/-! ### Lines -/

def probeFields : List Str :=
  ["rarity".toList, "priority".toList, "timeout".toList, "ports".toList, "fallback".toList,
    "protocol".toList]

def ruleFields : List Str :=
  ["type".toList, "pattern".toList, "service".toList, "product".toList, "version".toList,
    "extra".toList, "hostname".toList, "tunnel".toList, "confidence".toList]

def requiredRuleFields : List Str := ["pattern".toList, "service".toList, "confidence".toList]

/-- The transport of a `Probe` line. -/
def probeTransport (token : Bytes) (lineNumber : ℕ) : Except RuntimeCorpusError Transport := do
  let _ ← asciiText token s!"line {lineNumber} transport"
  if token = bytesOf "TCP" then return .tcp
  else if token = bytesOf "UDP" then return .udp
  else raise s!"line {lineNumber}: invalid Probe transport"

/-- `_unsigned(fields[key], key, minimum, maximum) if key in fields`. -/
def unsignedField (fields : Fields) (key : String) (minimum maximum : ℕ) :
    Except RuntimeCorpusError (Option ℕ) :=
  match fields.lookup key.toList with
  | some value => return some (← unsigned value key minimum maximum)
  | none => return none

/-- `_ports(fields["ports"]) if "ports" in fields else ()`. -/
def portsField (fields : Fields) : Except RuntimeCorpusError (List ℕ) :=
  match fields.lookup "ports".toList with
  | some value => portList value
  | none => .ok []

/-- `_fallbacks(fields["fallback"]) if "fallback" in fields else ()`. -/
def fallbacksField (fields : Fields) : Except RuntimeCorpusError (List Str) :=
  match fields.lookup "fallback".toList with
  | some value => fallbackList value
  | none => .ok []

/-- `_probe_from_tokens`, of the tokens behind `Probe`. -/
def probeFromTokens (tokens : List Bytes) (line : Bytes) (lineNumber order : ℕ) :
    Except RuntimeCorpusError RuntimeProbe :=
  match tokens with
  | transportToken :: nameToken :: rest => do
    let transport ← probeTransport transportToken lineNumber
    let name ← asciiText nameToken s!"line {lineNumber} probe name"
    demand (isProbeName name) s!"line {lineNumber}: invalid probe name"
    let fields ← assignments rest "Probe" lineNumber
    supportedOnly fields probeFields "Probe" lineNumber
    match fields.lookup "protocol".toList with
    | some value => do
      let protocol ← asciiText value "protocol"
      demand (protocol = transport.name)
        s!"line {lineNumber}: Probe protocol does not match transport"
    | none => pure ()
    let rarity ← unsignedField fields "rarity" 1 (2 ^ 32 - 1)
    let priority ← unsignedField fields "priority" 1 100
    let timeoutMs ← unsignedField fields "timeout" 1 60000
    let ports ← portsField fields
    let fallbacks ← fallbacksField fields
    return {
      name, transport
      rarity := rarity.getD 1
      priority := priority.getD 50
      timeoutMs, ports, fallbacks
      declarationOrder := order
      headerMaterial := line }
  | _ => raise s!"line {lineNumber}: malformed Probe directive"

/-- The matcher type that a word names. -/
def matcherTypeOf (word : Str) : Option MatcherType :=
  [.exact, .prefixed, .suffix, .substring, .regex].find? (·.name = word)

section

variable (py : Platform)

/-- The confidence of a rule. -/
def confidenceOf (value : Bytes) (lineNumber : ℕ) : Except RuntimeCorpusError Double := do
  let text ← asciiText value "confidence"
  demand (isFloat text) s!"line {lineNumber}: invalid confidence"
  match py.float text with
  | some confidence => do
    demand (isUnit confidence) s!"line {lineNumber}: invalid confidence"
    return confidence
  | none => raise s!"line {lineNumber}: invalid confidence"

/-- `_rule_from_tokens`, of the tokens behind the directive. -/
def ruleFromTokens (tokens : List Bytes) (strength : Strength) (directive : String) (line : Bytes)
    (lineNumber : ℕ) : Except RuntimeCorpusError RuntimeRule := do
  let fields ← assignments tokens directive lineNumber
  supportedOnly fields ruleFields directive lineNumber
  requiredGiven fields requiredRuleFields directive lineNumber
  let word ← asciiText ((fields.lookup "type".toList).getD (bytesOf "prefix")) "matcher type"
  match matcherTypeOf word with
  | none => raise s!"line {lineNumber}: invalid matcher type"
  | some matcherType => do
    let pattern := (fields.lookup "pattern".toList).getD []
    demand (!pattern.isEmpty && pattern.length ≤ patternBytes)
      s!"line {lineNumber}: invalid pattern"
    demand (matcherType ≠ .regex || runtimeRegexIsValid py pattern)
      s!"line {lineNumber}: invalid ECMAScript regex"
    let confidence ← confidenceOf py ((fields.lookup "confidence".toList).getD []) lineNumber
    let fields := fields.set "type".toList (Utf8.encode matcherType.name)
    let fields := fields.set "confidence".toList (Utf8.encode (py.repr confidence))
    return { strength, fields, material := line }

/-- A pass of the loop over the lines, of a line that holds these tokens. -/
def serviceDirective (s : ServiceImport) (tokens : List Bytes) (content : Bytes) (lineNumber : ℕ) :
    Except RuntimeCorpusError ServiceImport :=
  match tokens with
  | [] => .ok s
  | head :: tokens => do
    let directive ← asciiText head s!"line {lineNumber} directive"
    if directive = "Probe".toList then
      demand (s.probes.length < maxProbes) s!"probe count exceeds {maxProbes}"
      let probe ← probeFromTokens tokens content lineNumber s.probes.length
      demand (s.probes.all (·.name ≠ probe.name))
        s!"line {lineNumber}: duplicate probe name: {String.ofList probe.name}"
      return { earlier := s.probes, current := some probe }
    else if directive = "send".toList then
      match s.current, tokens with
      | some current, [payload] => do
        demand current.payload.isNone s!"line {lineNumber}: duplicate send directive"
        demand (payload.length ≤ activePayloadBytes)
          s!"line {lineNumber}: payload exceeds {activePayloadBytes} bytes"
        return { s with
          current := some { current with payload := some payload, sendMaterial := content } }
      | _, _ => raise s!"line {lineNumber}: malformed send directive"
    else if directive = "match".toList ∨ directive = "softmatch".toList then
      match s.current with
      | some current => do
        demand (current.rules.length < maxRulesPerProbe)
          s!"line {lineNumber}: rule count exceeds {maxRulesPerProbe}"
        let strength := if directive = "softmatch".toList then .soft else .hard
        let rule ← ruleFromTokens py tokens strength (String.ofList directive) content lineNumber
        return { s with current := some { current with rules := current.rules ++ [rule] } }
      | none => raise s!"line {lineNumber}: {String.ofList directive} without Probe"
    else raise s!"line {lineNumber}: unknown directive: {String.ofList directive}"

/-- A pass of the loop over the lines. -/
def serviceLine (s : ServiceImport) (numbered : Bytes × ℕ) :
    Except RuntimeCorpusError ServiceImport := do
  let (rawLine, lineNumber) := numbered
  demand (rawLine.length ≤ maxLineBytes) s!"line {lineNumber} exceeds {maxLineBytes} bytes"
  let content := Strings.strip isSpaceByte (withoutComment rawLine)
  if content.isEmpty then return s
  else
    let tokens ← tokenize content lineNumber
    serviceDirective py s tokens content lineNumber

end

/-! ### Probes -/

/-- The checks of one fallback. -/
def checkFallback (probes : List RuntimeProbe) (probe : RuntimeProbe) (fallback : Str) :
    Except RuntimeCorpusError Unit :=
  match probes.find? (·.name = fallback) with
  | none => raise s!"unresolved fallback: {String.ofList fallback}"
  | some target => do
    demand (target.name ≠ probe.name) s!"self fallback: {String.ofList fallback}"
    demand (target.transport = probe.transport)
      s!"cross-transport fallback: {String.ofList fallback}"

/-- The checks of one probe when all lines are read. -/
def checkProbe (probes : List RuntimeProbe) (probe : RuntimeProbe) :
    Except RuntimeCorpusError Unit := do
  demand probe.payload.isSome s!"missing send directive for probe: {String.ofList probe.name}"
  probe.fallbacks.forM (checkFallback probes probe)

/-! ### Records -/

/-- `_pattern_fields`. -/
def patternFields (matcherType : MatcherType) (pattern : Bytes) : Option Str × Option Str :=
  if matcherType ≠ .regex then (none, some (Strings.toHex pattern))
  else
    match Utf8.decode pattern with
    | none => (none, some (Strings.toHex pattern))
    | some text =>
      if text.any fun character ↦ character.toNat < 32 || character.toNat = 127 then
        (none, some (Strings.toHex pattern))
      else (some text, none)

/-- `_text(rule.fields[key], context) if key in rule.fields else None`. -/
def textField (fields : Fields) (key : String) : Except RuntimeCorpusError (Option Str) :=
  match fields.lookup key.toList with
  | some value => return some (← utf8Text value key)
  | none => return none

/-- `probe_identity`. -/
def probeIdentity (context : ImportContext) (probe : RuntimeProbe) : Str :=
  context.sourcePath ++ ":probe:".toList ++ probe.name

section

variable (py : Platform)

/-- The body of the record of a probe. -/
def probeBody (probe : RuntimeProbe) : ActiveProbeSemantics where
  probeName := probe.name
  transport := probe.transport
  payloadHex := Strings.toHex (probe.payload.getD [])
  rarity := probe.rarity
  priority := probe.priority
  timeoutMs := probe.timeoutMs
  ports := probe.ports
  fallbackProbeNames := probe.fallbacks
  declarationOrder := probe.declarationOrder

/-- The body of the record of a rule. -/
def ruleBody (probe : RuntimeProbe) (rule : RuntimeRule) (ruleOrder : ℕ) :
    Except RuntimeCorpusError ServiceMatcherSemantics := do
  let word ← asciiText ((rule.fields.lookup "type".toList).getD []) "matcher type"
  let matcherType := (matcherTypeOf word).getD .prefixed
  let (pattern, patternHex) :=
    patternFields matcherType ((rule.fields.lookup "pattern".toList).getD [])
  let service ← utf8Text ((rule.fields.lookup "service".toList).getD []) "service"
  let product ← textField rule.fields "product"
  let versionTemplate ← textField rule.fields "version"
  let extra ← textField rule.fields "extra"
  let hostnameTemplate ← textField rule.fields "hostname"
  let tunnel ← textField rule.fields "tunnel"
  let confidenceText ← asciiText ((rule.fields.lookup "confidence".toList).getD []) "confidence"
  match py.float confidenceText with
  | none => raise "could not convert string to float"
  | some confidence =>
    return {
      probeName := probe.name
      matcherType, pattern, patternHex
      strength := rule.strength
      service, product, versionTemplate, extra, hostnameTemplate, tunnel, confidence, ruleOrder
      cpe := [] }

/-- The record of a rule. -/
def ruleRecord (context : ImportContext) (probe : RuntimeProbe) (numbered : RuntimeRule × ℕ) :
    Except RuntimeCorpusError CanonicalRecord := do
  let (rule, ruleOrder) := numbered
  let body ← ruleBody py probe rule ruleOrder
  record py (.serviceMatcher body)
    (probeIdentity context probe ++ ":rule:".toList ++ Nat.toDigits 10 ruleOrder) rule.material
      context

/-- The records of a probe and of its rules. -/
def probeRecords (context : ImportContext) (probe : RuntimeProbe) :
    Except RuntimeCorpusError (List CanonicalRecord) := do
  let active ← record py (.activeProbe (probeBody probe)) (probeIdentity context probe)
    (probe.headerMaterial ++ 0x0A :: probe.sendMaterial) context
  let matchers ← probe.rules.zipIdx.mapM (ruleRecord py context probe)
  return active :: matchers

/-- `parse_service_runtime`. -/
def parseServiceRuntime (text : Bytes) (context : ImportContext) :
    Except RuntimeCorpusError (List CanonicalRecord) := do
  demand (text.length ≤ maxDatabaseBytes) s!"database exceeds {maxDatabaseBytes} bytes"
  demand (.activeProbe ∈ context.source.approvedDataClasses &&
      .serviceMatcher ∈ context.source.approvedDataClasses)
    "source policy does not authorize service runtime records"
  let lines := (text.splitOn 0x0A).zipIdx 1
  let s ← lines.foldlM (serviceLine py) {}
  let probes := s.probes
  demand (!probes.isEmpty) "service runtime contains no probes"
  probes.forM (checkProbe probes)
  let records ← probes.mapM (probeRecords py context)
  return records.flatten

end

end Skan.Corpus

import Skan.Corpus.RuntimeLines

/-!
# The importer of UDP probe databases

`parse_udp_runtime` of `tools/corpus/runtime.py`. A line is a probe of six words; the record of a
probe is made at once, so the names and the ports of the probes so far are those of the records. -/

namespace Skan.Corpus

/-- The variables of the loop over the lines. -/
structure UdpImport where
  records : List CanonicalRecord := []
  names : List Str := []
  ports : List ℕ := []
  hasDefault : Bool := false

/-- `_udp_hex`. -/
def udpHex (value : Bytes) (lineNumber : ℕ) : Except RuntimeCorpusError Str := do
  demand (!value.isEmpty && value.length % 2 = 0)
    s!"line {lineNumber}: payload must be even-length hexadecimal"
  demand (value.all fun c ↦ (Strings.hexValue (Strings.chr c)).isSome)
    s!"line {lineNumber}: payload must be even-length hexadecimal"
  demand (value.length / 2 ≤ 512) s!"line {lineNumber}: payload exceeds 512 bytes"
  return value.map fun c ↦ (Strings.chr c).toLower

/-- `content.split()`. -/
def splitSpaces (content : Bytes) : List Bytes :=
  (content.splitOnP isSpaceByte).filter (· ≠ [])

/-- The body that the six words of a probe are read as. -/
def udpBody (words : List Bytes) (order lineNumber : ℕ) :
    Except RuntimeCorpusError UDPProbeSemantics :=
  match words with
  | [directive, name, port, hint, maximum, payload] => do
    demand (directive = bytesOf "probe") s!"line {lineNumber}: malformed UDP probe"
    let name ← asciiText name s!"line {lineNumber} UDP probe name"
    let destinationPort ← unsigned port "UDP destination port" 0 65535
    let protocolHint ← asciiText hint s!"line {lineNumber} UDP protocol hint"
    let maxResponseBytes ← unsigned maximum "UDP max_response_bytes" 1 (2 ^ 20)
    let payloadHex ← udpHex payload lineNumber
    return {
      name, destinationPort, protocolHint, maxResponseBytes, payloadHex
      declarationOrder := order }
  | _ => raise s!"line {lineNumber}: malformed UDP probe"

section

variable (py : Platform) (context : ImportContext)

/-- A pass of the loop over the lines. -/
def udpLine (s : UdpImport) (numbered : Bytes × ℕ) : Except RuntimeCorpusError UdpImport := do
  let (rawLine, lineNumber) := numbered
  demand (rawLine.length ≤ maxLineBytes) s!"line {lineNumber} exceeds {maxLineBytes} bytes"
  let content := Strings.strip isSpaceByte rawLine
  if content.isEmpty || content.head? = some 0x23 then return s
  else
    let body ← udpBody (splitSpaces content) s.records.length lineNumber
    demand (body.name ∉ s.names)
      s!"line {lineNumber}: duplicate UDP probe name: {String.ofList body.name}"
    demand (body.destinationPort ∉ s.ports)
      s!"line {lineNumber}: duplicate UDP port: {body.destinationPort}"
    demand (body.destinationPort = 0 ↔ body.name = defaultName) "port 0 is reserved for DEFAULT"
    demand (s.records.length < maxProbes) s!"UDP probe count exceeds {maxProbes}"
    let record ← record py (.udpProbe body) (context.sourcePath ++ ":probe:".toList ++ body.name)
      content context
    return {
      records := s.records ++ [record]
      names := body.name :: s.names
      ports := body.destinationPort :: s.ports
      hasDefault := s.hasDefault || body.destinationPort = 0 }

/-- `parse_udp_runtime`. -/
def parseUdpRuntime (text : Bytes) : Except RuntimeCorpusError (List CanonicalRecord) := do
  demand (text.length ≤ maxDatabaseBytes) s!"database exceeds {maxDatabaseBytes} bytes"
  demand (.udpProbe ∈ context.source.approvedDataClasses)
    "source policy does not authorize UDP runtime records"
  let s ← ((text.splitOn 0x0A).zipIdx 1).foldlM (udpLine py context) {}
  demand (!s.records.isEmpty) "UDP runtime contains no probes"
  demand s.hasDefault "missing DEFAULT UDP probe"
  return s.records

end

end Skan.Corpus

import Mathlib.Data.List.Lex
import Skan.Library.Strings
import Skan.Output.Double

/-!
# Canonical records of the intelligence corpus

The data of `tools/corpus/model.py` and `tools/corpus/sources.py`: the four kinds of record bodies,
the provenance of a record and the policy of a source.

A `str` of the tools is a list of characters and `bytes` are a list of bytes. A surrogate code point
is not a character: a text with one is refused by the records' own check, and cannot be encoded.
A field that may hold one of a few words is an enumeration, with the words as `name`.
-/

namespace Skan.Corpus

open Skan.Output (Double)

/-- A `str`. -/
abbrev Str := List Char

scoped instance : LawfulBEq Str := inferInstance

/-- `bytes`. -/
abbrev Bytes := List UInt8

/-! ### Words -/

inductive MatcherType where
  | exact
  | prefixed
  | suffix
  | substring
  | regex
  deriving DecidableEq

def MatcherType.name : MatcherType → Str
  | .exact => "exact".toList
  | .prefixed => "prefix".toList
  | .suffix => "suffix".toList
  | .substring => "substring".toList
  | .regex => "regex".toList

inductive Strength where
  | hard
  | soft
  deriving DecidableEq

inductive Transport where
  | tcp
  | udp
  deriving DecidableEq

def Transport.name : Transport → Str
  | .tcp => "tcp".toList
  | .udp => "udp".toList

/-- `transport.upper()`. -/
def Transport.upper : Transport → Str
  | .tcp => "TCP".toList
  | .udp => "UDP".toList

inductive OSAddressFamily where
  | ipv4
  | ipv6
  deriving DecidableEq

/-- `family.upper().replace('IPV', 'IPv')`. -/
def OSAddressFamily.display : OSAddressFamily → Str
  | .ipv4 => "IPv4".toList
  | .ipv6 => "IPv6".toList

/-- The field of an OS signature. -/
inductive SignatureField where
  | ttl
  | dontFragment
  | window
  | mss
  | windowScale
  | sackPermitted
  | timestamps
  | tcpOptions
  | tcpFlags
  | ackBehavior
  | sequenceBehavior
  | responseBehavior
  | icmpTtl
  | icmpType
  | icmpCode
  | udpPayloadLength
  | udpResponseBehavior
  | responsePresence
  deriving DecidableEq

def SignatureField.name : SignatureField → Str
  | .ttl => "ttl".toList
  | .dontFragment => "dont_fragment".toList
  | .window => "window".toList
  | .mss => "mss".toList
  | .windowScale => "window_scale".toList
  | .sackPermitted => "sack_permitted".toList
  | .timestamps => "timestamps".toList
  | .tcpOptions => "tcp_options".toList
  | .tcpFlags => "tcp_flags".toList
  | .ackBehavior => "ack_behavior".toList
  | .sequenceBehavior => "sequence_behavior".toList
  | .responseBehavior => "response_behavior".toList
  | .icmpTtl => "icmp_ttl".toList
  | .icmpType => "icmp_type".toList
  | .icmpCode => "icmp_code".toList
  | .udpPayloadLength => "udp_payload_length".toList
  | .udpResponseBehavior => "udp_response_behavior".toList
  | .responsePresence => "response_presence".toList

inductive SignatureOperator where
  | eq
  | range
  | bool
  | tcpOptions
  | text
  deriving DecidableEq

def SignatureOperator.name : SignatureOperator → Str
  | .eq => "eq".toList
  | .range => "range".toList
  | .bool => "bool".toList
  | .tcpOptions => "tcp_options".toList
  | .text => "text".toList

/-- The kinds of data that a source may be approved for; four of them are kinds of records. -/
inductive DataClass where
  | activeProbe
  | osFingerprint
  | productVocab
  | registry
  | serviceMatcher
  | udpProbe
  deriving DecidableEq

def DataClass.name : DataClass → Str
  | .activeProbe => "active_probe".toList
  | .osFingerprint => "os_fingerprint".toList
  | .productVocab => "product_vocab".toList
  | .registry => "registry".toList
  | .serviceMatcher => "service_matcher".toList
  | .udpProbe => "udp_probe".toList

inductive Status where
  | verified
  | imported
  | experimental
  | suppressed
  | deprecated
  deriving DecidableEq

/-! ### Bodies -/

structure ServiceMatcherSemantics where
  probeName : Str
  matcherType : MatcherType
  pattern : Option Str
  patternHex : Option Str
  strength : Strength
  service : Str
  product : Option Str
  versionTemplate : Option Str
  extra : Option Str
  hostnameTemplate : Option Str
  tunnel : Option Str
  confidence : Double
  ruleOrder : ℕ
  cpe : List Str
  deriving DecidableEq

structure ActiveProbeSemantics where
  probeName : Str
  transport : Transport
  payloadHex : Str
  rarity : ℕ
  priority : ℕ
  timeoutMs : Option ℕ
  ports : List ℕ
  fallbackProbeNames : List Str
  declarationOrder : ℕ
  deriving DecidableEq

structure UDPProbeSemantics where
  name : Str
  destinationPort : ℕ
  protocolHint : Str
  maxResponseBytes : ℕ
  payloadHex : Str
  declarationOrder : ℕ
  deriving DecidableEq

inductive SignatureValue where
  | number (value : ℕ)
  | range (minimum maximum : ℕ)
  | bool (value : Bool)
  | text (value : Str)
  | options (values : List Str)
  deriving DecidableEq

structure OSSignature where
  field : SignatureField
  operator : SignatureOperator
  value : SignatureValue
  deriving DecidableEq

structure OSFingerprintSemantics where
  runtimeId : Str
  name : Str
  vendor : Str
  osFamily : Str
  osGeneration : Str
  deviceType : Str
  addressFamily : OSAddressFamily
  specificity : ℕ
  signatures : List OSSignature
  deriving DecidableEq

inductive RecordBody where
  | serviceMatcher (body : ServiceMatcherSemantics)
  | activeProbe (body : ActiveProbeSemantics)
  | udpProbe (body : UDPProbeSemantics)
  | osFingerprint (body : OSFingerprintSemantics)
  deriving DecidableEq

/-- The kind of a record: the one of its body. -/
def RecordBody.kind : RecordBody → DataClass
  | .serviceMatcher _ => .serviceMatcher
  | .activeProbe _ => .activeProbe
  | .udpProbe _ => .udpProbe
  | .osFingerprint _ => .osFingerprint

/-! ### Records -/

structure Provenance where
  sourceId : Str
  sourceRecordId : Str
  sourceRevision : Str
  sourceUrl : Str
  sourceLicense : Str
  snapshotHash : Option Str
  recordHash : Str
  deriving DecidableEq

structure CanonicalRecord where
  schemaVersion : ℕ
  id : Str
  body : RecordBody
  provenance : List Provenance
  firstImportedRevision : Str
  lastVerifiedRevision : Str
  status : Status
  notes : Str
  deriving DecidableEq

/-- What a record is checked for against a `SourcePolicy`. -/
structure SourcePolicy where
  id : Str
  sourceUrl : Str
  licenseSpdxOrPolicy : Str
  redistributionAllowed : Bool
  approvedDataClasses : List DataClass
  blockedDataClasses : List DataClass
  pinnedRevision : Str
  expectedHash : Option Str

/-- The one entry of `corpus/sources/sources.json`. -/
def skanFirstParty : SourcePolicy where
  id := "skan-first-party".toList
  sourceUrl :=
    "https://github.com/Adam-Ghanem/Skan/tree/db3ea70d1163d92194a7c315e6bc5e31d20cba83/data".toList
  licenseSpdxOrPolicy := "MIT".toList
  redistributionAllowed := true
  approvedDataClasses := [.activeProbe, .osFingerprint, .serviceMatcher, .udpProbe]
  blockedDataClasses := []
  pinnedRevision := "git:db3ea70d1163d92194a7c315e6bc5e31d20cba83".toList
  expectedHash := none

/-- `_sources()`. -/
def sources (id : Str) : Option SourcePolicy :=
  if id = skanFirstParty.id then some skanFirstParty else none

/-! ### The standard library -/

/-- What the tools use of the standard library of Python beyond its built-in types. -/
structure Platform where
  /-- `unicodedata.normalize("NFC", value)`. -/
  normalizeNfc : Str → Str
  /-- `re.compile(pattern)` raises nothing. -/
  reCompiles : Bytes → Bool
  /-- `repr` of a `float`. -/
  repr : Double → Str
  /-- `float(text)`; `none` is a `ValueError`. -/
  float : Str → Option Double
  /-- `hashlib.sha256(value)` as hexadecimal digits. -/
  sha256 : Bytes → Vector (Fin 16) 64
  /-- `json.dumps` of a record's version, kind and body, encoded. -/
  jsonDumps : RecordBody → Bytes

end Skan.Corpus

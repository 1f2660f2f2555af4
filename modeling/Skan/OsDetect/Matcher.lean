import Skan.Db.OsDatabase
import Skan.Output.Types

/-!
# The OS matcher

`src/osdetect/os_matcher.cpp`: how well an observation supports a fingerprint. Every signature of a
fingerprint has a weight by its field, and the confidence is the weight of the signatures that match
over the weight of all; weights and confidences are rational numbers here.

A field that was not observed counts in the denominator and not in the numerator. So the fewer
fields are observed, the lower the confidence (`confidence_weaker`), which is what the comment in
`match` says it is for.
-/

namespace Skan.Db

/-- `fingerprint_field_name`. -/
def fingerprintFieldName : FingerprintField → Core.Text
  | .ttl => Core.literal "TTL"
  | .dontFragment => Core.literal "DF"
  | .window => Core.literal "WINDOW"
  | .mss => Core.literal "MSS"
  | .windowScale => Core.literal "WSCALE"
  | .sackPermitted => Core.literal "SACK"
  | .timestamps => Core.literal "TIMESTAMP"
  | .tcpOptions => Core.literal "TCP_OPTIONS"
  | .tcpFlags => Core.literal "TCP_FLAGS"
  | .ackBehavior => Core.literal "ACK_BEHAVIOR"
  | .sequenceBehavior => Core.literal "SEQUENCE_BEHAVIOR"
  | .responseBehavior => Core.literal "RESPONSE_BEHAVIOR"
  | .icmpTtl => Core.literal "ICMP_TTL"
  | .icmpType => Core.literal "ICMP_TYPE"
  | .icmpCode => Core.literal "ICMP_CODE"
  | .udpPayloadLength => Core.literal "UDP_PAYLOAD_LENGTH"
  | .udpResponseBehavior => Core.literal "UDP_RESPONSE_BEHAVIOR"
  | .responsePresence => Core.literal "RESPONSE_PRESENCE"

end Skan.Db

namespace Skan.OsDetect

open Skan.Core Skan.Db
open Skan.Output (StdSort lexicographic)

/-- `response_behavior_name`. -/
def responseBehaviorName : ResponseBehavior → Text
  | .unknown => literal "UNKNOWN"
  | .synAck => literal "SYN_ACK"
  | .rst => literal "RST"
  | .echoReply => literal "ECHO_REPLY"
  | .udpResponse => literal "UDP_RESPONSE"
  | .portUnreachable => literal "PORT_UNREACHABLE"
  | .noResponse => literal "NO_RESPONSE"
  | .malformed => literal "MALFORMED"

/-- The value, if it was observed. -/
def ObservedValue.seen {α : Type*} (v : ObservedValue α) : Option α :=
  if v.state = .observed then some v.value else none

/-- The behavior, if it is known. -/
def ResponseBehavior.seen (behavior : ResponseBehavior) : Option ResponseBehavior :=
  if behavior = .unknown then none else some behavior

/-- `os_match_is_better`. -/
def osMatchIsBetter (left right : OSMatchResult) : Bool :=
  let leftStrong : Bool := left.category = .strongMatch
  let rightStrong : Bool := right.category = .strongMatch
  lexicographic [
    (leftStrong ≠ rightStrong, leftStrong),
    (leftStrong && left.specificity ≠ right.specificity, right.specificity < left.specificity),
    (left.confidence ≠ right.confidence, right.confidence < left.confidence),
    (left.specificity ≠ right.specificity, right.specificity < left.specificity),
    (left.fingerprintName ≠ right.fingerprintName, left.fingerprintName < right.fingerprintName),
    (true, left.fingerprintId < right.fingerprintId)]

namespace OSMatcher

variable {β : Type*} {l' : List β}

structure Evidence where
  available : Bool := false
  isMatch : Bool := false
  name : Text := literal "UNKNOWN"

/-- `weight_for`. -/
def weightFor : FingerprintField → ℚ
  | .ttl => 0.10
  | .dontFragment => 0.05
  | .window => 0.15
  | .mss => 0.10
  | .windowScale => 0.10
  | .sackPermitted => 0.10
  | .timestamps => 0.10
  | .tcpOptions => 0.20
  | .tcpFlags => 0.05
  | .ackBehavior => 0.05
  | .sequenceBehavior => 0.05
  | .responseBehavior => 0.10
  | .icmpTtl => 0.05
  | .icmpType => 0.02
  | .icmpCode => 0.02
  | .udpPayloadLength => 0.08
  | .udpResponseBehavior => 0.08
  | .responsePresence => 0.05

/-- `first_tcp`. -/
def firstTcp (observed : ObservedOSFingerprint) : Option TCPObservation :=
  observed.tcpObservations.find? (·.probeStatus = .responseReceived)

/-- `first_udp`. -/
def firstUdp (observed : ObservedOSFingerprint) : Option UDPObservation :=
  observed.udpObservations.find? (·.probeStatus = .responseReceived)

/-- `first_icmp`. -/
def firstIcmp (observed : ObservedOSFingerprint) : Option ICMPObservation :=
  observed.icmpObservations.find? (·.probeStatus = .responseReceived)

/-- `matches_number`. -/
def matchesNumber (signature : FingerprintSignature) (value : ℤ) : Bool :=
  match signature.number, signature.minimum, signature.maximum with
  | some number, _, _ => value = number
  | none, some minimum, some maximum => minimum ≤ value && value ≤ maximum
  | none, _, _ => false

/-- What `matches_number` can compare with. -/
def hasNumber (signature : FingerprintSignature) : Bool :=
  signature.number.isSome || (signature.minimum.isSome && signature.maximum.isSome)

/-! ### The comparison of a signature -/

variable {α : Type*}

/-- A branch of `compare`: a value is compared if it was seen and if the signature has something to
compare it with. -/
def compareSeen (signature : FingerprintSignature) (comparable : Bool) (isMatch : α → Bool) :
    Option α → Evidence
  | some value =>
    if comparable then ⟨true, isMatch value, fingerprintFieldName signature.field⟩
    else { name := fingerprintFieldName signature.field }
  | none => { name := fingerprintFieldName signature.field }

/-- The branches of a number. -/
def compareNumber (signature : FingerprintSignature) : Option ℤ → Evidence :=
  compareSeen signature (hasNumber signature) (matchesNumber signature)

/-- The branches of a truth value. -/
def compareBoolean (signature : FingerprintSignature) : Option Bool → Evidence :=
  compareSeen signature signature.boolean.isSome fun value ↦ some value = signature.boolean

/-- Whether anything answered. -/
def responsePresent (observed : ObservedOSFingerprint) : Bool :=
  0 < observed.responsesReceived || observed.tcpObservations ≠ [] ||
    observed.icmpObservations ≠ [] || observed.udpObservations ≠ []

/-- `compare`. -/
def compare (signature : FingerprintSignature) (observed : ObservedOSFingerprint) : Evidence :=
  let tcp := firstTcp observed
  let icmp := firstIcmp observed
  let udp := firstUdp observed
  match signature.field with
  | .ttl => compareNumber signature (tcp.bind fun o ↦ o.ttl.seen.map (·.toNat))
  | .dontFragment => compareBoolean signature (tcp.bind fun o ↦ o.dontFragment.seen)
  | .window => compareNumber signature (tcp.bind fun o ↦ o.window.seen.map (·.toNat))
  | .mss => compareNumber signature (tcp.bind fun o ↦ o.mss.seen.map (·.toNat))
  | .windowScale => compareNumber signature (tcp.bind fun o ↦ o.windowScale.seen.map (·.toNat))
  | .sackPermitted => compareBoolean signature (tcp.bind fun o ↦ o.sackPermitted.seen)
  | .timestamps => compareBoolean signature (tcp.bind fun o ↦ o.timestamps.seen)
  | .tcpOptions =>
    compareSeen signature (signature.options ≠ []) (fun options ↦ options = signature.options)
      (tcp.bind fun o ↦ if o.options = [] then none else some o.options)
  | .tcpFlags =>
    compareNumber signature (tcp.bind fun o ↦
      if o.probeStatus = .responseReceived then some o.flags.toNat else none)
  -- unavailable, as the observations do not say which probe they answer
  | .ackBehavior | .sequenceBehavior => { name := fingerprintFieldName signature.field }
  | .responseBehavior =>
    compareSeen signature true (fun behavior ↦ responseBehaviorName behavior = signature.text)
      (tcp.bind fun o ↦ o.responseBehavior.seen)
  | .icmpTtl => compareNumber signature (icmp.bind fun o ↦ o.ttl.seen.map (·.toNat))
  | .icmpType => compareNumber signature (icmp.bind fun o ↦ o.type.seen.map (·.toNat))
  | .icmpCode => compareNumber signature (icmp.bind fun o ↦ o.code.seen.map (·.toNat))
  | .udpPayloadLength =>
    -- a `std::size_t` as a `std::int64_t`
    compareNumber signature
      (udp.bind fun o ↦ o.payloadLength.seen.map fun length : ℕ ↦ (length : ℤ).bmod (2 ^ 64))
  | .udpResponseBehavior =>
    compareSeen signature (signature.text ≠ [])
      (fun behavior ↦ responseBehaviorName behavior = signature.text)
      (udp.bind fun o ↦ o.responseBehavior.seen)
  | .responsePresence => compareBoolean signature (some (responsePresent observed))

/-! ### The score of a fingerprint -/

/-- `kNoMatchThreshold`. -/
def noMatchThreshold : ℚ := 0.30

/-- `kLowConfidenceThreshold`. -/
def lowConfidenceThreshold : ℚ := 0.60

/-- `kPossibleMatchThreshold`. -/
def possibleMatchThreshold : ℚ := 0.85

/-- What the loop over the signatures adds up. -/
structure Tally where
  configuredWeight : ℚ := 0
  matchedWeight : ℚ := 0
  matchedFields : List Text := []
  mismatchedFields : List Text := []
  unavailableFields : List Text := []

/-- A pass of the loop over the signatures. -/
def tally (observed : ObservedOSFingerprint) (t : Tally) (signature : FingerprintSignature) :
    Tally :=
  let t := { t with configuredWeight := t.configuredWeight + weightFor signature.field }
  let evidence := compare signature observed
  let fieldName := fingerprintFieldName signature.field
  if !evidence.available then { t with unavailableFields := t.unavailableFields ++ [fieldName] }
  else if evidence.isMatch then
    { t with
      matchedWeight := t.matchedWeight + weightFor signature.field
      matchedFields := t.matchedFields ++ [fieldName] }
  else { t with mismatchedFields := t.mismatchedFields ++ [fieldName] }

/-- A pass of the loop over the fingerprints. -/
def score (fingerprint : OSFingerprint) (observed : ObservedOSFingerprint) : OSMatchResult :=
  let t := fingerprint.signatures.foldl (tally observed) {}
  let confidence := if t.configuredWeight = 0 then 0 else t.matchedWeight / t.configuredWeight
  { fingerprintName := fingerprint.name
    fingerprintId := fingerprint.id
    addressFamily := fingerprint.addressFamily
    specificity := UInt16.ofNat fingerprint.specificity
    vendor := fingerprint.vendor
    family := fingerprint.family
    generation := fingerprint.generation
    deviceType := fingerprint.deviceType
    confidence
    category :=
      if confidence < noMatchThreshold then .noMatch
      else if confidence < lowConfidenceThreshold then .lowConfidence
      else if confidence < possibleMatchThreshold then .possibleMatch
      else .strongMatch
    matchedFields := t.matchedFields
    mismatchedFields := t.mismatchedFields
    unavailableFields := t.unavailableFields }

/-- Whether all that was observed is of the family of the observation, or of none. -/
def compatible (observed : ObservedOSFingerprint) : Bool :=
  let compatible (evidenceFamily : AddressFamily) : Bool :=
    evidenceFamily = .unknown || evidenceFamily = observed.family
  observed.tcpObservations.all (fun o ↦ compatible o.family) &&
    observed.icmpObservations.all (fun o ↦ compatible o.family) &&
    observed.udpObservations.all (fun o ↦ compatible o.family)

/-- `OSMatcher::match`. -/
def matchObserved (std : StdSort) (database : OSFingerprintDatabase)
    (observed : ObservedOSFingerprint) (maxResults : ℕ) : List OSMatchResult :=
  if observed.family = .unknown || !compatible observed then []
  else
    let results := (database.fingerprints.filter (·.addressFamily = observed.family)).map
      (score · observed)
    (std.sort osMatchIsBetter results).take maxResults

/-! ### Confidences are fractions -/

theorem weightFor_pos (field : FingerprintField) : 0 < weightFor field := by
  cases field <;> norm_num [weightFor]

/-- A tally matched no more than was configured. -/
structure Tally.Sound (t : Tally) : Prop where
  nonneg : 0 ≤ t.matchedWeight
  le : t.matchedWeight ≤ t.configuredWeight

/-- Counting a signature keeps a tally sound. -/
theorem tally_sound {t : Tally} (h : t.Sound) (observed : ObservedOSFingerprint)
    (signature : FingerprintSignature) : (tally observed t signature).Sound := by
  have hpos := weightFor_pos signature.field
  have hle := h.le
  rw [tally]
  dsimp only
  split_ifs
  · exact ⟨h.nonneg, by dsimp only; linarith⟩
  · exact ⟨add_nonneg h.nonneg hpos.le, by dsimp only; linarith⟩
  · exact ⟨h.nonneg, by dsimp only; linarith⟩

theorem tallied_sound (signatures : List FingerprintSignature) (observed : ObservedOSFingerprint) :
    (signatures.foldl (tally observed) {}).Sound :=
  List.foldlRecOn signatures (tally observed) ⟨le_rfl, le_rfl⟩
    fun _ h signature _ ↦ tally_sound h observed signature

/-- A confidence is from 0 to 1. -/
theorem score_confidence (fingerprint : OSFingerprint) (observed : ObservedOSFingerprint) :
    0 ≤ (score fingerprint observed).confidence ∧ (score fingerprint observed).confidence ≤ 1 := by
  have hsound := tallied_sound fingerprint.signatures observed
  have hnonneg := hsound.nonneg.trans hsound.le
  rw [score]
  dsimp only
  split_ifs with hzero
  · exact ⟨le_rfl, zero_le_one⟩
  · exact ⟨div_nonneg hsound.nonneg hnonneg, div_le_one_of_le₀ hsound.le hnonneg⟩

/-! ### Observing less -/

/-- A value that may have become unobserved. -/
def MaybeUnobserved (weaker value : ObservedValue α) : Prop :=
  weaker = value ∨ weaker.state ≠ .observed

/-- A behavior that may have become unknown. -/
def MaybeUnknown (weaker behavior : ResponseBehavior) : Prop :=
  weaker = behavior ∨ weaker = .unknown

/-- A TCP observation of which some fields were not observed. -/
structure WeakerTcp (weaker o : TCPObservation) : Prop where
  ttl : MaybeUnobserved weaker.ttl o.ttl
  dontFragment : MaybeUnobserved weaker.dontFragment o.dontFragment
  window : MaybeUnobserved weaker.window o.window
  mss : MaybeUnobserved weaker.mss o.mss
  windowScale : MaybeUnobserved weaker.windowScale o.windowScale
  sackPermitted : MaybeUnobserved weaker.sackPermitted o.sackPermitted
  timestamps : MaybeUnobserved weaker.timestamps o.timestamps
  options : weaker.options = o.options ∨ weaker.options = []
  responseBehavior : MaybeUnknown weaker.responseBehavior o.responseBehavior
  flags : weaker.flags = o.flags
  probeStatus : weaker.probeStatus = o.probeStatus
  family : weaker.family = o.family

/-- A UDP observation of which some fields were not observed. -/
structure WeakerUdp (weaker o : UDPObservation) : Prop where
  payloadLength : MaybeUnobserved weaker.payloadLength o.payloadLength
  responseBehavior : MaybeUnknown weaker.responseBehavior o.responseBehavior
  probeStatus : weaker.probeStatus = o.probeStatus
  family : weaker.family = o.family

/-- An ICMP observation of which some fields were not observed. -/
structure WeakerIcmp (weaker o : ICMPObservation) : Prop where
  ttl : MaybeUnobserved weaker.ttl o.ttl
  type : MaybeUnobserved weaker.type o.type
  code : MaybeUnobserved weaker.code o.code
  probeStatus : weaker.probeStatus = o.probeStatus
  family : weaker.family = o.family

/-- The same observations with fewer fields observed: one field of one of them, or several. The
fields that are not compared with anything may be what they will. -/
structure Weaker (weaker observed : ObservedOSFingerprint) : Prop where
  tcp : List.Forall₂ WeakerTcp weaker.tcpObservations observed.tcpObservations
  udp : List.Forall₂ WeakerUdp weaker.udpObservations observed.udpObservations
  icmp : List.Forall₂ WeakerIcmp weaker.icmpObservations observed.icmpObservations
  responsesReceived : weaker.responsesReceived = observed.responsesReceived
  family : weaker.family = observed.family

/-- What is seen of a weaker observation: nothing, or the same. -/
def MaybeNone (weaker value : Option α) : Prop := weaker = none ∨ weaker = value

theorem MaybeUnobserved.seen {weaker value : ObservedValue α} (h : MaybeUnobserved weaker value) :
    MaybeNone weaker.seen value.seen := by
  rcases h with rfl | h
  · exact .inr rfl
  · exact .inl (if_neg h)

theorem MaybeUnknown.seen {weaker behavior : ResponseBehavior} (h : MaybeUnknown weaker behavior) :
    MaybeNone weaker.seen behavior.seen := by
  rcases h with rfl | rfl
  · exact .inr rfl
  · exact .inl rfl

theorem MaybeNone.map {weaker value : Option α} (h : MaybeNone weaker value) (f : α → β) :
    MaybeNone (weaker.map f) (value.map f) := by
  rcases h with rfl | rfl
  · exact .inl rfl
  · exact .inr rfl

/-- Evidence that is the same, or is not available. -/
def MaybeUnavailable (weaker evidence : Evidence) : Prop :=
  weaker.available = false ∨ weaker = evidence

theorem MaybeNone.compareSeen {weaker value : Option α} (h : MaybeNone weaker value)
    (signature : FingerprintSignature) (comparable : Bool) (isMatch : α → Bool) :
    MaybeUnavailable (OSMatcher.compareSeen signature comparable isMatch weaker)
      (OSMatcher.compareSeen signature comparable isMatch value) := by
  rcases h with rfl | rfl
  · exact .inl rfl
  · exact .inr rfl

/-- The first answers of related observations are related. -/
theorem find?_rel {R : α → β → Prop} {p : α → Bool} {q : β → Bool}
    (hpq : ∀ a b, R a b → p a = q b) {l : List α} (h : List.Forall₂ R l l') :
    Option.Rel R (l.find? p) (l'.find? q) := by
  induction h with
  | nil => exact .none
  | @cons a b l l' hab h ih =>
    have heq := hpq a b hab
    rw [List.find?_cons, List.find?_cons, heq]
    cases q b with
    | true => exact .some hab
    | false => exact ih

/-- What is seen of the first answer. -/
theorem bind_maybeNone {γ : Type*} {R : β → γ → Prop} {weaker : Option β} {o : Option γ}
    (h : Option.Rel R weaker o) {f : β → Option α} {g : γ → Option α}
    (hfg : ∀ b c, R b c → MaybeNone (f b) (g c)) : MaybeNone (weaker.bind f) (o.bind g) := by
  cases h with
  | none => exact .inl rfl
  | some hbc => exact hfg _ _ hbc

variable {weaker observed : ObservedOSFingerprint}

section

variable (h : Weaker weaker observed)

include h

theorem firstTcp_weaker : Option.Rel WeakerTcp (firstTcp weaker) (firstTcp observed) :=
  find?_rel (fun _ _ ho ↦ by rw [ho.probeStatus]) h.tcp

theorem firstUdp_weaker : Option.Rel WeakerUdp (firstUdp weaker) (firstUdp observed) :=
  find?_rel (fun _ _ ho ↦ by rw [ho.probeStatus]) h.udp

theorem firstIcmp_weaker : Option.Rel WeakerIcmp (firstIcmp weaker) (firstIcmp observed) :=
  find?_rel (fun _ _ ho ↦ by rw [ho.probeStatus]) h.icmp

end

theorem eq_nil_iff_of_forall₂ {R : α → β → Prop} {l : List α} (h : List.Forall₂ R l l') :
    l = [] ↔ l' = [] := by
  rw [← List.length_eq_zero_iff, ← List.length_eq_zero_iff, h.length_eq]

theorem responsePresent_weaker (h : Weaker weaker observed) :
    responsePresent weaker = responsePresent observed := by
  simp only [responsePresent, h.responsesReceived, ne_eq, eq_nil_iff_of_forall₂ h.tcp,
    eq_nil_iff_of_forall₂ h.icmp, eq_nil_iff_of_forall₂ h.udp]

/-- **The evidence of a weaker observation is the same, or is missing**, field by field. -/
theorem compare_weaker (h : Weaker weaker observed) (signature : FingerprintSignature) :
    MaybeUnavailable (compare signature weaker) (compare signature observed) := by
  have htcp {β : Type} {f : TCPObservation → Option β}
      (hf : ∀ b c, WeakerTcp b c → MaybeNone (f b) (f c)) :
      MaybeNone ((firstTcp weaker).bind f) ((firstTcp observed).bind f) :=
    bind_maybeNone (firstTcp_weaker h) hf
  have hudp {β : Type} {f : UDPObservation → Option β}
      (hf : ∀ b c, WeakerUdp b c → MaybeNone (f b) (f c)) :
      MaybeNone ((firstUdp weaker).bind f) ((firstUdp observed).bind f) :=
    bind_maybeNone (firstUdp_weaker h) hf
  have hicmp {β : Type} {f : ICMPObservation → Option β}
      (hf : ∀ b c, WeakerIcmp b c → MaybeNone (f b) (f c)) :
      MaybeNone ((firstIcmp weaker).bind f) ((firstIcmp observed).bind f) :=
    bind_maybeNone (firstIcmp_weaker h) hf
  rw [compare, compare]
  cases signature.field with
  | ttl => exact (htcp fun _ _ ho ↦ ho.ttl.seen.map _).compareSeen ..
  | dontFragment => exact (htcp fun _ _ ho ↦ ho.dontFragment.seen).compareSeen ..
  | window => exact (htcp fun _ _ ho ↦ ho.window.seen.map _).compareSeen ..
  | mss => exact (htcp fun _ _ ho ↦ ho.mss.seen.map _).compareSeen ..
  | windowScale => exact (htcp fun _ _ ho ↦ ho.windowScale.seen.map _).compareSeen ..
  | sackPermitted => exact (htcp fun _ _ ho ↦ ho.sackPermitted.seen).compareSeen ..
  | timestamps => exact (htcp fun _ _ ho ↦ ho.timestamps.seen).compareSeen ..
  | tcpOptions =>
    refine (htcp fun b c ho ↦ ?_).compareSeen ..
    rcases ho.options with hsame | hnone
    · exact .inr (by rw [hsame])
    · exact .inl (if_pos hnone)
  | tcpFlags => exact (htcp fun b c ho ↦ .inr (by rw [ho.flags, ho.probeStatus])).compareSeen ..
  | ackBehavior => exact .inl rfl
  | sequenceBehavior => exact .inl rfl
  | responseBehavior => exact (htcp fun _ _ ho ↦ ho.responseBehavior.seen).compareSeen ..
  | icmpTtl => exact (hicmp fun _ _ ho ↦ ho.ttl.seen.map _).compareSeen ..
  | icmpType => exact (hicmp fun _ _ ho ↦ ho.type.seen.map _).compareSeen ..
  | icmpCode => exact (hicmp fun _ _ ho ↦ ho.code.seen.map _).compareSeen ..
  | udpPayloadLength => exact (hudp fun _ _ ho ↦ ho.payloadLength.seen.map _).compareSeen ..
  | udpResponseBehavior => exact (hudp fun _ _ ho ↦ ho.responseBehavior.seen).compareSeen ..
  | responsePresence => exact .inr (by rw [responsePresent_weaker h])

/-- A tally of less evidence: as much configured, and no more matched. -/
def Tally.Less (less t : Tally) : Prop :=
  less.configuredWeight = t.configuredWeight ∧ less.matchedWeight ≤ t.matchedWeight

section

variable (h : Weaker weaker observed)

include h

/-- Counting a signature keeps a tally less. -/
theorem tally_weaker {less t : Tally} (ht : less.Less t) (signature : FingerprintSignature) :
    (tally weaker less signature).Less (tally observed t signature) := by
  obtain ⟨hconfigured, hmatched⟩ := ht
  have hpos := weightFor_pos signature.field
  have hsum : less.configuredWeight + weightFor signature.field =
      t.configuredWeight + weightFor signature.field := by rw [hconfigured]
  rw [tally, tally]
  dsimp only
  rcases compare_weaker h signature with hmissing | hsame
  · -- the matched weight of the weaker observation stays as it is
    rw [hmissing]
    simp only [Bool.not_false, if_true]
    split_ifs
    · exact ⟨hsum, hmatched⟩
    · exact ⟨hsum, by dsimp only; linarith⟩
    · exact ⟨hsum, hmatched⟩
  · rw [hsame]
    split_ifs
    · exact ⟨hsum, hmatched⟩
    · exact ⟨hsum, by dsimp only; linarith⟩
    · exact ⟨hsum, hmatched⟩

theorem tallied_weaker (signatures : List FingerprintSignature) :
    (signatures.foldl (tally weaker) {}).Less (signatures.foldl (tally observed) {}) :=
  List.foldl_rel ⟨rfl, le_rfl⟩ fun signature _ _ _ ht ↦ tally_weaker h ht signature

/-- **Missing evidence never raises a confidence.** -/
theorem confidence_weaker (fingerprint : OSFingerprint) :
    (score fingerprint weaker).confidence ≤ (score fingerprint observed).confidence := by
  have hsound := tallied_sound fingerprint.signatures observed
  obtain ⟨hconfigured, hmatched⟩ := tallied_weaker h fingerprint.signatures
  rw [score, score]
  dsimp only
  rw [hconfigured]
  split_ifs
  · exact le_rfl
  · exact div_le_div_of_nonneg_right hmatched (hsound.nonneg.trans hsound.le)

end

/-! ### What the matcher reports -/

/-- The fingerprints that an observation is compared with. -/
def candidates (database : OSFingerprintDatabase) (observed : ObservedOSFingerprint) :
    List OSFingerprint :=
  if observed.family = .unknown || !compatible observed then []
  else database.fingerprints.filter (·.addressFamily = observed.family)

theorem all_forall₂ {R : α → β → Prop} {p : α → Bool} {q : β → Bool}
    (hpq : ∀ a b, R a b → p a = q b) {l : List α} (h : List.Forall₂ R l l') :
    l.all p = l'.all q := by
  induction h with
  | nil => rfl
  | cons hab _ ih => rw [List.all_cons, List.all_cons, hpq _ _ hab, ih]

/-- Weaker evidence is as compatible. -/
theorem compatible_weaker (h : Weaker weaker observed) :
    compatible weaker = compatible observed := by
  rw [compatible, compatible]
  dsimp only
  rw [all_forall₂ (fun _ _ ho ↦ by rw [ho.family, h.family]) h.tcp,
    all_forall₂ (fun _ _ ho ↦ by rw [ho.family, h.family]) h.icmp,
    all_forall₂ (fun _ _ ho ↦ by rw [ho.family, h.family]) h.udp]

theorem candidates_weaker (database : OSFingerprintDatabase) (h : Weaker weaker observed) :
    candidates database weaker = candidates database observed := by
  rw [candidates, candidates, h.family, compatible_weaker h]

/-- The matcher reports the best scores of its candidates. -/
theorem matchObserved_eq (std : StdSort) (database : OSFingerprintDatabase)
    (observed : ObservedOSFingerprint) (maxResults : ℕ) :
    matchObserved std database observed maxResults =
      (std.sort osMatchIsBetter ((candidates database observed).map (score · observed))).take
        maxResults := by
  rw [matchObserved, candidates]
  split_ifs
  · have hnone : std.sort osMatchIsBetter [] = [] := (std.perm _ _).eq_nil
    rw [List.map_nil, hnone, List.take_nil]
  · rfl

theorem matchObserved_confidence {std : StdSort} {database : OSFingerprintDatabase}
    {observed : ObservedOSFingerprint} {maxResults : ℕ} {result : OSMatchResult}
    (h : result ∈ matchObserved std database observed maxResults) :
    0 ≤ result.confidence ∧ result.confidence ≤ 1 := by
  rw [matchObserved_eq] at h
  obtain ⟨fingerprint, -, rfl⟩ := List.mem_map.mp
    ((std.perm _ _).mem_iff.mp (List.mem_of_mem_take h))
  exact score_confidence fingerprint observed

/-- **Missing evidence never helps.** The confidences that the matcher reports are fractions, and
an observation in which fields are missing is scored against the same candidates as the whole one,
each with a confidence that is no higher. -/
theorem missing_evidence_never_helps (std : StdSort) (database : OSFingerprintDatabase)
    (observed : ObservedOSFingerprint) :
    (∀ maxResults, ∀ result ∈ matchObserved std database observed maxResults,
      0 ≤ result.confidence ∧ result.confidence ≤ 1) ∧
    ∀ weaker, Weaker weaker observed →
      (∀ fingerprint ∈ database.fingerprints,
        (score fingerprint weaker).confidence ≤ (score fingerprint observed).confidence) ∧
      ∃ compared, compared ⊆ database.fingerprints ∧
        ∀ o ∈ [observed, weaker], ∀ maxResults, matchObserved std database o maxResults =
          (std.sort osMatchIsBetter (compared.map (score · o))).take maxResults := by
  refine ⟨fun _ _ ↦ matchObserved_confidence, fun weaker h ↦
    ⟨fun fingerprint _ ↦ confidence_weaker h fingerprint, candidates database observed, ?_, ?_⟩⟩
  · rw [candidates]
    split_ifs
    · exact List.nil_subset _
    · exact List.filter_subset_self ..
  · rintro o ho maxResults
    rcases List.mem_pair.mp ho with rfl | rfl
    · exact matchObserved_eq std database o maxResults
    · rw [matchObserved_eq, candidates_weaker database h]

/-- A fingerprint of one signature. -/
def ttlFingerprint : OSFingerprint where
  name := literal "Linux"
  signatures := [{ field := .ttl, number := some 64 }]

/-- An answer of which only the time to live is looked at. -/
def ttlObservation (ttl : ObservedValue UInt8) : ObservedOSFingerprint where
  tcpObservations := [{ ttl }]

theorem weaker_ttlObservation :
    Weaker (ttlObservation .absent) (ttlObservation (.observed 64)) where
  tcp := .cons ⟨.inr (by decide), .inl rfl, .inl rfl, .inl rfl, .inl rfl, .inl rfl, .inl rfl,
    .inl rfl, .inl rfl, rfl, rfl, rfl⟩ .nil
  udp := .nil
  icmp := .nil
  responsesReceived := rfl
  family := rfl

theorem missing_evidence_never_helps_ttl :
    (score ttlFingerprint (ttlObservation .absent)).confidence ≤
        (score ttlFingerprint (ttlObservation (.observed 64))).confidence ∧
      (score ttlFingerprint (ttlObservation .absent)).confidence = 0 ∧
      (score ttlFingerprint (ttlObservation (.observed 64))).confidence = 1 :=
  ⟨((missing_evidence_never_helps ⟨fun less l ↦ l.mergeSort fun a b ↦ !less b a,
      fun _ _ ↦ List.mergeSort_perm _ _⟩ { fingerprints := [ttlFingerprint] }
      (ttlObservation (.observed 64))).2 _ weaker_ttlObservation).1 _ (List.mem_singleton_self _),
    by decide +kernel, by decide +kernel⟩

end OSMatcher

end Skan.OsDetect

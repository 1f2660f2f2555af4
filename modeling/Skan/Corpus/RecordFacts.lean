import Skan.Corpus.Records

/-!
# What a validated record is known to satisfy

One lemma for each check of `Skan.Corpus.Records`: when it accepts, what it returns, and what holds
of the value. `active_of_parse`, `matcher_of_parse`, `udp_of_parse` and `os_of_parse` collect this
for the four bodies. -/

namespace Skan.Corpus

open Skan.Output (Double)

variable {value result : Str} {field key context : String} {maximumBytes : ℕ} {allowEmpty : Bool}

/-! ### Results -/

theorem bind_eq_ok {ε α β : Type} {x : Except ε α} {f : α → Except ε β} {b : β} :
    (x >>= f) = .ok b ↔ ∃ a, x = .ok a ∧ f a = .ok b := by
  cases x with
  | error e => exact ⟨fun h ↦ absurd h (by simp [bind, Except.bind]),
      fun ⟨a, h, _⟩ ↦ absurd h (by simp)⟩
  | ok a => exact ⟨fun h ↦ ⟨a, rfl, h⟩, fun ⟨a', h, hf⟩ ↦ Except.ok.inj h ▸ hf⟩

theorem pure_eq_ok {ε α : Type*} {a b : α} : (pure a : Except ε α) = .ok b ↔ a = b :=
  ⟨Except.ok.inj, congrArg Except.ok⟩

@[simp] theorem require_eq_ok {condition : Bool} {message : String} {u : Unit} :
    require condition message = .ok u ↔ condition = true := by
  cases condition
  · simp [require]
  · simp [require]

/-- A list that is checked entry by entry, with each check returning the entry. -/
theorem mapM_zipIdx_eq_ok {ε α : Type} {f : α × ℕ → Except ε α} {P : α → Prop}
    (hf : ∀ {x i y}, f (x, i) = .ok y → y = x ∧ P x) {l r : List α} {k : ℕ}
    (h : (l.zipIdx k).mapM f = .ok r) : r = l ∧ ∀ x ∈ l, P x := by
  induction l generalizing r k with
  | nil =>
    rw [List.zipIdx_nil, List.mapM_nil, pure_eq_ok] at h
    exact ⟨h.symm, by simp⟩
  | cons x l ih =>
    rw [List.zipIdx_cons, List.mapM_cons, bind_eq_ok] at h
    obtain ⟨y, hy, h⟩ := h
    obtain ⟨ys, hys, hr⟩ := bind_eq_ok.mp h
    obtain ⟨rfl, hx⟩ := hf hy
    obtain ⟨rfl, hl⟩ := ih hys
    exact ⟨(pure_eq_ok.mp hr).symm, List.forall_mem_cons.mpr ⟨hx, hl⟩⟩

/-! ### Texts -/

section

variable (py : Platform)

/-- What `_checked_text` asks of a text. -/
structure IsText (value : Str) (maximumBytes : ℕ) (allowEmpty : Bool) : Prop where
  nonempty : allowEmpty = false → value ≠ []
  normal : py.normalizeNfc value = value
  noControl : ∀ c ∈ value, isControl c = false
  bounded : (Utf8.encode value).length ≤ maximumBytes

end

variable {py : Platform}

/-- A text that passes is unchanged. -/
theorem checkedText_eq_ok :
    checkedText py value field maximumBytes allowEmpty = .ok result ↔
      result = value ∧ IsText py value maximumBytes allowEmpty := by
  simp only [checkedText, bind_eq_ok, require_eq_ok, exists_const, pure_eq_ok, Bool.or_eq_true,
    Bool.not_eq_true', List.isEmpty_eq_false_iff, decide_eq_true_eq, List.any_eq_false,
    Bool.not_eq_true]
  constructor
  · rintro ⟨hnonempty, hnormal, hcontrol, hbounded, rfl⟩
    refine ⟨rfl, ⟨fun h ↦ ?_, hnormal, hcontrol, hbounded⟩⟩
    exact hnonempty.resolve_left (by simp [h])
  · rintro ⟨rfl, h⟩
    refine ⟨?_, h.normal, h.noControl, h.bounded, rfl⟩
    cases allowEmpty with
    | true => exact .inl rfl
    | false => exact .inr (h.nonempty rfl)

theorem checkedText_self (h : IsText py value maximumBytes allowEmpty) :
    checkedText py value field maximumBytes allowEmpty = .ok value := checkedText_eq_ok.mpr ⟨rfl, h⟩

theorem text_eq_ok :
    text py value key context maximumBytes = .ok result ↔
      result = value ∧ IsText py value maximumBytes false := checkedText_eq_ok

theorem optionalText_eq_ok {value result : Option Str} :
    optionalText py value key context maximumBytes = .ok result ↔
      result = value ∧ ∀ item ∈ value, IsText py item maximumBytes false := by
  cases value with
  | none => exact ⟨fun h ↦ ⟨(pure_eq_ok.mp h).symm, by simp⟩, fun h ↦ by rw [h.1]; rfl⟩
  | some item =>
    simp only [optionalText, bind_eq_ok, text_eq_ok, pure_eq_ok, Option.mem_some_iff, forall_eq']
    constructor
    · rintro ⟨_, ⟨rfl, h⟩, rfl⟩
      exact ⟨rfl, h⟩
    · rintro ⟨rfl, h⟩
      exact ⟨item, ⟨rfl, h⟩, rfl⟩

theorem integer_eq_ok {value result minimum maximum : ℕ} :
    integer value key context minimum maximum = .ok result ↔
      result = value ∧ minimum ≤ value ∧ value ≤ maximum := by
  simp only [integer, bind_eq_ok, require_eq_ok, exists_const, pure_eq_ok, Bool.and_eq_true,
    decide_eq_true_eq]
  exact ⟨fun ⟨h, heq⟩ ↦ ⟨heq.symm, h⟩, fun ⟨heq, h⟩ ↦ ⟨h, heq.symm⟩⟩

theorem optionalInteger_eq_ok {value result : Option ℕ} {minimum maximum : ℕ} :
    optionalInteger value key context minimum maximum = .ok result ↔
      result = value ∧ ∀ item ∈ value, minimum ≤ item ∧ item ≤ maximum := by
  cases value with
  | none => exact ⟨fun h ↦ ⟨(pure_eq_ok.mp h).symm, by simp⟩, fun h ↦ by rw [h.1]; rfl⟩
  | some item =>
    simp only [optionalInteger, bind_eq_ok, integer_eq_ok, pure_eq_ok, Option.mem_some_iff,
      forall_eq']
    constructor
    · rintro ⟨_, ⟨rfl, h⟩, rfl⟩
      exact ⟨rfl, h⟩
    · rintro ⟨rfl, h⟩
      exact ⟨item, ⟨rfl, h⟩, rfl⟩

theorem runtimeToken_eq_ok :
    runtimeToken py value field = .ok result ↔
      result = value ∧ IsText py value shortTextBytes false ∧ isRuntimeToken value := by
  simp only [runtimeToken, bind_eq_ok, checkedText_eq_ok, require_eq_ok, exists_const, pure_eq_ok]
  constructor
  · rintro ⟨_, ⟨rfl, htext⟩, htoken, rfl⟩
    exact ⟨rfl, htext, htoken⟩
  · rintro ⟨rfl, htext, htoken⟩
    exact ⟨result, ⟨rfl, htext⟩, htoken, rfl⟩

theorem probeName_eq_ok :
    probeName py value field = .ok result ↔
      result = value ∧ IsText py value shortTextBytes false ∧ isProbeName value := by
  simp only [probeName, bind_eq_ok, checkedText_eq_ok, require_eq_ok, exists_const, pure_eq_ok]
  constructor
  · rintro ⟨_, ⟨rfl, htext⟩, hname, rfl⟩
    exact ⟨rfl, htext, hname⟩
  · rintro ⟨rfl, htext, hname⟩
    exact ⟨result, ⟨rfl, htext⟩, hname, rfl⟩

/-- What `_runtime_line_text` asks of a text. -/
structure IsLineText (py : Platform) (value : Str) (allowEmpty classComponent : Bool) : Prop where
  isText : IsText py value shortTextBytes allowEmpty
  stripped : Strings.strip isSpace value = value
  noHash : '#' ∉ value
  noBar : classComponent → '|' ∉ value

theorem runtimeLineText_eq_ok {classComponent : Bool} :
    runtimeLineText py value field allowEmpty classComponent = .ok result ↔
      result = value ∧ IsLineText py value allowEmpty classComponent := by
  simp only [runtimeLineText, bind_eq_ok, checkedText_eq_ok, require_eq_ok, exists_const,
    pure_eq_ok,
    Bool.not_eq_true', List.any_eq_false, Bool.or_eq_true, Bool.and_eq_true, decide_eq_true_eq,
      not_or,
    not_and]
  constructor
  · rintro ⟨_, ⟨rfl, htext⟩, hstripped, hdelimiters, rfl⟩
    exact ⟨rfl, htext, hstripped, fun h ↦ (hdelimiters _ h).1 rfl,
      fun hclass h ↦ (hdelimiters _ h).2 hclass rfl⟩
  · rintro ⟨rfl, h⟩
    refine ⟨result, ⟨rfl, h.isText⟩, h.stripped, fun c hc ↦ ⟨?_, ?_⟩, rfl⟩
    · rintro rfl
      exact h.noHash hc
    · rintro hclass rfl
      exact h.noBar hclass hc

theorem stringList_eq_ok {value result : List Str} {maximumCount maximumTextBytes : ℕ}
    {sortValues : Bool}
    (h : stringList py value key context maximumCount maximumTextBytes sortValues = .ok result) :
    (sortValues = false → result = value) ∧ value.length ≤ maximumCount ∧ value.Nodup := by
  simp only [stringList, bind_eq_ok, require_eq_ok, exists_const, pure_eq_ok,
    decide_eq_true_eq] at h
  obtain ⟨hlength, checked, hchecked, hnodup, rfl⟩ := h
  obtain ⟨rfl, -⟩ := mapM_zipIdx_eq_ok
    (P := fun entry ↦ IsText py entry maximumTextBytes false) checkedText_eq_ok.mp hchecked
  exact ⟨fun hsort ↦ by rw [hsort]; rfl, hlength, hnodup⟩

theorem ports_eq_ok {value result : List ℕ} (h : ports value key = .ok result) :
    result = value.insertionSort (· ≤ ·) ∧ value.length ≤ maxPorts ∧
      (∀ port ∈ value, 1 ≤ port ∧ port ≤ 65535) ∧ value.Nodup := by
  simp only [ports, bind_eq_ok, require_eq_ok, exists_const, pure_eq_ok, decide_eq_true_eq,
    List.all_eq_true, Bool.and_eq_true] at h
  obtain ⟨hlength, hrange, hnodup, rfl⟩ := h
  exact ⟨rfl, hlength, hrange, hnodup⟩

/-- What `_hex_payload` asks of a text. -/
structure IsHex (value : Str) (maximumBytes : ℕ) (allowEmpty : Bool) : Prop where
  nonempty : allowEmpty = false → value ≠ []
  even : value.length % 2 = 0
  digits : ∀ c ∈ value, c ∈ Strings.lowerHexDigits
  bounded : value.length / 2 ≤ maximumBytes

theorem hexPayload_eq_ok :
    hexPayload value key context maximumBytes allowEmpty = .ok result ↔
      result = value ∧ IsHex value maximumBytes allowEmpty := by
  simp only [hexPayload, bind_eq_ok, require_eq_ok, exists_const, pure_eq_ok, isLowerHex,
    Bool.and_eq_true, Bool.or_eq_true, Bool.not_eq_true', List.isEmpty_eq_false_iff,
    decide_eq_true_eq, List.all_eq_true]
  constructor
  · rintro ⟨⟨⟨hnonempty, heven⟩, hdigits⟩, hbounded, rfl⟩
    exact ⟨rfl, fun h ↦ hnonempty.resolve_left (by simp [h]), heven, hdigits, hbounded⟩
  · rintro ⟨rfl, h⟩
    refine ⟨⟨⟨?_, h.even⟩, h.digits⟩, h.bounded, rfl⟩
    cases allowEmpty with
    | true => exact .inl rfl
    | false => exact .inr (h.nonempty rfl)

/-- The bytes that a checked text stands for are written as that text. -/
theorem IsHex.toHex_fromHex (h : IsHex value maximumBytes allowEmpty) :
    Strings.toHex (Strings.fromHex value) = value :=
  Strings.toHex_fromHex h.digits h.even

theorem IsHex.length_fromHex (h : IsHex value maximumBytes allowEmpty) :
    (Strings.fromHex value).length ≤ maximumBytes :=
  (Strings.length_fromHex value).trans_le h.bounded

/-! ### Signatures -/

/-- The values of a signature, by its field and its operator. -/
inductive Fits (field : SignatureField) : SignatureOperator → SignatureValue → Prop
  | number {value : ℕ} (h : field.bound.any (value ≤ ·)) : Fits field .eq (.number value)
  | range {minimum maximum : ℕ} (h : minimum ≤ maximum) (hbound : field.bound.any (maximum ≤ ·)) :
      Fits field .range (.range minimum maximum)
  | bool (value : Bool) : Fits field .bool (.bool value)
  | text {value : Str} (h : value ∈ field.behaviors) : Fits field .text (.text value)
  | options {values : List Str} (hne : values ≠ [])
      (h : ∀ option ∈ values, option ∈ allowedOptions) :
      Fits field .tcpOptions (.options values)

theorem signatureNumber_eq_ok {field : SignatureField} {value result : ℕ} :
    signatureNumber field value context = .ok result ↔
      result = value ∧ field.bound.any (value ≤ ·) := by
  simp only [signatureNumber, bind_eq_ok, require_eq_ok, exists_const, pure_eq_ok]
  exact ⟨fun ⟨h, heq⟩ ↦ ⟨heq.symm, h⟩, fun ⟨heq, h⟩ ↦ ⟨h, heq.symm⟩⟩

/-- **A signature** keeps its value, which fits. -/
theorem signatureValue_eq_ok {signature : OSSignature} {result : SignatureValue}
    (h : signatureValue py signature context = .ok result) :
    result = signature.value ∧ Fits signature.field signature.operator signature.value := by
  obtain ⟨field, operator, value⟩ := signature
  rw [signatureValue.eq_def] at h
  dsimp only at h ⊢
  split at h
  · rename_i value
    simp only [bind_eq_ok, signatureNumber_eq_ok, pure_eq_ok] at h
    obtain ⟨_, ⟨rfl, hbound⟩, rfl⟩ := h
    exact ⟨rfl, .number hbound⟩
  · exact absurd h (by simp)
  · simp only [bind_eq_ok, signatureNumber_eq_ok, pure_eq_ok, require_eq_ok, exists_const,
      decide_eq_true_eq] at h
    obtain ⟨_, ⟨rfl, -⟩, _, ⟨rfl, hbound⟩, hle, rfl⟩ := h
    exact ⟨rfl, .range hle hbound⟩
  · exact absurd h (by simp)
  · exact ⟨(pure_eq_ok.mp h).symm, .bool _⟩
  · exact absurd h (by simp)
  · simp only [bind_eq_ok, runtimeLineText_eq_ok, pure_eq_ok, require_eq_ok, exists_const,
      decide_eq_true_eq] at h
    obtain ⟨_, ⟨rfl, -⟩, hbehavior, rfl⟩ := h
    exact ⟨rfl, .text hbehavior⟩
  · exact absurd h (by simp)
  · simp only [bind_eq_ok, pure_eq_ok, require_eq_ok, exists_const, Bool.and_eq_true,
      decide_eq_true_eq, List.all_eq_true] at h
    obtain ⟨⟨hpos, -⟩, options, hoptions, hallowed, rfl⟩ := h
    obtain ⟨rfl, -⟩ := mapM_zipIdx_eq_ok (P := fun option ↦ IsText py option 32 false)
      checkedText_eq_ok.mp hoptions
    exact ⟨rfl, .options (List.length_pos_iff.mp hpos) hallowed⟩
  · exact absurd h (by simp)

theorem parseSignature_eq_ok {signature result : OSSignature} {index : ℕ}
    (h : parseSignature py signature index = .ok result) :
    result = signature ∧ signature.operator ∈ signature.field.operators ∧
      Fits signature.field signature.operator signature.value := by
  simp only [parseSignature, bind_eq_ok, require_eq_ok, exists_const, pure_eq_ok,
    decide_eq_true_eq] at h
  obtain ⟨hoperator, value, hparsed, rfl⟩ := h
  obtain ⟨rfl, hfits⟩ := signatureValue_eq_ok hparsed
  exact ⟨rfl, hoperator, hfits⟩

/-! ### Bodies -/

section

variable (py : Platform)

/-- What is known of a service matcher that is its own canonical form. -/
structure MatcherFacts (body : ServiceMatcherSemantics) : Prop where
  probeName : isProbeName body.probeName
  forms : patternForms py body "service_matcher body" = .ok (body.pattern, body.patternHex)
  valid : body.matcherType = .regex →
    runtimeRegexIsValid py (formBytes body.pattern body.patternHex)
  confidence : isUnit body.confidence
  service : IsText py body.service shortTextBytes false
  product : ∀ item ∈ body.product, IsText py item shortTextBytes false
  versionTemplate : ∀ item ∈ body.versionTemplate, IsText py item shortTextBytes false
  extra : ∀ item ∈ body.extra, IsText py item shortTextBytes false
  hostnameTemplate : ∀ item ∈ body.hostnameTemplate, IsText py item shortTextBytes false
  tunnel : ∀ item ∈ body.tunnel, IsText py item shortTextBytes false

/-- What is known of an active probe that is its own canonical form. -/
structure ActiveFacts (body : ActiveProbeSemantics) : Prop where
  probeName : isProbeName body.probeName
  payloadHex : IsHex body.payloadHex activePayloadBytes true
  rarity : 1 ≤ body.rarity ∧ body.rarity ≤ 2 ^ 32 - 1
  priority : 1 ≤ body.priority ∧ body.priority ≤ 100
  timeoutMs : ∀ item ∈ body.timeoutMs, 1 ≤ item ∧ item ≤ 60000
  portsSorted : body.ports.insertionSort (· ≤ ·) = body.ports
  portsLength : body.ports.length ≤ maxPorts
  portsRange : ∀ port ∈ body.ports, 1 ≤ port ∧ port ≤ 65535
  portsNodup : body.ports.Nodup
  fallbacksLength : body.fallbackProbeNames.length ≤ maxFallbacks
  fallbacksNodup : body.fallbackProbeNames.Nodup
  fallbacks : ∀ name ∈ body.fallbackProbeNames, isProbeName name

/-- What is known of a UDP probe that is its own canonical form. -/
structure UdpFacts (body : UDPProbeSemantics) : Prop where
  name : isRuntimeToken body.name
  destinationPort : body.destinationPort ≤ 65535
  default : body.destinationPort = 0 ↔ body.name = defaultName
  protocolHint : isRuntimeToken body.protocolHint
  maxResponseBytes : 1 ≤ body.maxResponseBytes ∧ body.maxResponseBytes ≤ 2 ^ 20
  payloadHex : IsHex body.payloadHex udpPayloadBytes false

/-- What is known of an OS fingerprint that is its own canonical form. -/
structure OsFacts (body : OSFingerprintSemantics) : Prop where
  signaturesLength : 1 ≤ body.signatures.length
  signatures : ∀ signature ∈ body.signatures,
    signature.operator ∈ signature.field.operators ∧
      Fits signature.field signature.operator signature.value
  fieldsNodup : (body.signatures.map (·.field)).Nodup
  osGeneration : IsLineText py body.osGeneration true true
  deviceType : IsLineText py body.deviceType true true
  device : body.deviceType ≠ [] → body.osGeneration ≠ []
  runtimeId : IsLineText py body.runtimeId false false
  name : IsLineText py body.name false false
  vendor : IsLineText py body.vendor false true
  osFamily : IsLineText py body.osFamily false true
  specificity : 1 ≤ body.specificity ∧ body.specificity ≤ 65535

end

/-- A matcher that parses keeps its limits. -/
theorem matcher_of_parse {body : ServiceMatcherSemantics} (h : parseService py body = .ok body) :
    MatcherFacts py body := by
  simp only [parseService, bind_eq_ok, require_eq_ok, exists_const, pure_eq_ok, probeName_eq_ok,
    text_eq_ok, optionalText_eq_ok, integer_eq_ok, Bool.or_eq_true, decide_eq_true_eq] at h
  obtain ⟨⟨pattern, patternHex⟩, hforms, hvalid, hunit, _, ⟨rfl, -, hname⟩, _, ⟨rfl, hservice⟩, _,
    ⟨rfl, hproduct⟩, _, ⟨rfl, hversion⟩, _, ⟨rfl, hextra⟩, _, ⟨rfl, hhostname⟩, _, ⟨rfl, htunnel⟩,
      _,
    ⟨rfl, -⟩, _, -, heq⟩ := h
  have hpattern : pattern = body.pattern := congrArg ServiceMatcherSemantics.pattern heq
  have hhex : patternHex = body.patternHex := congrArg ServiceMatcherSemantics.patternHex heq
  rw [hpattern, hhex] at hforms hvalid
  exact ⟨hname, hforms, hvalid.resolve_left ∘ not_not.mpr, hunit, hservice, hproduct, hversion,
    hextra,
    hhostname, htunnel⟩

/-- So does an active probe. -/
theorem active_of_parse {body : ActiveProbeSemantics} (h : parseActive py body = .ok body) :
    ActiveFacts body := by
  simp only [parseActive, bind_eq_ok, pure_eq_ok, probeName_eq_ok, hexPayload_eq_ok, integer_eq_ok,
    optionalInteger_eq_ok] at h
  obtain ⟨_, ⟨rfl, -, hname⟩, _, ⟨rfl, hpayload⟩, _, ⟨rfl, hrarity⟩, _, ⟨rfl, hpriority⟩, _,
    ⟨rfl, htimeout⟩, ports, hports, checked, hchecked, fallbacks, hfallbacks, _, ⟨rfl, -⟩, heq⟩ := h
  obtain ⟨hsorted, hlength, hrange, hnodup⟩ := ports_eq_ok hports
  obtain ⟨hsame, hcount, hdistinct⟩ := stringList_eq_ok hchecked
  obtain rfl := hsame rfl
  obtain ⟨-, hnames⟩ := mapM_zipIdx_eq_ok (P := fun name ↦ isProbeName name)
    (fun h ↦ (probeName_eq_ok.mp h).imp_right And.right) hfallbacks
  have hports' : ports = body.ports := congrArg ActiveProbeSemantics.ports heq
  exact ⟨hname, hpayload, hrarity, hpriority, htimeout, hsorted.symm.trans hports', hlength, hrange,
    hnodup, hcount, hdistinct, hnames⟩

/-- So does a UDP probe. -/
theorem udp_of_parse {body : UDPProbeSemantics} (h : parseUdp py body = .ok body) :
    UdpFacts body := by
  simp only [parseUdp, bind_eq_ok, require_eq_ok, exists_const, pure_eq_ok, runtimeToken_eq_ok,
    hexPayload_eq_ok, integer_eq_ok, decide_eq_true_eq] at h
  obtain ⟨_, ⟨rfl, -, hname⟩, _, ⟨rfl, -, hport⟩, hdefault, _, ⟨rfl, -, hhint⟩, _, ⟨rfl, hmaximum⟩,
    _,
    ⟨rfl, hpayload⟩, -⟩ := h
  exact ⟨hname, hport, hdefault, hhint, hmaximum, hpayload⟩

/-- So does a fingerprint. -/
theorem os_of_parse {body : OSFingerprintSemantics} (h : parseOs py body = .ok body) :
    OsFacts py body := by
  simp only [parseOs, bind_eq_ok, require_eq_ok, exists_const, pure_eq_ok, runtimeLineText_eq_ok,
    integer_eq_ok, Bool.and_eq_true, Bool.or_eq_true, Bool.not_eq_true', List.isEmpty_eq_false_iff,
    List.isEmpty_iff, decide_eq_true_eq] at h
  obtain ⟨⟨hpos, -⟩, signatures, hsignatures, hnodup, -, _, ⟨rfl, hgeneration⟩, _, ⟨rfl, hdevice⟩,
    hrequires, _, ⟨rfl, hid⟩, _, ⟨rfl, hname⟩, _, ⟨rfl, hvendor⟩, _, ⟨rfl, hfamily⟩, _,
    ⟨rfl, hspecificity⟩, -⟩ := h
  obtain ⟨rfl, hfits⟩ := mapM_zipIdx_eq_ok
    (P := fun signature ↦ signature.operator ∈ signature.field.operators ∧
      Fits signature.field signature.operator signature.value) parseSignature_eq_ok hsignatures
  exact ⟨hpos, hfits, hnodup, hgeneration, hdevice, fun hne ↦ hrequires.resolve_left hne, hid,
    hname,
    hvendor, hfamily, hspecificity⟩

/-! ### The pattern of a matcher -/

/-- **The pattern** of a canonical matcher: the text of a regular expression, the bytes of any other
pattern, or the bytes of a regular expression that has no text that a record may hold. -/
theorem MatcherFacts.pattern_cases {body : ServiceMatcherSemantics} (h : MatcherFacts py body) :
    (∃ text, body.pattern = some text ∧ body.patternHex = none ∧ body.matcherType = .regex ∧
        IsText py text regexBytes false) ∨
      (∃ hex, body.pattern = none ∧ body.patternHex = some hex ∧ body.matcherType ≠ .regex ∧
        IsHex hex patternBytes false) ∨
      ∃ hex, body.pattern = none ∧ body.patternHex = some hex ∧ body.matcherType = .regex ∧
        IsHex hex regexBytes false ∧
          ∀ text, Utf8.encode text = Strings.fromHex hex → ¬ IsText py text regexBytes false := by
  have hforms := h.forms
  rw [patternForms.eq_def] at hforms
  split at hforms
  · rename_i raw hpattern hhex
    split_ifs at hforms with hregex
    · simp only [regexOfText, bind_eq_ok, checkedText_eq_ok, pure_eq_ok] at hforms
      obtain ⟨_, ⟨rfl, htext⟩, heq⟩ := hforms
      exact .inl ⟨_, hpattern, hhex, hregex, htext⟩
    · simp only [bind_eq_ok, checkedText_eq_ok, pure_eq_ok] at hforms
      obtain ⟨_, -, heq⟩ := hforms
      exact absurd ((congrArg Prod.fst heq).trans hpattern) (by simp)
  · rename_i raw hpattern hhex
    split_ifs at hforms with hregex
    · simp only [regexOfHex, bind_eq_ok, hexPayload_eq_ok] at hforms
      obtain ⟨_, ⟨rfl, hraw⟩, hforms⟩ := hforms
      refine .inr (.inr ⟨_, hpattern, hhex, hregex, hraw, fun text hbytes htext ↦ ?_⟩)
      -- a text that a record may hold would be the canonical form
      rw [← hbytes, Utf8.decode_encode] at hforms
      dsimp only at hforms
      rw [checkedText_self htext] at hforms
      exact absurd ((congrArg Prod.fst (pure_eq_ok.mp hforms)).trans hpattern) (by simp)
    · simp only [bind_eq_ok, hexPayload_eq_ok, pure_eq_ok] at hforms
      obtain ⟨_, ⟨rfl, hraw⟩, -⟩ := hforms
      exact .inr (.inl ⟨_, hpattern, hhex, hregex, hraw⟩)
  · exact absurd hforms (by simp)

end Skan.Corpus

import Skan.Corpus.OsRoundTrip
import Skan.Corpus.ServiceLossless

/-!
# The OS databases are imported again

One lemma for each kind of line says what it does to the fingerprint that is being read; the bytes
that are collected for its digest play no part and are left open. `foldlM_fingerprintTexts` runs
over the lines of one fingerprint and `OsRead.run` over those of all, each finishing the one before
it. -/

namespace Skan.Corpus

open Utf8

/-! ### The texts of a fingerprint -/

/-- The line of a signature. -/
def signatureText (signature : OSSignature) : Str :=
  (directive signature.field signature.operator).getD [] ++ '=' :: rendered signature.value

/-- The lines of a fingerprint. -/
def fingerprintTexts (body : OSFingerprintSemantics) : List Str :=
  ["Fingerprint ".toList ++ body.name, "ID=".toList ++ body.runtimeId,
    "SPECIFICITY=".toList ++ decimal body.specificity,
    "ADDRESS_FAMILY=".toList ++ body.addressFamily.display, classText body]
      ++ body.signatures.map signatureText

variable {py : Platform} {body : OSFingerprintSemantics}

theorem signatureLine_ok {signature : OSSignature}
    (h : signature.operator ∈ signature.field.operators) :
    signatureLine signature = .ok (signatureText signature) := by
  obtain ⟨key, hkey, -⟩ := directive_of_operator signature.operator h
  rw [signatureLine, signatureText, show directive _ _ = some key from hkey, Option.getD_some]

/-- **Every fingerprint** can be emitted. -/
theorem fingerprintLines_ok (h : OsFacts py body) :
    fingerprintLines body = .ok (fingerprintTexts body) :=
  bind_eq_ok.mpr ⟨body.signatures.map signatureText,
    mapM_ok fun signature hs ↦ signatureLine_ok (h.signatures signature hs).1, rfl⟩

/-! ### Lines -/

/-- A line that is its own content. -/
structure OsText (line : Str) : Prop where
  nonempty : line ≠ []
  trimmed : Trimmed line
  noHash : '#' ∉ line
  noNewline : '\n' ∉ line

/-- A line is a text if it begins with a word and ends with a text. -/
theorem osText_append {front back : Str} (hne : front ≠ [])
    (hfront : ∀ c ∈ front, IsPrintable c ∧ c ≠ '#') (hhead : ∀ c ∈ front.head?, isSpace c = false)
    (hne' : back ≠ []) (htrimmed : Trimmed back) (hhash : '#' ∉ back)
    (hcontrol : ∀ c ∈ back, isControl c = false) : OsText (front ++ back) where
  nonempty := List.append_ne_nil_of_left_ne_nil hne _
  trimmed :=
    ⟨by rwa [List.head?_append_of_ne_nil _ hne], by
      rw [List.getLast?_append_of_ne_nil _ hne']
      exact htrimmed.last⟩
  noHash hmem := (List.mem_append.mp hmem).elim (fun h ↦ (hfront _ h).2 rfl) hhash
  noNewline hmem := (List.mem_append.mp hmem).elim
    (fun h ↦ absurd (hfront _ h).1.1 (by decide)) fun h ↦ absurd (hcontrol _ h) (by decide)

theorem IsLineText.osText {value : Str} {classComponent : Bool}
    (h : IsLineText py value false classComponent) {front : Str} (hne : front ≠ [])
    (hfront : ∀ c ∈ front, IsPrintable c ∧ c ≠ '#') (hhead : ∀ c ∈ front.head?, isSpace c = false) :
    OsText (front ++ value) :=
  osText_append hne hfront hhead h.ne_nil h.trimmed h.noHash h.isText.noControl

theorem PlainValue.osText {value : Str} (h : PlainValue value) {front : Str} (hne : front ≠ [])
    (hfront : ∀ c ∈ front, IsPrintable c ∧ c ≠ '#') (hhead : ∀ c ∈ front.head?, isSpace c = false) :
    OsText (front ++ value) := by
  have hchar : ∀ c, isValueChar c → isControl c = false ∧ c ≠ '#' := by
    intro c hc
    rw [isValueChar, Bool.or_eq_true, decide_eq_true_eq] at hc
    rcases hc with hc | rfl
    · exact ⟨isControl_of_isPrintable (isPrintable_of_isPlain (isPlain_of_isWordChar hc)),
        ne_of_isWordChar hc (by decide)⟩
    · exact ⟨by decide, by decide⟩
  exact osText_append hne hfront hhead h.nonempty h.trimmed
    (fun hmem ↦ (hchar _ (h.value _ hmem)).2 rfl)
    fun c hc ↦ (hchar c (h.value c hc)).1

theorem plainValue_decimal (value : ℕ) : PlainValue (decimal value) :=
  plainValue_of_isWordChar Nat.toDigits_ne_nil fun _ ↦ isWordChar_of_mem_decimal

theorem plainValue_display (family : OSAddressFamily) : PlainValue family.display := by
  cases family
  · exact plainValue_of_isWordChar (by decide) (by decide)
  · exact plainValue_of_isWordChar (by decide) (by decide)

/-- **The lines of a fingerprint** are their own contents. -/
theorem osText_fingerprintTexts (h : OsFacts py body) :
    ∀ line ∈ fingerprintTexts body, OsText line := by
  have hdecimal := plainValue_decimal body.specificity
  have hdisplay := plainValue_display body.addressFamily
  rw [fingerprintTexts]
  simp only [List.forall_mem_append, List.forall_mem_cons, List.forall_mem_map]
  refine ⟨⟨h.name.osText (by decide) (by decide) (by decide),
    h.runtimeId.osText (by decide) (by decide) (by decide),
    hdecimal.osText (by decide) (by decide) (by decide),
    hdisplay.osText (by decide) (by decide) (by decide), ?_, by simp⟩, fun signature hs ↦ ?_⟩
  · have hfacts := component_facts h
    have hparts : components body ≠ [] := by simp [components]
    refine osText_append (by decide) (by decide) (by decide)
      (join_ne_nil hparts fun part hp ↦ (hfacts part hp).1)
      (trimmed_join hparts (fun part hp ↦ (hfacts part hp).1) fun part hp ↦
        (hfacts part hp).2.2.2.1)
      (fun hmem ↦ ?_) fun c hc ↦ ?_
    · rcases mem_join hmem with hsep | ⟨part, hp, hhash⟩
      · exact absurd hsep (by decide)
      · exact (hfacts part hp).2.2.1 hhash
    · rcases mem_join hc with hsep | ⟨part, hp, hc⟩
      · exact (by decide : ∀ c ∈ [' ', '|', ' '], isControl c = false) c hsep
      · exact (hfacts part hp).2.2.2.2 c hc
  · obtain ⟨hoperator, hfits⟩ := h.signatures signature hs
    obtain ⟨key, hkey, hvalid⟩ := directive_of_operator signature.operator hoperator
    have hword : ∀ c ∈ key ++ ['='], IsPrintable c ∧ c ≠ '#' := by
      simp only [List.forall_mem_append, List.forall_mem_singleton]
      exact ⟨fun c hc ↦ ⟨isPrintable_of_isPlain (isPlain_of_isWordChar (hvalid.word c hc)),
        ne_of_isWordChar (hvalid.word c hc) (by decide)⟩, ⟨by decide, by decide⟩, by decide⟩
    have htext := @PlainValue.osText _ (plainValue_rendered hfits) (key ++ ['=']) (by simp) hword
      fun c hc ↦ by
      rw [List.head?_append_of_ne_nil _ hvalid.ne_nil] at hc
      exact isSpace_of_isWordChar (hvalid.word c (List.mem_of_head? hc))
    rw [signatureText, show directive _ _ = some key from hkey, Option.getD_some]
    rwa [List.append_assoc] at htext

/-! ### One line -/

section

variable {context : ImportContext} {family : OSAddressFamily} {count n : ℕ} {s : OsImport}
  {current : RuntimeFingerprint} {line key : Str}

/-- The beginning of a line tells its kind. -/
theorem isPrefixOf_encode {word : String} {c : Char}
    (hword : (bytesOf word).head? = some (UInt8.ofNat c.toNat))
    (hc : c.toNat ≤ 0x7F) {text : Str} (h : text.head? ≠ some c) :
    (bytesOf word).isPrefixOf (encode text) = false := by
  rw [Bool.eq_false_iff]
  intro hpre
  obtain ⟨rest, hrest⟩ := List.isPrefixOf_iff_prefix.mp hpre
  have hb : UInt8.ofNat c.toNat ∈ (encode text).head? := by
    rw [← hrest, List.head?_append, hword]
    rfl
  obtain ⟨d, hd, hmem⟩ := head_encode hb
  have hcd : c ∈ [d] := mem_of_mem_encode hc (by simpa using hmem)
  exact h (List.mem_singleton.mp hcd ▸ hd)

/-- **A line of the fingerprint** that is being read. -/
theorem osLine_current (hline : OsText line)
    (hlength : (encode line).length ≤ maxOsLineBytes) (hcurrent : s.current = some current)
    (hhead : line.head? ≠ some 'F') :
    ∃ material, osLine py context family count s (encode line, n) =
      if (bytesOf "Class ").isPrefixOf (encode line) then do
        let current ← classLine current (encode line) n
        return { s with current := some current, material }
      else directiveLine family { s with material } current (encode line) n := by
  have hcontent := osContent_encode hline.trimmed hline.noHash
  have hempty : (encode line).isEmpty = false :=
    List.isEmpty_eq_false_iff.mpr (encode_ne_nil hline.nonempty)
  have hother : (bytesOf "Fingerprint ").isPrefixOf (encode line) = false :=
    isPrefixOf_encode (c := 'F') (by decide) (by decide) hhead
  refine ⟨s.material ++ canonicalMaterial (encode line) (count ≤ n), ?_⟩
  rw [osLine]
  dsimp only
  rw [demand_of (decide_eq_true hlength), hcontent, hother, hcurrent, hempty]
  rfl

/-- **A directive** is handled as its key and its value. -/
theorem directiveLine_eq {value : Str} (hne : key ≠ []) (hword : ∀ c ∈ key, isWordChar c)
    (hne' : value ≠ []) (htrimmed : Trimmed value) (hfresh : key ∉ current.fields) :
    directiveLine family s current (encode (key ++ '=' :: value)) n =
      match signatureOf key (encode value) n with
      | some (field, parsed) => do
        demand (field.name ∉ current.fields)
          s!"line {n}: duplicate OS signature field: {String.ofList field.name}"
        let signature ← parsed
        return { s with
          current := some { current with
            signatures := current.signatures ++ [signature]
            fields := field.name :: current.fields } }
      | none => do
        let (current, ids) ← identityDirective family s.ids current key (encode value) n
        return { s with current := some current, ids } := by
  have hequals : (0x3D : UInt8) ∉ encode key := fun hmem ↦
    ne_of_isWordChar (hword _ (mem_of_mem_encode (c := '=') (by decide) hmem)) (by decide) rfl
  have hencoded : encode (key ++ '=' :: value) =
      encode key ++ 0x3D :: encode value := by
    rw [encode_append, encode_cons]
    rfl
  rw [directiveLine, hencoded, Strings.partition_append hequals]
  dsimp only
  rw [stripBlanks_encode (trimmed_of_isWordChar hword), stripBlanks_encode htrimmed,
    demand_of (by simp [encode_ne_nil hne, encode_ne_nil hne']),
    asciiText_encode (isAscii_of_isWordChar hword)]
  change (demand _ _ >>= fun _ ↦ _) = _
  rw [demand_of (decide_eq_true hfresh)]
  rfl

/-- A line of a directive. -/
theorem osLine_directive {value : Str} (heq : line = key ++ '=' :: value) (hline : OsText line)
    (hlength : (encode line).length ≤ maxOsLineBytes) (hcurrent : s.current = some current)
    (hhead : key.head? ≠ some 'F' ∧ key.head? ≠ some 'C') (hne : key ≠ []) :
    ∃ material, osLine py context family count s (encode line, n) =
      directiveLine family { s with material } current (encode (key ++ '=' :: value)) n := by
  subst heq
  have hfirst : (key ++ '=' :: value).head? = key.head? := List.head?_append_of_ne_nil _ hne
  obtain ⟨material, hmaterial⟩ := @osLine_current py context family count n _ _ _ hline hlength
    hcurrent
    (hfirst ▸ hhead.1)
  have hclass : (bytesOf "Class ").isPrefixOf (encode (key ++ '=' :: value)) = false :=
    isPrefixOf_encode (c := 'C') (by decide) (by decide) (hfirst ▸ hhead.2)
  exact ⟨material, hmaterial.trans (by rw [hclass]; rfl)⟩

/-- The three directives that are not of a signature. -/
theorem signatureOf_identity {value : Bytes} :
    ∀ key ∈ ["ID".toList, "SPECIFICITY".toList, "ADDRESS_FAMILY".toList], signatureOf key value n =
      none := by
  have htables : ∀ key ∈ ["ID".toList, "SPECIFICITY".toList, "ADDRESS_FAMILY".toList],
      osNumericDirectives.lookup key = none ∧ osRangeDirectives.lookup key = none ∧
        osBooleanDirectives.lookup key = none ∧ key ≠ "TCP_OPTIONS".toList ∧
          osTextDirectives.lookup key = none := by decide
  intro key hkey
  obtain ⟨hnumber, hrange, hbool, hnot, htext⟩ := htables key hkey
  rw [signatureOf.eq_def, hnumber, hrange, hbool, htext]
  dsimp only
  rw [if_neg hnot]

/-- **A line of an identity**: the fingerprint and the identifiers are those of
`identityDirective`. -/
theorem osLine_identity {value : Str} {next : RuntimeFingerprint} {ids : List Str}
    (heq : line = key ++ '=' :: value) (hline : OsText line)
    (hlength : (encode line).length ≤ maxOsLineBytes) (hcurrent : s.current = some current)
    (hkey : key ∈ ["ID".toList, "SPECIFICITY".toList, "ADDRESS_FAMILY".toList]) (hne : value ≠ [])
    (htrimmed : Trimmed value) (hfresh : key ∉ current.fields)
    (hidentity : identityDirective family s.ids current key (encode value) n =
      .ok (next, ids)) :
    ∃ material, osLine py context family count s (encode line, n) =
      .ok { s with current := some next, ids, material } := by
  have hkeys : ∀ key ∈ ["ID".toList, "SPECIFICITY".toList, "ADDRESS_FAMILY".toList],
      (key.head? ≠ some 'F' ∧ key.head? ≠ some 'C') ∧ key ≠ [] ∧
        ∀ c ∈ key, isWordChar c := by decide
  obtain ⟨hhead, hkeyNe, hword⟩ := hkeys key hkey
  obtain ⟨material, hmaterial⟩ := @osLine_directive py context family count n _ _ _ _ _ heq hline
    hlength
    hcurrent hhead hkeyNe
  refine ⟨material, hmaterial.trans ?_⟩
  rw [directiveLine_eq hkeyNe hword hne htrimmed hfresh, signatureOf_identity key hkey]
  exact bind_eq_ok.mpr ⟨(next, ids), hidentity, rfl⟩

/-- **A line of a signature** adds the signature. -/
theorem osLine_signature {signature : OSSignature}
    (hoperator : signature.operator ∈ signature.field.operators)
    (hfits : Fits signature.field signature.operator signature.value)
    (hline : OsText (signatureText signature))
    (hlength : (encode (signatureText signature)).length ≤ maxOsLineBytes)
    (hcurrent : s.current = some current) (hfield : signature.field.name ∉ current.fields)
    (hkeys : ∀ key, SignatureKey key → key ∉ current.fields) :
    ∃ material, osLine py context family count s (encode (signatureText signature), n) =
      .ok { s with
        current := some { current with
          signatures := current.signatures ++ [signature]
          fields := signature.field.name :: current.fields }
        material } := by
  obtain ⟨key, hkey, hvalid⟩ := directive_of_operator signature.operator hoperator
  have hvalue := plainValue_rendered hfits
  have heq : signatureText signature = key ++ '=' :: rendered signature.value := by
    rw [signatureText, show directive _ _ = some key from hkey, Option.getD_some]
  obtain ⟨material, hmaterial⟩ := @osLine_directive py context family count n _ _ _ _ _ heq hline
    hlength
    hcurrent hvalid.head hvalid.ne_nil
  refine ⟨material, hmaterial.trans ?_⟩
  rw [directiveLine_eq hvalid.ne_nil hvalid.word hvalue.nonempty hvalue.trimmed (hkeys key hvalid),
    signatureOf_directive hkey hfits]
  exact bind_eq_ok.mpr ⟨(), demand_of (decide_eq_true hfield) _, rfl⟩

/-! ### The lines of a fingerprint -/

/-- What a fingerprint is read as when these of its signatures are read. -/
def importedFingerprint (body : OSFingerprintSemantics) (signatures : List OSSignature) :
    RuntimeFingerprint where
  name := body.name
  runtimeId := body.runtimeId
  addressFamily := body.addressFamily
  vendor := some body.vendor
  osFamily := some body.osFamily
  osGeneration := body.osGeneration
  deviceType := body.deviceType
  specificity := some body.specificity
  hasAddressFamily := true
  signatures := signatures
  fields := (signatures.map (·.field.name)).reverse ++
    ["Class".toList, "ADDRESS_FAMILY".toList, "SPECIFICITY".toList, "ID".toList]

theorem name_injective : Function.Injective SignatureField.name := by
  let fields : List SignatureField := [.ttl, .dontFragment, .window, .mss, .windowScale,
    .sackPermitted,
    .timestamps, .tcpOptions, .tcpFlags, .ackBehavior, .sequenceBehavior, .responseBehavior,
      .icmpTtl,
    .icmpType, .icmpCode, .udpPayloadLength, .udpResponseBehavior, .responsePresence]
  have hfind : ∀ field : SignatureField, fields.find? (·.name = field.name) = some field := by
    intro field
    cases field <;> decide
  intro a b h
  have hfound := hfind a
  rw [h, hfind b] at hfound
  exact (Option.some.inj hfound).symm

theorem name_notMem_identity (field : SignatureField) :
    field.name ∉ ["Class".toList, "ADDRESS_FAMILY".toList, "SPECIFICITY".toList, "ID".toList] := by
  cases field <;> decide

/-- The lines of some more signatures. -/
theorem foldlM_signatureText (h : OsFacts py body) {signatures done : List OSSignature}
    (hall : done ++ signatures = body.signatures)
    (hshort : ∀ signature ∈ signatures, (encode (signatureText signature)).length ≤
      maxOsLineBytes)
    (hcurrent : s.current = some (importedFingerprint body done)) (k : ℕ) :
    ∃ material, (numbered (signatures.map signatureText) k).foldlM (osLine py context family count)
      s =
      .ok { s with current := some (importedFingerprint body body.signatures), material } := by
  induction signatures generalizing done s k with
  | nil =>
    rw [List.append_nil] at hall
    subst hall
    exact ⟨s.material, by rw [← hcurrent]; rfl⟩
  | cons signature signatures ih =>
    have hmem : signature ∈ body.signatures := by
      rw [← hall]
      simp
    have hnodup := h.fieldsNodup
    rw [← hall, List.map_append, List.map_cons] at hnodup
    have hfield : signature.field.name ∉ (importedFingerprint body done).fields := by
      intro hin
      rcases List.mem_append.mp hin with hdone | hidentity
      · obtain ⟨other, hother, hname⟩ := List.mem_map.mp (List.mem_reverse.mp hdone)
        exact (List.nodup_append.mp hnodup).2.2 _ (List.mem_map_of_mem hother) _ List.mem_cons_self
          (name_injective hname)
      · exact name_notMem_identity _ hidentity
    have hkeys : ∀ key, SignatureKey key → key ∉ (importedFingerprint body done).fields := by
      intro key hkey hin
      rcases List.mem_append.mp hin with hdone | hidentity
      · obtain ⟨other, -, hname⟩ := List.mem_map.mp (List.mem_reverse.mp hdone)
        exact hkey.ne_name _ hname.symm
      · exact hkey.identity hidentity
    obtain ⟨hoperator, hfits⟩ := h.signatures signature hmem
    have htext : OsText (signatureText signature) :=
      osText_fingerprintTexts h _ (List.mem_append_right _ (List.mem_map_of_mem hmem))
    obtain ⟨material, hstep⟩ := @osLine_signature py context family count k _ _ _ hoperator hfits
      htext
      (hshort signature List.mem_cons_self) hcurrent hfield hkeys
    have hnext : { importedFingerprint body done with
        signatures := (importedFingerprint body done).signatures ++ [signature]
        fields := signature.field.name :: (importedFingerprint body done).fields } =
          importedFingerprint body (done ++ [signature]) := by
      simp [importedFingerprint]
    rw [hnext] at hstep
    obtain ⟨last, hrest⟩ := @ih
      { s with current := some (importedFingerprint body (done ++ [signature])), material }
      (done ++ [signature])
      (by rw [← hall, List.append_assoc]; rfl)
      (fun other ho ↦ hshort other (List.mem_cons_of_mem signature ho)) rfl (k + 1)
    refine ⟨last, ?_⟩
    rw [List.map_cons, numbered_cons, List.foldlM_cons]
    exact bind_eq_ok.mpr ⟨_, hstep, hrest⟩

/-- **The first line of a fingerprint** finishes the one before it. -/
theorem osLine_fingerprint (h : OsFacts py body) {records : List CanonicalRecord}
    (hlength : (encode ("Fingerprint ".toList ++ body.name)).length ≤ maxOsLineBytes)
    (hfinal : finalizeCurrent py context s = .ok records) (hname : body.name ∉ s.names)
    (hcount : records.length < maxProbes) :
    ∃ material, osLine py context family count s
        (encode ("Fingerprint ".toList ++ body.name), n) =
      .ok { s with
        records
        names := body.name :: s.names
        current := some { name := body.name, runtimeId := body.name, addressFamily := family }
        material } := by
  have htext : OsText ("Fingerprint ".toList ++ body.name) :=
    osText_fingerprintTexts h _ (by simp [fingerprintTexts])
  have hcontent := osContent_encode htext.trimmed htext.noHash
  have hpre : (bytesOf "Fingerprint ").isPrefixOf
      (encode ("Fingerprint ".toList ++ body.name)) = true := by
    rw [encode_append]
    exact List.isPrefixOf_iff_prefix.mpr (List.prefix_append _ _)
  have hdrop : (encode ("Fingerprint ".toList ++ body.name)).drop 12 =
      encode body.name := by
    rw [encode_append]
    exact List.drop_left' rfl
  refine ⟨canonicalMaterial (encode ("Fingerprint ".toList ++ body.name)) (count ≤ n), ?_⟩
  rw [osLine]
  dsimp only
  refine bind_eq_ok.mpr ⟨(), demand_of (decide_eq_true hlength) _, ?_⟩
  rw [hcontent, if_pos hpre, fingerprintLine, hdrop, stripBlanks_encode h.name.trimmed]
  refine bind_eq_ok.mpr ⟨records, hfinal, ?_⟩
  refine bind_eq_ok.mpr ⟨body.name, utf8Text_encode _ _, ?_⟩
  refine bind_eq_ok.mpr ⟨(), demand_of (by simpa using h.name.ne_nil) _, ?_⟩
  refine bind_eq_ok.mpr ⟨(), demand_of (decide_eq_true hname) _, ?_⟩
  exact bind_eq_ok.mpr ⟨(), demand_of (decide_eq_true hcount) _, rfl⟩

/-- The line of a class completes the names. -/
theorem osLine_class (h : OsFacts py body)
    (hlength : (encode (classText body)).length ≤ maxOsLineBytes)
    (hcurrent : s.current = some current) (hfresh : "Class".toList ∉ current.fields) :
    ∃ material, osLine py context family count s (encode (classText body), n) =
      .ok { s with
        current := some { current with
          vendor := some body.vendor
          osFamily := some body.osFamily
          osGeneration := body.osGeneration
          deviceType := body.deviceType
          fields := "Class".toList :: current.fields }
        material } := by
  have htext : OsText (classText body) := osText_fingerprintTexts h _ (by simp [fingerprintTexts])
  have hhead : (classText body).head? = some 'C' := rfl
  obtain ⟨material, hmaterial⟩ := @osLine_current py context family count n _ _ _ htext hlength
    hcurrent (by rw [hhead]; decide)
  have hpre : (bytesOf "Class ").isPrefixOf (encode (classText body)) = true := by
    rw [classText, encode_append]
    exact List.isPrefixOf_iff_prefix.mpr (List.prefix_append _ _)
  refine ⟨material, hmaterial.trans ?_⟩
  rw [if_pos hpre]
  exact bind_eq_ok.mpr ⟨_, classLine_classText h hfresh n, rfl⟩

theorem identityDirective_id {ids : List Str} (hid : body.runtimeId ∉ ids)
    (hsame : current.runtimeId = current.name) :
    identityDirective family ids current "ID".toList (encode body.runtimeId) n =
      .ok ({ current with runtimeId := body.runtimeId, fields := "ID".toList :: current.fields },
        body.runtimeId :: ids) := by
  rw [identityDirective, if_pos rfl]
  refine bind_eq_ok.mpr ⟨body.runtimeId, utf8Text_encode _ _, ?_⟩
  refine bind_eq_ok.mpr ⟨(), demand_of (decide_eq_true hid) _, ?_⟩
  exact bind_eq_ok.mpr ⟨(), demand_of (decide_eq_true hsame) _, rfl⟩

theorem identityDirective_specificity (h : OsFacts py body) (ids : List Str) :
    identityDirective family ids current "SPECIFICITY".toList
      (encode (decimal body.specificity)) n =
      .ok ({ current with
        specificity := some body.specificity, fields := "SPECIFICITY".toList :: current.fields },
          ids) := by
  rw [identityDirective, if_neg (by decide), if_pos rfl]
  exact bind_eq_ok.mpr ⟨body.specificity, unsigned_decimal h.specificity.1 h.specificity.2 _, rfl⟩

theorem identityDirective_family (ids : List Str) :
    identityDirective family ids current "ADDRESS_FAMILY".toList (encode family.display) n =
      .ok ({ current with
        hasAddressFamily := true, fields := "ADDRESS_FAMILY".toList :: current.fields }, ids) := by
  rw [identityDirective, if_neg (by decide), if_neg (by decide), if_pos rfl]
  cases family
  · exact bind_eq_ok.mpr ⟨_, asciiText_encode (by decide) _, rfl⟩
  · exact bind_eq_ok.mpr ⟨_, asciiText_encode (by decide) _, rfl⟩

/-- A key written with its `=` stands before its value as the key, the `=` and the value. -/
theorem assigned_append {assigned : Str} (h : assigned = key ++ ['=']) (value : Str) :
    assigned ++ value = key ++ '=' :: value := by
  rw [h, List.append_assoc, List.singleton_append]

/-- **The lines of a fingerprint** finish the one before it and read this one. -/
theorem foldlM_fingerprintTexts (h : OsFacts py body) {records : List CanonicalRecord}
    (hfamily : body.addressFamily = family)
    (hshort : ∀ line ∈ fingerprintTexts body, (encode line).length ≤ maxOsLineBytes)
    (hfinal : finalizeCurrent py context s = .ok records) (hname : body.name ∉ s.names)
    (hid : body.runtimeId ∉ s.ids) (hcount : records.length < maxProbes) (k : ℕ) :
    ∃ material, (numbered (fingerprintTexts body) k).foldlM (osLine py context family count) s =
      .ok {
        records
        names := body.name :: s.names
        ids := body.runtimeId :: s.ids
        current := some (importedFingerprint body body.signatures)
        material } := by
  have htexts := osText_fingerprintTexts h
  rw [fingerprintTexts] at hshort htexts ⊢
  simp only [List.forall_mem_append, List.forall_mem_cons, List.forall_mem_map] at hshort htexts
  obtain ⟨⟨hshort₁, hshort₂, hshort₃, hshort₄, hshort₅, -⟩, hshorts⟩ := hshort
  obtain ⟨⟨-, htext₂, htext₃, htext₄, -, -⟩, -⟩ := htexts
  subst hfamily
  have hdecimal := plainValue_decimal body.specificity
  have hdisplay := plainValue_display body.addressFamily
  obtain ⟨m₁, h₁⟩ := @osLine_fingerprint py body context body.addressFamily count k _ h _ hshort₁
    hfinal hname hcount
  have hidLine := assigned_append (show "ID=".toList = "ID".toList ++ ['='] by decide)
    body.runtimeId
  have hspecificityLine := assigned_append
    (show "SPECIFICITY=".toList = "SPECIFICITY".toList ++ ['='] by decide)
    (decimal body.specificity)
  have hfamilyLine := assigned_append
    (show "ADDRESS_FAMILY=".toList = "ADDRESS_FAMILY".toList ++ ['='] by decide)
    body.addressFamily.display
  -- the states between the lines
  let c₁ : RuntimeFingerprint :=
    { name := body.name, runtimeId := body.name, addressFamily := body.addressFamily }
  let c₂ : RuntimeFingerprint := { c₁ with runtimeId := body.runtimeId, fields := ["ID".toList] }
  let c₃ : RuntimeFingerprint :=
    { c₂ with specificity := some body.specificity, fields := "SPECIFICITY".toList :: c₂.fields }
  let c₄ : RuntimeFingerprint :=
    { c₃ with hasAddressFamily := true, fields := "ADDRESS_FAMILY".toList :: c₃.fields }
  let next (ids : List Str) (c : RuntimeFingerprint) (material : Bytes) : OsImport :=
    { records, names := body.name :: s.names, ids, current := some c, material }
  obtain ⟨m₂, h₂⟩ := @osLine_identity py context body.addressFamily count (k + 1)
    (next s.ids c₁ m₁) _ _ _ _ _ _ hidLine htext₂ hshort₂
    (show _ = some c₁ from rfl) (by simp) h.runtimeId.ne_nil h.runtimeId.trimmed List.not_mem_nil
    (identityDirective_id hid rfl)
  obtain ⟨m₃, h₃⟩ := @osLine_identity py context body.addressFamily count (k + 2)
    (next (body.runtimeId :: s.ids) c₂ m₂) _ _ _ _ _ _ hspecificityLine htext₃
    hshort₃ (show _ = some c₂ from rfl) (by simp) hdecimal.nonempty hdecimal.trimmed
    (by decide : "SPECIFICITY".toList ∉ ["ID".toList]) (identityDirective_specificity h _)
  obtain ⟨m₄, h₄⟩ := @osLine_identity py context body.addressFamily count (k + 3)
    (next (body.runtimeId :: s.ids) c₃ m₃) _ _ _ _ _ _ hfamilyLine htext₄
    hshort₄ (show _ = some c₃ from rfl) (by simp) hdisplay.nonempty hdisplay.trimmed
    (by decide : "ADDRESS_FAMILY".toList ∉ ["SPECIFICITY".toList, "ID".toList])
    (identityDirective_family _)
  obtain ⟨m₅, h₅⟩ := @osLine_class py body context body.addressFamily count (k + 4)
    (next (body.runtimeId :: s.ids) c₄ m₄) _ h hshort₅
    (show _ = some c₄ from rfl)
    (by decide : "Class".toList ∉ ["ADDRESS_FAMILY".toList, "SPECIFICITY".toList, "ID".toList])
  obtain ⟨material, hrest⟩ := @foldlM_signatureText py body context body.addressFamily count
    (next (body.runtimeId :: s.ids) (importedFingerprint body []) m₅) h _ [] rfl hshorts rfl (k + 5)
  refine ⟨material, ?_⟩
  rw [numbered_append, List.foldlM_append]
  refine bind_eq_ok.mpr ⟨next (body.runtimeId :: s.ids) (importedFingerprint body []) m₅, ?_, hrest⟩
  simp only [numbered_cons, List.foldlM_cons]
  refine bind_eq_ok.mpr ⟨_, h₁, ?_⟩
  refine bind_eq_ok.mpr ⟨_, h₂, ?_⟩
  refine bind_eq_ok.mpr ⟨_, h₃, ?_⟩
  refine bind_eq_ok.mpr ⟨_, h₄, ?_⟩
  exact bind_eq_ok.mpr ⟨_, h₅, rfl⟩

end

/-! ### The database -/

section

variable {family : OSAddressFamily} {count : ℕ} {s : OsImport}

/-- A fingerprint that was read makes its record. -/
theorem finalizeOs_imported (hpy : py.Lawful) (h : parseOs py body = .ok body) (material : Bytes)
    (records : List CanonicalRecord) :
    ∃ value, finalizeOs py (osContext family) (importedFingerprint body body.signatures) material
      records =
        .ok (records ++ [value]) ∧ value.semantics = semanticsOf py (.osFingerprint body) := by
  have hfacts := os_of_parse h
  have hknown := known_osContext family
  have hid : IsText py ((osContext family).sourcePath ++ ":fingerprint:".toList ++ body.runtimeId)
    256
      false := by
    have hsplit : (osContext family).sourcePath ++ ":fingerprint:".toList ++ body.runtimeId =
        ((osContext family).sourcePath ++ ":fingerprint".toList) ++ ':' :: body.runtimeId := by
      rw [show ":fingerprint:".toList = ":fingerprint".toList ++ [':'] by decide]
      simp only [List.append_assoc, List.singleton_append]
    have hword : (":fingerprint".toList).length = 12 := by decide
    have hlength := hknown.length
    rw [hsplit]
    refine isText_of_colon hpy ?_ hfacts.runtimeId.isText ?_
    · simp only [List.forall_mem_append]
      exact ⟨hknown.path, by decide⟩
    · simp only [List.length_append, hword, shortTextBytes]
      omega
  have hne : body.signatures ≠ [] := List.length_pos_iff.mp hfacts.signaturesLength
  obtain ⟨value, hvalue, hvalueBody⟩ := @record_ok _ _ _ _ material hpy hknown
    (parseBody_osFingerprint.mpr h) hid
  refine ⟨value, ?_, hvalueBody⟩
  rw [finalizeOs, importedFingerprint]
  refine bind_eq_ok.mpr ⟨(), demand_of (by simpa using hne) _, ?_⟩
  exact bind_eq_ok.mpr ⟨value, hvalue, rfl⟩

/-- What is read after these fingerprints. -/
structure OsRead (py : Platform) (family : OSAddressFamily) (done : List OSFingerprintSemantics)
    (s : OsImport) : Prop where
  bodies : ∀ material, ∃ records, finalizeCurrent py (osContext family) { s with material } =
    .ok records ∧
    records.map (·.semantics) = done.map fun body ↦ semanticsOf py (.osFingerprint body)
  names : ∀ name, name ∈ s.names ↔ name ∈ done.map (·.name)
  ids : ∀ id, id ∈ s.ids ↔ id ∈ done.map (·.runtimeId)

/-- **The lines of one more fingerprint.** -/
theorem OsRead.next (hpy : py.Lawful) {done : List OSFingerprintSemantics}
    (hread : OsRead py family done s)
    (h : parseOs py body = .ok body) (hfamily : body.addressFamily = family)
    (hshort : ∀ line ∈ fingerprintTexts body, (encode line).length ≤ maxOsLineBytes)
    (hname : body.name ∉ done.map (·.name)) (hid : body.runtimeId ∉ done.map (·.runtimeId))
    (hcount : done.length < maxProbes) (k : ℕ) :
    ∃ s', (numbered (fingerprintTexts body) k).foldlM (osLine py (osContext family) family count)
      s =
      .ok s' ∧ OsRead py family (done ++ [body]) s' := by
  obtain ⟨records, hfinal, hbodies⟩ := hread.bodies s.material
  have hlength : records.length = done.length := by
    simpa using congrArg List.length hbodies
  obtain ⟨material, hlines⟩ := @foldlM_fingerprintTexts _ _ _ _ count _ (os_of_parse h) _ hfamily
    hshort hfinal
    ((hread.names _).not.mpr hname) ((hread.ids _).not.mpr hid) (hlength ▸ hcount) k
  refine ⟨_, hlines, fun other ↦ ?_, fun name ↦ ?_, fun id ↦ ?_⟩
  · obtain ⟨value, hvalue, hvalueBody⟩ := @finalizeOs_imported _ _ family hpy h other records
    exact ⟨records ++ [value], hvalue, by simp [hbodies, hvalueBody]⟩
  · simp [hread.names, or_comm]
  · simp [hread.ids, or_comm]

/-- The lines of some fingerprints. -/
theorem OsRead.run (count : ℕ) (hpy : py.Lawful) {bodies done : List OSFingerprintSemantics}
    (hread : OsRead py family done s) (h : ∀ body ∈ bodies, parseOs py body = .ok body)
    (hfamily : ∀ body ∈ bodies, body.addressFamily = family)
    (hshort : ∀ line ∈ bodies.flatMap fingerprintTexts, (encode line).length ≤ maxOsLineBytes)
    (hnames : ((done ++ bodies).map (·.name)).Nodup)
    (hids : ((done ++ bodies).map (·.runtimeId)).Nodup)
    (hcount : done.length + bodies.length ≤ maxProbes) (k : ℕ) :
    ∃ s', (numbered (bodies.flatMap fingerprintTexts) k).foldlM
        (osLine py (osContext family) family count) s = .ok s' ∧
          OsRead py family (done ++ bodies) s' := by
  induction bodies generalizing done s k with
  | nil => exact ⟨s, rfl, by rwa [List.append_nil]⟩
  | cons body bodies ih =>
    have hassoc : done ++ body :: bodies = (done ++ [body]) ++ bodies := by simp
    have hname : body.name ∉ done.map (·.name) := by
      rw [List.map_append, List.map_cons] at hnames
      exact fun hmem ↦ (List.nodup_append.mp hnames).2.2 _ hmem _ List.mem_cons_self rfl
    have hid : body.runtimeId ∉ done.map (·.runtimeId) := by
      rw [List.map_append, List.map_cons] at hids
      exact fun hmem ↦ (List.nodup_append.mp hids).2.2 _ hmem _ List.mem_cons_self rfl
    rw [List.flatMap_cons, List.forall_mem_append] at hshort
    rw [List.length_cons] at hcount
    obtain ⟨s₁, hs₁, hread₁⟩ := @OsRead.next _ _ _ count _ hpy _ hread (h body List.mem_cons_self)
      (hfamily body List.mem_cons_self) hshort.1 hname hid (by omega) k
    obtain ⟨s₂, hs₂, hread₂⟩ := ih hread₁ (fun b hb ↦ h b (List.mem_cons_of_mem body hb))
      (fun b hb ↦ hfamily b (List.mem_cons_of_mem body hb)) hshort.2 (hassoc ▸ hnames)
        (hassoc ▸ hids)
      (by simp only [List.length_append, List.length_singleton]; omega)
      (k + (fingerprintTexts body).length)
    refine ⟨s₂, ?_, hassoc ▸ hread₂⟩
    rw [List.flatMap_cons, numbered_append, List.foldlM_append]
    exact bind_eq_ok.mpr ⟨s₁, hs₁, hs₂⟩

/-- The line behind the last newline. -/
theorem osLine_nil (count : ℕ) {done : List OSFingerprintSemantics}
    (hread : OsRead py family done s) (n : ℕ) :
    ∃ s', osLine py (osContext family) family count s ([], n) = .ok s' ∧
      OsRead py family done s' := by
  obtain ⟨records, names, ids, current, material⟩ := s
  cases current with
  | none => exact ⟨_, rfl, hread⟩
  | some current => exact ⟨_, rfl, hread.bodies, hread.names, hread.ids⟩

end

variable {records : List CanonicalRecord} (family : OSAddressFamily)

/-- The lines of the database. -/
def osLines (records : List CanonicalRecord) : List Str :=
  (orderedFingerprints (osFingerprints records) family).flatMap fingerprintTexts

variable {family}

theorem mem_orderedFingerprints : body ∈ orderedFingerprints (osFingerprints records) family ↔
    body ∈ osFingerprints records ∧ body.addressFamily = family := by
  rw [orderedFingerprints, List.mem_insertionSort, List.mem_filter, decide_eq_true_iff]

/-- **Every fingerprint** of a family is emitted. -/
theorem os_ok (h : GraphFacts py records) :
    os records family = .ok (encode (linesText (osLines family records))) := by
  refine bind_eq_ok.mpr ⟨(orderedFingerprints (osFingerprints records) family).map fingerprintTexts,
    mapM_ok fun body hbody ↦ fingerprintLines_ok
      (os_of_parse (h.parse_os (mem_orderedFingerprints.mp hbody).1)), ?_⟩
  rw [osLines, List.flatMap_def]
  rfl

theorem nodup_orderedFingerprints {α : Type} {key : OSFingerprintSemantics → α}
    (h : ((osFingerprints records).map key).Nodup) :
    ((orderedFingerprints (osFingerprints records) family).map key).Nodup :=
  ((List.perm_insertionSort _ _).map key).nodup_iff.mpr (h.sublist (List.filter_sublist.map key))

/-- The runtime identifier of a fingerprint. -/
def RecordBody.runtimeId : RecordBody → Option Str
  | .osFingerprint body => some body.runtimeId
  | _ => none

/-- **The OS database of a family is imported** with the bodies of its fingerprints. -/
theorem parseOsRuntime_ok (hpy : py.Lawful) (h : GraphFacts py records)
    (hlimits : withinLimits (encode (linesText (osLines family records))) maxOsLineBytes) :
    ∃ imported, parseOsRuntime py (osContext family)
      (encode (linesText (osLines family records)))
        family = .ok imported ∧
      imported.map (·.semantics) = (orderedFingerprints (osFingerprints records) family).map
        fun body ↦
        semanticsOf py (.osFingerprint body) := by
  have hparse : ∀ body ∈ orderedFingerprints (osFingerprints records) family, parseOs py body =
      .ok body :=
    fun body hbody ↦ h.parse_os (mem_orderedFingerprints.mp hbody).1
  have hfingerprints : orderedFingerprints (osFingerprints records) family ≠ [] := by
    obtain ⟨body, hbody, hfamily⟩ := h.families family
    exact List.ne_nil_of_mem (mem_orderedFingerprints.mpr ⟨hbody, hfamily⟩)
  have hlines : osLines family records ≠ [] := by
    obtain ⟨body, hbody⟩ := List.exists_mem_of_ne_nil _ hfingerprints
    have hline : classText body ∈ osLines family records :=
      List.mem_flatMap.mpr ⟨body, hbody, by simp [fingerprintTexts]⟩
    exact List.ne_nil_of_mem hline
  have hsplit := splitOn_linesText hlines fun line hline ↦ by
    obtain ⟨body, hbody, hmem⟩ := List.mem_flatMap.mp hline
    exact (osText_fingerprintTexts (os_of_parse (hparse body hbody)) line hmem).noNewline
  simp only [withinLimits, Bool.and_eq_true, List.all_eq_true, decide_eq_true_eq, hsplit] at hlimits
  obtain ⟨hbytes, hshort⟩ := hlimits
  have hcount : (orderedFingerprints (osFingerprints records) family).length ≤ maxProbes := by
    rw [orderedFingerprints, List.length_insertionSort]
    exact (List.length_filter_le _ _).trans h.fingerprintCount
  have hinitial : OsRead py family [] {} := ⟨fun _ ↦ ⟨[], rfl, rfl⟩, by simp, by simp⟩
  have hall := hinitial.run ((osLines family records).map encode ++ [[]]).length hpy hparse
    (fun body hbody ↦ (mem_orderedFingerprints.mp hbody).2)
    (fun line hline ↦ hshort _ (List.mem_append_left _ (List.mem_map_of_mem hline)))
    (nodup_orderedFingerprints h.fingerprintNames) (nodup_orderedFingerprints h.runtimeIds)
    (by rwa [List.length_nil, Nat.zero_add]) 1
  obtain ⟨s, hs, hread⟩ := hall
  obtain ⟨s', hs', hread'⟩ := osLine_nil ((osLines family records).map encode ++ [[]]).length
    hread
    (1 + ((osLines family records).map encode).length)
  obtain ⟨imported, himported, hbodies⟩ := hread'.bodies s'.material
  rw [List.nil_append] at hbodies
  have hids : runtimeIds imported =
      (orderedFingerprints (osFingerprints records) family).map (·.runtimeId) := by
    have hview : runtimeIds imported =
        (imported.map (·.semantics)).filterMap (·.2.runtimeId) := by
      rw [List.filterMap_map]
      rfl
    rw [hview, hbodies, List.filterMap_map]
    exact congrFun List.filterMap_eq_map' _
  have hne : imported ≠ [] := by
    rintro rfl
    exact hfingerprints (List.map_eq_nil_iff.mp hbodies.symm)
  refine ⟨imported, ?_, hbodies⟩
  refine bind_eq_ok.mpr ⟨(), demand_of (decide_eq_true hbytes) _, ?_⟩
  refine bind_eq_ok.mpr ⟨(), demand_of (by cases family <;> decide) _, ?_⟩
  rw [hsplit]
  refine bind_eq_ok.mpr ⟨s', ?_, ?_⟩
  · rw [List.zipIdx_append, List.foldlM_append]
    refine bind_eq_ok.mpr ⟨s, hs, ?_⟩
    exact bind_eq_ok.mpr ⟨s', hs', rfl⟩
  refine bind_eq_ok.mpr ⟨imported, himported, ?_⟩
  refine bind_eq_ok.mpr ⟨(), demand_of (by simpa using hne) _, ?_⟩
  refine bind_eq_ok.mpr ⟨(), demand_of (decide_eq_true ?_) _, rfl⟩
  rw [hids]
  exact nodup_orderedFingerprints h.runtimeIds

end Skan.Corpus

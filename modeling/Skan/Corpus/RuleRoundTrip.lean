import Skan.Corpus.ServiceRoundTrip

/-!
# Emitted rules are read back

The line of a rule is a line of words too, and the importer reads its fields as they were written
(`ruleFromTokens_importedRule`). What may be lost is the form of a pattern: `misread` are the
regular expressions that are kept in hexadecimal although `_pattern_fields` takes their bytes for a
text. Every other rule has the body that it was emitted from (`ruleBody_importedRule`); the body of
one that is misread is refused (`parseService_misread`). -/

namespace Skan.Corpus

open Utf8

open Skan.Output (Double)

variable {text : Str} {fields : Fields}

section

variable (py : Platform)

/-! ### The line of a rule -/

/-- A text between quotes. -/
def quotedText (text : Str) : FieldValue := .quoted (Utf8.encode text)

/-- The fields of a rule. -/
def ruleValues (rule : ServiceMatcherSemantics) : List (Str × FieldValue) :=
  [("type".toList, .plain rule.matcherType.name), ("pattern".toList, .quoted rule.patternBytes),
      ("service".toList, quotedText rule.service)]
    ++ optionalValue "product" (rule.product.map quotedText)
    ++ optionalValue "version" (rule.versionTemplate.map quotedText)
    ++ optionalValue "extra" (rule.extra.map quotedText)
    ++ optionalValue "hostname" (rule.hostnameTemplate.map quotedText)
    ++ optionalValue "tunnel" (rule.tunnel.map quotedText)
    ++ [("confidence".toList, .plain (py.repr rule.confidence))]

/-- The directive of a rule. -/
def ruleDirective (rule : ServiceMatcherSemantics) : Str :=
  if rule.strength = .soft then "softmatch".toList else "match".toList

/-- The words of a rule. -/
def ruleWords (rule : ServiceMatcherSemantics) : List Word :=
  { plain := ruleDirective rule } :: (ruleValues py rule).map fieldWord

/-- What a rule is read as. -/
def importedRule (rule : ServiceMatcherSemantics) : RuntimeRule where
  strength := rule.strength
  fields := readFields (ruleValues py rule)
  material := Utf8.encode (ruleLine py rule)

end

theorem text_quotedText (key text : Str) :
    (fieldWord (key, quotedText text)).text = key ++ '=' :: textToken text := text_quoted key _

theorem map_text_quotedText (key : String) (value : Option Str) :
    ((optionalValue key (value.map quotedText)).map fieldWord).map Word.text =
      optionalField key (value.map textToken) := by
  cases value with
  | none => rfl
  | some text => exact congrArg (· :: []) (text_quoted _ _)

variable {py : Platform} {rule : ServiceMatcherSemantics}

/-- A rule line is the line of its words. -/
theorem ruleLine_eq : ruleLine py rule = wordsLine (ruleWords py rule) := by
  rw [ruleLine, wordsLine, ruleWords, ruleValues]
  simp only [List.map_append, List.map_cons, List.map_nil, text_plain, text_quoted, text_quotedText,
    text_mk, map_text_quotedText, List.cons_append, List.nil_append, assigned]
  rfl

theorem keys_ruleValues : ((ruleValues py rule).map (·.1)).Sublist ruleFields := by
  have hkeys : ruleFields = ["type".toList, "pattern".toList, "service".toList] ++
      ["product".toList] ++ ["version".toList] ++ ["extra".toList] ++ ["hostname".toList] ++
        ["tunnel".toList] ++ ["confidence".toList] := rfl
  rw [ruleValues, List.map_append, List.map_append, List.map_append, List.map_append,
    List.map_append,
    List.map_append, hkeys]
  exact ((((((List.Sublist.refl _).append (keys_optionalValue _ _)).append
    (keys_optionalValue _ _)).append (keys_optionalValue _ _)).append
    (keys_optionalValue _ _)).append (keys_optionalValue _ _)).append (List.Sublist.refl _)

/-! ### Floating-point numbers -/

theorem forall_takeWhile_dropWhile {p q : Char → Bool} (hpq : ∀ c, p c → q c)
    (h : ∀ c ∈ text.dropWhile p, q c) : ∀ c ∈ text, q c := by
  intro c hc
  rw [← List.takeWhile_append_dropWhile (p := p) (l := text)] at hc
  rcases List.mem_append.mp hc with hc | hc
  · exact hpq c (List.mem_takeWhile_imp hc)
  · exact h c hc

theorem isWordChar_of_all_isDecimal (h : text.all isDecimal) : ∀ c ∈ text, isWordChar c :=
  fun c hc ↦ isWordChar_of_isDecimal (List.all_eq_true.mp h c hc)

theorem isWordChar_of_isExponent (h : isExponent text) : ∀ c ∈ text, isWordChar c := by
  cases text with
  | nil => simp
  | cons e rest =>
    simp only [isExponent, Bool.and_eq_true, Bool.or_eq_true, decide_eq_true_eq] at h
    obtain ⟨⟨he, -⟩, hdigits⟩ := h
    have hword := isWordChar_of_all_isDecimal hdigits
    have hrest : ∀ c ∈ rest, isWordChar c := by
      rw [exponentDigits.eq_def] at hword
      split at hword
      · exact List.forall_mem_cons.mpr ⟨by decide, hword⟩
      · exact List.forall_mem_cons.mpr ⟨by decide, hword⟩
      · exact hword
    refine List.forall_mem_cons.mpr ⟨?_, hrest⟩
    rcases he with rfl | rfl
    · decide
    · decide

theorem isWordChar_of_isMagnitude (h : isMagnitude text) :
    text ≠ [] ∧ ∀ c ∈ text, isWordChar c := by
  simp only [isMagnitude, Bool.and_eq_true, Bool.not_eq_true'] at h
  obtain ⟨hdigits, hexponent⟩ := h
  constructor
  · rintro rfl
    exact absurd hdigits (by decide)
  refine forall_takeWhile_dropWhile (fun c ↦ isWordChar_of_isDecimal) ?_
  rw [fractionOf.eq_def] at hexponent
  split at hexponent
  · rename_i rest hpoint
    rw [hpoint]
    exact List.forall_mem_cons.mpr ⟨by decide,
      forall_takeWhile_dropWhile (fun c ↦ isWordChar_of_isDecimal)
        (isWordChar_of_isExponent hexponent)⟩
  · exact isWordChar_of_isExponent hexponent

/-- A number has word characters only. -/
theorem isWordChar_of_isFloat (h : isFloat text) : text ≠ [] ∧ ∀ c ∈ text, isWordChar c := by
  rw [isFloat.eq_def] at h
  split at h
  · exact ⟨List.cons_ne_nil _ _,
      List.forall_mem_cons.mpr ⟨by decide, (isWordChar_of_isMagnitude h).2⟩⟩
  · exact isWordChar_of_isMagnitude h

/-! ### Fields of a rule -/

theorem MatcherFacts.patternBytes_ne_nil (h : MatcherFacts py rule) : rule.patternBytes ≠ [] := by
  have hhex : ∀ {hex : Str} {maximum : ℕ}, IsHex hex maximum false → Strings.fromHex hex ≠ [] := by
    intro hex maximum hhex hnil
    have hpos := List.length_pos_iff.mpr (hhex.nonempty rfl)
    have heven := hhex.even
    have hlength := Strings.length_fromHex hex
    rw [hnil, List.length_nil] at hlength
    omega
  rw [ServiceMatcherSemantics.patternBytes]
  rcases h.pattern_cases with ⟨text, hpattern, -, -, htext⟩ | ⟨hex, hpattern, hform, -, hbytes⟩ |
    ⟨hex, hpattern, hform, -, hbytes, -⟩
  · rw [hpattern]
    exact encode_ne_nil (htext.nonempty rfl)
  · rw [hpattern, hform]
    exact hhex hbytes
  · rw [hpattern, hform]
    exact hhex hbytes

theorem MatcherFacts.length_patternBytes (h : MatcherFacts py rule) :
    rule.patternBytes.length ≤ patternBytes := by
  rw [ServiceMatcherSemantics.patternBytes]
  rcases h.pattern_cases with ⟨text, hpattern, -, -, htext⟩ | ⟨hex, hpattern, hform, -, hbytes⟩ |
    ⟨hex, hpattern, hform, -, hbytes, -⟩
  · rw [hpattern]
    exact htext.bounded.trans (by decide)
  · rw [hpattern, hform]
    exact hbytes.length_fromHex
  · rw [hpattern, hform]
    exact hbytes.length_fromHex.trans (by decide)

theorem fits_quotedText {maximumBytes : ℕ} (h : IsText py text maximumBytes false) :
    (quotedText text).Fits :=
  ⟨encode_ne_nil (h.nonempty rfl), fun _ heq ↦ absurd heq (by simp [quotedText])⟩

theorem isPlain_matcherType (matcherType : MatcherType) : ∀ c ∈ matcherType.name, isPlain c := by
  cases matcherType <;> decide

/-- The values of a rule can be written. -/
theorem writable_ruleValues (hpy : py.Lawful) (h : MatcherFacts py rule) :
    Writable (ruleValues py rule) := by
  refine ⟨fun key hkey ↦ ?_, ?_, keys_ruleValues.nodup (by decide)⟩
  · have hkeys : ∀ key ∈ ruleFields, key ≠ [] ∧ ∀ c ∈ key, isAsciiLetter c := by decide
    exact hkeys key (keys_ruleValues.subset hkey)
  have hoptional : ∀ {name : String} {value : Option Str},
      (∀ text ∈ value, IsText py text shortTextBytes false) →
        ∀ field ∈ optionalValue name (value.map quotedText), field.2.Fits := by
    intro name value hvalue field hfield
    obtain ⟨text, htext, heq⟩ := Option.map_eq_some_iff.mp (mem_optionalValue hfield).2
    exact heq ▸ fits_quotedText (hvalue text htext)
  obtain ⟨hne, hword⟩ := isWordChar_of_isFloat (hpy.isFloat_repr _ h.confidence)
  rw [ruleValues]
  simp only [List.forall_mem_append, List.forall_mem_cons]
  refine ⟨⟨⟨⟨⟨⟨⟨?_, ?_, fits_quotedText h.service, by simp⟩, hoptional h.product⟩,
    hoptional h.versionTemplate⟩, hoptional h.extra⟩, hoptional h.hostnameTemplate⟩,
    hoptional h.tunnel⟩, ?_, by simp⟩
  · refine fits_plain ?_ (isPlain_matcherType _)
    cases rule.matcherType <;> decide
  · exact ⟨h.patternBytes_ne_nil, fun _ heq ↦ absurd heq (by simp)⟩
  · exact fits_plain hne fun c hc ↦ isPlain_of_isWordChar (hword c hc)

/-- Writing back what is there changes nothing. -/
theorem Fields.set_self {key : Str} {value : Bytes} (hnodup : (fields.map (·.1)).Nodup)
    (h : fields.lookup key = some value) : fields.set key value = fields := by
  obtain ⟨front, back, rfl, -⟩ := List.lookup_eq_some_iff.mp h
  have hany : (front ++ (key, value) :: back).any (·.1 = key) := by simp
  rw [Fields.set, if_pos hany]
  refine (List.map_congr_left fun field hfield ↦ ?_).trans (List.map_id _)
  split_ifs with heq
  · -- the keys are distinct, so this is the field that was looked up
    exact List.inj_on_of_nodup_map hnodup (by simp) hfield heq.symm
  · rfl

section

variable (rule)

theorem lookup_type :
    (readFields (ruleValues py rule)).lookup "type".toList =
      some (encode rule.matcherType.name) := by
  simp [ruleValues, FieldValue.bytes]

theorem lookup_pattern :
    (readFields (ruleValues py rule)).lookup "pattern".toList = some rule.patternBytes := by
  simp [ruleValues, FieldValue.bytes]

theorem lookup_service :
    (readFields (ruleValues py rule)).lookup "service".toList =
      some (encode rule.service) := by
  simp [ruleValues, quotedText, FieldValue.bytes]

theorem lookup_confidence :
    (readFields (ruleValues py rule)).lookup "confidence".toList =
      some (encode (py.repr rule.confidence)) := by
  simp [ruleValues, FieldValue.bytes]

end

theorem requiredGiven_of {required : List Str} (h : ∀ key ∈ required, key ∈ fields.map (·.1))
    (directive : String) (n : ℕ) : requiredGiven fields required directive n = .ok () := by
  have hmissing : required.filter (· ∉ fields.map (·.1)) = [] :=
    List.filter_eq_nil_iff.mpr fun key hkey hnot ↦ of_decide_eq_true hnot (h key hkey)
  rw [requiredGiven, hmissing]
  rfl

theorem mem_keys_of_lookup {key : Str} {value : Bytes} (h : fields.lookup key = some value) :
    key ∈ fields.map (·.1) := by
  obtain ⟨front, back, rfl, -⟩ := List.lookup_eq_some_iff.mp h
  simp

theorem matcherTypeOf_name (matcherType : MatcherType) :
    matcherTypeOf matcherType.name = some matcherType := by
  cases matcherType <;> decide

/-- A confidence is read back. -/
theorem confidenceOf_repr (hpy : py.Lawful) {confidence : Double} (h : isUnit confidence) (n : ℕ) :
    confidenceOf py (encode (py.repr confidence)) n = .ok confidence := by
  have hfloat := hpy.isFloat_repr _ h
  rw [confidenceOf]
  refine bind_eq_ok.mpr ⟨py.repr confidence,
    asciiText_encode (isAscii_of_isWordChar (isWordChar_of_isFloat hfloat).2) _, ?_⟩
  refine bind_eq_ok.mpr ⟨(), demand_of hfloat _, ?_⟩
  rw [hpy.float_repr _ h]
  exact bind_eq_ok.mpr ⟨(), demand_of h _, rfl⟩

/-- **The line of a rule** is read back, whatever the form of its pattern. -/
theorem ruleFromTokens_importedRule (hpy : py.Lawful) (h : MatcherFacts py rule)
    (directive : String)
    (n : ℕ) :
    ruleFromTokens py (fieldTokens (readFields (ruleValues py rule))) rule.strength directive
      (encode (ruleLine py rule)) n = .ok (importedRule py rule) := by
  have hassignable := (writable_ruleValues hpy h).assignable
  have htype := @lookup_type py rule
  have hconfidence := @lookup_confidence py rule
  rw [ruleFromTokens]
  refine bind_eq_ok.mpr ⟨readFields (ruleValues py rule), assignments_fieldTokens hassignable _ _,
    ?_⟩
  refine bind_eq_ok.mpr ⟨(), supportedOnly_of
    (fun key hkey ↦ keys_ruleValues.subset (mem_keys_readFields.mp hkey)) _ _, ?_⟩
  refine bind_eq_ok.mpr ⟨(), requiredGiven_of ?_ _ _, ?_⟩
  · intro key hkey
    simp only [requiredRuleFields, List.mem_cons, List.not_mem_nil, or_false] at hkey
    rcases hkey with rfl | rfl | rfl
    · exact mem_keys_of_lookup (lookup_pattern rule)
    · exact mem_keys_of_lookup (lookup_service rule)
    · exact mem_keys_of_lookup hconfidence
  rw [htype, lookup_pattern, hconfidence, Option.getD_some, Option.getD_some, Option.getD_some]
  refine bind_eq_ok.mpr ⟨rule.matcherType.name,
    asciiText_encode (isAscii_of_isPlain (isPlain_matcherType _)) _, ?_⟩
  rw [matcherTypeOf_name]
  have hbounds : ((!rule.patternBytes.isEmpty && rule.patternBytes.length ≤ patternBytes) : Bool) =
      true := by
    simpa using ⟨h.patternBytes_ne_nil, h.length_patternBytes⟩
  have hregex : ((rule.matcherType ≠ .regex || runtimeRegexIsValid py rule.patternBytes) : Bool) =
      true := by
    rw [Bool.or_eq_true, decide_eq_true_eq]
    exact (em (rule.matcherType = .regex)).symm.imp_right h.valid
  refine bind_eq_ok.mpr ⟨(), demand_of hbounds _, ?_⟩
  refine bind_eq_ok.mpr ⟨(), demand_of hregex _, ?_⟩
  refine bind_eq_ok.mpr ⟨rule.confidence, confidenceOf_repr hpy h.confidence n, ?_⟩
  rw [Fields.set_self hassignable.nodup htype]
  dsimp only
  rw [Fields.set_self hassignable.nodup hconfidence]
  rfl

/-! ### The body of a rule -/

/-- A regular expression that is kept in hexadecimal although `_pattern_fields` takes its bytes for
a text. -/
def misread (rule : ServiceMatcherSemantics) : Bool :=
  rule.matcherType = .regex && rule.pattern.isNone &&
    (Utf8.decode rule.patternBytes).any (!·.any fun c ↦ c.toNat < 32 || c.toNat = 127)

/-- A pattern that is not misread keeps its form. -/
theorem patternFields_of_not_misread (h : MatcherFacts py rule) (hread : misread rule = false) :
    patternFields rule.matcherType rule.patternBytes = (rule.pattern, rule.patternHex) := by
  rw [misread] at hread
  rw [patternFields]
  rcases h.pattern_cases with ⟨text, hpattern, hform, hregex, htext⟩ |
    ⟨hex, hpattern, hform, hregex, hbytes⟩ | ⟨hex, hpattern, hform, hregex, hbytes, -⟩
  · have hcontrol : (text.any fun c ↦ decide (c.toNat < 32) || decide (c.toNat = 127)) = false := by
      rw [List.any_eq_false]
      intro c hc hcontrol
      have hnot := htext.noControl c hc
      simp only [isControl, Bool.or_eq_false_iff, Bool.and_eq_false_iff,
        decide_eq_false_iff_not] at hnot
      simp only [Bool.or_eq_true, decide_eq_true_eq] at hcontrol
      omega
    rw [if_neg (not_not.mpr hregex), ServiceMatcherSemantics.patternBytes, hpattern, hform]
    dsimp only [formBytes]
    rw [decode_encode]
    dsimp only
    rw [if_neg (by simpa using hcontrol)]
  · rw [if_pos hregex, ServiceMatcherSemantics.patternBytes, hpattern, hform]
    exact congrArg (fun form ↦ (none, some form)) hbytes.toHex_fromHex
  · have hbytes' : Strings.toHex rule.patternBytes = hex := by
      rw [ServiceMatcherSemantics.patternBytes, hpattern, hform]
      exact hbytes.toHex_fromHex
    rw [if_neg (not_not.mpr hregex), hbytes', hpattern, hform]
    rw [hregex, hpattern, decide_eq_true rfl, Option.isNone_none, Bool.true_and,
      Bool.true_and] at hread
    cases hdecode : decode rule.patternBytes with
    | none => rfl
    | some text =>
      rw [hdecode, Option.any_some, Bool.not_eq_false'] at hread
      dsimp only
      rw [if_pos hread]

/-- A pattern that is misread becomes a text that no record may hold. -/
theorem patternFields_of_misread (h : MatcherFacts py rule) (hread : misread rule = true) :
    rule.matcherType = .regex ∧ ∃ text, ¬ IsText py text regexBytes false ∧
      patternFields rule.matcherType rule.patternBytes = (some text, none) := by
  simp only [misread, Bool.and_eq_true, decide_eq_true_eq, Option.isNone_iff_eq_none,
    Option.any_eq_true] at hread
  obtain ⟨⟨hregex, hnone⟩, text, hdecode, hcontrol⟩ := hread
  refine ⟨hregex, text, ?_, ?_⟩
  · have hencoded := encode_of_decode hdecode
    rcases h.pattern_cases with ⟨_, hpattern, -⟩ | ⟨_, -, -, hnot, -⟩ |
      ⟨hex, hpattern, hform, -, -, hhex⟩
    · exact absurd (hnone.symm.trans hpattern) (by simp)
    · exact absurd hregex hnot
    · refine hhex text (hencoded.trans ?_)
      rw [ServiceMatcherSemantics.patternBytes, hpattern, hform]
      rfl
  · rw [patternFields, if_neg (not_not.mpr hregex), hdecode]
    dsimp only
    rw [if_neg (by simpa using hcontrol)]

/-- The body that an emitted rule is read as. -/
def importedBody (rule : ServiceMatcherSemantics) : ServiceMatcherSemantics :=
  { rule with
    pattern := (patternFields rule.matcherType rule.patternBytes).1
    patternHex := (patternFields rule.matcherType rule.patternBytes).2
    cpe := [] }

theorem textField_map {key : String} {value : Option Str}
    (h : fields.lookup key.toList = value.map encode) : textField fields key = .ok value := by
  rw [textField, h]
  cases value with
  | none => rfl
  | some text => exact bind_eq_ok.mpr ⟨text, utf8Text_encode text _, rfl⟩

theorem ruleBody_importedRule (hpy : py.Lawful) (h : MatcherFacts py rule) {probe : RuntimeProbe}
    (hprobe : probe.name = rule.probeName) :
    ruleBody py probe (importedRule py rule) rule.ruleOrder = .ok (importedBody rule) := by
  have hfloat := (isWordChar_of_isFloat (hpy.isFloat_repr _ h.confidence)).2
  have hoptional : ∀ value : Option Str, (value.map quotedText).map FieldValue.bytes =
      value.map encode := fun value ↦ by
    rw [Option.map_map]
    rfl
  rw [ruleBody, importedRule, lookup_type, lookup_pattern, lookup_service, lookup_confidence,
    Option.getD_some, Option.getD_some, Option.getD_some, Option.getD_some]
  refine bind_eq_ok.mpr ⟨rule.matcherType.name,
    asciiText_encode (isAscii_of_isPlain (isPlain_matcherType _)) _, ?_⟩
  rw [matcherTypeOf_name, Option.getD_some]
  refine bind_eq_ok.mpr ⟨rule.service, utf8Text_encode _ _, ?_⟩
  refine bind_eq_ok.mpr ⟨rule.product, textField_map (by simp [ruleValues, hoptional]), ?_⟩
  refine bind_eq_ok.mpr ⟨rule.versionTemplate, textField_map (by simp [ruleValues, hoptional]), ?_⟩
  refine bind_eq_ok.mpr ⟨rule.extra, textField_map (by simp [ruleValues, hoptional]), ?_⟩
  refine bind_eq_ok.mpr ⟨rule.hostnameTemplate, textField_map (by simp [ruleValues, hoptional]), ?_⟩
  refine bind_eq_ok.mpr ⟨rule.tunnel, textField_map (by simp [ruleValues, hoptional]), ?_⟩
  refine bind_eq_ok.mpr ⟨py.repr rule.confidence, asciiText_encode (isAscii_of_isWordChar hfloat) _,
    ?_⟩
  rw [hpy.float_repr _ h.confidence, hprobe]
  rfl

/-- **A rule that is not misread** has the body that it was emitted from. -/
theorem importedBody_of_not_misread (h : MatcherFacts py rule) (hcpe : rule.cpe = [])
    (hread : misread rule = false) : importedBody rule = rule := by
  rw [importedBody, patternFields_of_not_misread h hread, ← hcpe]

/-- **A rule that is misread** is refused. -/
theorem parseService_misread (h : MatcherFacts py rule) (hread : misread rule = true)
    (body : ServiceMatcherSemantics) : parseService py (importedBody rule) ≠ .ok body := by
  obtain ⟨hregex, text, htext, hforms⟩ := patternFields_of_misread h hread
  have htextForm : (importedBody rule).pattern = some text := congrArg Prod.fst hforms
  have hhexForm : (importedBody rule).patternHex = none := congrArg Prod.snd hforms
  intro hparsed
  obtain ⟨_, hpattern, -⟩ := bind_eq_ok.mp hparsed
  rw [patternForms.eq_def, htextForm, hhexForm] at hpattern
  dsimp only at hpattern
  rw [if_pos (show (importedBody rule).matcherType = .regex from hregex)] at hpattern
  obtain ⟨_, hchecked, -⟩ := bind_eq_ok.mp hpattern
  exact htext (checkedText_eq_ok.mp hchecked).2

end Skan.Corpus

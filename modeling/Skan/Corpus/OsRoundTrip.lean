import Skan.Corpus.Reimport

/-!
# The lines of an emitted OS database

A line is a directive and a value, without quotes: what keeps it readable is that the ends of a text
are no spaces (`stripBlanks_encode`) and that no text holds a comment character.
`signatureOf_directive` is the round trip of a signature, over all fields and operators that fit;
`classLine_classText` the one of the names of a system. -/

namespace Skan.Corpus

open Utf8

variable {text key : Str} {b : UInt8}

/-! ### Ends of a text -/

/-- A text whose ends are no spaces. -/
structure Trimmed (text : Str) : Prop where
  head : ∀ c ∈ text.head?, isSpace c = false
  last : ∀ c ∈ text.getLast?, isSpace c = false

theorem trimmed_of_strip (h : Strings.strip isSpace text = text) : Trimmed text :=
  ⟨fun c hc ↦ Bool.eq_false_iff.mpr ((Strings.ends_of_strip h).1 c hc),
    fun c hc ↦ Bool.eq_false_iff.mpr ((Strings.ends_of_strip h).2 c hc)⟩

/-- A text that begins and ends with such texts. -/
theorem Trimmed.append {front back : Str} (hfront : Trimmed front) (hback : Trimmed back)
    (hne : front ≠ []) (hne' : back ≠ []) (middle : Str) : Trimmed (front ++ middle ++ back) := by
  constructor
  · rw [List.append_assoc, List.head?_append_of_ne_nil _ hne]
    exact hfront.head
  · rw [List.getLast?_append_of_ne_nil _ hne']
    exact hback.last

/-- Only a space has a blank byte. -/
theorem isBlank_of_mem_encodeChar {c : Char} (hb : b ∈ String.utf8EncodeChar c)
    (hblank : isBlank b) : isSpace c := by
  simp only [isBlank, Bool.or_eq_true, decide_eq_true_eq] at hblank
  rcases Nat.lt_or_ge 0x7F c.toNat with hbeyond | hascii
  · have hle := UInt8.le_iff_toNat_le.mp (le_of_mem_encodeChar hbeyond hb)
    rcases hblank with (rfl | rfl) | rfl <;> exact absurd hle (by decide)
  · rw [encodeChar_ascii hascii, List.mem_singleton] at hb
    have hnat : b.toNat = c.toNat := by
      rw [hb]
      exact UInt8.toNat_ofNat_of_lt' (show c.toNat < 256 by omega)
    have hspace : c.toNat = 0x20 ∨ c.toNat = 0x09 ∨ c.toNat = 0x0D := by
      rw [← hnat]
      rcases hblank with (rfl | rfl) | rfl <;> decide
    simp only [isSpace, Bool.or_eq_true, Bool.and_eq_true, decide_eq_true_eq]
    omega

theorem head_encode (h : b ∈ (encode text).head?) :
    ∃ c ∈ text.head?, b ∈ String.utf8EncodeChar c := by
  cases text with
  | nil => exact absurd h (by simp)
  | cons c cs =>
    refine ⟨c, rfl, ?_⟩
    rw [encode_cons, List.head?_append_of_ne_nil _ String.utf8EncodeChar_ne_nil] at h
    exact List.mem_of_head? h

theorem getLast_encode (h : b ∈ (encode text).getLast?) :
    ∃ c ∈ text.getLast?, b ∈ String.utf8EncodeChar c := by
  rcases List.eq_nil_or_concat text with rfl | ⟨front, c, rfl⟩
  · exact absurd h (by simp)
  · refine ⟨c, by simp, ?_⟩
    rw [List.concat_eq_append, encode_append, encode_cons, encode_nil,
      List.append_nil,
      List.getLast?_append_of_ne_nil _ String.utf8EncodeChar_ne_nil] at h
    exact List.mem_of_getLast? h

/-- **The ends of a trimmed text** are not cut off. -/
theorem stripBlanks_encode (h : Trimmed text) :
    stripBlanks (encode text) = encode text := by
  refine Strings.strip_eq_self (fun b hb hblank ↦ ?_) fun b hb hblank ↦ ?_
  · obtain ⟨c, hc, hmem⟩ := head_encode hb
    exact Bool.false_ne_true ((h.head c hc).symm.trans (isBlank_of_mem_encodeChar hmem hblank))
  · obtain ⟨c, hc, hmem⟩ := getLast_encode hb
    exact Bool.false_ne_true ((h.last c hc).symm.trans (isBlank_of_mem_encodeChar hmem hblank))

theorem isSpace_of_isWordChar {c : Char} (h : isWordChar c) : isSpace c = false := by
  have hplain := isPlain_of_isWordChar h
  simp only [isPlain, Bool.and_eq_true, decide_eq_true_eq] at hplain
  have hlow := hplain.1.1.1.1
  have hhigh := hplain.1.1.1.2
  simp only [isSpace, Bool.or_eq_false_iff, Bool.and_eq_false_iff, decide_eq_false_iff_not]
  omega

theorem trimmed_of_isWordChar (h : ∀ c ∈ text, isWordChar c) : Trimmed text :=
  ⟨fun c hc ↦ isSpace_of_isWordChar (h c (List.mem_of_head? hc)),
    fun c hc ↦ isSpace_of_isWordChar (h c (List.mem_of_getLast? hc))⟩

/-- A line without a comment is its content. -/
theorem osContent_encode (h : Trimmed text) (hhash : '#' ∉ text) :
    osContent (encode text) = encode text := by
  have hbyte : (0x23 : UInt8) ∉ encode text := fun hmem ↦
    hhash (mem_of_mem_encode (c := '#') (by decide) hmem)
  rw [osContent, stripBlanks_encode h, Strings.partition_of_notMem hbyte]

/-! ### Signatures -/

/-- A character of the value of a signature. -/
def isValueChar (c : Char) : Bool := isWordChar c || c = ','

/-- What the importer needs of the values of signatures. -/
structure PlainValue (text : Str) : Prop where
  nonempty : text ≠ []
  trimmed : Trimmed text
  value : ∀ c ∈ text, isValueChar c

theorem plainValue_of_isWordChar (hne : text ≠ []) (h : ∀ c ∈ text, isWordChar c) :
    PlainValue text :=
  ⟨hne, trimmed_of_isWordChar h, fun c hc ↦ by simp [isValueChar, h c hc]⟩

theorem isWordChar_of_behavior : ∀ field : SignatureField, ∀ value ∈ field.behaviors,
    value ≠ [] ∧ ∀ c ∈ value, isWordChar c := by
  intro field
  cases field <;> decide

theorem isWordChar_of_allowedOption : ∀ option ∈ allowedOptions,
    option ≠ [] ∧ ∀ c ∈ option, isWordChar c := by decide

/-- Trimmed parts make a trimmed text. -/
theorem trimmed_join {sep : Str} {parts : List Str} (hne : parts ≠ [])
    (h : ∀ part ∈ parts, part ≠ [])
    (htrimmed : ∀ part ∈ parts, Trimmed part) : Trimmed (join sep parts) := by
  induction parts with
  | nil => exact absurd rfl hne
  | cons part parts ih =>
    cases parts with
    | nil =>
      rw [join, List.intercalate_singleton]
      exact htrimmed part List.mem_cons_self
    | cons next parts =>
      have hrest := fun p hp ↦ h p (List.mem_cons_of_mem part hp)
      rw [join_cons_cons, ← List.append_assoc]
      exact (htrimmed part List.mem_cons_self).append
        (ih (List.cons_ne_nil _ _) hrest fun p hp ↦ htrimmed p (List.mem_cons_of_mem part hp))
        (h part List.mem_cons_self) (join_ne_nil (List.cons_ne_nil _ _) hrest) sep

/-- A value that fits is written as a plain value. -/
theorem plainValue_rendered {field : SignatureField} {operator : SignatureOperator}
    {value : SignatureValue} (h : Fits field operator value) : PlainValue (rendered value) := by
  cases h with
  | number => exact plainValue_of_isWordChar Nat.toDigits_ne_nil fun c ↦ isWordChar_of_mem_decimal
  | range =>
    refine plainValue_of_isWordChar (List.append_ne_nil_of_left_ne_nil Nat.toDigits_ne_nil _) ?_
    intro c hc
    rcases List.mem_append.mp hc with hc | hc
    · exact isWordChar_of_mem_decimal hc
    · rcases List.mem_cons.mp hc with rfl | hc
      · decide
      · exact isWordChar_of_mem_decimal hc
  | bool value =>
    cases value
    · exact plainValue_of_isWordChar (by decide) (by decide)
    · exact plainValue_of_isWordChar (by decide) (by decide)
  | text hbehavior =>
    obtain ⟨hne, hword⟩ := isWordChar_of_behavior _ _ hbehavior
    exact plainValue_of_isWordChar hne hword
  | options hne hallowed =>
    have hoption := fun option hoption ↦ isWordChar_of_allowedOption option
      (hallowed option hoption)
    refine ⟨join_ne_nil hne fun option ho ↦ (hoption option ho).1,
      trimmed_join hne (fun option ho ↦ (hoption option ho).1)
        fun option ho ↦ trimmed_of_isWordChar (hoption option ho).2, fun c hc ↦ ?_⟩
    rcases mem_join hc with hc | ⟨option, ho, hc⟩
    · exact List.mem_singleton.mp hc ▸ by decide
    · simp [isValueChar, (hoption option ho).2 c hc]

/-- A range is read back. -/
theorem osRange_rendered {minimum maximum bound : ℕ} (h : minimum ≤ maximum)
    (hbound : maximum ≤ bound)
    (field : String) :
    osRange (encode (rendered (.range minimum maximum))) field bound =
      .ok (.range minimum maximum) := by
  have hminus : ∀ n, (0x2D : UInt8) ∉ encode (decimal n) := fun n hmem ↦
    absurd (isDecimal_of_mem_decimal (mem_of_mem_encode (c := '-') (by decide) hmem))
      (by decide)
  have hencoded : encode (rendered (.range minimum maximum)) =
      encode (decimal minimum) ++ 0x2D :: encode (decimal maximum) := by
    rw [rendered, encode_append, encode_cons]
    rfl
  have hstrip : ∀ n, stripBlanks (encode (decimal n)) = encode (decimal n) := fun n ↦
    stripBlanks_encode (trimmed_of_isWordChar fun c ↦ isWordChar_of_mem_decimal)
  have hne : ∀ n, encode (decimal n) ≠ [] := fun n ↦ encode_ne_nil Nat.toDigits_ne_nil
  rw [osRange, hencoded, Strings.partition_append (hminus minimum)]
  refine bind_eq_ok.mpr ⟨(), demand_of (by simp [hne, hminus]) _, ?_⟩
  rw [hstrip, hstrip]
  refine bind_eq_ok.mpr ⟨minimum, unsigned_decimal (Nat.zero_le _) (h.trans hbound) _, ?_⟩
  refine bind_eq_ok.mpr ⟨maximum, unsigned_decimal (Nat.zero_le _) hbound _, ?_⟩
  exact bind_eq_ok.mpr ⟨(), demand_of (decide_eq_true h) _, rfl⟩

/-- So is a list of options. -/
theorem tcpOptions_join {options : List Str} (hne : options ≠ [])
    (h : ∀ option ∈ options, option ∈ allowedOptions) (n : ℕ) :
    ((encode (join [','] options)).splitOn 0x2C).mapM (tcpOption n) = .ok options := by
  have hsplit : (encode (join [','] options)).splitOn 0x2C = options.map encode :=
    @splitOn_encode_join ',' (by decide) _ hne fun option ho hmem ↦
      ne_of_isWordChar ((isWordChar_of_allowedOption option (h option ho)).2 _ hmem) (by decide) rfl
  have hread : ∀ option ∈ allowedOptions,
      optionAliases.lookup (stripBlanks (encode option)) = some option := by decide
  rw [hsplit, List.mapM_map]
  refine (mapM_ok (g := id) fun option ho ↦ ?_).trans (congrArg Except.ok (List.map_id options))
  change tcpOption n (encode option) = .ok option
  rw [tcpOption, hread option (h option ho)]

/-- The keys of signatures: no other line begins with one, and none is the name of a field. -/
structure SignatureKey (key : Str) : Prop where
  word : ∀ c ∈ key, isWordChar c
  upper : key.head?.any (· < 'a')
  head : key.head? ≠ some 'F' ∧ key.head? ≠ some 'C'
  identity : key ∉ ["Class".toList, "ADDRESS_FAMILY".toList, "SPECIFICITY".toList, "ID".toList]

theorem SignatureKey.ne_name (h : SignatureKey key) (field : SignatureField) :
    key ≠ field.name := by
  have hlower : field.name.head?.any (· < 'a') = false := by cases field <;> decide
  rintro rfl
  exact absurd (hlower.symm.trans h.upper) Bool.false_ne_true

theorem SignatureKey.ne_nil (h : SignatureKey key) : key ≠ [] := by
  rintro rfl
  exact absurd h.upper (by decide)

instance (key : Str) : Decidable (SignatureKey key) :=
  decidable_of_iff ((∀ c ∈ key, isWordChar c) ∧ key.head?.any (· < 'a') ∧
      (key.head? ≠ some 'F' ∧ key.head? ≠ some 'C') ∧
      key ∉ ["Class".toList, "ADDRESS_FAMILY".toList, "SPECIFICITY".toList, "ID".toList])
    ⟨fun ⟨h₁, h₂, h₃, h₄⟩ ↦ ⟨h₁, h₂, h₃, h₄⟩, fun ⟨h₁, h₂, h₃, h₄⟩ ↦ ⟨h₁, h₂, h₃, h₄⟩⟩

/-- **Every signature that fits** has a directive. -/
theorem directive_of_operator {field : SignatureField} : ∀ operator ∈ field.operators,
    ∃ key ∈ directive field operator, SignatureKey key := by
  cases field <;> decide

/-! The tables of the importer are those of the emitter. -/

theorem lookup_number (field : SignatureField) : ∀ key ∈ directive field .eq,
    osNumericDirectives.lookup key = field.bound.map (field, ·) := by
  cases field <;> decide

theorem lookup_range (field : SignatureField) : ∀ key ∈ directive field .range,
    osNumericDirectives.lookup key = none ∧
      osRangeDirectives.lookup key = field.bound.map (field, ·) := by
  cases field <;> decide

theorem lookup_bool (field : SignatureField) : ∀ key ∈ directive field .bool,
    osNumericDirectives.lookup key = none ∧ osRangeDirectives.lookup key = none ∧
      osBooleanDirectives.lookup key = some field := by
  cases field <;> decide

theorem lookup_text (field : SignatureField) : ∀ key ∈ directive field .text,
    osNumericDirectives.lookup key = none ∧ osRangeDirectives.lookup key = none ∧
      osBooleanDirectives.lookup key = none ∧ key ≠ "TCP_OPTIONS".toList ∧
        osTextDirectives.lookup key = some field := by
  cases field <;> decide

theorem lookup_options (field : SignatureField) : ∀ key ∈ directive field .tcpOptions,
    osNumericDirectives.lookup key = none ∧ osRangeDirectives.lookup key = none ∧
      osBooleanDirectives.lookup key = none ∧ key = "TCP_OPTIONS".toList ∧ field = .tcpOptions := by
  cases field <;> decide

/-- **A signature** is read back. -/
theorem signatureOf_directive {signature : OSSignature}
    (hkey : key ∈ directive signature.field signature.operator)
    (h : Fits signature.field signature.operator signature.value) (n : ℕ) :
    signatureOf key (encode (rendered signature.value)) n =
      some (signature.field, .ok signature) := by
  obtain ⟨field, operator, value⟩ := signature
  dsimp only at hkey h ⊢
  rw [signatureOf.eq_def]
  cases h with
  | number hbound =>
    obtain ⟨bound, hfield, hle⟩ := (Option.any_eq_true _ _).mp hbound
    rw [lookup_number field key hkey, hfield, Option.map_some]
    dsimp only
    rw [rendered, unsigned_decimal (Nat.zero_le _) (of_decide_eq_true hle)]
    rfl
  | range hle hbound =>
    obtain ⟨bound, hfield, hmax⟩ := (Option.any_eq_true _ _).mp hbound
    obtain ⟨hnumber, hrange⟩ := lookup_range field key hkey
    rw [hnumber, hrange, hfield, Option.map_some]
    dsimp only
    rw [osRange_rendered hle (of_decide_eq_true hmax)]
    rfl
  | bool value =>
    obtain ⟨hnumber, hrange, hbool⟩ := lookup_bool field key hkey
    rw [hnumber, hrange, hbool]
    cases value <;> rfl
  | text hbehavior =>
    obtain ⟨hnumber, hrange, hbool, hnot, htext⟩ := lookup_text field key hkey
    rw [hnumber, hrange, hbool, htext]
    dsimp only
    rw [if_neg hnot, rendered, utf8Text_encode]
    rfl
  | options hne hallowed =>
    obtain ⟨hnumber, hrange, hbool, heq, rfl⟩ := lookup_options field key hkey
    rw [hnumber, hrange, hbool]
    dsimp only
    rw [if_pos heq, rendered, tcpOptions_join hne hallowed]
    rfl

/-! ### The line of a class -/

/-- Spaces around a trimmed text are cut off. -/
theorem stripBlanks_padded {front back : Str} (hfront : ∀ c ∈ front, c = ' ')
    (hback : ∀ c ∈ back, c = ' ') (hne : text ≠ []) (h : Trimmed text) :
    stripBlanks (encode (front ++ text ++ back)) = encode text := by
  have hspaces : ∀ {spaces : Str}, (∀ c ∈ spaces, c = ' ') →
      ∀ b ∈ encode spaces, isBlank b := by
    intro spaces hall b hb
    obtain ⟨c, hc, hmem⟩ := List.mem_flatMap.mp hb
    obtain rfl := hall c hc
    have hspace : String.utf8EncodeChar ' ' = [0x20] := by decide
    rw [hspace, List.mem_singleton] at hmem
    rw [hmem]
    decide
  rw [encode_append, encode_append]
  refine Strings.strip_append (hspaces hfront) (hspaces hback) (encode_ne_nil hne)
    (fun b hb hblank ↦ ?_)
    fun b hb hblank ↦ ?_
  · obtain ⟨c, hc, hmem⟩ := head_encode hb
    exact Bool.false_ne_true ((h.head c hc).symm.trans (isBlank_of_mem_encodeChar hmem hblank))
  · obtain ⟨c, hc, hmem⟩ := getLast_encode hb
    exact Bool.false_ne_true ((h.last c hc).symm.trans (isBlank_of_mem_encodeChar hmem hblank))

/-- **The components of a class** are found again. -/
theorem splitOn_class {parts : List Str} (hne : parts ≠ []) (h : ∀ part ∈ parts, part ≠ [])
    (hbar : ∀ part ∈ parts, '|' ∉ part) (htrimmed : ∀ part ∈ parts, Trimmed part) {front : Str}
    (hfront : ∀ c ∈ front, c = ' ') :
    ((encode (front ++ join [' ', '|', ' '] parts)).splitOn 0x7C).map stripBlanks =
      parts.map encode := by
  have hbyte : ∀ {text : Str}, '|' ∉ text → (0x7C : UInt8) ∉ encode text := fun hnot hmem ↦
    hnot (mem_of_mem_encode (c := '|') (by decide) hmem)
  have hspaces : '|' ∉ front := fun hmem ↦ absurd (hfront _ hmem) (by decide)
  induction parts generalizing front with
  | nil => exact absurd rfl hne
  | cons part parts ih =>
    have hpart := hbar part List.mem_cons_self
    have hstrip := fun back hback ↦ @stripBlanks_padded _ _ back hfront hback
      (h part List.mem_cons_self) (htrimmed part List.mem_cons_self)
    cases parts with
    | nil =>
      have hnot : '|' ∉ front ++ part := fun hmem ↦ (List.mem_append.mp hmem).elim hspaces hpart
      have hone := hstrip [] (by simp)
      rw [List.append_nil] at hone
      rw [join, List.intercalate_singleton, List.splitOn_eq_singleton (hbyte hnot),
        List.map_singleton, hone]
      rfl
    | cons next parts =>
      have hnot : '|' ∉ front ++ part ++ [' '] := by
        simp only [List.mem_append, not_or]
        exact ⟨⟨hspaces, hpart⟩, by decide⟩
      have hencoded : encode (front ++ join [' ', '|', ' '] (part :: next :: parts)) =
          encode (front ++ part ++ [' ']) ++
            0x7C :: encode ([' '] ++ join [' ', '|', ' '] (next :: parts)) := by
        have hbarChar : String.utf8EncodeChar '|' = [0x7C] := by decide
        rw [join_cons_cons]
        simp [hbarChar]
      rw [hencoded, List.splitOn_append_cons_self_of_not_mem (hbyte hnot), List.map_cons,
        hstrip [' '] (by simp),
        ih (List.cons_ne_nil _ _) (fun p hp ↦ h p (List.mem_cons_of_mem part hp))
          (fun p hp ↦ hbar p (List.mem_cons_of_mem part hp))
          (fun p hp ↦ htrimmed p (List.mem_cons_of_mem part hp)) (by simp) (by decide)]
      rfl

variable {py : Platform} {body : OSFingerprintSemantics}

/-- The components of a class. -/
def components (body : OSFingerprintSemantics) : List Str :=
  [body.vendor, body.osFamily] ++ (if body.osGeneration = [] then [] else [body.osGeneration])
    ++ (if body.deviceType = [] then [] else [body.deviceType])

theorem IsLineText.trimmed {value : Str} {allowEmpty classComponent : Bool}
    (h : IsLineText py value allowEmpty classComponent) : Trimmed value :=
      trimmed_of_strip h.stripped

theorem IsLineText.ne_nil {value : Str} {classComponent : Bool}
    (h : IsLineText py value false classComponent) : value ≠ [] := h.isText.nonempty rfl

/-- What the importer needs of the components. -/
theorem component_facts (h : OsFacts py body) : ∀ part ∈ components body,
    part ≠ [] ∧ '|' ∉ part ∧ '#' ∉ part ∧ Trimmed part ∧ ∀ c ∈ part, isControl c = false := by
  rw [components]
  simp only [List.forall_mem_append, List.forall_mem_cons]
  refine ⟨⟨⟨⟨h.vendor.ne_nil, h.vendor.noBar rfl, h.vendor.noHash, h.vendor.trimmed,
    h.vendor.isText.noControl⟩, ⟨h.osFamily.ne_nil, h.osFamily.noBar rfl, h.osFamily.noHash,
    h.osFamily.trimmed, h.osFamily.isText.noControl⟩, by simp⟩, ?_⟩, ?_⟩
  · split_ifs with hempty
    · simp
    · exact List.forall_mem_singleton.mpr ⟨hempty, h.osGeneration.noBar rfl, h.osGeneration.noHash,
        h.osGeneration.trimmed, h.osGeneration.isText.noControl⟩
  · split_ifs with hempty
    · simp
    · exact List.forall_mem_singleton.mpr ⟨hempty, h.deviceType.noBar rfl, h.deviceType.noHash,
        h.deviceType.trimmed, h.deviceType.isText.noControl⟩

/-- **The line of a class** is read back. -/
theorem classLine_classText (h : OsFacts py body) {current : RuntimeFingerprint}
    (hfresh : "Class".toList ∉ current.fields) (n : ℕ) :
    classLine current (encode (classText body)) n = .ok { current with
      vendor := some body.vendor
      osFamily := some body.osFamily
      osGeneration := body.osGeneration
      deviceType := body.deviceType
      fields := "Class".toList :: current.fields } := by
  have hdrop : (encode (classText body)).drop 6 =
      encode (join [' ', '|', ' '] (components body)) := by
    rw [classText, encode_append]
    exact List.drop_left' rfl
  have hfacts := component_facts h
  have hvalues : ((encode (join [' ', '|', ' '] (components body))).splitOn 0x7C).map
    stripBlanks =
      (components body).map encode :=
    @splitOn_class _ (by simp [components]) (fun part hp ↦ (hfacts part hp).1)
      (fun part hp ↦ (hfacts part hp).2.1) (fun part hp ↦ (hfacts part hp).2.2.2.1) [] (by simp)
  rw [classLine, hdrop, hvalues]
  refine bind_eq_ok.mpr ⟨(), demand_of (decide_eq_true hfresh) _, ?_⟩
  refine bind_eq_ok.mpr ⟨(), demand_of ?_ _, ?_⟩
  · rw [List.all_map, List.all_eq_true]
    intro part hp
    simpa using encode_ne_nil (hfacts part hp).1
  rw [components]
  by_cases hgeneration : body.osGeneration = []
  · have hdevice : body.deviceType = [] := by
      by_contra hdevice
      exact h.device hdevice hgeneration
    rw [hgeneration, hdevice]
    simp [utf8Text_encode, bind, Except.bind, pure, Except.pure]
  · by_cases hdevice : body.deviceType = []
    · rw [hdevice, if_neg hgeneration]
      simp [utf8Text_encode, bind, Except.bind, pure, Except.pure]
    · rw [if_neg hgeneration, if_neg hdevice]
      simp [utf8Text_encode, bind, Except.bind, pure, Except.pure]

end Skan.Corpus

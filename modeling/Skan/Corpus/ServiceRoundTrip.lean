import Skan.Corpus.EmittedValues

/-!
# The line of a probe is read back

The fields of a line are written as words, plain or quoted, and the importer reads the fields that
were written: those of a probe give the probe (`probeFromTokens_header`). -/

namespace Skan.Corpus

open Utf8

open Skan.Output (Double)

variable {fields : List (Str × FieldValue)}

/-! ### Fields as words -/

/-- The value of a field as it is written: plain text, or quoted bytes. -/
inductive FieldValue where
  | plain (text : Str)
  | quoted (value : Bytes)

/-- The bytes of the value. -/
def FieldValue.bytes : FieldValue → Bytes
  | .plain text => Utf8.encode text
  | .quoted value => value

/-- A field as a word. -/
def fieldWord : Str × FieldValue → Word
  | (key, .plain text) => { plain := key ++ '=' :: text }
  | (key, .quoted value) => { plain := key ++ ['='], quoted := some value }

/-- The fields that are read. -/
def readFields (fields : List (Str × FieldValue)) : Fields :=
  fields.map fun field ↦ (field.1, field.2.bytes)

/-- A value that a word can hold. -/
structure FieldValue.Fits (value : FieldValue) : Prop where
  nonempty : value.bytes ≠ []
  plain : ∀ text, value = .plain text → ∀ c ∈ text, isPlain c

/-- Fields that words can hold. -/
structure Writable (fields : List (Str × FieldValue)) : Prop where
  key : ∀ key ∈ fields.map (·.1), key ≠ [] ∧ ∀ c ∈ key, isAsciiLetter c
  value : ∀ field ∈ fields, field.2.Fits
  nodup : (fields.map (·.1)).Nodup

/-- The token of a field is its key, `=` and its value. -/
theorem token_fieldWord (field : Str × FieldValue) :
    (fieldWord field).token = encode field.1 ++ 0x3D :: field.2.bytes := by
  have hequals : String.utf8EncodeChar '=' = [0x3D] := by decide
  obtain ⟨key, value⟩ := field
  cases value with
  | plain text =>
    rw [fieldWord, Word.token, Option.getD_none, List.append_nil, encode_append,
      encode_cons, hequals]
    rfl
  | quoted value =>
    rw [fieldWord, Word.token, Option.getD_some, encode_append, encode_cons, hequals,
      List.append_assoc]
    rfl

theorem text_plain (key text : Str) : (fieldWord (key, .plain text)).text = key ++ '=' :: text :=
  List.append_nil _

theorem text_quoted (key : Str) (value : Bytes) :
    (fieldWord (key, .quoted value)).text = key ++ '=' :: quote value := by
  rw [fieldWord, Word.text, List.append_assoc]
  rfl

theorem map_token_fieldWord (fields : List (Str × FieldValue)) :
    (fields.map fieldWord).map Word.token = fieldTokens (readFields fields) := by
  rw [fieldTokens, readFields, List.map_map, List.map_map]
  exact List.map_congr_left fun field _ ↦ token_fieldWord field

/-- Reading a line keeps its keys. -/
theorem mem_keys_readFields {key : Str} :
    key ∈ (readFields fields).map (·.1) ↔ key ∈ fields.map (·.1) := by
  rw [readFields, List.map_map]
  rfl

/-- What words hold can be assigned. -/
theorem Writable.assignable (h : Writable fields) : Assignable (readFields fields) := by
  refine ⟨fun field hfield ↦ ?_, fun field hfield ↦ ?_, ?_⟩
  · exact h.key field.1 (mem_keys_readFields.mp (List.mem_map_of_mem hfield))
  · obtain ⟨written, hwritten, rfl⟩ := List.mem_map.mp hfield
    exact (h.value written hwritten).nonempty
  · rw [readFields, List.map_map]
    exact h.nodup

/-- The words of writable fields are proper. -/
theorem Writable.proper (h : Writable fields) : ∀ w ∈ fields.map fieldWord, w.Proper := by
  intro w hw
  obtain ⟨⟨key, value⟩, hfield, rfl⟩ := List.mem_map.mp hw
  have hkey : ∀ c ∈ key, isPlain c := fun c hc ↦
    isPlain_of_isWordChar (by simp [isWordChar, (h.key key (List.mem_map_of_mem hfield)).2 c hc])
  have hequals : isPlain '=' := by decide
  cases value with
  | plain text =>
    refine ⟨fun c hc ↦ ?_, .inl (by simp [fieldWord])⟩
    rcases List.mem_append.mp hc with hc | hc
    · exact hkey c hc
    · rcases List.mem_cons.mp hc with rfl | hc
      · exact hequals
      · exact (h.value _ hfield).plain text rfl c hc
  | quoted value =>
    refine ⟨fun c hc ↦ ?_, .inl (by simp [fieldWord])⟩
    rcases List.mem_append.mp hc with hc | hc
    · exact hkey c hc
    · exact List.mem_singleton.mp hc ▸ hequals

/-! ### The line of a probe -/

/-- A field that may be absent. -/
def optionalValue (key : String) (value : Option FieldValue) : List (Str × FieldValue) :=
  (value.map (key.toList, ·)).toList

theorem map_text_optionalValue (key : String) (value : Option Str) :
    ((optionalValue key (value.map .plain)).map fieldWord).map Word.text =
      optionalField key value := by
  cases value with
  | none => rfl
  | some text => exact congrArg (· :: []) (text_plain _ _)

/-- The fields of a probe. -/
def headerFields (probe : ActiveProbeSemantics) : List (Str × FieldValue) :=
  [("rarity".toList, .plain (decimal probe.rarity)),
    ("priority".toList, .plain (decimal probe.priority))]
    ++ optionalValue "timeout" ((probe.timeoutMs.map decimal).map .plain)
    ++ optionalValue "ports"
      ((if probe.ports = [] then none else some (join [','] (probe.ports.map decimal))).map .plain)
    ++ optionalValue "fallback"
      ((if probe.fallbackProbeNames = [] then none
        else some (join [','] probe.fallbackProbeNames)).map .plain)
    ++ [("protocol".toList, .plain probe.transport.name)]

/-- The words of a probe. -/
def probeWords (probe : ActiveProbeSemantics) : List Word :=
  { plain := "Probe".toList } :: { plain := probe.transport.upper } ::
    { plain := probe.probeName } ::
    (headerFields probe).map fieldWord

/-- A probe line is the line of its words. -/
theorem probeLine_eq (probe : ActiveProbeSemantics) :
    probeLine probe = wordsLine (probeWords probe) := by
  rw [probeLine, wordsLine, probeWords, headerFields]
  simp only [List.map_append, List.map_cons, List.map_nil, text_plain, text_mk,
    map_text_optionalValue,
    List.cons_append, List.nil_append, assigned]

/-- An optional field is found where it was written. -/
@[simp] theorem lookup_optionalValue (key : Str) (name : String) (value : Option FieldValue) :
    (readFields (optionalValue name value)).lookup key =
      if key = name.toList then value.map FieldValue.bytes else none := by
  cases value with
  | none => split_ifs <;> rfl
  | some value =>
    rw [optionalValue, Option.map_some, Option.toList_some, readFields, List.map_singleton,
      List.lookup_cons, List.lookup_nil]
    split_ifs with h
    · rw [h, beq_self_eq_true]
      rfl
    · rw [beq_eq_false_iff_ne.mpr h]

@[simp] theorem lookup_cons_eq (key name : Str) (value : FieldValue)
    (fields : List (Str × FieldValue)) :
    (readFields ((name, value) :: fields)).lookup key =
      if key = name then some value.bytes else (readFields fields).lookup key := by
  rw [readFields, List.map_cons, List.lookup_cons]
  split_ifs with h
  · rw [h, beq_self_eq_true]
  · rw [beq_eq_false_iff_ne.mpr h]
    rfl

@[simp] theorem lookup_append (key : Str) (front back : List (Str × FieldValue)) :
    (readFields (front ++ back)).lookup key =
      ((readFields front).lookup key).or ((readFields back).lookup key) := by
  rw [readFields, List.map_append, List.lookup_append]
  rfl

@[simp] theorem lookup_nil_eq (key : Str) : (readFields []).lookup key = none := rfl

/-- A line with supported keys only is accepted. -/
theorem supportedOnly_of {fields : Fields} {supported : List Str}
    (h : ∀ key ∈ fields.map (·.1), key ∈ supported) (directive : String) (n : ℕ) :
    supportedOnly fields supported directive n = .ok () := by
  have hunknown : (fields.map (·.1)).filter (· ∉ supported) = [] :=
    List.filter_eq_nil_iff.mpr fun key hkey hnot ↦ of_decide_eq_true hnot (h key hkey)
  rw [supportedOnly, hunknown]
  rfl

theorem keys_optionalValue (name : String) (value : Option FieldValue) :
    ((optionalValue name value).map (·.1)).Sublist [name.toList] := by
  cases value with
  | none => exact List.nil_sublist _
  | some value => exact List.Sublist.refl _

theorem unsignedField_some {fields : Fields} {key : String} {n minimum maximum : ℕ}
    (h : fields.lookup key.toList = some (encode (decimal n))) (hmin : minimum ≤ n)
    (hmax : n ≤ maximum) : unsignedField fields key minimum maximum = .ok (some n) := by
  rw [unsignedField, h]
  exact bind_eq_ok.mpr ⟨n, unsigned_decimal hmin hmax key, rfl⟩

/-- A number in its range is read back, and so is its absence. -/
theorem unsignedField_map {fields : Fields} {key : String} {value : Option ℕ} {minimum maximum : ℕ}
    (h : fields.lookup key.toList = value.map fun n ↦ encode (decimal n))
    (hvalue : ∀ n ∈ value, minimum ≤ n ∧ n ≤ maximum) :
    unsignedField fields key minimum maximum = .ok value := by
  cases value with
  | none =>
    rw [unsignedField, h]
    rfl
  | some n => exact unsignedField_some h (hvalue n rfl).1 (hvalue n rfl).2

/-- What a probe is read as, without its payload and its rules. -/
def importedHeader (probe : ActiveProbeSemantics) : RuntimeProbe where
  name := probe.probeName
  transport := probe.transport
  rarity := probe.rarity
  priority := probe.priority
  timeoutMs := probe.timeoutMs
  ports := probe.ports
  fallbacks := probe.fallbackProbeNames
  declarationOrder := probe.declarationOrder
  headerMaterial := Utf8.encode (probeLine probe)

variable {probe : ActiveProbeSemantics}

/-- The keys of a header are among those the reader knows. -/
theorem keys_headerFields : ((headerFields probe).map (·.1)).Sublist probeFields := by
  have hkeys : probeFields = ["rarity".toList, "priority".toList] ++ ["timeout".toList] ++
      ["ports".toList] ++ ["fallback".toList] ++ ["protocol".toList] := rfl
  rw [headerFields, List.map_append, List.map_append, List.map_append, List.map_append, hkeys]
  exact ((((List.Sublist.refl _).append (keys_optionalValue _ _)).append
    (keys_optionalValue _ _)).append (keys_optionalValue _ _)).append (List.Sublist.refl _)

theorem mem_optionalValue {name : String} {value : Option FieldValue} {field : Str × FieldValue}
    (h : field ∈ optionalValue name value) : field.1 = name.toList ∧ field.2 ∈ value := by
  obtain ⟨item, hitem, rfl⟩ := Option.map_eq_some_iff.mp (Option.mem_toList.mp h)
  exact ⟨rfl, hitem⟩

theorem fits_plain {text : Str} (hne : text ≠ []) (h : ∀ c ∈ text, isPlain c) :
    (FieldValue.plain text).Fits :=
  ⟨encode_ne_nil hne, fun _ heq ↦ FieldValue.plain.inj heq ▸ h⟩

theorem fits_decimal (n : ℕ) : (FieldValue.plain (decimal n)).Fits :=
  fits_plain Nat.toDigits_ne_nil fun _ hc ↦ isPlain_of_isWordChar (isWordChar_of_mem_decimal hc)

/-- A list of names or numbers. -/
theorem fits_join {parts : List Str} (hne : parts ≠ []) (h : ∀ part ∈ parts, part ≠ [])
    (hword : ∀ part ∈ parts, ∀ c ∈ part, isWordChar c) :
    (FieldValue.plain (join [','] parts)).Fits := by
  refine fits_plain (join_ne_nil hne h) fun c hc ↦ ?_
  rcases mem_join hc with hc | ⟨part, hpart, hc⟩
  · exact List.mem_singleton.mp hc ▸ by decide
  · exact isPlain_of_isWordChar (hword part hpart c hc)

theorem isProbeName_ne_nil {name : Str} (h : isProbeName name) : name ≠ [] := by
  rintro rfl
  exact absurd h (by decide)

theorem isPlain_transport (transport : Transport) : ∀ c ∈ transport.name, isPlain c := by
  cases transport <;> decide

/-- The transport of a probe line, spelled in capitals. -/
theorem probeTransport_upper (transport : Transport) (n : ℕ) :
    probeTransport (encode transport.upper) n = .ok transport := by
  have hplain : ∀ c ∈ transport.upper, isPlain c := by
    cases transport <;> decide
  rw [probeTransport]
  refine bind_eq_ok.mpr ⟨transport.upper, asciiText_encode (isAscii_of_isPlain hplain) _, ?_⟩
  cases transport with
  | tcp => exact if_pos (by decide)
  | udp => exact (if_neg (by decide)).trans (if_pos (by decide))

/-- **The header of a probe can be written.** -/
theorem writable_headerFields (h : ActiveFacts probe) : Writable (headerFields probe) := by
  refine ⟨fun key hkey ↦ ?_, ?_, keys_headerFields.nodup (by decide)⟩
  · have hkeys : ∀ key ∈ probeFields, key ≠ [] ∧ ∀ c ∈ key, isAsciiLetter c := by decide
    exact hkeys key (keys_headerFields.subset hkey)
  have hoptional : ∀ {name : String} {value : Option Str},
    (∀ text ∈ value, (FieldValue.plain text).Fits) →
      ∀ field ∈ optionalValue name (value.map .plain), field.2.Fits := by
    intro name value hvalue field hfield
    obtain ⟨text, htext, heq⟩ := Option.map_eq_some_iff.mp (mem_optionalValue hfield).2
    exact heq ▸ hvalue text htext
  rw [headerFields]
  simp only [List.forall_mem_append, List.forall_mem_cons]
  refine ⟨⟨⟨⟨⟨fits_decimal _, fits_decimal _, by simp⟩, hoptional ?_⟩, hoptional ?_⟩, hoptional ?_⟩,
    ?_,
    by simp⟩
  · intro text htext
    obtain ⟨timeout, -, rfl⟩ := Option.map_eq_some_iff.mp htext
    exact fits_decimal timeout
  · intro text htext
    split_ifs at htext with hports
    · exact absurd htext (by simp)
    · obtain rfl := Option.some.inj htext
      refine fits_join (List.map_eq_nil_iff.not.mpr hports) ?_ ?_
      · intro part hpart
        obtain ⟨port, -, rfl⟩ := List.mem_map.mp hpart
        exact Nat.toDigits_ne_nil
      · intro part hpart c hc
        obtain ⟨port, -, rfl⟩ := List.mem_map.mp hpart
        exact isWordChar_of_mem_decimal hc
  · intro text htext
    split_ifs at htext with hfallbacks
    · exact absurd htext (by simp)
    · obtain rfl := Option.some.inj htext
      exact fits_join hfallbacks (fun name hname ↦ isProbeName_ne_nil (h.fallbacks name hname))
        fun name hname ↦ isWordChar_of_isProbeName (h.fallbacks name hname)
  · refine fits_plain ?_ (isPlain_transport _)
    cases probe.transport <;> decide

/-- **The line of a probe** is read back. -/
theorem probeFromTokens_header (h : ActiveFacts probe) (line : Bytes) (n order : ℕ) :
    probeFromTokens (encode probe.transport.upper :: encode probe.probeName ::
      fieldTokens (readFields (headerFields probe))) line n order =
        .ok { importedHeader probe with headerMaterial := line, declarationOrder := order } := by
  have hname := isAscii_of_isWordChar (isWordChar_of_isProbeName h.probeName)
  have hprotocol : (readFields (headerFields probe)).lookup "protocol".toList =
      some (encode probe.transport.name) := by
    simp [headerFields, FieldValue.bytes]
  have hrarity : (readFields (headerFields probe)).lookup "rarity".toList =
      some (encode (decimal probe.rarity)) := by
    simp [headerFields, FieldValue.bytes]
  have hpriority : (readFields (headerFields probe)).lookup "priority".toList =
      some (encode (decimal probe.priority)) := by
    simp [headerFields, FieldValue.bytes]
  have htimeout : (readFields (headerFields probe)).lookup "timeout".toList =
      probe.timeoutMs.map fun n ↦ encode (decimal n) := by
    simp [headerFields, FieldValue.bytes, Function.comp_def]
  have hports : (readFields (headerFields probe)).lookup "ports".toList =
      if probe.ports = [] then none
      else some (encode (join [','] (probe.ports.map decimal))) := by
    simp [headerFields]
    split_ifs <;> rfl
  have hfallbacks : (readFields (headerFields probe)).lookup "fallback".toList =
      if probe.fallbackProbeNames = [] then none
      else some (encode (join [','] probe.fallbackProbeNames)) := by
    simp [headerFields]
    split_ifs <;> rfl
  rw [probeFromTokens]
  refine bind_eq_ok.mpr ⟨probe.transport, probeTransport_upper _ _, ?_⟩
  refine bind_eq_ok.mpr ⟨probe.probeName, asciiText_encode hname _, ?_⟩
  refine bind_eq_ok.mpr ⟨(), demand_of h.probeName _, ?_⟩
  refine bind_eq_ok.mpr ⟨readFields (headerFields probe),
    assignments_fieldTokens (writable_headerFields h).assignable _ _, ?_⟩
  refine bind_eq_ok.mpr ⟨(), supportedOnly_of
    (fun key hkey ↦ keys_headerFields.subset (mem_keys_readFields.mp hkey)) _ _, ?_⟩
  rw [hprotocol]
  refine bind_eq_ok.mpr ⟨probe.transport.name,
    asciiText_encode (isAscii_of_isPlain (isPlain_transport _)) _, ?_⟩
  refine bind_eq_ok.mpr ⟨(), demand_of (decide_eq_true rfl) _, ?_⟩
  refine bind_eq_ok.mpr ⟨some probe.rarity, unsignedField_some hrarity h.rarity.1 h.rarity.2, ?_⟩
  refine bind_eq_ok.mpr ⟨some probe.priority,
    unsignedField_some hpriority h.priority.1 h.priority.2, ?_⟩
  refine bind_eq_ok.mpr ⟨probe.timeoutMs, unsignedField_map htimeout h.timeoutMs, ?_⟩
  refine bind_eq_ok.mpr ⟨probe.ports, ?_, ?_⟩
  · rw [portsField, hports]
    split_ifs with hnone
    · exact congrArg Except.ok hnone.symm
    · exact portList_join hnone h.portsSorted h.portsLength h.portsRange h.portsNodup
  refine bind_eq_ok.mpr ⟨probe.fallbackProbeNames, ?_, rfl⟩
  rw [fallbacksField, hfallbacks]
  split_ifs with hnone
  · exact congrArg Except.ok hnone.symm
  · exact fallbackList_join hnone h.fallbacksLength h.fallbacksNodup h.fallbacks

end Skan.Corpus

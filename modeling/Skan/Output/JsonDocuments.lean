import Mathlib.Data.List.ReduceOption
import Skan.Library.JsonTrees
import Skan.Output.Json

/-!
# What the JSON writer writes

Strings are lossless (`exists_string`): what stands between the quotation marks decodes to the
sanitized text. Documents are well formed exactly when the numbers that `validateReport` does not
look at are finite (`document_wellFormed_iff`).

Both directions of that go through the balance of the grammar's library. What is written for a
record counts nothing or less than nothing, and in the first case it is a value of the grammar
(`Writes`); `object` and `array` compose such records (`writes_object`, `writes_array`), so that
each record of a report only lists the numbers that decide about it. -/

namespace Skan.Output

open Skan.Core Skan.Core.Text Skan.PortScan Skan.Detect Skan.OsDetect Json Utf8

variable {α : Type*} {xs : List α}

/-! ### Strings -/

/-- `hexDigit` as a character. -/
def hexChar (n : ℕ) : Char := Char.ofNat (if n < 10 then 0x30 + n else 0x57 + n)

/-- `escapeByte` as a function of characters. -/
def escapeChar (c : Char) : List Char :=
  if c = '"' then ['\\', '"']
  else if c = '\\' then ['\\', '\\']
  else if c = Char.ofNat 0x08 then ['\\', 'b']
  else if c = Char.ofNat 0x0C then ['\\', 'f']
  else if c = '\n' then ['\\', 'n']
  else if c = '\r' then ['\\', 'r']
  else if c = '\t' then ['\\', 't']
  else if c.toNat < 0x20 then ['\\', 'u', '0', '0', hexChar (c.toNat / 16), hexChar (c.toNat % 16)]
  else [c]

/-- Bytes beyond ASCII are left alone. -/
theorem escapeByte_of_le {b : UInt8} (h : 0x80 ≤ b) : escapeByte b = [b] := by
  have hle : 0x80 ≤ b.toNat := h
  have hne : ∀ x : UInt8, x.toNat < 0x80 → b ≠ x := by
    rintro x hx rfl
    omega
  have hctl : ¬b < 0x20 := fun hlt ↦ absurd (UInt8.lt_iff_toNat_lt.mp hlt) (by
    show ¬b.toNat < 0x20
    omega)
  rw [escapeByte, if_neg (hne _ (by decide)), if_neg (hne _ (by decide)),
    if_neg (hne _ (by decide)),
    if_neg (hne _ (by decide)), if_neg (hne _ (by decide)), if_neg (hne _ (by decide)),
    if_neg (hne _ (by decide)), if_neg hctl]

/-- Escaping the bytes of a character is encoding its escape. -/
theorem flatMap_escapeByte (c : Char) :
    (String.utf8EncodeChar c).flatMap escapeByte = encode (escapeChar c) := by
  have hascii : ∀ n < 0x80, escapeByte (UInt8.ofNat n) =
      encode (escapeChar (Char.ofNat n)) := by
    decide +kernel
  by_cases hc : c.toNat ≤ 0x7F
  · rw [encodeChar_ascii hc, List.flatMap_singleton, hascii _ (by omega), Char.ofNat_toNat]
  · -- no byte of the others is escaped, and neither is the character
    have hbytes : ∀ b ∈ String.utf8EncodeChar c, escapeByte b = [b] :=
      fun b hb ↦ escapeByte_of_le (le_of_mem_encodeChar (not_le.mp hc) hb)
    have hplain : escapeChar c = [c] := by
      have hne : ∀ d : Char, d.toNat ≤ 0x7F → c ≠ d := fun d hd heq ↦ hc (heq ▸ hd)
      rw [escapeChar, if_neg (hne _ (by decide)), if_neg (hne _ (by decide)),
        if_neg (hne _ (by decide)), if_neg (hne _ (by decide)), if_neg (hne _ (by decide)),
        if_neg (hne _ (by decide)), if_neg (hne _ (by decide)), if_neg (by omega)]
    rw [List.flatMap_congr hbytes, List.flatMap_singleton', hplain, encode_cons,
      encode_nil, List.append_nil]

/-- **An escape is one of the ways to write its character.** -/
theorem symbol_escapeChar (c : Char) : Symbol (escapeChar c) c := by
  rw [escapeChar]
  split_ifs with h₁ h₂ h₃ h₄ h₅ h₆ h₇ hctl
  · rw [h₁]
    exact .short rfl
  · rw [h₂]
    exact .short rfl
  · rw [h₃]
    exact .short rfl
  · rw [h₄]
    exact .short rfl
  · rw [h₅]
    exact .short rfl
  · rw [h₆]
    exact .short rfl
  · rw [h₇]
    exact .short rfl
  · -- the other control characters are given by their numbers
    have hunit : ∀ n < 0x20, unitOf '0' '0' (hexChar (n / 16)) (hexChar (n % 16)) = some n := by
      decide
    have hsymbol := Symbol.unit (hunit _ hctl) (by omega)
    rwa [Char.ofNat_toNat] at hsymbol
  · refine .plain ?_
    rw [Json.isPlain, Bool.and_eq_true, Bool.and_eq_true, decide_eq_true_eq, decide_eq_true_eq,
      decide_eq_true_eq]
    exact ⟨⟨not_lt.mp hctl, h₁⟩, h₂⟩

/-- An escaped string stands for itself. -/
theorem decodeString_escape (cs : List Char) :
    decodeString (cs.flatMap escapeChar) = some cs := by
  induction cs with
  | nil => rfl
  | cons c cs ih =>
    rw [List.flatMap_cons, (symbol_escapeChar c).decodeString, ih]
    rfl

/-- Escaping the bytes escapes the characters. -/
theorem flatMap_encode (cs : List Char) :
    (encode cs).flatMap escapeByte = encode (cs.flatMap escapeChar) := by
  induction cs with
  | nil => rfl
  | cons c cs ih =>
    rw [encode_cons, List.flatMap_append, flatMap_escapeByte, ih, List.flatMap_cons,
      encode_append]

/-- **A written string is lossless.** -/
theorem exists_string (value : Text) :
    ∃ body cs, JsonWriter.string value = encode ('"' :: body ++ ['"']) ∧
      decodeString body = some cs ∧ sanitizeUtf8 value = encode cs := by
  obtain ⟨cs, hcs⟩ := sanitize_eq_encode (fun _ ↦ true) value
  refine ⟨cs.flatMap escapeChar, cs, ?_, decodeString_escape cs, hcs⟩
  rw [JsonWriter.string, jsonEscape, sanitizeUtf8, hcs, flatMap_encode, List.cons_append,
    List.cons_append, encode_cons, encode_append]
  rfl

/-- A string is a JSON string. -/
theorem string_eq_encode (value : Text) :
    ∃ s, JsonWriter.string value = encode s ∧ IsString s := by
  obtain ⟨body, cs, hstring, hbody, -⟩ := exists_string value
  refine ⟨'"' :: body ++ ['"'], hstring, body, rfl, ?_⟩
  obtain ⟨parts, hparts, -⟩ := Option.bind_eq_some_iff.mp hbody
  exact Option.isSome_iff_exists.mpr ⟨parts, hparts⟩

/-! ### Containers -/

/-- What was written for the entries so far. -/
def Container.Holds (container : Container) (phrase : Phrase) (good : Prop) : Prop :=
  container.first = true ∧ container.text = [] ∧ good ∨
    container.first = false ∧ Writes phrase container.text good

theorem Container.Holds.add {container : Container} {phrase : Phrase} {entry : Text}
    {good good' : Prop} (h : container.Holds phrase good) (hphrase : phrase ≠ .value)
    (hentry : Writes phrase entry good') : (container.add entry).Holds phrase (good ∧ good') := by
  refine .inr ⟨rfl, ?_⟩
  rcases h with ⟨hfirst, htext, hgood⟩ | ⟨hfirst, hwrites⟩
  · rw [Container.add, hfirst, htext]
    exact hentry.congr (iff_and_self.mpr fun _ ↦ hgood)
  · rw [Container.add, hfirst, List.append_assoc]
    exact hwrites.comma hphrase hentry

/-- Adding entries one by one: each of them has a say. -/
theorem Container.Holds.foldl {phrase : Phrase} {entry : α → Text} {good : α → Prop}
    (hphrase : phrase ≠ .value) (hxs : ∀ x ∈ xs, Writes phrase (entry x) (good x))
    {container : Container} {good' : Prop} (h : container.Holds phrase good') :
    (xs.foldl (fun container x ↦ container.add (entry x)) container).Holds phrase
      (good' ∧ ∀ x ∈ xs, good x) := by
  induction xs generalizing container good' with
  | nil => simpa only [List.foldl_nil, List.not_mem_nil, false_imp_iff, implies_true, and_true]
  | cons x xs ih =>
    obtain ⟨hx, hxs⟩ := List.forall_mem_cons.mp hxs
    simpa only [List.foldl_cons, List.forall_mem_cons, and_assoc] using ih hxs (h.add hphrase hx)

namespace JsonWriter

variable (json : JsonWriter)

/-- A line break is white space. -/
theorem newline_eq_encode (depth : ℕ) : ∃ s, json.newline depth = encode s ∧ IsSpace s := by
  rw [newline]
  split_ifs
  · have hspace : IsSpace ('\n' :: List.replicate (depth * 2) ' ') := by
      intro c hc
      rcases List.mem_cons.mp hc with rfl | hc
      · exact .inr (.inr (.inl rfl))
      · exact .inl (List.eq_of_mem_replicate hc)
    refine ⟨_, ?_, hspace⟩
    rw [encode_ascii, List.map_cons, List.map_replicate]
    · rfl
    · intro c hc
      rcases hspace c hc with rfl | rfl | rfl | rfl
      · decide
      · decide
      · decide
      · decide
  · exact ⟨[], rfl, fun _ hc ↦ absurd hc List.not_mem_nil⟩

/-- **An object is good if the values of its members are.** -/
theorem writes_object {members : List (Option Member)} {depth : ℕ} {good : Member → Prop}
    (h : ∀ o ∈ members, ∀ m ∈ o, Writes .value m.2 (good m)) :
    Writes .value (json.object depth members) (∀ o ∈ members, ∀ m ∈ o, good m) := by
  have hpresent : ∀ {P : Member → Prop}, (∀ o ∈ members, ∀ m ∈ o, P m) ↔
      ∀ m ∈ members.reduceOption, P m := by
    intro P
    refine ⟨fun h m hm ↦ h _ (List.reduceOption_mem_iff.mp hm) m rfl, ?_⟩
    rintro h o ho m rfl
    exact h m (List.reduceOption_mem_iff.mpr ho)
  have hstart : Container.Holds {} .members True := .inl ⟨rfl, rfl, trivial⟩
  have hentries : ∀ m ∈ members.reduceOption, Writes .members
      (json.newline (depth + 1) ++ string (literal m.1) ++ 0x3A :: 0x20 :: m.2) (good m) :=
    fun m hm ↦ (hpresent.mp h m hm).member (json.newline_eq_encode _) (string_eq_encode _)
  have hall : (members.reduceOption.foldl (json.key (depth + 1)) {}).Holds .members _ :=
    hstart.foldl Phrase.noConfusion hentries
  rw [hpresent, object]
  rcases hall with ⟨hfirst, htext, hgood⟩ | ⟨hfirst, hwrites⟩
  · -- nothing was written
    have hempty : Derives .value ['{', '}'] :=
      .emptyObject (w := []) fun _ hc ↦ absurd hc List.not_mem_nil
    rw [htext, hfirst]
    exact hempty.writes.congr (iff_of_true trivial hgood.2)
  · rw [hfirst]
    exact (hwrites.container (.inr ⟨rfl, rfl, rfl⟩) (json.newline_eq_encode depth)).congr
      (by rw [true_and])

/-- **An array is good if its values are.** -/
theorem writes_array {text : α → Text} {good : α → Prop} (depth : ℕ)
    (h : ∀ x ∈ xs, Writes .value (text x) (good x)) :
    Writes .value (json.array depth (xs.map text)) (∀ x ∈ xs, good x) := by
  have hstart : Container.Holds {} .elements True := .inl ⟨rfl, rfl, trivial⟩
  have hentries : ∀ x ∈ xs, Writes .elements (json.newline depth ++ text x) (good x) :=
    fun x hx ↦ (h x hx).element (json.newline_eq_encode _)
  have hall : (xs.foldl (fun container x ↦ json.arrayValue depth container (text x)) {}).Holds
      .elements _ := hstart.foldl Phrase.noConfusion hentries
  rw [array, List.foldl_map]
  rcases hall with ⟨hfirst, htext, hgood⟩ | ⟨hfirst, hwrites⟩
  · have hempty : Derives .value ['[', ']'] :=
      .emptyArray (w := []) fun _ hc ↦ absurd hc List.not_mem_nil
    rw [htext, hfirst]
    exact hempty.writes.congr (iff_of_true trivial hgood.2)
  · rw [hfirst]
    exact (hwrites.container (.inl ⟨rfl, rfl, rfl⟩) (json.newline_eq_encode _)).congr
      (by rw [true_and])

/-! ### Values -/

/-- A string is a value. -/
theorem writes_string (value : Text) : Writes .value (string value) True := by
  obtain ⟨s, hs, hstring⟩ := string_eq_encode value
  rw [hs]
  exact (Derives.string hstring).writes

/-- Of the values only a number can be bad. -/
theorem writes_number (value : Double) : Writes .value (number value) (value.isFinite = true) := by
  rcases hfinite : value.isFinite with _ | _
  · obtain ⟨w, hneg, hweighs⟩ := weighs_number hfinite
    exact ⟨⟨w, hneg.le, hweighs, iff_of_false hneg.ne Bool.false_ne_true⟩,
      fun h ↦ absurd h Bool.false_ne_true⟩
  · exact (Derives.number (isNumber_numberText hfinite)).writes.congr (iff_of_true trivial rfl)

/-- So is a number. -/
theorem writes_integer (value : ℕ) : Writes .value (integer value) True := by
  have hnumber : IsNumber (Nat.toDigits 10 value) := by
    refine ⟨[], Nat.toDigits 10 value, [], [], ?_, .inl rfl, isInt_toDigits value, .inl rfl,
      .inl rfl⟩
    rw [List.append_nil, List.append_nil, List.nil_append]
  exact (Derives.number hnumber).writes

theorem writes_boolean (value : Bool) : Writes .value (boolean value) True := by
  rcases value with _ | _
  · exact Derives.false.writes
  · exact Derives.true.writes

/-- A text that is a value, or else tilts the document that it is a part of. -/
def Settled (text : Text) : Prop := Writes .value text (IsPhrase .value text)

/-- What holds of the value of a member, if the member is present. -/
def Every (P : Text → Prop) (member : Option Member) : Prop := ∀ m ∈ member, P m.2

theorem writes_settled {members : List (Option Member)} {depth : ℕ} {good : Prop}
    (h : ∀ member ∈ members, Every Settled member)
    (hgood : (∀ member ∈ members, Every (IsPhrase .value) member) ↔ good) :
    Writes .value (json.object depth members) good :=
  (json.writes_object h).congr hgood

theorem settled_of_writes {text : Text} (h : Writes .value text True) :
    Settled text ∧ IsPhrase .value text := ⟨h.self, h.isPhrase trivial⟩

theorem settled_array {text : α → Text} (depth : ℕ) (h : ∀ x ∈ xs, Writes .value (text x) True) :
    Settled (json.array depth (xs.map text)) ∧ IsPhrase .value (json.array depth (xs.map text)) :=
  settled_of_writes ((json.writes_array depth h).congr (iff_of_true (fun _ _ ↦ trivial) trivial))

/-- Every scalar is settled. -/
@[simp] theorem settled_scalar :
    (∀ value, Settled (string value)) ∧ (∀ value, Settled (number value)) ∧
      (∀ value, Settled (integer value)) ∧ ∀ value, Settled (boolean value) :=
  ⟨fun value ↦ (writes_string value).self, fun value ↦ (writes_number value).self,
    fun value ↦ (writes_integer value).self, fun value ↦ (writes_boolean value).self⟩

/-- Every scalar is a value, but for a number that is not finite. -/
@[simp] theorem isPhrase_scalar :
    (∀ value, IsPhrase .value (string value)) ∧
      (∀ value, IsPhrase .value (number value) ↔ value.isFinite = true) ∧
      (∀ value, IsPhrase .value (integer value)) ∧ ∀ value, IsPhrase .value (boolean value) :=
  ⟨fun value ↦ (writes_string value).isPhrase trivial,
    fun value ↦ (writes_number value).isPhrase_iff,
    fun value ↦ (writes_integer value).isPhrase trivial,
    fun value ↦ (writes_boolean value).isPhrase trivial⟩

/-! ### Members that may be absent -/

section Every

variable {P : Text → Prop} {name : String}

@[simp] theorem every_some {member : Member} : Every P (some member) ↔ P member.2 := by
  simp only [Every, Option.mem_some_iff, forall_eq']

@[simp] theorem every_none : Every P none := fun _ hm ↦ absurd hm (Option.not_mem_none _)

@[simp] theorem every_given {present : Bool} {member : Member} :
    Every P (given present member) ↔ (present = true → P member.2) := by
  rcases present with _ | _
  · exact iff_of_true every_none nofun
  · exact every_some.trans (true_imp_iff.symm.trans (imp_congr_left (iff_of_true trivial rfl)))

@[simp] theorem every_nonempty {value : Text} :
    Every P (nonempty name value) ↔ (value ≠ [] → P (string value)) := by
  rw [nonempty, every_given, Bool.not_eq_true', List.isEmpty_eq_false_iff]

@[simp] theorem every_map {value : Option α} {f : α → Member} :
    Every P (value.map f) ↔ ∀ x ∈ value, P (f x).2 := by
  rcases value with _ | x
  · exact iff_of_true every_none fun _ hx ↦ absurd hx (Option.not_mem_none _)
  · rw [Option.map_some, every_some]
    simp only [Option.mem_some_iff, forall_eq']

@[simp] theorem every_optionalNumber {value : Option Double} :
    Every P (optionalNumber name value) ↔ ∀ x ∈ value, P (number x) := every_map

@[simp] theorem every_optionalString {value : Option Text} :
    Every P (optionalString name value) ↔ ∀ x ∈ value, P (string x) := every_map

@[simp] theorem every_ite {c : Prop} [Decidable c] {member : Option Member} :
    Every P (if c then member else none) ↔ (c → Every P member) := by
  split_ifs with h
  · exact ⟨fun hmember _ ↦ hmember, fun hmember ↦ hmember h⟩
  · exact iff_of_true every_none fun hc ↦ absurd hc h

end Every

end JsonWriter

/-! ### The numbers of a report -/

/-- The numbers of an OS detection are finite. -/
def OSDetectionResult.Finite (result : OSDetectionResult) : Prop :=
  result.confidence.isFinite = true ∧ ∀ rtt ∈ result.rttMs, rtt.isFinite = true

/-- The numbers of the metrics that `validateReport` passes over are finite. -/
structure ScanMetrics.Finite (metrics : ScanMetrics) : Prop where
  currentRttMs : ∀ rtt ∈ metrics.currentRttMs, rtt.isFinite = true
  srttMs : ∀ rtt ∈ metrics.srttMs, rtt.isFinite = true
  rttvarMs : ∀ rtt ∈ metrics.rttvarMs, rtt.isFinite = true
  rtoMs : ∀ rtt ∈ metrics.rtoMs, rtt.isFinite = true
  stageDurationMs : ∀ stage, (metrics.stageDurationMs stage).isFinite = true

/-- All numbers of a report are finite that `validateReport` passes over. -/
def ScanReport.Finite (report : ScanReport) : Prop :=
  (∀ metrics ∈ report.timingMetrics, metrics.Finite) ∧
    ∀ host ∈ report.hosts, ∀ result ∈ host.osDetection, result.Finite

theorem isFinite_of_validNonnegative {value : Double} (h : validNonnegative value = true) :
    value.isFinite = true := (Bool.and_eq_true_iff.mp h).1

theorem isFinite_of_validConfidence {value : Double} (h : validConfidence value = true) :
    value.isFinite = true := (Bool.and_eq_true_iff.mp (Bool.and_eq_true_iff.mp h).1).1

theorem isFinite_of_all {value : Option Double} (h : value.all validNonnegative = true) :
    ∀ x ∈ value, x.isFinite = true := by
  rintro x rfl
  exact isFinite_of_validNonnegative h

/-! ### Records -/

namespace JsonWriter

variable (json : JsonWriter)

theorem writes_stringArray (values : List Text) (depth : ℕ) :
    Writes .value (json.writeStringArray values depth) True :=
  (json.writes_array depth fun value _ ↦ writes_string value).congr
    (iff_of_true (fun _ _ ↦ trivial) trivial)

@[simp] theorem settled_stringArray (values : List Text) (depth : ℕ) :
    Settled (json.writeStringArray values depth) := (json.writes_stringArray values depth).self

@[simp] theorem isPhrase_stringArray (values : List Text) (depth : ℕ) :
    IsPhrase .value (json.writeStringArray values depth) :=
  (json.writes_stringArray values depth).isPhrase trivial

/-- A valid port is a value. -/
theorem writes_port {port : PortResult} (h : validPort port = true) (depth : ℕ) :
    Writes .value (json.writePort port depth) True := by
  rw [validPort, Bool.and_eq_true] at h
  exact json.writes_settled (by simp) (iff_true_intro (by simpa using isFinite_of_all h.2))

theorem writes_evidence (e : ProtocolEvidence) (depth : ℕ) :
    Writes .value (json.writeEvidence e depth) True := json.writes_settled (by simp) (by simp)

theorem writes_mqtt (mqtt : MqttConnackEvidence) (depth : ℕ) :
    Writes .value (json.writeMqtt mqtt depth) True := json.writes_settled (by simp) (by simp)

theorem writes_tls (tls : TlsMetadata) (depth : ℕ) :
    Writes .value (json.writeTls tls depth) True := json.writes_settled (by simp) (by simp)

/-- So is a valid service. -/
theorem writes_service {service : ServiceResult} (h : validService service = true) (depth : ℕ) :
    Writes .value (json.writeService service depth) True := by
  simp only [validService, Bool.and_eq_true] at h
  have hconfidence := isFinite_of_validConfidence h.1.1.1.2
  have hrtt := isFinite_of_all h.2
  have hevidence := fun e ↦ settled_of_writes (json.writes_evidence e (depth + 1))
  have hmqtt := fun mqtt ↦ settled_of_writes (json.writes_mqtt mqtt (depth + 1))
  have htls := fun tls ↦ settled_of_writes (json.writes_tls tls (depth + 1))
  refine json.writes_settled (by simp [hevidence, hmqtt, htls]) (iff_true_intro ?_)
  simpa [hevidence, hmqtt, htls, hconfidence] using hrtt

/-- So is a valid match. -/
theorem writes_osMatch {result : OSMatchResult} (h : validOsMatch result = true) (depth : ℕ) :
    Writes .value (json.writeOsMatch result depth) True := by
  rw [validOsMatch, Bool.and_eq_true] at h
  exact json.writes_settled (by simp)
    (iff_true_intro (by simpa using isFinite_of_validConfidence h.2))

/-- A detection is a value if it is finite. -/
theorem writes_osDetection (result : OSDetectionResult) (depth : ℕ) :
    Writes .value (json.writeOsDetection result depth) result.Finite :=
  json.writes_settled (by simp) (by simp [OSDetectionResult.Finite])

/-- So are the metrics. -/
theorem writes_timingMetrics {metrics : ScanMetrics} (h : validMetrics metrics = true)
    (now : TimePoint) (depth : ℕ) :
    Writes .value (json.writeTimingMetrics now metrics depth) metrics.Finite := by
  simp only [validMetrics, Bool.and_eq_true] at h
  obtain ⟨⟨⟨⟨haverage, hminimum⟩, hmaximum⟩, hdrop⟩, -⟩ := h
  have hstages := json.writes_array (depth + 1)
    fun stage (_ : stage ∈ List.ofFn metrics.stageDurationMs) ↦ writes_number stage
  have hsettled : Settled _ := hstages.self
  have haverage' : 0 < metrics.rttSamples → metrics.averageRttMs.isFinite = true := by
    intro hsamples
    rcases Bool.or_eq_true_iff.mp haverage with hzero | hvalid
    · exact absurd (of_decide_eq_true hzero) hsamples.ne'
    · exact isFinite_of_validNonnegative hvalid
  have helapsed : (Double.ofNat (metrics.elapsed now)).isFinite = true := rfl
  refine json.writes_settled ?_ ?_
  all_goals simp only [List.forall_mem_cons, every_some, every_optionalNumber, every_given,
    settled_scalar, hsettled, isPhrase_scalar, decide_eq_true_eq,
    isFinite_of_validNonnegative hdrop, helapsed, hstages.isPhrase_iff, List.forall_mem_ofFn_iff,
    List.not_mem_nil, false_imp_iff, implies_true, true_and, and_true]
  constructor
  · rintro ⟨hcurrent, -, -, hsrtt, hrttvar, hrto, -, hstage⟩
    exact ⟨hcurrent, hsrtt, hrttvar, hrto, hstage⟩
  · rintro ⟨hcurrent, hsrtt, hrttvar, hrto, hstage⟩
    exact ⟨hcurrent, isFinite_of_all hminimum, isFinite_of_all hmaximum, hsrtt, hrttvar, hrto,
      haverage', hstage⟩

variable (std : StdSort)

/-- Of a host that was validated, only its OS detection can be written badly. -/
theorem writes_host {host : HostResult} (h : validHost host = true) (context : OutputContext)
    (depth : ℕ) :
    Writes .value (json.writeHost std host context depth)
      (∀ result ∈ host.osDetection, result.Finite) := by
  simp only [validHost, Bool.and_eq_true, List.all_eq_true] at h
  obtain ⟨⟨⟨⟨-, hrtt⟩, hports⟩, hservices⟩, hmatches⟩ := h
  have hport : ∀ port ∈ orderedPorts std host context, validPort port = true := by
    intro port hport
    exact hports port (List.mem_of_mem_filter ((std.perm _ _).mem_iff.mp hport))
  have hservice : ∀ service ∈ orderedServices std host, validService service = true :=
    fun service hservice ↦ hservices service ((std.perm _ _).mem_iff.mp hservice)
  have hmatch : ∀ result ∈ orderedOsMatches std host, validOsMatch result = true :=
    fun result hresult ↦ hmatches result ((std.perm _ _).mem_iff.mp hresult)
  have hports := json.settled_array (depth + 2) fun port hmem ↦
    json.writes_port (hport port hmem) (depth + 2)
  have hservices := json.settled_array (depth + 2) fun service hmem ↦
    json.writes_service (hservice service hmem) (depth + 2)
  have hmatches := json.settled_array (depth + 2) fun result hmem ↦
    json.writes_osMatch (hmatch result hmem) (depth + 2)
  have hdetection : ∀ result, Settled (json.writeOsDetection result (depth + 1)) :=
    fun result ↦ (json.writes_osDetection result _).self
  have hdetection' := fun result ↦ (json.writes_osDetection result (depth + 1)).isPhrase_iff
  refine json.writes_settled (by simp [hports, hservices, hmatches, hdetection]) ?_
  have hrtt' : ∀ x, host.rttMs = some x → x.isFinite = true := isFinite_of_all hrtt
  simpa [hports, hservices, hmatches, hdetection'] using fun _ ↦ hrtt'

theorem writes_scanner (report : ScanReport) :
    Writes .value (json.writeScanner report) True := json.writes_settled (by simp) (by simp)

/-- And the scan. -/
theorem writes_scan {report : ScanReport}
    (hduration : report.durationMs.all validNonnegative = true)
    (hmetrics : report.timingMetrics.all validMetrics = true) (now : TimePoint) :
    Writes .value (json.writeScan now report)
      (∀ metrics ∈ report.timingMetrics, metrics.Finite) := by
  have hvalid : ∀ metrics, report.timingMetrics = some metrics → validMetrics metrics = true :=
    (Option.all_eq_true _ _).mp hmetrics
  have hwrites := fun metrics h ↦ json.writes_timingMetrics (hvalid metrics h) now 2
  refine json.writes_settled ?_ ?_
  · have hsettled : ∀ metrics, report.timingMetrics = some metrics →
        Settled (json.writeTimingMetrics now metrics 2) := fun metrics h ↦ (hwrites metrics h).self
    simpa using hsettled
  · have hduration' : ∀ x, report.durationMs = some x → x.isFinite = true :=
      isFinite_of_all hduration
    simp only [List.forall_mem_cons, every_optionalString, every_optionalNumber, every_map,
      isPhrase_scalar, implies_true, true_and, and_true, List.not_mem_nil,
      false_imp_iff]
    refine (and_iff_right hduration').trans (forall₂_congr fun metrics h ↦ ?_)
    exact (hwrites metrics h).isPhrase_iff

theorem writes_summary (summary : ScanSummary) :
    Writes .value (json.writeSummary summary) True := json.writes_settled (by simp) (by simp)

/-- **A report that was validated is written as a value, if the numbers that validation passes over
are finite.** -/
theorem writes_report {report : ScanReport} (h : validateReport report = .ok) (now : TimePoint)
    (context : OutputContext) :
    Writes .value (json.writeReport std now report context) report.Finite := by
  rw [validateReport] at h
  split_ifs at h with hvalid
  simp only [Bool.and_eq_true, List.all_eq_true] at hvalid
  obtain ⟨⟨⟨-, hduration⟩, hhosts⟩, hmetrics⟩ := hvalid
  have hhost : ∀ host ∈ orderedHosts std report, validHost host = true :=
    fun host hhost ↦ hhosts host ((std.perm _ _).mem_iff.mp hhost)
  have hmem : ∀ host, host ∈ orderedHosts std report ↔ host ∈ report.hosts :=
    fun host ↦ (std.perm _ _).mem_iff
  have hscanner := settled_of_writes (json.writes_scanner report)
  have hscan := json.writes_scan hduration hmetrics now
  have harray := json.writes_array 2 fun host hmem ↦
    json.writes_host std (hhost host hmem) context 2
  have hsummary := settled_of_writes (json.writes_summary (calculateSummary report))
  have hscan' : Settled _ := hscan.self
  have harray' : Settled _ := harray.self
  refine json.writes_settled (by simp [hscanner, hscan', harray', hsummary]) ?_
  simp only [List.forall_mem_cons, every_some, hscanner, hscan.isPhrase_iff, harray.isPhrase_iff,
    hsummary, hmem, isPhrase_stringArray, List.not_mem_nil, false_imp_iff, implies_true, true_and,
    and_true, ScanReport.Finite]

end JsonWriter

/-! ### Documents -/

/-- **What is written is well formed exactly if the numbers that validation passes over are
finite.** -/
theorem document_wellFormed_iff (std : StdSort) (now : TimePoint) (report : ScanReport)
    (context : OutputContext) :
    (∀ document, JsonOutputWriter.write std now report context = .ok document →
      WellFormed document) ↔ (validateReport report = .ok → report.Finite) := by
  by_cases hvalid : validateReport report = .ok
  · have hwrite : JsonOutputWriter.write std now report context =
        .ok (JsonWriter.writeReport ⟨context.prettyJson⟩ std now report context ++ [0x0A]) :=
      if_neg (not_not.mpr hvalid)
    have hwrites := JsonWriter.writes_report ⟨context.prettyJson⟩ std hvalid now context
    rw [hwrite, forall_prop_of_true hvalid, ← hwrites.wellFormed_iff]
    exact ⟨fun h ↦ h _ rfl, fun h document heq ↦ Except.ok.inj heq ▸ h⟩
  · -- a report that is refused is not written
    have hwrite : JsonOutputWriter.write std now report context = .error .invalidReport :=
      if_pos hvalid
    rw [hwrite]
    exact iff_of_true nofun fun h ↦ absurd h hvalid

/-- Strings are lossless in every report, and documents are well formed in those whose numbers are
finite. -/
theorem json_lossless_and_wellFormed_iff (std : StdSort) (now : TimePoint) :
    (∀ value : Text, ∃ body cs,
      0x22 :: jsonEscape value ++ [0x22] = Utf8.encode ('"' :: body ++ ['"']) ∧
        IsString ('"' :: body ++ ['"']) ∧ decodeString body = some cs ∧
          sanitizeUtf8 value = Utf8.encode cs) ∧
      ∀ (report : ScanReport) (context : OutputContext),
        (∀ document, JsonOutputWriter.write std now report context = .ok document →
          WellFormed document) ↔ (validateReport report = .ok → report.Finite) := by
  refine ⟨fun value ↦ ?_, document_wellFormed_iff std now⟩
  obtain ⟨body, cs, hstring, hbody, hcs⟩ := exists_string value
  obtain ⟨parts, hparts, -⟩ := Option.bind_eq_some_iff.mp hbody
  exact ⟨body, cs, hstring, ⟨body, rfl, Option.isSome_iff_exists.mpr ⟨parts, hparts⟩⟩, hbody, hcs⟩

/-- Insertion sort, as a `std::sort`. -/
def StdSort.insertion : StdSort where
  sort less l := l.insertionSort fun left right ↦ !less right left
  perm _ _ := List.perm_insertionSort _ _

/-- A report about a host whose OS was detected with a confidence that is no number. -/
def ScanReport.overconfident : ScanReport where
  scannerVersion := literal "1.0"
  hosts :=
    [{ address := literal "192.0.2.1", osDetection := some { confidence := .infinite false } }]

/-- The confidence of an OS detection is not validated, and an infinite one is written as `inf`. -/
theorem not_json_wellFormed :
    ¬∀ document, JsonOutputWriter.write .insertion 0 .overconfident {} = .ok document →
      WellFormed document := by
  rw [document_wellFormed_iff]
  intro h
  obtain ⟨-, hhosts⟩ := h (by decide)
  exact absurd (hhosts _ List.mem_cons_self _ rfl).1 (by decide)

end Skan.Output

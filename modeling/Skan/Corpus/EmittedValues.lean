import Skan.Corpus.RecordFacts
import Skan.Corpus.Words

/-!
# Emitted values

What the emitters write for numbers, lists and texts is read back by the importers: one lemma for
each reader of `Skan.Corpus.RuntimeLines`. -/

namespace Skan.Corpus

open Utf8

open Skan.Output (Double)

variable {c : Char} {text : Str} {n : ℕ}

@[simp] theorem demand_eq_ok {condition : Bool} {message : String} {u : Unit} :
    demand condition message = .ok u ↔ condition = true := by
  cases condition
  · simp [demand, raise]
  · simp [demand]

theorem demand_of {condition : Bool} (h : condition = true) (message : String) :
    demand condition message = .ok () := demand_eq_ok.mpr h

/-! ### Characters -/

/-- An ASCII text. -/
def IsAscii (text : Str) : Prop := ∀ c ∈ text, c.toNat ≤ 0x7F

instance (text : Str) : Decidable (IsAscii text) :=
  inferInstanceAs (Decidable (∀ c ∈ text, c.toNat ≤ 0x7F))

theorem isAscii_of_isPlain (h : ∀ c ∈ text, isPlain c) : IsAscii text :=
  fun c hc ↦ le_of_isPlain (h c hc)

theorem asciiText_encode (h : IsAscii text) (context : String) :
    asciiText (encode text) context = .ok text := by
  rw [asciiText, Strings.ascii_encode h]

theorem utf8Text_encode (text : Str) (context : String) :
    utf8Text (encode text) context = .ok text := by
  rw [utf8Text, decode_encode]

/-- A character of a name, a number or a floating-point number. -/
def isWordChar (c : Char) : Bool :=
  isAsciiLetter c || isDecimal c || c = '_' || c = '-' || c = '.' || c = '+'

/-- Word characters are plain. -/
theorem isPlain_of_isWordChar (h : isWordChar c) : isPlain c := by
  have hrange : ∀ {low high : Char}, (low ≤ c ∧ c ≤ high) → low.toNat ≤ c.toNat ∧
      c.toNat ≤ high.toNat :=
    fun h ↦ ⟨h.1, h.2⟩
  have hne : ∀ d : Char, c.toNat ≠ d.toNat → c ≠ d := fun d hd heq ↦ hd (congrArg Char.toNat heq)
  simp only [isWordChar, isAsciiLetter, isDecimal, Bool.or_eq_true, Bool.and_eq_true,
    decide_eq_true_eq] at h
  simp only [isPlain, Bool.and_eq_true, decide_eq_true_eq]
  rcases h with ((((((h | h) | h) | rfl) | rfl) | rfl) | rfl)
  all_goals try exact ⟨⟨⟨⟨by decide, by decide⟩, by decide⟩, by decide⟩, by decide⟩
  all_goals
    have hle := hrange h
    simp only [Char.reduceToNat] at hle
    exact ⟨⟨⟨⟨by omega, by omega⟩, hne _ (by simp only [Char.reduceToNat]; omega)⟩,
      hne _ (by simp only [Char.reduceToNat]; omega)⟩, hne _
        (by simp only [Char.reduceToNat]; omega)⟩

theorem isWordChar_of_isDecimal (h : isDecimal c) : isWordChar c := by
  simp [isWordChar, h]

theorem isWordChar_of_isProbeNameChar (h : isProbeNameChar c) : isWordChar c := by
  simp only [isProbeNameChar, Bool.or_eq_true, decide_eq_true_eq] at h
  simp only [isWordChar, Bool.or_eq_true, decide_eq_true_eq]
  tauto

theorem isWordChar_of_isRuntimeTokenChar (h : isRuntimeTokenChar c) : isWordChar c := by
  simp only [isRuntimeTokenChar, isProbeNameChar, Bool.or_eq_true, decide_eq_true_eq] at h
  simp only [isWordChar, Bool.or_eq_true, decide_eq_true_eq]
  tauto

/-- Names, numbers and tokens hold no separator. -/
theorem ne_of_isWordChar {d : Char} (h : isWordChar c) (hd : isWordChar d = false) : c ≠ d := by
  rintro rfl
  exact absurd (h.symm.trans hd) (by decide)

/-! ### Numbers -/

theorem isDecimal_of_mem_decimal (h : c ∈ decimal n) : isDecimal c := by
  have hdigit := Nat.isDigit_of_mem_toDigits (by decide) le_rfl h
  simp only [Char.isDigit, Bool.and_eq_true, decide_eq_true_eq] at hdigit
  simp only [isDecimal, Bool.and_eq_true, decide_eq_true_eq]
  exact hdigit

theorem isWordChar_of_mem_decimal (h : c ∈ decimal n) : isWordChar c :=
  isWordChar_of_isDecimal (isDecimal_of_mem_decimal h)

theorem isAscii_of_isWordChar (h : ∀ c ∈ text, isWordChar c) : IsAscii text :=
  fun c hc ↦ le_of_isPlain (isPlain_of_isWordChar (h c hc))

/-- **A number** is read back. -/
theorem unsigned_decimal {minimum maximum : ℕ} (hmin : minimum ≤ n) (hmax : n ≤ maximum)
    (fieldName : String) :
    unsigned (encode (decimal n)) fieldName minimum maximum = .ok n := by
  have hdigits : ((!(decimal n).isEmpty && (decimal n).all isDecimal) : Bool) = true := by
    have hne : decimal n ≠ [] := Nat.toDigits_ne_nil
    simpa [hne] using fun c hc ↦ isDecimal_of_mem_decimal hc
  have hvalue : Nat.ofDigitChars 10 (decimal n) 0 = n := Nat.ofDigitChars_ten_toDigits
  rw [unsigned, asciiText_encode (isAscii_of_isWordChar fun c ↦ isWordChar_of_mem_decimal)]
  simp only [bind, Except.bind, hdigits, demand_of, hvalue, decide_eq_true hmin,
    decide_eq_true hmax,
    Bool.and_self]
  rfl

/-! ### Lists -/

theorem encode_join (sep : Str) (parts : List Str) :
    encode (join sep parts) = (encode sep).intercalate (parts.map encode) :=
  encode_intercalate sep parts

/-- **A joined list** is cut into its parts. -/
theorem splitOn_encode_join {sep : Char} (hsep : sep.toNat ≤ 0x7F) {parts : List Str}
    (hne : parts ≠ []) (h : ∀ part ∈ parts, sep ∉ part) :
    (encode (join [sep] parts)).splitOn (UInt8.ofNat sep.toNat) = parts.map encode := by
  have hbyte : encode [sep] = [UInt8.ofNat sep.toNat] := by
    rw [encode_cons, encodeChar_ascii hsep, encode_nil, List.append_nil]
  rw [encode_join, hbyte, List.splitOn_intercalate]
  · intro bytes hbytes
    obtain ⟨part, hpart, rfl⟩ := List.mem_map.mp hbytes
    exact fun hmem ↦ h part hpart (mem_of_mem_encode hsep hmem)
  · exact List.map_eq_nil_iff.not.mpr hne

/-- **The lines** of a database are followed by an empty one. -/
theorem splitOn_linesText {lines : List Str} (hne : lines ≠ []) (h : ∀ line ∈ lines, '\n' ∉ line) :
    (encode (linesText lines)).splitOn 0x0A = lines.map encode ++ [[]] := by
  have hnewline : encode ['\n'] = [0x0A] := rfl
  rw [linesText, encode_append, encode_join, hnewline]
  refine Strings.splitOn_terminated (List.map_eq_nil_iff.not.mpr hne) ?_
  exact List.forall_mem_map.mpr fun line hline hmem ↦
    h line hline (mem_of_mem_encode (c := '\n') (by decide) hmem)

/-- Lines with their numbers, as the importers run over them. -/
def numbered (lines : List Str) (k : ℕ) : List (Bytes × ℕ) := (lines.map Utf8.encode).zipIdx k

theorem numbered_cons (line : Str) (lines : List Str) (k : ℕ) :
    numbered (line :: lines) k = (encode line, k) :: numbered lines (k + 1) := rfl

theorem numbered_append (front back : List Str) (k : ℕ) :
    numbered (front ++ back) k = numbered front k ++ numbered back (k + front.length) := by
  rw [numbered, List.map_append, List.zipIdx_append, List.length_map, Nat.add_comm]
  rfl

/-- A pass of `_ports` at a port. -/
theorem portsItem_decimal {expanded : List ℕ} {port : ℕ} (hmin : 1 ≤ port) (hmax : port ≤ 65535)
    (hlength : (expanded ++ [port]).length ≤ maxPorts) :
    portsItem expanded (encode (decimal port)) = .ok (expanded ++ [port]) := by
  have hminus : (0x2D : UInt8) ∉ encode (decimal port) := fun hmem ↦
    absurd (isDecimal_of_mem_decimal (mem_of_mem_encode (c := '-') (by decide) hmem))
      (by decide)
  have hne : encode (decimal port) ≠ [] := encode_ne_nil Nat.toDigits_ne_nil
  have hone : List.range' port (port + 1 - port) = [port] := by
    rw [Nat.add_sub_cancel_left]
    rfl
  rw [portsItem]
  refine bind_eq_ok.mpr ⟨(), demand_of (by simp [hne]) _, ?_⟩
  rw [Strings.partition_of_notMem hminus]
  refine bind_eq_ok.mpr ⟨port, unsigned_decimal hmin hmax _, ?_⟩
  refine bind_eq_ok.mpr ⟨port, rfl, ?_⟩
  refine bind_eq_ok.mpr ⟨(), demand_of (by simp [maxPorts]) _, ?_⟩
  rw [hone]
  exact bind_eq_ok.mpr ⟨(), demand_of (decide_eq_true hlength) _, rfl⟩

/-- A list of ports is read back. -/
theorem foldlM_portsItem {ports expanded : List ℕ}
    (hrange : ∀ port ∈ ports, 1 ≤ port ∧ port ≤ 65535)
    (hlength : (expanded ++ ports).length ≤ maxPorts) :
    (ports.map fun port ↦ encode (decimal port)).foldlM portsItem expanded =
      .ok (expanded ++ ports) := by
  induction ports generalizing expanded with
  | nil => rw [List.append_nil]; rfl
  | cons port ports ih =>
    obtain ⟨hmin, hmax⟩ := hrange port List.mem_cons_self
    have hpass : (expanded ++ [port]).length ≤ maxPorts := by
      simp only [List.length_append, List.length_cons, List.length_nil] at hlength ⊢
      omega
    rw [List.map_cons, List.foldlM_cons]
    refine bind_eq_ok.mpr ⟨_, portsItem_decimal hmin hmax hpass, ?_⟩
    rw [ih (fun p hp ↦ hrange p (List.mem_cons_of_mem port hp)) (by simpa using hlength)]
    simp

/-- **The ports** of a probe are read back. -/
theorem portList_join {ports : List ℕ} (hne : ports ≠ [])
    (hsorted : ports.insertionSort (· ≤ ·) = ports) (hlength : ports.length ≤ maxPorts)
    (hrange : ∀ port ∈ ports, 1 ≤ port ∧ port ≤ 65535) (hnodup : ports.Nodup) :
    portList (encode (join [','] (ports.map decimal))) = .ok ports := by
  have hsplit := @splitOn_encode_join ',' (by decide) (ports.map decimal)
    (List.map_eq_nil_iff.not.mpr hne) (by
      intro part hpart hmem
      obtain ⟨port, -, rfl⟩ := List.mem_map.mp hpart
      exact absurd (isDecimal_of_mem_decimal hmem) (by decide))
  have hitems : (encode (join [','] (ports.map decimal))).splitOn 0x2C =
      ports.map fun port ↦ encode (decimal port) := hsplit.trans (by rw [List.map_map]; rfl)
  rw [portList, hitems]
  refine bind_eq_ok.mpr ⟨ports, foldlM_portsItem hrange (by simpa using hlength), ?_⟩
  refine bind_eq_ok.mpr ⟨(), demand_of (decide_eq_true hnodup) _, ?_⟩
  exact congrArg Except.ok hsorted

theorem mapM_ok {ε α β : Type} {f : α → Except ε β} {g : α → β} {l : List α}
    (h : ∀ x ∈ l, f x = .ok (g x)) : l.mapM f = .ok (l.map g) := by
  induction l with
  | nil => rfl
  | cons x l ih =>
    rw [List.mapM_cons]
    refine bind_eq_ok.mpr ⟨g x, h x List.mem_cons_self, ?_⟩
    exact bind_eq_ok.mpr ⟨l.map g, ih fun y hy ↦ h y (List.mem_cons_of_mem x hy), rfl⟩

theorem isWordChar_of_isProbeName {name : Str} (h : isProbeName name) :
    ∀ c ∈ name, isWordChar c := by
  simp only [isProbeName, Bool.and_eq_true, List.all_eq_true] at h
  exact fun c hc ↦ isWordChar_of_isProbeNameChar (h.2 c hc)

/-- **The fallbacks** of a probe are read back. -/
theorem fallbackList_join {names : List Str} (hne : names ≠ [])
    (hlength : names.length ≤ maxFallbacks)
    (hnodup : names.Nodup) (h : ∀ name ∈ names, isProbeName name) :
    fallbackList (encode (join [','] names)) = .ok names := by
  have hsplit : (encode (join [','] names)).splitOn 0x2C = names.map encode :=
    @splitOn_encode_join ',' (by decide) _ hne fun name hname hmem ↦
      ne_of_isWordChar (isWordChar_of_isProbeName (h name hname) _ hmem) (by decide) rfl
  have hpos : 1 ≤ names.length := List.length_pos_iff.mpr hne
  have hdecoded : (names.map encode).mapM (asciiText · "fallback name") = .ok names := by
    have hmap := mapM_ok (f := fun name ↦ asciiText (encode name) "fallback name") (g := id)
      fun name hname ↦ asciiText_encode (isAscii_of_isWordChar
        (isWordChar_of_isProbeName (h name hname))) "fallback name"
    rw [List.map_id] at hmap
    rw [← hmap, List.mapM_map]
    rfl
  rw [fallbackList, hsplit]
  refine bind_eq_ok.mpr ⟨(), demand_of (by simp [hpos, hlength]) _, ?_⟩
  refine bind_eq_ok.mpr ⟨names, hdecoded, ?_⟩
  refine bind_eq_ok.mpr ⟨(), demand_of (List.all_eq_true.mpr h) _, ?_⟩
  exact bind_eq_ok.mpr ⟨(), demand_of (decide_eq_true hnodup) _, rfl⟩

/-! ### Assignments -/

/-- Fields as tokens. -/
def fieldTokens (fields : Fields) : List Bytes :=
  fields.map fun field ↦ Utf8.encode field.1 ++ 0x3D :: field.2

/-- Fields that an assignment can hold. -/
structure Assignable (fields : Fields) : Prop where
  key : ∀ field ∈ fields, field.1 ≠ [] ∧ ∀ c ∈ field.1, isAsciiLetter c
  value : ∀ field ∈ fields, field.2 ≠ []
  nodup : (fields.map (·.1)).Nodup

/-- So are assignments. -/
theorem foldlM_assignment {fields front : Fields} {directive : String}
    (h : Assignable (front ++ fields)) :
    (fieldTokens fields).foldlM (assignment directive n) front = .ok (front ++ fields) := by
  induction fields generalizing front with
  | nil => rw [List.append_nil]; rfl
  | cons field fields ih =>
    have hmem : field ∈ front ++ field :: fields := by simp
    obtain ⟨hkey, hletters⟩ := h.key field hmem
    have hword : ∀ c ∈ field.1, isWordChar c := fun c hc ↦ by simp [isWordChar, hletters c hc]
    have hequals : (0x3D : UInt8) ∉ encode field.1 := fun hin ↦
      ne_of_isWordChar (hword _ (mem_of_mem_encode (c := '=') (by decide) hin)) (by decide) rfl
    have hfresh : front.any (·.1 = field.1) = false := by
      rw [List.any_eq_false]
      intro other hother heq
      have hnodup := h.nodup
      rw [List.map_append, List.map_cons] at hnodup
      exact (List.nodup_append.mp hnodup).2.2 other.1 (List.mem_map_of_mem hother) field.1
        List.mem_cons_self (of_decide_eq_true heq)
    have happend : front ++ field :: fields = (front ++ [field]) ++ fields := by simp
    rw [fieldTokens, List.map_cons, List.foldlM_cons]
    refine bind_eq_ok.mpr ⟨front ++ [field], ?_, ?_⟩
    · rw [assignment, Strings.partition_append hequals]
      refine bind_eq_ok.mpr ⟨(), demand_of (by simp [encode_ne_nil hkey, h.value field hmem]) _, ?_⟩
      refine bind_eq_ok.mpr ⟨field.1, asciiText_encode (isAscii_of_isWordChar hword) _, ?_⟩
      exact bind_eq_ok.mpr ⟨(), demand_of (by simp only [hfresh, Bool.not_false]) _, rfl⟩
    · rw [happend] at h ⊢
      exact ih h

/-- **Assignments** are read back. -/
theorem assignments_fieldTokens {fields : Fields} (h : Assignable fields) (directive : String)
    (n : ℕ) :
    assignments (fieldTokens fields) directive n = .ok fields :=
  foldlM_assignment (by rwa [List.nil_append])

end Skan.Corpus

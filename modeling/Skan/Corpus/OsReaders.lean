import Skan.Corpus.RuntimeOsDb
import Skan.Db.OsLines
import Skan.Output.Types

/-!
# Two readers of OS fingerprint databases

`parse_os_db` of the corpus tools and `OSFingerprintDatabase::parse` of the scanner read the same
format. Neither accepts all that the other does: the tools take any feature, the scanner any number
of parts of a class. What both accept they understand alike (`Agree`): line by line, the dictionary
of the one is the open fingerprint of the other, and so are the ones that are closed.
-/

namespace Skan.Corpus.RuntimeOsDb

open Skan.Core Skan.Db
open Skan.Db.OsDb (OsState Phrase IsKey Written ReadableField)

variable {text line : Text} {lineNumber : ℕ} {p p' : Parsing} {s s' : OsState} {raw : RawRecord}

/-! ### Texts -/

/-- ASCII text whose only controls are tabs and line feeds. -/
def Allowed (text : Text) : Prop := ∀ c ∈ text, c < 0x7F ∧ (c < 0x20 → c = 0x09 ∨ c = 0x0A)

/-- What such text has between the ends of lines. -/
def Clear (text : Text) : Prop := ∀ c ∈ text, c < 0x7F ∧ (c < 0x20 → c = 0x09)

theorem Clear.sublist {other : Text} (h : Clear text) (hsub : other.Sublist text) : Clear other :=
  fun c hc ↦ h c (hsub.subset hc)

theorem clear_facts : ∀ c : UInt8, c < 0x7F ∧ (c < 0x20 → c = 0x09) →
    isSpace c = OsDb.isBlank c ∧ c ≠ 0x0A :=
  Utf8.forall_byte (by decide +kernel)

theorem Clear.newline_notMem (h : Clear text) : 0x0A ∉ text := fun hmem ↦
  (clear_facts _ (h _ hmem)).2 rfl

/-- **The two readers strip alike.** -/
theorem Clear.strip_eq (h : Clear text) : strip text = OsDb.trim text :=
  Strings.strip_congr fun c hc ↦ (clear_facts c (h c hc)).1

theorem phrase_trim (h : Clear text) (hcomment : 0x23 ∉ text) (hne : OsDb.trim text ≠ []) :
    Phrase (OsDb.trim text) where
  ne := hne
  head c hc := Bool.eq_false_iff.mpr ((Strings.ends_strip OsDb.isBlank text).1 c hc)
  last c hc := Bool.eq_false_iff.mpr ((Strings.ends_strip OsDb.isBlank text).2 c hc)
  comment hmem := hcomment ((Strings.strip_sublist OsDb.isBlank text).subset hmem)
  line hmem := h.newline_notMem ((Strings.strip_sublist OsDb.isBlank text).subset hmem)

theorem trim_append_blanks {blanks : Text} (h : ∀ c ∈ blanks, OsDb.isBlank c = true) (text : Text) :
    OsDb.trim (blanks ++ text) = OsDb.trim text := by
  rw [OsDb.trim, List.dropWhile_append_of_pos h]
  rfl

/-- A comment may be cut off before the blanks are or after. -/
theorem trim_takeWhile (line : Text) :
    OsDb.trim (line.takeWhile (· ≠ 0x23)) = OsDb.content line := by
  have hkeep : ∀ {blanks : Text}, (∀ c ∈ blanks, OsDb.isBlank c = true) →
      ∀ c ∈ blanks, decide (c ≠ 0x23) = true := by
    refine fun h c hc ↦ decide_eq_true ?_
    rintro rfl
    exact absurd (h _ hc) (by decide)
  -- the line is what the trimmed one is between blanks
  have hfront : ∀ c ∈ line.takeWhile OsDb.isBlank, OsDb.isBlank c = true :=
    fun c hc ↦ List.mem_takeWhile_imp hc
  have hback : ∀ c ∈ (line.dropWhile OsDb.isBlank).rtakeWhile OsDb.isBlank,
      OsDb.isBlank c = true := fun c hc ↦ List.mem_rtakeWhile_imp hc
  have hline : line = line.takeWhile OsDb.isBlank ++
      (OsDb.trim line ++ (line.dropWhile OsDb.isBlank).rtakeWhile OsDb.isBlank) := by
    have hdrop : OsDb.trim line ++ (line.dropWhile OsDb.isBlank).rtakeWhile OsDb.isBlank =
        line.dropWhile OsDb.isBlank := List.rdropWhile_append_rtakeWhile ..
    rw [hdrop, List.takeWhile_append_dropWhile]
  have htrim : OsDb.trim (OsDb.trim line ++
      (line.dropWhile OsDb.isBlank).rtakeWhile OsDb.isBlank) = OsDb.trim line := by
    conv_rhs => rw [hline, trim_append_blanks hfront]
  rw [OsDb.content]
  conv_lhs => rw [hline, List.takeWhile_append_of_pos (hkeep hfront), trim_append_blanks hfront]
  by_cases hcomment : 0x23 ∈ OsDb.trim line
  · have hstops : ((OsDb.trim line).takeWhile (· ≠ 0x23)).length ≠ (OsDb.trim line).length := by
      intro hlength
      have hall := List.takeWhile_eq_self_iff.mp
        ((List.takeWhile_prefix _).eq_of_length hlength) _ hcomment
      exact of_decide_eq_true hall rfl
    rw [List.takeWhile_append, if_neg hstops, if_pos hcomment]
  · have hkept : ∀ c ∈ OsDb.trim line, decide (c ≠ 0x23) = true := fun c hc ↦
      decide_eq_true fun heq ↦ hcomment (heq ▸ hc)
    rw [if_neg hcomment, List.takeWhile_append_of_pos hkept,
      List.takeWhile_eq_self_iff.mpr (hkeep hback), htrim]

/-- **The two readers see the same in a line.** -/
theorem Clear.content_eq (h : Clear line) : content line = OsDb.content line := by
  rw [content, (h.sublist (List.takeWhile_sublist _)).strip_eq, trim_takeWhile]

theorem content_sublist (line : Text) : (content line).Sublist line :=
  (Strings.strip_sublist isSpace _).trans (List.takeWhile_sublist _)

theorem comment_notMem_content (line : Text) : 0x23 ∉ content line := fun hmem ↦ by
  have hkept := List.mem_takeWhile_imp ((Strings.strip_sublist isSpace _).subset hmem)
  exact of_decide_eq_true hkept rfl

/-! ### Lines -/

theorem lines_append (h : 0x0A ∉ line) (rest : Text) :
    Detect.ServiceDb.lines (line ++ 0x0A :: rest) = line :: Detect.ServiceDb.lines rest := by
  have hne := List.splitOn_ne_nil (0x0A : UInt8) rest
  rw [Detect.ServiceDb.lines, List.splitOn_append_cons_self, List.splitOn_eq_singleton h,
    List.singleton_append, Detect.ServiceDb.lines, List.getLast?_cons_of_ne_nil hne]
  split_ifs
  · exact List.dropLast_cons_of_ne_nil hne
  · rfl

theorem lines_last (h : 0x0A ∉ line) :
    Detect.ServiceDb.lines line = if line = [] then [] else [line] := by
  rw [Detect.ServiceDb.lines, List.splitOn_eq_singleton h, List.getLast?_singleton]
  simp only [Option.some_inj]
  rfl

/-- **The two readers see the same lines.** -/
theorem splitLinesFrom_eq (h : Allowed text) {current : Text} (hcurrent : 0x0A ∉ current) :
    splitLinesFrom current text = Detect.ServiceDb.lines (current ++ text) := by
  induction text generalizing current with
  | nil => rw [splitLinesFrom, List.append_nil, lines_last hcurrent]
  | cons c text ih =>
    obtain ⟨hc, htext⟩ := List.forall_mem_cons.mp h
    have hfacts : ∀ c : UInt8, c < 0x7F ∧ (c < 0x20 → c = 0x09 ∨ c = 0x0A) →
        c ≠ 0x0D ∧ (isLineEnd c = true ↔ c = 0x0A) := Utf8.forall_byte (by decide +kernel)
    obtain ⟨hreturn, hend⟩ := hfacts c hc
    rw [splitLinesFrom]
    · split_ifs with hline
      · rw [hend.mp hline, lines_append hcurrent, ih htext List.not_mem_nil, List.nil_append]
      · have hnext : 0x0A ∉ current ++ [c] := fun hmem ↦ by
          rcases List.mem_append.mp hmem with hmem | hmem
          · exact hcurrent hmem
          · exact hline (hend.mpr (List.mem_singleton.mp hmem).symm)
        rw [ih htext hnext, List.append_assoc, List.singleton_append]
    · exact fun _ heq _ ↦ hreturn heq

theorem Allowed.splitLines_eq (h : Allowed text) : splitLines text = Detect.ServiceDb.lines text :=
  splitLinesFrom_eq h List.not_mem_nil

theorem Allowed.clear (h : Allowed text) : ∀ line ∈ Detect.ServiceDb.lines text, Clear line := by
  intro line hline c hc
  have hpiece : line ∈ text.splitOn 0x0A := by
    rw [Detect.ServiceDb.lines] at hline
    split_ifs at hline
    · exact List.mem_of_mem_dropLast hline
    · exact hline
  obtain ⟨hmem, hne⟩ := Strings.of_mem_splitOn hpiece hc
  obtain ⟨hlow, hcontrol⟩ := h c hmem
  exact ⟨hlow, fun hlt ↦ (hcontrol hlt).resolve_right hne⟩

/-! ### What a dictionary stands for -/

namespace RawRecord

/-- The open fingerprint of the other reader. -/
def opened (family : AddressFamily) (raw : RawRecord) : OSFingerprint where
  name := raw.name
  vendor := (raw.classParts.map (·.vendor)).getD []
  family := (raw.classParts.map (·.osFamily)).getD []
  generation := (raw.classParts.map (·.osGeneration)).getD []
  deviceType := (raw.classParts.map (·.deviceType)).getD []
  signatures := raw.features.filterMap fun (key, value) ↦ OsDb.signature key value
  addressFamily := family
  id := raw.nativeId.getD raw.name
  specificity := (raw.specificity.map Int.toNat).getD 0

/-- The fingerprint as it may be written down. -/
def written (raw : RawRecord) (parts : ClassParts) : Written where
  name := raw.name
  id := raw.nativeId
  specificity := raw.specificity.map Int.toNat
  vendor := parts.vendor
  family := parts.osFamily
  generation := parts.osGeneration
  deviceType := parts.deviceType
  fields := raw.features

theorem current_written {parts : ClassParts} (h : raw.classParts = some parts)
    (family : AddressFamily) : (raw.written parts).current family = raw.opened family := by
  rw [opened, h]
  rfl

end RawRecord

/-- A part of a class that can be read back. -/
def ClassParts.Readable (parts : ClassParts) : Prop :=
  ∀ part ∈ [parts.vendor, parts.osFamily, parts.osGeneration, parts.deviceType],
    Phrase part ∧ 0x7C ∉ part

/-- What holds of a dictionary whose lines both readers have read. -/
structure RawRecord.Readable (raw : RawRecord) : Prop where
  name : isName raw.name = true
  nativeId : ∀ nativeId ∈ raw.nativeId,
    Phrase nativeId ∧ nativeId.length ≤ OsDb.maximumStringBytes
  specificity : ∀ n ∈ raw.specificity, 0 < n ∧ n ≤ 65535
  classParts : ∀ parts ∈ raw.classParts, parts.Readable
  features : ∀ field ∈ raw.features, isFeature field.1 = true ∧ ReadableField field
  keys : (raw.features.map (·.1)).Nodup

/-- **What the two readers agree on**, before a line and after it. -/
structure Agree (family : AddressFamily) (p : Parsing) (s : OsState) : Prop where
  fingerprints : s.fingerprints =
    p.rawRecords.map fun (raw, parts) ↦ (raw.written parts).fingerprint family
  closed : ∀ entry ∈ p.rawRecords,
    entry.1.classParts = some entry.2 ∧ entry.1.Readable ∧ entry.1.features ≠ []
  orders : p.rawRecords.map (·.1.order) = List.range p.rawRecords.length
  current : s.current = p.current.map (RawRecord.opened family)
  hasClass : s.hasClass = (p.current.bind (·.classParts)).isSome
  readable : ∀ raw ∈ p.current, raw.Readable ∧ raw.order = p.rawRecords.length

theorem agree_start (family : AddressFamily) : Agree family {} {} where
  fingerprints := rfl
  closed _ h := absurd h List.not_mem_nil
  orders := rfl
  current := rfl
  hasClass := rfl
  readable _ h := nomatch h

variable {path addressFamily : Text} {family : AddressFamily}

theorem fail_ne_ok {α : Type} {message : Text} {a : α} :
    fail path lineNumber message ≠ .ok a := nofun

/-- **What is closed by both readers.** -/
theorem Agree.flush (h : Agree family p s) (hp : flush path p = .ok p')
    (hs : OsDb.finalize family s = some s') :
    Agree family p' s' ∧ p'.current = none ∧ p'.names = p.names ∧ p'.nativeIds = p.nativeIds := by
  have hcurrent := h.current
  rw [RuntimeOsDb.flush] at hp
  rcases hcase : p.current with _ | raw
  · rw [hcase] at hp hcurrent
    obtain rfl := Except.ok.inj hp
    rw [OsDb.finalize, hcurrent] at hs
    obtain rfl := Option.some.inj hs
    exact ⟨h, hcase, rfl, rfl⟩
  · rw [hcase] at hp hcurrent
    obtain ⟨hreadable, horder⟩ := h.readable raw hcase
    obtain ⟨-, rfl⟩ := (OsDb.finalize_eq_some_iff hcurrent).mp hs
    dsimp only at hp
    rcases hparts : raw.classParts with _ | parts
    · rw [hparts] at hp
      cases hp
    · rw [hparts] at hp
      dsimp only at hp
      split_ifs at hp with hempty
      · exact absurd hp fail_ne_ok
      obtain rfl := Except.ok.inj hp
      refine ⟨?_, rfl, rfl, rfl⟩
      exact {
        fingerprints := by
          show s.fingerprints ++ [OsDb.completed (raw.opened family)] = _
          rw [h.fingerprints, List.map_append, List.map_singleton,
            ← RawRecord.current_written hparts]
          rfl
        closed := by
          rw [List.forall_mem_append]
          exact ⟨h.closed, List.forall_mem_singleton.mpr ⟨hparts, hreadable, hempty⟩⟩
        orders := by
          rw [List.map_append, List.map_singleton, h.orders, List.length_append,
            List.length_singleton, List.range_succ, horder]
        current := rfl
        hasClass := rfl
        readable := fun _ hraw ↦ absurd hraw.symm (Option.some_ne_none _) }

/-! ### The lines of a fingerprint -/

theorem phrase_of_isName {name : Text} (h : isName name = true) : Phrase name := by
  rw [isName, Bool.and_eq_true, Bool.not_eq_true', List.isEmpty_eq_false_iff] at h
  have hall : ∀ b, isNameChar b = true → OsDb.isBlank b = false ∧ b ≠ 0x23 ∧ b ≠ 0x0A :=
    Utf8.forall_byte (by decide +kernel)
  exact OsDb.phrase_of_forall h.1 fun c hc ↦ hall c (List.all_eq_true.mp h.2 c hc)

theorem isKey_of_isFeature {key : Text} (h : isFeature key = true) : IsKey key := by
  rcases key with _ | ⟨c, key⟩
  · exact nomatch h
  · rw [isFeature, Bool.and_eq_true, List.all_eq_true] at h
    refine ⟨List.cons_ne_nil c key, List.forall_mem_cons.mpr ⟨?_, fun d hd ↦ h.2 d hd⟩⟩
    have hupper := h.1
    rw [isUpper] at hupper
    rw [OsDb.isKeyChar, hupper]
    rfl

/-- **A header is read alike.** -/
theorem Agree.fingerprintLine {content : Text} (h : Agree family p s) (hclear : Clear content)
    (hheader : (literal "Fingerprint ").isPrefixOf content = true)
    (hknown : family = .ipv4 ∨ family = .ipv6)
    (hp : fingerprintLine path lineNumber p content = .ok p')
    (hs : OsDb.fingerprintLine family s content = some s') : Agree family p' s' := by
  rw [RuntimeOsDb.fingerprintLine] at hp
  rcases hflush : RuntimeOsDb.flush path p with error | before
  · rw [hflush] at hp
    cases hp
  rw [hflush] at hp
  rw [OsDb.fingerprintLine, Option.bind_eq_bind, Option.bind_eq_some_iff] at hs
  obtain ⟨before', hfinalize, hs⟩ := hs
  obtain ⟨hbefore, hnone, -, -⟩ := h.flush hflush hfinalize
  -- behind the word there is a blank, which only one of the readers leaves to be stripped
  have hname : strip (content.drop 12) = OsDb.trim (content.drop 11) := by
    obtain ⟨rest, rfl⟩ := List.isPrefixOf_iff_prefix.mp hheader
    rw [(hclear.sublist (List.drop_sublist _ _)).strip_eq]
    exact (@trim_append_blanks [0x20] (List.forall_mem_singleton.mpr rfl) rest).symm
  have hexpected : family ≠ .unknown := by rcases hknown with rfl | rfl <;> decide
  dsimp only [bind, Except.bind] at hp
  dsimp only at hs
  rw [← hname] at hs
  split_ifs at hp with hvalid hseen
  · exact absurd hp fail_ne_ok
  · exact absurd hp fail_ne_ok
  split_ifs at hs
  obtain rfl := Except.ok.inj hp
  obtain rfl := Option.some.inj hs
  rw [Bool.not_eq_true, Bool.not_eq_false'] at hvalid
  have hclass := hbefore.hasClass
  rw [hnone] at hclass
  exact {
    fingerprints := hbefore.fingerprints
    closed := hbefore.closed
    orders := hbefore.orders
    current := rfl
    hasClass := hclass
    readable := by
      intro raw hraw
      obtain rfl := Option.some.inj hraw
      exact ⟨⟨hvalid, by simp, by simp, by simp,
        fun _ h ↦ absurd h List.not_mem_nil, .nil⟩, rfl⟩ }

/-- **A class is read alike**: the other reader would also take fewer parts. -/
theorem classLine_agree {raw' : RawRecord} {next : OSFingerprint} {content : Text}
    (h : raw.Readable) (hclear : Clear content) (hcomment : 0x23 ∉ content)
    (hp : classLine path lineNumber raw content = .ok raw')
    (hs : OsDb.classLine (raw.opened family) content = some next) :
    next = raw'.opened family ∧ raw'.Readable ∧ raw'.classParts.isSome = true ∧
      raw'.order = raw.order := by
  have hpieces : ((content.drop 6).splitOn 0x7C).map strip =
      OsDb.splitTrimmed 0x7C (content.drop 6) := by
    refine List.map_congr_left fun piece hpiece ↦ Clear.strip_eq fun c hc ↦ ?_
    exact hclear c (List.mem_of_mem_drop (Strings.of_mem_splitOn hpiece hc).1)
  have hpart : ∀ part ∈ OsDb.splitTrimmed 0x7C (content.drop 6), part ≠ [] →
      Phrase part ∧ 0x7C ∉ part := by
    rintro part hmem hne
    obtain ⟨piece, hpiece, rfl⟩ := List.mem_map.mp hmem
    have hsub : ∀ c ∈ piece, c ∈ content ∧ c ≠ 0x7C := fun c hc ↦
      ⟨List.mem_of_mem_drop (Strings.of_mem_splitOn hpiece hc).1,
        (Strings.of_mem_splitOn hpiece hc).2⟩
    refine ⟨phrase_trim (fun c hc ↦ hclear c (hsub c hc).1) (fun hc ↦ hcomment (hsub _ hc).1) hne,
      fun hc ↦ ?_⟩
    exact (hsub _ ((Strings.strip_sublist OsDb.isBlank piece).subset hc)).2 rfl
  rw [classLine, hpieces] at hp
  split_ifs at hp with hclass
  · exact absurd hp fail_ne_ok
  split at hp
  · rename_i vendor osFamily osGeneration deviceType hvalues
    split_ifs at hp with hempty
    · exact absurd hp fail_ne_ok
    obtain rfl := Except.ok.inj hp
    simp only [Bool.or_eq_true, decide_eq_true_eq, not_or] at hempty
    obtain ⟨⟨⟨hvendor, hfamily⟩, hgeneration⟩, hdevice⟩ := hempty
    rw [hvalues] at hpart
    rw [OsDb.classLine, hvalues] at hs
    split_ifs at hs
    obtain rfl := Option.some.inj hs
    refine ⟨rfl, { h with classParts := ?_ }, rfl, rfl⟩
    intro parts hparts
    obtain rfl := Option.some.inj hparts
    simp only [List.forall_mem_cons] at hpart
    exact List.forall_mem_cons.mpr ⟨hpart.1 hvendor, List.forall_mem_cons.mpr ⟨hpart.2.1 hfamily,
      List.forall_mem_cons.mpr ⟨hpart.2.2.1 hgeneration,
        List.forall_mem_singleton.mpr (hpart.2.2.2.1 hdevice)⟩⟩⟩
  · exact absurd hp fail_ne_ok

/-! ### Fields -/

theorem digits_self (hne : text ≠ []) (h : ∀ c ∈ text, isDigit c = true) :
    digits text = some text := by
  induction text with
  | nil => exact absurd rfl hne
  | cons c text ih =>
    obtain ⟨hc, htext⟩ := List.forall_mem_cons.mp h
    rcases text with _ | ⟨d, text⟩
    · exact if_pos hc
    · have hd : d ≠ 0x5F := by
        rintro rfl
        exact absurd (htext _ List.mem_cons_self) (by decide)
      rw [digits, if_pos hc, ih (List.cons_ne_nil d text) htext, Option.map_some]
      · exact fun hnil ↦ List.cons_ne_nil d text hnil
      · exact fun rest heq ↦ hd (List.cons.inj heq).1

/-- A digit is no sign. -/
theorem signed_digits (h : ∀ c ∈ text, isDigit c = true) : signed text = (false, text) := by
  rcases text with _ | ⟨c, text⟩
  · rfl
  · have hc := h c List.mem_cons_self
    rw [signed]
    · rintro number heq
      exact absurd ((List.cons.inj heq).1 ▸ hc) (by decide)
    · rintro number heq
      exact absurd ((List.cons.inj heq).1 ▸ hc) (by decide)

/-- **A positive number of the one reader** is the number of the other, if it is one. -/
theorem int_eq (h : Phrase text) (hclear : Clear text) {n m : ℤ} (hp : int text = some n)
    (hs : OsDb.parseInteger text = some m) (hpos : 0 < m) : n = m := by
  obtain ⟨hdigits, hnumber⟩ := OsDb.digits_of_parseInteger h hs hpos
  have hstrip : strip text = text := hclear.strip_eq.trans h.trim
  rw [int, hstrip] at hp
  rw [signed_digits hdigits] at hp
  dsimp only at hp
  rw [digits_self h.ne hdigits] at hp
  obtain ⟨digits, hfilter, hn⟩ := Option.map_eq_some_iff.mp hp
  obtain ⟨hsame, -⟩ := Option.filter_eq_some_iff.mp hfilter
  obtain rfl := Option.some.inj hsame
  rw [← hn, ← hnumber]
  rfl

/-- **A field is read alike.** What is a feature to the one reader is a signature to the other. -/
theorem featureLine_agree {raw' : RawRecord} {next : OSFingerprint} {key value : Text}
    {nativeIds nativeIds' : List Text} {metadata metadata' : Bool} (h : raw.Readable)
    (hvalue : Phrase value) (hclear : Clear value)
    (hlength : (Written.fieldText (key, value)).length ≤ OsDb.maximumLineBytes)
    (hknown : family = .ipv4 ∨ family = .ipv6)
    (hp : featureLine path addressFamily lineNumber nativeIds raw key value =
      .ok (raw', nativeIds'))
    (hs : OsDb.fieldLine family metadata (raw.opened family) key value = some (next, metadata')) :
    next = raw'.opened family ∧ raw'.Readable ∧ raw'.classParts = raw.classParts ∧
      raw'.order = raw.order := by
  rw [featureLine] at hp
  rw [OsDb.fieldLine] at hs
  by_cases hid : key = literal "ID"
  · rw [if_pos hid] at hp hs
    split_ifs at hp with hagain hempty hused
    · exact absurd hp fail_ne_ok
    · exact absurd hp fail_ne_ok
    · exact absurd hp fail_ne_ok
    obtain ⟨rfl, -⟩ := Prod.mk.inj (Except.ok.inj hp)
    split_ifs at hs with hbad
    obtain ⟨rfl, -⟩ := Prod.mk.inj (Option.some.inj hs)
    rw [Bool.or_eq_true, decide_eq_true_eq, not_or, not_lt] at hbad
    refine ⟨rfl, { h with nativeId := ?_ }, rfl, rfl⟩
    intro nativeId hnative
    obtain rfl := Option.some.inj hnative
    exact ⟨hvalue, hbad.1⟩
  rw [if_neg hid] at hp hs
  by_cases hspecificity : key = literal "SPECIFICITY"
  · rw [if_pos hspecificity] at hp hs
    split_ifs at hp with hagain
    · exact absurd hp fail_ne_ok
    split at hp
    · exact absurd hp fail_ne_ok
    rename_i n hn
    split_ifs at hp with hnegative
    · exact absurd hp fail_ne_ok
    obtain ⟨rfl, -⟩ := Prod.mk.inj (Except.ok.inj hp)
    split at hs
    · exact nomatch hs
    rename_i m hm
    obtain ⟨hread, hbounds⟩ := Option.filter_eq_some_iff.mp hm
    rw [Bool.and_eq_true, decide_eq_true_eq, decide_eq_true_eq] at hbounds
    obtain rfl := int_eq hvalue hclear hn hread hbounds.1
    obtain ⟨rfl, -⟩ := Prod.mk.inj (Option.some.inj hs)
    refine ⟨rfl, { h with specificity := ?_ }, rfl, rfl⟩
    intro k hk
    obtain rfl := Option.some.inj hk
    exact hbounds
  rw [if_neg hspecificity] at hp hs
  by_cases hfamily : key = literal "ADDRESS_FAMILY"
  · rw [if_pos hfamily] at hp hs
    -- neither reader changes anything
    have hraw : raw' = raw := by
      rcases hdeclared : normalizedFamily path value lineNumber with error | declared
      · rw [hdeclared] at hp
        exact nomatch hp
      · rw [hdeclared] at hp
        dsimp only [bind, Except.bind] at hp
        split_ifs at hp
        · exact absurd hp fail_ne_ok
        · exact (Prod.mk.inj (Except.ok.inj hp)).1.symm
    subst hraw
    split at hs
    · exact nomatch hs
    split_ifs at hs with hbad
    obtain ⟨rfl, -⟩ := Prod.mk.inj (Option.some.inj hs)
    rename_i declared _
    have hsame : declared = family := by
      rw [Bool.not_eq_true, Bool.or_eq_false_iff] at hbad
      rcases hknown with rfl | rfl <;> simpa using hbad.2
    exact ⟨hsame ▸ rfl, h, rfl, rfl⟩
  rw [if_neg hfamily] at hp hs
  split_ifs at hp with hfeature hseen
  · exact absurd hp fail_ne_ok
  · exact absurd hp fail_ne_ok
  obtain ⟨rfl, -⟩ := Prod.mk.inj (Except.ok.inj hp)
  rw [Bool.not_eq_true, Bool.not_eq_false'] at hfeature
  split at hs
  · exact nomatch hs
  rename_i added hadded
  split_ifs at hs with hbad
  obtain ⟨rfl, -⟩ := Prod.mk.inj (Option.some.inj hs)
  simp only [Bool.or_eq_true, decide_eq_true_eq, not_or, not_lt] at hbad
  refine ⟨?_, { h with features := ?_, keys := ?_ }, rfl, rfl⟩
  · have hone : [(key, value)].filterMap (fun (key, value) ↦ OsDb.signature key value) = [added] :=
      List.filterMap_cons_some hadded
    rw [RawRecord.opened, RawRecord.opened, List.filterMap_append, hone]
  · rw [List.forall_mem_append]
    refine ⟨h.features, List.forall_mem_singleton.mpr ⟨hfeature, ?_⟩⟩
    exact ⟨isKey_of_isFeature hfeature, by simp [hid, hspecificity, hfamily], hvalue, hlength,
      added, hadded, hbad.1.1.2, hbad.1.2⟩
  · rw [List.map_append, List.map_singleton, ← List.concat_eq_append, List.nodup_concat]
    exact ⟨hseen, h.keys⟩

/-! ### All lines -/

/-- **A line is read alike.** -/
theorem Agree.step {rawLine : Text} (h : Agree family p s) (hclear : Clear rawLine)
    (hknown : family = .ipv4 ∨ family = .ipv6)
    (hp : parseLine path addressFamily p (rawLine, lineNumber) = .ok p')
    (hs : OsDb.osLine family s rawLine = some s') : Agree family p' s' := by
  have hcontent : Clear (content rawLine) := hclear.sublist (content_sublist rawLine)
  have hcomment := comment_notMem_content rawLine
  rw [parseLine] at hp
  rw [OsDb.osLine, ← hclear.content_eq] at hs
  dsimp only at hp hs
  by_cases hlong : OsDb.maximumLineBytes < rawLine.length
  · rw [if_pos hlong] at hs
    cases hs
  rw [if_neg hlong] at hs
  by_cases hblank : content rawLine = []
  · rw [if_pos hblank] at hp hs
    obtain rfl := Except.ok.inj hp
    obtain rfl := Option.some.inj hs
    exact h
  rw [if_neg hblank] at hp hs
  by_cases hheader : (literal "Fingerprint ").isPrefixOf (content rawLine) = true
  · rw [if_pos hheader] at hp hs
    exact h.fingerprintLine hcontent hheader hknown hp hs
  rw [if_neg hheader] at hp hs
  have hcurrent := h.current
  rcases hraw : p.current with _ | raw
  · rw [hraw] at hp
    exact absurd hp fail_ne_ok
  obtain ⟨hreadable, horder⟩ := h.readable raw hraw
  rw [hraw] at hp hcurrent
  rw [hcurrent] at hs
  dsimp only [Option.map_some] at hp hs
  -- what both readers make of the fingerprint that is open is all that changes
  have hagree : ∀ {raw' : RawRecord} {next : OSFingerprint} {hasClass metadata : Bool}
      {nativeIds : List Text}, next = raw'.opened family → raw'.Readable →
      hasClass = raw'.classParts.isSome → raw'.order = raw.order →
      Agree family { p with current := some raw', nativeIds }
        { s with current := some next, hasClass, hasFamilyMetadata := metadata } :=
    fun hnext hreadable hclass hsame ↦
      { fingerprints := h.fingerprints
        closed := h.closed
        orders := h.orders
        current := congrArg some hnext
        hasClass := hclass
        readable := fun _ hmem ↦ Option.some.inj hmem ▸ ⟨hreadable, hsame.trans horder⟩ }
  by_cases hclass : (literal "Class ").isPrefixOf (content rawLine) = true
  · rw [if_pos hclass] at hp hs
    rcases hread : classLine path lineNumber raw (content rawLine) with error | raw'
    · rw [hread] at hp
      cases hp
    rw [hread] at hp
    obtain rfl := Except.ok.inj hp
    split_ifs at hs with hagain
    obtain ⟨next, hnext, rfl⟩ := Option.map_eq_some_iff.mp hs
    obtain ⟨hopened, hreadable', hparts, hsame⟩ :=
      classLine_agree hreadable hcontent hcomment hread hnext
    exact hagree hopened hreadable' hparts.symm hsame
  rw [if_neg hclass] at hp hs
  have hsplit := List.takeWhile_append_dropWhile (p := (· ≠ (0x3D : UInt8))) (l := content rawLine)
  rw [Strings.partition] at hp
  rw [List.span_eq_takeWhile_dropWhile] at hp hs
  generalize (content rawLine).takeWhile (· ≠ 0x3D) = key at hp hs hsplit
  generalize (content rawLine).dropWhile (· ≠ 0x3D) = back at hp hs hsplit
  rcases back with _ | ⟨equals, value⟩
  · cases hs
  rcases key with _ | ⟨first, key⟩
  · cases hs
  rcases value with _ | ⟨second, value⟩
  · exact absurd hp fail_ne_ok
  dsimp only at hp hs
  have hkeys : (first :: key).Sublist (content rawLine) := by
    rw [← hsplit]
    exact List.sublist_append_left _ _
  have hvalues : (second :: value).Sublist (content rawLine) := by
    rw [← hsplit]
    exact (List.sublist_cons_self _ _).trans (List.sublist_append_right _ _)
  rw [(hcontent.sublist hkeys).strip_eq, (hcontent.sublist hvalues).strip_eq] at hp
  split_ifs at hs with hempty
  rw [Bool.or_eq_true, decide_eq_true_eq, decide_eq_true_eq, not_or] at hempty
  obtain ⟨⟨next, metadata⟩, hnext, rfl⟩ := Option.map_eq_some_iff.mp hs
  rcases hread : featureLine path addressFamily lineNumber p.nativeIds raw
    (OsDb.trim (first :: key)) (OsDb.trim (second :: value)) with error | ⟨raw', nativeIds⟩
  · rw [hread] at hp
    cases hp
  rw [hread] at hp
  obtain rfl := Except.ok.inj hp
  have hphrase := phrase_trim (hcontent.sublist hvalues) (fun hmem ↦ hcomment (hvalues.subset hmem))
    hempty.2
  have hlength :
      (Written.fieldText (OsDb.trim (first :: key), OsDb.trim (second :: value))).length ≤
        OsDb.maximumLineBytes := by
    have hkey := (Strings.strip_sublist OsDb.isBlank (first :: key)).length_le
    have hvalue := (Strings.strip_sublist OsDb.isBlank (second :: value)).length_le
    have hline := (content_sublist rawLine).length_le
    rw [← hsplit, List.length_append, List.length_cons (a := equals)] at hline
    rw [Written.fieldText, List.length_append, List.length_cons]
    rw [← OsDb.trim_eq_strip] at hkey hvalue
    dsimp only
    omega
  obtain ⟨hopened, hreadable', hparts, hsame⟩ := featureLine_agree hreadable hphrase
    ((hcontent.sublist hvalues).sublist (Strings.strip_sublist OsDb.isBlank _)) hlength hknown hread
    hnext
  refine hagree hopened hreadable' ?_ hsame
  rw [hparts, h.hasClass, hraw]
  rfl

/-- **All lines are read alike.** -/
theorem agree_of_read (hallowed : Allowed text) (hknown : family = .ipv4 ∨ family = .ipv6)
    (hp : ((splitLines text).zipIdx 1).foldlM (parseLine path addressFamily) {} = .ok p)
    (hs : (Detect.ServiceDb.lines text).foldlM (OsDb.osLine family) {} = some s) :
    Agree family p s := by
  have hlines := hallowed.splitLines_eq
  have hnumbered : ((splitLines text).zipIdx 1).foldlM
      (fun s numbered ↦ OsDb.osLine family s numbered.1) {} = some s := by
    rw [← List.foldlM_map, List.zipIdx_map_fst, hlines]
    exact hs
  refine Reading.foldlM_related (R := fun s p ↦ Agree family p s) ?_ (agree_start family) hnumbered
    hp
  intro numbered hmem _ _ _ _ h hs hp
  have hline : numbered.1 ∈ Detect.ServiceDb.lines text := hlines ▸ List.fst_mem_of_mem_zipIdx hmem
  exact h.step (hallowed.clear _ hline) hknown hp hs

end Skan.Corpus.RuntimeOsDb

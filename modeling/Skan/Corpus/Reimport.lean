import Skan.Corpus.EmittedValues
import Skan.Corpus.GraphFacts

/-!
# Records of imported bodies

`_record` makes a canonical record of a body that was read: the identity is that of the body, and
the provenance passes the checks against the manifest (`record_ok`). It fails only where the body is
refused (`record_eq_error`). -/

namespace Skan.Corpus

/-! ### Texts -/

section

variable {py : Platform} {text : Str}

theorem isControl_of_isPrintable {c : Char} (h : IsPrintable c) : isControl c = false := by
  obtain ⟨hlow, hhigh⟩ := h
  simp only [isControl, Bool.or_eq_false_iff, Bool.and_eq_false_iff, decide_eq_false_iff_not]
  omega

theorem isAscii_of_isPrintable (h : ∀ c ∈ text, IsPrintable c) : IsAscii text :=
  fun c hc ↦ (h c hc).2.trans (by decide)

theorem length_encode_of_isAscii (h : IsAscii text) : (Utf8.encode text).length = text.length := by
  rw [Utf8.encode_ascii h, List.length_map]

/-- A printable text is one that a record may hold. -/
theorem isText_of_isPrintable (hpy : py.Lawful) (h : ∀ c ∈ text, IsPrintable c) {maximumBytes : ℕ}
    (hlength : text.length ≤ maximumBytes) (hne : text ≠ []) (allowEmpty : Bool) :
    IsText py text maximumBytes allowEmpty where
  nonempty _ := hne
  normal := hpy.nfc_ascii text (isAscii_of_isPrintable h)
  noControl c hc := isControl_of_isPrintable (h c hc)
  bounded := (length_encode_of_isAscii (isAscii_of_isPrintable h)).trans_le hlength

/-- So is one behind a printable text and a colon. -/
theorem isText_of_colon (hpy : py.Lawful) {front back : Str} (hfront : ∀ c ∈ front, IsPrintable c)
    {m n : ℕ} (hback : IsText py back m false) (hlength : front.length + 1 + m ≤ n) :
    IsText py (front ++ ':' :: back) n false where
  nonempty _ := by simp
  normal := hpy.nfc_colon front back (isAscii_of_isPrintable hfront) hback.normal
  noControl c hc := by
    rcases List.mem_append.mp hc with hc | hc
    · exact isControl_of_isPrintable (hfront c hc)
    · rcases List.mem_cons.mp hc with rfl | hc
      · decide
      · exact hback.noControl c hc
  bounded := by
    have hcolon : (String.utf8EncodeChar ':').length = 1 := by decide
    have hbounded := hback.bounded
    rw [Utf8.encode_append, Utf8.encode_cons, List.length_append, List.length_append, hcolon,
      length_encode_of_isAscii (isAscii_of_isPrintable hfront)]
    omega

instance (c : Char) : Decidable (IsPrintable c) :=
  inferInstanceAs (Decidable (0x20 ≤ c.toNat ∧ c.toNat ≤ 0x7E))

/-! ### Digests -/

theorem mem_hexdigest {value : Bytes} {c : Char} (h : c ∈ hexdigest py value) :
    c ∈ Strings.lowerHexDigits := by
  obtain ⟨digit, -, rfl⟩ := List.mem_map.mp h
  exact Strings.digitChar_mem _ digit.isLt

theorem length_hexdigest (value : Bytes) : (hexdigest py value).length = 64 := by
  rw [hexdigest, List.length_map, Vector.length_toList]

theorem isLowerHex_hexdigest (value : Bytes) : isLowerHex (hexdigest py value) :=
  List.all_eq_true.mpr fun _ hc ↦ decide_eq_true (mem_hexdigest hc)

theorem isPrintable_of_mem_lowerHexDigits : ∀ c ∈ Strings.lowerHexDigits, IsPrintable c := by decide

theorem isSha256_hexdigest (value : Bytes) : isSha256 ("sha256:".toList ++ hexdigest py value) := by
  have hdrop : ("sha256:".toList ++ hexdigest py value).drop 7 = hexdigest py value :=
    List.drop_left' rfl
  rw [isSha256, hdrop, length_hexdigest, isLowerHex_hexdigest, decide_eq_true rfl, Bool.and_true,
    Bool.and_true]
  exact List.isPrefixOf_iff_prefix.mpr (List.prefix_append _ _)

theorem isRecordId_stableRecordId (body : RecordBody) : isRecordId (stableRecordId py body) := by
  have hdrop : (stableRecordId py body).drop 11 = hexdigest py (py.jsonDumps body) :=
    List.drop_left' rfl
  rw [isRecordId, hdrop, length_hexdigest, isLowerHex_hexdigest, decide_eq_true rfl, Bool.and_true,
    Bool.and_true]
  exact List.isPrefixOf_iff_prefix.mpr (List.prefix_append _ _)

end

/-! ### Records -/

/-- What the four contexts of the compiler have in common. -/
structure ImportContext.Known (context : ImportContext) : Prop where
  source : context.source = skanFirstParty
  path : ∀ c ∈ context.sourcePath, IsPrintable c
  length : context.sourcePath.length ≤ 32

theorem known_serviceContext : serviceContext.Known := ⟨rfl, by decide, by decide⟩

theorem known_udpContext : udpContext.Known := ⟨rfl, by decide, by decide⟩

theorem known_osContext : ∀ family, (osContext family).Known
  | .ipv4 => ⟨rfl, by decide, by decide⟩
  | .ipv6 => ⟨rfl, by decide, by decide⟩

variable {py : Platform} {context : ImportContext} {body : RecordBody} {sourceRecordId : Str}
  {material : Bytes}

/-- The provenance that `_record` writes is the one that the manifest asks for. -/
theorem parseProvenance_recordValue (hpy : py.Lawful) (hcontext : context.Known)
    (hid : IsText py sourceRecordId 256 false) (index : ℕ) :
    ∀ item ∈ (recordValue py body sourceRecordId material context
      (stableRecordId py body)).provenance,
      parseProvenance py item index body.kind context.sources = .ok item := by
  have hsourceId : IsText py skanFirstParty.id 64 false :=
    isText_of_isPrintable hpy (by decide) (by decide) (by decide) _
  have hrevision : IsText py skanFirstParty.pinnedRevision 256 false :=
    isText_of_isPrintable hpy (by decide) (by decide) (by decide) _
  have hurl : IsText py skanFirstParty.sourceUrl generalTextBytes false :=
    isText_of_isPrintable hpy (by decide) (by decide) (by decide) _
  have hlicense : IsText py skanFirstParty.licenseSpdxOrPolicy 128 false :=
    isText_of_isPrintable hpy (by decide) (by decide) (by decide) _
  have hhash : IsText py ("sha256:".toList ++ hexdigest py material) 71 false := by
    refine isText_of_isPrintable hpy (fun c hc ↦ ?_) ?_ (by simp) _
    · rcases List.mem_append.mp hc with hc | hc
      · exact (by decide : ∀ c ∈ "sha256:".toList, IsPrintable c) c hc
      · exact isPrintable_of_mem_lowerHexDigits c (mem_hexdigest hc)
    · rw [List.length_append, length_hexdigest]
      decide
  have hkind : ((body.kind ∈ skanFirstParty.approvedDataClasses &&
      body.kind ∉ skanFirstParty.blockedDataClasses) : Bool) = true := by
    cases body <;> rfl
  intro item hitem
  rw [recordValue, hcontext.source, List.mem_singleton] at hitem
  subst hitem
  have hpolicy : context.sources skanFirstParty.id = some skanFirstParty := by
    rw [ImportContext.sources, hcontext.source, if_pos rfl]
  rw [parseProvenance]
  refine bind_eq_ok.mpr ⟨_, checkedText_self hsourceId, ?_⟩
  refine bind_eq_ok.mpr ⟨skanFirstParty, by rw [policyOf, hpolicy], ?_⟩
  refine bind_eq_ok.mpr ⟨(), rfl, ?_⟩
  refine bind_eq_ok.mpr ⟨(), require_eq_ok.mpr hkind, ?_⟩
  refine bind_eq_ok.mpr ⟨_, checkedText_self hrevision, ?_⟩
  refine bind_eq_ok.mpr ⟨(), require_eq_ok.mpr (decide_eq_true rfl), ?_⟩
  refine bind_eq_ok.mpr ⟨_, checkedText_self hurl, ?_⟩
  refine bind_eq_ok.mpr ⟨(), require_eq_ok.mpr (decide_eq_true rfl), ?_⟩
  refine bind_eq_ok.mpr ⟨_, checkedText_self hlicense, ?_⟩
  refine bind_eq_ok.mpr ⟨(), require_eq_ok.mpr (decide_eq_true rfl), ?_⟩
  refine bind_eq_ok.mpr ⟨none, rfl, ?_⟩
  refine bind_eq_ok.mpr ⟨(), rfl, ?_⟩
  refine bind_eq_ok.mpr ⟨_, checkedText_self hhash, ?_⟩
  refine bind_eq_ok.mpr ⟨(), require_eq_ok.mpr (isSha256_hexdigest material), ?_⟩
  exact bind_eq_ok.mpr ⟨_, checkedText_self hid, rfl⟩

theorem immutableRevision_pinned (hpy : py.Lawful) (key context : String) :
    immutableRevision py skanFirstParty.pinnedRevision key context =
      .ok skanFirstParty.pinnedRevision := by
  refine bind_eq_ok.mpr ⟨_, checkedText_self
    (isText_of_isPrintable hpy (by decide) (by decide) (by decide) _), ?_⟩
  exact bind_eq_ok.mpr ⟨(), require_eq_ok.mpr (by decide), rfl⟩

/-- A list that is checked entry by entry, with no check failing. -/
theorem mapM_zipIdx_self {ε α : Type} {f : α × ℕ → Except ε α} {l : List α}
    (h : ∀ x ∈ l, ∀ i, f (x, i) = .ok x) {k : ℕ} : (l.zipIdx k).mapM f = .ok l := by
  induction l generalizing k with
  | nil => rfl
  | cons x l ih =>
    rw [List.zipIdx_cons, List.mapM_cons]
    refine bind_eq_ok.mpr ⟨x, h x List.mem_cons_self k, ?_⟩
    exact bind_eq_ok.mpr ⟨l, ih fun y hy ↦ h y (List.mem_cons_of_mem x hy), rfl⟩

/-- What is compared of a record: its identity and its body. -/
def CanonicalRecord.semantics (record : CanonicalRecord) :
    Str × RecordBody := (record.id, record.body)

/-- What every record of a body has. -/
def semanticsOf (py : Platform) (body : RecordBody) :
    Str × RecordBody := (stableRecordId py body, body)

/-- **A body** in canonical form is made a record. -/
theorem record_ok (hpy : py.Lawful) (hcontext : context.Known)
    (hbody : parseBody py body = .ok body)
    (hid : IsText py sourceRecordId 256 false) :
    ∃ value, record py body sourceRecordId material context = .ok value ∧
      value.semantics = semanticsOf py body := by
  refine ⟨recordValue py body sourceRecordId material context (stableRecordId py body), ?_, rfl⟩
  have hnotes : IsText py ("Imported from ".toList ++ context.sourcePath ++ ['.']) generalTextBytes
      true := by
    refine isText_of_isPrintable hpy ?_ ?_ (by simp) _
    · simp only [List.forall_mem_append, List.forall_mem_singleton]
      exact ⟨⟨by decide, hcontext.path⟩, by decide⟩
    · have hlength := hcontext.length
      have hfront : ("Imported from ".toList).length = 14 := by decide
      simp only [List.length_append, List.length_singleton, generalTextBytes, hfront]
      omega
  have hprovenance : ((recordValue py body sourceRecordId material context
      (stableRecordId py body)).provenance.zipIdx.mapM fun item ↦
        parseProvenance py item.1 item.2 body.kind context.sources) =
          .ok (recordValue py body sourceRecordId material context
            (stableRecordId py body)).provenance :=
    mapM_zipIdx_self fun item hitem index ↦ parseProvenance_recordValue hpy hcontext hid index item
      hitem
  set value := recordValue py body sourceRecordId material context (stableRecordId py body) with
    hvalue
  have hrecordId : isRecordId value.id := isRecordId_stableRecordId body
  have hne : value.id ≠ [] := fun hnil ↦ absurd (hnil ▸ hrecordId) (by decide)
  have hrevision : ∀ key, immutableRevision py value.firstImportedRevision key "record" =
      .ok value.firstImportedRevision := by
    rw [hvalue, recordValue, hcontext.source]
    exact fun key ↦ immutableRevision_pinned hpy key _
  have hparsed : parseRecord py value context.sources = .ok value := by
    rw [parseRecord]
    refine bind_eq_ok.mpr ⟨(), rfl, ?_⟩
    refine bind_eq_ok.mpr ⟨(), require_eq_ok.mpr (by simpa using hne), ?_⟩
    refine bind_eq_ok.mpr ⟨(), require_eq_ok.mpr hrecordId, ?_⟩
    refine bind_eq_ok.mpr ⟨body, hbody, ?_⟩
    refine bind_eq_ok.mpr ⟨(), rfl, ?_⟩
    refine bind_eq_ok.mpr ⟨_, hprovenance, ?_⟩
    refine bind_eq_ok.mpr ⟨(), require_eq_ok.mpr (by simp [hvalue, recordValue]), ?_⟩
    refine bind_eq_ok.mpr ⟨_, hrevision _, ?_⟩
    refine bind_eq_ok.mpr ⟨_, hrevision _, ?_⟩
    refine bind_eq_ok.mpr ⟨_, checkedText_self hnotes, ?_⟩
    exact bind_eq_ok.mpr ⟨(), require_eq_ok.mpr (decide_eq_true rfl), rfl⟩
  rw [record, parsedRecord, bind_eq_ok.mpr ⟨body, hbody, hparsed⟩]

/-- A body that is refused is made none. -/
theorem record_ne_ok (hbody : ∀ parsed, parseBody py body ≠ .ok parsed) (value : CanonicalRecord) :
    record py body sourceRecordId material context ≠ .ok value := by
  rw [record, parsedRecord]
  cases hparsed : parseBody py body with
  | error error => simp [raise, bind, Except.bind]
  | ok parsed => exact absurd hparsed (hbody parsed)

end Skan.Corpus

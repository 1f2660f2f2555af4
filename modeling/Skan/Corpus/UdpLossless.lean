import Skan.Corpus.Reimport

/-!
# The UDP database is imported again

The line of a probe holds six words without quotes. `UdpRead` says what the importer has read after
some of the probes, and `udpLine_probe` that the line of one more probe keeps it; the two lines of
the header are comments. `compileLegacyUdp_ok` is the loop of the emitter, which has the checks of
the graph once more. -/

namespace Skan.Corpus

open Utf8

variable {py : Platform} {records : List CanonicalRecord} {body : UDPProbeSemantics}

/-! ### Words between spaces -/

theorem splitOnP_plain {bytes rest : Bytes} (h : ∀ b ∈ bytes, isSpaceByte b = false) :
    (bytes ++ 0x20 :: rest).splitOnP isSpaceByte = bytes :: rest.splitOnP isSpaceByte :=
  List.splitOnP_append_cons_of_forall_mem h 0x20 (by decide) rest

/-- **Words between single spaces** are found again. -/
theorem splitSpaces_join {words : List Str} (hne : ∀ word ∈ words, word ≠ [])
    (h : ∀ word ∈ words, ∀ c ∈ word, isPlain c) :
    splitSpaces (encode (join [' '] words)) = words.map encode := by
  have hspace : ∀ word ∈ words, ∀ b ∈ encode word, isSpaceByte b = false :=
    fun word hword b hb ↦
    (of_isPlainByte (encode_plain (h word hword) b hb)).2.2.2
  induction words with
  | nil => rfl
  | cons word words ih =>
    have hword : encode word ≠ [] := encode_ne_nil (hne word List.mem_cons_self)
    replace ih := ih (fun v hv ↦ hne v (List.mem_cons_of_mem word hv))
      (fun v hv ↦ h v (List.mem_cons_of_mem word hv)) fun v hv ↦
        hspace v (List.mem_cons_of_mem word hv)
    cases words with
    | nil =>
      rw [join, List.intercalate_singleton, splitSpaces,
        List.splitOnP_eq_singleton (hspace word List.mem_cons_self)]
      simp [hword]
    | cons next words =>
      have hencoded : encode (join [' '] (word :: next :: words)) =
          encode word ++ 0x20 :: encode (join [' '] (next :: words)) := by
        rw [join_cons_cons, encode_append, encode_append]
        rfl
      rw [splitSpaces] at ih ⊢
      rw [hencoded, splitOnP_plain (hspace word List.mem_cons_self), List.filter_cons,
        if_pos (by simpa using hword), ih, List.map_cons (a := word)]

/-! ### The line of a probe -/

/-- The words of a probe. -/
def udpWords (body : UDPProbeSemantics) : List Str :=
  ["probe".toList, body.name, decimal body.destinationPort, body.protocolHint,
    decimal body.maxResponseBytes, body.payloadHex]

theorem udpProbeLine_eq : udpProbeLine body = join [' '] (udpWords body) := by
  have hprobe : "probe ".toList = "probe".toList ++ [' '] := by decide
  unfold udpProbeLine udpWords
  simp only [hprobe, join_cons_cons, List.append_assoc]
  simp only [join, List.intercalate_singleton]

theorem isWordChar_of_isRuntimeToken {token : Str} (h : isRuntimeToken token) :
    token ≠ [] ∧ ∀ c ∈ token, isWordChar c := by
  cases token with
  | nil => exact absurd h (by decide)
  | cons c cs =>
    simp only [isRuntimeToken, Bool.and_eq_true, List.all_eq_true] at h
    refine ⟨List.cons_ne_nil _ _, List.forall_mem_cons.mpr ⟨?_, fun d hd ↦
      isWordChar_of_isRuntimeTokenChar (h.2 d hd)⟩⟩
    simp [isWordChar, h.1.1]

theorem isWordChar_of_mem_lowerHexDigits : ∀ c ∈ Strings.lowerHexDigits, isWordChar c := by decide

theorem udpWords_plain (h : UdpFacts body) :
    ∀ word ∈ udpWords body, word ≠ [] ∧ ∀ c ∈ word, isWordChar c := by
  rw [udpWords]
  simp only [List.forall_mem_cons]
  exact ⟨⟨by decide, by decide⟩, isWordChar_of_isRuntimeToken h.name,
    ⟨Nat.toDigits_ne_nil, fun c ↦ isWordChar_of_mem_decimal⟩, isWordChar_of_isRuntimeToken
      h.protocolHint,
    ⟨Nat.toDigits_ne_nil, fun c ↦ isWordChar_of_mem_decimal⟩,
    ⟨h.payloadHex.nonempty rfl, fun c hc ↦ isWordChar_of_mem_lowerHexDigits c
      (h.payloadHex.digits c hc)⟩,
    by simp⟩

/-- **A payload** in hexadecimal is read back. -/
theorem udpHex_encode {hex : Str} (h : IsHex hex udpPayloadBytes false) (n : ℕ) :
    udpHex (encode hex) n = .ok hex := by
  have hascii : ∀ c ∈ hex, c.toNat ≤ 0x7F := fun c hc ↦
    Strings.le_of_mem_lowerHexDigits c (h.digits c hc)
  have hlength : (encode hex).length = hex.length := length_encode_of_isAscii hascii
  have hvalue : ∀ c ∈ Strings.lowerHexDigits, (Strings.hexValue c).isSome ∧
    c.toLower = c := by decide
  rw [udpHex]
  refine bind_eq_ok.mpr ⟨(), demand_of ?_ _, ?_⟩
  · rw [hlength]
    simpa [encode_ne_nil (h.nonempty rfl)] using h.even
  refine bind_eq_ok.mpr ⟨(), demand_of ?_ _, ?_⟩
  · rw [encode_ascii hascii, List.all_map, List.all_eq_true]
    intro c hc
    rw [Function.comp_apply, Strings.chr_ofNat (hascii c hc)]
    exact (hvalue c (h.digits c hc)).1
  refine bind_eq_ok.mpr ⟨(), demand_of ?_ _, ?_⟩
  · rw [hlength]
    exact decide_eq_true h.bounded
  rw [encode_ascii hascii, List.map_map]
  refine congrArg Except.ok ((List.map_congr_left fun c hc ↦ ?_).trans (List.map_id hex))
  rw [Function.comp_apply, Strings.chr_ofNat (hascii c hc)]
  exact (hvalue c (h.digits c hc)).2

/-- **The words of a probe** are read back. -/
theorem udpBody_words (h : UdpFacts body) (n : ℕ) :
    udpBody ((udpWords body).map encode) body.declarationOrder n = .ok body := by
  have hname := isAscii_of_isWordChar (isWordChar_of_isRuntimeToken h.name).2
  have hhint := isAscii_of_isWordChar (isWordChar_of_isRuntimeToken h.protocolHint).2
  rw [udpWords]
  simp only [List.map_cons, List.map_nil]
  rw [udpBody]
  refine bind_eq_ok.mpr ⟨(), demand_of (decide_eq_true rfl) _, ?_⟩
  refine bind_eq_ok.mpr ⟨body.name, asciiText_encode hname _, ?_⟩
  refine bind_eq_ok.mpr ⟨body.destinationPort, unsigned_decimal (Nat.zero_le _) h.destinationPort _,
    ?_⟩
  refine bind_eq_ok.mpr ⟨body.protocolHint, asciiText_encode hhint _, ?_⟩
  refine bind_eq_ok.mpr ⟨body.maxResponseBytes,
    unsigned_decimal h.maxResponseBytes.1 h.maxResponseBytes.2 _, ?_⟩
  exact bind_eq_ok.mpr ⟨body.payloadHex, udpHex_encode h.payloadHex n, rfl⟩

/-! ### One line -/

theorem head_udpProbeLine : (encode (udpProbeLine body)).head? = some 0x70 := by
  rw [udpProbeLine_eq, udpWords, join_cons_cons, encode_append]
  rfl

theorem wordsLine_plain (words : List Str) :
    wordsLine (words.map fun text ↦ { plain := text }) = join [' '] words := by
  rw [wordsLine, List.map_map]
  exact congrArg (join [' ']) ((List.map_congr_left fun text _ ↦ text_mk text).trans
    (List.map_id words))

theorem udpProbeLine_words : udpProbeLine body =
    wordsLine ((udpWords body).map fun text ↦ { plain := text }) :=
  udpProbeLine_eq.trans (wordsLine_plain _).symm

theorem proper_udpWords (h : UdpFacts body) :
    ∀ w ∈ (udpWords body).map fun text ↦ ({ plain := text } : Word), w.Proper :=
  List.forall_mem_map.mpr fun word hword ↦ proper_mk (udpWords_plain h word hword).1 fun c hc ↦
    isPlain_of_isWordChar ((udpWords_plain h word hword).2 c hc)

/-- What is read after these probes. -/
structure UdpRead (py : Platform) (done : List UDPProbeSemantics) (s : UdpImport) : Prop where
  bodies : s.records.map (·.semantics) = done.map fun body ↦ semanticsOf py (.udpProbe body)
  names : ∀ name, name ∈ s.names ↔ name ∈ done.map (·.name)
  ports : ∀ port, port ∈ s.ports ↔ port ∈ done.map (·.destinationPort)
  hasDefault : s.hasDefault = done.any (·.destinationPort = 0)

theorem UdpRead.length {done : List UDPProbeSemantics} {s : UdpImport} (h : UdpRead py done s) :
    s.records.length = done.length := by
  have hlength := congrArg List.length h.bodies
  rwa [List.length_map, List.length_map] at hlength

/-- **The line of a probe** adds its record. -/
theorem udpLine_probe (hpy : py.Lawful) (h : parseUdp py body = .ok body) {s : UdpImport}
    {done : List UDPProbeSemantics} (hread : UdpRead py done s)
    (hlength : (encode (udpProbeLine body)).length ≤ maxLineBytes)
    (horder : body.declarationOrder = done.length) (hcount : done.length < maxProbes)
    (hname : body.name ∉ done.map (·.name)) (hport : body.destinationPort ∉ done.map
    (·.destinationPort))
    (n : ℕ) :
    ∃ s', udpLine py udpContext s (encode (udpProbeLine body), n) = .ok s' ∧
      UdpRead py (done ++ [body]) s' := by
  have hfacts := udp_of_parse h
  have hstrip : Strings.strip isSpaceByte (encode (udpProbeLine body)) =
      encode (udpProbeLine body) := by
    rw [udpProbeLine_words]
    exact strip_wordsLine (proper_udpWords hfacts)
  have hcontent : ((encode (udpProbeLine body)).isEmpty ||
      (encode (udpProbeLine body)).head? = some 0x23 : Bool) = false := by
    have hhead := @head_udpProbeLine body
    cases hbytes : encode (udpProbeLine body) with
    | nil => exact absurd (hbytes ▸ hhead) (by simp)
    | cons b rest =>
      rw [hbytes, List.head?_cons, Option.some.injEq] at hhead
      simp [hhead]
  have hbody : udpBody (splitSpaces (encode (udpProbeLine body))) s.records.length n =
      .ok body := by
    rw [udpProbeLine_eq, splitSpaces_join (fun word hword ↦ (udpWords_plain hfacts word hword).1)
      fun word hword c hc ↦ isPlain_of_isWordChar ((udpWords_plain hfacts word hword).2 c hc),
      hread.length, ← horder]
    exact udpBody_words hfacts n
  have hid : IsText py (udpContext.sourcePath ++ ":probe:".toList ++ body.name) 256 false := by
    have hword := isWordChar_of_isRuntimeToken hfacts.name
    have hpath := known_udpContext.length
    have hnameLength : body.name.length ≤ 128 := by
      have htoken := hfacts.name
      cases hshape : body.name with
      | nil => exact absurd hshape hword.1
      | cons c cs =>
        rw [hshape, isRuntimeToken] at htoken
        simp only [Bool.and_eq_true, decide_eq_true_eq] at htoken
        exact Nat.succ_le_succ htoken.1.2
    refine isText_of_isPrintable hpy ?_ ?_ (List.append_ne_nil_of_right_ne_nil _ hword.1) _
    · simp only [List.forall_mem_append]
      exact ⟨⟨known_udpContext.path, by decide⟩, fun c hc ↦
        isPrintable_of_isPlain (isPlain_of_isWordChar (hword.2 c hc))⟩
    · have hlabel : (":probe:".toList).length = 7 := by decide
      simp only [List.length_append, hlabel]
      omega
  obtain ⟨value, hvalue, hvalueBody⟩ := @record_ok _ _ _ _ (encode (udpProbeLine body)) hpy
    known_udpContext (parseBody_udpProbe.mpr h) hid
  refine ⟨{
    records := s.records ++ [value]
    names := body.name :: s.names
    ports := body.destinationPort :: s.ports
    hasDefault := s.hasDefault || body.destinationPort = 0 }, ?_, ?_⟩
  · rw [udpLine]
    dsimp only
    refine bind_eq_ok.mpr ⟨(), demand_of (decide_eq_true hlength) _, ?_⟩
    rw [hstrip, hcontent, if_neg Bool.false_ne_true]
    refine bind_eq_ok.mpr ⟨body, hbody, ?_⟩
    refine bind_eq_ok.mpr ⟨(), demand_of (decide_eq_true ((hread.names _).not.mpr hname)) _, ?_⟩
    refine bind_eq_ok.mpr ⟨(), demand_of (decide_eq_true ((hread.ports _).not.mpr hport)) _, ?_⟩
    refine bind_eq_ok.mpr ⟨(), demand_of (decide_eq_true hfacts.default) _, ?_⟩
    refine bind_eq_ok.mpr ⟨(), demand_of (decide_eq_true (hread.length ▸ hcount)) _, ?_⟩
    exact bind_eq_ok.mpr ⟨value, hvalue, rfl⟩
  · refine ⟨?_, fun name ↦ ?_, fun port ↦ ?_, ?_⟩
    · rw [List.map_append, List.map_append, hread.bodies, List.map_singleton, List.map_singleton,
        hvalueBody]
    · simp [hread.names, or_comm]
    · simp [hread.ports, or_comm]
    · simp [hread.hasDefault]

/-- The lines of the header are comments. -/
theorem udpLine_header {line : Str} (hline : line ∈ udpHeader) (s : UdpImport) (n : ℕ) :
    udpLine py udpContext s (encode line, n) = .ok s := by
  have hcomment : ∀ line ∈ udpHeader, (encode line).length ≤ maxLineBytes ∧
      (Strings.strip isSpaceByte (encode line)).head? = some 0x23 := by decide
  obtain ⟨hlength, hhead⟩ := hcomment line hline
  rw [udpLine]
  dsimp only
  refine bind_eq_ok.mpr ⟨(), demand_of (decide_eq_true hlength) _, ?_⟩
  rw [hhead, decide_eq_true rfl, Bool.or_true, if_pos rfl]
  rfl

/-! ### Runs of lines -/

/-- **The lines of some probes** add their records. -/
theorem foldlM_udpProbeLine (hpy : py.Lawful) {bodies done : List UDPProbeSemantics} {s : UdpImport}
    (h : ∀ body ∈ bodies, parseUdp py body = .ok body)
    (hshort : ∀ body ∈ bodies, (encode (udpProbeLine body)).length ≤ maxLineBytes)
    (horders : bodies.map (·.declarationOrder) = List.range' done.length bodies.length)
    (hcount : done.length + bodies.length ≤ maxProbes)
    (hnames : ((done ++ bodies).map (·.name)).Nodup)
    (hports : ((done ++ bodies).map (·.destinationPort)).Nodup) (hread : UdpRead py done s)
    (k : ℕ) :
    ∃ s', (numbered (bodies.map udpProbeLine) k).foldlM (udpLine py udpContext) s = .ok s' ∧
      UdpRead py (done ++ bodies) s' := by
  induction bodies generalizing done s k with
  | nil => exact ⟨s, rfl, by rwa [List.append_nil]⟩
  | cons body bodies ih =>
    rw [List.map_cons, List.length_cons, List.range'_succ] at horders
    obtain ⟨horder, horders⟩ := List.cons.inj horders
    rw [List.length_cons] at hcount
    have hassoc : done ++ body :: bodies = (done ++ [body]) ++ bodies := by simp
    have hname : body.name ∉ done.map (·.name) := by
      rw [List.map_append, List.map_cons] at hnames
      exact fun hmem ↦ (List.nodup_append.mp hnames).2.2 _ hmem _ List.mem_cons_self rfl
    have hport : body.destinationPort ∉ done.map (·.destinationPort) := by
      rw [List.map_append, List.map_cons] at hports
      exact fun hmem ↦ (List.nodup_append.mp hports).2.2 _ hmem _ List.mem_cons_self rfl
    obtain ⟨s₁, hs₁, hread₁⟩ := udpLine_probe hpy (h body List.mem_cons_self) hread
      (hshort body List.mem_cons_self) horder (by omega) hname hport k
    obtain ⟨s₂, hs₂, hread₂⟩ := ih (fun b hb ↦ h b (List.mem_cons_of_mem body hb))
      (fun b hb ↦ hshort b (List.mem_cons_of_mem body hb)) (by simpa using horders)
      (by simp only [List.length_append, List.length_singleton]; omega) (hassoc ▸ hnames)
      (hassoc ▸ hports) hread₁ (k + 1)
    refine ⟨s₂, ?_, hassoc ▸ hread₂⟩
    rw [List.map_cons, numbered_cons, List.foldlM_cons]
    exact bind_eq_ok.mpr ⟨s₁, hs₁, hs₂⟩

theorem foldlM_udpHeader {lines : List Str} (h : ∀ line ∈ lines, line ∈ udpHeader) (s : UdpImport)
    (k : ℕ) : (numbered lines k).foldlM (udpLine py udpContext) s = .ok s := by
  induction lines generalizing k with
  | nil => rfl
  | cons line lines ih =>
    rw [numbered_cons, List.foldlM_cons]
    exact bind_eq_ok.mpr ⟨s, udpLine_header (h line List.mem_cons_self) s k,
      ih (fun l hl ↦ h l (List.mem_cons_of_mem line hl)) (k + 1)⟩

/-! ### The emitter -/

/-- The UDP probes in their order. -/
def orderedUdp (records : List CanonicalRecord) : List UDPProbeSemantics :=
  (udpProbes records).insertionSort fun a b ↦ a.declarationOrder ≤ b.declarationOrder

/-- The lines of the database. -/
def udpLines (records : List CanonicalRecord) : List Str :=
  udpHeader ++ (orderedUdp records).map udpProbeLine

theorem orderedUdp_perm : (orderedUdp records).Perm (udpProbes records) :=
    List.perm_insertionSort _ _

/-- The ports are distinct, the one of the default probe included. -/
theorem GraphFacts.udpPorts_nodup (h : GraphFacts py records) :
    ((udpProbes records).map (·.destinationPort)).Nodup := by
  refine List.Nodup.map_on (fun a ha b hb heq ↦ ?_) h.udpNames.of_map
  by_cases hzero : a.destinationPort = 0
  · have hname : ∀ body ∈ udpProbes records, body.destinationPort = 0 →
      body.name = defaultName := by
      intro body hbody hport
      have hmem : body.name ∈ ((udpProbes records).filter (·.destinationPort = 0)).map (·.name) :=
        List.mem_map_of_mem (List.mem_filter.mpr ⟨hbody, decide_eq_true hport⟩)
      rwa [h.udpDefault, List.mem_singleton] at hmem
    exact List.inj_on_of_nodup_map h.udpNames ha hb
      ((hname a ha hzero).trans (hname b hb (heq.symm.trans hzero)).symm)
  · exact List.inj_on_of_nodup_map h.udpPorts
      (List.mem_filter.mpr ⟨ha, decide_eq_true hzero⟩)
      (List.mem_filter.mpr ⟨hb, decide_eq_true (heq ▸ hzero)⟩) heq

/-- What is emitted after these probes. -/
structure UdpEmitted (done : List UDPProbeSemantics) (s : UdpEmission) : Prop where
  names : ∀ name ∈ s.names, name ∈ done.map (·.name)
  ports : ∀ port ∈ s.ports, port ∈ done.map (·.destinationPort)
  hasDefault : s.hasDefault = done.any (·.destinationPort = 0)
  lines : s.lines = udpHeader ++ done.map udpProbeLine

/-- **A probe** is emitted if its name and its port are new. -/
theorem emitUdp_ok (h : UdpFacts body) {s : UdpEmission} {done : List UDPProbeSemantics}
    (hdone : UdpEmitted done s) (hname : body.name ∉ done.map (·.name))
    (hport : body.destinationPort ∉ done.map (·.destinationPort)) :
    ∃ s', emitUdp s body = .ok s' ∧ UdpEmitted (done ++ [body]) s' := by
  have hfresh : body.name ∉ s.names := fun hmem ↦ hname (hdone.names _ hmem)
  have hlines : s.lines ++ [udpProbeLine body] =
      udpHeader ++ (done ++ [body]).map udpProbeLine := by
    rw [hdone.lines, List.map_append, List.append_assoc]
    rfl
  have hnames : ∀ name ∈ body.name :: s.names, name ∈ (done ++ [body]).map (·.name) := by
    intro name hmem
    rw [List.map_append, List.mem_append]
    rcases List.mem_cons.mp hmem with rfl | hmem
    · exact .inr List.mem_cons_self
    · exact .inl (hdone.names name hmem)
  by_cases hzero : body.destinationPort = 0
  · have hdefault : s.hasDefault = false := by
      rw [hdone.hasDefault, List.any_eq_false]
      intro other hother hport'
      exact hport (hzero ▸ of_decide_eq_true hport' ▸ List.mem_map_of_mem hother)
    simp only [emitUdp, if_pos hzero, bind_eq_ok, insist_eq_ok, exists_const, pure_eq_ok, hdefault,
      decide_eq_true (h.default.mp hzero), decide_eq_true_eq]
    refine ⟨_, ⟨hfresh, rfl, rfl⟩, ?_⟩
    · refine ⟨hnames, fun port hmem ↦ ?_, ?_, hlines⟩
      · rw [List.map_append]
        exact List.mem_append_left _ (hdone.ports port hmem)
      · simp [hzero]
  · have hports : body.destinationPort ∉ s.ports := fun hmem ↦ hport (hdone.ports _ hmem)
    simp only [emitUdp, if_neg hzero, bind_eq_ok, insist_eq_ok, exists_const, pure_eq_ok,
      decide_eq_true_eq]
    refine ⟨_, ⟨hfresh, hports, rfl⟩, ?_⟩
    · refine ⟨hnames, fun port hmem ↦ ?_, ?_, hlines⟩
      · rw [List.map_append, List.mem_append]
        rcases List.mem_cons.mp hmem with rfl | hmem
        · exact .inr List.mem_cons_self
        · exact .inl (hdone.ports port hmem)
      · simp [hzero, hdone.hasDefault]

theorem foldlM_emitUdp {bodies done : List UDPProbeSemantics} {s : UdpEmission}
    (h : ∀ body ∈ bodies, UdpFacts body) (hnames : ((done ++ bodies).map (·.name)).Nodup)
    (hports : ((done ++ bodies).map (·.destinationPort)).Nodup) (hdone : UdpEmitted done s) :
    ∃ s', bodies.foldlM emitUdp s = .ok s' ∧ UdpEmitted (done ++ bodies) s' := by
  induction bodies generalizing done s with
  | nil => exact ⟨s, rfl, by rwa [List.append_nil]⟩
  | cons body bodies ih =>
    have hassoc : done ++ body :: bodies = (done ++ [body]) ++ bodies := by simp
    have hname : body.name ∉ done.map (·.name) := by
      rw [List.map_append, List.map_cons] at hnames
      exact fun hmem ↦ (List.nodup_append.mp hnames).2.2 _ hmem _ List.mem_cons_self rfl
    have hport : body.destinationPort ∉ done.map (·.destinationPort) := by
      rw [List.map_append, List.map_cons] at hports
      exact fun hmem ↦ (List.nodup_append.mp hports).2.2 _ hmem _ List.mem_cons_self rfl
    obtain ⟨s₁, hs₁, hdone₁⟩ := emitUdp_ok (h body List.mem_cons_self) hdone hname hport
    obtain ⟨s₂, hs₂, hdone₂⟩ := ih (fun b hb ↦ h b (List.mem_cons_of_mem body hb)) (hassoc ▸ hnames)
      (hassoc ▸ hports) hdone₁
    exact ⟨s₂, bind_eq_ok.mpr ⟨s₁, hs₁, hs₂⟩, hassoc ▸ hdone₂⟩

/-- The default probe is there. -/
theorem GraphFacts.any_default (h : GraphFacts py records) :
    (orderedUdp records).any (·.destinationPort = 0) = true := by
  have hne : (udpProbes records).filter (·.destinationPort = 0) ≠ [] := by
    intro hnil
    have hdefault := h.udpDefault
    rw [hnil] at hdefault
    exact absurd hdefault (by simp)
  obtain ⟨body, hbody⟩ := List.exists_mem_of_ne_nil _ hne
  obtain ⟨hmem, hport⟩ := List.mem_filter.mp hbody
  exact List.any_eq_true.mpr ⟨body, orderedUdp_perm.mem_iff.mpr hmem, hport⟩

theorem mapM_ok_self {ε α : Type} {f : α → Except ε α} {l : List α} (h : ∀ x ∈ l, f x = .ok x) :
    l.mapM f = .ok l := (mapM_ok (g := id) h).trans (congrArg Except.ok (List.map_id l))

/-- **The UDP compiler** emits the lines of all probes. -/
theorem compileLegacyUdp_ok (h : GraphFacts py records) :
    compileLegacyUdp py (records.filter (·.body.kind = .udpProbe)) =
      .ok (encode (linesText (udpLines records))) := by
  have hbodies : udpProbes (records.filter (·.body.kind = .udpProbe)) = udpProbes records := by
    rw [udpProbes, List.filterMap_filter, udpProbes]
    refine List.filterMap_congr fun record _ ↦ ?_
    cases record.body <;> rfl
  have hlength : (udpProbes records).length =
      (records.filter (·.body.kind = .udpProbe)).length := by
    rw [udpProbes, List.length_filterMap_eq_countP, List.countP_eq_length_filter]
    refine congrArg List.length (List.filter_congr fun record _ ↦ ?_)
    cases record.body <;> rfl
  have hlengths : (orderedUdp records).length = (udpProbes records).length :=
    orderedUdp_perm.length_eq
  have hfacts : ∀ body ∈ orderedUdp records, UdpFacts body := fun body hbody ↦
    udp_of_parse (h.parse_udp (orderedUdp_perm.mem_iff.mp hbody))
  obtain ⟨s, hs, hdone⟩ := @foldlM_emitUdp _ [] {} hfacts
    ((orderedUdp_perm.map _).nodup_iff.mpr h.udpNames)
    ((orderedUdp_perm.map _).nodup_iff.mpr h.udpPorts_nodup)
    ⟨by simp, by simp, rfl, rfl⟩
  rw [List.nil_append] at hdone
  rw [compileLegacyUdp]
  refine bind_eq_ok.mpr ⟨records.filter (·.body.kind = .udpProbe),
    mapM_ok_self fun record hrecord ↦ ?_, ?_⟩
  · have hparsed : parseRecord py record sources = .ok record :=
      h.canonical record (List.mem_filter.mp hrecord).1
    rw [hparsed]
  dsimp only
  rw [hbodies]
  refine bind_eq_ok.mpr ⟨(), insist_of ?_ _, ?_⟩
  · rw [decide_eq_true hlength, Bool.and_true]
    simpa using h.udp
  refine bind_eq_ok.mpr ⟨(), insist_of (decide_eq_true ?_) _, ?_⟩
  · exact (map_insertionSort_of_contiguous h.udpOrders).trans (congrArg List.range hlengths.symm)
  refine bind_eq_ok.mpr ⟨s, hs, ?_⟩
  refine bind_eq_ok.mpr ⟨(), insist_of (hdone.hasDefault.trans h.any_default) _, ?_⟩
  rw [hdone.lines]
  rfl

/-! ### The database -/

theorem newline_notMem_udpLines (h : GraphFacts py records) :
    ∀ line ∈ udpLines records, '\n' ∉ line := by
  intro line hline
  rcases List.mem_append.mp hline with hheader | hbody
  · exact (by decide : ∀ line ∈ udpHeader, '\n' ∉ line) line hheader
  · obtain ⟨body, hmem, rfl⟩ := List.mem_map.mp hbody
    rw [udpProbeLine_words]
    exact newline_notMem_wordsLine
      (proper_udpWords (udp_of_parse (h.parse_udp (orderedUdp_perm.mem_iff.mp hmem))))

/-- **The UDP database is imported** with the bodies of all probes. -/
theorem parseUdpRuntime_ok (hpy : py.Lawful) (h : GraphFacts py records)
    (hlimits : withinLimits (encode (linesText (udpLines records))) maxLineBytes) :
    ∃ imported, parseUdpRuntime py udpContext (encode (linesText (udpLines records))) =
        .ok imported ∧
      imported.map (·.semantics) = (orderedUdp records).map fun body ↦
        semanticsOf py (.udpProbe body) := by
  have hsplit := @splitOn_linesText (udpLines records) (by simp [udpLines, udpHeader])
    (newline_notMem_udpLines h)
  simp only [withinLimits, Bool.and_eq_true, List.all_eq_true, decide_eq_true_eq, hsplit] at hlimits
  obtain ⟨hbytes, hshort⟩ := hlimits
  have hlengths : (orderedUdp records).length = (udpProbes records).length :=
    orderedUdp_perm.length_eq
  obtain ⟨s, hs, hread⟩ := @foldlM_udpProbeLine _ hpy _ [] {}
    (fun body hbody ↦ h.parse_udp (orderedUdp_perm.mem_iff.mp hbody))
    (fun body hbody ↦ hshort _ (List.mem_append_left _
      (List.mem_map_of_mem (List.mem_append_right _ (List.mem_map_of_mem hbody)))))
    (by
      rw [orderedUdp, map_insertionSort_of_contiguous h.udpOrders, List.length_insertionSort,
        List.range_eq_range']
      rfl)
    (by
      rw [List.length_nil, Nat.zero_add, hlengths]
      exact h.udpCount)
    ((orderedUdp_perm.map _).nodup_iff.mpr h.udpNames)
    ((orderedUdp_perm.map _).nodup_iff.mpr h.udpPorts_nodup)
    ⟨rfl, by simp, by simp, rfl⟩ (1 + udpHeader.length)
  rw [List.nil_append] at hread
  have hfold : ((((udpLines records).map encode ++ [[]]).zipIdx 1).foldlM
    (udpLine py udpContext)
      {} : Except RuntimeCorpusError UdpImport) = .ok s := by
    rw [List.zipIdx_append, List.foldlM_append]
    refine bind_eq_ok.mpr ⟨s, ?_, rfl⟩
    change (numbered (udpLines records) 1).foldlM (udpLine py udpContext) {} = .ok s
    rw [udpLines, numbered_append, List.foldlM_append]
    exact bind_eq_ok.mpr ⟨{}, foldlM_udpHeader (fun _ ↦ id) {} 1, hs⟩
  have hrecords : s.records ≠ [] := by
    intro hnil
    have hbodies := hread.bodies
    rw [hnil] at hbodies
    have hnone := List.map_eq_nil_iff.mp hbodies.symm
    exact h.udp (List.length_eq_zero_iff.mp (hlengths.symm.trans (by rw [hnone]; rfl)))
  refine ⟨s.records, ?_, hread.bodies⟩
  refine bind_eq_ok.mpr ⟨(), demand_of (decide_eq_true hbytes) _, ?_⟩
  refine bind_eq_ok.mpr ⟨(), demand_of (by decide) _, ?_⟩
  rw [hsplit]
  refine bind_eq_ok.mpr ⟨s, hfold, ?_⟩
  refine bind_eq_ok.mpr ⟨(), demand_of (by simpa using hrecords) _, ?_⟩
  exact bind_eq_ok.mpr ⟨(), demand_of (hread.hasDefault.trans h.any_default) _, rfl⟩

end Skan.Corpus

import Mathlib.Data.Multiset.Bind
import Skan.Corpus.Reimport
import Skan.Corpus.ServiceLines
import Skan.Library.Collecting

/-!
# The service database is imported again

Every line of an emitted service database is read, and the checks of the probes pass. So the import
succeeds with the bodies of all probes and rules (`parseServiceRuntime_ok`), unless a rule is
misread, and then it fails (`misread_of_parseServiceRuntime`).
-/

namespace Skan.Corpus

open Skan.Output (Double)

variable {α β : Type} {l : List α}

/-! ### Lists that are mapped with errors -/

/-- If every entry succeeds, so does the list; what is seen of the results follows the entries. -/
theorem mapM_exists {ε γ : Type} {f : α → Except ε β} {g : α → γ} {v : β → γ}
    (h : ∀ x ∈ l, ∃ y, f x = .ok y ∧ v y = g x) : ∃ r, l.mapM f = .ok r ∧ r.map v = l.map g := by
  induction l with
  | nil => exact ⟨[], rfl, rfl⟩
  | cons x l ih =>
    obtain ⟨y, hy, hview⟩ := h x List.mem_cons_self
    obtain ⟨r, hr, hviews⟩ := ih fun z hz ↦ h z (List.mem_cons_of_mem x hz)
    refine ⟨y :: r, ?_, by rw [List.map_cons, List.map_cons, hview, hviews]⟩
    rw [List.mapM_cons]
    exact bind_eq_ok.mpr ⟨y, hy, bind_eq_ok.mpr ⟨r, hr, rfl⟩⟩

/-- If the list succeeds, so does every entry. -/
theorem exists_of_mapM {ε : Type} {f : α → Except ε β} {r : List β} (h : l.mapM f = .ok r) :
    ∀ x ∈ l, ∃ y, f x = .ok y := by
  induction l generalizing r with
  | nil => simp
  | cons x l ih =>
    rw [List.mapM_cons, bind_eq_ok] at h
    obtain ⟨y, hy, h⟩ := h
    obtain ⟨r, hr, -⟩ := bind_eq_ok.mp h
    exact List.forall_mem_cons.mpr ⟨⟨y, hy⟩, ih hr⟩

/-- Entries that hold their own index. -/
theorem zipIdx_map_of_orders {f : α → β} {order : α → ℕ} (h : l.map order = List.range l.length) :
    (l.map f).zipIdx = l.map fun x ↦ (f x, order x) := by
  rw [List.zipIdx_eq_zip_range', List.length_map, ← List.range_eq_range', ← h, List.zip_map']

/-! ### Bodies by their probe -/

/-- The entries of a list, each in front of what belongs to it. -/
theorem flatMap_cons_perm (f : α → β) (g : α → List β) (l : List α) :
    (l.flatMap fun x ↦ f x :: g x).Perm (l.map f ++ l.flatMap g) := by
  induction l with
  | nil => simp
  | cons x l ih =>
    rw [List.flatMap_cons, List.flatMap_cons, List.map_cons, List.cons_append, List.cons_append]
    exact ((ih.append_left (g x)).trans (List.perm_append_comm_assoc _ _ _)).cons _

variable {py : Platform} {records : List CanonicalRecord}

/-- The bodies of the probes and of their rules, as they are imported. -/
def serviceBodies (records : List CanonicalRecord) : List RecordBody :=
  (orderedProbes (activeProbes records)).flatMap fun probe ↦
    .activeProbe probe :: (rulesOf (serviceMatchers records) probe).map .serviceMatcher

/-- **Every probe and every rule** is imported once. -/
theorem serviceBodies_perm (h : GraphFacts py records) :
    (serviceBodies records).Perm
      ((activeProbes records).map .activeProbe ++
        (serviceMatchers records).map .serviceMatcher) := by
  have hprobes : (orderedProbes (activeProbes records)).Perm (activeProbes records) :=
    List.perm_insertionSort _ _
  have hrules : ((activeProbes records).flatMap (rulesOf (serviceMatchers records))).Perm
      (serviceMatchers records) := by
    have hgrouped := @List.flatMap_filter_perm _ _ _ ServiceMatcherSemantics.probeName _
      (serviceMatchers records) h.probeNames
    rw [List.flatMap_map] at hgrouped
    have hsorted := List.Perm.flatMap_left (activeProbes records) fun probe _ ↦
      List.perm_insertionSort (fun a b ↦ a.ruleOrder ≤ b.ruleOrder)
        ((serviceMatchers records).filter (·.probeName = probe.probeName))
    refine (hsorted.trans hgrouped).trans (List.Perm.of_eq
      (List.filter_eq_self.mpr fun matcher hm ↦ ?_))
    obtain ⟨probe, hprobe, hname⟩ := h.resolved matcher hm
    simpa using ⟨probe, hprobe, hname⟩
  refine (hprobes.flatMap_right _).trans ((flatMap_cons_perm _ _ _).trans ?_)
  refine List.Perm.append_left _ ?_
  rw [← List.map_flatMap]
  exact hrules.map _

/-! ### Records of a probe -/

section

variable {probe : ActiveProbeSemantics} {rule : ServiceMatcherSemantics}
  {matchers : List ServiceMatcherSemantics}

theorem isPrintable_probeIdentity (h : ActiveFacts probe) :
    (∀ c ∈ probeIdentity serviceContext (importedProbe py matchers probe), IsPrintable c) ∧
      (probeIdentity serviceContext (importedProbe py matchers probe)).length ≤ 167 := by
  have hname : ∀ c ∈ probe.probeName, IsPrintable c := fun c hc ↦
    isPrintable_of_isPlain (isPlain_of_isWordChar (isWordChar_of_isProbeName h.probeName c hc))
  have hlength : probe.probeName.length ≤ 128 := by
    have hvalid := h.probeName
    simp only [isProbeName, Bool.and_eq_true, decide_eq_true_eq] at hvalid
    exact hvalid.1.2
  rw [probeIdentity]
  constructor
  · simp only [List.forall_mem_append]
    exact ⟨⟨known_serviceContext.path, by decide⟩, hname⟩
  · have hpath := known_serviceContext.length
    have hword : (":probe:".toList).length = 7 := by decide
    simp only [List.length_append, hword, importedProbe, importedHeader]
    omega

theorem ruleOrder_of_parse (h : parseService py rule = .ok rule) : rule.ruleOrder ≤ 65535 := by
  simp only [parseService, bind_eq_ok, integer_eq_ok, require_eq_ok, exists_const] at h
  obtain ⟨_, -, -, -, _, -, _, -, _, -, _, -, _, -, _, -, _, -, _, ⟨-, -, hle⟩, -⟩ := h
  exact hle

/-- The record of a rule that is not misread. -/
theorem ruleRecord_ok (hpy : py.Lawful) (hprobe : ActiveFacts probe)
    (hname : rule.probeName = probe.probeName) (h : parseService py rule = .ok rule)
    (hcpe : rule.cpe = []) (hread : misread rule = false) :
    ∃ value, ruleRecord py serviceContext (importedProbe py matchers probe)
        (importedRule py rule, rule.ruleOrder) = .ok value ∧
      value.semantics = semanticsOf py (.serviceMatcher rule) := by
  have hfacts := matcher_of_parse h
  have hbody := @ruleBody_importedRule _ _ hpy hfacts (importedProbe py matchers probe) hname.symm
  rw [importedBody_of_not_misread hfacts hcpe hread] at hbody
  have hid : IsText py (probeIdentity serviceContext (importedProbe py matchers probe) ++
    ":rule:".toList
      ++ Nat.toDigits 10 rule.ruleOrder) 256 false := by
    obtain ⟨hidentity, hlength⟩ := @isPrintable_probeIdentity py _ matchers hprobe
    refine isText_of_isPrintable hpy ?_ ?_ ?_ _
    · simp only [List.forall_mem_append]
      exact ⟨⟨hidentity, by decide⟩, fun c hc ↦
        isPrintable_of_isPlain (isPlain_of_isWordChar (isWordChar_of_mem_decimal hc))⟩
    · have hword : (":rule:".toList).length = 6 := by decide
      have hdigits : (Nat.toDigits 10 rule.ruleOrder).length ≤ 5 :=
        (Nat.length_toDigits_le_iff (by decide) (by decide)).mpr
          ((ruleOrder_of_parse h).trans_lt (by decide))
      simp only [List.length_append, hword]
      omega
    · exact List.append_ne_nil_of_right_ne_nil _ Nat.toDigits_ne_nil
  obtain ⟨value, hvalue, hvalueBody⟩ := @record_ok _ _ _ _ (importedRule py rule).material hpy
    known_serviceContext (parseBody_serviceMatcher.mpr h) hid
  exact ⟨value, bind_eq_ok.mpr ⟨rule, hbody, hvalue⟩, hvalueBody⟩

/-- A rule that is misread has no record. -/
theorem ruleRecord_misread (hpy : py.Lawful) (hname : rule.probeName = probe.probeName)
    (h : parseService py rule = .ok rule) (hread : misread rule = true) (value : CanonicalRecord) :
    ruleRecord py serviceContext (importedProbe py matchers probe)
      (importedRule py rule, rule.ruleOrder) ≠ .ok value := by
  have hfacts := matcher_of_parse h
  have hbody := @ruleBody_importedRule _ _ hpy hfacts (importedProbe py matchers probe) hname.symm
  intro hvalue
  obtain ⟨body, hread', hrecord⟩ := bind_eq_ok.mp hvalue
  obtain rfl := Except.ok.inj (hbody.symm.trans hread')
  refine record_ne_ok (fun parsed hparsed ↦ ?_) value hrecord
  obtain ⟨body, hparsed, -⟩ := bind_eq_ok.mp hparsed
  exact parseService_misread hfacts hread body hparsed

/-- The record of a probe. -/
theorem activeRecord_ok (hpy : py.Lawful) (h : parseActive py probe = .ok probe) :
    ∃ value, record py (.activeProbe (probeBody (importedProbe py matchers probe)))
        (probeIdentity serviceContext (importedProbe py matchers probe))
        ((importedProbe py matchers probe).headerMaterial ++
          0x0A :: (importedProbe py matchers probe).sendMaterial) serviceContext = .ok value ∧
      value.semantics = semanticsOf py (.activeProbe probe) := by
  have hfacts := active_of_parse h
  obtain ⟨hidentity, hlength⟩ := @isPrintable_probeIdentity py _ matchers hfacts
  have hbody : probeBody (importedProbe py matchers probe) = probe := by
    rw [probeBody, importedProbe, Option.getD_some, hfacts.payloadHex.toHex_fromHex]
    rfl
  rw [hbody]
  obtain ⟨value, hvalue, hvalueBody⟩ := record_ok hpy known_serviceContext
    (parseBody_activeProbe.mpr h)
    (isText_of_isPrintable hpy hidentity (hlength.trans (by decide)) (by simp [probeIdentity])
      false)
  exact ⟨value, hvalue, hvalueBody⟩

/-- The rules of a probe with their indices. -/
theorem zipIdx_rules (h : GraphFacts py records) (hprobe : probe ∈ activeProbes records) :
    (importedProbe py (serviceMatchers records) probe).rules.zipIdx =
      (rulesOf (serviceMatchers records) probe).map fun rule ↦
        (importedRule py rule, rule.ruleOrder) :=
  zipIdx_map_of_orders (h.orders_rulesOf hprobe)

/-- **The records of a probe** none of whose rules is misread. -/
theorem probeRecords_ok (hpy : py.Lawful) (h : GraphFacts py records)
    (hprobe : probe ∈ activeProbes records)
    (hread : ∀ rule ∈ rulesOf (serviceMatchers records) probe, misread rule = false) :
    ∃ values, probeRecords py serviceContext (importedProbe py (serviceMatchers records) probe) =
        .ok values ∧
      values.map (·.semantics) = (.activeProbe probe ::
        (rulesOf (serviceMatchers records) probe).map .serviceMatcher).map (semanticsOf py) := by
  obtain ⟨active, hactive, hactiveBody⟩ :=
    @activeRecord_ok _ _ (serviceMatchers records) hpy (h.parse_active hprobe)
  obtain ⟨rules, hrules, hruleBodies⟩ := mapM_exists
    (f := fun rule ↦ ruleRecord py serviceContext (importedProbe py (serviceMatchers records) probe)
      (importedRule py rule, rule.ruleOrder))
    (g := fun rule ↦ semanticsOf py (.serviceMatcher rule)) (v := CanonicalRecord.semantics)
    (l := rulesOf (serviceMatchers records) probe) fun rule hrule ↦
      ruleRecord_ok hpy (active_of_parse (h.parse_active hprobe)) (mem_rulesOf.mp hrule).2
        (h.parse_matcher (mem_rulesOf.mp hrule).1) (h.cpe rule (mem_rulesOf.mp hrule).1)
          (hread rule hrule)
  refine ⟨active :: rules, ?_, by
    rw [List.map_cons, hactiveBody, hruleBodies, List.map_cons, List.map_map]; rfl⟩
  rw [probeRecords, zipIdx_rules h hprobe, List.mapM_map]
  exact bind_eq_ok.mpr ⟨active, hactive, bind_eq_ok.mpr ⟨rules, hrules, rfl⟩⟩

/-- If a probe has records, none of its rules is misread. -/
theorem misread_of_probeRecords (hpy : py.Lawful) (h : GraphFacts py records)
    (hprobe : probe ∈ activeProbes records) {values : List CanonicalRecord}
    (hvalues : probeRecords py serviceContext (importedProbe py (serviceMatchers records) probe) =
      .ok values) : ∀ rule ∈ rulesOf (serviceMatchers records) probe, misread rule = false := by
  rw [probeRecords, zipIdx_rules h hprobe, List.mapM_map] at hvalues
  obtain ⟨_, -, hvalues⟩ := bind_eq_ok.mp hvalues
  obtain ⟨rules, hrules, -⟩ := bind_eq_ok.mp hvalues
  intro rule hrule
  obtain ⟨value, hvalue⟩ := exists_of_mapM hrules rule hrule
  by_contra hread
  exact ruleRecord_misread hpy (mem_rulesOf.mp hrule).2 (h.parse_matcher (mem_rulesOf.mp hrule).1)
    (Bool.not_eq_false _ ▸ hread) value hvalue

end

/-! ### The database -/

/-- The lines of the database. -/
def serviceLines (py : Platform) (records : List CanonicalRecord) : List Str :=
  (orderedProbes (activeProbes records)).flatMap (probeLines py (serviceMatchers records))

theorem mem_orderedProbes {probes : List ActiveProbeSemantics} {probe : ActiveProbeSemantics} :
    probe ∈ orderedProbes probes ↔ probe ∈ probes := List.mem_insertionSort _

theorem serviceLines_ne_nil (h : GraphFacts py records) : serviceLines py records ≠ [] := by
  obtain ⟨probe, hprobe⟩ := List.exists_mem_of_ne_nil _ h.active
  have hline : probeLine probe ∈ serviceLines py records :=
    List.mem_flatMap.mpr ⟨probe, mem_orderedProbes.mpr hprobe, List.mem_cons_self⟩
  exact List.ne_nil_of_mem hline

theorem newline_notMem_serviceLines (hpy : py.Lawful) (h : GraphFacts py records) :
    ∀ line ∈ serviceLines py records, '\n' ∉ line := by
  intro line hline
  obtain ⟨probe, hprobe, hline⟩ := List.mem_flatMap.mp hline
  have hfacts := active_of_parse (h.parse_active (mem_orderedProbes.mp hprobe))
  rw [probeLines] at hline
  rcases List.mem_cons.mp hline with rfl | hline
  · rw [probeLine_eq]
    exact newline_notMem_wordsLine (proper_probeWords hfacts)
  rcases List.mem_cons.mp hline with rfl | hline
  · rw [sendLine_eq]
    exact newline_notMem_wordsLine proper_sendWords
  · obtain ⟨rule, hrule, rfl⟩ := List.mem_map.mp hline
    rw [ruleLine_eq]
    exact newline_notMem_wordsLine
      (proper_ruleWords hpy (matcher_of_parse (h.parse_matcher (mem_rulesOf.mp hrule).1)))

/-- The lines that the importer sees: the emitted ones, and an empty one. -/
theorem splitOn_service (hpy : py.Lawful) (h : GraphFacts py records) :
    (service py records).splitOn 0x0A = (serviceLines py records).map Utf8.encode ++ [[]] :=
  splitOn_linesText (serviceLines_ne_nil h) (newline_notMem_serviceLines hpy h)

theorem length_rulesOf (matchers : List ServiceMatcherSemantics) (probe : ActiveProbeSemantics) :
    (rulesOf matchers probe).length = (ruleOrders matchers probe).length := by
  rw [rulesOf, List.length_insertionSort, ruleOrders, List.length_map]

/-- **The lines** are read as all probes with all rules. -/
theorem foldlM_service (hpy : py.Lawful) (h : GraphFacts py records)
    (hlimits : withinLimits (service py records) maxLineBytes) :
    ∃ s, (((service py records).splitOn 0x0A).zipIdx 1).foldlM (serviceLine py) {} = .ok s ∧
      s.probes = (orderedProbes (activeProbes records)).map
        (importedProbe py (serviceMatchers records)) := by
  have hsorted : (orderedProbes (activeProbes records)).Perm (activeProbes records) :=
    List.perm_insertionSort _ _
  simp only [withinLimits, Bool.and_eq_true, List.all_eq_true, decide_eq_true_eq,
    splitOn_service hpy h] at hlimits
  obtain ⟨s, hs, hprobes⟩ := @foldlM_serviceLine _ {} (serviceMatchers records) hpy
    (orderedProbes (activeProbes records))
    (fun probe hp ↦ active_of_parse (h.parse_active (mem_orderedProbes.mp hp)))
    (fun rule hr ↦ matcher_of_parse (h.parse_matcher hr))
    (fun line hline ↦ hlimits.2 _ (List.mem_append_left _ (List.mem_map_of_mem hline)))
    (by simpa [ServiceImport.probes, hsorted.length_eq] using
      (show _ ≤ maxProbes from h.probeCount))
    (fun probe hp ↦ (length_rulesOf _ _).trans_le (h.ruleCount probe (mem_orderedProbes.mp hp)))
    (by simpa [ServiceImport.probes] using (hsorted.map _).nodup_iff.mpr h.probeNames)
    (by rw [h.orders_orderedProbes, hsorted.length_eq, List.range_eq_range']; rfl)
    1
  refine ⟨s, ?_, hprobes.trans (List.nil_append _)⟩
  rw [splitOn_service hpy h, List.zipIdx_append, List.foldlM_append]
  exact bind_eq_ok.mpr ⟨s, hs, rfl⟩

/-- The fallbacks resolve among the imported probes as they do in the graph. -/
theorem checkProbe_imported (h : GraphFacts py records) {probe : ActiveProbeSemantics}
    (hprobe : probe ∈ activeProbes records) :
    checkProbe ((orderedProbes (activeProbes records)).map
      (importedProbe py (serviceMatchers records)))
      (importedProbe py (serviceMatchers records) probe) = .ok () := by
  refine bind_eq_ok.mpr ⟨(), rfl, forM_eq_ok.mpr fun fallback hfallback ↦ ?_⟩
  have hchecked := forM_eq_ok.mp (h.fallbacks probe hprobe) fallback hfallback
  split at hchecked
  · exact absurd hchecked (by simp)
  rename_i target htarget
  simp only [bind_eq_ok, insist_eq_ok, exists_const, decide_eq_true_eq] at hchecked
  obtain ⟨hself, htransport⟩ := hchecked
  have hname : target.probeName = fallback := by simpa using List.find?_some htarget
  have hmem := List.mem_of_find?_eq_some htarget
  -- the names are distinct, so the importer finds the same probe
  have hfound : ((orderedProbes (activeProbes records)).map
      (importedProbe py (serviceMatchers records))).find? (·.name = fallback) =
        some (importedProbe py (serviceMatchers records) target) := by
    cases hsearch : ((orderedProbes (activeProbes records)).map
        (importedProbe py (serviceMatchers records))).find? (·.name = fallback) with
    | none =>
      have hnone := List.find?_eq_none.mp hsearch _
        (List.mem_map_of_mem (mem_orderedProbes.mpr hmem))
      exact absurd (decide_eq_true hname) hnone
    | some found =>
      obtain ⟨other, hother, rfl⟩ := List.mem_map.mp (List.mem_of_find?_eq_some hsearch)
      have hsame : other.probeName = fallback := of_decide_eq_true (List.find?_some hsearch :)
      rw [List.inj_on_of_nodup_map h.probeNames (mem_orderedProbes.mp hother) hmem
        (hsame.trans hname.symm)]
  rw [checkFallback, hfound]
  refine bind_eq_ok.mpr ⟨(), demand_of (decide_eq_true hself) _, ?_⟩
  exact demand_of (decide_eq_true htransport) _

/-- **What is left of the import** when the lines are read: the records of the probes. -/
theorem parseServiceRuntime_eq_ok (hpy : py.Lawful) (h : GraphFacts py records)
    (hlimits : withinLimits (service py records) maxLineBytes) {imported : List CanonicalRecord} :
    parseServiceRuntime py (service py records) serviceContext = .ok imported ↔
      ∃ values, ((orderedProbes (activeProbes records)).mapM fun probe ↦
          probeRecords py serviceContext (importedProbe py (serviceMatchers records) probe)) =
            .ok values ∧ values.flatten = imported := by
  obtain ⟨s, hs, hprobes⟩ := foldlM_service hpy h hlimits
  simp only [withinLimits, Bool.and_eq_true, decide_eq_true_eq] at hlimits
  obtain ⟨probe, hprobe⟩ := List.exists_mem_of_ne_nil _ h.active
  have hnonempty : (!s.probes.isEmpty) = true := by
    rw [hprobes]
    simpa using List.ne_nil_of_mem (mem_orderedProbes.mpr hprobe)
  have hchecks : s.probes.forM (checkProbe s.probes) = .ok () := by
    rw [hprobes]
    exact forM_eq_ok.mpr (List.forall_mem_map.mpr fun probe hp ↦
      checkProbe_imported h (mem_orderedProbes.mp hp))
  have hrecords : s.probes.mapM (probeRecords py serviceContext) =
      (orderedProbes (activeProbes records)).mapM fun probe ↦
        probeRecords py serviceContext (importedProbe py (serviceMatchers records) probe) := by
    rw [hprobes, List.mapM_map]
    rfl
  rw [← hrecords]
  constructor
  · intro himported
    obtain ⟨_, -, himported⟩ := bind_eq_ok.mp himported
    obtain ⟨_, -, himported⟩ := bind_eq_ok.mp himported
    obtain ⟨s', hs', himported⟩ := bind_eq_ok.mp himported
    obtain rfl := Except.ok.inj (hs.symm.trans hs')
    obtain ⟨_, -, himported⟩ := bind_eq_ok.mp himported
    obtain ⟨_, -, himported⟩ := bind_eq_ok.mp himported
    obtain ⟨values, hvalues, himported⟩ := bind_eq_ok.mp himported
    exact ⟨values, hvalues, pure_eq_ok.mp himported⟩
  · rintro ⟨values, hvalues, rfl⟩
    refine bind_eq_ok.mpr ⟨(), demand_of (decide_eq_true hlimits.1) _, ?_⟩
    refine bind_eq_ok.mpr ⟨(), demand_of (by decide) _, ?_⟩
    refine bind_eq_ok.mpr ⟨s, hs, ?_⟩
    refine bind_eq_ok.mpr ⟨(), demand_of hnonempty _, ?_⟩
    refine bind_eq_ok.mpr ⟨(), hchecks, ?_⟩
    exact bind_eq_ok.mpr ⟨values, hvalues, rfl⟩

/-- **The service database is imported** with the bodies of all probes and rules, if no rule is
misread. -/
theorem parseServiceRuntime_ok (hpy : py.Lawful) (h : GraphFacts py records)
    (hlimits : withinLimits (service py records) maxLineBytes)
    (hread : ∀ matcher ∈ serviceMatchers records, misread matcher = false) :
    ∃ imported, parseServiceRuntime py (service py records) serviceContext = .ok imported ∧
      imported.map (·.semantics) = (serviceBodies records).map (semanticsOf py) := by
  obtain ⟨values, hvalues, hbodies⟩ := mapM_exists (v := List.map CanonicalRecord.semantics)
    (l := orderedProbes (activeProbes records)) fun probe hp ↦
      probeRecords_ok hpy h (mem_orderedProbes.mp hp) fun rule hr ↦ hread rule (mem_rulesOf.mp hr).1
  refine ⟨values.flatten, (parseServiceRuntime_eq_ok hpy h hlimits).mpr ⟨values, hvalues, rfl⟩, ?_⟩
  rw [List.map_flatten, hbodies, serviceBodies, List.map_flatMap, List.flatMap_def]

/-- **If the service database is imported**, no rule is misread. -/
theorem misread_of_parseServiceRuntime (hpy : py.Lawful) (h : GraphFacts py records)
    (hlimits : withinLimits (service py records) maxLineBytes) {imported : List CanonicalRecord}
    (himported : parseServiceRuntime py (service py records) serviceContext = .ok imported) :
    ∀ matcher ∈ serviceMatchers records, misread matcher = false := by
  obtain ⟨values, hvalues, -⟩ := (parseServiceRuntime_eq_ok hpy h hlimits).mp himported
  intro matcher hmatcher
  obtain ⟨probe, hprobe, hname⟩ := h.resolved matcher hmatcher
  obtain ⟨records', hrecords⟩ := exists_of_mapM hvalues probe (mem_orderedProbes.mpr hprobe)
  exact misread_of_probeRecords hpy h hprobe hrecords matcher
    (mem_rulesOf.mpr ⟨hmatcher, hname.symm⟩)

end Skan.Corpus

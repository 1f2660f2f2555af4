import Skan.Corpus.RuleRoundTrip

/-!
# The lines of an emitted service database

What one line does to the probes that were read (`serviceLine_probe`, `serviceLine_send`,
`serviceLine_rule`), and from it what the lines of all probes do: `foldlM_serviceLine` ends with one
`importedProbe` for each probe, in order.
-/

namespace Skan.Corpus

open Utf8

open Skan.Output (Double)

section

variable {py : Platform} {s : ServiceImport} {n : ℕ} {earlier : List RuntimeProbe}
  {current : RuntimeProbe}

/-- **A line of words** is handled as its tokens. -/
theorem serviceLine_words {line : Str} {words : List Word} (hline : line = wordsLine words)
    (hne : words ≠ []) (h : ∀ w ∈ words, w.Proper)
    (hlength : (encode line).length ≤ maxLineBytes) :
    serviceLine py s (encode line, n) =
      serviceDirective py s (words.map Word.token) (encode line) n := by
  subst hline
  have hnonempty : (encode (wordsLine words)).isEmpty = false := by
    have hpos := (List.length_pos_iff.mpr hne).trans_le (length_le_of_proper h)
    exact List.isEmpty_eq_false_iff.mpr (List.ne_nil_of_length_pos hpos)
  rw [serviceLine]
  dsimp only
  rw [demand_of (decide_eq_true hlength), withoutComment_line h, strip_wordsLine h, hnonempty,
    tokenize_line n h]
  rfl

/-! ### The words of the three kinds of lines -/

variable {probe : ActiveProbeSemantics} {rule : ServiceMatcherSemantics}

theorem proper_probeWords (h : ActiveFacts probe) : ∀ w ∈ probeWords probe, w.Proper := by
  have hupper : Word.Proper { plain := probe.transport.upper } := by
    cases probe.transport
    · exact proper_mk (by decide) (by decide)
    · exact proper_mk (by decide) (by decide)
  rw [probeWords]
  simp only [List.forall_mem_cons]
  refine ⟨proper_mk (by decide) (by decide), hupper, ?_, (writable_headerFields h).proper⟩
  exact proper_mk (isProbeName_ne_nil h.probeName) fun c hc ↦
    isPlain_of_isWordChar (isWordChar_of_isProbeName h.probeName c hc)

/-- The words of a payload. -/
def sendWords (probe : ActiveProbeSemantics) : List Word :=
  [{ plain := "send".toList }, { plain := [], quoted := some (Strings.fromHex probe.payloadHex) }]

theorem sendLine_eq : sendLine probe = wordsLine (sendWords probe) := rfl

theorem proper_sendWords : ∀ w ∈ sendWords probe, w.Proper := by
  rw [sendWords]
  simp only [List.forall_mem_cons]
  exact ⟨proper_mk (by decide) (by decide), ⟨by simp, .inr (by simp)⟩, by simp⟩

theorem isPlain_ruleDirective : ruleDirective rule ≠ [] ∧ ∀ c ∈ ruleDirective rule, isPlain c := by
  rw [ruleDirective]
  split_ifs
  · exact ⟨by decide, by decide⟩
  · exact ⟨by decide, by decide⟩

theorem proper_ruleWords (hpy : py.Lawful) (h : MatcherFacts py rule) :
    ∀ w ∈ ruleWords py rule, w.Proper := by
  rw [ruleWords]
  exact List.forall_mem_cons.mpr ⟨proper_mk isPlain_ruleDirective.1 isPlain_ruleDirective.2,
    (writable_ruleValues hpy h).proper⟩

/-! ### One line -/

/-- **The line of a probe** begins a probe. -/
theorem serviceLine_probe (h : ActiveFacts probe)
    (hlength : (encode (probeLine probe)).length ≤ maxLineBytes)
    (hcount : s.probes.length < maxProbes) (hfresh : ∀ p ∈ s.probes, p.name ≠ probe.probeName)
    (horder : s.probes.length = probe.declarationOrder) :
    serviceLine py s (encode (probeLine probe), n) =
      .ok { earlier := s.probes, current := some (importedHeader probe) } := by
  rw [serviceLine_words (probeLine_eq probe) (List.cons_ne_nil _ _) (proper_probeWords h) hlength,
    probeWords, List.map_cons, List.map_cons, List.map_cons, map_token_fieldWord, token_mk,
    token_mk, token_mk, serviceDirective.eq_def]
  dsimp only
  refine bind_eq_ok.mpr ⟨"Probe".toList, asciiText_encode (by decide) _, ?_⟩
  rw [if_pos rfl]
  refine bind_eq_ok.mpr ⟨(), demand_of (decide_eq_true hcount) _, ?_⟩
  refine bind_eq_ok.mpr ⟨_, probeFromTokens_header h _ _ _, ?_⟩
  refine bind_eq_ok.mpr ⟨(), demand_of ?_ _, ?_⟩
  · exact List.all_eq_true.mpr fun p hp ↦ decide_eq_true (hfresh p hp)
  · rw [horder]
    rfl

/-- **The line of a payload** gives it to the probe. -/
theorem serviceLine_send (h : ActiveFacts probe)
    (hlength : (encode (sendLine probe)).length ≤ maxLineBytes)
    (hpayload : current.payload = none) :
    serviceLine py { earlier, current := some current } (encode (sendLine probe), n) =
      .ok {
        earlier
        current := some { current with
          payload := some (Strings.fromHex probe.payloadHex)
          sendMaterial := encode (sendLine probe) } } := by
  rw [serviceLine_words sendLine_eq (List.cons_ne_nil _ _) proper_sendWords hlength, sendWords,
    List.map_cons, List.map_cons, List.map_nil, token_mk, serviceDirective.eq_def]
  dsimp only
  refine bind_eq_ok.mpr ⟨"send".toList, asciiText_encode (by decide) _, ?_⟩
  rw [if_neg (by decide), if_pos rfl]
  refine bind_eq_ok.mpr ⟨(), demand_of (by rw [hpayload]; rfl) _, ?_⟩
  exact bind_eq_ok.mpr ⟨(), demand_of (decide_eq_true h.payloadHex.length_fromHex) _, rfl⟩

/-- **The line of a rule** gives it to the probe. -/
theorem serviceLine_rule (hpy : py.Lawful) (h : MatcherFacts py rule)
    (hlength : (encode (ruleLine py rule)).length ≤ maxLineBytes)
    (hcount : current.rules.length < maxRulesPerProbe) :
    serviceLine py { earlier, current := some current } (encode (ruleLine py rule), n) =
      .ok {
        earlier
        current := some { current with rules := current.rules ++ [importedRule py rule] } } := by
  have hstrength : (if ruleDirective rule = "softmatch".toList then Strength.soft else .hard) =
      rule.strength := by
    rw [ruleDirective]
    cases rule.strength <;> rfl
  have hnot : ∀ word ∈ ["Probe".toList, "send".toList], ruleDirective rule ≠ word := by
    rw [ruleDirective]
    split_ifs <;> decide
  have hdirective : ruleDirective rule = "match".toList ∨
      ruleDirective rule = "softmatch".toList := by
    rw [ruleDirective]
    split_ifs
    · exact .inr rfl
    · exact .inl rfl
  rw [serviceLine_words ruleLine_eq (List.cons_ne_nil _ _) (proper_ruleWords hpy h) hlength,
    ruleWords,
    List.map_cons, map_token_fieldWord, token_mk, serviceDirective.eq_def]
  dsimp only
  refine bind_eq_ok.mpr ⟨ruleDirective rule,
    asciiText_encode (isAscii_of_isPlain isPlain_ruleDirective.2) _, ?_⟩
  rw [if_neg (hnot _ (by simp)), if_neg (hnot _ (by simp)), if_pos hdirective]
  refine bind_eq_ok.mpr ⟨(), demand_of (decide_eq_true hcount) _, ?_⟩
  rw [hstrength]
  exact bind_eq_ok.mpr ⟨_, ruleFromTokens_importedRule hpy h _ _, rfl⟩

/-! ### Runs of lines -/

/-- A line within the limit. -/
def IsShort (line : Str) : Prop := (Utf8.encode line).length ≤ maxLineBytes

/-- The lines of some rules. -/
theorem foldlM_ruleLine (hpy : py.Lawful) {rules : List ServiceMatcherSemantics} {k : ℕ}
    (h : ∀ rule ∈ rules, MatcherFacts py rule)
    (hshort : ∀ rule ∈ rules, IsShort (ruleLine py rule))
    (hcount : current.rules.length + rules.length ≤ maxRulesPerProbe) :
    (numbered (rules.map (ruleLine py)) k).foldlM (serviceLine py)
        { earlier, current := some current } =
      .ok {
        earlier
        current := some { current with rules := current.rules ++ rules.map (importedRule py) }
          } := by
  induction rules generalizing current k with
  | nil =>
    rw [List.map_nil, List.map_nil, List.append_nil]
    rfl
  | cons rule rules ih =>
    rw [List.length_cons] at hcount
    rw [List.map_cons, numbered_cons, List.foldlM_cons]
    refine bind_eq_ok.mpr ⟨_, serviceLine_rule hpy (h rule List.mem_cons_self)
      (hshort rule List.mem_cons_self) (by omega), ?_⟩
    rw [ih (fun r hr ↦ h r (List.mem_cons_of_mem rule hr))
      (fun r hr ↦ hshort r (List.mem_cons_of_mem rule hr))
      (by simp only [List.length_append, List.length_cons, List.length_nil]; omega)]
    simp

section

variable (py) (matchers : List ServiceMatcherSemantics)

/-- What a probe is read as. -/
def importedProbe (probe : ActiveProbeSemantics) : RuntimeProbe :=
  { importedHeader probe with
    payload := some (Strings.fromHex probe.payloadHex)
    sendMaterial := Utf8.encode (sendLine probe)
    rules := (rulesOf matchers probe).map (importedRule py) }

end

variable {matchers : List ServiceMatcherSemantics}

theorem mem_rulesOf : rule ∈ rulesOf matchers probe ↔ rule ∈ matchers ∧
    rule.probeName = probe.probeName := by
  rw [rulesOf, List.mem_insertionSort, List.mem_filter, decide_eq_true_iff]

/-- **The lines of a probe** add the probe. -/
theorem foldlM_probeLines (hpy : py.Lawful) (h : ActiveFacts probe)
    (hmatchers : ∀ rule ∈ matchers, MatcherFacts py rule)
    (hshort : ∀ line ∈ probeLines py matchers probe, IsShort line)
    (hcount : s.probes.length < maxProbes) (hrules : (rulesOf matchers probe).length ≤
      maxRulesPerProbe)
    (hfresh : ∀ p ∈ s.probes, p.name ≠ probe.probeName)
    (horder : s.probes.length = probe.declarationOrder) (k : ℕ) :
    (numbered (probeLines py matchers probe) k).foldlM (serviceLine py) s =
      .ok { earlier := s.probes, current := some (importedProbe py matchers probe) } := by
  rw [probeLines] at hshort ⊢
  simp only [List.forall_mem_cons, List.forall_mem_map] at hshort
  obtain ⟨hprobe, hsend, hrule⟩ := hshort
  rw [numbered_cons, numbered_cons, List.foldlM_cons]
  refine bind_eq_ok.mpr ⟨_, serviceLine_probe h hprobe hcount hfresh horder, ?_⟩
  rw [List.foldlM_cons]
  refine bind_eq_ok.mpr ⟨_, serviceLine_send h hsend rfl, ?_⟩
  exact foldlM_ruleLine hpy (fun rule hrule ↦ hmatchers rule (mem_rulesOf.mp hrule).1) hrule
    (by simpa [importedHeader] using hrules)

/-- **The lines of all probes** add the probes, in order. -/
theorem foldlM_serviceLine (hpy : py.Lawful) {probes : List ActiveProbeSemantics}
    (h : ∀ probe ∈ probes, ActiveFacts probe) (hmatchers : ∀ rule ∈ matchers, MatcherFacts py rule)
    (hshort : ∀ line ∈ probes.flatMap (probeLines py matchers), IsShort line)
    (hcount : s.probes.length + probes.length ≤ maxProbes)
    (hrules : ∀ probe ∈ probes, (rulesOf matchers probe).length ≤ maxRulesPerProbe)
    (hnames : (s.probes.map (·.name) ++ probes.map (·.probeName)).Nodup)
    (horders : probes.map (·.declarationOrder) = List.range' s.probes.length probes.length)
    (k : ℕ) :
    ∃ s', (numbered (probes.flatMap (probeLines py matchers)) k).foldlM (serviceLine py) s =
      .ok s' ∧
      s'.probes = s.probes ++ probes.map (importedProbe py matchers) := by
  induction probes generalizing s k with
  | nil => exact ⟨s, rfl, (List.append_nil _).symm⟩
  | cons probe probes ih =>
    rw [List.flatMap_cons] at hshort ⊢
    rw [List.forall_mem_append] at hshort
    rw [List.map_cons, List.length_cons, List.range'_succ] at horders
    obtain ⟨horder, horders⟩ := List.cons.inj horders
    rw [List.length_cons] at hcount
    have hfresh : ∀ p ∈ s.probes, p.name ≠ probe.probeName := fun p hp ↦
      (List.nodup_append.mp hnames).2.2 _ (List.mem_map_of_mem hp) _ (by simp)
    have hnext := foldlM_probeLines hpy (h probe List.mem_cons_self) hmatchers hshort.1
      (by omega) (hrules probe List.mem_cons_self) hfresh horder.symm k
    obtain ⟨s', hrest, hprobes⟩ := ih
      (s := { earlier := s.probes, current := some (importedProbe py matchers probe) })
      (fun p hp ↦ h p (List.mem_cons_of_mem probe hp)) hshort.2
      (by simp only [ServiceImport.probes, List.length_append, Option.toList_some, List.length_cons,
            List.length_nil] at hcount ⊢; omega)
      (fun p hp ↦ hrules p (List.mem_cons_of_mem probe hp))
      (by simpa [ServiceImport.probes, importedProbe, importedHeader] using hnames)
      (by simpa [ServiceImport.probes, Nat.add_assoc] using horders)
      (k + (probeLines py matchers probe).length)
    refine ⟨s', ?_, ?_⟩
    · rw [numbered_append, List.foldlM_append]
      exact bind_eq_ok.mpr ⟨_, hnext, hrest⟩
    · rw [hprobes]
      simp [ServiceImport.probes]

end

end Skan.Corpus

import Skan.Db.OsDatabase

/-!
# Failed loads

A load that fails should leave nothing behind: no entries, and the reported status in the database.
Neither parser keeps to that everywhere.

* The service parser does, except at four kinds of fields (`keptField_iff`, `keptRule_iff`): there
  it returns the probes of the lines before. `load_file` reports a file that is too large or cannot
  be read next to a database of status `Ok`.
* The parser of OS fingerprints empties the database, but sets its status only for a text that is
  too large.

`leavesNothing_iff` says so exactly.
-/

namespace Skan.Detect.ServiceDb

open Skan.Core Skan.PortScan

variable {library : DatabaseLibrary}

/-! ### Folds that fail -/

section

variable {α β ε : Type*} {f : β → α → Except ε β}

/-- A fold fails at an element, behind others that it gets through. -/
theorem foldlM_eq_error_iff {l : List α} {b : β} {e : ε} :
    l.foldlM f b = .error e ↔ ∃ front a back b', l = front ++ a :: back ∧
      front.foldlM f b = .ok b' ∧ f b' a = .error e := by
  induction l generalizing b with
  | nil =>
    constructor
    · exact fun h ↦ nomatch h
    · rintro ⟨front, a, back, b', h, -⟩
      exact absurd h.symm (by simp)
  | cons a l ih =>
    rw [List.foldlM_cons]
    cases hstep : f b a with
    | error e' =>
      constructor
      · intro h
        obtain rfl := Except.error.inj h
        exact ⟨[], a, l, b, rfl, rfl, hstep⟩
      · rintro ⟨front, a', back, b', hl, hfront, herror⟩
        cases front with
        | nil =>
          obtain ⟨rfl, rfl⟩ := List.cons.inj hl
          obtain rfl := Except.ok.inj hfront
          exact congrArg _ (Except.error.inj (hstep.symm.trans herror))
        | cons c front =>
          obtain ⟨rfl, rfl⟩ := List.cons.inj hl
          rw [List.foldlM_cons, hstep] at hfront
          exact nomatch hfront
    | ok b₁ =>
      show l.foldlM f b₁ = _ ↔ _
      rw [ih]
      constructor
      · rintro ⟨front, a', back, b', rfl, hfront, herror⟩
        refine ⟨a :: front, a', back, b', rfl, ?_, herror⟩
        rw [List.foldlM_cons, hstep]
        exact hfront
      · rintro ⟨front, a', back, b', hl, hfront, herror⟩
        cases front with
        | nil =>
          obtain ⟨rfl, rfl⟩ := List.cons.inj hl
          obtain rfl := Except.ok.inj hfront
          exact nomatch hstep.symm.trans herror
        | cons c front =>
          obtain ⟨rfl, rfl⟩ := List.cons.inj hl
          rw [List.foldlM_cons, hstep] at hfront
          exact ⟨front, a', back, b', rfl, hfront, herror⟩

end

/-! ### Where the service parser keeps the probes -/

/-- A field of a probe that is at fault in its `rarity` or its `ports`. -/
def KeptField (protocol : Protocol) (token : Text) : Prop :=
  ∃ key value, splitAssignment token = some (key, value) ∧
    (key = literal "rarity" ∧ (parseUnsigned value).filter (· ≠ 0) = none ∨
      key = literal "ports" ∧ (parsePorts value protocol).status ≠ .ok)

/-- A field of a rule that is at fault in its `type` or its `confidence`. -/
def KeptRule (library : DatabaseLibrary) (token : Text) : Prop :=
  ∃ key value, splitAssignment token = some (key, value) ∧
    (key = literal "type" ∧ parseMatchType value = none ∨
      key = literal "confidence" ∧ parseConfidence library value = none)

theorem keptField_iff {definition : ServiceProbeDefinition} {token : Text} :
    probeField definition token = .error .kept ↔ KeptField definition.protocol token := by
  unfold probeField KeptField
  cases hsplit : splitAssignment token with
  | none => simp
  | some assignment =>
    obtain ⟨key, value⟩ := assignment
    simp only [Option.some.injEq, Prod.mk.injEq]
    have hother : key ≠ literal "rarity" → key ≠ literal "ports" →
        ¬ ∃ key' value', (key = key' ∧ value = value') ∧
          (key' = literal "rarity" ∧ (parseUnsigned value').filter (· ≠ 0) = none ∨
            key' = literal "ports" ∧ (parsePorts value' definition.protocol).status ≠ .ok) := by
      rintro hrarity hports ⟨_, _, ⟨rfl, rfl⟩, h | h⟩
      · exact hrarity h.1
      · exact hports h.1
    by_cases hrarity : key = literal "rarity"
    · subst hrarity
      rw [if_pos rfl]
      have hports : literal "rarity" ≠ literal "ports" := by decide
      cases hvalue : (parseUnsigned value).filter (· ≠ 0) with
      | none => exact iff_of_true rfl ⟨_, _, ⟨rfl, rfl⟩, .inl ⟨rfl, hvalue⟩⟩
      | some rarity =>
        refine iff_of_false (fun h ↦ nomatch h) ?_
        rintro ⟨_, _, ⟨rfl, rfl⟩, h | h⟩
        · exact nomatch hvalue.symm.trans h.2
        · exact hports h.1
    rw [if_neg hrarity]
    by_cases hpriority : key = literal "priority"
    · rw [if_pos hpriority]
      refine iff_of_false ?_ (hother hrarity (hpriority ▸ by decide))
      split <;> exact fun h ↦ nomatch h
    rw [if_neg hpriority]
    by_cases htimeout : key = literal "timeout"
    · rw [if_pos htimeout]
      refine iff_of_false ?_ (hother hrarity (htimeout ▸ by decide))
      split <;> exact fun h ↦ nomatch h
    rw [if_neg htimeout]
    by_cases hfallback : key = literal "fallback"
    · rw [if_pos hfallback]
      refine iff_of_false ?_ (hother hrarity (hfallback ▸ by decide))
      split <;> exact fun h ↦ nomatch h
    rw [if_neg hfallback]
    by_cases hports : key = literal "ports"
    · rw [if_pos hports]
      subst hports
      by_cases hstatus : (parsePorts value definition.protocol).status = .ok
      · rw [if_neg (not_not_intro hstatus)]
        refine iff_of_false (fun h ↦ nomatch h) ?_
        rintro ⟨_, _, ⟨rfl, rfl⟩, h | h⟩
        · exact hrarity h.1
        · exact h.2 hstatus
      · rw [if_pos hstatus]
        exact iff_of_true rfl ⟨_, _, ⟨rfl, rfl⟩, .inr ⟨rfl, hstatus⟩⟩
    rw [if_neg hports]
    refine iff_of_false ?_ (hother hrarity hports)
    split_ifs <;> exact fun h ↦ nomatch h

theorem keptRule_iff {fields : RuleFields} {token : Text} :
    ruleField library fields token = .error .kept ↔ KeptRule library token := by
  unfold ruleField KeptRule
  cases hsplit : splitAssignment token with
  | none => simp
  | some assignment =>
    obtain ⟨key, value⟩ := assignment
    simp only [Option.some.injEq, Prod.mk.injEq]
    have hconfidence : literal "type" ≠ literal "confidence" := by decide
    by_cases htype : key = literal "type"
    · subst htype
      rw [if_pos rfl]
      cases hvalue : parseMatchType value with
      | none => exact iff_of_true rfl ⟨_, _, ⟨rfl, rfl⟩, .inl ⟨rfl, hvalue⟩⟩
      | some type =>
        refine iff_of_false (fun h ↦ nomatch h) ?_
        rintro ⟨_, _, ⟨rfl, rfl⟩, h | h⟩
        · exact nomatch hvalue.symm.trans h.2
        · exact hconfidence h.1
    rw [if_neg htype]
    by_cases hkey : key = literal "confidence"
    · subst hkey
      rw [if_neg (by decide), if_neg (by decide), if_neg (by decide), if_neg (by decide),
        if_neg (by decide), if_neg (by decide), if_neg (by decide), if_pos rfl]
      cases hvalue : parseConfidence library value with
      | none => exact iff_of_true rfl ⟨_, _, ⟨rfl, rfl⟩, .inr ⟨rfl, hvalue⟩⟩
      | some confidence =>
        refine iff_of_false (fun h ↦ nomatch h) ?_
        rintro ⟨_, _, ⟨rfl, rfl⟩, h | h⟩
        · exact htype h.1
        · exact nomatch hvalue.symm.trans h.2
    · refine iff_of_false ?_ ?_
      · split_ifs <;> exact fun h ↦ nomatch h
      · rintro ⟨_, _, ⟨rfl, rfl⟩, h | h⟩
        · exact htype h.1
        · exact hkey h.1

/-- A line at which `parse` gives up with the probes of the lines before: a `Probe` or a `match`
line whose first field at fault is one of these. -/
def KeptLine (library : DatabaseLibrary) (probes : List ServiceProbeDefinition) (line : Text) :
    Prop :=
  line.length ≤ maximumLineBytes ∧ ∃ first tokens,
    tokenize (trim (withoutComment line)) = some (first :: tokens) ∧
    ((first = literal "Probe" ∧ probes.length < maximumProbeCount ∧
        ∃ transport name front token back definition,
          tokens = transport :: name :: (front ++ token :: back) ∧
          ((transport = literal "TCP" ∧
              front.foldlM probeField { id := name, name, protocol := .tcp } = .ok definition) ∨
            (transport = literal "UDP" ∧
              front.foldlM probeField { id := name, name, protocol := .udp } = .ok definition)) ∧
          KeptField definition.protocol token) ∨
      ((first = literal "match" ∨ first = literal "softmatch") ∧ probes ≠ [] ∧
        ∃ front token back fields, tokens = front ++ token :: back ∧
          front.foldlM (ruleField library)
            { rule := { strength := if first = literal "softmatch" then .soft else .hard } } =
              .ok fields ∧
          KeptRule library token))

theorem foldlM_probeField_iff {definition : ServiceProbeDefinition} {fields : List Text} :
    fields.foldlM probeField definition = .error .kept ↔
      ∃ front token back definition', fields = front ++ token :: back ∧
        front.foldlM probeField definition = .ok definition' ∧
        KeptField definition'.protocol token := by
  rw [foldlM_eq_error_iff]
  simp only [keptField_iff]

theorem probeLine_iff {count : ℕ} {tokens : List Text} :
    probeLine count tokens = .error .kept ↔ count < maximumProbeCount ∧
      ∃ transport name front token back definition,
        tokens = transport :: name :: (front ++ token :: back) ∧
        ((transport = literal "TCP" ∧
            front.foldlM probeField { id := name, name, protocol := .tcp } = .ok definition) ∨
          (transport = literal "UDP" ∧
            front.foldlM probeField { id := name, name, protocol := .udp } = .ok definition)) ∧
        KeptField definition.protocol token := by
  unfold probeLine
  split
  · rename_i transport name fields
    have htcp : literal "TCP" ≠ literal "UDP" := by decide
    split_ifs with hguard hudp
    · refine iff_of_false (fun h ↦ nomatch h) ?_
      rintro ⟨hcount, _, _, front, token, back, definition, htokens, htransport, -⟩
      cases htokens
      simp only [Bool.or_eq_true, Bool.and_eq_true, decide_eq_true_eq] at hguard
      rcases hguard with ⟨hnotTcp, hnotUdp⟩ | hmany
      · exact htransport.elim (fun h ↦ hnotTcp h.1) fun h ↦ hnotUdp h.1
      · exact absurd hcount (Nat.not_lt.mpr hmany)
    · subst hudp
      simp only [Bool.or_eq_true, Bool.and_eq_true, decide_eq_true_eq, not_or, Nat.not_le] at hguard
      rw [foldlM_probeField_iff]
      constructor
      · rintro ⟨front, token, back, definition, rfl, hfold, hkept⟩
        exact ⟨hguard.2, _, _, front, token, back, definition, rfl, .inr ⟨rfl, hfold⟩, hkept⟩
      · rintro ⟨-, _, _, front, token, back, definition, htokens, htransport, hkept⟩
        cases htokens
        have hfold := htransport.resolve_left fun h ↦ htcp h.1.symm
        exact ⟨front, token, back, definition, rfl, hfold.2, hkept⟩
    · simp only [Bool.or_eq_true, Bool.and_eq_true, decide_eq_true_eq, not_or, Nat.not_le] at hguard
      obtain rfl : transport = literal "TCP" := by
        by_contra hne
        exact hguard.1 ⟨hne, hudp⟩
      rw [foldlM_probeField_iff]
      constructor
      · rintro ⟨front, token, back, definition, rfl, hfold, hkept⟩
        exact ⟨hguard.2, _, _, front, token, back, definition, rfl, .inl ⟨rfl, hfold⟩, hkept⟩
      · rintro ⟨-, _, _, front, token, back, definition, htokens, htransport, hkept⟩
        cases htokens
        have hfold := htransport.resolve_right fun h ↦ htcp h.1
        exact ⟨front, token, back, definition, rfl, hfold.2, hkept⟩
  · rename_i hother
    refine iff_of_false (fun h ↦ nomatch h) ?_
    rintro ⟨-, transport, name, front, token, back, -, rfl, -⟩
    exact hother _ _ _ rfl

theorem ruleLine_iff {strength : ServiceMatchStrength} {count : ℕ} {tokens : List Text} :
    ruleLine library strength count tokens = .error .kept ↔
      ∃ front token back fields, tokens = front ++ token :: back ∧
        front.foldlM (ruleField library) { rule := { strength } } = .ok fields ∧
        KeptRule library token := by
  have hfold : tokens.foldlM (ruleField library) { rule := { strength } } = .error .kept ↔
      ∃ front token back fields, tokens = front ++ token :: back ∧
        front.foldlM (ruleField library) { rule := { strength } } = .ok fields ∧
        KeptRule library token := by
    rw [foldlM_eq_error_iff]
    simp only [keptRule_iff]
  rw [← hfold, ruleLine]
  cases tokens.foldlM (ruleField library) { rule := { strength } } with
  | error exit =>
    show (Except.error exit : Except Exit ServiceMatchRule) = .error .kept ↔ _
    rw [Except.error.injEq, Except.error.injEq]
  | ok fields =>
    -- what is checked of a rule in the end clears the probes
    refine iff_of_false (fun h ↦ ?_) fun h ↦ nomatch h
    change (if _ then _ else _) = _ at h
    dsimp only at h
    split_ifs at h <;> exact nomatch h

section

variable {library : DatabaseLibrary} {probes : List ServiceProbeDefinition} {line first : Text}
  {tokens : List Text}

/-- A `Probe` line is what the rest of its tokens are as a probe. -/
theorem parseLine_probe (hlength : line.length ≤ maximumLineBytes)
    (h : tokenize (trim (withoutComment line)) = some (literal "Probe" :: tokens)) :
    parseLine library probes line =
      (fun probe ↦ probes ++ [probe]) <$> probeLine probes.length tokens := by
  have hcontent : trim (withoutComment line) ≠ [] := by
    intro hempty
    rw [hempty] at h
    exact nomatch h
  rw [parseLine, if_neg (Nat.not_lt.mpr hlength)]
  dsimp only [bind, Except.bind, pure, Except.pure]
  rw [if_neg hcontent, h]
  dsimp only
  rw [if_pos rfl]
  show _ = Except.map _ _
  cases probeLine probes.length tokens <;> rfl

/-- A `match` line is what the rest of its tokens are as a rule of the last probe. -/
theorem parseLine_rule {current : ServiceProbeDefinition} (hlength : line.length ≤ maximumLineBytes)
    (h : tokenize (trim (withoutComment line)) = some (first :: tokens))
    (hfirst : first = literal "match" ∨ first = literal "softmatch")
    (hlast : probes.getLast? = some current) :
    parseLine library probes line =
      (fun rule ↦ probes.dropLast ++ [{ current with rules := current.rules ++ [rule] }]) <$>
        ruleLine library (if first = literal "softmatch" then .soft else .hard)
          current.rules.length tokens := by
  have hcontent : trim (withoutComment line) ≠ [] := by
    intro hempty
    rw [hempty] at h
    exact nomatch h
  have hprobe : first ≠ literal "Probe" := by
    rintro rfl
    exact absurd hfirst (by decide)
  have hsend : first ≠ literal "send" := by
    rintro rfl
    exact absurd hfirst (by decide)
  rw [parseLine, if_neg (Nat.not_lt.mpr hlength)]
  dsimp only [bind, Except.bind, pure, Except.pure]
  rw [if_neg hcontent, h]
  dsimp only
  rw [if_neg hprobe, if_neg hsend, if_pos (by simpa using hfirst), hlast]
  show _ = Except.map _ _
  dsimp only
  generalize (if first = literal "softmatch" then ServiceMatchStrength.soft else .hard) = strength
  cases ruleLine library strength current.rules.length tokens <;> rfl

/-- No other line leaves the probes. -/
theorem directive_of_kept (h : parseLine library probes line = .error .kept) :
    line.length ≤ maximumLineBytes ∧ ∃ first tokens,
      tokenize (trim (withoutComment line)) = some (first :: tokens) ∧
      (first = literal "Probe" ∨
        (first = literal "match" ∨ first = literal "softmatch") ∧ probes ≠ []) := by
  rw [parseLine] at h
  dsimp only [bind, Except.bind, pure, Except.pure] at h
  split_ifs at h with hlong hempty
  · exact nomatch h
  · exact nomatch h
  refine ⟨Nat.not_lt.mp hlong, ?_⟩
  split at h
  · exact nomatch h
  · exact nomatch h
  rename_i first tokens htokens
  refine ⟨first, tokens, htokens, ?_⟩
  by_cases hprobe : first = literal "Probe"
  · exact .inl hprobe
  rw [if_neg hprobe] at h
  by_cases hsend : first = literal "send"
  · -- a `send` line that is at fault clears the probes
    rw [if_pos hsend] at h
    split at h <;> exact nomatch h
  rw [if_neg hsend] at h
  by_cases hrule : first = literal "match" ∨ first = literal "softmatch"
  · refine .inr ⟨hrule, ?_⟩
    rintro rfl
    rw [if_pos (by simpa using hrule), List.getLast?_nil] at h
    exact nomatch h
  · rw [if_neg (by simpa using hrule)] at h
    exact nomatch h

end

theorem map_eq_error_iff {ε α β : Type*} {x : Except ε α} {f : α → β} {e : ε} :
    Except.map f x = .error e ↔ x = .error e := by
  cases x <;> simp [Except.map]

theorem parseLine_iff {probes : List ServiceProbeDefinition} {line : Text} :
    parseLine library probes line = .error .kept ↔ KeptLine library probes line := by
  constructor
  · intro h
    obtain ⟨hlength, first, tokens, htokens, rfl | ⟨hrule, hne⟩⟩ := directive_of_kept h
    · rw [parseLine_probe hlength htokens] at h
      have hprobe := probeLine_iff.mp (map_eq_error_iff.mp h)
      exact ⟨hlength, _, tokens, htokens, .inl ⟨rfl, hprobe⟩⟩
    · have hlast := List.getLast?_eq_getLast_of_ne_nil hne
      rw [parseLine_rule hlength htokens hrule hlast] at h
      have hkept := ruleLine_iff.mp (map_eq_error_iff.mp h)
      exact ⟨hlength, first, tokens, htokens, .inr ⟨hrule, hne, hkept⟩⟩
  · rintro ⟨hlength, first, tokens, htokens, ⟨rfl, hprobe⟩ | ⟨hrule, hne, hkept⟩⟩
    · rw [parseLine_probe hlength htokens]
      exact map_eq_error_iff.mpr (probeLine_iff.mpr hprobe)
    · rw [parseLine_rule hlength htokens hrule (List.getLast?_eq_getLast_of_ne_nil hne)]
      exact map_eq_error_iff.mpr (ruleLine_iff.mpr hkept)

/-! ### What a failed load leaves -/

/-- A load that failed has left no probes, and its status. -/
def Load.LeavesNothing (load : Load) : Prop :=
  load.status ≠ .ok → load.database.probes = [] ∧ load.database.status = load.status

/-- A line at which the probes of those before it are kept, and there are some. -/
def KeptText (library : DatabaseLibrary) (text : Text) : Prop :=
  ∃ front line back probes, lines text = front ++ line :: back ∧
    front.foldlM (parseLine library) [] = .ok probes ∧ probes ≠ [] ∧
    KeptLine library probes line

theorem leavesNothing_parseLines {lines : List Text} {probes : List ServiceProbeDefinition} :
    (parseLines library probes lines).LeavesNothing ↔
      ¬ ∃ front line back probes', lines = front ++ line :: back ∧
        front.foldlM (parseLine library) probes = .ok probes' ∧ probes' ≠ [] ∧
        parseLine library probes' line = .error .kept := by
  induction lines generalizing probes with
  | nil =>
    refine iff_of_true (fun h ↦ ⟨if_pos h, rfl⟩) ?_
    rintro ⟨front, line, back, probes', h, -⟩
    exact absurd h.symm (by simp)
  | cons line lines ih =>
    cases hline : parseLine library probes line with
    | ok next =>
      rw [parseLines, hline]
      dsimp only
      rw [ih, not_iff_not]
      constructor
      · rintro ⟨front, line', back, probes', rfl, hfront, hne, hkept⟩
        refine ⟨line :: front, line', back, probes', rfl, ?_, hne, hkept⟩
        rw [List.foldlM_cons, hline]
        exact hfront
      · rintro ⟨front, line', back, probes', hlines, hfront, hne, hkept⟩
        cases front with
        | nil =>
          obtain ⟨rfl, rfl⟩ := List.cons.inj hlines
          obtain rfl := Except.ok.inj hfront
          exact nomatch hline.symm.trans hkept
        | cons _ front =>
          obtain ⟨rfl, rfl⟩ := List.cons.inj hlines
          rw [List.foldlM_cons, hline] at hfront
          exact ⟨front, line', back, probes', rfl, hfront, hne, hkept⟩
    | error exit =>
      -- no line behind this one is read
      have honly : (∃ front line' back probes', line :: lines = front ++ line' :: back ∧
          front.foldlM (parseLine library) probes = .ok probes' ∧ probes' ≠ [] ∧
          parseLine library probes' line' = .error .kept) ↔ probes ≠ [] ∧ exit = .kept := by
        constructor
        · rintro ⟨front, line', back, probes', hlines, hfront, hne, hkept⟩
          cases front with
          | nil =>
            obtain ⟨rfl, rfl⟩ := List.cons.inj hlines
            obtain rfl := Except.ok.inj hfront
            exact ⟨hne, Except.error.inj (hline.symm.trans hkept)⟩
          | cons _ front =>
            obtain ⟨rfl, rfl⟩ := List.cons.inj hlines
            rw [List.foldlM_cons, hline] at hfront
            exact nomatch hfront
        · rintro ⟨hne, rfl⟩
          exact ⟨[], line, lines, probes, rfl, rfl, hne, hline⟩
      rw [honly, parseLines, hline]
      cases exit with
      | cleared => exact iff_of_true (fun _ ↦ ⟨rfl, rfl⟩) fun h ↦ nomatch h.2
      | kept =>
        rw [and_iff_left rfl, not_not]
        exact ⟨fun h ↦ (h StatusCode.noConfusion).1, fun h _ ↦ ⟨h, rfl⟩⟩

theorem leavesNothing_parse {text : Text} :
    (parse library text).LeavesNothing ↔
      maximumDatabaseBytes < text.length ∨ ¬ KeptText library text := by
  by_cases hlength : maximumDatabaseBytes < text.length
  · rw [parse, if_pos hlength]
    exact iff_of_true (fun _ ↦ ⟨rfl, rfl⟩) (.inl hlength)
  · rw [parse, if_neg hlength, leavesNothing_parseLines, KeptText, or_iff_right hlength]
    simp only [parseLine_iff]

theorem leavesNothing_loadFile {file : Option FileContents} :
    (loadFile library file).LeavesNothing ↔
      ∀ f ∈ file, f.contents.length ≤ maximumDatabaseBytes ∧ f.bad = false ∧
        ¬ KeptText library f.contents := by
  cases file with
  | none => exact iff_of_true (fun _ ↦ ⟨rfl, rfl⟩) fun _ h ↦ nomatch h
  | some f =>
    have hstays : ∀ status, status ≠ .ok → ¬ Load.LeavesNothing { database := {}, status } :=
      fun status hne h ↦ hne (h hne).2.symm
    rw [loadFile]
    simp only [Option.mem_some_iff, forall_eq']
    by_cases hlength : maximumDatabaseBytes < f.contents.length
    · rw [if_pos hlength]
      exact iff_of_false (hstays _ (by decide)) fun h ↦ Nat.not_lt.mpr h.1 hlength
    rw [if_neg hlength]
    by_cases hbad : f.bad = true
    · rw [if_pos hbad]
      refine iff_of_false (hstays _ (by decide)) fun h ↦ ?_
      rw [hbad] at h
      exact nomatch h.2.1
    · rw [if_neg hbad, leavesNothing_parse, or_iff_right hlength]
      rw [Bool.not_eq_true] at hbad
      exact ⟨fun h ↦ ⟨Nat.not_lt.mp hlength, hbad, h⟩, fun h ↦ h.2.2⟩

end Skan.Detect.ServiceDb

namespace Skan.Db

open Skan.Core Skan.Detect

namespace OsDb

/-- A load that failed has left no fingerprints, and its status. -/
def Load.LeavesNothing (load : Load) : Prop :=
  load.status ≠ .ok → load.database.fingerprints = [] ∧ load.database.status = load.status

/-- Every line can be read where it stands, and what is open then can be closed. -/
def AcceptsAll (expectedFamily : AddressFamily) (text : Text) : Prop :=
  ∃ s s', (ServiceDb.lines text).foldlM (osLine expectedFamily) {} = some s ∧
    finalize expectedFamily s = some s' ∧ s'.fingerprints ≠ []

theorem leavesNothing_parse {expectedFamily : AddressFamily} {text : Text} :
    (parse expectedFamily text).LeavesNothing ↔
      maximumDatabaseBytes < text.length ∨ AcceptsAll expectedFamily text := by
  by_cases hlength : maximumDatabaseBytes < text.length
  · rw [parse, if_pos hlength]
    exact iff_of_true (fun _ ↦ ⟨rfl, rfl⟩) (.inl hlength)
  have hstays : ¬ Load.LeavesNothing { database := {}, status := .parseError } :=
    fun h ↦ nomatch (h (by decide)).2
  rw [parse, if_neg hlength, or_iff_right hlength, AcceptsAll]
  cases hread : (ServiceDb.lines text).foldlM (osLine expectedFamily) {} with
  | none =>
    refine iff_of_false hstays ?_
    rintro ⟨s, s', h, -⟩
    exact nomatch h
  | some s =>
    dsimp only [Option.bind]
    cases hfinal : finalize expectedFamily s with
    | none =>
      refine iff_of_false hstays ?_
      rintro ⟨_, s', hs, h, -⟩
      obtain rfl := Option.some.inj hs
      exact nomatch hfinal.symm.trans h
    | some s' =>
      dsimp only
      by_cases hempty : s'.fingerprints = []
      · rw [if_pos hempty]
        refine iff_of_false hstays ?_
        rintro ⟨_, s'', hs, h, hne⟩
        obtain rfl := Option.some.inj hs
        obtain rfl := Option.some.inj (hfinal.symm.trans h)
        exact hne hempty
      · rw [if_neg hempty]
        exact iff_of_true (fun h ↦ absurd rfl h) ⟨s, s', rfl, hfinal, hempty⟩

end OsDb

/-- **What a failed load leaves**: exactly for these texts and files, nothing. -/
theorem leavesNothing_iff (library : DatabaseLibrary) (text : Text)
    (file : Option ServiceDb.FileContents) (expectedFamily : AddressFamily) :
    ((ServiceDb.parse library text).LeavesNothing ↔
      ServiceDb.maximumDatabaseBytes < text.length ∨ ¬ ServiceDb.KeptText library text) ∧
    ((ServiceDb.loadFile library file).LeavesNothing ↔
      ∀ f ∈ file, f.contents.length ≤ ServiceDb.maximumDatabaseBytes ∧ f.bad = false ∧
        ¬ ServiceDb.KeptText library f.contents) ∧
    ((OsDb.parse expectedFamily text).LeavesNothing ↔
      OsDb.maximumDatabaseBytes < text.length ∨ OsDb.AcceptsAll expectedFamily text) :=
  ⟨ServiceDb.leavesNothing_parse, ServiceDb.leavesNothing_loadFile, OsDb.leavesNothing_parse⟩

/-- A rarity of zero behind another probe, a file that cannot be read, and a line outside of any
fingerprint. -/
theorem not_leavesNothing :
    ¬ (ServiceDb.parse ⟨fun _ ↦ true, fun _ ↦ none⟩
        (literal "Probe TCP a\nProbe TCP b rarity=0\n")).LeavesNothing ∧
      ¬ (ServiceDb.loadFile ⟨fun _ ↦ true, fun _ ↦ none⟩
        (some { contents := [], bad := true })).LeavesNothing ∧
      ¬ (OsDb.parse .unknown (literal "TTL=64\n")).LeavesNothing := by
  refine ⟨fun h ↦ ?_, fun h ↦ ?_, fun h ↦ ?_⟩
  · exact absurd (h (by decide +kernel)).1 (by decide +kernel)
  · exact absurd (h (by decide +kernel)).2 (by decide +kernel)
  · exact absurd (h (by decide +kernel)).2 (by decide +kernel)

end Skan.Db

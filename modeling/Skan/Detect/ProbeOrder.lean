import Skan.Detect.ServiceDb

/-!
# The order of the probes

`ordered_probe_indices` of a database that `parse` accepted: the probes with a hint for the port,
the fallbacks of these, and the others (`isProbeOrder_orderedProbeIndices`).

That every fallback is a probe of the port's protocol is not checked there. It is what `parse`
checks in the end (`finished_of_parse`).
-/

namespace Skan.Detect

open Skan.Core Skan.PortScan

/-! ### Comparing by keys -/

section

variable {α β : Type*}

/-- A strict order in which any two can be compared. -/
structure Ranking (r : α → α → Prop) : Prop where
  trans : ∀ {a b c}, r a b → r b c → r a c
  asymm : ∀ {a b}, r a b → ¬ r b a
  eq : ∀ {a b}, ¬ r a b → ¬ r b a → a = b

/-- Compares by a key, and by something else where the keys are the same. -/
def byKey (lt : β → β → Prop) (key : α → β) (next : α → α → Prop) (a b : α) : Prop :=
  lt (key a) (key b) ∨ key a = key b ∧ next a b

/-- A key first, and then another ranking. -/
theorem Ranking.byKey {lt : β → β → Prop} (hlt : Ranking lt) (key : α → β) {next : α → α → Prop}
    (h : Ranking next) : Ranking (byKey lt key next) where
  trans := by
    rintro a b c (hab | ⟨hab, hab'⟩) (hbc | ⟨hbc, hbc'⟩)
    · exact .inl (hlt.trans hab hbc)
    · exact .inl (hbc ▸ hab)
    · exact .inl (hab ▸ hbc)
    · exact .inr ⟨hab.trans hbc, h.trans hab' hbc'⟩
  asymm := by
    rintro a b (hab | ⟨hab, hab'⟩) (hba | ⟨hba, hba'⟩)
    · exact hlt.asymm hab hba
    · exact hlt.asymm hab (hba ▸ hab)
    · exact hlt.asymm hba (hab ▸ hba)
    · exact h.asymm hab' hba'
  eq := by
    intro a b hab hba
    have hkey : key a = key b := hlt.eq (fun hlt ↦ hab (.inl hlt)) fun hlt ↦ hba (.inl hlt)
    exact h.eq (fun hnext ↦ hab (.inr ⟨hkey, hnext⟩)) fun hnext ↦ hba (.inr ⟨hkey.symm, hnext⟩)

theorem Ranking.flip {r : α → α → Prop} (h : Ranking r) : Ranking fun a b ↦ r b a where
  trans := fun hab hbc ↦ h.trans hbc hab
  asymm := fun hab hba ↦ h.asymm hab hba
  eq := fun hab hba ↦ h.eq hba hab

theorem ranking_nat : Ranking fun a b : ℕ ↦ a < b where
  trans := Nat.lt_trans
  asymm := Nat.lt_asymm
  eq := fun hab hba ↦ Nat.le_antisymm (Nat.not_lt.mp hba) (Nat.not_lt.mp hab)

theorem ranking_text : Ranking fun a b : Text ↦ a < b where
  trans := List.lt_trans
  asymm := fun hab hba ↦ List.lt_irrefl _ (List.lt_trans hab hba)
  eq := fun hab hba ↦ List.le_antisymm hba hab

/-- `true` before `false`. -/
theorem ranking_bool : Ranking fun a b : Bool ↦ a = true ∧ b = false where
  trans := fun hab hbc ↦ ⟨hab.1, hbc.2⟩
  asymm := fun hab hba ↦ Bool.false_ne_true (hab.2.symm.trans hba.1)
  eq := by decide

/-- A comparison of keys, as the source writes it. -/
theorem ite_ne_iff {x y : β} [DecidableEq β] {lt next : Bool} (h : lt = true → x ≠ y) :
    (if x ≠ y then lt else next) = true ↔ lt = true ∨ x = y ∧ next = true := by
  by_cases heq : x = y
  · have hlt : ¬ lt = true := fun hlt ↦ h hlt heq
    simp [heq, hlt]
  · simp [heq]

/-- What is sorted so is in this order, if nothing is in it twice. -/
theorem Ranking.pairwise_insertionSort {precedes : α → α → Bool}
    (h : Ranking fun a b ↦ precedes a b = true) {l : List α} (hnodup : l.Nodup) :
    (l.insertionSort fun a b ↦ !precedes b a).Pairwise fun a b ↦ precedes a b = true := by
  have htotal : Std.Total fun a b ↦ (!precedes b a) = true := by
    refine ⟨fun a b ↦ ?_⟩
    by_cases hba : precedes b a = true
    · exact .inr (by simpa using h.asymm hba)
    · exact .inl (by simpa using hba)
  have htrans : IsTrans α fun a b ↦ (!precedes b a) = true := by
    refine ⟨fun a b c hab hbc ↦ ?_⟩
    simp only [Bool.not_eq_true'] at hab hbc ⊢
    by_contra hca
    rw [Bool.not_eq_false] at hca
    -- one of `a`, `b` precedes the other, or they are the same
    by_cases hprec : precedes a b = true
    · exact absurd (h.trans hca hprec) (by simp [hbc])
    · obtain rfl := h.eq hprec (by simp [hab])
      exact absurd hca (by simp [hbc])
  have hsorted := List.pairwise_insertionSort (fun a b ↦ (!precedes b a) = true) l
  have hdistinct : (l.insertionSort fun a b ↦ !precedes b a).Nodup :=
    (List.perm_insertionSort _ l).nodup_iff.mpr hnodup
  refine (hsorted.and hdistinct).imp fun {a b} hab ↦ ?_
  by_contra hprec
  exact hab.2 (h.eq hprec (by simpa using hab.1))

end

/-! ### First occurrences -/

/-- `append_unique` of all of a list. -/
theorem foldl_appendUnique_take (maxCount : ℕ) (l acc : List ℕ) :
    l.foldl (ServiceProbeDatabase.appendUnique maxCount) (acc.take maxCount) =
      (acc ++ (l.filter (· ∉ acc)).eraseDups).take maxCount := by
  induction l generalizing acc with
  | nil => simp
  | cons i l ih =>
    by_cases hmem : i ∈ acc
    · have hstep : ServiceProbeDatabase.appendUnique maxCount (acc.take maxCount) i =
          acc.take maxCount := by
        refine if_neg fun h ↦ ?_
        rw [List.length_take, List.take_of_length_le (by omega)] at h
        exact h.2 hmem
      rw [List.foldl_cons, hstep, ih, List.filter_cons_of_neg (by simpa using hmem)]
    · have hstep : ServiceProbeDatabase.appendUnique maxCount (acc.take maxCount) i =
          (acc ++ [i]).take maxCount := by
        rw [ServiceProbeDatabase.appendUnique, List.length_take]
        by_cases hlength : acc.length < maxCount
        · rw [List.take_of_length_le hlength.le, if_pos ⟨by omega, hmem⟩,
            List.take_of_length_le (by rw [List.length_append, List.length_singleton]; omega)]
        · rw [if_neg (by omega), List.take_append_of_le_length (Nat.not_lt.mp hlength)]
      have hfilter : (l.filter (· ∉ acc)).filter (fun j ↦ !j == i) = l.filter (· ∉ acc ++ [i]) := by
        rw [List.filter_filter]
        refine List.filter_congr fun j _ ↦ ?_
        rw [Bool.eq_iff_iff]
        simp only [Bool.and_eq_true, Bool.not_eq_true', beq_eq_false_iff_ne, decide_eq_true_eq,
          List.mem_append, List.mem_singleton]
        tauto
      rw [List.foldl_cons, hstep, ih, List.filter_cons_of_pos (by simpa using hmem),
        List.eraseDups_cons, hfilter, List.append_assoc, List.singleton_append]

/-- `append_unique` of all of a list. -/
theorem foldl_appendUnique (maxCount : ℕ) (l : List ℕ) :
    l.foldl (ServiceProbeDatabase.appendUnique maxCount) [] = l.eraseDups.take maxCount := by
  have hfold := foldl_appendUnique_take maxCount l []
  rwa [List.take_nil, List.nil_append, List.filter_eq_self.mpr fun _ _ ↦ by simp] at hfold

theorem eraseDups_of_nodup {l : List ℕ} (h : l.Nodup) : l.eraseDups = l := by
  induction l with
  | nil => rfl
  | cons i l ih =>
    obtain ⟨hi, hl⟩ := List.nodup_cons.mp h
    have hfilter : l.filter (fun j ↦ !j == i) = l := by
      refine List.filter_eq_self.mpr fun j hj ↦ ?_
      simp only [Bool.not_eq_true', beq_eq_false_iff_ne]
      rintro rfl
      exact hi hj
    rw [List.eraseDups_cons, hfilter, ih hl]

/-- Nothing is left twice. -/
theorem nodup_eraseDups (l : List ℕ) : l.eraseDups.Nodup := by
  induction hlength : l.length using Nat.strong_induction_on generalizing l with
  | _ length ih =>
    cases l with
    | nil => exact List.nodup_nil
    | cons i l =>
      have hle := List.length_filter_le (fun j ↦ !j == i) l
      rw [List.length_cons] at hlength
      rw [List.eraseDups_cons, List.nodup_cons]
      refine ⟨fun hmem ↦ ?_, ih _ (by omega) _ rfl⟩
      rw [List.mem_eraseDups, List.mem_filter] at hmem
      simp at hmem

/-- Three lists behind each other, the first and the last without repetitions. -/
theorem eraseDups_append_append {front between back : List ℕ} (hfront : front.Nodup)
    (hback : back.Nodup) :
    (front ++ between ++ back).eraseDups = front ++ (between.filter (· ∉ front)).eraseDups ++
      back.filter (· ∉ front ++ between) := by
  have hremove : ∀ l l' : List ℕ, l.removeAll l' = l.filter (· ∉ l') := by
    intro l l'
    refine List.filter_congr fun i _ ↦ ?_
    rw [List.elem_eq_mem, decide_not]
  rw [List.eraseDups_append, List.eraseDups_append, eraseDups_of_nodup hfront, hremove, hremove,
    eraseDups_of_nodup (hback.filter _)]

/-! ### What `parse` checks -/

/-- What a database that was accepted holds. -/
theorem finished_of_parseLines {library : DatabaseLibrary} {lines : List Text}
    {probes : List ServiceProbeDefinition}
    (h : (ServiceDb.parseLines library probes lines).status = .ok) :
    ServiceDb.finished (ServiceDb.parseLines library probes lines).database.probes = .ok ∧
      (ServiceDb.parseLines library probes lines).database.status = .ok := by
  induction lines generalizing probes with
  | nil =>
    rw [ServiceDb.parseLines] at h ⊢
    dsimp only at h ⊢
    rw [if_neg (not_not_intro h)]
    exact ⟨h, h⟩
  | cons line lines ih =>
    rw [ServiceDb.parseLines] at h ⊢
    cases hline : ServiceDb.parseLine library probes line with
    | ok probes =>
      rw [hline] at h
      exact ih h
    | error exit =>
      rw [hline] at h
      cases exit with
      | cleared => exact nomatch h
      | kept => exact nomatch h

/-- An accepted database has passed its last check. -/
theorem finished_of_parse {library : DatabaseLibrary} {text : Text}
    (h : (ServiceDb.parse library text).status = .ok) :
    ServiceDb.finished (ServiceDb.parse library text).database.probes = .ok ∧
      (ServiceDb.parse library text).database.status = .ok := by
  unfold ServiceDb.parse at h ⊢
  split at h
  · exact nomatch h
  · rename_i hsize
    rw [if_neg hsize]
    exact finished_of_parseLines h

/-- Names are unique, and a fallback is a probe of the same protocol. -/
structure WellNamed (probes : List ServiceProbeDefinition) : Prop where
  nodup : (probes.map (·.name)).Nodup
  fallback : ∀ probe ∈ probes, ∀ name ∈ probe.fallbackProbeNames,
    ∃ other ∈ probes, other.name = name ∧ other.protocol = probe.protocol

/-- So its names are unique and its fallbacks found. -/
theorem wellNamed_of_finished {probes : List ServiceProbeDefinition}
    (h : ServiceDb.finished probes = .ok) : WellNamed probes := by
  unfold ServiceDb.finished at h
  split at h
  · rename_i hchecks
    simp only [Bool.and_eq_true] at hchecks
    obtain ⟨⟨-, hnames⟩, hfallbacks⟩ := hchecks
    simp only [ServiceDb.namesDiffer, Bool.and_eq_true, decide_eq_true_eq] at hnames
    refine ⟨hnames.2, fun probe hprobe name hname ↦ ?_⟩
    have hvalid := List.all_eq_true.mp hfallbacks probe hprobe
    simp only [Bool.and_eq_true] at hvalid
    have hfound := List.all_eq_true.mp hvalid.2 name hname
    simp only [Bool.and_eq_true, decide_eq_true_eq] at hfound
    obtain ⟨other, hother, hprotocol⟩ := (Option.any_eq_true _ _).mp hfound.2
    exact ⟨other, List.mem_of_find?_eq_some hother,
      by simpa using List.find?_some hother, by simpa using hprotocol⟩
  · exact nomatch h

/-! ### The order -/

/-- By priority, then rarity, then name. -/
def Outranks (a b : ServiceProbeDefinition) : Prop :=
  b.priority < a.priority ∨ a.priority = b.priority ∧
    (a.rarity < b.rarity ∨ a.rarity = b.rarity ∧ a.name < b.name)

/-- If no probe has a hint for the port, those without any hint come first. -/
def ComesBefore (anyHint : Prop) (a b : ServiceProbeDefinition) : Prop :=
  (¬ anyHint ∧ a.portHints = [] ∧ b.portHints ≠ []) ∨
    ((¬ anyHint → (a.portHints = [] ↔ b.portHints = [])) ∧ Outranks a b)

/-- The three phases of an order of all of the probes of a port's protocol. -/
structure ProbePhases (database : ServiceProbeDatabase) (port : Port)
    (hinted fallbacks others : List ℕ) : Prop where
  all : (hinted ++ fallbacks ++ others).Perm ((List.range database.probes.length).filter fun i ↦
    (database.probe i).protocol = port.protocol)
  hint_iff : ∀ i ∈ hinted ++ fallbacks ++ others, i ∈ hinted ↔
    ∃ hint ∈ (database.probe i).portHints, hint.number = port.number
  ranked : hinted.Pairwise fun i j ↦ Outranks (database.probe i) (database.probe j)
  named : ∃ named, List.Forall₂ (fun name i ↦ database.probes[i]?.map (·.name) = some name)
      (hinted.flatMap fun i ↦ (database.probe i).fallbackProbeNames) named ∧
    fallbacks = (named.filter (· ∉ hinted)).eraseDups
  remaining : others.Pairwise fun i j ↦
    ComesBefore (hinted ≠ []) (database.probe i) (database.probe j)

/-- What the order of the probes for a port is for. -/
structure IsProbeOrder (database : ServiceProbeDatabase) (port : Port) (maxCount : ℕ)
    (ordered : List ℕ) : Prop where
  nodup : ordered.Nodup
  protocol : ∀ i ∈ ordered, ∃ probe, database.probes[i]? = some probe ∧
    probe.protocol = port.protocol
  length : ordered.length =
    min maxCount (database.probes.countP fun probe ↦ probe.protocol = port.protocol)
  phases : ∃ hinted fallbacks others, ProbePhases database port hinted fallbacks others ∧
    ordered = (hinted ++ fallbacks ++ others).take maxCount

namespace ServiceProbeDatabase

variable (database : ServiceProbeDatabase) (port : Port)

/-- The indices of the probes of the port's protocol. -/
def eligible : List ℕ :=
  (List.range database.probes.length).filter fun i ↦ (database.probe i).protocol = port.protocol

/-- Whether one of them has a hint for the port. -/
def anyHint : Bool := (database.eligible port).any (database.hasHint port)

/-- These indices, sorted. -/
def sorted : List ℕ :=
  (database.eligible port).insertionSort fun i j ↦
    !database.precedes port (database.anyHint port) j i

def hinted : List ℕ := (database.sorted port).filter (database.hasHint port)

/-- The fallbacks of the probes with a hint, as often as they are named. -/
def fallbackIndices : List ℕ :=
  ((database.hinted port).flatMap fun i ↦ (database.probe i).fallbackProbeNames).filterMap
    database.findNamed

def fallbacks : List ℕ :=
  ((database.fallbackIndices port).filter (· ∉ database.hinted port)).eraseDups

def others : List ℕ :=
  (database.sorted port).filter (· ∉ database.hinted port ++ database.fallbackIndices port)

end ServiceProbeDatabase

section

variable {database : ServiceProbeDatabase} {port : Port} {i j : ℕ}

theorem ite_ne_bool (x y next : Bool) :
    (if x ≠ y then x else next) = true ↔ (x = true ∧ y = false) ∨ x = y ∧ next = true := by
  cases x <;> cases y <;> simp

theorem ite_and_ne_bool (c x y next : Bool) :
    (if !c && decide (x ≠ y) then x else next) = true ↔
      ((!c && x) = true ∧ (!c && y) = false) ∨ (!c && x) = (!c && y) ∧ next = true := by
  cases c <;> cases x <;> cases y <;> simp

/-- The comparison of the source, key by key. -/
theorem precedes_iff {anyHint : Bool} :
    database.precedes port anyHint i j = true ↔
      byKey (fun a b ↦ a = true ∧ b = false) (database.hasHint port)
        (byKey (fun a b ↦ a = true ∧ b = false)
          (fun i ↦ !anyHint && (database.probe i).portHints.isEmpty)
          (byKey (fun m n ↦ n < m) (fun i ↦ (database.probe i).priority)
            (byKey (fun m n ↦ m < n) (fun i ↦ (database.probe i).rarity)
              (byKey (fun a b ↦ a < b) (fun i ↦ (database.probe i).name) fun i j ↦ i < j))))
        i j := by
  unfold ServiceProbeDatabase.precedes byKey
  dsimp only
  rw [ite_ne_bool]
  refine or_congr_right (and_congr_right fun _ ↦ ?_)
  rw [ite_and_ne_bool]
  refine or_congr_right (and_congr_right fun _ ↦ ?_)
  rw [ite_ne_iff fun h ↦ (Nat.ne_of_lt (of_decide_eq_true h)).symm, decide_eq_true_eq]
  refine or_congr_right (and_congr_right fun _ ↦ ?_)
  rw [ite_ne_iff fun h ↦ Nat.ne_of_lt (of_decide_eq_true h), decide_eq_true_eq]
  refine or_congr_right (and_congr_right fun _ ↦ ?_)
  rw [ite_ne_iff fun h heq ↦ List.lt_irrefl _ (heq ▸ of_decide_eq_true h), decide_eq_true_eq,
    decide_eq_true_eq]

/-- The comparison ranks. -/
theorem ranking_precedes (anyHint : Bool) :
    Ranking fun i j ↦ database.precedes port anyHint i j = true := by
  simp only [precedes_iff]
  exact ranking_bool.byKey _ (ranking_bool.byKey _ (ranking_nat.flip.byKey _
    (ranking_nat.byKey _ (ranking_text.byKey _ ranking_nat))))

theorem mem_eligible : i ∈ database.eligible port ↔
    ∃ probe, database.probes[i]? = some probe ∧ probe.protocol = port.protocol := by
  rw [ServiceProbeDatabase.eligible, List.mem_filter, List.mem_range, decide_eq_true_eq,
    ServiceProbeDatabase.probe, List.getD_eq_getElem?_getD]
  constructor
  · rintro ⟨hi, hprotocol⟩
    rw [List.getElem?_eq_getElem hi] at hprotocol ⊢
    exact ⟨_, rfl, hprotocol⟩
  · rintro ⟨probe, hprobe, hprotocol⟩
    rw [hprobe]
    exact ⟨(List.getElem?_eq_some_iff.mp hprobe).1, hprotocol⟩

theorem nodup_eligible : (database.eligible port).Nodup := List.nodup_range.filter _

theorem sorted_perm : (database.sorted port).Perm (database.eligible port) :=
  List.perm_insertionSort _ _

theorem nodup_sorted : (database.sorted port).Nodup := sorted_perm.nodup_iff.mpr nodup_eligible

/-- Sorting puts the indices in order. -/
theorem pairwise_sorted : (database.sorted port).Pairwise fun i j ↦
    database.precedes port (database.anyHint port) i j = true :=
  (ranking_precedes _).pairwise_insertionSort nodup_eligible

theorem mem_hinted :
    i ∈ database.hinted port ↔ i ∈ database.eligible port ∧ database.hasHint port i = true := by
  rw [ServiceProbeDatabase.hinted, List.mem_filter, sorted_perm.mem_iff]

theorem nodup_hinted : (database.hinted port).Nodup := nodup_sorted.filter _

theorem eraseDups_phases :
    (database.hinted port ++ database.fallbackIndices port ++ database.sorted port).eraseDups =
      database.hinted port ++ database.fallbacks port ++ database.others port :=
  eraseDups_append_append nodup_hinted nodup_sorted

theorem anyHint_iff : database.anyHint port = true ↔ database.hinted port ≠ [] := by
  rw [ServiceProbeDatabase.anyHint, List.any_eq_true]
  constructor
  · rintro ⟨i, hi⟩
    exact List.ne_nil_of_mem (mem_hinted.mpr hi)
  · intro hne
    obtain ⟨i, hi⟩ := List.exists_mem_of_ne_nil _ hne
    exact ⟨i, mem_hinted.mp hi⟩

/-- Without a hint the first phase finds nothing either way. -/
theorem orderedProbeIndices_eq (hstatus : database.status = .ok) (maxCount : ℕ) :
    database.orderedProbeIndices port maxCount =
      (database.hinted port ++ database.fallbacks port ++ database.others port).take maxCount := by
  have hhinted : (if database.anyHint port then (database.sorted port).filter
      (database.hasHint port) else []) = database.hinted port := by
    by_cases hany : database.anyHint port = true
    · exact if_pos hany
    · rw [if_neg hany]
      exact (not_not.mp (mt anyHint_iff.mpr hany)).symm
  have hfallbacks : ((database.hinted port).flatMap fun i ↦
      (database.probe i).fallbackProbeNames.filterMap database.findNamed) =
        database.fallbackIndices port := by
    rw [ServiceProbeDatabase.fallbackIndices, List.filterMap_flatMap]
  have hphases := foldl_appendUnique maxCount
    (database.hinted port ++ database.fallbackIndices port ++ database.sorted port)
  rw [eraseDups_phases] at hphases
  unfold ServiceProbeDatabase.orderedProbeIndices
  by_cases hcount : maxCount = 0
  · rw [if_pos (.inl hcount), hcount, List.take_zero]
  · have hgoes : ¬ (maxCount = 0 ∨ database.status ≠ .ok) :=
      fun h ↦ h.elim hcount (not_not_intro hstatus)
    rw [if_neg hgoes]
    show List.foldl _ [] ((if database.anyHint port then (database.sorted port).filter
        (database.hasHint port) else []) ++ (List.flatMap _ (if database.anyHint port then
        (database.sorted port).filter (database.hasHint port) else [])) ++
        database.sorted port) = _
    rw [hhinted, hfallbacks]
    exact hphases

/-- The parser's databases find every fallback. -/
theorem findNamed_of_mem (h : WellNamed database.probes) {other : ServiceProbeDefinition}
    (hmem : other ∈ database.probes) :
    ∃ j, database.findNamed other.name = some j ∧ database.probes[j]? = some other := by
  have hsome : (database.findNamed other.name).isSome = true := by
    rw [ServiceProbeDatabase.findNamed, List.findIdx?_isSome, List.any_eq_true]
    exact ⟨other, hmem, decide_eq_true rfl⟩
  obtain ⟨j, hj⟩ := Option.isSome_iff_exists.mp hsome
  obtain ⟨hlt, hname, -⟩ := List.findIdx?_eq_some_iff_getElem.mp hj
  have hsame : database.probes[j] = other :=
    List.inj_on_of_nodup_map h.nodup (List.getElem_mem hlt) hmem (of_decide_eq_true hname)
  exact ⟨j, hj, by rw [List.getElem?_eq_getElem hlt, hsame]⟩

theorem forall₂_filterMap {α β : Type*} {r : α → β → Prop} {f : α → Option β} {l : List α}
    (h : ∀ a ∈ l, ∃ b, f a = some b ∧ r a b) : List.Forall₂ r l (l.filterMap f) := by
  induction l with
  | nil => exact .nil
  | cons a l ih =>
    obtain ⟨b, hb, hr⟩ := h a List.mem_cons_self
    rw [List.filterMap_cons_some hb]
    exact .cons hr (ih fun a' ha' ↦ h a' (List.mem_cons_of_mem a ha'))

theorem probe_eq {probe : ServiceProbeDefinition} (h : database.probes[i]? = some probe) :
    database.probe i = probe := by
  rw [ServiceProbeDatabase.probe, List.getD_eq_getElem?_getD, h, Option.getD_some]

/-- A fallback of a probe with a hint is a probe of its name and of the port's protocol. -/
theorem fallback_spec (h : WellNamed database.probes) {name : Text}
    (hname : name ∈ (database.hinted port).flatMap fun i ↦
      (database.probe i).fallbackProbeNames) :
    ∃ j, database.findNamed name = some j ∧ database.probes[j]?.map (·.name) = some name ∧
      j ∈ database.eligible port := by
  obtain ⟨i, hi, hof⟩ := List.mem_flatMap.mp hname
  obtain ⟨probe, hprobe, hprotocol⟩ := mem_eligible.mp (mem_hinted.mp hi).1
  rw [probe_eq hprobe] at hof
  obtain ⟨other, hother, rfl, hsame⟩ :=
    h.fallback probe (List.mem_of_getElem? hprobe) name hof
  obtain ⟨j, hj, hget⟩ := findNamed_of_mem h hother
  exact ⟨j, hj, by rw [hget]; rfl, mem_eligible.mpr ⟨other, hget, hsame.trans hprotocol⟩⟩

theorem mem_eligible_of_fallback (h : WellNamed database.probes)
    (hj : j ∈ database.fallbackIndices port) : j ∈ database.eligible port := by
  obtain ⟨name, hname, hfound⟩ := List.mem_filterMap.mp hj
  obtain ⟨j', hj', -, hmem⟩ := fallback_spec h hname
  obtain rfl := Option.some.inj (hfound.symm.trans hj')
  exact hmem

theorem nodup_phases : (database.hinted port ++ database.fallbacks port ++
    database.others port).Nodup := by
  rw [← eraseDups_phases]
  exact nodup_eraseDups _

section

variable (h : WellNamed database.probes)

include h

/-- The phases hold the eligible probes. -/
theorem mem_phases :
    i ∈ database.hinted port ++ database.fallbacks port ++ database.others port ↔
      i ∈ database.eligible port := by
  rw [← eraseDups_phases, List.mem_eraseDups, List.mem_append, List.mem_append,
    sorted_perm.mem_iff]
  constructor
  · rintro ((hhinted | hfallback) | hsorted)
    · exact (mem_hinted.mp hhinted).1
    · exact mem_eligible_of_fallback h hfallback
    · exact hsorted
  · exact .inr

/-- Each of them once. -/
theorem phases_perm :
    (database.hinted port ++ database.fallbacks port ++ database.others port).Perm
      (database.eligible port) :=
  (List.perm_ext_iff_of_nodup nodup_phases nodup_eligible).mpr fun _ ↦ mem_phases h

/-- Of two probes of the same kind, the one that is tried first outranks the other. -/
theorem outranks_of_precedes {anyHint : Bool} (hi : i ∈ database.eligible port)
    (hj : j ∈ database.eligible port) (hne : i ≠ j)
    (hhint : database.hasHint port i = database.hasHint port j)
    (hprec : database.precedes port anyHint i j = true) :
    ((!anyHint && (database.probe i).portHints.isEmpty) = true ∧
        (!anyHint && (database.probe j).portHints.isEmpty) = false) ∨
      ((!anyHint && (database.probe i).portHints.isEmpty) =
        (!anyHint && (database.probe j).portHints.isEmpty) ∧
          Outranks (database.probe i) (database.probe j)) := by
  rcases precedes_iff.mp hprec with ⟨hleft, hright⟩ | ⟨-, hgeneric⟩
  · rw [hleft, hright] at hhint
    exact nomatch hhint
  refine hgeneric.imp_right (And.imp_right ?_)
  rintro (hpriority | ⟨hpriority, hrarity | ⟨hrarity, hname | ⟨hname, -⟩⟩⟩)
  · exact .inl hpriority
  · exact .inr ⟨hpriority, .inl hrarity⟩
  · exact .inr ⟨hpriority, .inr ⟨hrarity, hname⟩⟩
  · -- no two probes are of one name
    obtain ⟨probe, hprobe, -⟩ := mem_eligible.mp hi
    obtain ⟨probe', hprobe', -⟩ := mem_eligible.mp hj
    dsimp only at hname
    rw [probe_eq hprobe, probe_eq hprobe'] at hname
    have hlt : i < (database.probes.map (·.name)).length := by
      rw [List.length_map]
      exact (List.getElem?_eq_some_iff.mp hprobe).1
    refine absurd ((List.getElem?_inj hlt h.nodup).mp ?_) hne
    rw [List.getElem?_map, List.getElem?_map, hprobe, hprobe', Option.map_some, Option.map_some,
      hname]

end

theorem hasHint_iff : database.hasHint port i = true ↔
    ∃ hint ∈ (database.probe i).portHints, hint.number = port.number := by
  simp [ServiceProbeDatabase.hasHint]

theorem probePhases (h : WellNamed database.probes) :
    ProbePhases database port (database.hinted port) (database.fallbacks port)
      (database.others port) where
  all := phases_perm h
  hint_iff := by
    intro i hi
    rw [mem_hinted, hasHint_iff]
    exact and_iff_right ((mem_phases h).mp hi)
  ranked := by
    refine ((pairwise_sorted.filter _).and nodup_hinted).imp_of_mem ?_
    rintro i j hi hj ⟨hprec, hne⟩
    have hany : database.anyHint port = true := anyHint_iff.mpr (List.ne_nil_of_mem hi)
    obtain ⟨hi, hihint⟩ := mem_hinted.mp hi
    obtain ⟨hj, hjhint⟩ := mem_hinted.mp hj
    have hranks := outranks_of_precedes h hi hj hne (hihint.trans hjhint.symm) hprec
    rw [hany] at hranks
    exact (hranks.resolve_left fun hgeneric ↦ Bool.false_ne_true hgeneric.1).2
  named := by
    refine ⟨database.fallbackIndices port, forall₂_filterMap fun name hname ↦ ?_, rfl⟩
    obtain ⟨j, hj, hfound, -⟩ := fallback_spec h hname
    exact ⟨j, hj, hfound⟩
  remaining := by
    have hmem : ∀ i ∈ database.others port,
        i ∈ database.eligible port ∧ database.hasHint port i = false := by
      intro i hi
      obtain ⟨hsorted, hnot⟩ := List.mem_filter.mp hi
      have heligible := sorted_perm.mem_iff.mp hsorted
      rw [decide_eq_true_eq, List.mem_append, not_or] at hnot
      exact ⟨heligible, by simpa using mt (fun hhint ↦ mem_hinted.mpr ⟨heligible, hhint⟩) hnot.1⟩
    refine ((pairwise_sorted.filter _).and (nodup_sorted.filter _)).imp_of_mem ?_
    rintro i j hi hj ⟨hprec, hne⟩
    obtain ⟨hi, hihint⟩ := hmem i hi
    obtain ⟨hj, hjhint⟩ := hmem j hj
    have hranks := outranks_of_precedes h hi hj hne (hihint.trans hjhint.symm) hprec
    rw [ComesBefore, ← anyHint_iff]
    cases hany : database.anyHint port with
    | true =>
      rw [hany] at hranks
      exact .inr ⟨fun hnone ↦ absurd rfl hnone,
        (hranks.resolve_left fun hgeneric ↦ Bool.false_ne_true hgeneric.1).2⟩
    | false =>
      rw [hany] at hranks
      refine hranks.imp (fun hgeneric ↦ ?_) fun hgeneric ↦ ⟨fun _ ↦ ?_, hgeneric.2⟩
      · simpa using hgeneric
      · have hempty : (database.probe i).portHints.isEmpty =
            (database.probe j).portHints.isEmpty := hgeneric.1
        rw [← List.isEmpty_iff, ← List.isEmpty_iff, hempty]

/-- As many as have the protocol. -/
theorem length_eligible : (database.eligible port).length =
    database.probes.countP fun probe ↦ probe.protocol = port.protocol := by
  have hprobes : database.probes = (List.range database.probes.length).map database.probe := by
    refine List.ext_getElem (by rw [List.length_map, List.length_range]) fun i hi _ ↦ ?_
    rw [List.getElem_map, List.getElem_range]
    exact (probe_eq (List.getElem?_eq_getElem hi)).symm
  rw [ServiceProbeDatabase.eligible, ← List.countP_eq_length_filter]
  conv_rhs => rw [hprobes, List.countP_map]
  rfl

/-- **The order of the probes** of every database that `parse` accepts. -/
theorem isProbeOrder_orderedProbeIndices {library : DatabaseLibrary} {text : Text}
    (h : (ServiceDb.parse library text).status = .ok) (port : Port) (maxCount : ℕ) :
    IsProbeOrder (ServiceDb.parse library text).database port maxCount
      ((ServiceDb.parse library text).database.orderedProbeIndices port maxCount) := by
  obtain ⟨hfinished, hstatus⟩ := finished_of_parse h
  have hnamed := wellNamed_of_finished hfinished
  rw [orderedProbeIndices_eq hstatus]
  refine ⟨nodup_phases.sublist (List.take_sublist _ _), fun i hi ↦ ?_, ?_, _, _, _,
    probePhases hnamed, rfl⟩
  · exact mem_eligible.mp ((mem_phases hnamed).mp (List.mem_of_mem_take hi))
  · rw [List.length_take, (phases_perm hnamed).length_eq, length_eligible]

theorem isProbeOrder_orderedProbeIndices_fallback :
    let library : DatabaseLibrary := ⟨fun _ ↦ true, fun _ ↦ none⟩
    let text := literal "Probe TCP a ports=80 fallback=c\nProbe TCP b\nProbe TCP c rarity=9\n"
    IsProbeOrder (ServiceDb.parse library text).database { number := 80 } 2
      ((ServiceDb.parse library text).database.orderedProbeIndices { number := 80 } 2) :=
  isProbeOrder_orderedProbeIndices (by decide +kernel) { number := 80 } 2

end

end Skan.Detect

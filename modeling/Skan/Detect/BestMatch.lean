import Mathlib.Data.Prod.Lex
import Skan.Detect.HttpFraming
import Skan.Detect.Matcher

/-!
# The best match

`ServiceMatcher::match` keeps one candidate, the first that no other is better than
(`matchResponse_best`).

For this `service_match_is_better` has to be a strict weak order, and it is not one. It compares
strength, being publishable, priority, confidence and specificity, which are a `rank`, and then
whether the body was complete, but only of two results that both have evidence: one without is
neither better nor worse than one with a complete body and one with an incomplete one
(`not_isStrictWeakOrder_isBetter`). It is a strict order all the same, and a strict weak one among
results that all have evidence, or that all have none.

**A single call stays clear of the difference.** Its candidates are made from one response, so
their evidence says the same about the body (`bodyComplete_of_candidate`), and only the ranks are
left to decide.
-/

namespace Skan.Detect

open Skan.Core

variable {a b : ServiceMatchResult}

/-! ### Keeping the best of a list -/

section Keep

variable {α : Type*} {r : α → α → Bool} {p : α → Prop}

/-- Who goes through a list and keeps the better of two keeps the first of the best: it is better
than those before it, and none after it is better. -/
theorem foldl_keep_split
    (htrans : ∀ a b c, p a → p b → p c → r a b = true → r b c = true → r a c = true)
    (hneg : ∀ a b c, p a → p b → p c → r a c = true → r a b = true ∨ r b c = true)
    {list : List α} {first best : α} (hlist : ∀ a ∈ first :: list, p a)
    (hbest : list.foldl (fun best a ↦ if r a best then a else best) first = best) :
    ∃ before after, first :: list = before ++ best :: after ∧
      (∀ a ∈ before, r best a = true) ∧ ∀ a ∈ after, ¬ r a best = true := by
  induction list generalizing first with
  | nil => exact ⟨[], [], by rw [← hbest]; rfl, nofun, nofun⟩
  | cons a list ih =>
    rw [List.foldl_cons] at hbest
    obtain ⟨hfirst, ha, hrest⟩ := by
      simpa only [List.forall_mem_cons] using hlist
    by_cases hbetter : r a first = true
    · rw [if_pos hbetter] at hbest
      obtain ⟨before, after, hsplit, hbefore, hafter⟩ :=
        ih (List.forall_mem_cons.mpr ⟨ha, hrest⟩) hbest
      refine ⟨first :: before, after, by rw [hsplit]; rfl, ?_, hafter⟩
      refine List.forall_mem_cons.mpr ⟨?_, hbefore⟩
      cases before with
      | nil =>
        obtain ⟨rfl, -⟩ := List.cons.inj hsplit
        exact hbetter
      | cons b before =>
        obtain ⟨rfl, -⟩ := List.cons.inj hsplit
        have hlater : list = before ++ best :: after := (List.cons.inj hsplit).2
        have hmem : p best := hrest best (by rw [hlater]; exact List.mem_append_right _ (.head _))
        exact htrans best a first hmem ha hfirst (hbefore a List.mem_cons_self) hbetter
    · rw [if_neg hbetter] at hbest
      obtain ⟨before, after, hsplit, hbefore, hafter⟩ :=
        ih (List.forall_mem_cons.mpr ⟨hfirst, hrest⟩) hbest
      cases before with
      | nil =>
        obtain ⟨rfl, rfl⟩ := List.cons.inj hsplit
        exact ⟨[], a :: list, rfl, nofun, List.forall_mem_cons.mpr ⟨hbetter, hafter⟩⟩
      | cons b before =>
        obtain ⟨rfl, -⟩ := List.cons.inj hsplit
        have hlater : list = before ++ best :: after := (List.cons.inj hsplit).2
        refine ⟨first :: a :: before, after, by rw [hlater]; rfl, ?_, hafter⟩
        obtain ⟨hbestFirst, hbefore⟩ := List.forall_mem_cons.mp hbefore
        refine List.forall_mem_cons.mpr ⟨hbestFirst, List.forall_mem_cons.mpr ⟨?_, hbefore⟩⟩
        have hmem : p best := hrest best (by rw [hlater]; exact List.mem_append_right _ (.head _))
        exact (hneg best a first hmem ha hfirst hbestFirst).resolve_right hbetter

end Keep

/-! ### Rank and evidence -/

namespace ServiceMatchResult

variable {c : ServiceMatchResult}

/-- What is compared before the evidence, the most important first. -/
def rank (result : ServiceMatchResult) : Bool ×ₗ Bool ×ₗ ℕ ×ₗ ℚ ×ₗ ℕ :=
  toLex (decide (result.strength = .hard), toLex (result.isPublishable, toLex (result.priority,
    toLex (result.confidence, result.specificity))))

/-- Both have evidence, and only the first is of a complete body. -/
def IsMoreComplete (candidate incumbent : ServiceMatchResult) : Prop :=
  candidate.evidence.map (·.bodyComplete) = some true ∧
    incumbent.evidence.map (·.bodyComplete) = some false

theorem isBetter_iff {candidate incumbent : ServiceMatchResult} :
    candidate.isBetter incumbent = true ↔
      candidate.matched = true ∧ (incumbent.matched = false ∨ incumbent.rank < candidate.rank ∨
        incumbent.rank = candidate.rank ∧ candidate.IsMoreComplete incumbent) := by
  unfold isBetter
  cases hmatched : candidate.matched with
  | false => simp
  | true =>
  cases hmatched' : incumbent.matched with
  | false => simp
  | true =>
  simp only [rank, Prod.Lex.toLex_lt_toLex, EmbeddingLike.apply_eq_iff_eq, Prod.mk.injEq]
  by_cases hstrength : candidate.strength = incumbent.strength
  · by_cases hpublishable : candidate.isPublishable = incumbent.isPublishable
    · by_cases hpriority : candidate.priority = incumbent.priority
      · by_cases hconfidence : candidate.confidence = incumbent.confidence
        · by_cases hspecificity : candidate.specificity = incumbent.specificity
          · cases hnew : candidate.evidence <;> cases hold : incumbent.evidence <;>
              simp [hstrength, hpublishable, hpriority, hconfidence, hspecificity, IsMoreComplete,
                hnew, hold]
          · simp [hstrength, hpublishable, hpriority, hconfidence, hspecificity,
              Ne.symm hspecificity]
        · simp [hstrength, hpublishable, hpriority, hconfidence, Ne.symm hconfidence]
      · simp [hstrength, hpublishable, hpriority, Ne.symm hpriority]
    · simp [hstrength, hpublishable, Ne.symm hpublishable]
      cases hnew : candidate.isPublishable <;> cases hold : incumbent.isPublishable <;> simp_all
  · cases hnew : candidate.strength <;> cases hold : incumbent.strength <;> simp_all

/-- A result without a match is better than none. -/
theorem not_isBetter_of_unmatched {candidate incumbent : ServiceMatchResult}
    (h : candidate.matched = false) : ¬ candidate.isBetter incumbent = true := by
  intro hbetter
  rw [(isBetter_iff.mp hbetter).1] at h
  exact nomatch h

theorem not_isMoreComplete_self (result : ServiceMatchResult) : ¬ result.IsMoreComplete result := by
  rintro ⟨hcomplete, hincomplete⟩
  rw [hcomplete] at hincomplete
  exact nomatch hincomplete

/-- What is in the middle is not both complete and incomplete. -/
theorem IsMoreComplete.not_trans (h : a.IsMoreComplete b) : ¬ b.IsMoreComplete c := by
  rintro ⟨hcomplete, -⟩
  rw [h.2] at hcomplete
  exact nomatch hcomplete

theorem isBetter_trans (hab : a.isBetter b = true) (hbc : b.isBetter c = true) :
    a.isBetter c = true := by
  obtain ⟨ha, hab⟩ := isBetter_iff.mp hab
  obtain ⟨hb, hbc⟩ := isBetter_iff.mp hbc
  refine isBetter_iff.mpr ⟨ha, ?_⟩
  rcases hbc with hc | hbc | ⟨hbc, hcomplete⟩
  · exact .inl hc
  · rcases hab with hb' | hab | ⟨hab, -⟩
    · rw [hb] at hb'
      exact nomatch hb'
    · exact .inr (.inl (hbc.trans hab))
    · exact .inr (.inl (hab ▸ hbc))
  · rcases hab with hb' | hab | ⟨-, hab⟩
    · rw [hb] at hb'
      exact nomatch hb'
    · exact .inr (.inl (hbc ▸ hab))
    · exact absurd hcomplete hab.not_trans

/-- Of two results that differ, a third is worse than the better or better than the worse, if that
holds of the evidence. -/
theorem isBetter_or (hcomplete : a.IsMoreComplete c → a.IsMoreComplete b ∨ b.IsMoreComplete c)
    (hac : a.isBetter c = true) : a.isBetter b = true ∨ b.isBetter c = true := by
  obtain ⟨ha, hac⟩ := isBetter_iff.mp hac
  rw [isBetter_iff, isBetter_iff]
  cases hb : b.matched with
  | false => exact .inl ⟨ha, .inl rfl⟩
  | true =>
    rcases lt_trichotomy b.rank a.rank with hlt | heq | hlt
    · exact .inl ⟨ha, .inr (.inl hlt)⟩
    · rcases hac with hc | hac | ⟨hac, hmore⟩
      · exact .inr ⟨rfl, .inl hc⟩
      · exact .inr ⟨rfl, .inr (.inl (heq ▸ hac))⟩
      · rcases hcomplete hmore with hmore | hmore
        · exact .inl ⟨ha, .inr (.inr ⟨heq, hmore⟩)⟩
        · exact .inr ⟨rfl, .inr (.inr ⟨hac.trans heq.symm, hmore⟩)⟩
    · rcases hac with hc | hac | ⟨hac, -⟩
      · exact .inr ⟨rfl, .inl hc⟩
      · exact .inr ⟨rfl, .inr (.inl (hac.trans hlt))⟩
      · exact .inr ⟨rfl, .inr (.inl (hac ▸ hlt))⟩

theorem isStrictOrder_isBetter :
    IsStrictOrder ServiceMatchResult fun a b ↦ a.isBetter b = true where
  irrefl a h := by
    rcases (isBetter_iff.mp h).2 with hunmatched | hlt | ⟨-, hmore⟩
    · exact not_isBetter_of_unmatched hunmatched h
    · exact lt_irrefl _ hlt
    · exact not_isMoreComplete_self a hmore
  trans _ _ _ := isBetter_trans

/-- Among results that all have evidence, or that all have none, equally good is transitive. -/
theorem isStrictWeakOrder_isBetter (evident : Bool) :
    IsStrictWeakOrder {result : ServiceMatchResult // result.evidence.isSome = evident}
      fun a b ↦ a.1.isBetter b.1 = true where
  irrefl a := isStrictOrder_isBetter.irrefl a.1
  trans a b c := isBetter_trans
  incomp_trans := by
    have hor : ∀ a b c : {result : ServiceMatchResult // result.evidence.isSome = evident},
        a.1.isBetter c.1 = true → a.1.isBetter b.1 = true ∨ b.1.isBetter c.1 = true := by
      intro a b c
      refine isBetter_or fun hmore ↦ ?_
      have hsome : b.1.evidence.isSome = true := by
        rw [b.2, ← a.2]
        exact Option.isSome_map.symm.trans (by rw [hmore.1]; rfl)
      obtain ⟨evidence, hevidence⟩ := Option.isSome_iff_exists.mp hsome
      cases hbody : evidence.bodyComplete with
      | true => exact .inr ⟨by rw [hevidence, Option.map_some, hbody], hmore.2⟩
      | false => exact .inl ⟨hmore.1, by rw [hevidence, Option.map_some, hbody]⟩
    intro a b c hab hbc
    exact ⟨fun hac ↦ (hor a b c hac).elim hab.1 hbc.1, fun hca ↦ (hor c b a hca).elim hbc.2 hab.2⟩

end ServiceMatchResult

/-- What a rule for HTTP without a strong pattern says of a response with a body that is complete or
not, or of one that is not HTTP. -/
def softMatch (bodyComplete : Option Bool) : ServiceMatchResult where
  matched := true
  strength := .soft
  priority := 3
  confidence := 7 / 10
  evidence := bodyComplete.map fun bodyComplete ↦
    { validator := literal "http-1x-v1"
      kind := literal "legacy-rule"
      versionSource := literal "corpus-rule"
      protocolVersion := literal "1.1"
      statusCode := some 200
      bodyComplete }

/-- The match with a complete body is better than the one with an incomplete body, and neither
better nor worse than the one without evidence, nor that than the one with an incomplete body. -/
theorem not_isStrictWeakOrder_isBetter :
    ¬ IsStrictWeakOrder ServiceMatchResult fun a b ↦ a.isBetter b = true := by
  intro horder
  have hequal := horder.incomp_trans (softMatch (some true)) (softMatch none)
    (softMatch (some false)) (by decide +kernel) (by decide +kernel)
  exact hequal.1 (by decide +kernel)

/-! ### The candidates of a response -/

namespace ServiceMatcher

variable (recognizer : Recognizer) (database : ServiceProbeDatabase)
  (probe : ServiceProbeDefinition) (response : Text) (terminal : Bool)
  {result best : ServiceMatchResult}

/-- The response as the rules are matched with it, if they are: not where the database did not
load, nor with nothing or too much to match, nor with HTTP that is malformed or incomplete. -/
def considered : Option View :=
  if database.status ≠ .ok || response = [] || maximumMatchResponseBytes < response.length then none
  else view probe response terminal

/-- The candidate of the rule at an index, if the rule matches. -/
def candidateAt (ruleIndex : ℕ) : Option ServiceMatchResult := do
  let view ← considered database probe response terminal
  let rule ← probe.rules[ruleIndex]?
  let result ← candidate recognizer probe view terminal rule
  some (withTls recognizer response { result with ruleIndex })

/-- The candidates in the order of their rules. -/
def candidates (view : View) : List ServiceMatchResult :=
  probe.rules.zipIdx.filterMap fun (rule, ruleIndex) ↦
    (candidate recognizer probe view terminal rule).map fun result ↦
      withTls recognizer response { result with ruleIndex }

/-- The evidence of a result, if it has some, is of a body that is complete or not, as said. -/
def IsOf (complete : Bool) (result : ServiceMatchResult) : Prop :=
  ∀ evidence ∈ result.evidence, evidence.bodyComplete = complete

variable {recognizer database probe response terminal}

@[simp] theorem withTls_matched (result : ServiceMatchResult) :
    (withTls recognizer response result).matched = result.matched := by
  unfold withTls
  split_ifs <;> rfl

@[simp] theorem withTls_ruleIndex (result : ServiceMatchResult) :
    (withTls recognizer response result).ruleIndex = result.ruleIndex := by
  unfold withTls
  split_ifs <;> rfl

@[simp] theorem withTls_evidence (result : ServiceMatchResult) :
    (withTls recognizer response result).evidence = result.evidence := by
  unfold withTls
  split_ifs <;> rfl

/-- An answer in HTTP is none of a ZooKeeper server. -/
theorem parseZookeeperSrvr_http (h : (literal "HTTP/").isPrefixOf response = true) :
    parseZookeeperSrvr response terminal = none := by
  have hlines : ZooKeeperFields.readLines maxFields true response {} = none := by
    cases response with
    | nil => exact nomatch h
    | cons c text =>
      show ZooKeeperFields.readLines (63 + 1) true (c :: text) {} = none
      unfold ZooKeeperFields.readLines
      cases hsplit : splitOnce [0x0A] (c :: text) with
      | none => rfl
      | some parts =>
        obtain ⟨line, rest⟩ := parts
        -- its first line would begin with `HTTP/` and with `Zookeeper version: `
        have hversion : ZooKeeperFields.dropPrefix (literal "Zookeeper version: ")
            (if line.getLast? = some 0x0D then line.dropLast else line) = none := by
          refine if_neg fun hprefix ↦ ?_
          have hline : literal "Zookeeper version: " <+: line := by
            refine (List.isPrefixOf_iff_prefix.mp hprefix).trans ?_
            split_ifs
            · exact List.dropLast_prefix line
            · exact List.prefix_rfl
          have hresponse : line <+: c :: text := by
            rw [eq_of_splitOnce hsplit]
            exact List.prefix_append _ _
          have hboth := List.prefix_of_prefix_length_le (List.isPrefixOf_iff_prefix.mp h)
            (hline.trans hresponse) (by decide +kernel)
          exact absurd hboth (by decide +kernel)
        show (if _ then none
          else (ZooKeeperFields.dropPrefix (literal "Zookeeper version: ") _).bind _) = none
        rw [hversion]
        exact ite_self none
  unfold parseZookeeperSrvr
  rw [hlines]
  exact ite_self none

/-- What `match` knows of a response it looks at. -/
theorem view_spec {view : View} (h : ServiceMatcher.view probe response terminal = some view) :
    view.response = response ∧ ∀ http ∈ view.http,
      (literal "HTTP/").isPrefixOf response = true ∧
      http.state ≠ .malformed ∧ http.state ≠ .incomplete ∧
      (view.search.isSome = true → http.state = .complete) := by
  unfold ServiceMatcher.view at h
  by_cases hfront : (literal "HTTP/").isPrefixOf response = true
  · rw [if_neg (by rw [hfront]; exact Bool.false_ne_true)] at h
    dsimp only at h
    by_cases hstate : ((parseHttpResponse response terminal).state = .malformed ||
        (parseHttpResponse response terminal).state = .incomplete) = true
    · rw [if_pos hstate] at h
      exact nomatch h
    rw [if_neg hstate] at h
    simp only [Bool.or_eq_true, decide_eq_true_eq, not_or] at hstate
    cases h
    refine ⟨rfl, fun http hmem ↦ ?_⟩
    cases hmem
    refine ⟨hfront, hstate.1, hstate.2, fun hsearch ↦ ?_⟩
    by_contra hcomplete
    dsimp only at hsearch
    rw [if_neg (by simp [hcomplete])] at hsearch
    exact nomatch hsearch
  · rw [if_pos (by rw [Bool.eq_false_of_not_eq_true hfront]; rfl)] at h
    cases h
    exact ⟨rfl, nofun⟩

theorem httpIdentity_spec {http : HttpResponse} (hmalformed : http.state ≠ .malformed)
    (hincomplete : http.state ≠ .incomplete) :
    (httpIdentity http).matched = true ∧ IsOf (http.state = .complete) (httpIdentity http) := by
  unfold httpIdentity IsOf
  rw [if_neg (by simp [hmalformed, hincomplete])]
  dsimp only
  split_ifs <;> simp

theorem searchCandidate_spec {view : View} {service : Text}
    (h : searchCandidate view service = some result) :
    result.matched = true ∧ IsOf true result ∧ view.http.isSome = true ∧
      view.search.isSome = true := by
  unfold searchCandidate at h
  split at h
  · rename_i http search hhttp hsearch
    cases h
    refine ⟨rfl, fun evidence hmem ↦ ?_, by rw [hhttp]; rfl, ?_⟩
    · cases hmem
      rfl
    · rw [(Option.filter_eq_some_iff.mp hsearch).1]
      rfl
  · exact nomatch h

theorem zookeeperCandidate_spec (h : zookeeperCandidate probe response terminal = some result) :
    result.matched = true ∧ IsOf true result ∧
      ¬ (literal "HTTP/").isPrefixOf response = true := by
  unfold zookeeperCandidate at h
  split_ifs at h
  obtain ⟨identity, hidentity, rfl⟩ := Option.map_eq_some_iff.mp h
  refine ⟨rfl, fun evidence hmem ↦ ?_, fun hprefix ↦ ?_⟩
  · cases hmem
    rfl
  · rw [parseZookeeperSrvr_http hprefix] at hidentity
    exact nomatch hidentity

theorem writtenCandidate_spec {view : View} {rule : ServiceMatchRule} {service : Text}
    {groups : List (Option Text)}
    (h : writtenCandidate probe view rule service groups = some result) :
    result.matched = true ∧ IsOf (view.http.all (·.state = .complete)) result := by
  unfold writtenCandidate at h
  cases hhttp : view.http with
  | none =>
    rw [hhttp] at h
    dsimp only at h
    by_cases hmqtt : service = literal "mqtt"
    · rw [if_pos hmqtt] at h
      obtain ⟨mqtt, -, rfl⟩ := Option.map_eq_some_iff.mp h
      exact ⟨rfl, nofun⟩
    · rw [if_neg hmqtt] at h
      cases h
      exact ⟨rfl, nofun⟩
  | some http =>
    rw [hhttp] at h
    dsimp only at h
    by_cases hmqtt : service = literal "mqtt"
    · rw [if_pos hmqtt] at h
      obtain ⟨mqtt, -, rfl⟩ := Option.map_eq_some_iff.mp h
      exact ⟨rfl, fun evidence hmem ↦ by cases hmem; rfl⟩
    · rw [if_neg hmqtt] at h
      cases h
      exact ⟨rfl, fun evidence hmem ↦ by cases hmem; rfl⟩

/-- A candidate is a match, and its evidence is of what was seen of the body. -/
theorem candidate_spec {view : View} {rule : ServiceMatchRule}
    (hview : ServiceMatcher.view probe response terminal = some view)
    (h : candidate recognizer probe view terminal rule = some result) :
    result.matched = true ∧ IsOf (view.http.all (·.state = .complete)) result := by
  obtain ⟨hresponse, hhttp⟩ := view_spec hview
  unfold candidate at h
  extract_lets groups templated service at h
  clear_value service groups
  split_ifs at h
  · -- a rule for HTTP
    obtain ⟨http, hsome, rfl⟩ := Option.map_eq_some_iff.mp h
    obtain ⟨-, hmalformed, hincomplete, -⟩ := hhttp http hsome
    rw [hsome]
    exact httpIdentity_spec hmalformed hincomplete
  · -- one for a search engine
    obtain ⟨hmatched, hof, hsome, hsearch⟩ := searchCandidate_spec h
    obtain ⟨http, hsome⟩ := Option.isSome_iff_exists.mp hsome
    obtain ⟨-, -, -, hcomplete⟩ := hhttp http hsome
    rw [hsome, Option.all_some, decide_eq_true (hcomplete hsearch)]
    exact ⟨hmatched, hof⟩
  · -- one for ZooKeeper, of an answer that is not HTTP
    obtain ⟨hmatched, hof, hprefix⟩ := zookeeperCandidate_spec h
    cases hsome : view.http with
    | none => exact ⟨hmatched, hof⟩
    | some http => exact absurd (hresponse ▸ (hhttp http hsome).1) hprefix
  · obtain ⟨groups, -, h⟩ := Option.bind_eq_some_iff.mp h
    exact writtenCandidate_spec h

/-- The evidence of a response's candidates says the same about its body. -/
theorem IsOf.not_isMoreComplete {complete : Bool} (ha : IsOf complete a) (hb : IsOf complete b) :
    ¬ a.IsMoreComplete b := by
  rintro ⟨hmore, hless⟩
  obtain ⟨evidence, hevidence, htrue⟩ := Option.map_eq_some_iff.mp hmore
  obtain ⟨evidence', hevidence', hfalse⟩ := Option.map_eq_some_iff.mp hless
  rw [ha evidence hevidence] at htrue
  rw [hb evidence' hevidence', htrue] at hfalse
  exact nomatch hfalse

theorem candidateAt_ruleIndex {i : ℕ}
    (h : candidateAt recognizer database probe response terminal i = some result) :
    result.ruleIndex = i := by
  obtain ⟨view, -, h⟩ := Option.bind_eq_some_iff.mp h
  obtain ⟨rule, -, h⟩ := Option.bind_eq_some_iff.mp h
  obtain ⟨found, -, h⟩ := Option.bind_eq_some_iff.mp h
  cases h
  exact withTls_ruleIndex _

theorem mem_candidates {view : View}
    (hview : considered database probe response terminal = some view) :
    result ∈ candidates recognizer probe response terminal view ↔
      candidateAt recognizer database probe response terminal result.ruleIndex = some result := by
  constructor
  · intro hmem
    obtain ⟨⟨rule, i⟩, hrule, hresult⟩ := List.mem_filterMap.mp hmem
    obtain ⟨found, hfound, rfl⟩ := Option.map_eq_some_iff.mp hresult
    rw [withTls_ruleIndex, candidateAt, hview]
    show (probe.rules[i]?).bind _ = _
    rw [List.mem_zipIdx_iff_getElem?.mp hrule]
    show (candidate recognizer probe view terminal rule).bind _ = _
    rw [hfound]
    rfl
  · intro h
    unfold candidateAt at h
    rw [hview] at h
    obtain ⟨_, ⟨⟩, h⟩ := Option.bind_eq_some_iff.mp h
    obtain ⟨rule, hrule, h⟩ := Option.bind_eq_some_iff.mp h
    obtain ⟨found, hfound, h⟩ := Option.bind_eq_some_iff.mp h
    refine List.mem_filterMap.mpr ⟨(rule, result.ruleIndex), ?_, ?_⟩
    · exact List.mem_zipIdx_iff_getElem?.mpr hrule
    · dsimp only
      rw [hfound]
      exact h

theorem pairwise_candidates (view : View) :
    (candidates recognizer probe response terminal view).Pairwise
      fun a b ↦ a.ruleIndex < b.ruleIndex := by
  have hindexes : probe.rules.zipIdx.Pairwise fun a b ↦ a.2 < b.2 := by
    refine List.pairwise_map.mp ?_
    rw [List.zipIdx_map_snd]
    exact List.pairwise_lt_range'
  refine List.pairwise_filterMap.mpr (hindexes.imp ?_)
  intro a b hlt result hresult result' hresult'
  obtain ⟨found, -, rfl⟩ := Option.map_eq_some_iff.mp hresult
  obtain ⟨found', -, rfl⟩ := Option.map_eq_some_iff.mp hresult'
  rw [withTls_ruleIndex, withTls_ruleIndex]
  exact hlt

theorem matchResponse_eq :
    matchResponse recognizer database probe response terminal =
      match considered database probe response terminal with
      | none => {}
      | some view => (candidates recognizer probe response terminal view).foldl better {} := by
  unfold matchResponse considered
  split_ifs
  · rfl
  · rfl

/-- A candidate in the list is a match, and says of the body what was seen of it. -/
theorem candidates_spec {view : View}
    (hview : considered database probe response terminal = some view)
    (h : result ∈ candidates recognizer probe response terminal view) :
    result.matched = true ∧ IsOf (view.http.all (·.state = .complete)) result := by
  unfold considered at hview
  split_ifs at hview
  obtain ⟨⟨rule, i⟩, -, hresult⟩ := List.mem_filterMap.mp h
  obtain ⟨found, hfound, rfl⟩ := Option.map_eq_some_iff.mp hresult
  obtain ⟨hmatched, hof⟩ := candidate_spec hview hfound
  refine ⟨by rw [withTls_matched]; exact hmatched, ?_⟩
  unfold IsOf
  rw [withTls_evidence]
  exact hof

/-- Where the match stands among the candidates; there is always the default to begin with. -/
theorem matchResponse_split {view : View}
    (hview : considered database probe response terminal = some view)
    (hbest : matchResponse recognizer database probe response terminal = best) :
    ∃ before after, {} :: candidates recognizer probe response terminal view =
        before ++ best :: after ∧
      (∀ a ∈ before, best.isBetter a = true) ∧ ∀ a ∈ after, ¬ a.isBetter best = true := by
  let complete := view.http.all (·.state = .complete)
  have hor : ∀ a b c : ServiceMatchResult, IsOf complete a → IsOf complete b → IsOf complete c →
      a.isBetter c = true → a.isBetter b = true ∨ b.isBetter c = true :=
    fun a b c ha _ hc ↦ ServiceMatchResult.isBetter_or fun hmore ↦
      absurd hmore (ha.not_isMoreComplete hc)
  have hall : ∀ a ∈ {} :: candidates recognizer probe response terminal view, IsOf complete a := by
    refine List.forall_mem_cons.mpr ⟨?_, fun a ha ↦ (candidates_spec hview ha).2⟩
    intro evidence hmem
    exact nomatch (show none = some evidence from hmem)
  refine foldl_keep_split (r := ServiceMatchResult.isBetter) (p := IsOf complete)
    (fun _ _ _ _ _ _ ↦ ServiceMatchResult.isBetter_trans) hor hall ?_
  rw [← hbest, matchResponse_eq, hview]
  rfl

theorem mem_candidates_of_candidateAt {view : View} {i : ℕ} {other : ServiceMatchResult}
    (hview : considered database probe response terminal = some view)
    (h : candidateAt recognizer database probe response terminal i = some other) :
    other ∈ candidates recognizer probe response terminal view :=
  (mem_candidates hview).mpr (candidateAt_ruleIndex h ▸ h)

/-- A match has one of the candidates at its place, and none comes before it that is as good. -/
theorem best_of_matched {view : View}
    (hview : considered database probe response terminal = some view)
    (hbest : matchResponse recognizer database probe response terminal = best)
    (hmatched : best.matched = true) :
    candidateAt recognizer database probe response terminal best.ruleIndex = some best ∧
      ∀ i other, candidateAt recognizer database probe response terminal i = some other →
        ¬ other.isBetter best = true ∧ (i < best.ruleIndex → best.isBetter other = true) := by
  obtain ⟨before, after, hsplit, hbefore, hafter⟩ := matchResponse_split hview hbest
  cases before with
  | nil =>
    obtain ⟨rfl, -⟩ := List.cons.inj hsplit
    exact nomatch hmatched
  | cons default before =>
    have hcandidates : candidates recognizer probe response terminal view =
        before ++ best :: after := (List.cons.inj hsplit).2
    have horder : (candidates recognizer probe response terminal view).Pairwise
        fun a b ↦ a.ruleIndex < b.ruleIndex := pairwise_candidates view
    rw [hcandidates, List.pairwise_append] at horder
    refine ⟨(mem_candidates hview).mp ?_, fun i other hother ↦ ?_⟩
    · rw [hcandidates]
      exact List.mem_append_right _ List.mem_cons_self
    have hmem := mem_candidates_of_candidateAt hview hother
    have hindex := candidateAt_ruleIndex hother
    rw [hcandidates, List.mem_append, List.mem_cons] at hmem
    rcases hmem with hmem | rfl | hmem
    · -- before it: worse
      have hworse := hbefore other (List.mem_cons_of_mem _ hmem)
      refine ⟨fun hbetter ↦ ?_, fun _ ↦ hworse⟩
      exact ServiceMatchResult.isStrictOrder_isBetter.irrefl _
        (ServiceMatchResult.isBetter_trans hbetter hworse)
    · -- itself
      refine ⟨ServiceMatchResult.isStrictOrder_isBetter.irrefl _, fun hlt ↦ ?_⟩
      exact absurd hindex hlt.ne'
    · -- after it: not better, and of a later rule
      have hlater := (List.pairwise_cons.mp horder.2.1).1 other hmem
      refine ⟨hafter other hmem, fun hlt ↦ ?_⟩
      rw [hindex] at hlater
      exact absurd hlt hlater.not_gt

theorem unmatched_iff {view : View}
    (hview : considered database probe response terminal = some view)
    (hbest : matchResponse recognizer database probe response terminal = best) :
    best.matched = false ↔
      ∀ i, candidateAt recognizer database probe response terminal i = none := by
  constructor
  · intro hunmatched i
    by_contra hsome
    obtain ⟨other, hother⟩ := Option.ne_none_iff_exists'.mp hsome
    have hmem := mem_candidates_of_candidateAt hview hother
    have hmatched : other.matched = true := (candidates_spec hview hmem).1
    obtain ⟨before, after, hsplit, hbefore, hafter⟩ := matchResponse_split hview hbest
    have hlist := List.mem_cons_of_mem ({} : ServiceMatchResult) hmem
    rw [hsplit, List.mem_append, List.mem_cons] at hlist
    rcases hlist with hmem | rfl | hmem
    · exact ServiceMatchResult.not_isBetter_of_unmatched hunmatched (hbefore other hmem)
    · rw [hmatched] at hunmatched
      exact nomatch hunmatched
    · exact hafter other hmem (ServiceMatchResult.isBetter_iff.mpr ⟨hmatched, .inl hunmatched⟩)
  · intro hnone
    cases hmatched : best.matched with
    | false => rfl
    | true =>
      have hat := (best_of_matched hview hbest hmatched).1
      rw [hnone] at hat
      exact nomatch hat

/-- **The first of the best.** `match` comes to a match exactly if some rule does, and the one it
comes to is the candidate of its rule, no other candidate is better, and it is better than those of
earlier rules.

`service_match_is_better` is a strict order, and a strict weak one among results that all have
evidence or all have none. -/
theorem matchResponse_best (recognizer : Recognizer) (database : ServiceProbeDatabase)
    (probe : ServiceProbeDefinition) (response : Text) (terminal : Bool) :
    let candidateAt := candidateAt recognizer database probe response terminal
    let best := matchResponse recognizer database probe response terminal
    (best.matched = false ↔ ∀ i, candidateAt i = none) ∧
    (best.matched = true → candidateAt best.ruleIndex = some best ∧
      ∀ i other, candidateAt i = some other →
        ¬ other.isBetter best = true ∧ (i < best.ruleIndex → best.isBetter other = true)) ∧
    IsStrictOrder ServiceMatchResult (fun a b ↦ a.isBetter b = true) ∧
    ∀ evident, IsStrictWeakOrder {result : ServiceMatchResult // result.evidence.isSome = evident}
      fun a b ↦ a.1.isBetter b.1 = true := by
  intro candidateAt best
  refine ⟨?_, ?_, ServiceMatchResult.isStrictOrder_isBetter,
    ServiceMatchResult.isStrictWeakOrder_isBetter⟩
  · cases hview : considered database probe response terminal with
    | none =>
      have hdefault : best = {} := by
        show matchResponse recognizer database probe response terminal = {}
        rw [matchResponse_eq, hview]
      have hnone : ∀ i, candidateAt i = none := by
        intro i
        show (considered database probe response terminal).bind _ = none
        rw [hview]
        rfl
      exact ⟨fun _ ↦ hnone, fun _ ↦ by rw [hdefault]⟩
    | some view => exact unmatched_iff hview rfl
  · intro hmatched
    cases hview : considered database probe response terminal with
    | none =>
      have hdefault : best = {} := by
        show matchResponse recognizer database probe response terminal = {}
        rw [matchResponse_eq, hview]
      rw [hdefault] at hmatched
      exact nomatch hmatched
    | some view => exact best_of_matched hview rfl hmatched

-- Of the two rules for this greeting the first is taken.
example :
    let rule (service : Text) : ServiceMatchRule :=
      { pattern := literal "220", service, confidence := 4 / 5 }
    let probe : ServiceProbeDefinition := { rules := [rule (literal "ftp"), rule (literal "smtp")] }
    (matchResponse { regexSearch := fun _ _ ↦ none } { probes := [probe] } probe
      (literal "220 ready\r\n") false).service = literal "ftp" := by
  decide +kernel

end ServiceMatcher

end Skan.Detect

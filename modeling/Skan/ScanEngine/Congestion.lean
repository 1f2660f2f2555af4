import Skan.Library.Runs
import Skan.ScanEngine.Timing

/-!
# Runs of the congestion controller

`src/scanengine/congestion.cpp` under any sequence of responses and timeouts.

Three facts about one event carry the runs. A backoff lowers a parallelism above the minimum
(`backoff_lowers`): with a factor below one, truncation cannot give the old value back. Nothing but
a backoff lowers it (`le_step`). And an event that is no backoff adds at most one to the **credit**
`currentParallelism * recoveryThreshold + consecutiveSuccesses`, and only a response adds anything
(`credit_step_le`): behind a backoff the successes are zero, so that the credit bounds the growth by
the responses divided by the threshold.
-/

namespace Skan.ScanEngine.CongestionController

open Runs

variable {events : List Event} {e : Event}

/-- What the controller is told. -/
inductive Event where
  | response
  | timeout
  deriving DecidableEq

def step (c : CongestionController) : Event → CongestionController
  | .response => c.onResponse
  | .timeout => c.onTimeout

/-- The event makes the controller back off: `++backoff_count`. -/
def BacksOff (c : CongestionController) (e : Event) : Prop :=
  (c.step e).backoffCount = c.backoffCount + 1

/-- There is no backoff among the events. -/
def Quiet (c : CongestionController) (events : List Event) : Prop :=
  Within step (fun c e ↦ ¬ c.BacksOff e) c events

/-- Nothing has happened yet, or the last event was a backoff. -/
def BehindBackoff (config : CongestionConfig) (events : List Event) : Prop :=
  events = [] ∨
    ∃ earlier e, events = earlier ++ [e] ∧ (run step (create config) earlier).BacksOff e

/-! ### One event -/

theorem backsOff_iff {c : CongestionController} :
    c.BacksOff e ↔
      e = .timeout ∧ c.config.timeoutThreshold ≤ saturatingSucc c.consecutiveTimeouts := by
  cases e with
  | response =>
    refine iff_of_false (fun h ↦ ?_) fun h ↦ nomatch h.1
    exact absurd (show c.backoffCount = c.backoffCount + 1 from h) (by omega)
  | timeout =>
    show (if _ then _ else _) = _ ↔ _
    split_ifs with h
    · exact iff_of_true rfl ⟨rfl, h⟩
    · exact iff_of_false (by omega) fun hboth ↦ h hboth.2

/-- What the configuration promises and every event keeps. -/
structure Sound (config : CongestionConfig) (c : CongestionController) : Prop where
  config_eq : c.config = config
  min_pos : 0 < config.minParallelism
  min_le_current : config.minParallelism ≤ c.currentParallelism
  current_le_max : c.currentParallelism ≤ config.maxParallelism
  factor_pos : 0 < config.backoffFactor
  factor_lt_one : config.backoffFactor < 1
  alpha_pos : 0 < config.dropRateAlpha
  alpha_le_one : config.dropRateAlpha ≤ 1
  dropRate_nonneg : 0 ≤ c.dropRate
  dropRate_le_one : c.dropRate ≤ 1
  successes_lt : c.consecutiveSuccesses < config.recoveryThreshold

variable {config : CongestionConfig} {c : CongestionController}

theorem sound_create (h : (create config).valid = true) : Sound config (create config) := by
  simp only [valid, Bool.and_eq_true, decide_eq_true_eq] at h
  obtain ⟨⟨⟨⟨⟨⟨⟨⟨⟨hpos, hle⟩, -⟩, -⟩, -⟩, hrecovery⟩, hfactor⟩, hfactor'⟩, halpha⟩, halpha'⟩ := h
  exact
    { config_eq := rfl
      min_pos := hpos
      min_le_current := minParallelism_le_create hle
      current_le_max := clampParallelism_le hle
      factor_pos := hfactor
      factor_lt_one := hfactor'
      alpha_pos := halpha
      alpha_le_one := halpha'
      dropRate_nonneg := le_rfl
      dropRate_le_one := zero_le_one
      successes_lt := hrecovery }

section

variable (h : Sound config c)

include h

theorem Sound.min_le_max : config.minParallelism ≤ config.maxParallelism :=
  h.min_le_current.trans h.current_le_max

theorem Sound.onResponse : Sound config c.onResponse := by
  obtain rfl := h.config_eq
  have halpha : 0 ≤ 1 - c.config.dropRateAlpha := sub_nonneg.mpr h.alpha_le_one
  exact
    { h with
      config_eq := rfl
      min_le_current := minParallelism_le_onResponse h.min_le_max
      current_le_max := clampParallelism_le h.min_le_max
      dropRate_nonneg := mul_nonneg halpha h.dropRate_nonneg
      dropRate_le_one := by
        show (1 - c.config.dropRateAlpha) * c.dropRate ≤ 1
        have hle : (1 - c.config.dropRateAlpha) * c.dropRate ≤ 1 * 1 :=
          mul_le_mul (by linarith [h.alpha_pos]) h.dropRate_le_one h.dropRate_nonneg zero_le_one
        rwa [one_mul] at hle
      successes_lt := by
        show (if _ then _ else _) < c.config.recoveryThreshold
        split_ifs with hrecovered
        · exact Nat.zero_lt_of_lt h.successes_lt
        · exact not_le.mp hrecovered }

theorem Sound.onTimeout : Sound config c.onTimeout := by
  obtain rfl := h.config_eq
  have halpha : 0 ≤ 1 - c.config.dropRateAlpha := sub_nonneg.mpr h.alpha_le_one
  exact
    { h with
      config_eq := rfl
      min_le_current := minParallelism_le_onTimeout h.min_le_max
      current_le_max := clampParallelism_le h.min_le_max
      dropRate_nonneg := add_nonneg h.alpha_pos.le (mul_nonneg halpha h.dropRate_nonneg)
      dropRate_le_one := by
        show c.config.dropRateAlpha + (1 - c.config.dropRateAlpha) * c.dropRate ≤ 1
        have hle := mul_le_mul_of_nonneg_left h.dropRate_le_one halpha
        linarith
      successes_lt := Nat.zero_lt_of_lt h.successes_lt }

theorem Sound.step (e : Event) : Sound config (c.step e) := by
  cases e with
  | response => exact h.onResponse
  | timeout => exact h.onTimeout

end

/-- What is within the bounds is not clamped. -/
theorem clampParallelism_eq (hmin : c.config.minParallelism ≤ c.currentParallelism)
    (hmax : c.currentParallelism ≤ c.config.maxParallelism) :
    c.clampParallelism.currentParallelism = c.currentParallelism := by
  show (if _ then _ else if _ then _ else _) = _
  rw [if_neg (not_lt.mpr hmin), if_neg (not_lt.mpr hmax)]

section

variable (h : Sound config c)

include h

/-- A factor below one lowers what is above one, truncated or not. -/
theorem Sound.scaledParallelism_lt (hone : 1 < c.currentParallelism) :
    c.scaledParallelism < c.currentParallelism := by
  obtain rfl := h.config_eq
  have hpos : (0 : ℚ) < c.currentParallelism := Nat.cast_pos.mpr (Nat.zero_lt_of_lt hone)
  have hlt : (c.currentParallelism : ℚ) * c.config.backoffFactor < c.currentParallelism :=
    mul_lt_of_lt_one_right hpos h.factor_lt_one
  rw [scaledParallelism]
  split_ifs with hsmall hlarge
  · exact hone
  · exact_mod_cast lt_of_le_of_lt hlarge hlt
  · have hfloor : ((c.currentParallelism : ℚ) * c.config.backoffFactor).floor <
        (c.currentParallelism : ℤ) := Int.floor_lt.mpr (by exact_mod_cast hlt)
    omega

theorem Sound.scaledParallelism_le : c.scaledParallelism ≤ c.currentParallelism := by
  rcases lt_or_ge 1 c.currentParallelism with hone | hone
  · exact (h.scaledParallelism_lt hone).le
  · -- a parallelism of one is cut to less than one, and that to one
    have hcurrent : c.currentParallelism = 1 :=
      le_antisymm hone (h.min_pos.trans_le h.min_le_current)
    have hsmall : (c.currentParallelism : ℚ) * c.config.backoffFactor < 1 := by
      rw [hcurrent, Nat.cast_one, one_mul, h.config_eq]
      exact h.factor_lt_one
    rw [scaledParallelism, if_pos hsmall, hcurrent]

theorem Sound.onTimeout_current :
    c.onTimeout.currentParallelism =
      if c.config.timeoutThreshold ≤ saturatingSucc c.consecutiveTimeouts then
        max c.config.minParallelism c.scaledParallelism
      else c.currentParallelism := by
  obtain rfl := h.config_eq
  have hmin := h.min_le_current
  have hmax := h.current_le_max
  have hscaled := h.scaledParallelism_le
  refine clampParallelism_eq ?_ ?_
  · show c.config.minParallelism ≤ if _ then _ else _
    split_ifs
    · exact le_max_left _ _
    · exact hmin
  · show (if _ then _ else _) ≤ c.config.maxParallelism
    split_ifs
    · exact max_le (hmin.trans hmax) (hscaled.trans hmax)
    · exact hmax

theorem Sound.onResponse_current :
    c.onResponse.currentParallelism =
      if c.config.recoveryThreshold ≤ saturatingSucc c.consecutiveSuccesses ∧
          c.currentParallelism < c.config.maxParallelism then c.currentParallelism + 1
      else c.currentParallelism := by
  obtain rfl := h.config_eq
  have hmin := h.min_le_current
  have hmax := h.current_le_max
  refine clampParallelism_eq ?_ ?_
  · show c.config.minParallelism ≤ if _ then _ else _
    split_ifs
    · exact Nat.le_succ_of_le hmin
    · exact hmin
  · show (if _ then _ else _) ≤ c.config.maxParallelism
    split_ifs with hroom
    · exact hroom.2
    · exact hmax

/-- **A backoff lowers a parallelism above the minimum**, and leaves the minimum alone. -/
theorem Sound.backoff_lowers (hbackoff : c.BacksOff .timeout) :
    c.onTimeout.currentParallelism < c.currentParallelism ∨
      c.currentParallelism = config.minParallelism ∧
        c.onTimeout.currentParallelism = config.minParallelism := by
  rw [h.onTimeout_current, if_pos (backsOff_iff.mp hbackoff).2, h.config_eq]
  have hscaled := h.scaledParallelism_le
  have hpos := h.min_pos
  rcases h.min_le_current.eq_or_lt with hmin | hmin
  · exact .inr (by omega)
  · have hlt := h.scaledParallelism_lt (by omega)
    exact .inl (by omega)

/-- Without a backoff a timeout leaves the parallelism alone. -/
theorem Sound.onTimeout_eq (hquiet : ¬ c.BacksOff .timeout) :
    c.onTimeout.currentParallelism = c.currentParallelism := by
  rw [h.onTimeout_current, if_neg fun hle ↦ hquiet (backsOff_iff.mpr ⟨rfl, hle⟩)]

/-- **Nothing but a backoff lowers the parallelism.** -/
theorem Sound.le_step (hquiet : ¬ c.BacksOff e) :
    c.currentParallelism ≤ (c.step e).currentParallelism := by
  cases e with
  | response =>
    obtain rfl := h.config_eq
    exact le_onResponse h.min_le_current h.current_le_max
  | timeout => exact (h.onTimeout_eq hquiet).ge

end

/-- The parallelism in units of a response. -/
def credit (c : CongestionController) : ℕ :=
  c.currentParallelism * c.config.recoveryThreshold + c.consecutiveSuccesses

/-- How many of the events are responses. -/
def responsesIn (events : List Event) : ℕ := events.count .response

/-- **An event that is no backoff** adds at most one to the credit, and only if it is a response. -/
theorem Sound.credit_step_le (h : Sound config c) (hquiet : ¬ c.BacksOff e) :
    (c.step e).credit ≤ c.credit + responsesIn [e] := by
  cases e with
  | timeout =>
    show c.onTimeout.currentParallelism * c.config.recoveryThreshold + 0 ≤ c.credit + 0
    rw [h.onTimeout_eq hquiet, credit]
    omega
  | response =>
    have hlt := h.successes_lt
    have hsucc : saturatingSucc c.consecutiveSuccesses ≤ c.consecutiveSuccesses + 1 := by
      rw [saturatingSucc]
      split_ifs <;> omega
    show c.onResponse.currentParallelism * c.config.recoveryThreshold +
      (if c.config.recoveryThreshold ≤ saturatingSucc c.consecutiveSuccesses then 0
        else saturatingSucc c.consecutiveSuccesses) ≤ c.credit + 1
    rw [h.onResponse_current, credit]
    by_cases hrecovered : c.config.recoveryThreshold ≤ saturatingSucc c.consecutiveSuccesses
    · by_cases hroom : c.currentParallelism < c.config.maxParallelism
      · -- the step up is paid for by the successes that are reset
        rw [if_pos ⟨hrecovered, hroom⟩, if_pos hrecovered, Nat.succ_mul]
        omega
      · rw [if_neg fun hboth ↦ hroom hboth.2, if_pos hrecovered]
        omega
    · rw [if_neg fun hboth ↦ hrecovered hboth.1, if_neg hrecovered]
      omega

/-! ### Runs -/

theorem sound_run (h : Sound config c) (events : List Event) :
    Sound config (run CongestionController.step c events) :=
  run_invariant (fun _ e hc ↦ hc.step e) h events

/-- A run without a backoff never lowers the parallelism. -/
theorem Sound.le_run (h : Sound config c) (hquiet : c.Quiet events) :
    c.currentParallelism ≤ (run CongestionController.step c events).currentParallelism := by
  induction events generalizing c with
  | nil => exact le_rfl
  | cons e events ih => exact (h.le_step hquiet.1).trans (ih (h.step e) hquiet.2)

/-- In a run without a backoff the responses pay for the credit. -/
theorem Sound.credit_run_le (h : Sound config c) (hquiet : c.Quiet events) :
    (run CongestionController.step c events).credit ≤ c.credit + responsesIn events := by
  induction events generalizing c with
  | nil => exact le_rfl
  | cons e events ih =>
    have hstep := h.credit_step_le hquiet.1
    have hrest := ih (h.step e) hquiet.2
    have hcount : responsesIn (e :: events) = responsesIn [e] + responsesIn events := by
      rw [responsesIn, responsesIn, responsesIn, ← List.count_append, List.singleton_append]
    rw [run_cons]
    omega

theorem successes_behindBackoff (h : BehindBackoff config events) :
    (run CongestionController.step (create config) events).consecutiveSuccesses = 0 := by
  rcases h with rfl | ⟨earlier, e, rfl, hbackoff⟩
  · rfl
  · obtain ⟨rfl, -⟩ := backsOff_iff.mp hbackoff
    rw [run_append]
    rfl

/-- Behind a backoff, the growth is bounded by the responses divided by the threshold. -/
theorem Sound.run_le (h : Sound config c) (hsuccesses : c.consecutiveSuccesses = 0)
    (hquiet : c.Quiet events) :
    (run CongestionController.step c events).currentParallelism ≤
      c.currentParallelism + responsesIn events / config.recoveryThreshold := by
  have hcredit := h.credit_run_le hquiet
  have hpos : 0 < config.recoveryThreshold := Nat.zero_lt_of_lt h.successes_lt
  rw [credit, credit, (sound_run h events).config_eq, h.config_eq, hsuccesses] at hcredit
  rw [← Nat.sub_le_iff_le_add', Nat.le_div_iff_mul_le hpos, Nat.sub_mul]
  omega

/-- **Congestion control stays in bounds**: the parallelism and the drop rate do in every state of
every run, a backoff lowers the parallelism unless it is at the minimum, and between two backoffs
the parallelism does not fall and grows by no more than the responses divided by the threshold. -/
theorem run_in_bounds (hvalid : (create config).valid = true) (events : List Event) :
    let c := run CongestionController.step (create config) events
    (config.minParallelism ≤ c.currentParallelism ∧
      c.currentParallelism ≤ config.maxParallelism) ∧
    (0 ≤ c.dropRate ∧ c.dropRate ≤ 1) ∧
    (∀ e, c.BacksOff e → (c.step e).currentParallelism < c.currentParallelism ∨
      c.currentParallelism = config.minParallelism ∧
        (c.step e).currentParallelism = config.minParallelism) ∧
    (∀ later, c.Quiet later →
      c.currentParallelism ≤ (run CongestionController.step c later).currentParallelism) ∧
    (BehindBackoff config events → ∀ later, c.Quiet later →
      (run CongestionController.step c later).currentParallelism ≤
        c.currentParallelism + responsesIn later / config.recoveryThreshold) := by
  intro c
  have h : Sound config c := sound_run (sound_create hvalid) events
  refine ⟨⟨h.min_le_current, h.current_le_max⟩, ⟨h.dropRate_nonneg, h.dropRate_le_one⟩,
    fun e hbackoff ↦ ?_, fun later ↦ h.le_run, fun hbehind later ↦
    h.run_le (successes_behindBackoff hbehind)⟩
  obtain ⟨rfl, -⟩ := backsOff_iff.mp hbackoff
  exact h.backoff_lowers hbackoff

/-- The default configuration, behind its first backoff. -/
theorem run_in_bounds_default :
    let c := run CongestionController.step (create {}) [.timeout, .timeout]
    (1 ≤ c.currentParallelism ∧ c.currentParallelism ≤ 64) ∧ (0 ≤ c.dropRate ∧ c.dropRate ≤ 1) ∧
    (∀ e, c.BacksOff e → (c.step e).currentParallelism < c.currentParallelism ∨
      c.currentParallelism = 1 ∧ (c.step e).currentParallelism = 1) ∧
    (∀ later, c.Quiet later →
      c.currentParallelism ≤ (run CongestionController.step c later).currentParallelism) ∧
    (BehindBackoff {} [.timeout, .timeout] → ∀ later, c.Quiet later →
      (run CongestionController.step c later).currentParallelism ≤
        c.currentParallelism + responsesIn later / 4) :=
  @run_in_bounds {} (by decide +kernel) [.timeout, .timeout]

end Skan.ScanEngine.CongestionController

import Skan.Core.Types
import Mathlib.Data.Rat.Floor

/-!
# Adaptive timing

`scanengine::TimingController`: the parallelism limit of the congestion controller and the timeout
of the round-trip estimator, as the schedulers consult and feed them. Factors are exact rationals,
durations whole milliseconds, and a conversion to an integer truncates.

The controller's `ScanMetrics` record what happened and are read back by no scheduler; they are left
out, and with them `on_submitted`, which only touches them.
-/

namespace Skan.ScanEngine

open Skan.Core

/-- `std::numeric_limits<std::size_t>::max()`. -/
def sizeMax : ℕ := 2 ^ 64 - 1

/-- `scanengine::TimingProfile`. -/
structure TimingProfile where
  minParallelism : ℕ := 1
  maxParallelism : ℕ := 64
  initialParallelism : ℕ := 8
  minimumTimeout : ℤ := 50
  maximumTimeout : ℤ := 30000
  rttMultiplier : ℚ := 4
  backoffFactor : ℚ := 1 / 2
  timeoutThreshold : ℕ := 2
  recoveryThreshold : ℕ := 4
  dropRateAlpha : ℚ := 1 / 8
  maxRetries : ℕ := 0
  deriving DecidableEq

/-- `TimingProfile::validate`. -/
def TimingProfile.validate (p : TimingProfile) : StatusCode :=
  if p.minParallelism = 0 ∨ p.maxParallelism < p.minParallelism ∨
      p.initialParallelism < p.minParallelism ∨ p.initialParallelism > p.maxParallelism then
    .invalidArgument
  else if p.minimumTimeout ≤ 0 ∨ p.maximumTimeout < p.minimumTimeout ∨ p.rttMultiplier ≤ 0 ∨
      p.backoffFactor ≤ 0 ∨ p.backoffFactor ≥ 1 ∨ p.timeoutThreshold = 0 ∨
      p.recoveryThreshold = 0 ∨ p.dropRateAlpha ≤ 0 ∨ p.dropRateAlpha > 1 then
    .invalidArgument
  else .ok

/-! ### Congestion control -/

structure CongestionConfig where
  minParallelism : ℕ := 1
  maxParallelism : ℕ := 64
  initialParallelism : ℕ := 8
  timeoutThreshold : ℕ := 2
  recoveryThreshold : ℕ := 4
  backoffFactor : ℚ := 1 / 2
  dropRateAlpha : ℚ := 1 / 8
  deriving DecidableEq

/-- `CongestionController`, with the fields of its `CongestionState` inlined; the minimum and
maximum are those of the configuration. -/
structure CongestionController where
  config : CongestionConfig
  currentParallelism : ℕ
  dropRate : ℚ := 0
  responses : ℕ := 0
  timeouts : ℕ := 0
  consecutiveTimeouts : ℕ := 0
  consecutiveSuccesses : ℕ := 0
  backoffCount : ℕ := 0
  deriving DecidableEq

namespace CongestionController

variable {c : CongestionController}

/-- `std::clamp` of the current parallelism into the configured bounds. -/
def clampParallelism (c : CongestionController) : CongestionController :=
  { c with
    currentParallelism :=
      if c.currentParallelism < c.config.minParallelism then c.config.minParallelism
      else if c.config.maxParallelism < c.currentParallelism then c.config.maxParallelism
      else c.currentParallelism }

def create (config : CongestionConfig) : CongestionController :=
  clampParallelism { config, currentParallelism := config.initialParallelism }

/-- `CongestionController::valid`. -/
def valid (c : CongestionController) : Bool :=
  c.config.minParallelism > 0 && c.config.maxParallelism ≥ c.config.minParallelism &&
    c.config.initialParallelism ≥ c.config.minParallelism &&
    c.config.initialParallelism ≤ c.config.maxParallelism && c.config.timeoutThreshold > 0 &&
    c.config.recoveryThreshold > 0 && c.config.backoffFactor > 0 && c.config.backoffFactor < 1 &&
    c.config.dropRateAlpha > 0 && c.config.dropRateAlpha ≤ 1

/-- An increment that stops at the largest `std::size_t`. -/
def saturatingSucc (n : ℕ) : ℕ := if n < sizeMax then n + 1 else n

/-- `CongestionController::on_response`. -/
def onResponse (c : CongestionController) : CongestionController :=
  let successes := saturatingSucc c.consecutiveSuccesses
  let recovered := c.config.recoveryThreshold ≤ successes
  clampParallelism
    { c with
      responses := c.responses + 1
      consecutiveTimeouts := 0
      dropRate := (1 - c.config.dropRateAlpha) * c.dropRate
      currentParallelism :=
        if recovered ∧ c.currentParallelism < c.config.maxParallelism then c.currentParallelism + 1
        else c.currentParallelism
      consecutiveSuccesses := if recovered then 0 else successes }

/-- The parallelism a backoff asks for, before the configured minimum is applied. -/
def scaledParallelism (c : CongestionController) : ℕ :=
  let scaled := (c.currentParallelism : ℚ) * c.config.backoffFactor
  if scaled < 1 then 1 else if scaled ≥ sizeMax then sizeMax else scaled.floor.toNat

/-- `CongestionController::on_timeout`. -/
def onTimeout (c : CongestionController) : CongestionController :=
  let timeouts := saturatingSucc c.consecutiveTimeouts
  let backoff := c.config.timeoutThreshold ≤ timeouts
  clampParallelism
    { c with
      timeouts := c.timeouts + 1
      consecutiveSuccesses := 0
      dropRate := c.config.dropRateAlpha + (1 - c.config.dropRateAlpha) * c.dropRate
      currentParallelism :=
        if backoff then max c.config.minParallelism c.scaledParallelism else c.currentParallelism
      backoffCount := if backoff then c.backoffCount + 1 else c.backoffCount
      consecutiveTimeouts := if backoff then 0 else timeouts }

@[simp] theorem clampParallelism_config (c : CongestionController) :
    c.clampParallelism.config = c.config := rfl

/-- Clamping raises to the minimum. -/
theorem le_clampParallelism {n : ℕ} (hn : c.config.minParallelism = n)
    (h : n ≤ c.config.maxParallelism) : n ≤ c.clampParallelism.currentParallelism := by
  unfold clampParallelism
  dsimp only
  split_ifs <;> omega

/-- Clamping lowers to the maximum. -/
theorem clampParallelism_le (h : c.config.minParallelism ≤ c.config.maxParallelism) :
    c.clampParallelism.currentParallelism ≤ c.config.maxParallelism := by
  unfold clampParallelism
  dsimp only
  split_ifs <;> omega

/-- A response never lowers a parallelism that is within its bounds. -/
theorem le_onResponse (hmin : c.config.minParallelism ≤ c.currentParallelism)
    (hmax : c.currentParallelism ≤ c.config.maxParallelism) :
    c.currentParallelism ≤ c.onResponse.currentParallelism := by
  unfold onResponse clampParallelism
  dsimp only
  split_ifs <;> omega

/-- The first parallelism is at least the minimum. -/
theorem minParallelism_le_create {config : CongestionConfig}
    (h : config.minParallelism ≤ config.maxParallelism) :
    config.minParallelism ≤ (create config).currentParallelism := by
  unfold create
  exact le_clampParallelism (by rfl) h

/-- A response leaves it at the minimum or above. -/
theorem minParallelism_le_onResponse (h : c.config.minParallelism ≤ c.config.maxParallelism) :
    c.config.minParallelism ≤ c.onResponse.currentParallelism := by
  unfold onResponse
  exact le_clampParallelism (by rfl) h

/-- So does a timeout. -/
theorem minParallelism_le_onTimeout (h : c.config.minParallelism ≤ c.config.maxParallelism) :
    c.config.minParallelism ≤ c.onTimeout.currentParallelism := by
  unfold onTimeout
  exact le_clampParallelism (by rfl) h

end CongestionController

/-! ### Round-trip estimation -/

/-- `RttEstimator`: the smoothed round-trip time and its variation, absent until the first
sample. -/
structure RttEstimator where
  minimumTimeout : ℤ := 50
  maximumTimeout : ℤ := 30000
  alpha : ℚ := 1 / 8
  beta : ℚ := 1 / 4
  multiplier : ℚ := 4
  srttMs : Option ℚ := none
  rttvarMs : Option ℚ := none
  deriving DecidableEq

namespace RttEstimator

/-- `RttEstimator::observe` of a valid response; a negative sample is ignored. -/
def observe (r : RttEstimator) (sample : ℤ) : RttEstimator :=
  if sample < 0 then r
  else
    match r.srttMs, r.rttvarMs with
    | some srtt, some rttvar =>
      { r with
        rttvarMs := some ((1 - r.beta) * rttvar + r.beta * |srtt - sample|)
        srttMs := some ((1 - r.alpha) * srtt + r.alpha * sample) }
    | _, _ => { r with srttMs := some sample, rttvarMs := some (sample / 2) }

/-- `RttEstimator::clamp_timeout`. -/
def clampTimeout (r : RttEstimator) (value : ℚ) : ℤ :=
  if value < r.minimumTimeout then r.minimumTimeout
  else if (r.maximumTimeout : ℚ) < value then r.maximumTimeout
  else value.floor

/-- `RttEstimator::timeout`. -/
def timeout (r : RttEstimator) : ℤ :=
  match r.srttMs, r.rttvarMs with
  | some srtt, some rttvar => r.clampTimeout (srtt + r.multiplier * rttvar)
  | _, _ => r.minimumTimeout

end RttEstimator

/-! ### The controller -/

/-- `scanengine::TimingController`. -/
structure TimingController where
  profile : TimingProfile
  rtt : RttEstimator
  congestion : CongestionController
  deriving DecidableEq

namespace TimingController

variable {t : TimingController}

def create (profile : TimingProfile) : TimingController where
  profile := profile
  rtt :=
    { minimumTimeout := profile.minimumTimeout, maximumTimeout := profile.maximumTimeout,
      multiplier := profile.rttMultiplier }
  congestion := .create
    { minParallelism := profile.minParallelism, maxParallelism := profile.maxParallelism,
      initialParallelism := profile.initialParallelism,
      timeoutThreshold := profile.timeoutThreshold,
      recoveryThreshold := profile.recoveryThreshold, backoffFactor := profile.backoffFactor,
      dropRateAlpha := profile.dropRateAlpha }

def validate (t : TimingController) : StatusCode :=
  if t.profile.validate = .ok ∧ t.congestion.valid then .ok else .invalidArgument

/-- `TimingController::parallelism_limit`; zero means that no limit is configured. -/
def parallelismLimit (t : TimingController) (configured : ℕ) : ℕ :=
  if configured = 0 then t.congestion.currentParallelism
  else min configured t.congestion.currentParallelism

def timeout (t : TimingController) : ℤ := t.rtt.timeout

def onResponse (t : TimingController) (rtt : ℤ) : TimingController :=
  { t with rtt := t.rtt.observe rtt, congestion := t.congestion.onResponse }

def onTimeout (t : TimingController) : TimingController :=
  { t with congestion := t.congestion.onTimeout }

/-! ### The limit is never zero -/

/-- The configured bounds make sense, and the parallelism respects the lower one. -/
structure Bounded (t : TimingController) : Prop where
  min_pos : 0 < t.congestion.config.minParallelism
  min_le_max : t.congestion.config.minParallelism ≤ t.congestion.config.maxParallelism
  min_le_current : t.congestion.config.minParallelism ≤ t.congestion.currentParallelism

/-- A valid profile is within its bounds at first. -/
theorem bounded_create {profile : TimingProfile} (h : (create profile).validate = .ok) :
    (create profile).Bounded := by
  have hvalid : profile.validate = .ok := by
    by_contra hne
    rw [validate, if_neg fun hboth ↦ hne hboth.1] at h
    exact absurd h (by decide)
  obtain ⟨hpos, hle⟩ : 0 < profile.minParallelism ∧
      profile.minParallelism ≤ profile.maxParallelism := by
    by_contra hbad
    rw [TimingProfile.validate, if_pos (by omega)] at hvalid
    exact absurd hvalid (by decide)
  exact ⟨hpos, hle, CongestionController.minParallelism_le_create hle⟩

theorem Bounded.onResponse (h : t.Bounded) (rtt : ℤ) : (t.onResponse rtt).Bounded :=
  ⟨h.min_pos, h.min_le_max, CongestionController.minParallelism_le_onResponse h.min_le_max⟩

theorem Bounded.onTimeout (h : t.Bounded) : t.onTimeout.Bounded :=
  ⟨h.min_pos, h.min_le_max, CongestionController.minParallelism_le_onTimeout h.min_le_max⟩

/-- So at least one attempt may be in flight. -/
theorem Bounded.parallelismLimit_pos (h : t.Bounded) (configured : ℕ) :
    0 < t.parallelismLimit configured := by
  have hmin := h.min_pos
  have hcurrent := h.min_le_current
  unfold parallelismLimit
  split_ifs <;> omega

/-! ### The limit and the events -/

/-- The parallelism is within its bounds. -/
structure Clamped (t : TimingController) : Prop extends t.Bounded where
  current_le_max : t.congestion.currentParallelism ≤ t.congestion.config.maxParallelism

/-- And clamped. -/
theorem clamped_create {profile : TimingProfile} (h : (create profile).validate = .ok) :
    (create profile).Clamped where
  toBounded := bounded_create h
  current_le_max := CongestionController.clampParallelism_le (bounded_create h).min_le_max

/-- A response keeps it so. -/
theorem Clamped.onResponse (h : t.Clamped) (rtt : ℤ) :
    (t.onResponse rtt).Clamped where
  toBounded := h.toBounded.onResponse rtt
  current_le_max := by
    show t.congestion.onResponse.currentParallelism ≤ _
    unfold CongestionController.onResponse
    exact CongestionController.clampParallelism_le h.min_le_max

/-- So does a timeout. -/
theorem Clamped.onTimeout (h : t.Clamped) : t.onTimeout.Clamped where
  toBounded := h.toBounded.onTimeout
  current_le_max := by
    show t.congestion.onTimeout.currentParallelism ≤ _
    unfold CongestionController.onTimeout
    exact CongestionController.clampParallelism_le h.min_le_max

/-- **A response never lowers the limit.** -/
theorem Clamped.parallelismLimit_le_onResponse (h : t.Clamped) (rtt : ℤ) (configured : ℕ) :
    t.parallelismLimit configured ≤
    (t.onResponse rtt).parallelismLimit configured := by
  have hle : t.congestion.currentParallelism ≤ (t.onResponse rtt).congestion.currentParallelism :=
    CongestionController.le_onResponse h.min_le_current h.current_le_max
  unfold parallelismLimit
  split_ifs
  · exact hle
  · exact min_le_min le_rfl hle

end TimingController

end Skan.ScanEngine

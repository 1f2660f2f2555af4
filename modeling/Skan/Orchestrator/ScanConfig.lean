import Skan.Detect.Scheduler
import Skan.OsDetect.Scheduler
import Skan.Orchestrator.Pipeline
import Skan.PortScan.UdpScan

/-!
# Scan configurations and the stages

`src/orchestrator/scan_config.cpp` checks a configuration once, before any work; each adaptive stage
of `src/orchestrator/scan_stage.cpp` then makes a configuration of its own out of it, with a timing
profile in which some bounds are replaced, and its scheduler checks that again.

## Where the two checks part

`ScanConfig::validate` checks the profile as it stands and the bounds that will replace its own
apart from it, and so never compares the profile's initial parallelism with the bounds it will be
run under. `stages_accept_iff` is what is missing: the initial parallelism lies between the bounds
of the four adaptive stages. -/

namespace Skan.Orchestrator

open Skan.Core Skan.PortScan Skan.Detect Skan.OsDetect Skan.ScanEngine

/-- `ScanConfig`, with everything `validate` reads and the adaptive stages pass on. -/
structure FullScanConfig where
  targets : List Target := []
  transport : ScanTransport := .connect
  interfaceName : Option Text := none
  discoveryEnabled : Bool := false
  portScanEnabled : Bool := true
  udpEnabled : Bool := false
  serviceDetectionEnabled : Bool := false
  osDetectionEnabled : Bool := false
  portMethod : ScanProbeType := .tcpConnect
  ports : List UInt16 := []
  udpPorts : List UInt16 := []
  timingProfile : TimingProfile := {}
  /-- The `id` of the profile, which is only reported. -/
  timingProfileId : Output.TimingProfileId := .t3
  timeout : ℤ := 1000
  adaptiveTiming : Bool := false
  minParallelism : ℕ := 1
  maxParallelism : ℕ := 128
  retries : ℕ := 1
  udpTimeout : ℤ := 1500
  udpMaxOutstanding : ℕ := 64
  udpRetries : ℕ := 1
  serviceTimeout : ℤ := 2500
  maxResponseBytes : ℕ := 8192
  maxProbesPerPort : ℕ := 3
  outputFile : Option Text := none
  deriving DecidableEq

namespace FullScanConfig

/-! ### The check of a configuration -/

section

variable (inet : Inet) (c : FullScanConfig)

/-- What `validate` asks of the transport and the scan method. -/
def validMethod : Bool :=
  !(c.discoveryEnabled && c.transport = .connect) && !(c.udpEnabled && c.transport = .connect) &&
    !(c.transport ≠ .linux && c.interfaceName.isSome) &&
    !(c.portScanEnabled && c.transport = .linux && c.portMethod ≠ .tcpSyn &&
      c.portMethod ≠ .tcpAck) &&
    !(c.portScanEnabled && c.transport = .connect && c.portMethod ≠ .tcpConnect) &&
    !(c.portMethod = .tcpAck && (c.serviceDetectionEnabled || c.osDetectionEnabled))

/-- What `validate` asks of the targets and the ports. -/
def validTargets : Bool :=
  !c.targets.isEmpty &&
    c.targets.all (fun target ↦
      !target.resolvedHosts.isEmpty && target.resolvedHosts.all (validHostAddress inet)) &&
    c.ports.all (· ≠ 0) && c.udpPorts.all (· ≠ 0)

/-- What `validate` asks of the bounds. -/
def validBounds : Bool :=
  c.minParallelism ≠ 0 && c.maxParallelism ≠ 0 && c.minParallelism ≤ c.maxParallelism &&
    0 < c.timeout && c.timingProfile.validate = .ok && c.maxResponseBytes ≠ 0 &&
    c.maxProbesPerPort ≠ 0 && 0 < c.serviceTimeout && 0 < c.udpTimeout && c.udpMaxOutstanding ≠ 0

/-- `ScanConfig::validate`. Every check that fails is answered alike, so their order is no
matter. -/
def validate : StatusCode :=
  if c.validBounds && c.validMethod && c.validTargets inet && c.outputFile.all (!·.isEmpty) then .ok
  else .invalidArgument

end

/-! ### The stages -/

section

variable (c : FullScanConfig)

/-- The configuration `PortScanStage::start` makes. -/
def portScanConfig : PortScanConfig where
  method := c.portMethod
  timeout := c.timeout
  maxOutstanding := c.maxParallelism
  adaptiveTiming := c.adaptiveTiming
  timingProfile :=
    { c.timingProfile with
      minParallelism := c.minParallelism
      maxParallelism := c.maxParallelism
      maxRetries := c.retries }
  retries := c.retries

/-- The configuration `UdpScanStage::start` makes. -/
def udpScanConfig : PortScanConfig where
  method := .udp
  timeout := c.udpTimeout
  maxOutstanding := c.udpMaxOutstanding
  retries := c.udpRetries
  adaptiveTiming := c.adaptiveTiming
  timingProfile :=
    { c.timingProfile with
      minParallelism := c.minParallelism
      maxParallelism := c.udpMaxOutstanding
      maxRetries := c.udpRetries }

/-- The configuration `ServiceDetectionStage::start` makes. -/
def serviceDetectionConfig : ServiceDetectionConfig where
  timeout := c.serviceTimeout
  maxOutstanding := c.maxParallelism
  maxResponseBytes := c.maxResponseBytes
  maxProbesPerPort := c.maxProbesPerPort
  adaptiveTiming := c.adaptiveTiming
  timingProfile :=
    { c.timingProfile with
      minParallelism := c.minParallelism
      maxParallelism := c.maxParallelism
      maxRetries := c.retries }
  retries := c.retries

/-- The configuration `OSDetectionStage::start` makes, which keeps the minimum of the profile; a
live transport has a source address. -/
def osSchedulerConfig (sourceAddress : Text) : OSSchedulerConfig where
  timeout := c.timeout
  maxOutstanding := c.maxParallelism
  adaptiveTiming := c.adaptiveTiming
  timingProfile :=
    { c.timingProfile with maxRetries := c.retries, maxParallelism := c.maxParallelism }
  udpProbePort := 161
  sourceAddress

/-- The four adaptive stages would take the configuration: each derived profile is valid, and on a
working engine no scheduler answers `InvalidArgument` to the configuration it is constructed with.
-/
structure StagesAccept : Prop where
  portScan : c.portScanConfig.timingProfile.validate = .ok
  udpScan : c.udpScanConfig.timingProfile.validate = .ok
  serviceDetection : c.serviceDetectionConfig.timingProfile.validate = .ok
  osDetection : ∀ source, (c.osSchedulerConfig source).timingProfile.validate = .ok
  portScheduler : ∀ ctx : SchedulerContext, ctx.config = c.portScanConfig →
    ctx.environment.initializationStatus = .ok →
    (PortScanScheduler.create ctx).validateConfig ctx ≠ .invalidArgument
  udpScheduler : ∀ ctx : UDPScheduler.Context, ctx.config = c.udpScanConfig →
    ctx.environment.initializationStatus = .ok →
    (UDPScheduler.create ctx).validateConfig ctx ≠ .invalidArgument
  serviceScheduler : ∀ ctx : ServiceScheduler.Context, ctx.config = c.serviceDetectionConfig →
    ctx.environment.initializationStatus = .ok → ctx.database.status = .ok →
    (ServiceScheduler.create ctx).validateConfig ctx ≠ .invalidArgument
  osScheduler : ∀ (τ : Type) (ctx : OSScheduler.Context τ) (transport : τ) (source : Text),
    ctx.config = c.osSchedulerConfig source →
    (OSScheduler.create ctx transport).validConfig ctx

end

/-! ### What an accepted configuration says -/

theorem timing_validate_iff (p : TimingProfile) :
    (TimingController.create p).validate = .ok ↔ p.validate = .ok := by
  constructor
  · intro h
    by_contra hne
    rw [TimingController.validate, if_neg fun hboth ↦ hne hboth.1] at h
    exact absurd h (by decide)
  · intro h
    refine if_pos ⟨h, ?_⟩
    -- the congestion controller asks for a part of what the profile has been checked for
    rw [TimingProfile.validate] at h
    split_ifs at h with hbounds hfactors
    push Not at hbounds hfactors
    obtain ⟨hmin, hmax, hlow, hhigh⟩ := hbounds
    obtain ⟨-, -, -, hpos, hlt, hthreshold, hrecovery, halpha, hle⟩ := hfactors
    simp only [TimingController.create, CongestionController.create, CongestionController.valid,
      CongestionController.clampParallelism_config]
    simp [Nat.pos_of_ne_zero hmin, hmax, hlow, hhigh, Nat.pos_of_ne_zero hthreshold,
      Nat.pos_of_ne_zero hrecovery, hpos, hlt, halpha, hle]

/-- **A valid profile under other bounds** is valid when the initial parallelism is between them. -/
theorem validate_rebound {p : TimingProfile} (h : p.validate = .ok) (lo hi retries : ℕ) :
    { p with minParallelism := lo, maxParallelism := hi, maxRetries := retries }.validate = .ok ↔
      0 < lo ∧ lo ≤ p.initialParallelism ∧ p.initialParallelism ≤ hi := by
  rw [TimingProfile.validate] at h
  split_ifs at h with hbounds hfactors
  rw [TimingProfile.validate, if_neg hfactors]
  constructor
  · intro hvalid
    split_ifs at hvalid with hrebound
    dsimp only at hrebound
    omega
  · intro hbetween
    rw [if_neg]
    dsimp only
    omega

section

variable {inet : Inet} {c : FullScanConfig}

/-- What the check of the bounds says about the bounds. -/
theorem bounds_of_validate (h : c.validate inet = .ok) :
    0 < c.minParallelism ∧ c.minParallelism ≤ c.maxParallelism ∧ 0 < c.timeout ∧
      c.timingProfile.validate = .ok ∧ c.maxResponseBytes ≠ 0 ∧ c.maxProbesPerPort ≠ 0 ∧
      0 < c.serviceTimeout ∧ 0 < c.udpTimeout ∧ c.udpMaxOutstanding ≠ 0 := by
  rw [validate] at h
  split_ifs at h with hall
  simp only [Bool.and_eq_true, validBounds, decide_eq_true_eq, ne_eq] at hall
  obtain ⟨⟨⟨⟨⟨⟨⟨⟨⟨⟨⟨⟨hmin, -⟩, hle⟩, htimeout⟩, hprofile⟩, hbytes⟩, hprobes⟩, hservice⟩, hudp⟩,
    houtstanding⟩, -⟩, -⟩, -⟩ := hall
  exact ⟨Nat.pos_of_ne_zero hmin, hle, htimeout, hprofile, hbytes, hprobes, hservice, hudp,
    houtstanding⟩

/-- The minimum the OS stage keeps is below the initial parallelism. -/
theorem minParallelism_le_initial {p : TimingProfile} (h : p.validate = .ok) :
    0 < p.minParallelism ∧ p.minParallelism ≤ p.initialParallelism := by
  rw [TimingProfile.validate] at h
  split_ifs at h with hbounds
  omega

/-- The derived profiles, against the bounds they are derived with. -/
theorem profiles_valid_iff (h : c.validate inet = .ok) :
    (c.portScanConfig.timingProfile.validate = .ok ∧ c.udpScanConfig.timingProfile.validate = .ok ∧
      c.serviceDetectionConfig.timingProfile.validate = .ok ∧
      ∀ source, (c.osSchedulerConfig source).timingProfile.validate = .ok) ↔
    c.minParallelism ≤ c.timingProfile.initialParallelism ∧
      c.timingProfile.initialParallelism ≤ c.maxParallelism ∧
      c.timingProfile.initialParallelism ≤ c.udpMaxOutstanding := by
  obtain ⟨hmin, -, -, hprofile, -⟩ := bounds_of_validate h
  obtain ⟨hkept, hinitial⟩ := minParallelism_le_initial hprofile
  have hport := validate_rebound hprofile c.minParallelism c.maxParallelism c.retries
  have hudp := validate_rebound hprofile c.minParallelism c.udpMaxOutstanding c.udpRetries
  have hos := validate_rebound hprofile c.timingProfile.minParallelism c.maxParallelism c.retries
  constructor
  · rintro ⟨hport', hudp', -, -⟩
    exact ⟨(hport.mp hport').2.1, (hport.mp hport').2.2, (hudp.mp hudp').2.2⟩
  · rintro ⟨hlow, hhigh, hhigh'⟩
    exact ⟨hport.mpr ⟨hmin, hlow, hhigh⟩, hudp.mpr ⟨hmin, hlow, hhigh'⟩,
      hport.mpr ⟨hmin, hlow, hhigh⟩, fun source ↦ hos.mpr ⟨hkept, hinitial, hhigh⟩⟩

/-- A scheduler does not object to a timing controller over a valid profile. -/
theorem timing_accepted {profile : TimingProfile} (h : profile.validate = .ok) (adaptive : Bool) :
    ¬ (if adaptive then some (TimingController.create profile) else none).any
      (·.validate ≠ .ok) := by
  split_ifs
  · simp [(timing_validate_iff profile).mpr h]
  · simp

section

variable (h : c.validate inet = .ok)

include h

theorem portScheduler_accepts (hprofile : c.portScanConfig.timingProfile.validate = .ok)
    {ctx : SchedulerContext} (hconfig : ctx.config = c.portScanConfig)
    (hengine : ctx.environment.initializationStatus = .ok) :
    (PortScanScheduler.create ctx).validateConfig ctx ≠ .invalidArgument := by
  obtain ⟨hmin, hle, htimeout, -⟩ := bounds_of_validate h
  have hbounds : ¬ (ctx.config.timeout ≤ 0 ∨ ctx.config.retryDelay < 0 ∨
      ctx.config.maxOutstanding = 0 ∨
      (PortScanScheduler.create ctx).timing.any (·.validate ≠ .ok)) := by
    rw [PortScanScheduler.create, hconfig]
    rintro (hlow | hdelay | hzero | htiming)
    · exact absurd hlow (not_le.mpr htimeout)
    · exact absurd hdelay (show ¬ (250 : ℤ) < 0 by decide)
    · have hzero : c.maxParallelism = 0 := hzero
      omega
    · exact timing_accepted hprofile _ htiming
  rw [PortScanScheduler.validateConfig, if_neg (not_not.mpr hengine), if_neg hbounds]
  split_ifs <;> decide

theorem udpScheduler_accepts (hprofile : c.udpScanConfig.timingProfile.validate = .ok)
    {ctx : UDPScheduler.Context} (hconfig : ctx.config = c.udpScanConfig)
    (hengine : ctx.environment.initializationStatus =
      .ok) : (UDPScheduler.create ctx).validateConfig ctx ≠ .invalidArgument := by
  obtain ⟨-, -, -, -, -, -, -, htimeout, houtstanding⟩ := bounds_of_validate h
  have hbounds : ¬ (ctx.config.timeout ≤ 0 ∨ ctx.config.maxOutstanding = 0 ∨
      (UDPScheduler.create ctx).timing.any (·.validate ≠ .ok)) := by
    rw [UDPScheduler.create, hconfig]
    rintro (hlow | hzero | htiming)
    · exact absurd hlow (not_le.mpr htimeout)
    · exact houtstanding hzero
    · exact timing_accepted hprofile _ htiming
  rw [UDPScheduler.validateConfig, if_neg (not_not.mpr hengine), if_neg hbounds]
  split_ifs <;> decide

theorem serviceScheduler_accepts
    (hprofile : c.serviceDetectionConfig.timingProfile.validate = .ok)
    {ctx : ServiceScheduler.Context} (hconfig : ctx.config = c.serviceDetectionConfig)
    (hengine : ctx.environment.initializationStatus = .ok) (hdatabase : ctx.database.status = .ok) :
    (ServiceScheduler.create ctx).validateConfig ctx ≠ .invalidArgument := by
  obtain ⟨hmin, hle, -, -, hbytes, hprobes, htimeout, -⟩ := bounds_of_validate h
  have hbounds : ¬ (ctx.config.maxOutstanding = 0 ∨ ctx.config.timeout ≤ 0 ∨
      ctx.config.maxResponseBytes = 0 ∨ ctx.config.maxProbesPerPort = 0 ∨
      ctx.config.retryDelay < 0 ∨ (ServiceScheduler.create ctx).timing.any (·.validate ≠ .ok)) := by
    rw [ServiceScheduler.create, hconfig]
    rintro (hzero | hlow | hbytes' | hprobes' | hdelay | htiming)
    · have hzero : c.maxParallelism = 0 := hzero
      omega
    · exact absurd hlow (not_le.mpr htimeout)
    · exact hbytes hbytes'
    · exact hprobes hprobes'
    · exact absurd hdelay (show ¬ (250 : ℤ) < 0 by decide)
    · exact timing_accepted hprofile _ htiming
  rw [ServiceScheduler.validateConfig, if_neg (not_not.mpr hengine),
    if_neg (not_not.mpr hdatabase), if_neg hbounds]
  decide

theorem osScheduler_accepts {source : Text}
    (hprofile : (c.osSchedulerConfig source).timingProfile.validate = .ok) {τ : Type}
    {ctx : OSScheduler.Context τ} (hconfig : ctx.config = c.osSchedulerConfig source)
    (transport : τ) : (OSScheduler.create ctx transport).validConfig ctx := by
  obtain ⟨hmin, hle, htimeout, -⟩ := bounds_of_validate h
  have htiming := timing_accepted hprofile c.adaptiveTiming
  have hmax : (c.osSchedulerConfig source).maxOutstanding ≠ 0 := by
    show c.maxParallelism ≠ 0
    omega
  have hpositive : 0 < (c.osSchedulerConfig source).timeout := htimeout
  have hall : (OSScheduler.create ctx transport).timing.all (·.validate = .ok) := by
    rw [OSScheduler.create, hconfig]
    dsimp only
    split_ifs
    · exact decide_eq_true ((timing_validate_iff _).mpr hprofile)
    · rfl
  rw [OSScheduler.validConfig, hall, hconfig]
  simp only [Bool.and_eq_true, decide_eq_true_eq]
  exact ⟨⟨⟨⟨hmax, hpositive⟩, show (80 : UInt16) ≠ 0 by decide⟩, show (3 : ℕ) ≠ 0 by decide⟩,
    trivial⟩

end

/-- **Accepted configurations and the adaptive stages.** The four profiles that the adaptive stages
derive from a configuration `validate` accepts pass their validators, and those of the schedulers,
exactly when the initial parallelism is between the bounds of all four. -/
theorem stages_accept_iff (h : c.validate inet = .ok) :
    c.StagesAccept ↔
      c.minParallelism ≤ c.timingProfile.initialParallelism ∧
        c.timingProfile.initialParallelism ≤ c.maxParallelism ∧
        c.timingProfile.initialParallelism ≤ c.udpMaxOutstanding := by
  rw [← profiles_valid_iff h]
  constructor
  · exact fun haccept ↦
      ⟨haccept.portScan, haccept.udpScan, haccept.serviceDetection, haccept.osDetection⟩
  · rintro ⟨hport, hudp, hservice, hos⟩
    exact
      { portScan := hport
        udpScan := hudp
        serviceDetection := hservice
        osDetection := hos
        portScheduler := fun ctx ↦ portScheduler_accepts h hport
        udpScheduler := fun ctx ↦ udpScheduler_accepts h hudp
        serviceScheduler := fun ctx ↦ serviceScheduler_accepts h hservice
        osScheduler := fun τ ctx transport source hconfig ↦
          osScheduler_accepts h (hos source) hconfig transport }

end

/-- A scan of one host with the default profile and `--max-outstanding count`. -/
def outstandingScan (count : ℕ) : FullScanConfig where
  targets :=
    [{ resolvedHosts := [{ address := literal "10.0.0.1", ipAddress := .fromIpv4 0x0A000001 }] }]
  adaptiveTiming := true
  maxParallelism := count

theorem validate_outstandingScan (inet : Inet) {count : ℕ} (h : 0 < count) :
    (outstandingScan count).validate inet = .ok := by
  have hprofile : ({} : TimingProfile).validate = .ok := by
    rw [TimingProfile.validate, if_neg (by decide), if_neg (by norm_num)]
  have hbounds : (outstandingScan count).validBounds := by
    have hpos : count ≠ 0 := Nat.pos_iff_ne_zero.mp h
    simp only [validBounds, outstandingScan, hprofile]
    simp [hpos, Nat.one_le_iff_ne_zero]
  have htargets : (outstandingScan count).validTargets inet := by
    simp [validTargets, outstandingScan, validHostAddress]
  rw [validate, hbounds, htargets]
  rfl

/-- Four outstanding probes are fewer than the profile starts with, eight are not. -/
theorem stages_accept_outstandingScan :
    ¬ (outstandingScan 4).StagesAccept ∧ (outstandingScan 8).StagesAccept := by
  have inet : Inet := ⟨fun _ ↦ [], fun _ ↦ none, fun _ ↦ 0⟩
  constructor
  · rw [stages_accept_iff (validate_outstandingScan inet (by decide))]
    decide
  · rw [stages_accept_iff (validate_outstandingScan inet (by decide))]
    decide

/-- The scan with four outstanding probes passes the check and is turned down by the port stage. -/
theorem not_stages_accept :
    ¬ ∀ (inet : Inet) (c : FullScanConfig), c.validate inet = .ok → c.adaptiveTiming →
      c.StagesAccept := by
  intro hall
  have haccept := (hall ⟨fun _ ↦ [], fun _ ↦ none, fun _ ↦ 0⟩ (outstandingScan 4)
    (validate_outstandingScan _ (by decide)) rfl).portScan
  exact absurd haccept (by decide)

end FullScanConfig

end Skan.Orchestrator

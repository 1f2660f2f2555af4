import Skan.Orchestrator.ScanConfig
import Skan.Target.Parser

/-!
# The timing options of a scan

The option loop of `run_scan` in `src/main.cpp`, for the options that have to do with timing; the
others read and write none of the fields here. After the loop `finish` fits the timing profile to
the timeout and to its own bounds, and the port stage then replaces the bounds
(`FullScanConfig.portScanConfig`).

## Order

Every option but one writes fields of its own. A profile option overwrites the whole profile, with
the bounds an earlier option has written there, and `finish` cuts the initial parallelism to the
bounds that are left. The stage puts the bounds right again, but not what was cut to them: whether
the order of the options can be told is whether the cut takes anything away (`order_free_iff`).
-/

namespace Skan.ScanEngine

open Skan.Output

/-- `TimingProfile::for_id`. -/
def TimingProfile.forId : TimingProfileId → TimingProfile
  | .t0 =>
    { minParallelism := 1, maxParallelism := 4, initialParallelism := 1, minimumTimeout := 500,
      maximumTimeout := 30000, rttMultiplier := 5, backoffFactor := 1 / 2, timeoutThreshold := 1,
      recoveryThreshold := 8, dropRateAlpha := 1 / 8, maxRetries := 0 }
  | .t1 =>
    { minParallelism := 1, maxParallelism := 8, initialParallelism := 2, minimumTimeout := 250,
      maximumTimeout := 30000, rttMultiplier := 5, backoffFactor := 1 / 2, timeoutThreshold := 2,
      recoveryThreshold := 6, dropRateAlpha := 1 / 8, maxRetries := 0 }
  | .t2 =>
    { minParallelism := 1, maxParallelism := 32, initialParallelism := 4, minimumTimeout := 100,
      maximumTimeout := 30000, rttMultiplier := 9 / 2, backoffFactor := 1 / 2,
      timeoutThreshold := 2, recoveryThreshold := 5, dropRateAlpha := 1 / 8, maxRetries := 0 }
  | .t3 =>
    { minParallelism := 1, maxParallelism := 64, initialParallelism := 8, minimumTimeout := 50,
      maximumTimeout := 30000, rttMultiplier := 4, backoffFactor := 1 / 2, timeoutThreshold := 2,
      recoveryThreshold := 4, dropRateAlpha := 1 / 8, maxRetries := 0 }
  | .t4 =>
    { minParallelism := 2, maxParallelism := 128, initialParallelism := 16, minimumTimeout := 50,
      maximumTimeout := 10000, rttMultiplier := 3, backoffFactor := 1 / 2, timeoutThreshold := 2,
      recoveryThreshold := 3, dropRateAlpha := 1 / 8, maxRetries := 0 }
  | .t5 =>
    { minParallelism := 4, maxParallelism := 256, initialParallelism := 32, minimumTimeout := 25,
      maximumTimeout := 5000, rttMultiplier := 5 / 2, backoffFactor := 1 / 2,
      timeoutThreshold := 1, recoveryThreshold := 2, dropRateAlpha := 1 / 8, maxRetries := 0 }

/-- `TimingProfile::parse`: a letter and a digit. -/
def TimingProfile.parse (text : Core.Text) : Option TimingProfileId :=
  if text = Core.literal "T0" then some .t0
  else if text = Core.literal "T1" then some .t1
  else if text = Core.literal "T2" then some .t2
  else if text = Core.literal "T3" then some .t3
  else if text = Core.literal "T4" then some .t4
  else if text = Core.literal "T5" then some .t5
  else none

end Skan.ScanEngine

namespace Skan.Orchestrator

open Skan.Core Skan.ScanEngine Skan.Output Skan.Target

/-- What the option loop keeps of the timing: the configuration so far, and whether an option asks
for adaptive timing. -/
structure ScanOptions where
  config : FullScanConfig := {}
  adaptiveTiming : Bool := false
  deriving DecidableEq

namespace ScanOptions

/-- `--timing` and `-T0` to `-T5`: the whole profile. -/
def useProfile (id : TimingProfileId) (o : ScanOptions) : ScanOptions where
  config := { o.config with timingProfile := .forId id, timingProfileId := id }
  adaptiveTiming := true

/-- `--min-parallelism`. -/
def useMinParallelism (value : ℕ) (o : ScanOptions) : ScanOptions where
  config :=
    { o.config with
      minParallelism := value
      timingProfile := { o.config.timingProfile with minParallelism := value } }
  adaptiveTiming := true

/-- `--max-parallelism`. -/
def useMaxParallelism (value : ℕ) (o : ScanOptions) : ScanOptions where
  config :=
    { o.config with
      maxParallelism := value
      timingProfile := { o.config.timingProfile with maxParallelism := value } }
  adaptiveTiming := true

/-- `--retries`. -/
def useRetries (value : ℕ) (o : ScanOptions) : ScanOptions where
  config :=
    { o.config with
      retries := value
      timingProfile := { o.config.timingProfile with maxRetries := value } }
  adaptiveTiming := true

/-- `--max-outstanding`, which leaves the profile alone. -/
def useMaxOutstanding (value : ℕ) (o : ScanOptions) : ScanOptions :=
  { o with config := { o.config with maxParallelism := value } }

/-- `--timeout-ms`. -/
def useTimeout (value : ℕ) (o : ScanOptions) : ScanOptions :=
  { o with config := { o.config with timeout := value } }

/-- `parse_unsigned`, where the caller turns zero down. -/
def parsePositive (text : Text) : Option ℕ := (fromCharsWhole text).filter (0 < ·)

/-- The options that take a value. -/
def valueOption (argument value : Text) (o : ScanOptions) : Option ScanOptions :=
  if argument = literal "--timeout-ms" then (parsePositive value).map (useTimeout · o)
  else if argument = literal "--max-outstanding" then
    (parsePositive value).map (useMaxOutstanding · o)
  else if argument = literal "--timing" then (TimingProfile.parse value).map (useProfile · o)
  else if argument = literal "--min-parallelism" then
    (parsePositive value).map (useMinParallelism · o)
  else if argument = literal "--max-parallelism" then
    (parsePositive value).map (useMaxParallelism · o)
  else if argument = literal "--retries" then (fromCharsWhole value).map (useRetries · o)
  else none

/-- The option loop of `run_scan`; anything else ends it. -/
def optionLoop : List Text → ScanOptions → Option ScanOptions
  | [], o => some o
  | argument :: arguments, o =>
    if argument.length = 3 ∧ argument.head? = some 0x2D ∧
        (TimingProfile.parse (argument.drop 1)).isSome then
      (TimingProfile.parse (argument.drop 1)).bind fun id ↦ optionLoop arguments (o.useProfile id)
    else if argument = literal "--adaptive-timing" then
      optionLoop arguments { o with adaptiveTiming := true }
    else
      match arguments with
      | [] => none
      | value :: arguments => (o.valueOption argument value).bind (optionLoop arguments)

/-- What `run_scan` does to the configuration after the loop. -/
def finish (o : ScanOptions) : FullScanConfig :=
  let profile := o.config.timingProfile
  { o.config with
    adaptiveTiming := o.adaptiveTiming
    timingProfile :=
      if o.adaptiveTiming then
        { profile with
          maximumTimeout := o.config.timeout
          minimumTimeout :=
            if profile.minimumTimeout > o.config.timeout then o.config.timeout
            else profile.minimumTimeout
          initialParallelism :=
            min (max profile.initialParallelism profile.minParallelism) profile.maxParallelism }
      else profile }

end ScanOptions

/-- `run_scan`, with the timing options of its command line. -/
def runScan (arguments : List Text) : Option FullScanConfig :=
  (ScanOptions.optionLoop arguments {}).map ScanOptions.finish

/-- What a scan's timing comes to: the configuration's own timeout, retries and bounds, and the
profile the TCP port stage derives, with the answer of its check. -/
structure EffectiveTiming where
  timeout : ℤ
  retries : ℕ
  minParallelism : ℕ
  maxParallelism : ℕ
  adaptiveTiming : Bool
  profileId : TimingProfileId
  profile : TimingProfile
  accepted : StatusCode
  deriving DecidableEq

def FullScanConfig.effectiveTiming (c : FullScanConfig) : EffectiveTiming where
  timeout := c.timeout
  retries := c.retries
  minParallelism := c.minParallelism
  maxParallelism := c.maxParallelism
  adaptiveTiming := c.adaptiveTiming
  profileId := c.timingProfileId
  profile := c.portScanConfig.timingProfile
  accepted := c.portScanConfig.timingProfile.validate

/-! ### Options as data -/

/-- The text of a positive number, and the number. -/
structure PositiveText where
  text : Text
  value : ℕ
  parses : ScanOptions.parsePositive text = some value

inductive TimingOption where
  | timing (id : TimingProfileId)
  | nmapTiming (id : TimingProfileId)
  | minParallelism (value : PositiveText)
  | maxParallelism (value : PositiveText)
  | maxOutstanding (value : PositiveText)
  | retries (value : PositiveText)
  | timeoutMs (value : PositiveText)

/-- Options of which a command line has at most one. -/
inductive TimingOptionKind where
  | profile
  | minimum
  | maximum
  | retries
  | timeout
  deriving DecidableEq

namespace TimingOption

variable {option a b chosen : TimingOption} {id : TimingProfileId}
  {options permuted : List TimingOption} {o : ScanOptions}

def kind : TimingOption → TimingOptionKind
  | timing _ => .profile
  | nmapTiming _ => .profile
  | minParallelism _ => .minimum
  | maxParallelism _ => .maximum
  | maxOutstanding _ => .maximum
  | retries _ => .retries
  | timeoutMs _ => .timeout

/-- An option on the command line. -/
def arguments : TimingOption → List Text
  | timing id => [literal "--timing", timingProfileName id]
  | nmapTiming id => [0x2D :: timingProfileName id]
  | minParallelism value => [literal "--min-parallelism", value.text]
  | maxParallelism value => [literal "--max-parallelism", value.text]
  | maxOutstanding value => [literal "--max-outstanding", value.text]
  | retries value => [literal "--retries", value.text]
  | timeoutMs value => [literal "--timeout-ms", value.text]

/-- What the loop does when it comes to an option. -/
def apply (o : ScanOptions) : TimingOption → ScanOptions
  | timing id => o.useProfile id
  | nmapTiming id => o.useProfile id
  | minParallelism value => o.useMinParallelism value.value
  | maxParallelism value => o.useMaxParallelism value.value
  | maxOutstanding value => o.useMaxOutstanding value.value
  | retries value => o.useRetries value.value
  | timeoutMs value => o.useTimeout value.value

/-! ### The loop over options -/

theorem parse_timingProfileName (id : TimingProfileId) :
    TimingProfile.parse (timingProfileName id) = some id := by
  cases id <;> decide

/-- A command-line word that is not a short profile option and not `--adaptive-timing` takes the
word after it as its value. -/
theorem optionLoop_value {argument value : Text} (rest : List Text) (o : ScanOptions)
    (hlong : argument.length ≠ 3) (hname : argument ≠ literal "--adaptive-timing") :
    ScanOptions.optionLoop (argument :: value :: rest) o =
      (o.valueOption argument value).bind (ScanOptions.optionLoop rest) := by
  rw [ScanOptions.optionLoop, if_neg fun h ↦ hlong h.1, if_neg hname]

/-- **The loop takes an option** off the command line and applies it. -/
theorem optionLoop_arguments (option : TimingOption) (rest : List Text) (o : ScanOptions) :
    ScanOptions.optionLoop (option.arguments ++ rest) o =
      ScanOptions.optionLoop rest (option.apply o) := by
  cases option with
  | timing id =>
    show ScanOptions.optionLoop (literal "--timing" :: timingProfileName id :: rest) o = _
    rw [optionLoop_value rest o (by decide) (by decide)]
    show Option.bind ((TimingProfile.parse (timingProfileName id)).map _) _ = _
    rw [parse_timingProfileName]
    rfl
  | nmapTiming id =>
    have hparse : TimingProfile.parse ((0x2D :: timingProfileName id).drop 1) = some id :=
      parse_timingProfileName id
    have hlength : (0x2D :: timingProfileName id : Text).length = 3 := by cases id <;> rfl
    show ScanOptions.optionLoop ((0x2D :: timingProfileName id) :: rest) o = _
    rw [ScanOptions.optionLoop.eq_def]
    dsimp only
    rw [if_pos ⟨hlength, rfl, by rw [hparse]; rfl⟩, hparse]
    rfl
  | minParallelism value =>
    show ScanOptions.optionLoop (literal "--min-parallelism" :: value.text :: rest) o = _
    rw [optionLoop_value rest o (by decide) (by decide)]
    show Option.bind ((ScanOptions.parsePositive value.text).map _) _ = _
    rw [value.parses]
    rfl
  | maxParallelism value =>
    show ScanOptions.optionLoop (literal "--max-parallelism" :: value.text :: rest) o = _
    rw [optionLoop_value rest o (by decide) (by decide)]
    show Option.bind ((ScanOptions.parsePositive value.text).map _) _ = _
    rw [value.parses]
    rfl
  | maxOutstanding value =>
    show ScanOptions.optionLoop (literal "--max-outstanding" :: value.text :: rest) o = _
    rw [optionLoop_value rest o (by decide) (by decide)]
    show Option.bind ((ScanOptions.parsePositive value.text).map _) _ = _
    rw [value.parses]
    rfl
  | retries value =>
    show ScanOptions.optionLoop (literal "--retries" :: value.text :: rest) o = _
    rw [optionLoop_value rest o (by decide) (by decide)]
    show Option.bind ((fromCharsWhole value.text).map _) _ = _
    rw [(Option.filter_eq_some_iff.mp value.parses).1]
    rfl
  | timeoutMs value =>
    show ScanOptions.optionLoop (literal "--timeout-ms" :: value.text :: rest) o = _
    rw [optionLoop_value rest o (by decide) (by decide)]
    show Option.bind ((ScanOptions.parsePositive value.text).map _) _ = _
    rw [value.parses]
    rfl

/-- Every command line of options is read to its end. -/
theorem optionLoop_flatMap (options : List TimingOption) (o : ScanOptions) :
    ScanOptions.optionLoop (options.flatMap arguments) o = some (options.foldl apply o) := by
  induction options generalizing o with
  | nil => rfl
  | cons option options ih =>
    rw [List.flatMap_cons, optionLoop_arguments, ih, List.foldl_cons]

/-! ### Options that commute -/

/-- The profile an option chooses. -/
def profile? : TimingOption → Option TimingProfileId
  | timing id => some id
  | nmapTiming id => some id
  | _ => none

theorem apply_of_profile (h : option.profile? = some id) (o : ScanOptions) :
    option.apply o = o.useProfile id := by
  cases option <;> cases h <;> rfl

theorem kind_of_profile (h : option.profile? = some id) : option.kind = .profile := by
  cases option <;> first | rfl | exact nomatch h

/-- The profile bounds, which the stage overrides, put out of sight. -/
def blur (o : ScanOptions) : ScanOptions :=
  { o with
    config :=
      { o.config with
        timingProfile :=
          { o.config.timingProfile with
            minParallelism := 0
            maxParallelism := 0
            maxRetries := 0 } } }

theorem blur_apply_blur (option : TimingOption) (o : ScanOptions) :
    blur (option.apply (blur o)) = blur (option.apply o) := by
  cases option <;> rfl

theorem blur_foldl (options : List TimingOption) (o : ScanOptions) :
    blur (options.foldl apply o) =
      options.foldl (fun o option ↦ blur (option.apply o)) (blur o) := by
  induction options generalizing o with
  | nil => rfl
  | cons option options ih => rw [List.foldl_cons, ih, List.foldl_cons, blur_apply_blur]

/-- **Options of different kinds commute** in what can be seen without the profile bounds. -/
theorem blur_apply_comm (h : a.kind ≠ b.kind) (o : ScanOptions) :
    blur (b.apply (blur (a.apply o))) = blur (a.apply (blur (b.apply o))) := by
  cases a <;> cases b <;> first | rfl | exact absurd rfl h

/-- Where neither chooses a profile, they commute altogether. -/
theorem apply_comm (h : a.kind ≠ b.kind) (ha : a.profile? = none) (hb : b.profile? = none)
    (o : ScanOptions) : b.apply (a.apply o) = a.apply (b.apply o) := by
  cases a <;> cases b <;>
    first
      | rfl
      | exact absurd rfl h
      | exact (Option.some_ne_none _ ha).elim
      | exact (Option.some_ne_none _ hb).elim

section

variable (hdistinct : (options.map kind).Nodup)

include hdistinct

/-- Two options of one list are the same or of different kinds. -/
theorem eq_or_kind_ne (ha : a ∈ options) (hb : b ∈ options) : a = b ∨ a.kind ≠ b.kind := by
  by_cases hkind : a.kind = b.kind
  · exact .inl (List.inj_on_of_nodup_map hdistinct ha hb hkind)
  · exact .inr hkind

theorem blur_foldl_perm (hperm : options.Perm permuted) (o : ScanOptions) :
    blur (options.foldl apply o) = blur (permuted.foldl apply o) := by
  rw [blur_foldl, blur_foldl]
  refine hperm.foldl_eq' (fun a ha b hb o ↦ ?_) _
  rcases eq_or_kind_ne hdistinct ha hb with rfl | hkind
  · rfl
  · exact blur_apply_comm hkind o

theorem foldl_perm_of_no_profile (hnone : ∀ option ∈ options, option.profile? = none)
    (hperm : options.Perm permuted) (o : ScanOptions) :
    options.foldl apply o = permuted.foldl apply o := by
  refine hperm.foldl_eq' (fun a ha b hb o ↦ ?_) _
  rcases eq_or_kind_ne hdistinct ha hb with rfl | hkind
  · rfl
  · exact apply_comm hkind (hnone a ha) (hnone b hb) o

end

/-! ### Profiles that are kept -/

/-- The bounds of the profile leave the initial parallelism `initial` alone. -/
def Keeps (initial : ℕ) (o : ScanOptions) : Prop :=
  o.config.timingProfile.minParallelism ≤ initial ∧ initial ≤ o.config.timingProfile.maxParallelism

/-- No bound among the options cuts the initial parallelism of a profile among them. -/
def InitialKept (options : List TimingOption) : Prop :=
  ∀ option ∈ options, ∀ id, option.profile? = some id →
    (∀ value, minParallelism value ∈ options →
      value.value ≤ (TimingProfile.forId id).initialParallelism) ∧
    ∀ value, maxParallelism value ∈ options →
      (TimingProfile.forId id).initialParallelism ≤ value.value

/-- A profile is within its own bounds, and below its maximum. -/
theorem forId_bounds (id : TimingProfileId) :
    0 < (TimingProfile.forId id).minParallelism ∧
      (TimingProfile.forId id).minParallelism ≤ (TimingProfile.forId id).initialParallelism ∧
      (TimingProfile.forId id).initialParallelism < (TimingProfile.forId id).maxParallelism ∧
      (TimingProfile.forId id).initialParallelism ≤ 32 := by
  cases id <;> decide

theorem keeps_apply (hdistinct : (options.map kind).Nodup) (hkept : InitialKept options)
    (hchosen : chosen ∈ options) (hid : chosen.profile? = some id) (hmem : option ∈ options)
    (ho : Keeps (TimingProfile.forId id).initialParallelism o) :
    Keeps (TimingProfile.forId id).initialParallelism (option.apply o) := by
  obtain ⟨hmin, hmax⟩ := hkept chosen hchosen id hid
  obtain ⟨-, hle, hlt, -⟩ := forId_bounds id
  rcases hprofile : option.profile? with - | id'
  · cases option with
    | timing id' => exact absurd hprofile (by simp [profile?])
    | nmapTiming id' => exact absurd hprofile (by simp [profile?])
    | minParallelism value => exact ⟨hmin value hmem, ho.2⟩
    | maxParallelism value => exact ⟨ho.1, hmax value hmem⟩
    | maxOutstanding value => exact ho
    | retries value => exact ho
    | timeoutMs value => exact ho
  · -- there is one profile option, so it is the chosen one
    have hkind : option.kind = chosen.kind := by
      rw [kind_of_profile hprofile, kind_of_profile hid]
    obtain rfl : option = chosen := List.inj_on_of_nodup_map hdistinct hmem hchosen hkind
    rw [apply_of_profile hid]
    exact ⟨hle, hlt.le⟩

theorem keeps_foldl (hdistinct : (options.map kind).Nodup) (hkept : InitialKept options)
    (hchosen : chosen ∈ options) (hid : chosen.profile? = some id) {taken : List TimingOption}
    (htaken : ∀ option ∈ taken, option ∈ options)
    (ho : Keeps (TimingProfile.forId id).initialParallelism o) :
    Keeps (TimingProfile.forId id).initialParallelism (taken.foldl apply o) := by
  induction taken generalizing o with
  | nil => exact ho
  | cons option taken ih =>
    rw [List.foldl_cons]
    exact ih (fun other hother ↦ htaken other (List.mem_cons_of_mem _ hother))
      (keeps_apply hdistinct hkept hchosen hid (htaken option List.mem_cons_self) ho)

/-- What the whole command line comes to. -/
def effectiveTiming (options : List TimingOption) : Option EffectiveTiming :=
  (runScan (options.flatMap arguments)).map FullScanConfig.effectiveTiming

theorem effectiveTiming_eq (options : List TimingOption) :
    effectiveTiming options = some (options.foldl apply {}).finish.effectiveTiming := by
  rw [effectiveTiming, runScan, optionLoop_flatMap]
  rfl

/-- Options whose profile bounds are as wide as they have to be. -/
def widen (o : ScanOptions) : ScanOptions :=
  { o with
    config :=
      { o.config with
        timingProfile :=
          { o.config.timingProfile with
            maxParallelism := o.config.timingProfile.initialParallelism } } }

/-- Where nothing is cut, the profile bounds leave no trace. -/
theorem effectiveTiming_of_keeps (h : Keeps o.config.timingProfile.initialParallelism o) :
    o.finish.effectiveTiming = (widen (blur o)).finish.effectiveTiming := by
  obtain ⟨hmin, hmax⟩ := h
  have hcut : min (max o.config.timingProfile.initialParallelism
      o.config.timingProfile.minParallelism) o.config.timingProfile.maxParallelism =
      o.config.timingProfile.initialParallelism := by omega
  have hwide : min (max o.config.timingProfile.initialParallelism 0)
      o.config.timingProfile.initialParallelism =
      o.config.timingProfile.initialParallelism := by omega
  simp only [ScanOptions.finish, FullScanConfig.effectiveTiming, FullScanConfig.portScanConfig,
    widen, blur, hcut, hwide]
  rcases o.adaptiveTiming <;> rfl

/-- The initial parallelism of the profile that was chosen. -/
theorem initial_of_chosen (hdistinct : (options.map kind).Nodup) (hchosen : chosen ∈ options)
    (hid : chosen.profile? = some id) :
    (options.foldl apply {}).config.timingProfile.initialParallelism =
      (TimingProfile.forId id).initialParallelism := by
  -- up to the bounds, the chosen option may as well come last
  obtain ⟨front, back, rfl⟩ := List.append_of_mem hchosen
  have hperm : (front ++ chosen :: back).Perm ((front ++ back) ++ [chosen]) :=
    List.perm_middle.trans (List.perm_append_singleton chosen (front ++ back)).symm
  have hblur := blur_foldl_perm hdistinct hperm {}
  rw [List.foldl_append (l := front ++ back), List.foldl_cons, List.foldl_nil,
    apply_of_profile hid] at hblur
  exact congrArg (fun o ↦ o.config.timingProfile.initialParallelism) hblur

/-- A profile that is kept hides the order of the options. -/
theorem effectiveTiming_perm_of_kept (hdistinct : (options.map kind).Nodup)
    (hkept : InitialKept options) (hperm : options.Perm permuted) :
    effectiveTiming permuted = effectiveTiming options := by
  rw [effectiveTiming_eq, effectiveTiming_eq]
  by_cases hsome : ∃ chosen ∈ options, ∃ id, chosen.profile? = some id
  · obtain ⟨chosen, hchosen, id, hid⟩ := hsome
    have hdistinct' : (permuted.map kind).Nodup := (hperm.map kind).nodup_iff.mp hdistinct
    have hstart : Keeps (TimingProfile.forId id).initialParallelism {} := by
      obtain ⟨hpos, hle, -, hsmall⟩ := forId_bounds id
      exact ⟨hpos.trans_le hle, hsmall.trans (by decide)⟩
    have hkeeps : ∀ taken : List TimingOption, (∀ option ∈ taken, option ∈ options) →
        (taken.foldl apply {}).config.timingProfile.initialParallelism =
          (TimingProfile.forId id).initialParallelism →
        (taken.foldl apply {}).finish.effectiveTiming =
          (widen (blur (taken.foldl apply {}))).finish.effectiveTiming := by
      intro taken htaken hinitial
      refine effectiveTiming_of_keeps ?_
      rw [hinitial]
      exact keeps_foldl hdistinct hkept hchosen hid htaken hstart
    rw [hkeeps permuted (fun option hmem ↦ hperm.mem_iff.mpr hmem)
        (initial_of_chosen hdistinct' (hperm.mem_iff.mp hchosen) hid),
      hkeeps options (fun _ hmem ↦ hmem) (initial_of_chosen hdistinct hchosen hid),
      blur_foldl_perm hdistinct hperm]
  · have hnone : ∀ option ∈ options, option.profile? = none := fun option hmem ↦
      Option.eq_none_iff_forall_ne_some.mpr fun id hid ↦ hsome ⟨option, hmem, id, hid⟩
    rw [foldl_perm_of_no_profile hdistinct hnone hperm]

/-! ### Profiles that are cut -/

section

variable (hid : chosen.profile? = some id)

include hid

/-- The derived initial parallelism when the profile comes last: that of the profile. -/
theorem initial_profile_last (o : ScanOptions) :
    (chosen.apply o).finish.effectiveTiming.profile.initialParallelism =
      (TimingProfile.forId id).initialParallelism := by
  obtain ⟨-, hle, hlt, -⟩ := forId_bounds id
  rw [apply_of_profile hid]
  show min (max (TimingProfile.forId id).initialParallelism _) _ = _
  exact (min_eq_left ((max_eq_left hle).le.trans hlt.le)).trans (max_eq_left hle)

/-- The derived initial parallelism when a minimum comes after the profile. -/
theorem initial_minimum_last (value : PositiveText) (o : ScanOptions) :
    ((minParallelism value).apply (chosen.apply
      o)).finish.effectiveTiming.profile.initialParallelism =
      min (max (TimingProfile.forId id).initialParallelism value.value)
        (TimingProfile.forId id).maxParallelism := by
  rw [apply_of_profile hid]
  rfl

/-- The derived initial parallelism when a maximum comes after the profile. -/
theorem initial_maximum_last (value : PositiveText) (o : ScanOptions) :
    ((maxParallelism value).apply (chosen.apply
      o)).finish.effectiveTiming.profile.initialParallelism =
      min (max (TimingProfile.forId id).initialParallelism (TimingProfile.forId id).minParallelism)
        value.value := by
  rw [apply_of_profile hid]
  rfl

end

/-- Two options of a list may be moved to its end, in either order. -/
theorem exists_perm_last (ha : a ∈ options) (hb : b ∈ options) (hne : a ≠ b) :
    ∃ rest, (rest ++ [a, b]).Perm options ∧ (rest ++ [b, a]).Perm options := by
  obtain ⟨front, back, rfl⟩ := List.append_of_mem ha
  have hb' : b ∈ front ++ back := by
    simp only [List.mem_append, List.mem_cons] at hb ⊢
    tauto
  obtain ⟨front', back', hsplit⟩ := List.append_of_mem hb'
  have hmove : (front ++ a :: back).Perm (a :: b :: (front' ++ back')) := by
    refine List.perm_middle.trans (.cons a ?_)
    rw [hsplit]
    exact List.perm_middle
  refine ⟨front' ++ back', ?_, ?_⟩
  · exact List.perm_append_comm.trans hmove.symm
  · exact List.perm_append_comm.trans ((List.Perm.swap a b _).trans hmove.symm)

/-- Where the order cannot be told, the two orders of a profile and another option agree. -/
theorem initial_eq_of_perm {timing : EffectiveTiming}
    (hsame : ∀ permuted : List TimingOption, permuted.Perm options →
      effectiveTiming permuted = some timing) (ha : a ∈ options) (hb : b ∈ options) (hne : a ≠ b) :
    ∃ o : ScanOptions,
      (b.apply (a.apply o)).finish.effectiveTiming.profile.initialParallelism =
        (a.apply (b.apply o)).finish.effectiveTiming.profile.initialParallelism := by
  obtain ⟨rest, hab, hba⟩ := exists_perm_last ha hb hne
  have hfirst := hsame _ hab
  have hsecond := hsame _ hba
  rw [effectiveTiming_eq, List.foldl_append] at hfirst hsecond
  refine ⟨rest.foldl apply {}, ?_⟩
  exact congrArg (fun timing ↦ timing.profile.initialParallelism)
    (Option.some.inj (hfirst.trans hsecond.symm))

theorem kept_of_perm {timing : EffectiveTiming}
    (hsame : ∀ permuted : List TimingOption, permuted.Perm options →
      effectiveTiming permuted = some timing) : InitialKept options := by
  intro chosen hchosen id hid
  obtain ⟨-, hle, hlt, -⟩ := forId_bounds id
  refine ⟨fun value hvalue ↦ ?_, fun value hvalue ↦ ?_⟩
  · have hne : chosen ≠ minParallelism value := by
      rintro rfl
      exact absurd hid (by simp [profile?])
    obtain ⟨o, heq⟩ := initial_eq_of_perm hsame hchosen hvalue hne
    rw [initial_minimum_last hid, initial_profile_last hid] at heq
    omega
  · have hne : chosen ≠ maxParallelism value := by
      rintro rfl
      exact absurd hid (by simp [profile?])
    obtain ⟨o, heq⟩ := initial_eq_of_perm hsame hchosen hvalue hne
    rw [initial_maximum_last hid, initial_profile_last hid] at heq
    omega

/-- **When timing options commute.** All orders of a list of timing options come to one effective
timing exactly when no parallelism bound among them cuts the initial parallelism of the profile
among them. -/
theorem order_free_iff {options : List TimingOption} (hdistinct : (options.map kind).Nodup) :
    (∃ timing, ∀ permuted : List TimingOption, permuted.Perm options →
      effectiveTiming permuted = some timing) ↔ InitialKept options := by
  constructor
  · rintro ⟨timing, hsame⟩
    exact kept_of_perm hsame
  · intro hkept
    refine ⟨(options.foldl apply {}).finish.effectiveTiming, fun permuted hperm ↦ ?_⟩
    rw [effectiveTiming_perm_of_kept hdistinct hkept hperm.symm, effectiveTiming_eq]

/-- A value of `--min-parallelism` above the initial parallelism of `T3`. -/
def twenty : PositiveText := ⟨literal "20", 20, by decide⟩

/-- The order of the two options can be told; that of two that leave the profile alone cannot. -/
theorem order_free_examples :
    ¬ (∃ timing, ∀ permuted : List TimingOption,
      permuted.Perm [minParallelism twenty, .timing .t3] → effectiveTiming permuted = some timing) ∧
    ∃ timing, ∀ permuted : List TimingOption,
      permuted.Perm [retries twenty, .timing .t3] → effectiveTiming permuted = some timing := by
  constructor
  · rw [order_free_iff (by decide)]
    intro hkept
    exact absurd ((hkept (.timing .t3) (by simp) .t3 rfl).1 twenty (by simp)) (by decide)
  · rw [order_free_iff (by decide)]
    intro chosen hchosen id hid
    simp

/-- The profile after the bound is turned down by the stage, the bound after the profile is not. -/
theorem not_order_free :
    ¬ ∀ options : List TimingOption, (options.map kind).Nodup →
      ∀ permuted : List TimingOption, permuted.Perm options →
        (effectiveTiming permuted).map EffectiveTiming.accepted =
          (effectiveTiming options).map EffectiveTiming.accepted := by
  intro hall
  have hswap := hall [minParallelism twenty, .timing .t3] (by decide)
    [.timing .t3, minParallelism twenty] (List.Perm.swap _ _ _)
  rw [effectiveTiming_eq, effectiveTiming_eq, Option.map_some, Option.map_some] at hswap
  have hcut : (List.foldl apply {} [minParallelism twenty,
    .timing .t3]).finish.effectiveTiming.accepted =
      .invalidArgument := by decide
  have hraised : (List.foldl apply {} [.timing .t3,
    minParallelism twenty]).finish.effectiveTiming.accepted =
      .ok := by
    have hprofile : (List.foldl apply {} [.timing .t3,
      minParallelism twenty]).finish.effectiveTiming.profile =
        { minParallelism := 20, maxParallelism := 128, initialParallelism := 20,
          minimumTimeout := 50,
          maximumTimeout := 1000, rttMultiplier := 4, backoffFactor := 1 / 2, timeoutThreshold := 2,
          recoveryThreshold := 4, dropRateAlpha := 1 / 8, maxRetries := 1 } := rfl
    have hcheck : ∀ c : FullScanConfig,
        c.effectiveTiming.accepted = c.effectiveTiming.profile.validate := fun _ ↦ rfl
    rw [hcheck, hprofile, TimingProfile.validate, if_neg (by decide), if_neg (by norm_num)]
  exact absurd (hraised.symm.trans ((Option.some.inj hswap).trans hcut)) (by decide)

end TimingOption

end Skan.Orchestrator

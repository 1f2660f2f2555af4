import Skan.Db.OsDatabase
import Skan.Library.Reading

/-!
# What an OS database holds

A database that `OSFingerprintDatabase::parse` accepts is well formed (`parse_wellFormed`): its
lines fall into blocks, one for each fingerprint, and every fingerprint is what its own block makes
it, read by itself.

The state that the loop carries from line to line is reset in two places, `has_class` in `finalize`
and the rest at the `Fingerprint` line. The invariant `Reads` says of every prefix of the lines that
this comes to the same as a fresh start: the block that is open, read alone, leads to the same
fingerprint and the same flags.
-/

namespace Skan.Db.OsDb

open Skan.Core Skan.Detect

variable {expectedFamily : AddressFamily} {current next : OSFingerprint} {s s' : OsState}
  {line : Text} {block lines : List Text}

/-! ### Kinds of lines -/

/-- A line that opens a fingerprint. -/
def isHeader (line : Text) : Bool := (literal "Fingerprint ").isPrefixOf (content line)

/-- A `Class` line. -/
def isClass (line : Text) : Bool := (literal "Class ").isPrefixOf (content line)

/-- The parts of a `Class` line. -/
def classValues (line : Text) : List Text := splitTrimmed 0x7C ((content line).drop 6)

/-- The state as if no fingerprint had been read before. -/
def OsState.alone (s : OsState) : OsState := { s with names := [], ids := [], fingerprints := [] }

/-! ### What a line does to the fingerprint that is open -/

/-- What a line `key=value` may change. -/
structure FieldStep (expectedFamily : AddressFamily) (current next : OSFingerprint) : Prop where
  name : next.name = current.name
  vendor : next.vendor = current.vendor
  family : next.family = current.family
  generation : next.generation = current.generation
  deviceType : next.deviceType = current.deviceType
  id : next.id = current.id ∨ next.id ≠ []
  addressFamily : next.addressFamily = current.addressFamily ∨
    (expectedFamily ≠ .unknown → next.addressFamily = expectedFamily)
  signatures : next.signatures = current.signatures ∨
    ∃ key value added, signature key value = some added ∧ hasField current added.field = false ∧
      next.signatures = current.signatures ++ [added]

theorem FieldStep.refl (expectedFamily : AddressFamily) (current : OSFingerprint) :
    FieldStep expectedFamily current current :=
  ⟨rfl, rfl, rfl, rfl, rfl, .inl rfl, .inl rfl, .inl rfl⟩

theorem fieldLine_step {hasFamilyMetadata hasFamilyMetadata' : Bool} {key value : Text}
    (hvalue : value ≠ []) (h : fieldLine expectedFamily hasFamilyMetadata current key value =
      some (next, hasFamilyMetadata')) : FieldStep expectedFamily current next := by
  have hrefl := FieldStep.refl expectedFamily current
  rw [fieldLine] at h
  split_ifs at h with hid hidBad hspecificity hfamily
  · obtain ⟨rfl, -⟩ := Prod.mk.inj (Option.some.inj h)
    exact { hrefl with id := .inr hvalue }
  · split at h
    · exact nomatch h
    · obtain ⟨rfl, -⟩ := Prod.mk.inj (Option.some.inj h)
      exact { hrefl with }
  · split at h
    · exact nomatch h
    · rename_i family _
      split_ifs at h with hbad
      obtain ⟨rfl, -⟩ := Prod.mk.inj (Option.some.inj h)
      rw [Bool.not_eq_true, Bool.or_eq_false_iff] at hbad
      refine { hrefl with addressFamily := .inr fun hexpected ↦ ?_ }
      by_contra hne
      exact absurd hbad.2 (by simpa [hexpected] using hne)
  · split at h
    · exact nomatch h
    · rename_i added hadded
      split_ifs at h with hbad
      obtain ⟨rfl, -⟩ := Prod.mk.inj (Option.some.inj h)
      simp only [Bool.or_eq_true, not_or, Bool.not_eq_true] at hbad
      exact { hrefl with signatures := .inr ⟨key, value, added, hadded, hbad.1.1.1, rfl⟩ }

/-- What a line does behind a `Fingerprint` line, if it is not another one. -/
inductive BodyStep (expectedFamily : AddressFamily) (s : OsState) (current : OSFingerprint)
    (line : Text) (s' : OsState) : Prop
  | blank (h : content line = []) (hs : s' = s)
  | classLine (h : isClass line = true) (hclass : s.hasClass = false) (next : OSFingerprint)
      (hnext : OsDb.classLine current (content line) = some next)
      (hs : s' = { s with current := some next, hasClass := true })
  | field (h : isClass line = false) (next : OSFingerprint) (hasFamilyMetadata : Bool)
      (hnext : FieldStep expectedFamily current next)
      (hs : s' = { s with current := some next, hasFamilyMetadata })

theorem osLine_body (hcurrent : s.current = some current) (hheader : isHeader line = false)
    (h : osLine expectedFamily s line = some s') : BodyStep expectedFamily s current line s' := by
  rw [isHeader] at hheader
  rw [osLine] at h
  simp only [hheader, hcurrent, Bool.false_eq_true, if_false] at h
  split_ifs at h with hlong hblank hclass hagain
  · exact .blank hblank (Option.some.inj h).symm
  · obtain ⟨next, hnext, hs⟩ := Option.map_eq_some_iff.mp h
    exact .classLine hclass (Bool.eq_false_iff.mpr hagain) next hnext hs.symm
  · split at h
    · exact nomatch h
    · exact nomatch h
    · split_ifs at h with hempty
      obtain ⟨⟨next, hasFamilyMetadata⟩, hnext, hs⟩ := Option.map_eq_some_iff.mp h
      exact .field (Bool.eq_false_iff.mpr hclass) next hasFamilyMetadata
        (fieldLine_step (fun hvalue ↦ hempty (by rw [hvalue]; exact Bool.or_true _)) hnext) hs.symm

/-- A line behind a `Fingerprint` line does the same to a fingerprint that was the first. -/
theorem osLine_alone (hcurrent : s.current = some current) (hheader : isHeader line = false)
    (h : osLine expectedFamily s line = some s') :
    osLine expectedFamily s.alone line = some s'.alone := by
  rw [isHeader] at hheader
  rw [osLine] at h ⊢
  simp only [hheader, hcurrent, OsState.alone, Bool.false_eq_true, if_false] at h ⊢
  split_ifs at h ⊢ with hlong hblank hclass hagain
  · obtain rfl := Option.some.inj h
    rw [hcurrent]
  · obtain ⟨next, hnext, rfl⟩ := Option.map_eq_some_iff.mp h
    rw [hnext]
    rfl
  · split at h
    · exact nomatch h
    · exact nomatch h
    · split_ifs at h ⊢ with hempty
      obtain ⟨next, hnext, rfl⟩ := Option.map_eq_some_iff.mp h
      rw [hnext]
      rfl

/-! ### The block that is open -/

/-- The one `Class` line of a block, as the fingerprint has it. -/
structure ClassOf (line : Text) (current : OSFingerprint) : Prop where
  vendor : current.vendor = (classValues line).getD 0 []
  family : current.family = (classValues line).getD 1 []
  generation : current.generation = (classValues line).getD 2 []
  deviceType : current.deviceType = (classValues line).getD 3 []

/-- What holds of a fingerprint from its `Fingerprint` line on. -/
structure Sound (expectedFamily : AddressFamily) (current : OSFingerprint) : Prop where
  name_ne : current.name ≠ []
  id_ne : current.id ≠ []
  fields : (current.signatures.map (·.field)).Nodup
  ranges : ∀ signature ∈ current.signatures, ∀ minimum maximum,
    signature.minimum = some minimum → signature.maximum = some maximum → minimum ≤ maximum
  addressFamily : expectedFamily ≠ .unknown → current.addressFamily = expectedFamily

/-- The lines of a fingerprint: the `Fingerprint` line that names it, and no other one. -/
structure Header (block : List Text) (name : Text) : Prop where
  lines : ∃ line rest, block = line :: rest ∧ isHeader line = true ∧
    (∀ other ∈ rest, isHeader other = false) ∧ name = trim ((content line).drop 11)

/-- The block of the fingerprint that is open. -/
structure Open (expectedFamily : AddressFamily) (block : List Text) (current : OSFingerprint)
    (hasClass hasFamilyMetadata : Bool) : Prop where
  header : Header block current.name
  sound : Sound expectedFamily current
  classLines : if hasClass then ∃ line, block.filter isClass = [line] ∧ ClassOf line current
    else block.filter isClass = []
  alone : block.foldlM (osLine expectedFamily) {} =
    some { current := some current, hasClass, hasFamilyMetadata }

theorem Header.concat {name : Text} (h : Header block name) (hline : isHeader line = false) :
    Header (block ++ [line]) name := by
  obtain ⟨header, rest, rfl, hheader, hrest, hname⟩ := h
  refine ⟨header, rest ++ [line], rfl, hheader, fun other hother ↦ ?_, hname⟩
  rcases List.mem_append.mp hother with hother | hother
  · exact hrest other hother
  · exact List.mem_singleton.mp hother ▸ hline

/-- A signature's range is in order. -/
theorem signature_range {key value : Text} {s : FingerprintSignature}
    (h : signature key value = some s) {minimum maximum : ℤ} (hminimum : s.minimum = some minimum)
    (hmaximum : s.maximum = some maximum) : minimum ≤ maximum := by
  rw [signature] at h
  split at h
  · obtain ⟨_, -, rfl⟩ := Option.map_eq_some_iff.mp h
    exact nomatch hminimum
  · obtain ⟨_, -, rfl⟩ := Option.map_eq_some_iff.mp h
    exact nomatch hminimum
  · obtain ⟨⟨low, high⟩, hrange, rfl⟩ := Option.map_eq_some_iff.mp h
    obtain rfl := Option.some.inj hminimum
    obtain rfl := Option.some.inj hmaximum
    rw [parseRange] at hrange
    split at hrange
    · exact nomatch hrange
    · split_ifs at hrange
      simp only [Option.bind_eq_bind, Option.bind_eq_some_iff] at hrange
      obtain ⟨a, -, b, -, hle⟩ := hrange
      split_ifs at hle with hbad
      obtain ⟨rfl, rfl⟩ := Prod.mk.inj (Option.some.inj hle)
      simp only [Bool.or_eq_true, decide_eq_true_eq, not_or, not_lt] at hbad
      exact hbad.2
  · obtain rfl := Option.some.inj h
    exact nomatch hminimum
  · split_ifs at h
    obtain ⟨_, -, rfl⟩ := Option.map_eq_some_iff.mp h
    exact nomatch hminimum

theorem Sound.step (h : Sound expectedFamily current)
    (hstep : FieldStep expectedFamily current next) : Sound expectedFamily next where
  name_ne := hstep.name ▸ h.name_ne
  id_ne := hstep.id.elim (fun hid ↦ hid ▸ h.id_ne) id
  fields := by
    rcases hstep.signatures with hsame | ⟨_, _, added, -, hnew, hadded⟩
    · exact hsame ▸ h.fields
    · rw [hadded, List.map_append, List.map_singleton, ← List.concat_eq_append,
        List.nodup_concat]
      refine ⟨fun hmem ↦ ?_, h.fields⟩
      obtain ⟨signature, hsignature, hfield⟩ := List.mem_map.mp hmem
      have hfound : hasField current added.field = true :=
        List.any_eq_true.mpr ⟨signature, hsignature, decide_eq_true hfield⟩
      exact absurd hfound (Bool.eq_false_iff.mp hnew)
  ranges signature hsignature minimum maximum hminimum hmaximum := by
    rcases hstep.signatures with hsame | ⟨_, _, added, hread, -, hadded⟩
    · exact h.ranges signature (hsame ▸ hsignature) _ _ hminimum hmaximum
    · rcases List.mem_append.mp (hadded ▸ hsignature) with hold | hnew
      · exact h.ranges signature hold _ _ hminimum hmaximum
      · obtain rfl := List.mem_singleton.mp hnew
        exact signature_range hread hminimum hmaximum
  addressFamily hexpected :=
    hstep.addressFamily.elim (fun hsame ↦ hsame.trans (h.addressFamily hexpected)) (· hexpected)

theorem ClassOf.step (h : ClassOf line current) (hstep : FieldStep expectedFamily current next) :
    ClassOf line next :=
  ⟨hstep.vendor.trans h.vendor, hstep.family.trans h.family, hstep.generation.trans h.generation,
    hstep.deviceType.trans h.deviceType⟩

theorem classLine_eq (h : classLine current (content line) = some next) :
    next = { current with
      vendor := (classValues line).getD 0 []
      family := (classValues line).getD 1 []
      generation := (classValues line).getD 2 []
      deviceType := (classValues line).getD 3 [] } := by
  rw [classLine] at h
  split_ifs at h
  exact (Option.some.inj h).symm

/-- A blank line is no `Class` line. -/
theorem isClass_blank (h : content line = []) : isClass line = false := by
  rw [isClass, h]
  rfl

/-- **A line behind the header keeps the block open.** -/
theorem Open.step (hcurrent : s.current = some current) (hheader : isHeader line = false)
    (h : Open expectedFamily block current s.hasClass s.hasFamilyMetadata)
    (hline : osLine expectedFamily s line = some s') :
    ∃ next, s' = { s with
        current := some next, hasClass := s'.hasClass, hasFamilyMetadata := s'.hasFamilyMetadata } ∧
      Open expectedFamily (block ++ [line]) next s'.hasClass s'.hasFamilyMetadata := by
  -- read alone, the block comes to the same state up to what was read before
  have halone : (block ++ [line]).foldlM (osLine expectedFamily) {} = some s'.alone := by
    have hstate : s.alone =
        { current := some current
          hasClass := s.hasClass
          hasFamilyMetadata := s.hasFamilyMetadata } := by
      rw [OsState.alone, hcurrent]
    rw [Reading.foldlM_concat, h.alone, ← hstate]
    exact osLine_alone hcurrent hheader hline
  have hclassLines := h.classLines
  rcases osLine_body hcurrent hheader hline with
    ⟨hblank, rfl⟩ | ⟨hclass, hnone, next, hnext, rfl⟩ | ⟨hclass, next, metadata, hstep, rfl⟩
  · refine ⟨current, by rw [← hcurrent], h.header.concat hheader, h.sound, ?_, ?_⟩
    · rwa [List.filter_append, List.filter_singleton, isClass_blank hblank, Bool.cond_false,
        List.append_nil]
    · rw [halone, OsState.alone, hcurrent]
  · rw [hnone, if_neg Bool.false_ne_true] at hclassLines
    obtain rfl := classLine_eq hnext
    refine ⟨_, rfl, h.header.concat hheader, { h.sound with }, ?_, halone⟩
    rw [if_pos rfl, List.filter_append, hclassLines, List.nil_append, List.filter_singleton, hclass]
    exact ⟨line, rfl, rfl, rfl, rfl, rfl⟩
  · refine ⟨next, rfl, hstep.name ▸ h.header.concat hheader, h.sound.step hstep, ?_, halone⟩
    dsimp only
    rw [List.filter_append, List.filter_singleton, hclass, Bool.cond_false, List.append_nil]
    split_ifs at hclassLines ⊢
    · obtain ⟨classLine, hfilter, hof⟩ := hclassLines
      exact ⟨classLine, hfilter, hof.step hstep⟩
    · exact hclassLines

/-! ### Fingerprints that are closed -/

/-- What `finalize` has checked of a fingerprint, and what held of it before. -/
structure Accepted (expectedFamily : AddressFamily) (fingerprint : OSFingerprint) : Prop where
  sound : Sound expectedFamily fingerprint
  vendor_ne : fingerprint.vendor ≠ []
  family_ne : fingerprint.family ≠ []
  signatures_ne : fingerprint.signatures ≠ []
  signatures_le : fingerprint.signatures.length ≤ maximumSignatures
  specificity_pos : 0 < fingerprint.specificity
  name_le : fingerprint.name.length ≤ maximumStringBytes
  vendor_le : fingerprint.vendor.length ≤ maximumStringBytes
  family_le : fingerprint.family.length ≤ maximumStringBytes
  generation_le : fingerprint.generation.length ≤ maximumStringBytes
  deviceType_le : fingerprint.deviceType.length ≤ maximumStringBytes

/-- **What the lines of a fingerprint have to do with it**: one of them names it, exactly one is a
`Class` line and gives it its vendor, family, generation and device type, and read by themselves
they make this fingerprint and no other. -/
structure Describes (expectedFamily : AddressFamily) (block : List Text)
    (fingerprint : OSFingerprint) : Prop where
  header : Header block fingerprint.name
  classLine : ∃ line, block.filter isClass = [line] ∧ ClassOf line fingerprint
  alone : ((block.foldlM (osLine expectedFamily) {}).bind (finalize expectedFamily)).map
    (·.fingerprints) = some [fingerprint]

/-- What `finalize` checks of a fingerprint that is open. -/
structure Closes (expectedFamily : AddressFamily) (s : OsState) (current : OSFingerprint) :
    Prop where
  hasClass : s.hasClass = true
  signatures_ne : current.signatures ≠ []
  vendor_ne : current.vendor ≠ []
  family_ne : current.family ≠ []
  name_le : current.name.length ≤ maximumStringBytes
  vendor_le : current.vendor.length ≤ maximumStringBytes
  family_le : current.family.length ≤ maximumStringBytes
  generation_le : current.generation.length ≤ maximumStringBytes
  deviceType_le : current.deviceType.length ≤ maximumStringBytes
  signatures_le : current.signatures.length ≤ maximumSignatures
  hasFamilyMetadata : expectedFamily = .ipv6 → s.hasFamilyMetadata = true
  addressFamily : expectedFamily ≠ .unknown → current.addressFamily = expectedFamily
  room : s.fingerprints.length < maximumFingerprints
  name_new : current.name ∉ s.names
  id_new : (completed current).id ∉ s.ids

/-- What `finalize` makes of the state. -/
def closed (s : OsState) (current : OSFingerprint) : OsState :=
  { s with
    current := none
    hasClass := false
    names := current.name :: s.names
    ids := (completed current).id :: s.ids
    fingerprints := s.fingerprints ++ [completed current] }

/-- **`finalize` closes the fingerprint that is open exactly if all its checks pass.** -/
theorem finalize_eq_some_iff (hcurrent : s.current = some current) :
    finalize expectedFamily s = some s' ↔
      Closes expectedFamily s current ∧ s' = closed s current := by
  rw [finalize, hcurrent]
  dsimp only
  constructor
  · intro h
    split_ifs at h with hbad
    simp only [Bool.or_eq_true, Bool.not_eq_true', Bool.and_eq_true, decide_eq_true_eq, not_or,
      not_and, Bool.not_eq_false, not_lt, not_le, not_not] at hbad
    obtain ⟨⟨⟨⟨⟨⟨⟨⟨⟨⟨⟨⟨⟨⟨h₁, h₂⟩, h₃⟩, h₄⟩, h₅⟩, h₆⟩, h₇⟩, h₈⟩, h₉⟩, h₁₀⟩, h₁₁⟩, h₁₂⟩, h₁₃⟩,
      h₁₄⟩, h₁₅⟩ := hbad
    exact ⟨⟨h₁, h₂, h₃, h₄, h₅, h₆, h₇, h₈, h₉, h₁₀, h₁₁, h₁₂, h₁₃, h₁₄, h₁₅⟩,
      (Option.some.inj h).symm⟩
  · rintro ⟨⟨h₁, h₂, h₃, h₄, h₅, h₆, h₇, h₈, h₉, h₁₀, h₁₁, h₁₂, h₁₃, h₁₄, h₁₅⟩, rfl⟩
    rw [if_neg]
    · rfl
    · simp only [Bool.or_eq_true, Bool.not_eq_true', Bool.and_eq_true, decide_eq_true_eq, not_or,
        not_and, Bool.not_eq_false, not_lt, not_le, not_not]
      exact ⟨⟨⟨⟨⟨⟨⟨⟨⟨⟨⟨⟨⟨⟨h₁, h₂⟩, h₃⟩, h₄⟩, h₅⟩, h₆⟩, h₇⟩, h₈⟩, h₉⟩, h₁₀⟩, h₁₁⟩, h₁₂⟩, h₁₃⟩,
        h₁₄⟩, h₁₅⟩

theorem completed_specificity_pos (hne : current.signatures ≠ [])
    (hle : current.signatures.length ≤ maximumSignatures) :
    0 < (completed current).specificity := by
  have hpos := List.length_pos_of_ne_nil hne
  have hsmall : maximumSignatures < 2 ^ 16 := by decide
  rw [completed]
  dsimp only
  split_ifs with hnone
  · rw [Nat.mod_eq_of_lt (by omega)]
    exact hpos
  · exact Nat.pos_of_ne_zero hnone

theorem Sound.completed (h : Sound expectedFamily current) :
    Sound expectedFamily (completed current) where
  name_ne := h.name_ne
  id_ne := by
    show (if current.id = [] then current.name else current.id) ≠ []
    rw [if_neg h.id_ne]
    exact h.id_ne
  fields := h.fields
  ranges := h.ranges
  addressFamily := h.addressFamily

theorem Closes.accepted (h : Closes expectedFamily s current)
    (hsound : Sound expectedFamily current) :
    Accepted expectedFamily (completed current) where
  sound := hsound.completed
  vendor_ne := h.vendor_ne
  family_ne := h.family_ne
  signatures_ne := h.signatures_ne
  signatures_le := h.signatures_le
  specificity_pos := completed_specificity_pos h.signatures_ne h.signatures_le
  name_le := h.name_le
  vendor_le := h.vendor_le
  family_le := h.family_le
  generation_le := h.generation_le
  deviceType_le := h.deviceType_le

/-- A block that is closed describes the fingerprint that it was open for. -/
theorem Open.describes (h : Open expectedFamily block current s.hasClass s.hasFamilyMetadata)
    (hcloses : Closes expectedFamily s current) :
    Describes expectedFamily block (completed current) where
  header := h.header
  classLine := by
    have hclassLines := h.classLines
    rw [hcloses.hasClass, if_pos rfl] at hclassLines
    obtain ⟨line, hfilter, hof⟩ := hclassLines
    exact ⟨line, hfilter, hof.vendor, hof.family, hof.generation, hof.deviceType⟩
  alone := by
    have halone : Closes expectedFamily
        { current := some current
          hasClass := s.hasClass
          hasFamilyMetadata := s.hasFamilyMetadata } current :=
      { hcloses with
        room := Nat.zero_lt_of_lt hcloses.room
        name_new := List.not_mem_nil
        id_new := List.not_mem_nil }
    rw [h.alone, Option.bind_some, (finalize_eq_some_iff rfl).mpr ⟨halone, rfl⟩]
    rfl

/-! ### All the lines -/

/-- The lines of the fingerprints that are closed, behind blank ones. -/
structure Settled (expectedFamily : AddressFamily) (lines : List Text) (s : OsState) : Prop where
  names : s.names = (s.fingerprints.map (·.name)).reverse
  ids : s.ids = (s.fingerprints.map (·.id)).reverse
  names_nodup : s.names.Nodup
  ids_nodup : s.ids.Nodup
  count : s.fingerprints.length ≤ maximumFingerprints
  accepted : ∀ fingerprint ∈ s.fingerprints, Accepted expectedFamily fingerprint
  blocks : ∃ blank blocks, lines = blank ++ blocks.flatten ∧ (∀ line ∈ blank, content line = []) ∧
    List.Forall₂ (Describes expectedFamily) blocks s.fingerprints

/-- **What holds of the lines that were read.** -/
inductive Reads (expectedFamily : AddressFamily) (lines : List Text) (s : OsState) : Prop
  | blank (hlines : ∀ line ∈ lines, content line = []) (hs : s = {})
  | reading (front block : List Text) (current : OSFingerprint) (hlines : lines = front ++ block)
      (hfront : Settled expectedFamily front s) (hcurrent : s.current = some current)
      (hblock : Open expectedFamily block current s.hasClass s.hasFamilyMetadata)

/-- **`finalize` settles the block that is open.** -/
theorem Settled.finalize {front : List Text} (h : Settled expectedFamily front s)
    (hblock : Open expectedFamily block current s.hasClass s.hasFamilyMetadata)
    (hcloses : Closes expectedFamily s current) :
    Settled expectedFamily (front ++ block) (closed s current) where
  names := by
    show current.name :: s.names = _
    rw [h.names, closed, List.map_append, List.reverse_append]
    rfl
  ids := by
    show (completed current).id :: s.ids = _
    rw [h.ids, closed, List.map_append, List.reverse_append]
    rfl
  names_nodup := List.nodup_cons.mpr ⟨hcloses.name_new, h.names_nodup⟩
  ids_nodup := List.nodup_cons.mpr ⟨hcloses.id_new, h.ids_nodup⟩
  count := by
    rw [closed, List.length_append]
    exact hcloses.room
  accepted fingerprint hfingerprint := by
    rcases List.mem_append.mp hfingerprint with hold | hnew
    · exact h.accepted fingerprint hold
    · exact List.mem_singleton.mp hnew ▸ hcloses.accepted hblock.sound
  blocks := by
    obtain ⟨blank, blocks, rfl, hblank, hblocks⟩ := h.blocks
    refine ⟨blank, blocks ++ [block], ?_, hblank, ?_⟩
    · rw [List.flatten_append, List.flatten_singleton, List.append_assoc]
    · exact List.rel_append hblocks (.cons (hblock.describes hcloses) .nil)

theorem settled_blank (h : ∀ line ∈ lines, content line = []) :
    Settled expectedFamily lines {} where
  names := rfl
  ids := rfl
  names_nodup := .nil
  ids_nodup := .nil
  count := Nat.zero_le _
  accepted _ hfingerprint := absurd hfingerprint List.not_mem_nil
  blocks := ⟨lines, [], (List.append_nil _).symm, h, .nil⟩

/-- All the lines are settled when `finalize` is through. -/
theorem Reads.finalize (h : Reads expectedFamily lines s)
    (hs : OsDb.finalize expectedFamily s = some s') :
    Settled expectedFamily lines s' ∧ s'.current = none ∧ s'.hasClass = false := by
  rcases h with ⟨hlines, rfl⟩ | ⟨front, block, current, rfl, hfront, hcurrent, hblock⟩
  · obtain rfl := Option.some.inj hs
    exact ⟨settled_blank hlines, rfl, rfl⟩
  · obtain ⟨hcloses, rfl⟩ := (finalize_eq_some_iff hcurrent).mp hs
    exact ⟨hfront.finalize hblock hcloses, rfl, rfl⟩

/-- The fingerprint that a header opens. -/
def opened (expectedFamily : AddressFamily) (line : Text) : OSFingerprint :=
  let name := trim ((content line).drop 11)
  { name
    id := name
    addressFamily := if expectedFamily = .unknown then .ipv4 else expectedFamily }

theorem osLine_header (hheader : isHeader line = true) :
    osLine expectedFamily s line = some s' ↔
      line.length ≤ maximumLineBytes ∧ (opened expectedFamily line).name ≠ [] ∧
        ∃ before, OsDb.finalize expectedFamily s = some before ∧ s' =
          { before with
            current := some (opened expectedFamily line)
            hasFamilyMetadata := false } := by
  have hcontent : content line ≠ [] := fun hblank ↦ by
    rw [isHeader, hblank] at hheader
    exact nomatch hheader
  rw [isHeader] at hheader
  rw [osLine]
  simp only [hcontent, hheader, if_false, if_true, fingerprintLine]
  constructor
  · intro h
    by_cases hlong : maximumLineBytes < line.length
    · rw [if_pos hlong] at h
      exact nomatch h
    · rw [if_neg hlong] at h
      obtain ⟨before, hbefore, h⟩ := Option.bind_eq_some_iff.mp h
      by_cases hname : (opened expectedFamily line).name = []
      · exact nomatch (if_pos hname).symm.trans h
      · exact ⟨not_lt.mp hlong, hname, before, hbefore,
          (Option.some.inj ((if_neg hname).symm.trans h)).symm⟩
  · rintro ⟨hlong, hname, before, hbefore, rfl⟩
    rw [if_neg (not_lt.mpr hlong), hbefore]
    exact if_neg hname

theorem opened_sound (hname : (opened expectedFamily line).name ≠ []) :
    Sound expectedFamily (opened expectedFamily line) where
  name_ne := hname
  id_ne := hname
  fields := .nil
  ranges _ hsignature := absurd hsignature List.not_mem_nil
  addressFamily hexpected := if_neg hexpected

theorem isClass_header (hheader : isHeader line = true) : isClass line = false := by
  rw [isHeader, List.isPrefixOf_iff_prefix] at hheader
  obtain ⟨rest, hrest⟩ := hheader
  rw [isClass, ← hrest]
  rfl

/-- **A header opens a block.** -/
theorem open_header (hheader : isHeader line = true) (hlong : line.length ≤ maximumLineBytes)
    (hname : (opened expectedFamily line).name ≠ []) :
    Open expectedFamily [line] (opened expectedFamily line) false false where
  header := ⟨line, [], rfl, hheader, fun _ h ↦ absurd h List.not_mem_nil, rfl⟩
  sound := opened_sound hname
  classLines := by
    rw [if_neg Bool.false_ne_true, List.filter_singleton, isClass_header hheader]
    rfl
  alone := by
    have hline : osLine expectedFamily {} line =
        some { current := some (opened expectedFamily line) } :=
      (osLine_header hheader).mpr ⟨hlong, hname, {}, rfl, rfl⟩
    rw [← List.nil_append [line], Reading.foldlM_concat]
    exact hline

/-- **What holds of the lines that were read holds when one more is.** -/
theorem Reads.step (h : Reads expectedFamily lines s)
    (hline : osLine expectedFamily s line = some s') :
    Reads expectedFamily (lines ++ [line]) s' := by
  by_cases hheader : isHeader line = true
  · obtain ⟨hlong, hname, before, hbefore, rfl⟩ := (osLine_header hheader).mp hline
    obtain ⟨hsettled, -, hclass⟩ := h.finalize hbefore
    refine .reading lines [line] _ rfl { hsettled with } rfl ?_
    dsimp only
    rw [hclass]
    exact open_header hheader hlong hname
  · rw [Bool.not_eq_true] at hheader
    rcases h with ⟨hlines, rfl⟩ | ⟨front, block, current, rfl, hfront, hcurrent, hblock⟩
    · -- nothing but blank lines may come before the first header
      have hblank : content line = [] := by
        by_contra hcontent
        rw [isHeader] at hheader
        rw [osLine] at hline
        simp only [hcontent, hheader, Bool.false_eq_true, if_false] at hline
        split_ifs at hline
      have hs : s' = {} := by
        rw [osLine] at hline
        simp only [hblank, if_true] at hline
        split_ifs at hline
        exact (Option.some.inj hline).symm
      refine .blank (fun other hother ↦ ?_) hs
      rcases List.mem_append.mp hother with hother | hother
      · exact hlines other hother
      · exact List.mem_singleton.mp hother ▸ hblank
    · obtain ⟨next, hs, hopen⟩ := Open.step hcurrent hheader hblock hline
      have hcurrent' : s'.current = some next := by rw [hs]
      have hsettled : Settled expectedFamily front s' := by
        rw [hs]
        exact { hfront with }
      exact .reading front (block ++ [line]) next (List.append_assoc ..) hsettled hcurrent' hopen

/-! ### Databases -/

/-- What a database holds that was read from these lines. -/
structure WellFormed (expectedFamily : AddressFamily) (lines : List Text)
    (fingerprints : List OSFingerprint) : Prop where
  nonempty : 1 ≤ fingerprints.length
  count : fingerprints.length ≤ maximumFingerprints
  names : (fingerprints.map (·.name)).Nodup
  ids : (fingerprints.map (·.id)).Nodup
  accepted : ∀ fingerprint ∈ fingerprints, Accepted expectedFamily fingerprint
  blocks : ∃ blank blocks, lines = blank ++ blocks.flatten ∧ (∀ line ∈ blank, content line = []) ∧
    List.Forall₂ (Describes expectedFamily) blocks fingerprints

/-- **A database that is accepted is well formed.** -/
theorem parse_wellFormed {text : Text} (h : (parse expectedFamily text).status = .ok) :
    WellFormed expectedFamily (ServiceDb.lines text)
      (parse expectedFamily text).database.fingerprints := by
  rw [parse] at h ⊢
  split_ifs at h ⊢ with hlarge
  dsimp only at h ⊢
  split at h
  · exact nomatch h
  · rename_i s hread
    split_ifs at h ⊢ with hempty
    obtain ⟨before, hbefore, hs⟩ := Option.bind_eq_some_iff.mp hread
    have hreads : Reads expectedFamily (ServiceDb.lines text) before :=
      Reading.foldlM_invariant (.blank (fun _ h ↦ absurd h List.not_mem_nil) rfl)
        (fun _ _ _ _ h hline ↦ h.step hline) hbefore
    obtain ⟨hsettled, -⟩ := hreads.finalize hs
    exact ⟨List.length_pos_of_ne_nil hempty, hsettled.count,
      List.nodup_reverse.mp (hsettled.names ▸ hsettled.names_nodup),
      List.nodup_reverse.mp (hsettled.ids ▸ hsettled.ids_nodup), hsettled.accepted,
      hsettled.blocks⟩

/-- Two fingerprints, with a comment in front of them. -/
def twoFingerprints : Text :=
  literal ("# two\nFingerprint a\nClass V | F | G | D\nTTL=64\n" ++
    "Fingerprint b\nTTL_RANGE=60-64\nClass W | F\n")

theorem parse_wellFormed_two :
    WellFormed .ipv4 (ServiceDb.lines twoFingerprints)
      (parse .ipv4 twoFingerprints).database.fingerprints :=
  parse_wellFormed (by decide +kernel)

end Skan.Db.OsDb

import Skan.Detect.DerElements

/-!
# How a handshake is cut into records

A server may send its handshake messages in one record or in many, and one record may hold the end
of a message and the beginning of the next. `parse_tls_metadata` puts the handshake together before
it looks at a message (`loop_recordStep`), so nothing that it tells depends on the cut.
-/

namespace Skan.Detect.Tls

open Skan.Core Loops

variable {major minor : UInt8} {rest part response : Text} {offset : ℕ}

/-- A way of cutting a stream into parts that each fit into a record. -/
structure Cut (stream : Text) where
  parts : List Text
  flatten_parts : parts.flatten = stream
  ne_nil : ∀ part ∈ parts, part ≠ []
  length_lt : ∀ part ∈ parts, part.length < 65536

/-- A handshake record: its type, the version, the length of the part and the part. -/
def handshakeRecord (major minor : UInt8) (part : Text) : Text :=
  0x16 :: major :: minor :: UInt8.ofNat (part.length / 256) :: UInt8.ofNat (part.length % 256) ::
    part

/-- The bytes of the records. -/
def framed (major minor : UInt8) (parts : List Text) : Text :=
  parts.flatMap (handshakeRecord major minor)

/-- The version that two bytes spell. -/
def versionOf (major minor : UInt8) : ℕ := major.toNat * 256 + minor.toNat

@[simp] theorem length_handshakeRecord (major minor : UInt8) (part : Text) :
    (handshakeRecord major minor part).length = part.length + 5 := rfl

theorem readU16_of_drop {bytes : Text} {high low : UInt8}
    (h : bytes.drop offset = high :: low :: rest) (hsize : bytes.length < 2 ^ 63) :
    readU16 bytes offset = .ok (high.toNat * 256 + low.toNat) := by
  have hlow : bytes.drop (offset + 1) = low :: rest := drop_succ_of_drop h
  have hlt := length_of_drop hlow
  rw [readU16, byteAt_of_drop h, add64_of_lt (by omega), byteAt_of_drop hlow]
  rfl

theorem subspan_of_drop {bytes : Text} (h : bytes.drop offset = part ++ rest)
    (hle : offset ≤ bytes.length) : subspan bytes offset part.length = .ok part := by
  have hlength := congrArg List.length h
  rw [List.length_drop, List.length_append] at hlength
  rw [subspan, if_pos (by omega), h, List.take_left]
  rfl

/-- **A record in front of others** is read, and the next offset is behind it. -/
theorem recordStep_handshakeRecord {read : TlsMetadata × Text} (hsize : response.length < 2 ^ 63)
    (hpart : part.length < 65536)
    (h : response.drop offset = handshakeRecord major minor part ++ rest) :
    recordStep response (offset, read) =
      .ok (.inl (offset + (handshakeRecord major minor part).length,
        readRecord 0x16 (versionOf major minor) part read)) := by
  rw [handshakeRecord] at h
  simp only [List.cons_append] at h
  have hversion := drop_succ_of_drop h
  have hlength := drop_succ_of_drop (drop_succ_of_drop hversion)
  have hbody := drop_succ_of_drop (drop_succ_of_drop hlength)
  have hlt := length_of_drop (drop_succ_of_drop hlength)
  have hroom := congrArg List.length hbody
  rw [List.length_drop, List.length_append] at hroom
  have hannounced : (UInt8.ofNat (part.length / 256)).toNat * 256 +
      (UInt8.ofNat (part.length % 256)).toNat = part.length := by
    rw [UInt8.toNat_ofNat_of_lt' (show part.length / 256 < 256 by omega),
      UInt8.toNat_ofNat_of_lt' (show part.length % 256 < 256 by omega)]
    omega
  rw [recordStep, add64_of_lt (by omega), add64_of_lt (by omega), add64_of_lt (by omega),
    if_neg (by omega), byteAt_of_drop h, readU16_of_drop hversion hsize,
    readU16_of_drop hlength hsize, hannounced]
  show (if _ then _ else _) = _
  rw [sub64_of_le (by omega) (by omega), if_neg (by omega), subspan_of_drop hbody (by omega)]
  show Except.ok _ = _
  rw [add64_of_lt (by omega), length_handshakeRecord]
  congr 3
  omega

theorem recordStep_end {read : TlsMetadata × Text} (hsize : response.length < 2 ^ 63) :
    recordStep response (response.length, read) = .ok (.inr read) := by
  rw [recordStep, add64_of_lt (by omega), if_pos (by omega)]
  rfl

/-- What handshake records of one version leave in the metadata. -/
def recognized (major minor : UInt8) : TlsMetadata :=
  { detected := true, protocolVersion := tlsVersionName (versionOf major minor) }

/-- Whatever was read, behind a record the version is the one of the records. -/
theorem readRecord_handshake {handshake : Text} {metadata : TlsMetadata}
    (hmetadata : metadata = {} ∨ metadata = recognized major minor)
    (hroom : handshake.length + part.length ≤ maximumTlsBytes) :
    readRecord 0x16 (versionOf major minor) part (metadata, handshake) =
      (recognized major minor, handshake ++ part) := by
  have hlimit : maximumTlsBytes < 2 ^ 64 := by decide
  have hfits : (0x16 : UInt8) = 0x16 && part.length ≤ sub64 maximumTlsBytes handshake.length := by
    rw [sub64_of_le (by omega) hlimit]
    simp only [decide_true, Bool.true_and, decide_eq_true_eq]
    omega
  rw [readRecord, if_pos hfits, if_pos (by decide)]
  rcases hmetadata with rfl | rfl
  · rfl
  · rw [recognized]
    by_cases hname : tlsVersionName (versionOf major minor) = []
    · simp only [if_pos hname]
    · simp only [if_neg hname]

/-- **The loop over the records** puts the parts together. -/
theorem loop_recordStep (hsize : response.length < 2 ^ 63) {parts : List Text} {fuel : ℕ}
    {handshake : Text} {metadata : TlsMetadata} (hlength : ∀ part ∈ parts, part.length < 65536)
    (hfuel : parts.length < fuel) (hdrop : response.drop offset = framed major minor parts)
    (hle : offset ≤ response.length)
    (hmetadata : metadata = {} ∨ metadata = recognized major minor)
    (hroom : handshake.length + parts.flatten.length ≤ maximumTlsBytes) :
    loop .endless (recordStep response) fuel (offset, metadata, handshake) =
      .ok (if parts = [] then metadata else recognized major minor,
        handshake ++ parts.flatten) := by
  induction parts generalizing offset fuel handshake metadata with
  | nil =>
    obtain ⟨fuel, rfl⟩ := Nat.exists_eq_succ_of_ne_zero (Nat.ne_zero_of_lt hfuel)
    have hend : offset = response.length :=
      le_antisymm hle (List.drop_eq_nil_iff.mp hdrop)
    rw [loop, hend, recordStep_end hsize, if_pos rfl, List.flatten_nil, List.append_nil]
    rfl
  | cons part parts ih =>
    obtain ⟨fuel, rfl⟩ := Nat.exists_eq_succ_of_ne_zero (Nat.ne_zero_of_lt hfuel)
    rw [List.flatten_cons, List.length_append] at hroom
    rw [framed, List.flatMap_cons] at hdrop
    have hnext : response.drop (offset + (handshakeRecord major minor part).length) =
        framed major minor parts := by
      rw [← List.drop_drop, hdrop, List.drop_left]
      rfl
    have hwithin := congrArg List.length hdrop
    rw [List.length_drop, List.length_append, length_handshakeRecord] at hwithin
    rw [loop, recordStep_handshakeRecord hsize (hlength part List.mem_cons_self) hdrop,
      readRecord_handshake hmetadata (by omega)]
    show loop .endless (recordStep response) fuel _ = _
    rw [ih (fun p hp ↦ hlength p (List.mem_cons_of_mem part hp)) (Nat.lt_of_succ_lt_succ hfuel)
      hnext (by rw [length_handshakeRecord]; omega) (.inr rfl)
      (by rw [List.length_append]; omega), ite_self, if_neg (List.cons_ne_nil part parts),
      List.flatten_cons, List.append_assoc]

theorem length_flatten_le_framed (major minor : UInt8) (parts : List Text) :
    parts.length * 5 + parts.flatten.length ≤ (framed major minor parts).length := by
  induction parts with
  | nil => exact le_rfl
  | cons part parts ih =>
    rw [framed, List.flatMap_cons, List.length_append, length_handshakeRecord, List.flatten_cons,
      List.length_append, List.length_cons]
    rw [framed] at ih
    omega

/-- What is told of framed parts is what their handshake says. -/
theorem parseTlsMetadata_framed {stream : Text} (hne : stream ≠ []) (cut : Cut stream)
    (hlimit : (framed major minor cut.parts).length ≤ maximumTlsBytes) :
    parseTlsMetadata (framed major minor cut.parts) =
      loop .endless (messageStep stream) (stream.length + 1) (0, recognized major minor) := by
  have hmaximum : maximumTlsBytes < 2 ^ 63 := by decide
  have hparts : cut.parts ≠ [] := fun hnil ↦ hne (by rw [← cut.flatten_parts, hnil]; rfl)
  have hflatten := length_flatten_le_framed major minor cut.parts
  have hcount := List.length_pos_of_ne_nil hparts
  rw [parseTlsMetadata, if_neg (by
    simp only [Bool.or_eq_true, decide_eq_true_eq, not_or, Nat.not_lt]
    omega), loop_recordStep (by omega) cut.length_lt (by omega) List.drop_zero (Nat.zero_le _)
    (.inl rfl) (by rw [List.length_nil]; omega), if_neg hparts, List.nil_append,
    cut.flatten_parts]
  rfl

/-- **TLS metadata does not depend on the cut**: a handshake gives the same result, without a fault,
whatever records of one version it is cut into. -/
theorem parseTlsMetadata_cut {stream : Text} (hne : stream ≠ []) (major minor : UInt8)
    (first second : Cut stream)
    (hfirst : (framed major minor first.parts).length ≤ maximumTlsBytes)
    (hsecond : (framed major minor second.parts).length ≤ maximumTlsBytes) :
    ∃ metadata, parseTlsMetadata (framed major minor first.parts) = .ok metadata ∧
      parseTlsMetadata (framed major minor second.parts) = .ok metadata := by
  obtain ⟨metadata, hmetadata, -⟩ := ends_parseTlsMetadata (framed major minor first.parts)
  refine ⟨metadata, hmetadata, ?_⟩
  rw [parseTlsMetadata_framed hne second hsecond, ← parseTlsMetadata_framed hne first hfirst,
    hmetadata]

/-- A server hello with an extension that names TLS 1.3. -/
def serverHello : Text :=
  [0x02, 0x00, 0x00, 0x2E, 0x03, 0x03] ++ List.replicate 32 0xAA ++
    [0x00, 0x13, 0x01, 0x00, 0x00, 0x06, 0x00, 0x2B, 0x00, 0x02, 0x03, 0x04]

/-- It is read whole and in two halves. -/
theorem parseTlsMetadata_cut_serverHello :
    ∃ metadata, metadata.protocolVersion = tlsVersionName 0x0304 ∧
      parseTlsMetadata (framed 3 3 [serverHello]) = .ok metadata ∧
      parseTlsMetadata (framed 3 3 [serverHello.take 20, serverHello.drop 20]) = .ok metadata := by
  obtain ⟨metadata, hwhole, hhalves⟩ := @parseTlsMetadata_cut serverHello (by decide) 3 3
    ⟨[serverHello], rfl, by decide, by decide⟩
    ⟨[serverHello.take 20, serverHello.drop 20], rfl, by decide, by decide⟩ (by decide) (by decide)
  have hversion : (parseTlsMetadata (framed 3 3 [serverHello])).toOption.map
      TlsMetadata.protocolVersion = some (tlsVersionName 0x0304) := by
    decide +kernel
  rw [hwhole] at hversion
  exact ⟨metadata, Option.some.inj hversion, hwhole, hhalves⟩

end Skan.Detect.Tls

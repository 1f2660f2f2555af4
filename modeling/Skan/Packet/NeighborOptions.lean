import Skan.Library.Loops
import Skan.Packet.Datagrams

/-!
# The options of a neighbor message

`src/packet/icmpv6.cpp`: the two walks over the options behind the target of a neighbor solicitation
or advertisement. `validate` looks at every length; `neighbor_options` takes the link-layer
addresses out and relies on what the other has seen.

**Every access is checked here and every loop is counted**, though not in the source: a byte that is
not there is the fault `outOfRange`, and a walk without an end the fault `endless`. The payload is
shorter than 2 ^ 16 where the options are walked, so no sum of offsets wraps.
-/

namespace Skan.Packet

open Skan.Core BigEndian Loops

variable {o : NeighborOption}

/-- What a walk over the payload must never come to. -/
inductive PayloadFault where
  | outOfRange
  | endless
  deriving DecidableEq

abbrev PayloadReads := Except PayloadFault

/-- `payload_[offset]`. -/
def payloadByte (payload : List UInt8) (offset : ℕ) : PayloadReads UInt8 :=
  match payload[offset]? with
  | some b => pure b
  | none => throw .outOfRange

/-- `std::copy_n(payload_.begin() + offset, n, …)`. -/
def payloadCopy (payload : List UInt8) (offset n : ℕ) : PayloadReads (Vector UInt8 n) :=
  if offset + n ≤ payload.length then pure (readVector n payload offset) else throw .outOfRange

/-- `packet::Icmpv6NeighborOption`. -/
structure Icmpv6NeighborOption where
  type : UInt8 := 0
  mac : Vector UInt8 6 := Vector.replicate 6 0
  deriving DecidableEq

namespace ICMPv6

/-- One round of the loop of `validate`. -/
def validStep (payload : List UInt8) (offset : ℕ) : PayloadReads (ℕ ⊕ Bool) := do
  if payload.length ≤ offset then return .inr true
  if payload.length - offset < 2 then return .inr false
  let units ← payloadByte payload (offset + 1)
  let length := units.toNat * 8
  if length < 8 || payload.length - offset < length then return .inr false
  let kind ← payloadByte payload offset
  if (kind = 1 || kind = 2) && length ≠ 8 then return .inr false
  return .inl (offset + length)

/-- `validate`, with its accesses checked. -/
def validateReads (m : ICMPv6) : PayloadReads Bool := do
  if 65535 < m.serializedSize then return false
  if m.type.codeless && m.code ≠ 0 then return false
  if m.type.neighbor then
    if m.payload.length < 16 then return false
    let first ← payloadByte m.payload 0
    if first = 0xFF then return false
    if m.type = .neighborSolicitation && m.restWord ≠ 0 then return false
    loop .endless (validStep m.payload) (m.payload.length + 1) 16
  else return true

/-- `neighbor_target`. -/
def neighborTarget (m : ICMPv6) : PayloadReads (Option (Vector UInt8 16)) := do
  if !m.type.neighbor || m.payload.length < 16 then return none
  return some (← payloadCopy m.payload 0 16)

/-- One round of the loop of `neighbor_options`: the offset and the options so far. -/
def optionStep (payload : List UInt8) : ℕ × List Icmpv6NeighborOption →
    PayloadReads ((ℕ × List Icmpv6NeighborOption) ⊕ List Icmpv6NeighborOption)
  | (offset, options) => do
    if payload.length ≤ offset then return .inr options
    let units ← payloadByte payload (offset + 1)
    let length := units.toNat * 8
    -- the source reads the type only behind `length == 8U`
    let kind ← payloadByte payload offset
    if length = 8 && (kind = 1 || kind = 2) then
      let mac ← payloadCopy payload (offset + 2) 6
      return .inl (offset + length, options ++ [{ type := kind, mac }])
    return .inl (offset + length, options)

/-- `neighbor_options`. -/
def neighborOptions (m : ICMPv6) : PayloadReads (List Icmpv6NeighborOption) := do
  if (← m.neighborTarget).isNone then return []
  if !(← m.validateReads) then return []
  loop .endless (optionStep m.payload) (m.payload.length + 1) (16, [])

/-! ### Messages that the scanner sends -/

/-- `make_neighbor_solicitation`. -/
def makeNeighborSolicitation (target : Bytes16) (sourceMac : Option (Vector UInt8 6)) :
    Option ICMPv6 :=
  if target.toList.all (· = 0) || target.toList.head? = some 0xFF then none
  else
    let message : ICMPv6 :=
      { type := .neighborSolicitation
        payload := target.toList ++
          (sourceMac.map fun mac ↦ [1, 1] ++ mac.toList).getD [] }
    if message.validate then some message else none

/-- `solicited_node_multicast`. -/
def solicitedNodeMulticast (target : Bytes16) : Bytes16 :=
  #v[0xFF, 0x02, 0, 0, 0, 0, 0, 0, 0, 0, 0, 0x01, 0xFF, target[13], target[14], target[15]]

/-- `ethernet_multicast`. -/
def ethernetMulticast (multicast : Bytes16) : Vector UInt8 6 :=
  #v[0x33, 0x33, multicast[12], multicast[13], multicast[14], multicast[15]]

end ICMPv6

/-! ### Options -/

/-- An option: its type, its length in units of eight bytes, and what stands behind them. There is
none of length zero. -/
structure NeighborOption where
  type : UInt8
  units : UInt8
  body : List UInt8
  units_pos : 0 < units.toNat
  length_body : body.length + 2 = units.toNat * 8

namespace NeighborOption

def bytes (o : NeighborOption) : List UInt8 := o.type :: o.units :: o.body

/-- The option holds the link-layer address of its sender or of its target. -/
def IsLinkLayer (o : NeighborOption) : Prop := o.type = 1 ∨ o.type = 2

instance (o : NeighborOption) : Decidable o.IsLinkLayer :=
  inferInstanceAs (Decidable (o.type = 1 ∨ o.type = 2))

/-- A link-layer address of Ethernet has six bytes. -/
def WellSized (o : NeighborOption) : Prop := o.IsLinkLayer → o.body.length = 6

theorem length_bytes (o : NeighborOption) : o.bytes.length = o.units.toNat * 8 := o.length_body

theorem length_le (os : List NeighborOption) : os.length ≤ (os.flatMap bytes).length := by
  induction os with
  | nil => exact Nat.le_refl 0
  | cons o os ih =>
    have hpos := o.units_pos
    rw [List.flatMap_cons, List.length_append, o.length_bytes, List.length_cons]
    omega

/-- An option tells its own length, so what follows does not change where it ends. -/
theorem bytes_append_inj {p : NeighborOption} {s t : List UInt8} (h : o.bytes ++ s = p.bytes ++ t) :
    o = p ∧ s = t := by
  obtain ⟨htype, h⟩ := List.cons.inj h
  obtain ⟨hunits, h⟩ := List.cons.inj h
  have hlength : o.body.length = p.body.length := by
    have ho := o.length_body
    have hp := p.length_body
    rw [hunits] at ho
    omega
  obtain ⟨hbody, hrest⟩ := List.append_inj h hlength
  refine ⟨?_, hrest⟩
  cases o
  cases p
  congr

/-- **A list of options is read in one way only.** -/
theorem flatMap_bytes_injective {os ps : List NeighborOption}
    (h : os.flatMap bytes = ps.flatMap bytes) : os = ps := by
  induction os generalizing ps with
  | nil =>
    cases ps with
    | nil => rfl
    | cons p ps => exact nomatch h
  | cons o os ih =>
    cases ps with
    | nil => exact nomatch h
    | cons p ps =>
      rw [List.flatMap_cons, List.flatMap_cons] at h
      obtain ⟨rfl, hrest⟩ := bytes_append_inj h
      rw [ih hrest]

/-- What `neighbor_options` makes of a link-layer option. -/
def toLinkLayer (o : NeighborOption) : Icmpv6NeighborOption :=
  { type := o.type, mac := readVector 6 o.body 0 }

theorem toList_mac (h : o.body.length = 6) : o.toLinkLayer.mac.toList = o.body := by
  refine List.ext_getElem (by rw [Vector.length_toList, h]) fun i hi hbody ↦ ?_
  have hsix : i < 6 := h ▸ hbody
  have hget : (readVector 6 o.body 0)[i] = o.body[i] := by
    rw [readVector, Vector.getElem_ofFn, Nat.zero_add, List.getD_eq_getElem _ _ hbody]
  rw [Vector.getElem_toList]
  exact hget

end NeighborOption

/-! ### The two walks -/

section Walks

variable {payload rest : List UInt8} {offset : ℕ}

theorem payloadByte_of_drop {b : UInt8} (h : payload.drop offset = b :: rest) :
    payloadByte payload offset = .ok b := by
  have hget : payload[offset]? = some b := by
    rw [← List.head?_drop, h, List.head?_cons]
  unfold payloadByte
  rw [hget]
  rfl

theorem drop_of_drop (front : List UInt8) {back : List UInt8}
    (h : payload.drop offset = front ++ back) :
    payload.drop (offset + front.length) = back := by
  rw [← List.drop_drop, h, List.drop_left]

theorem payloadCopy_of_drop {front : List UInt8} {n : ℕ}
    (h : payload.drop offset = front ++ rest) (hn : front.length = n)
    (hroom : offset + n ≤ payload.length) :
    payloadCopy payload offset n = .ok (readVector n front 0) := by
  refine (if_pos hroom).trans (congrArg Except.ok (Vector.ext fun i hi ↦ ?_))
  rw [readVector, readVector, Vector.getElem_ofFn, Vector.getElem_ofFn, Nat.zero_add, ← getD_drop,
    h, List.getD_append _ _ _ _ (hn ▸ hi)]

namespace ICMPv6

variable {fuel : ℕ}

theorem validStep_nil (h : payload.drop offset = []) :
    validStep payload offset = .ok (.inr true) := by
  rw [validStep, if_pos (List.drop_eq_nil_iff.mp h)]
  rfl

theorem validStep_singleton {kind : UInt8} (h : payload.drop offset = [kind]) :
    validStep payload offset = .ok (.inr false) := by
  have hlength := congrArg List.length h
  rw [List.length_drop, List.length_singleton] at hlength
  rw [validStep, if_neg (by omega), if_pos (by omega)]
  rfl

theorem validStep_cons {kind units : UInt8} {body : List UInt8}
    (h : payload.drop offset = kind :: units :: body) :
    validStep payload offset = .ok
      (if units.toNat * 8 < 8 || body.length + 2 < units.toNat * 8 then .inr false
      else if (kind = 1 || kind = 2) && units.toNat * 8 ≠ 8 then .inr false
      else .inl (offset + units.toNat * 8)) := by
  have hunits : payload.drop (offset + 1) = units :: body := drop_of_drop [kind] h
  have hlength : payload.length - offset = body.length + 2 := by
    rw [← List.length_drop, h, List.length_cons, List.length_cons]
  rw [validStep, if_neg (by omega), if_neg (by omega), payloadByte_of_drop hunits, hlength]
  show (if _ then _ else _) = _
  rw [payloadByte_of_drop h]
  split_ifs with hlength hkind
  · rfl
  · exact if_pos hkind
  · exact if_neg hkind

/-- **The walk of `validate`** stays inside the payload, ends, and finds what `validOptions` says of
the rest. -/
theorem loop_validStep {steps : ℕ} (h : payload.drop offset = rest) (hfuel : rest.length ≤ fuel)
    (hsteps : rest.length < steps) :
    loop .endless (validStep payload) steps offset = .ok (validOptions fuel rest) := by
  induction fuel generalizing offset rest steps with
  | zero =>
    obtain ⟨steps, rfl⟩ := Nat.exists_eq_succ_of_ne_zero (Nat.ne_zero_of_lt hsteps)
    obtain rfl := List.length_eq_zero_iff.mp (Nat.le_zero.mp hfuel)
    rw [loop, validStep_nil h]
    rfl
  | succ fuel ih =>
    obtain ⟨steps, rfl⟩ := Nat.exists_eq_succ_of_ne_zero (Nat.ne_zero_of_lt hsteps)
    rcases rest with _ | ⟨kind, _ | ⟨units, body⟩⟩
    · rw [loop, validStep_nil h]
      rfl
    · rw [loop, validStep_singleton h]
      rfl
    · rw [List.length_cons, List.length_cons] at hfuel hsteps
      rw [loop, validStep_cons h, validOptions]
      by_cases hlength : units.toNat * 8 < 8 || body.length + 2 < units.toNat * 8
      · rw [if_pos hlength]
        simp only [hlength, gt_iff_lt, Bool.not_true, Bool.false_and]
        rfl
      · by_cases hkind : (kind = 1 || kind = 2) && units.toNat * 8 ≠ 8
        · rw [if_neg hlength, if_pos hkind]
          simp only [hkind, Bool.not_true, Bool.and_false, Bool.false_and]
          rfl
        · have hnext : payload.drop (offset + units.toNat * 8) =
              body.drop (units.toNat * 8 - 2) := by
            obtain ⟨n, hn⟩ : ∃ n, units.toNat * 8 = n + 2 := by
              refine Nat.exists_eq_add_of_le' ?_
              simp only [Bool.or_eq_true, decide_eq_true_eq, not_or, Nat.not_lt] at hlength
              omega
            rw [← List.drop_drop, h, hn]
            rfl
          rw [if_neg hlength, if_neg hkind]
          simp only [gt_iff_lt, hlength, hkind, Bool.not_false, Bool.true_and]
          exact ih hnext (by rw [List.length_drop]; omega) (by rw [List.length_drop]; omega)

/-- One more option in front. -/
theorem validOptions_bytes (ho : o.WellSized) (fuel : ℕ) :
    validOptions (fuel + 1) (o.bytes ++ rest) = validOptions fuel rest := by
  have hpos := o.units_pos
  have hbody := o.length_body
  have hroom : (decide (o.units.toNat * 8 < 8) ||
      decide (o.units.toNat * 8 > (o.body ++ rest).length + 2)) = false := by
    rw [Bool.or_eq_false_iff, decide_eq_false_iff_not, decide_eq_false_iff_not,
      List.length_append]
    omega
  have hkind : ((o.type = 1 || o.type = 2) && decide (o.units.toNat * 8 ≠ 8)) = false := by
    rw [Bool.and_eq_false_imp, Bool.or_eq_true, decide_eq_true_eq, decide_eq_true_eq,
      decide_eq_false_iff_not, not_not]
    intro htype
    have hsix := ho htype
    omega
  have hdrop : (o.body ++ rest).drop (o.units.toNat * 8 - 2) = rest :=
    List.drop_left' (by omega)
  rw [NeighborOption.bytes, List.cons_append, List.cons_append, validOptions, hroom, hkind, hdrop]
  rfl

/-- What a list of bytes that is accepted begins with. -/
theorem exists_of_validOptions (h : validOptions (fuel + 1) rest) (hne : rest ≠ []) :
    ∃ (o : NeighborOption) (back : List UInt8), o.WellSized ∧ rest = o.bytes ++ back ∧
      validOptions fuel back := by
  match rest with
  | [] => exact absurd rfl hne
  | [_] => exact nomatch h
  | kind :: units :: body =>
    simp only [validOptions, Bool.and_eq_true, Bool.not_eq_true', Bool.or_eq_false_iff,
      decide_eq_false_iff_not, Nat.not_lt, Bool.and_eq_false_imp, Bool.or_eq_true,
      decide_eq_true_eq, not_not, gt_iff_lt] at h
    obtain ⟨⟨⟨hpos, hroom⟩, hkind⟩, hback⟩ := h
    have hlength : (body.take (units.toNat * 8 - 2)).length + 2 = units.toNat * 8 := by
      rw [List.length_take]
      omega
    refine ⟨⟨kind, units, body.take (units.toNat * 8 - 2), by omega, hlength⟩,
      body.drop (units.toNat * 8 - 2), fun hlink ↦ ?_, ?_, hback⟩
    · have height := hkind hlink
      show (body.take (units.toNat * 8 - 2)).length = 6
      omega
    · show _ = kind :: units :: (body.take _ ++ body.drop _)
      rw [List.take_append_drop]

/-- **The options that `validate` accepts** are those that split into options of a positive length,
with six bytes for every link-layer address. -/
theorem validOptions_iff (hfuel : rest.length ≤ fuel) :
    validOptions fuel rest ↔
      ∃ options : List NeighborOption, (∀ o ∈ options, o.WellSized) ∧
        options.flatMap NeighborOption.bytes = rest := by
  induction fuel generalizing rest with
  | zero =>
    obtain rfl := List.length_eq_zero_iff.mp (Nat.le_zero.mp hfuel)
    exact ⟨fun _ ↦ ⟨[], List.forall_mem_nil _, rfl⟩, fun _ ↦ rfl⟩
  | succ fuel ih =>
    constructor
    · intro h
      by_cases hne : rest = []
      · exact ⟨[], List.forall_mem_nil _, hne.symm⟩
      · obtain ⟨o, back, ho, rfl, hback⟩ := exists_of_validOptions h hne
        have hshorter : back.length ≤ fuel := by
          rw [List.length_append, o.length_bytes] at hfuel
          have hpos := o.units_pos
          omega
        obtain ⟨options, hoptions, hbytes⟩ := (ih hshorter).mp hback
        exact ⟨o :: options, List.forall_mem_cons.mpr ⟨ho, hoptions⟩,
          List.flatMap_cons.trans (congrArg _ hbytes)⟩
    · rintro ⟨options, hoptions, rfl⟩
      cases options with
      | nil => rfl
      | cons o options =>
        obtain ⟨ho, hoptions⟩ := List.forall_mem_cons.mp hoptions
        rw [List.flatMap_cons] at hfuel ⊢
        rw [validOptions_bytes ho]
        refine (ih ?_).mpr ⟨options, hoptions, rfl⟩
        rw [List.length_append, o.length_bytes] at hfuel
        have hpos := o.units_pos
        omega

/-- **One round of `neighbor_options`** over an option that `validate` has seen. -/
theorem optionStep_bytes (ho : o.WellSized) (h : payload.drop offset = o.bytes ++ rest)
    (options : List Icmpv6NeighborOption) :
    optionStep payload (offset, options) = .ok
      (.inl (offset + o.bytes.length,
        options ++ if o.IsLinkLayer then [o.toLinkLayer] else [])) := by
  have hunits : payload.drop (offset + 1) = o.units :: (o.body ++ rest) :=
    drop_of_drop [o.type] h
  have hbody : payload.drop (offset + 2) = o.body ++ rest :=
    drop_of_drop [o.type, o.units] h
  have hlength := congrArg List.length h
  rw [List.length_drop, List.length_append, o.length_bytes] at hlength
  have hpos := o.units_pos
  rw [optionStep, if_neg (by omega), payloadByte_of_drop hunits, o.length_bytes]
  show (payloadByte payload offset >>= _) = _
  rw [payloadByte_of_drop h]
  show (if _ then _ else _) = _
  by_cases hlink : o.IsLinkLayer
  · have hsix := ho hlink
    have hsize := o.length_body
    have hcond : o.units.toNat * 8 = 8 && (o.type = 1 || o.type = 2) := by
      rw [Bool.and_eq_true, Bool.or_eq_true, decide_eq_true_eq, decide_eq_true_eq,
        decide_eq_true_eq]
      exact ⟨by omega, hlink⟩
    rw [if_pos hcond, if_pos hlink, payloadCopy_of_drop hbody hsix (by omega)]
    rfl
  · have hcond : ¬ (o.units.toNat * 8 = 8 && (o.type = 1 || o.type = 2)) := by
      rw [Bool.and_eq_true, Bool.or_eq_true, decide_eq_true_eq, decide_eq_true_eq,
        decide_eq_true_eq]
      exact fun h ↦ hlink h.2
    rw [if_neg hcond, if_neg hlink, List.append_nil]
    rfl

/-- **The walk of `neighbor_options`** over the options that `validate` has seen. -/
theorem loop_optionStep {os : List NeighborOption} (hos : ∀ o ∈ os, o.WellSized) {steps : ℕ}
    (h : payload.drop offset = os.flatMap NeighborOption.bytes) (hsteps : os.length < steps)
    (options : List Icmpv6NeighborOption) :
    loop .endless (optionStep payload) steps (offset, options) = .ok
      (options ++ (os.filter (·.IsLinkLayer)).map NeighborOption.toLinkLayer) := by
  induction os generalizing offset steps options with
  | nil =>
    obtain ⟨steps, rfl⟩ := Nat.exists_eq_succ_of_ne_zero (Nat.ne_zero_of_lt hsteps)
    rw [loop, optionStep, if_pos (List.drop_eq_nil_iff.mp h), List.filter_nil, List.map_nil,
      List.append_nil]
    rfl
  | cons o os ih =>
    obtain ⟨steps, rfl⟩ := Nat.exists_eq_succ_of_ne_zero (Nat.ne_zero_of_lt hsteps)
    obtain ⟨ho, hos⟩ := List.forall_mem_cons.mp hos
    rw [List.flatMap_cons] at h
    rw [loop, optionStep_bytes ho h]
    show loop .endless (optionStep payload) steps _ = _
    rw [ih hos (drop_of_drop o.bytes h) (Nat.lt_of_succ_lt_succ hsteps), List.append_assoc]
    by_cases hlink : o.IsLinkLayer
    · rw [if_pos hlink, List.filter_cons, if_pos (decide_eq_true hlink)]
      rfl
    · rw [if_neg hlink, List.filter_cons, if_neg (by simpa using hlink)]
      rfl

end ICMPv6

end Walks

/-! ### What a message tells -/

namespace ICMPv6

variable {m : ICMPv6}

theorem payloadByte_of_lt {payload : List UInt8} {offset : ℕ} (h : offset < payload.length) :
    payloadByte payload offset = .ok (payload.getD offset 0) := by
  rw [List.getD_eq_getElem _ _ h]
  exact payloadByte_of_drop (List.drop_eq_getElem_cons h)

/-- **`validate` never reads outside the message**, whatever the message. -/
theorem validateReads_eq (m : ICMPv6) : m.validateReads = .ok m.validate := by
  rw [validateReads, validate]
  by_cases hsize : 65535 < m.serializedSize
  · rw [if_pos hsize, decide_eq_false (Nat.not_le.mpr hsize)]
    rfl
  rw [if_neg hsize, decide_eq_true (Nat.not_lt.mp hsize), Bool.true_and]
  cases hcode : m.type.codeless && m.code ≠ 0
  case true => rfl
  cases hneighbor : m.type.neighbor
  case false => rfl
  by_cases hshort : m.payload.length < 16
  · simp only [hshort]
    rfl
  have hfirst := payloadByte_of_lt (Nat.lt_of_lt_of_le (Nat.succ_pos 15) (Nat.not_lt.mp hshort))
  have hloop : loop .endless (validStep m.payload) (m.payload.length + 1) 16 =
      .ok (validOptions m.payload.length (m.payload.drop 16)) :=
    loop_validStep rfl (by rw [List.length_drop]; omega) (by rw [List.length_drop]; omega)
  simp only [hshort, hfirst, hloop]
  show (if m.payload.getD 0 0 = 0xFF then _ else _) = _
  by_cases hbyte : m.payload.getD 0 0 = 0xFF
  · rw [if_pos hbyte, decide_eq_true hbyte]
    rfl
  rw [if_neg hbyte, decide_eq_false hbyte]
  cases hword : m.type = .neighborSolicitation && m.restWord ≠ 0 <;> rfl

theorem options_of_validate (h : m.validate) (hneighbor : m.type.neighbor) :
    16 ≤ m.payload.length ∧ validOptions m.payload.length (m.payload.drop 16) := by
  simp only [validate, hneighbor, Bool.not_true, Bool.false_or, Bool.and_eq_true] at h
  obtain ⟨-, ⟨hfront, -⟩, hoptions⟩ := h
  rw [Bool.not_eq_true', Bool.or_eq_false_iff, decide_eq_false_iff_not, Nat.not_lt] at hfront
  exact ⟨hfront.1, hoptions⟩

theorem valid_of_parse {input : List UInt8} (h : parse input = some m) :
    m.validate ∧ m.payload = input.drop 8 := by
  rw [parse] at h
  split_ifs at h
  obtain ⟨type, -, hmessage⟩ := Option.bind_eq_some_iff.mp h
  dsimp only at hmessage
  split_ifs at hmessage with hvalid
  obtain rfl := Option.some.inj hmessage
  exact ⟨hvalid, rfl⟩

/-- **The options of a neighbor message that is accepted** cover what follows the target, in one way
only. `neighbor_options` ends without reading outside the message, and what it returns are the
link-layer addresses among them, in their order. -/
theorem neighborOptions_of_parse {input : List UInt8} (h : parse input = some m)
    (hneighbor : m.type.neighbor) :
    24 ≤ input.length ∧
      ∃ options : List NeighborOption, options.flatMap NeighborOption.bytes = input.drop 24 ∧
        (∀ others : List NeighborOption,
          others.flatMap NeighborOption.bytes = input.drop 24 → others = options) ∧
        ∃ found, m.neighborOptions = .ok found ∧
          found.map (fun o ↦ (o.type, o.mac.toList)) =
            (options.filter (·.IsLinkLayer)).map fun o ↦ (o.type, o.body) := by
  obtain ⟨hvalid, hpayload⟩ := valid_of_parse h
  obtain ⟨hsize, haccepted⟩ := options_of_validate hvalid hneighbor
  obtain ⟨options, hoptions, hbytes⟩ :=
    (validOptions_iff (by rw [List.length_drop]; omega)).mp haccepted
  have hrest : options.flatMap NeighborOption.bytes = input.drop 24 := by
    rw [hbytes, hpayload, List.drop_drop]
  have hinput : 24 ≤ input.length := by
    rw [hpayload, List.length_drop] at hsize
    omega
  have htarget : m.neighborTarget = .ok (some (readVector 16 m.payload 0)) := by
    have hcopy : payloadCopy m.payload 0 16 = .ok (readVector 16 m.payload 0) :=
      if_pos ((Nat.zero_add 16).symm ▸ hsize)
    rw [neighborTarget, hneighbor, decide_eq_false (Nat.not_lt.mpr hsize), hcopy]
    rfl
  have hsteps : options.length < m.payload.length + 1 := by
    have hlength := NeighborOption.length_le options
    rw [hbytes, List.length_drop] at hlength
    omega
  refine ⟨hinput, options, hrest, fun others hothers ↦
    NeighborOption.flatMap_bytes_injective (hothers.trans hrest.symm),
    (options.filter (·.IsLinkLayer)).map NeighborOption.toLinkLayer, ?_, ?_⟩
  · rw [neighborOptions, htarget, validateReads_eq, hvalid]
    exact loop_optionStep hoptions hbytes.symm hsteps []
  · rw [List.map_map]
    refine List.map_congr_left fun o ho ↦ ?_
    obtain ⟨hmem, hlink⟩ := List.mem_filter.mp ho
    exact congrArg (Prod.mk o.type)
      (NeighborOption.toList_mac (hoptions o hmem (of_decide_eq_true hlink)))

/-- A solicitation with the address of its sender and a nonce. -/
def solicitation : ICMPv6 where
  type := .neighborSolicitation
  payload := [0xFE, 0x80, 0, 0, 0, 0, 0, 0, 0, 0, 0, 0, 0, 0, 0, 9] ++
    [1, 1, 2, 0, 0, 0, 0, 7] ++ [14, 1, 10, 11, 12, 13, 14, 15]

theorem neighborOptions_of_parse_solicitation :
    24 ≤ solicitation.bytes.length ∧
      ∃ options : List NeighborOption,
        options.flatMap NeighborOption.bytes = solicitation.bytes.drop 24 ∧
        (∀ others : List NeighborOption,
          others.flatMap NeighborOption.bytes = solicitation.bytes.drop 24 → others = options) ∧
        ∃ found, solicitation.neighborOptions = .ok found ∧
          found.map (fun o ↦ (o.type, o.mac.toList)) =
            (options.filter (·.IsLinkLayer)).map fun o ↦ (o.type, o.body) :=
  neighborOptions_of_parse (parse_bytes (by decide)) rfl

example : solicitation.neighborOptions = .ok [{ type := 1, mac := #v[2, 0, 0, 0, 0, 7] }] := by
  decide

end ICMPv6

end Skan.Packet

import Skan.Library.KeyedStore
import Skan.Net.PacketReceiver

/-!
# Packet filters and the correlation table

`src/net/packet_filter.cpp`. The table maps the key of a probe to the token of its owner, with an
index of the entries by deadline and a count of what happened.

A deadline is a clock reading or `time_point::max()`, which no clock reading reaches.
-/

namespace Skan.Net

open Skan.Core Skan.Packet

inductive PacketProtocol where
  | any
  | ipv4
  | ipv6
  | tcp
  | udp
  | icmp
  | icmpv6
  deriving DecidableEq

structure PacketFilter where
  protocol : Option PacketProtocol := none
  sourcePort : Option UInt16 := none
  destinationPort : Option UInt16 := none
  deriving DecidableEq

namespace PacketFilter

/-- Whether ports pass the filter. -/
def portsPass (filter : PacketFilter) (sourcePort destinationPort : UInt16) : Bool :=
  filter.sourcePort.all (sourcePort = ·) && filter.destinationPort.all (destinationPort = ·)

/-- `matches`. -/
def accepts (filter : PacketFilter) (packet : PacketObservation) : Bool :=
  packet.valid &&
    (match filter.protocol.getD .any with
      | .any => true
      | .ipv4 => packet.ipv4.isSome
      | .ipv6 => packet.ipv6.isSome
      | .tcp => packet.tcp.isSome
      | .udp => packet.udp.isSome
      | .icmp => packet.icmp.isSome
      | .icmpv6 => packet.icmpv6.isSome) &&
    (filter.sourcePort.isNone && filter.destinationPort.isNone ||
      match packet.tcp, packet.udp with
      | some tcp, _ => filter.portsPass tcp.sourcePort tcp.destinationPort
      | none, some udp => filter.portsPass udp.sourcePort udp.destinationPort
      | none, none => false)

end PacketFilter

/-! ### The correlation table -/

structure CorrelationKey where
  targetIpv4 : UInt32 := 0
  sourcePort : UInt16 := 0
  destinationPort : UInt16 := 0
  sequence : UInt32 := 0
  targetIp : IpAddress := {}
  deriving DecidableEq

/-- A deadline; `none` is `time_point::max()`. -/
abbrev Deadline := Option TimePoint

namespace Deadline

/-- `d <= now`. -/
def reached (d : Deadline) (now : TimePoint) : Bool := d.any (· ≤ now)

/-- `d <= d'`. -/
def notAfter (d d' : Deadline) : Bool := d'.all d.reached

end Deadline

structure CorrelationEntry where
  key : CorrelationKey
  token : UInt64 := 0
  expiresAt : Deadline := some 0
  deriving DecidableEq

inductive CorrelationStatus where
  | inserted
  | duplicate
  | found
  | removed
  | notFound
  | late
  deriving DecidableEq

structure CorrelationMetrics where
  inserts : ℕ := 0
  duplicates : ℕ := 0
  lookups : ℕ := 0
  found : ℕ := 0
  misses : ℕ := 0
  late : ℕ := 0
  removals : ℕ := 0
  cleanupRemovals : ℕ := 0
  deriving DecidableEq

/-- `CorrelationTable`; the expiry index is in the order of the deadlines. -/
structure CorrelationTable where
  entries : KeyedStore CorrelationKey CorrelationEntry := ∅
  expiryIndex : List (Deadline × CorrelationKey) := []
  metrics : CorrelationMetrics := {}

namespace CorrelationTable

/-- `multimap::emplace`: after what is due no later. -/
def emplaceExpiry (expiresAt : Deadline) (key : CorrelationKey)
    (index : List (Deadline × CorrelationKey)) : List (Deadline × CorrelationKey) :=
  index.takeWhile (Deadline.notAfter ·.1 expiresAt) ++
    (expiresAt, key) :: index.dropWhile (Deadline.notAfter ·.1 expiresAt)

/-- `insert`. -/
def insert (key : CorrelationKey) (token : UInt64) (expiresAt : Deadline) (t : CorrelationTable) :
    CorrelationStatus × CorrelationTable :=
  match t.entries.emplace key { key, token, expiresAt } with
  | none =>
    (.duplicate,
      { t with metrics := { t.metrics with duplicates := t.metrics.duplicates + 1 } })
  | some entries =>
    (.inserted,
      { entries
        expiryIndex := emplaceExpiry expiresAt key t.expiryIndex
        metrics := { t.metrics with inserts := t.metrics.inserts + 1 } })

/-- `lookup`: the status, and the entry when it is found; an entry past its deadline is evicted. -/
def lookup (key : CorrelationKey) (now : TimePoint) (t : CorrelationTable) :
    (CorrelationStatus × Option CorrelationEntry) × CorrelationTable :=
  let metrics := { t.metrics with lookups := t.metrics.lookups + 1 }
  match t.entries.lookup key with
  | none => ((.notFound, none), { t with metrics := { metrics with misses := metrics.misses + 1 } })
  | some entry =>
    if Deadline.reached entry.expiresAt now then
      ((.late, none),
        { entries := t.entries.erase key
          expiryIndex := t.expiryIndex.erase (entry.expiresAt, entry.key)
          metrics := { metrics with late := metrics.late + 1 } })
    else
      ((.found, some entry), { t with metrics := { metrics with found := metrics.found + 1 } })

/-- `remove`. -/
def remove (key : CorrelationKey) (t : CorrelationTable) : CorrelationStatus × CorrelationTable :=
  match t.entries.lookup key with
  | none => (.notFound, t)
  | some entry =>
    (.removed,
      { entries := t.entries.erase key
        expiryIndex := t.expiryIndex.erase (entry.expiresAt, entry.key)
        metrics := { t.metrics with removals := t.metrics.removals + 1 } })

/-- The loop of `remove_expired`: what is left of the index and of the entries, and how many entries
were removed. -/
def removeExpiredLoop (now : TimePoint) : List (Deadline × CorrelationKey) →
    KeyedStore CorrelationKey CorrelationEntry → ℕ →
      List (Deadline × CorrelationKey) × KeyedStore CorrelationKey CorrelationEntry × ℕ
  | [], entries, removed => ([], entries, removed)
  | (expiresAt, key) :: index, entries, removed =>
    if Deadline.reached expiresAt now then
      match entries.lookup key with
      | some entry =>
        if Deadline.reached entry.expiresAt now then
          removeExpiredLoop now index (entries.erase key) (removed + 1)
        else removeExpiredLoop now index entries removed
      | none => removeExpiredLoop now index entries removed
    else ((expiresAt, key) :: index, entries, removed)

/-- `remove_expired`. -/
def removeExpired (now : TimePoint) (t : CorrelationTable) : ℕ × CorrelationTable :=
  let (expiryIndex, entries, removed) := removeExpiredLoop now t.expiryIndex t.entries 0
  (removed,
    { entries
      expiryIndex
      metrics := { t.metrics with cleanupRemovals := t.metrics.cleanupRemovals + removed } })

/-! ### What the operations do to the entries -/

variable {t : CorrelationTable} {key : CorrelationKey}

theorem insert_eq_inserted {token : UInt64} {expiresAt : Deadline} :
    (t.insert key token expiresAt).1 = .inserted ↔ key ∉ t.entries := by
  rw [insert, AList.emplace]
  split_ifs with hmem <;> simp [hmem]

theorem entries_insert {token : UInt64} {expiresAt : Deadline} (h : key ∉ t.entries) :
    (t.insert key token expiresAt).2.entries = t.entries.insert key { key, token, expiresAt } := by
  rw [insert, AList.emplace, if_neg h]

theorem entries_remove : (t.remove key).2.entries = t.entries.erase key := by
  rw [remove]
  split
  · rename_i hlookup
    exact (AList.erase_of_notMem (AList.lookup_eq_none.mp hlookup)).symm
  · rfl

/-- An entry without a deadline is found, and stays. -/
theorem lookup_of_top {entry : CorrelationEntry} (hlookup : t.entries.lookup key = some entry)
    (htop : entry.expiresAt = none) (now : TimePoint) :
    (t.lookup key now).1 = (.found, some entry) ∧ (t.lookup key now).2.entries = t.entries := by
  rw [lookup, hlookup]
  dsimp only
  rw [htop, Deadline.reached, Option.any_none, if_neg Bool.false_ne_true]
  exact ⟨rfl, rfl⟩

theorem lookup_of_none (hlookup : t.entries.lookup key = none) (now : TimePoint) :
    (t.lookup key now).1 = (.notFound, none) ∧ (t.lookup key now).2.entries = t.entries := by
  rw [lookup, hlookup]
  exact ⟨rfl, rfl⟩

end CorrelationTable

end Skan.Net

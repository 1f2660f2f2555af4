import Skan.Library.Runs
import Skan.Net.PacketFilter

/-!
# The correlation table and its expiry index

The table keeps its entries twice: by key, and by deadline in a multimap which `remove_expired` goes
through from the front. The two are the same entries (`Indexed`), so what the loop finds first is
what is due, and what it leaves is all that is not (`removeExpiredLoop_spec`). This and the balance
of the counters (`Balanced`) are what each call keeps; the rest are statements about runs
(`correlationTable_run`). -/

namespace Skan.Net

open Skan.Core Skan.Packet Runs

namespace Deadline

variable {d d' d'' : Deadline} {now : TimePoint}

theorem notAfter_total (d d' : Deadline) : d.notAfter d' = true ∨ d'.notAfter d = true := by
  cases d with
  | none => exact .inr rfl
  | some a =>
    cases d' with
    | none => exact .inl rfl
    | some b => simpa [notAfter, reached] using le_total a b

theorem notAfter_trans (h : d.notAfter d' = true) (h' : d'.notAfter d'' = true) :
    d.notAfter d'' = true := by
  cases d'' with
  | none => rfl
  | some c =>
    obtain ⟨b, rfl, hb⟩ : ∃ b, d' = some b ∧ b ≤ c := by
      simpa [notAfter, reached, Option.any_eq_true] using h'
    obtain ⟨a, rfl, ha⟩ : ∃ a, d = some a ∧ a ≤ b := by
      simpa [notAfter, reached, Option.any_eq_true] using h
    simpa [notAfter, reached] using ha.trans hb

/-- What is due later is not reached before. -/
theorem not_reached_of_notAfter (h : d.notAfter d' = true) (hd : d.reached now = false) :
    d'.reached now = false := by
  by_contra hreached
  rw [Bool.not_eq_false] at hreached
  have htrans : d.notAfter (some now) = true :=
    notAfter_trans h (by simpa [notAfter] using hreached)
  rw [notAfter, Option.all_some, hd] at htrans
  exact Bool.false_ne_true htrans

end Deadline

namespace CorrelationTable

variable {key : CorrelationKey} {index : List (Deadline × CorrelationKey)}
  {entries : KeyedStore CorrelationKey CorrelationEntry} {entry : CorrelationEntry}

/-! ### The index -/

/-- The place of an entry in the index. -/
def indexed (entry : CorrelationEntry) : Deadline × CorrelationKey := (entry.expiresAt, entry.key)

/-- The index lists the entries, each once, with the deadline it has, the earliest first. -/
structure Indexed (index : List (Deadline × CorrelationKey))
    (entries : KeyedStore CorrelationKey CorrelationEntry) : Prop where
  key_eq : ∀ key entry, entries.lookup key = some entry → entry.key = key
  perm : index.Perm (entries.values.map indexed)
  sorted : index.Pairwise fun a b ↦ a.1.notAfter b.1 = true

theorem indexed_empty : Indexed [] ∅ where
  key_eq _ _ h := by simp at h
  perm := .nil
  sorted := .nil

theorem emplaceExpiry_perm (expiresAt : Deadline) (key : CorrelationKey) :
    (emplaceExpiry expiresAt key index).Perm ((expiresAt, key) :: index) := by
  have hsplit := List.takeWhile_append_dropWhile (p := fun e : Deadline × CorrelationKey ↦
    e.1.notAfter expiresAt) (l := index)
  conv_rhs => rw [← hsplit]
  exact List.perm_middle

theorem emplaceExpiry_cons (expiresAt : Deadline) (key : CorrelationKey)
    (e : Deadline × CorrelationKey) :
    emplaceExpiry expiresAt key (e :: index) =
      if e.1.notAfter expiresAt then e :: emplaceExpiry expiresAt key index
      else (expiresAt, key) :: e :: index := by
  rw [emplaceExpiry, emplaceExpiry, List.takeWhile_cons, List.dropWhile_cons]
  split <;> rfl

/-- `multimap::emplace` keeps the order. -/
theorem sorted_emplaceExpiry (h : index.Pairwise fun a b ↦ a.1.notAfter b.1 = true)
    (expiresAt : Deadline) (key : CorrelationKey) :
    (emplaceExpiry expiresAt key index).Pairwise fun a b ↦ a.1.notAfter b.1 = true := by
  induction index with
  | nil => exact List.pairwise_singleton _ _
  | cons e index ih =>
    have hrest := (List.pairwise_cons.mp h).1
    rw [emplaceExpiry_cons]
    split_ifs with hbefore
    · refine List.pairwise_cons.mpr ⟨fun b hb ↦ ?_, ih h.of_cons⟩
      rcases List.mem_cons.mp ((emplaceExpiry_perm expiresAt key).mem_iff.mp hb) with rfl | hb
      · exact hbefore
      · exact hrest b hb
    · have hafter := (Deadline.notAfter_total e.1 expiresAt).resolve_left hbefore
      refine List.pairwise_cons.mpr ⟨fun b hb ↦ ?_, h⟩
      rcases List.mem_cons.mp hb with rfl | hb
      · exact hafter
      · exact Deadline.notAfter_trans hafter (hrest b hb)

section

variable (h : Indexed index entries)

include h

/-- A new entry, put where it belongs. -/
theorem Indexed.insert (hkey : key ∉ entries) (token : UInt64) (expiresAt : Deadline) :
    Indexed (emplaceExpiry expiresAt key index)
      (entries.insert key { key, token, expiresAt }) where
  key_eq key' entry hlookup := by
    rw [AList.lookup_insert_eq_ite] at hlookup
    split_ifs at hlookup with hsame
    · rw [← Option.some.inj hlookup, hsame]
    · exact h.key_eq key' entry hlookup
  perm := by
    rw [AList.values_insert _ hkey]
    exact (emplaceExpiry_perm expiresAt key).trans (h.perm.cons _)
  sorted := sorted_emplaceExpiry h.sorted expiresAt key

/-- `erase_expiry` finds the entry that is erased, whatever else is due when it is. -/
theorem Indexed.erase (hlookup : entries.lookup key = some entry) :
    Indexed (index.erase (entry.expiresAt, entry.key)) (entries.erase key) where
  key_eq key' entry' hlookup' := by
    rw [AList.lookup_erase_eq_ite] at hlookup'
    split_ifs at hlookup' with hsame
    exact h.key_eq key' entry' hlookup'
  perm := by
    have hperm := h.perm.trans ((AList.values_of_lookup hlookup).map indexed)
    have herase := hperm.erase (indexed entry)
    rwa [List.map_cons, List.erase_cons_head] at herase
  sorted := h.sorted.sublist List.erase_sublist

/-- What the index lists is an entry. -/
theorem Indexed.lookup_of_mem {expiresAt : Deadline} (hmem : (expiresAt, key) ∈ index) :
    ∃ entry, entries.lookup key = some entry ∧ entry.expiresAt = expiresAt := by
  obtain ⟨entry, hvalue, heq⟩ := List.mem_map.mp (h.perm.mem_iff.mp hmem)
  obtain ⟨rfl, rfl⟩ := Prod.mk.inj heq
  obtain ⟨⟨key', entry⟩, hentry, rfl⟩ := List.mem_map.mp hvalue
  have hlookup : entries.lookup key' = some entry := AList.mem_lookup_iff.mpr hentry
  exact ⟨entry, by rw [h.key_eq key' entry hlookup]; exact hlookup, rfl⟩

/-- The loop of `remove_expired` removes exactly the entries that are due. -/
theorem removeExpiredLoop_spec (now : TimePoint) (removed : ℕ) :
    ∃ index' entries' removed',
      removeExpiredLoop now index entries removed = (index', entries', removed') ∧
        Indexed index' entries' ∧ removed' + entries'.size = removed + entries.size ∧
          ∀ key, entries'.lookup key =
            (entries.lookup key).filter fun entry ↦ !entry.expiresAt.reached now := by
  induction index generalizing entries removed with
  | nil =>
    have hsize : entries.size = 0 := by
      rw [← AList.length_values]
      simpa using h.perm.length_eq.symm
    refine ⟨[], entries, removed, rfl, h, rfl, fun key ↦ ?_⟩
    rw [AList.eq_empty_of_size_eq_zero hsize]
    rfl
  | cons e index ih =>
    obtain ⟨expiresAt, key⟩ := e
    obtain ⟨entry, hlookup, hexpires⟩ := h.lookup_of_mem List.mem_cons_self
    rw [removeExpiredLoop]
    split
    · next hreached =>
      rw [hlookup]
      dsimp only
      rw [hexpires, if_pos hreached]
      have hrest := h.erase hlookup
      rw [h.key_eq key entry hlookup, hexpires, List.erase_cons_head] at hrest
      obtain ⟨index', entries', removed', heq, hindexed, hsize, hleft⟩ := ih hrest (removed + 1)
      refine ⟨index', entries', removed', heq, hindexed, ?_, fun key' ↦ ?_⟩
      · rw [hsize, AList.size_of_lookup hlookup]
        omega
      · rw [hleft, AList.lookup_erase_eq_ite]
        split_ifs with hsame
        · rw [hsame, hlookup, Option.filter_none,
            Option.filter_some_neg (by simp [hexpires, hreached])]
        · rfl
    · next hreached =>
      rw [Bool.not_eq_true] at hreached
      refine ⟨_, entries, removed, rfl, h, rfl, fun key' ↦ ?_⟩
      -- the first deadline is not reached, so no later one is
      cases hlookup' : entries.lookup key' with
      | none => rfl
      | some entry' =>
        have hmem : indexed entry' ∈ (expiresAt, key) :: index :=
          h.perm.mem_iff.mpr (List.mem_map_of_mem (AList.mem_values_of_lookup hlookup'))
        have hlater : entry'.expiresAt.reached now = false := by
          rcases List.mem_cons.mp hmem with heq | hmem
          · rw [← (Prod.mk.inj heq).1] at hreached
            exact hreached
          · exact Deadline.not_reached_of_notAfter (List.rel_of_pairwise_cons h.sorted hmem)
              hreached
        rw [Option.filter_some_pos (by simp [hlater])]

end

/-! ### Runs -/

/-- A call of the table, with the clock reading it is given. -/
inductive Call where
  | insert (key : CorrelationKey) (token : UInt64) (expiresAt : Deadline)
  | lookup (key : CorrelationKey) (now : TimePoint)
  | remove (key : CorrelationKey)
  | removeExpired (now : TimePoint)

def apply (t : CorrelationTable) : Call → CorrelationTable
  | .insert key token expiresAt => (t.insert key token expiresAt).2
  | .lookup key now => (t.lookup key now).2
  | .remove key => (t.remove key).2
  | .removeExpired now => (t.removeExpired now).2

/-- What every table satisfies: both indices agree, and every entry that was inserted is still there
or was counted when it went. -/
structure Balanced (t : CorrelationTable) : Prop where
  indexed : Indexed t.expiryIndex t.entries
  inserts : t.metrics.inserts =
    t.entries.size + t.metrics.removals + t.metrics.late + t.metrics.cleanupRemovals

theorem balanced_empty : Balanced {} := ⟨indexed_empty, rfl⟩

variable {t : CorrelationTable}

section

variable (h : t.Balanced)

include h

theorem Balanced.insert (key : CorrelationKey) (token : UInt64) (expiresAt : Deadline) :
    (t.insert key token expiresAt).2.Balanced := by
  rw [CorrelationTable.insert, AList.emplace]
  split_ifs with hkey
  · exact ⟨h.indexed, h.inserts⟩
  · refine ⟨h.indexed.insert hkey token expiresAt, ?_⟩
    have hinserts := h.inserts
    dsimp only
    rw [AList.size_insert _ hkey]
    omega

theorem Balanced.lookup (key : CorrelationKey) (now : TimePoint) :
    (t.lookup key now).2.Balanced := by
  have hinserts := h.inserts
  rw [CorrelationTable.lookup]
  cases hlookup : t.entries.lookup key with
  | none => exact ⟨h.indexed, hinserts⟩
  | some entry =>
    dsimp only
    split_ifs
    · refine ⟨h.indexed.erase hlookup, ?_⟩
      rw [AList.size_of_lookup hlookup] at hinserts
      dsimp only
      omega
    · exact ⟨h.indexed, hinserts⟩

theorem Balanced.remove (key : CorrelationKey) : (t.remove key).2.Balanced := by
  have hinserts := h.inserts
  rw [CorrelationTable.remove]
  cases hlookup : t.entries.lookup key with
  | none => exact ⟨h.indexed, hinserts⟩
  | some entry =>
    refine ⟨h.indexed.erase hlookup, ?_⟩
    rw [AList.size_of_lookup hlookup] at hinserts
    dsimp only
    omega

theorem Balanced.removeExpired (now : TimePoint) :
    (t.removeExpired now).2.Balanced ∧
      ∀ key, (t.removeExpired now).2.entries.lookup key =
        (t.entries.lookup key).filter fun entry ↦ !entry.expiresAt.reached now := by
  obtain ⟨index, entries, removed, hloop, hindexed, hsize, hleft⟩ :=
    removeExpiredLoop_spec h.indexed now 0
  have hinserts := h.inserts
  rw [CorrelationTable.removeExpired, hloop]
  refine ⟨⟨hindexed, ?_⟩, hleft⟩
  dsimp only
  omega

/-- **One call** keeps the table balanced. -/
theorem Balanced.apply (call : Call) : (t.apply call).Balanced := by
  cases call with
  | insert key token expiresAt => exact h.insert key token expiresAt
  | lookup key now => exact h.lookup key now
  | remove key => exact h.remove key
  | removeExpired now => exact (h.removeExpired now).1

end

/-- A call that leaves an entry with this key and deadline alone: it does not remove the key, and
what it does at a time it does before the deadline. -/
def Call.Spares (key : CorrelationKey) (expiresAt : Deadline) : Call → Prop
  | .insert .. => True
  | .lookup key' now => key' = key → expiresAt.reached now = false
  | .remove key' => key' ≠ key
  | .removeExpired now => expiresAt.reached now = false

theorem lookup_apply (h : t.Balanced) (hlookup : t.entries.lookup key = some entry) {call : Call}
    (hspares : call.Spares key entry.expiresAt) :
    (t.apply call).entries.lookup key = some entry := by
  cases call with
  | insert key' token expiresAt =>
    rw [apply, CorrelationTable.insert, AList.emplace]
    split_ifs with hkey
    · exact hlookup
    · have hne : key ≠ key' := by
        rintro rfl
        exact hkey (AList.mem_of_lookup hlookup)
      show (t.entries.insert key' _).lookup key = _
      rw [AList.lookup_insert_eq_ite, if_neg hne, hlookup]
  | lookup key' now =>
    rw [apply, CorrelationTable.lookup]
    cases hlookup' : t.entries.lookup key' with
    | none => exact hlookup
    | some entry' =>
      dsimp only
      split_ifs with hreached
      · have hne : key ≠ key' := by
          rintro rfl
          obtain rfl := Option.some.inj (hlookup.symm.trans hlookup')
          rw [hspares rfl] at hreached
          exact Bool.false_ne_true hreached
        show (t.entries.erase key').lookup key = _
        rw [AList.lookup_erase_eq_ite, if_neg hne, hlookup]
      · exact hlookup
  | remove key' =>
    rw [apply, entries_remove, AList.lookup_erase_eq_ite, if_neg (Ne.symm hspares), hlookup]
  | removeExpired now =>
    rw [apply, (h.removeExpired now).2, hlookup]
    exact Option.filter_some_pos (by rw [hspares]; rfl)

theorem lookup_run (h : t.Balanced) (hlookup : t.entries.lookup key = some entry)
    {calls : List Call} (hspares : ∀ call ∈ calls, call.Spares key entry.expiresAt) :
    (run apply t calls).entries.lookup key = some entry := by
  induction calls generalizing t with
  | nil => exact hlookup
  | cons call calls ih =>
    obtain ⟨hcall, hcalls⟩ := List.forall_mem_cons.mp hspares
    exact ih (h.apply call) (lookup_apply h hlookup hcall) hcalls

theorem lookup_inserted {token : UInt64} {expiresAt : Deadline}
    (h : (t.insert key token expiresAt).1 = .inserted) :
    (t.insert key token expiresAt).2.entries.lookup key = some { key, token, expiresAt } := by
  rw [entries_insert (insert_eq_inserted.mp h), AList.lookup_insert_eq_ite, if_pos rfl]

theorem lookup_of_not_reached (hlookup : t.entries.lookup key = some entry) {now : TimePoint}
    (hnow : entry.expiresAt.reached now = false) : (t.lookup key now).1 = (.found, some entry) := by
  rw [lookup, hlookup]
  dsimp only
  rw [hnow, if_neg Bool.false_ne_true]

/-- **The table, after any calls.** The index lists the entries; every successful insert is still
there or was counted when it went; `remove_expired` leaves what is not due; and an entry that was
inserted is found, with its token, until it is removed or due. -/
theorem correlationTable_run (calls : List Call) :
    let t := run apply {} calls
    Indexed t.expiryIndex t.entries ∧
      t.metrics.inserts =
        t.entries.size + t.metrics.removals + t.metrics.late + t.metrics.cleanupRemovals ∧
      (∀ now key, (t.removeExpired now).2.entries.lookup key =
        (t.entries.lookup key).filter fun entry ↦ !entry.expiresAt.reached now) ∧
      ∀ key token expiresAt, (t.insert key token expiresAt).1 = .inserted →
        ∀ later : List Call, (∀ call ∈ later, call.Spares key expiresAt) →
          ∀ now, expiresAt.reached now = false →
            ((run apply (t.insert key token expiresAt).2 later).lookup key now).1 =
              (.found, some { key, token, expiresAt }) := by
  intro t
  have hbalanced : t.Balanced := run_invariant (fun _ call h ↦ h.apply call) balanced_empty calls
  refine ⟨hbalanced.indexed, hbalanced.inserts, fun now ↦ (hbalanced.removeExpired now).2, ?_⟩
  intro key token expiresAt hinserted later hspares now hnow
  exact lookup_of_not_reached
    (lookup_run (hbalanced.insert key token expiresAt) (lookup_inserted hinserted) hspares) hnow

end CorrelationTable

end Skan.Net

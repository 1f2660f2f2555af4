import Skan.Library.KeyedStore

/-!
# The timers of the reactor

`schedule`, `cancel` and the dispatch of expired timers of `src/io/io_engine.cpp`. Time is left out:
a timer may fire at any moment while it is armed, and what matters is which timers are.
-/

namespace Skan.Io

abbrev TimerId := UInt64

/-- The armed timers of an `IOEngine`, each with what its callback is called for. Identifiers are
handed out once, until they run out: those of armed timers are below the next one. -/
structure IOEngine (α : Type*) where
  timers : KeyedStore TimerId α := ∅
  nextTimerId : TimerId := 1
  lt_next : nextTimerId ≠ 0 → ∀ id ∈ timers, id < nextTimerId :=
    by exact fun _ id hid ↦ absurd hid (AList.notMem_empty id)

namespace IOEngine

variable {α : Type*}

theorem lt_add_one_of_ne {id : TimerId} (h : id + 1 ≠ 0) : id < id + 1 := by
  have hsucc : id.toNat + 1 < UInt64.size := by
    by_contra hge
    have hmax : id.toNat + 1 = UInt64.size := le_antisymm id.toNat_lt (not_lt.mp hge)
    refine h (UInt64.toNat_inj.mp ?_)
    rw [UInt64.toNat_add]
    show (id.toNat + 1) % UInt64.size = 0
    rw [hmax, Nat.mod_self]
  rw [UInt64.lt_iff_toNat_lt, UInt64.toNat_add]
  show _ < (id.toNat + 1) % UInt64.size
  rw [Nat.mod_eq_of_lt hsucc]
  exact Nat.lt_succ_self _

/-- `schedule`; zero when the reactor is closed or out of memory (`accepts` is false), and when the
identifiers have run out. -/
def schedule (accepts : Bool) (callback : α) (e : IOEngine α) : TimerId × IOEngine α :=
  if h : !accepts ∨ e.nextTimerId = 0 then (0, e)
  else
    (e.nextTimerId,
      { timers := e.timers.insert e.nextTimerId callback
        nextTimerId := e.nextTimerId + 1
        lt_next := by
          intro hnext id hid
          have hlt := lt_add_one_of_ne hnext
          rcases (AList.mem_insert _).mp hid with rfl | hold
          · exact hlt
          · exact UInt64.lt_trans (e.lt_next (not_or.mp h).2 id hold) hlt })

/-- `cancel`. -/
def cancel (id : TimerId) (e : IOEngine α) : IOEngine α where
  timers := e.timers.erase id
  nextTimerId := e.nextTimerId
  lt_next hne _ hmem := e.lt_next hne _ (AList.mem_erase.mp hmem).2

/-- A timer that has expired: it is disarmed, and its callback is due. -/
def expire (id : TimerId) (e : IOEngine α) : Option (α × IOEngine α) :=
  (e.timers.lookup id).map fun callback ↦ (callback, e.cancel id)

/-- A timer is refused, or armed under an identifier that no armed timer has. -/
theorem schedule_cases (e : IOEngine α) (accepts : Bool) (callback : α) :
    e.schedule accepts callback = (0, e) ∨
      ∃ id e', e.schedule accepts callback = (id, e') ∧ id ≠ 0 ∧ id ∉ e.timers ∧
        e'.timers = e.timers.insert id callback := by
  rw [schedule]
  split_ifs with hrefused
  · exact .inl rfl
  obtain ⟨-, hne⟩ := not_or.mp hrefused
  refine .inr ⟨_, _, rfl, hne, fun hmem ↦ ?_, rfl⟩
  exact absurd (e.lt_next hne _ hmem) (UInt64.lt_irrefl _)

/-- Cancelling a timer that has just been armed leaves the others. -/
theorem timers_cancel_of_insert {e e' : IOEngine α} {id : TimerId} {callback : α}
    (h : id ∉ e.timers)
    (he' : e'.timers = e.timers.insert id callback) : (e'.cancel id).timers = e.timers := by
  show e'.timers.erase id = e.timers
  rw [he']
  exact AList.erase_insert callback h

end IOEngine

end Skan.Io

import Skan.PortScan.UdpActions

/-!
# The source ports of UDP probes

`source_ports_` is exact: in every state a run reaches, the entry of a port is set if and only if
one probe in flight uses it, and then only one does. So `allocate_source_port`, which looks at every
port once around (`allocateSourcePort_eq_none_iff`), fails only when all 20001 ports are in use.

The invariant speaks of the probes in flight and of the entries and of nothing else
(`Board.PortsExact`), and only two actions touch either: a probe that starts brings a free port with
it, and a probe that ends takes its own port along.
-/

namespace Skan.PortScan

open Skan.Core Skan.ScanEngine

namespace UDPScheduler

/-- The entries are those of the probes in flight, and no two of these share a port. -/
structure Board.PortsExact (b : Board) : Prop where
  span : ∀ id p, b.pending.lookup id = some p → InSpan p.submission.sourcePort
  exact : ∀ port, InSpan port → (b.sourcePorts (portIndex port) = true ↔
    ∃ id p, b.pending.lookup id = some p ∧ p.submission.sourcePort = port)
  distinct : ∀ id id' p p', b.pending.lookup id = some p → b.pending.lookup id' = some p' →
    p.submission.sourcePort = p'.submission.sourcePort → id = id'

/-- No source port was free whenever none was found. -/
def Board.AllHeld (b : Board) : Prop :=
  ∀ held ∈ b.exhaustions, ∀ port, InSpan port → port ∈ held

namespace Board

variable {ctx : Context} {b b' : Board} {id : UDPProbeId} {pending : Pending}

theorem mem_held_of_lookup {p : Pending} (h : b.pending.lookup id = some p) :
    p.submission.sourcePort ∈ b.held :=
  List.mem_map_of_mem (f := fun p : Pending ↦ p.submission.sourcePort)
    (AList.mem_values_of_lookup h)

section

variable (hb : b.PortsExact)

include hb

/-- When every entry is set, every port is in use. -/
theorem PortsExact.mem_held (hall : ∀ i, b.sourcePorts i = true) {port : UInt16}
    (hport : InSpan port) : port ∈ b.held := by
  obtain ⟨id, p, hlookup, rfl⟩ := (hb.exact port hport).mp (hall _)
  exact mem_held_of_lookup hlookup

theorem portsExact_of_same (hpending : b'.pending = b.pending)
    (hports : b'.sourcePorts = b.sourcePorts) : b'.PortsExact := by
  obtain ⟨hspan, hexact, hdistinct⟩ := hb
  refine ⟨?_, ?_, ?_⟩
  · rwa [hpending]
  · rwa [hpending, hports]
  · rwa [hpending]

/-- A probe starts from a free port. -/
theorem portsExact_start (hfresh : id ∉ b.pending) (hspan : InSpan pending.submission.sourcePort)
    (hfree : b.sourcePorts (portIndex pending.submission.sourcePort) = false)
    (hpending : b'.pending = b.pending.insert id pending)
    (hports : b'.sourcePorts = taken pending.submission.sourcePort b.sourcePorts) :
    b'.PortsExact := by
  have hlookup : ∀ other p, b'.pending.lookup other = some p →
      other = id ∧ p = pending ∨ other ≠ id ∧ b.pending.lookup other = some p := by
    intro other p h
    rw [hpending, AList.lookup_insert_eq_ite] at h
    split_ifs at h with hother
    · exact .inl ⟨hother, (Option.some.inj h).symm⟩
    · exact .inr ⟨hother, h⟩
  -- nobody uses a free port
  have hunused : ∀ other p, b.pending.lookup other = some p →
      p.submission.sourcePort ≠ pending.submission.sourcePort := by
    intro other p hp heq
    have hset := (hb.exact _ hspan).mpr ⟨other, p, hp, heq⟩
    rw [hfree] at hset
    exact absurd hset Bool.false_ne_true
  refine ⟨fun other p h ↦ ?_, fun port hport ↦ ?_, fun other other' p p' h h' heq ↦ ?_⟩
  · obtain ⟨-, rfl⟩ | ⟨-, hp⟩ := hlookup other p h
    · exact hspan
    · exact hb.span other p hp
  · rw [hports]
    by_cases hsame : port = pending.submission.sourcePort
    · rw [hsame, taken, Function.update_self]
      exact iff_of_true rfl ⟨id, pending, hpending ▸ AList.lookup_insert _, rfl⟩
    · have hindex : portIndex port ≠ portIndex pending.submission.sourcePort := fun heq ↦
        hsame (portIndex_injective hport hspan heq)
      rw [taken, Function.update_of_ne hindex, hb.exact port hport]
      constructor
      · rintro ⟨other, p, hp, rfl⟩
        have hother : other ≠ id := by
          rintro rfl
          exact hfresh (AList.mem_of_lookup hp)
        exact ⟨other, p, hpending ▸ (AList.lookup_insert_ne hother).trans hp, rfl⟩
      · rintro ⟨other, p, hp, rfl⟩
        obtain ⟨-, rfl⟩ | ⟨-, hp⟩ := hlookup other p hp
        · exact absurd rfl hsame
        · exact ⟨other, p, hp, rfl⟩
  · obtain ⟨rfl, rfl⟩ | ⟨-, hp⟩ := hlookup other p h
    · obtain ⟨rfl, -⟩ | ⟨-, hp'⟩ := hlookup other' p' h'
      · rfl
      · exact absurd heq.symm (hunused other' p' hp')
    · obtain ⟨rfl, rfl⟩ | ⟨-, hp'⟩ := hlookup other' p' h'
      · exact absurd heq (hunused other p hp)
      · exact hb.distinct other other' p p' hp hp' heq

/-- A probe that ends takes its port along. -/
theorem portsExact_retire (hfound : b.pending.lookup id = some pending) :
    (b.retire id pending).PortsExact := by
  have hspan := hb.span id pending hfound
  have hlookup : ∀ other p, (b.pending.erase id).lookup other = some p →
      other ≠ id ∧ b.pending.lookup other = some p := by
    intro other p h
    rw [AList.lookup_erase_eq_ite] at h
    split_ifs at h with hother
    exact ⟨hother, h⟩
  refine ⟨fun other p h ↦ hb.span other p (hlookup other p h).2, fun port hport ↦ ?_,
    fun other other' p p' h h' ↦
      hb.distinct other other' p p' (hlookup other p h).2 (hlookup other' p' h').2⟩
  show freed pending.submission.sourcePort b.sourcePorts (portIndex port) = true ↔ _
  rw [freed, if_pos hspan]
  by_cases hsame : port = pending.submission.sourcePort
  · rw [hsame, Function.update_self]
    refine iff_of_false Bool.false_ne_true ?_
    rintro ⟨other, p, hp, heq⟩
    obtain ⟨hother, hp⟩ := hlookup other p hp
    exact hother (hb.distinct other id p pending hp hfound heq)
  · have hindex : portIndex port ≠ portIndex pending.submission.sourcePort := fun heq ↦
      hsame (portIndex_injective hport hspan heq)
    rw [Function.update_of_ne hindex, hb.exact port hport]
    constructor
    · rintro ⟨other, p, hp, rfl⟩
      have hother : other ≠ id := by
        rintro rfl
        obtain rfl : p = pending := Option.some.inj (hp.symm.trans hfound)
        exact hsame rfl
      exact ⟨other, p, (AList.lookup_erase_ne hother).trans hp, rfl⟩
    · rintro ⟨other, p, hp, rfl⟩
      exact ⟨other, p, (hlookup other p hp).2, rfl⟩

end

theorem observe_submission (pending : Pending) (state : PortState) (reason : ScanReason)
    (at_ : TimePoint) : (pending.observe state reason at_).submission = pending.submission := by
  unfold Pending.observe
  split
  · rfl
  · split <;> rfl

/-- Evidence recorded on a probe leaves its port alone. -/
theorem portsExact_observe (hb : b.PortsExact) (hfound : b.pending.lookup id = some pending)
    (state : PortState) (reason : ScanReason) (at_ : TimePoint) :
    { b with pending := b.pending.replace id (pending.observe state reason at_) }.PortsExact := by
  have hkeep : ∀ other p,
      (b.pending.replace id (pending.observe state reason at_)).lookup other = some p →
        ∃ q, b.pending.lookup other = some q ∧ p.submission = q.submission := by
    intro other p h
    rw [AList.lookup_replace_eq_ite _ hfound] at h
    split_ifs at h with hother
    · obtain rfl := Option.some.inj h
      exact ⟨pending, hother ▸ hfound, observe_submission pending state reason at_⟩
    · exact ⟨p, h, rfl⟩
  refine ⟨fun other p h ↦ ?_, fun port hport ↦ ?_, fun other other' p p' h h' heq ↦ ?_⟩
  · obtain ⟨q, hq, hsame⟩ := hkeep other p h
    rw [hsame]
    exact hb.span other q hq
  · refine (hb.exact port hport).trans ⟨?_, ?_⟩
    · rintro ⟨other, p, hp, rfl⟩
      by_cases hother : other = id
      · obtain rfl : p = pending := Option.some.inj (hp.symm.trans (hother ▸ hfound))
        refine ⟨id, _, AList.lookup_replace _ hfound, ?_⟩
        rw [observe_submission]
      · exact ⟨other, p, (AList.lookup_replace_ne hother _ hfound).trans hp, rfl⟩
    · rintro ⟨other, p, hp, rfl⟩
      obtain ⟨q, hq, hsame⟩ := hkeep other p hp
      exact ⟨other, q, hq, by rw [hsame]⟩
  · obtain ⟨q, hq, hsame⟩ := hkeep other p h
    obtain ⟨q', hq', hsame'⟩ := hkeep other' p' h'
    rw [hsame, hsame'] at heq
    exact hb.distinct other other' q q' hq hq' heq

/-- The ports are exact, and were all in use whenever none was free. -/
structure PortsKept (b : Board) : Prop where
  exact : b.PortsExact
  allHeld : b.AllHeld

theorem portsKept_of_action (h : Action ctx b b') (hb : b.PortsKept) : b'.PortsKept := by
  obtain ⟨hexact, hheld⟩ := hb
  cases h with
  | fail => exact ⟨portsExact_of_same hexact rfl rfl, hheld⟩
  | exhaust _ _ _ _ hall =>
    refine ⟨portsExact_of_same hexact rfl rfl, ?_⟩
    exact List.forall_mem_cons.mpr ⟨fun port hport ↦ hexact.mem_held hall hport, hheld⟩
  | start _ _ hfresh _ _ hspan hfree =>
    exact ⟨portsExact_start hexact hfresh hspan hfree rfl rfl, hheld⟩
  | observe state reason at_ hfound => exact ⟨portsExact_observe hexact hfound state reason at_,
      hheld⟩
  | publish hfound => exact ⟨portsExact_of_same (portsExact_retire hexact hfound) rfl rfl, hheld⟩

theorem portsKept_of_actions (h : Actions ctx b b') (hb : b.PortsKept) : b'.PortsKept :=
  Runs.steps_invariant portsKept_of_action h hb

end Board

variable {ctx : Context}

theorem portsKept_submit {s : UDPScheduler} (hs : s.board.PortsKept) (target : Target)
    (ports : List Port) : (submit ctx target ports s).2.board.PortsKept := by
  obtain hsame | ⟨status, hsame⟩ | haccept := submit_cases ctx target ports s
  · rw [hsame]
    exact hs
  · rw [hsame]
    exact ⟨Board.portsExact_of_same hs.exact rfl rfl, hs.allHeld⟩
  · obtain ⟨results, s₁, -, -, hboard, hsubmit⟩ := haccept.submit_eq
    have hs₁ : s₁.board.PortsKept := by
      rw [hboard]
      exact ⟨Board.portsExact_of_same hs.exact rfl rfl, hs.allHeld⟩
    rw [hsubmit, board_stopIfIdle]
    split
    · exact Board.portsKept_of_actions (actions_pump ctx s₁) hs₁
    · exact ⟨Board.portsExact_of_same hs₁.exact rfl rfl, hs₁.allHeld⟩

theorem portsKept_step (s : UDPScheduler) (event : Event) (hs : s.board.PortsKept) :
    (step ctx s event).board.PortsKept := by
  cases event with
  | submit target ports => exact portsKept_submit hs target ports
  | receive response => exact Board.portsKept_of_actions (actions_receive ctx response s) hs
  | onTimeout id =>
    obtain hactions | ⟨-, pending, timing, hlookup, -, hactions⟩ := actions_onTimeout ctx id s
    · exact Board.portsKept_of_actions hactions hs
    · refine Board.portsKept_of_actions hactions ⟨?_, hs.allHeld⟩
      exact Board.portsExact_of_same (Board.portsExact_retire hs.exact hlookup) rfl rfl

/-- **Source-port allocation is exact.** In every state of every run: the entry of a port is set if
and only if exactly one probe in flight uses the port; the ports of the probes in flight are from
40000 to 60000 and pairwise distinct; and an allocation fails only when every port is in use, now
and whenever one failed before. -/
theorem source_ports_exact (ctx : Context) (events : List Event) :
    let s := Runs.run (step ctx) (create ctx) events
    (∀ port, InSpan port → (s.sourcePorts (portIndex port) = true ↔
        ∃! id, ∃ p, s.pending.lookup id = some p ∧ p.submission.sourcePort = port)) ∧
      (∀ id p, s.pending.lookup id = some p → InSpan p.submission.sourcePort) ∧
      (∀ id id' p p', s.pending.lookup id = some p → s.pending.lookup id' = some p' → id ≠ id' →
        p.submission.sourcePort ≠ p'.submission.sourcePort) ∧
      (s.allocateSourcePort.1 = none → ∀ port, InSpan port → port ∈ s.board.held) ∧
      ∀ held ∈ s.exhaustions, ∀ port, InSpan port → port ∈ held := by
  intro s
  have hfresh : (create ctx).board.PortsKept := by
    have hnone : ∀ id p, (create ctx).board.pending.lookup id = some p → False := by
      intro id p h
      have h : (∅ : KeyedStore UDPProbeId Pending).lookup id = some p := h
      rw [AList.lookup_empty] at h
      exact nomatch h
    refine ⟨⟨fun id p h ↦ (hnone id p h).elim, fun port _ ↦ ?_,
      fun id _ p _ h ↦ (hnone id p h).elim⟩,
      fun held h ↦ absurd h List.not_mem_nil⟩
    exact iff_of_false Bool.false_ne_true fun ⟨id, p, h, _⟩ ↦ hnone id p h
  obtain ⟨hexact, hheld⟩ : s.board.PortsKept :=
    Runs.run_invariant (I := fun s : UDPScheduler ↦ s.board.PortsKept) portsKept_step hfresh events
  refine ⟨fun port hport ↦ (hexact.exact port hport).trans ⟨?_, ?_⟩, hexact.span, ?_, ?_, hheld⟩
  · rintro ⟨id, p, hp, rfl⟩
    refine ⟨id, ⟨p, hp, rfl⟩, ?_⟩
    rintro other ⟨q, hq, heq⟩
    exact hexact.distinct other id q p hq hp heq
  · rintro ⟨id, ⟨p, hp, hport⟩, -⟩
    exact ⟨id, p, hp, hport⟩
  · intro id id' p p' hp hp' hne heq
    exact hne (hexact.distinct id id' p p' hp hp' heq)
  · intro hnone port hport
    exact hexact.mem_held ((allocateSourcePort_eq_none_iff s).mp hnone) hport

end UDPScheduler

end Skan.PortScan

import Skan.Output.Types

/-!
# Building a report

`ScanReportBuilder::build` of `src/orchestrator/scan_report_builder.cpp`: the results of all stages
are collected under the hosts that they are about, and a host that no stage before has named is
added where a result first names it. An index from addresses to positions says where a host is.

What an insertion does is said once (`addTo_split`): the list of hosts is what it was, but for the
one host of the address, which may be new at the end. All that the report keeps follows from that by
induction over the results (`Collected`). Nothing is lost or invented, and the summary counts what
the stages reported (`build_preserves`).

The duration is a rational number here; a `double` is rounded.
-/

namespace Skan.Orchestrator

open Skan.Core Skan.PortScan Skan.Detect Skan.Discovery Skan.Output

/-- What a report takes from a result of the discovery. -/
structure DiscoveryEvidence where
  target : Text
  state : HostState := .unknown
  rttMs : Option Double := none

/-- `OSReportEvidence`. -/
structure OSReportEvidence where
  target : Text
  osMatches : List Output.OSMatchResult := []
  result : Option Output.OSDetectionResult := none

namespace ScanReportBuilder

variable {host : HostResult} {change : HostResult → HostResult} {hosts : List HostResult}
  {b : Building} {β : Type*}

/-- The fields of `ScanConfig` that a report is built by. -/
structure Config where
  adaptiveTiming : Bool := false
  timingProfile : TimingProfileId := .t3
  discoveryEnabled : Bool := false

/-- The arguments of `build`; the version is the build system's. -/
structure Input where
  scannerVersion : Text
  config : Config := {}
  target : Target
  discoveryResults : List DiscoveryEvidence := []
  portResults : List Output.PortResult := []
  serviceResults : List Output.ServiceResult := []
  osResults : List OSReportEvidence := []
  timingMetrics : Option ScanMetrics := none
  startedAt : TimePoint := 0
  finishedAt : TimePoint := 0
  warnings : List Text := []
  errors : List Text := []

/-- `discovery_state_for`. -/
def discoveryStateFor (address : Text) (results : List DiscoveryEvidence) : HostState :=
  let results := results.filter (·.target = address)
  if results.any (·.state = .up) then .up
  else if results.any (·.state = .down) then .down
  else if results.any (·.state = .unreachable) then .unreachable
  else .unknown

/-- `family_for`. -/
def familyFor (address : Text) (typedAddress : IpAddress := {}) : AddressFamily :=
  if typedAddress.valid then typedAddress.family
  else if 0x3A ∈ address then .ipv6
  else .ipv4

/-- `rtt_for`. -/
def rttFor (address : Text) (results : List DiscoveryEvidence) : Option Double :=
  results.foldl (fun best result ↦
    match best, result.rttMs with
    | some shortest, some rtt =>
      if result.target = address && rtt.lt shortest then some rtt else some shortest
    | none, some rtt => if result.target = address then some rtt else none
    | best, none => best) none

/-- `port_state_proves_reachability`. -/
def portStateProvesReachability (state : PortState) : Bool :=
  state = .open || state = .closed || state = .unfiltered

/-- `has_port_reachability_evidence`. -/
def hasPortReachabilityEvidence (host : HostResult) : Bool :=
  host.ports.any fun port ↦ portStateProvesReachability port.state

/-! ### The hosts and their index -/

/-- The hosts of the report while it is built, and `host_indices`. -/
structure Building where
  hosts : List HostResult := []
  hostIndices : Text → Option ℕ := fun _ ↦ none

/-- A host is put at the end, with its position in the index. -/
def Building.push (b : Building) (host : HostResult) : Building where
  hosts := b.hosts ++ [host]
  hostIndices := Function.update b.hostIndices host.address (some b.hosts.length)

/-- The host result of a resolved host. -/
def hostResult (input : Input) (host : Host) : HostResult where
  address := host.address
  hostname := host.hostname
  family := familyFor host.address host.ipAddress
  state :=
    if input.config.discoveryEnabled then discoveryStateFor host.address input.discoveryResults
    else if host.isUp then .up
    else .unknown
  rttMs :=
    if input.config.discoveryEnabled then rttFor host.address input.discoveryResults else none

/-- A pass of the loop over the resolved hosts. -/
def addHost (input : Input) (b : Building) (host : Host) : Building :=
  if (b.hostIndices host.address).isSome then b else b.push (hostResult input host)

/-- The lambda `host_index`. -/
def hostIndex (b : Building) (address : Text) : ℕ × Building :=
  match b.hostIndices address with
  | some index => (index, b)
  | none => (b.hosts.length, b.push { address, family := familyFor address })

/-- The body of the loops over results: the host of an address is changed. -/
def addTo (b : Building) (address : Text) (change : HostResult → HostResult) : Building :=
  let (index, b) := hostIndex b address
  { b with hosts := b.hosts.modify index change }

def addPort (b : Building) (port : Output.PortResult) : Building :=
  addTo b port.target fun host ↦ { host with ports := host.ports ++ [port] }

def addService (b : Building) (service : Output.ServiceResult) : Building :=
  addTo b service.target fun host ↦ { host with services := host.services ++ [service] }

def addOs (b : Building) (os : OSReportEvidence) : Building :=
  addTo b os.target fun host ↦
    { host with
      osMatches := host.osMatches ++ os.osMatches
      osDetection := if os.result.isSome then os.result else host.osDetection }

/-- What the last loop does to a host. -/
def finish (std : StdSort) (host : HostResult) : HostResult :=
  { host with
    state := if hasPortReachabilityEvidence host then .up else host.state
    ports := std.sort (fun left right ↦
      let rank : Protocol → ℕ | .tcp => 0 | .udp => 1
      if left.port.number ≠ right.port.number then left.port.number < right.port.number
      else rank left.port.protocol < rank right.port.protocol) host.ports
    services :=
      std.sort (fun left right ↦ left.port.number < right.port.number) host.services
    osMatches := std.sort osMatchIsBetter host.osMatches }

/-- The hosts of a report, before they are sorted. -/
def collect (input : Input) : Building :=
  let b := input.target.resolvedHosts.foldl (addHost input) {}
  let b := input.portResults.foldl addPort b
  let b := input.serviceResults.foldl addService b
  input.osResults.foldl addOs b

/-- `ScanReportBuilder::build`. -/
def build (std : StdSort) (input : Input) : ScanReport where
  scannerVersion := input.scannerVersion
  targetSpec := some input.target.originalSpecification
  timingProfile := if input.config.adaptiveTiming then some input.config.timingProfile else none
  timingMetrics := input.timingMetrics
  durationMs := some (.finite false ((input.finishedAt - input.startedAt).toNat / 1000000))
  warnings := input.warnings
  errors := input.errors
  hosts :=
    (std.sort (fun left right ↦ left.address < right.address) (collect input).hosts).map
      (finish std)

/-! ### The index -/

/-- The index says of every element of a list where it is, and of nothing else. -/
def Indexes {α : Type*} (index : α → Option ℕ) (l : List α) : Prop :=
  ∀ a i, index a = some i ↔ l[i]? = some a

section

variable {α : Type*} {index : α → Option ℕ} {l : List α} {a : α}

theorem indexes_nil : Indexes (fun _ : α ↦ none) [] :=
  fun _ _ ↦ ⟨fun h ↦ (Option.some_ne_none _ h.symm).elim, fun h ↦ nomatch h⟩

theorem Indexes.nodup (h : Indexes index l) : l.Nodup := by
  rw [List.nodup_iff_injective_get]
  intro i j heq
  have hi := (h _ i).mpr (List.getElem?_eq_getElem i.isLt)
  have hj := (h _ j).mpr (List.getElem?_eq_getElem j.isLt)
  rw [List.get_eq_getElem, List.get_eq_getElem] at heq
  rw [heq, hj] at hi
  exact Fin.ext (Option.some.inj hi).symm

theorem Indexes.eq_none_iff (h : Indexes index l) : index a = none ↔ a ∉ l := by
  rw [Option.eq_none_iff_forall_ne_some, List.mem_iff_getElem?, not_exists]
  exact forall_congr' fun i ↦ not_congr (h a i)

theorem getElem?_concat_iff {b : α} {i : ℕ} :
    (l ++ [a])[i]? = some b ↔ l[i]? = some b ∨ i = l.length ∧ a = b := by
  rcases Nat.lt_trichotomy i l.length with hlt | rfl | hgt
  · rw [List.getElem?_append_left hlt]
    exact ⟨.inl, fun h ↦ h.resolve_right fun heq ↦ absurd heq.1 (Nat.ne_of_lt hlt)⟩
  · rw [List.getElem?_concat_length, List.getElem?_eq_none le_rfl, Option.some_inj]
    exact ⟨fun h ↦ .inr ⟨rfl, h⟩, fun h ↦ (h.resolve_left (Option.some_ne_none b ·.symm)).2⟩
  · rw [List.getElem?_eq_none hgt.le, List.getElem?_eq_none (by rw [List.length_append]; exact hgt)]
    exact ⟨fun h ↦ .inl h, fun h ↦ h.resolve_right fun heq ↦ absurd heq.1 (Nat.ne_of_gt hgt)⟩

/-- A new element is put at the end of the list. -/
theorem Indexes.concat [DecidableEq α] (h : Indexes index l) (hnew : a ∉ l) :
    Indexes (Function.update index a (some l.length)) (l ++ [a]) := by
  intro b i
  rw [getElem?_concat_iff]
  by_cases hb : b = a
  · subst hb
    rw [Function.update_self, Option.some_inj]
    refine ⟨fun heq ↦ .inr ⟨heq.symm, rfl⟩, fun hor ↦ ?_⟩
    exact (hor.resolve_left fun hmem ↦ hnew (List.mem_of_getElem? hmem)).1.symm
  · rw [Function.update_of_ne hb, h b i]
    exact ⟨.inl, fun hor ↦ hor.resolve_right fun heq ↦ hb heq.2.symm⟩

end

/-! ### What an insertion does -/

/-- The addresses of the hosts. -/
def Building.addresses (b : Building) : List Text := b.hosts.map (·.address)

def Building.Indexed (b : Building) : Prop := Indexes b.hostIndices b.addresses

theorem Building.Indexed.push (h : b.Indexed) (hnew : host.address ∉ b.addresses) :
    (b.push host).Indexed := by
  have hconcat := Indexes.concat h hnew
  rw [Building.addresses, List.length_map] at hconcat
  rw [Building.Indexed, Building.addresses, Building.push, List.map_append]
  exact hconcat

/-- The host of an address that no host has yet. -/
def created (address : Text) : HostResult := { address, family := familyFor address }

/-- Where `host_index` finds the host of an address, or puts it. -/
theorem hostIndex_split (h : b.Indexed) (address : Text) :
    ∃ front host back, (hostIndex b address).2.hosts = front ++ host :: back ∧
      front.length = (hostIndex b address).1 ∧ host.address = address ∧
      (hostIndex b address).2.Indexed ∧
      (b.hosts = front ++ host :: back ∨ b.hosts = front ∧ back = [] ∧ host = created address) := by
  rw [hostIndex]
  cases hindex : b.hostIndices address with
  | some index =>
    have hfound := (h address index).mp hindex
    rw [Building.addresses, List.getElem?_map, Option.map_eq_some_iff] at hfound
    obtain ⟨host, hhost, haddress⟩ := hfound
    obtain ⟨hlt, rfl⟩ := List.getElem?_eq_some_iff.mp hhost
    refine ⟨b.hosts.take index, b.hosts[index], b.hosts.drop (index + 1), ?_, ?_, haddress, h, ?_⟩
    · rw [← List.drop_eq_getElem_cons hlt, List.take_append_drop]
    · exact List.length_take_of_le hlt.le
    · exact .inl (by rw [← List.drop_eq_getElem_cons hlt, List.take_append_drop])
  | none =>
    exact ⟨b.hosts, created address, [], rfl, rfl, rfl, h.push (h.eq_none_iff.mp hindex),
      .inr ⟨rfl, rfl, rfl⟩⟩

/-- **What an insertion does**: the host of the address is changed, or a new one at the end. -/
theorem addTo_split (h : b.Indexed) (address : Text)
    (hchange : ∀ host, (change host).address = host.address) :
    ∃ front host back, (addTo b address change).hosts = front ++ change host :: back ∧
      host.address = address ∧ (addTo b address change).Indexed ∧
      (b.hosts = front ++ host :: back ∨ b.hosts = front ∧ back = [] ∧ host = created address) := by
  obtain ⟨front, host, back, hhosts, hlength, haddress, hindexed, hbefore⟩ :=
    hostIndex_split h address
  have hmodify : (addTo b address change).hosts = front ++ change host :: back := by
    show (hostIndex b address).2.hosts.modify (hostIndex b address).1 change = _
    rw [hhosts, ← hlength]
    exact List.modifyTailIdx_add (List.modifyHead change) 0 front (host :: back)
  refine ⟨front, host, back, hmodify, haddress, ?_, hbefore⟩
  have haddresses : (addTo b address change).addresses = (hostIndex b address).2.addresses := by
    rw [Building.addresses, Building.addresses, hmodify, hhosts, List.map_append, List.map_append,
      List.map_cons, List.map_cons, hchange]
  rw [Building.Indexed, haddresses]
  exact hindexed

/-! ### What is collected -/

/-- What was added to the hosts: these addresses, and these results under the hosts of their
targets. -/
structure Collected (b : Building) (addresses : List Text) (ports : List Output.PortResult)
    (services : List Output.ServiceResult) (osMatches : List Output.OSMatchResult) : Prop where
  indexed : b.Indexed
  addresses : ∀ address, address ∈ b.addresses ↔ address ∈ addresses
  ports : (b.hosts.flatMap (·.ports)).Perm ports
  services : (b.hosts.flatMap (·.services)).Perm services
  osMatches : (b.hosts.flatMap (·.osMatches)).Perm osMatches
  portsPlaced : ∀ host ∈ b.hosts, ∀ port ∈ host.ports, port.target = host.address
  servicesPlaced : ∀ host ∈ b.hosts, ∀ service ∈ host.services, service.target = host.address

/-- A change that adds results to a host. -/
structure Adds (change : HostResult → HostResult) (ports : List Output.PortResult)
    (services : List Output.ServiceResult) (osMatches : List Output.OSMatchResult) : Prop where
  address : ∀ host, (change host).address = host.address
  ports : ∀ host, (change host).ports = host.ports ++ ports
  services : ∀ host, (change host).services = host.services ++ services
  osMatches : ∀ host, (change host).osMatches = host.osMatches ++ osMatches

theorem collected_nil : Collected {} [] [] [] [] where
  indexed := indexes_nil
  addresses _ := Iff.rfl
  ports := .nil
  services := .nil
  osMatches := .nil
  portsPlaced _ h := absurd h List.not_mem_nil
  servicesPlaced _ h := absurd h List.not_mem_nil

/-- The items of the hosts, when one host gets more of them. -/
theorem flatMap_perm {items : HostResult → List β} {new old : List β}
    (hnew : ∀ host, items (change host) = items host ++ new) {front back : List HostResult}
    {address : Text} (hnone : items (created address) = [])
    (hhosts : hosts = front ++ host :: back ∨ hosts = front ∧ back = [] ∧ host = created address)
    (h : (hosts.flatMap items).Perm old) :
    ((front ++ change host :: back).flatMap items).Perm (old ++ new) := by
  rw [List.flatMap_append, List.flatMap_cons, hnew]
  rcases hhosts with rfl | ⟨rfl, rfl, rfl⟩
  · rw [List.flatMap_append, List.flatMap_cons] at h
    refine List.Perm.trans ?_ (h.append_right new)
    rw [List.append_assoc, List.append_assoc, List.append_assoc]
    exact ((@List.perm_append_comm _ new (back.flatMap items)).append_left _).append_left _
  · rw [hnone, List.nil_append, List.flatMap_nil, List.append_nil]
    exact h.append_right new

/-- What holds of the items of all hosts, when one host gets more of them. -/
theorem placed_of_split {items : HostResult → List β} {new : List β} {target : β → Text}
    (hnew : ∀ host, items (change host) = items host ++ new)
    (haddress : ∀ host, (change host).address = host.address) {front back : List HostResult}
    {address : Text} (hnone : items (created address) = []) (hhost : host.address = address)
    (htarget : ∀ item ∈ new, target item = address)
    (hhosts : hosts = front ++ host :: back ∨ hosts = front ∧ back = [] ∧ host = created address)
    (h : ∀ host ∈ hosts, ∀ item ∈ items host, target item = host.address) :
    ∀ other ∈ front ++ change host :: back, ∀ item ∈ items other, target item = other.address := by
  have hitems : ∀ item ∈ items host, target item = host.address := by
    rcases hhosts with rfl | ⟨-, -, rfl⟩
    · exact h host (List.mem_append_right _ List.mem_cons_self)
    · exact fun item hitem ↦ absurd (hnone ▸ hitem) List.not_mem_nil
  have hothers : ∀ other ∈ front ++ back, other ∈ hosts := by
    intro other hother
    rcases hhosts with rfl | ⟨rfl, rfl, -⟩
    · exact (List.mem_append.mp hother).elim (List.mem_append_left _)
        fun hback ↦ List.mem_append_right _ (List.mem_cons_of_mem _ hback)
    · rwa [List.append_nil] at hother
  intro other hother item hitem
  rcases List.mem_append.mp hother with hfront | hother
  · exact h other (hothers other (List.mem_append_left _ hfront)) item hitem
  · rcases List.mem_cons.mp hother with hchanged | hback
    · rw [hchanged] at hitem
      rw [hchanged, haddress]
      rcases List.mem_append.mp (hnew host ▸ hitem) with hold | hadded
      · exact hitems item hold
      · exact (htarget item hadded).trans hhost.symm
    · exact h other (hothers other (List.mem_append_right _ hback)) item hitem

variable {b : Building} {addresses : List Text} {ports newPorts : List Output.PortResult}
  {services newServices : List Output.ServiceResult}
  {osMatches newMatches : List Output.OSMatchResult}

/-- **An insertion adds its results, and the address if it is new.** -/
theorem Collected.addTo (h : Collected b addresses ports services osMatches) (address : Text)
    (hchange : Adds change newPorts newServices newMatches)
    (hports : ∀ port ∈ newPorts, port.target = address)
    (hservices : ∀ service ∈ newServices, service.target = address) :
    Collected (ScanReportBuilder.addTo b address change) (addresses ++ [address])
      (ports ++ newPorts) (services ++ newServices) (osMatches ++ newMatches) := by
  obtain ⟨front, host, back, hhosts, haddress, hindexed, hbefore⟩ :=
    addTo_split h.indexed address hchange.address
  refine ⟨hindexed, fun a ↦ ?_, ?_, ?_, ?_, ?_, ?_⟩
  · rw [List.mem_append, List.mem_singleton, ← h.addresses, Building.addresses, hhosts,
      List.map_append, List.map_cons, hchange.address, haddress, Building.addresses]
    rcases hbefore with hsame | ⟨hsame, rfl, -⟩
    · rw [hsame, List.map_append, List.map_cons, haddress]
      simp only [List.mem_append, List.mem_cons]
      tauto
    · rw [hsame, List.mem_append, List.map_nil, List.mem_singleton]
  · exact hhosts ▸ flatMap_perm hchange.ports rfl hbefore h.ports
  · exact hhosts ▸ flatMap_perm hchange.services rfl hbefore h.services
  · exact hhosts ▸ flatMap_perm hchange.osMatches rfl hbefore h.osMatches
  · rw [hhosts]
    exact placed_of_split hchange.ports hchange.address rfl haddress hports hbefore h.portsPlaced
  · rw [hhosts]
    exact placed_of_split hchange.services hchange.address rfl haddress hservices hbefore
      h.servicesPlaced

/-- A resolved host adds its address. -/
theorem Collected.addHost (h : Collected b addresses ports services osMatches) (input : Input)
    (host : Host) : Collected (ScanReportBuilder.addHost input b host) (addresses ++ [host.address])
      ports services osMatches := by
  rw [ScanReportBuilder.addHost]
  cases hindex : b.hostIndices host.address with
  | some index =>
    have hknown := List.mem_of_getElem? ((h.indexed _ _).mp hindex)
    refine { h with addresses := fun a ↦ ?_ }
    rw [List.mem_append, List.mem_singleton, ← h.addresses]
    exact ⟨.inl, fun hor ↦ hor.elim id fun heq ↦ heq ▸ hknown⟩
  | none =>
    have hnew := h.indexed.eq_none_iff.mp hindex
    have hnone {β : Type} (items : HostResult → List β)
        (hitems : items (hostResult input host) = []) :
        (b.hosts ++ [hostResult input host]).flatMap items = b.hosts.flatMap items := by
      rw [List.flatMap_append, List.flatMap_singleton, hitems, List.append_nil]
    have hplaced {β : Type} {items : HostResult → List β} {target : β → Text}
        (hitems : items (hostResult input host) = [])
        (hold : ∀ host ∈ b.hosts, ∀ item ∈ items host, target item = host.address) :
        ∀ other ∈ b.hosts ++ [hostResult input host], ∀ item ∈ items other,
          target item = other.address := by
      intro other hother item hitem
      rcases List.mem_append.mp hother with hother | hother
      · exact hold other hother item hitem
      · rw [List.mem_singleton.mp hother, hitems] at hitem
        exact absurd hitem List.not_mem_nil
    exact ⟨h.indexed.push hnew,
      fun a ↦ by
        rw [List.mem_append, List.mem_singleton, ← h.addresses, Building.addresses,
          Building.addresses]
        show a ∈ (b.hosts ++ [_]).map _ ↔ _
        rw [List.map_append, List.mem_append, List.map_singleton, List.mem_singleton]
        rfl,
      (List.Perm.of_eq (hnone (·.ports) rfl)).trans h.ports,
      (List.Perm.of_eq (hnone (·.services) rfl)).trans h.services,
      (List.Perm.of_eq (hnone (·.osMatches) rfl)).trans h.osMatches,
      hplaced rfl h.portsPlaced, hplaced rfl h.servicesPlaced⟩

/-- A loop of insertions adds the results of all of them. -/
theorem Collected.foldl {ρ : Type*} (add : Building → ρ → Building) (target : ρ → Text)
    (portsOf : ρ → List Output.PortResult) (servicesOf : ρ → List Output.ServiceResult)
    (matchesOf : ρ → List Output.OSMatchResult)
    (hadd : ∀ (b : Building) addresses ports services osMatches (r : ρ),
      Collected b addresses ports services osMatches →
      Collected (add b r) (addresses ++ [target r]) (ports ++ portsOf r) (services ++ servicesOf r)
        (osMatches ++ matchesOf r))
    (h : Collected b addresses ports services osMatches) (results : List ρ) :
    Collected (results.foldl add b) (addresses ++ results.map target)
      (ports ++ results.flatMap portsOf) (services ++ results.flatMap servicesOf)
      (osMatches ++ results.flatMap matchesOf) := by
  induction results generalizing b addresses ports services osMatches with
  | nil => simpa using h
  | cons r results ih => simpa using ih (hadd _ _ _ _ _ r h)

theorem adds_port (port : Output.PortResult) :
    Adds (fun host ↦ { host with ports := host.ports ++ [port] }) [port] [] [] :=
  ⟨fun _ ↦ rfl, fun _ ↦ rfl, fun _ ↦ (List.append_nil _).symm, fun _ ↦ (List.append_nil _).symm⟩

theorem adds_service (service : Output.ServiceResult) :
    Adds (fun host ↦ { host with services := host.services ++ [service] }) [] [service] [] :=
  ⟨fun _ ↦ rfl, fun _ ↦ (List.append_nil _).symm, fun _ ↦ rfl, fun _ ↦ (List.append_nil _).symm⟩

theorem adds_os (os : OSReportEvidence) :
    Adds (fun host ↦
      { host with
        osMatches := host.osMatches ++ os.osMatches
        osDetection := if os.result.isSome then os.result else host.osDetection })
      [] [] os.osMatches :=
  ⟨fun _ ↦ rfl, fun _ ↦ (List.append_nil _).symm, fun _ ↦ (List.append_nil _).symm, fun _ ↦ rfl⟩

/-- The addresses that the stages name, in the order in which they do. -/
def Input.named (input : Input) : List Text :=
  input.target.resolvedHosts.map (·.address) ++ input.portResults.map (·.target) ++
    input.serviceResults.map (·.target) ++ input.osResults.map (·.target)

theorem flatMap_none {α : Type*} (l : List α) : l.flatMap (fun _ ↦ ([] : List β)) = [] :=
  List.flatMap_eq_nil_iff.mpr fun _ _ ↦ rfl

/-- **Everything is collected**, the results of all stages under the addresses they are about. -/
theorem collected_collect (input : Input) :
    Collected (collect input) input.named input.portResults input.serviceResults
      (input.osResults.flatMap (·.osMatches)) := by
  have hhosts := Collected.foldl (addHost input) (·.address) (fun _ ↦ []) (fun _ ↦ []) (fun _ ↦ [])
    (fun _ _ _ _ _ host h ↦ by simpa using h.addHost input host) collected_nil
    input.target.resolvedHosts
  have hports := Collected.foldl addPort (·.target) (fun port ↦ [port]) (fun _ ↦ []) (fun _ ↦ [])
    (fun _ _ _ _ _ port h ↦ h.addTo port.target (adds_port port)
      (fun _ hmem ↦ List.mem_singleton.mp hmem ▸ rfl) fun _ hmem ↦ absurd hmem List.not_mem_nil)
    hhosts input.portResults
  have hservices := Collected.foldl addService (·.target) (fun _ ↦ []) (fun service ↦ [service])
    (fun _ ↦ []) (fun _ _ _ _ _ service h ↦ h.addTo service.target (adds_service service)
      (fun _ hmem ↦ absurd hmem List.not_mem_nil) fun _ hmem ↦ List.mem_singleton.mp hmem ▸ rfl)
    hports input.serviceResults
  have hos := Collected.foldl addOs (·.target) (fun _ ↦ []) (fun _ ↦ []) (·.osMatches)
    (fun _ _ _ _ _ os h ↦ h.addTo os.target (adds_os os)
      (fun _ hmem ↦ absurd hmem List.not_mem_nil) fun _ hmem ↦ absurd hmem List.not_mem_nil)
    hservices input.osResults
  simpa [collect, Input.named, flatMap_none] using hos

/-! ### The report -/

/-- **What a report keeps of the results it is built from.** -/
structure Preserves (input : Input) (report : ScanReport) : Prop where
  ports : (report.hosts.flatMap (·.ports)).Perm input.portResults
  services : (report.hosts.flatMap (·.services)).Perm input.serviceResults
  osMatches : (report.hosts.flatMap (·.osMatches)).Perm (input.osResults.flatMap (·.osMatches))
  portsPlaced : ∀ host ∈ report.hosts, ∀ port ∈ host.ports, port.target = host.address
  servicesPlaced : ∀ host ∈ report.hosts, ∀ service ∈ host.services, service.target = host.address
  hostsOnce : (report.hosts.map (·.address)).Nodup
  hosts : ∀ address, (∃! host, host ∈ report.hosts ∧ host.address = address) ↔
    address ∈ input.named
  up : ∀ port ∈ input.portResults, portStateProvesReachability port.state = true →
    ∀ host ∈ report.hosts, host.address = port.target → host.state = .up

/-- **What the summary of a report counts**: every host under its state and every port under its
state, and nothing twice. -/
structure Partitions (report : ScanReport) (ports : List Output.PortResult)
    (summary : ScanSummary) : Prop where
  hosts : summary.hosts = report.hosts.length
  hostsUp : summary.hostsUp = report.hosts.countP (·.state = .up)
  hostsDown : summary.hostsDown = report.hosts.countP (·.state = .down)
  hostsUnknown : summary.hostsUnknown = report.hosts.countP (·.state = .unknown)
  hostsUnreachable : summary.hostsUnreachable = report.hosts.countP (·.state = .unreachable)
  hostStates : summary.hostsUp + summary.hostsDown + summary.hostsUnknown +
    summary.hostsUnreachable = summary.hosts
  portsScanned : summary.portsScanned = ports.length
  portStates : summary.openPorts + summary.closedPorts + summary.filteredPorts +
    summary.openOrFilteredPorts + summary.unfilteredPorts + summary.errorPorts +
    summary.unreachablePorts + summary.unknownPorts = summary.portsScanned
  openPorts : summary.openPorts = ports.countP (·.state = .open)
  closedPorts : summary.closedPorts = ports.countP (·.state = .closed)
  filteredPorts : summary.filteredPorts = ports.countP (·.state = .filtered)
  openOrFilteredPorts : summary.openOrFilteredPorts = ports.countP (·.state = .openOrFiltered)
  unfilteredPorts : summary.unfilteredPorts = ports.countP (·.state = .unfiltered)
  errorPorts : summary.errorPorts = ports.countP (·.state = .error)
  unreachablePorts : summary.unreachablePorts = ports.countP (·.state = .unreachable)
  unknownPorts : summary.unknownPorts = ports.countP (·.state = .unknown)

theorem countP_flatMap_ports (hosts : List HostResult) (p : Output.PortResult → Bool) :
    (hosts.map fun host ↦ host.ports.countP p).sum = (hosts.flatMap (·.ports)).countP p := by
  rw [List.countP_flatMap]
  rfl

/-- Every host has one state. -/
theorem countP_hostStates (hosts : List HostResult) :
    hosts.countP (·.state = .up) + hosts.countP (·.state = .down) +
      hosts.countP (·.state = .unknown) + hosts.countP (·.state = .unreachable) = hosts.length := by
  induction hosts with
  | nil => rfl
  | cons host hosts ih =>
    simp only [List.countP_cons, List.length_cons]
    cases host.state <;> simp <;> omega

/-- Every port has one state. -/
theorem countP_portStates (ports : List Output.PortResult) :
    ports.countP (·.state = .open) + ports.countP (·.state = .closed) +
      ports.countP (·.state = .filtered) + ports.countP (·.state = .openOrFiltered) +
      ports.countP (·.state = .unfiltered) + ports.countP (·.state = .error) +
      ports.countP (·.state = .unreachable) + ports.countP (·.state = .unknown) = ports.length := by
  induction ports with
  | nil => rfl
  | cons port ports ih =>
    simp only [List.countP_cons, List.length_cons]
    cases port.state <;> simp <;> omega

/-- **The summary of any report partitions its hosts and its ports.** -/
theorem calculateSummary_partitions (report : ScanReport) {ports : List Output.PortResult}
    (hports : (report.hosts.flatMap (·.ports)).Perm ports) :
    Partitions report ports (calculateSummary report) := by
  have hcount (state : PortState) :
      (report.hosts.map fun host ↦ host.ports.countP (·.state = state)).sum =
        ports.countP (·.state = state) := by
    rw [countP_flatMap_ports, hports.countP_eq]
  have hlength : (report.hosts.map fun host ↦ host.ports.length).sum = ports.length := by
    rw [← hports.length_eq, List.length_flatMap]
  refine ⟨rfl, rfl, rfl, rfl, rfl, countP_hostStates report.hosts, hlength, ?_,
    hcount _, hcount _, hcount _, hcount _, hcount _, hcount _, hcount _, hcount _⟩
  simp only [calculateSummary, hcount, hlength]
  exact countP_portStates ports

/-! ### What the last loop keeps -/

variable (std : StdSort)

theorem mem_finish_ports {port : Output.PortResult} :
    port ∈ (finish std host).ports ↔ port ∈ host.ports :=
  (std.perm _ _).mem_iff

theorem mem_finish_services {service : Output.ServiceResult} :
    service ∈ (finish std host).services ↔ service ∈ host.services :=
  (std.perm _ _).mem_iff

/-- Sorting the hosts and what is in them keeps all of it. -/
theorem finished_perm {β : Type} {items : HostResult → List β}
    (hfinish : ∀ host, (items (finish std host)).Perm (items host)) {sorted : List HostResult}
    (hsorted : sorted.Perm hosts) :
    ((sorted.map (finish std)).flatMap items).Perm (hosts.flatMap items) := by
  refine List.Perm.trans ?_ (hsorted.flatMap_right items)
  induction sorted generalizing hosts with
  | nil => exact .nil
  | cons host sorted ih =>
    rw [List.map_cons, List.flatMap_cons, List.flatMap_cons]
    exact (hfinish host).append (ih (List.Perm.refl sorted))

/-- A host whose ports prove it reachable is up. -/
theorem finish_up {port : Output.PortResult} (hport : port ∈ host.ports)
    (hreachable : portStateProvesReachability port.state = true) :
    (finish std host).state = .up := by
  have hevidence : hasPortReachabilityEvidence host = true :=
    List.any_eq_true.mpr ⟨port, hport, hreachable⟩
  exact if_pos hevidence

/-- In a list of hosts with different addresses, an address has one host. -/
theorem existsUnique_host (hnodup : (hosts.map (·.address)).Nodup) (address : Text) :
    (∃! host, host ∈ hosts ∧ host.address = address) ↔ address ∈ hosts.map (·.address) := by
  rw [List.mem_map]
  refine ⟨fun ⟨host, hhost, _⟩ ↦ ⟨host, hhost⟩, fun ⟨host, hhost, haddress⟩ ↦
    ⟨host, ⟨hhost, haddress⟩, fun other ⟨hother, heq⟩ ↦ ?_⟩⟩
  exact List.inj_on_of_nodup_map hnodup hother hhost (heq.trans haddress.symm)

/-- **A report preserves what it is built from.** -/
theorem preserves_build (input : Input) : Preserves input (build std input) := by
  have h := collected_collect input
  have hsorted := std.perm (fun left right ↦ left.address < right.address) (collect input).hosts
  -- a host of the report is a host that was collected, with its results in another order
  have hmem : ∀ host ∈ (build std input).hosts,
      ∃ before ∈ (collect input).hosts, finish std before = host := fun host hhost ↦ by
    obtain ⟨before, hbefore, rfl⟩ := List.mem_map.mp hhost
    exact ⟨before, hsorted.mem_iff.mp hbefore, rfl⟩
  have haddresses : ((build std input).hosts.map (·.address)).Perm (collect input).addresses := by
    show ((List.map _ _).map _).Perm _
    rw [List.map_map]
    exact hsorted.map _
  have hnodup : ((build std input).hosts.map (·.address)).Nodup :=
    haddresses.nodup_iff.mpr h.indexed.nodup
  have hports : ∀ host ∈ (build std input).hosts, ∀ port ∈ host.ports, port.target = host.address :=
    fun host hhost port hport ↦ by
      obtain ⟨before, hbefore, rfl⟩ := hmem host hhost
      exact h.portsPlaced before hbefore port ((mem_finish_ports std).mp hport)
  have hpreserved := (finished_perm std (fun _ ↦ std.perm _ _) hsorted).trans h.ports
  refine ⟨hpreserved, (finished_perm std (fun _ ↦ std.perm _ _) hsorted).trans h.services,
    (finished_perm std (fun _ ↦ std.perm _ _) hsorted).trans h.osMatches, hports, ?_, hnodup,
    ?_, ?_⟩
  · intro host hhost service hservice
    obtain ⟨before, hbefore, rfl⟩ := hmem host hhost
    exact h.servicesPlaced before hbefore service ((mem_finish_services std).mp hservice)
  · intro address
    rw [existsUnique_host hnodup, haddresses.mem_iff, h.addresses]
  · intro port hport hreachable host hhost haddress
    obtain ⟨owner, howner, hin⟩ := List.mem_flatMap.mp (hpreserved.mem_iff.mpr hport)
    -- the host that has the port is the only one of its address
    obtain rfl : owner = host := List.inj_on_of_nodup_map hnodup howner hhost
      ((hports owner howner port hin).symm.trans haddress.symm)
    obtain ⟨before, -, rfl⟩ := hmem owner howner
    exact finish_up std ((mem_finish_ports std).mp hin) hreachable

/-- **Building a report loses nothing and invents nothing**, and its summary counts what the stages
reported. -/
theorem build_preserves (input : Input) :
    Preserves input (build std input) ∧
      Partitions (build std input) input.portResults (calculateSummary (build std input)) :=
  ⟨preserves_build std input,
    calculateSummary_partitions (build std input) (preserves_build std input).ports⟩

end ScanReportBuilder

end Skan.Orchestrator

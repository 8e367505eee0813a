import Mathlib.Data.List.Nodup
import Ravel.Bgp.Types
import Ravel.Go.HostPort

/-! watchServiceUpdates and getClusterAddr: every 100 ms the poll rebuilds `b.services`,
the map from `svcName:portName` to `ClusterIP:port`, and getClusterAddr reads it under the
lock. The identity of an entry and its address are both joined with a bare colon.
-/

namespace Ravel.Bgp

open Ravel.Go

/-- A port of a v1.Service as the poll reads it: `Name` and `Port`, an int32 that
`int(port.Port)` widens without change.
-/
structure ServicePort where
  name : String
  port : Int
  deriving DecidableEq, Repr

/-- The parts of a v1.Service the poll reads: `Spec.ClusterIP` and `Spec.Ports`, whose nil
is told apart from an empty slice.
-/
structure Service where
  clusterIP : String
  ports : Option (List ServicePort)
  deriving DecidableEq, Repr

/-- The map b.watcher.Services() returns, in the order a range over it visits its keys. A
Go map holds each key once.
-/
structure ServiceMap where
  entries : List (String × Service)
  nodup : (entries.map (·.1)).Nodup

/-- `services[svcName + ":" + port.Name] = svc.Spec.ClusterIP + ":" +
strconv.Itoa(int(port.Port))` for each port, in order.
-/
def addPorts (svcName clusterIP : String) (services : AddrMap) (ports : List ServicePort)
    : AddrMap :=
  ports.foldl (fun services port =>
    (svcName ++ ":" ++ port.name, clusterIP ++ ":" ++ itoa port.port) :: services) services

/-- The body of the range over b.watcher.Services(): a service with no ClusterIP or a nil
port slice is skipped, every port of another is assigned.
-/
def pollService (services : AddrMap) : String × Service → AddrMap
  | (svcName, svc) =>
      if svc.clusterIP = "" then services
      else match svc.ports with
        | none => services
        | some ports => addPorts svcName svc.clusterIP services ports

/-- One poll of watchServiceUpdates: a fresh map, filled by the range over the services. -/
def pollServices (snapshot : ServiceMap) : AddrMap :=
  snapshot.entries.foldl pollService []

/-- What ends a wait in the select of watchServiceUpdates: `b.ctx.Done()`, or the ticker,
at which b.watcher.Services() returns `snapshot`.
-/
inductive PollEvent
  | done
  | tick (snapshot : ServiceMap)

/-- watchServiceUpdates over the events its select receives, from `b.services`: a tick
replaces the map under the lock by a fresh poll, `b.ctx.Done()` returns.
-/
def watchServiceUpdates (services : AddrMap) : List PollEvent → AddrMap
  | [] => services
  | .done :: _ => services
  | .tick snapshot :: rest => watchServiceUpdates (pollServices snapshot) rest

/-- The comma-ok read `ip, ok := m[key]`: the newest assignment to `key`, if any. -/
def AddrMap.lookup (m : AddrMap) (key : String) : Option String :=
  (m.find? (·.1 = key)).map (·.2)

/-- getClusterAddr: `b.services[identity]`, or the error when the identity is absent. -/
def getClusterAddr (services : AddrMap) (identity : String) : Except String String :=
  match services.lookup identity with
  | some ip => .ok ip
  | none => .error ("bgp: cluster address not found for identity: " ++ identity)

-----------------------------------------------------------------------------------------
-- What one poll writes
-----------------------------------------------------------------------------------------

/-- The assignments a poll makes for one service, oldest first. -/
def Service.assignments (svcName : String) (svc : Service) : List (String × String) :=
  if svc.clusterIP = "" then []
  else (svc.ports.getD []).map fun port =>
    (svcName ++ ":" ++ port.name, svc.clusterIP ++ ":" ++ itoa port.port)

/-- The assignments of a whole poll, oldest first. -/
def ServiceMap.assignments (snapshot : ServiceMap) : List (String × String) :=
  snapshot.entries.flatMap fun (svcName, svc) => svc.assignments svcName

/-- The ports' assignments go in front of the map, newest first, by induction on the
ports.
-/
theorem addPorts_eq (svcName clusterIP : String) (services : AddrMap)
    (ports : List ServicePort)
    : addPorts svcName clusterIP services ports
      = (ports.map fun port =>
          (svcName ++ ":" ++ port.name, clusterIP ++ ":" ++ itoa port.port)).reverse
        ++ services := by
  induction ports generalizing services with
  | nil => rfl
  | cons port rest ih =>
      show addPorts svcName clusterIP (_ :: services) rest = _
      simp [ih]

/-- One service's step puts its assignments, newest first, in front of the map. -/
theorem pollService_eq (services : AddrMap) (entry : String × Service)
    : pollService services entry = (entry.2.assignments entry.1).reverse ++ services := by
  obtain ⟨svcName, svc⟩ := entry
  by_cases hip : svc.clusterIP = ""
  · simp [pollService, Service.assignments, hip]
  · cases hports : svc.ports <;> simp [pollService, Service.assignments, hip, hports, addPorts_eq]

/-- A poll's map is its assignments, newest first, by induction on the services. -/
theorem pollServices_eq (snapshot : ServiceMap)
    : pollServices snapshot = snapshot.assignments.reverse := by
  suffices ∀ (entries : List (String × Service)) (services : AddrMap),
      entries.foldl pollService services
        = (entries.flatMap fun (svcName, svc) => svc.assignments svcName).reverse ++ services by
    simpa using this snapshot.entries []
  intro entries
  induction entries with
  | nil => simp
  | cons entry rest ih =>
      intro services
      rw [List.foldl_cons, ih, pollService_eq]
      simp

/-- A run of ticks leaves the map of the last poll, by induction on the earlier ticks. -/
theorem watchServiceUpdates_ticks (services : AddrMap) (snapshots : List ServiceMap)
    (snapshot : ServiceMap)
    : watchServiceUpdates services ((snapshots ++ [snapshot]).map .tick)
      = pollServices snapshot := by
  induction snapshots generalizing services with
  | nil => rfl
  | cons earlier rest ih => exact ih _

/-- Every port of a service with a ClusterIP and a non-nil port slice is assigned its
address under its identity.
-/
theorem ServiceMap.mem_assignments {snapshot : ServiceMap} {svcName : String} {svc : Service}
    {ports : List ServicePort} {port : ServicePort} (hmem : (svcName, svc) ∈ snapshot.entries)
    (hip : svc.clusterIP ≠ "") (hports : svc.ports = some ports) (hport : port ∈ ports)
    : (svcName ++ ":" ++ port.name, svc.clusterIP ++ ":" ++ itoa port.port)
      ∈ snapshot.assignments :=
  List.mem_flatMap.mpr ⟨(svcName, svc), hmem, by
    simpa [Service.assignments, hip, hports] using ⟨port, hport, rfl, rfl⟩⟩

/-- Every identity a service's assignments use is the service name, a colon and a port
name.
-/
theorem Service.mem_assignments_key {svcName key : String} {svc : Service}
    (h : key ∈ (svc.assignments svcName).map (·.1)) : ∃ name, key = svcName ++ ":" ++ name := by
  unfold Service.assignments at h
  split_ifs at h
  · cases h
  · obtain ⟨port, -, rfl⟩ := List.mem_map.mp (by simpa only [List.map_map] using h)
    exact ⟨port.name, rfl⟩

/-- In a map the API server would accept, where no service name holds a colon and no two
ports of one service share a name, a poll assigns every identity once: two services' names
differ before the first colon, and one service's ports differ after it.
-/
theorem ServiceMap.assignments_nodup (snapshot : ServiceMap)
    (hnames : ∀ entry ∈ snapshot.entries, ':' ∉ entry.1.data)
    (hports : ∀ entry ∈ snapshot.entries, ((entry.2.ports.getD []).map (·.name)).Nodup)
    : (snapshot.assignments.map (·.1)).Nodup := by
  rw [ServiceMap.assignments, List.map_flatMap]
  refine List.nodup_flatMap.mpr ⟨fun ⟨svcName, svc⟩ hentry => ?_, ?_⟩
  · dsimp only
    unfold Service.assignments
    split_ifs
    · exact List.nodup_nil
    · have hkeys : ((svc.ports.getD []).map fun port =>
            (svcName ++ ":" ++ port.name, svc.clusterIP ++ ":" ++ itoa port.port)).map (·.1)
          = ((svc.ports.getD []).map (·.name)).map (svcName ++ ":" ++ ·) := by
        simp only [List.map_map]
        rfl
      rw [hkeys]
      exact (hports _ hentry).map fun _ _ h => String.ext (by simpa using congrArg String.data h)
  · refine (List.pairwise_map.mp snapshot.nodup).imp_of_mem fun hmem hmem' hne => ?_
    intro key hkey hkey'
    obtain ⟨name, rfl⟩ := Service.mem_assignments_key hkey
    obtain ⟨name', heq⟩ := Service.mem_assignments_key hkey'
    exact hne (join_inj (hnames _ hmem) (hnames _ hmem') heq).1

/-- Two services as the API server stores them: `default/web` with ports `http` and
`metrics`, and `kube-system/dns` with port `dns`.
-/
def twoServices : ServiceMap :=
  ⟨[("default/web", ⟨"10.96.0.10", some [⟨"http", 80⟩, ⟨"metrics", 9090⟩]⟩),
    ("kube-system/dns", ⟨"10.96.0.53", some [⟨"dns", 53⟩]⟩)], by decide⟩

/-- `twoServices` meets both conditions, so its poll assigns each of its three identities
once.
-/
theorem ServiceMap.assignments_nodup_twoServices
    : (∀ entry ∈ twoServices.entries, ':' ∉ entry.1.data)
      ∧ (∀ entry ∈ twoServices.entries, ((entry.2.ports.getD []).map (·.name)).Nodup)
      ∧ (twoServices.assignments.map (·.1)).Nodup :=
  ⟨by decide, by decide, ServiceMap.assignments_nodup twoServices (by decide) (by decide)⟩

-----------------------------------------------------------------------------------------
-- Reading the map
-----------------------------------------------------------------------------------------

section Lookup

variable {m : AddrMap} {key value : String}

/-- A key that was assigned is found, with a value assigned to it. -/
theorem AddrMap.lookup_of_mem (h : (key, value) ∈ m)
    : ∃ found, m.lookup key = some found ∧ (key, found) ∈ m := by
  unfold AddrMap.lookup
  cases hfind : m.find? (·.1 = key) with
  | none => exact absurd (by simp) (List.find?_eq_none.mp hfind _ h)
  | some entry =>
      have hkey : entry.1 = key := by simpa using List.find?_some hfind
      exact ⟨entry.2, rfl, hkey ▸ List.mem_of_find?_eq_some hfind⟩

/-- With each key assigned once, the lookup finds the one value assigned. -/
theorem AddrMap.lookup_of_nodup (h : (key, value) ∈ m) (hnodup : (m.map (·.1)).Nodup)
    : m.lookup key = some value := by
  obtain ⟨found, hfound, hmem⟩ := AddrMap.lookup_of_mem h
  obtain ⟨-, rfl⟩ := Prod.mk.inj (List.inj_on_of_nodup_map hnodup hmem h rfl)
  exact hfound

end Lookup

-----------------------------------------------------------------------------------------
-- getClusterAddr after a poll
-----------------------------------------------------------------------------------------

section AfterPoll

variable {snapshot : ServiceMap} {svcName : String} {svc : Service}
  {ports : List ServicePort} {port : ServicePort}

/-- After a run of ticks whose last poll assigns no identity twice, getClusterAddr returns
each port's own `ClusterIP:port`, and SplitHostPort takes it back to the ClusterIP and the
decimal port exactly when the ClusterIP holds no colon and no bracket: never for an IPv6
ClusterIP. By `splitHostPort_join`, since Itoa writes no colon and no bracket.
-/
theorem getClusterAddr_decodes (services : AddrMap) (snapshots : List ServiceMap)
    (hmem : (svcName, svc) ∈ snapshot.entries) (hip : svc.clusterIP ≠ "")
    (hports : svc.ports = some ports) (hport : port ∈ ports)
    (hunique : (snapshot.assignments.map (·.1)).Nodup)
    : getClusterAddr (watchServiceUpdates services ((snapshots ++ [snapshot]).map .tick))
        (svcName ++ ":" ++ port.name) = .ok (svc.clusterIP ++ ":" ++ itoa port.port)
      ∧ (splitHostPort (svc.clusterIP ++ ":" ++ itoa port.port)
          = .ok (svc.clusterIP, itoa port.port)
        ↔ ':' ∉ svc.clusterIP.data ∧ '[' ∉ svc.clusterIP.data ∧ ']' ∉ svc.clusterIP.data) := by
  refine ⟨?_, splitHostPort_join (itoa_plain port.port)⟩
  have hfound := AddrMap.lookup_of_nodup
    (List.mem_reverse.mpr (ServiceMap.mem_assignments hmem hip hports hport))
    (by rwa [List.map_reverse, List.nodup_reverse])
  rw [watchServiceUpdates_ticks, pollServices_eq]
  simp [getClusterAddr, hfound]

end AfterPoll

/-- Port `http` 80 of a service. -/
def httpPort : ServicePort := ⟨"http", 80⟩

/-- `default/web` at the IPv4 ClusterIP `10.96.0.10`, with port `http` 80. -/
def webV4 : ServiceMap := ⟨[("default/web", ⟨"10.96.0.10", some [httpPort]⟩)], by decide⟩

/-- `default/web` at the IPv6 ClusterIP `fd00::1`, with port `http` 80. -/
def webV6 : ServiceMap := ⟨[("default/web", ⟨"fd00::1", some [httpPort]⟩)], by decide⟩

/-- After one poll of `webV4`, `default/web:http` reads `10.96.0.10:80`, which decodes. -/
theorem getClusterAddr_decodes_webV4
    : ("default/web", (⟨"10.96.0.10", some [httpPort]⟩ : Service)) ∈ webV4.entries
      ∧ "10.96.0.10" ≠ "" ∧ httpPort ∈ [httpPort] ∧ (webV4.assignments.map (·.1)).Nodup
      ∧ getClusterAddr (watchServiceUpdates [] [.tick webV4]) ("default/web" ++ ":" ++ httpPort.name)
          = .ok ("10.96.0.10" ++ ":" ++ itoa httpPort.port)
      ∧ (splitHostPort ("10.96.0.10" ++ ":" ++ itoa httpPort.port)
          = .ok ("10.96.0.10", itoa httpPort.port)
        ↔ ':' ∉ "10.96.0.10".data ∧ '[' ∉ "10.96.0.10".data ∧ ']' ∉ "10.96.0.10".data) :=
  ⟨.head _, by decide, .head _, by decide,
    @getClusterAddr_decodes webV4 "default/web" ⟨"10.96.0.10", some [httpPort]⟩ [httpPort]
      httpPort [] [] (.head _) (by decide) rfl (.head _) (by decide)⟩

/-- After one poll of `webV6`, getClusterAddr returns `fd00::1:80`, which SplitHostPort
rejects: the colons of the address run into the one before the port.
-/
theorem ipv6_cluster_addr_undecodable
    : getClusterAddr (watchServiceUpdates [] [.tick webV6]) "default/web:http"
        = .ok "fd00::1:80"
      ∧ splitHostPort "fd00::1:80" = .error "too many colons in address" := ⟨rfl, rfl⟩

end Ravel.Bgp

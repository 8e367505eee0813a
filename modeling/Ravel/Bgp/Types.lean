import Mathlib.Data.List.Basic

/-! The data the bgp worker reads and the calls it makes to its collaborators: the loopback
helper `ipDevices`, the BGP controller and the IPVS manager.
-/

namespace Ravel.Bgp

/-- The parts of types.ClusterConfig the bgp worker reads: the VIP keys of `Config` and
`Config6`, each in the order a range over the map visits them, and the MTU maps handed to
SetMTU. The port maps under each VIP are read only by the IPVS manager.
-/
structure ClusterConfig where
  config : List String
  config6 : List String
  mtuConfig : List (String × Nat)
  mtuConfig6 : List (String × Nat)
  deriving DecidableEq, Repr

/-- A node of types.NodesList; its addresses and endpoints are read only by NodesEqual and
the IPVS manager.
-/
structure Node where
  name : String
  deriving DecidableEq, Repr

abbrev NodesList := List Node

/-- The pure methods the bgp worker calls on its helpers: system.IP's Device, Compare4 and
Compare6, and types.NodesEqual. Their code lies outside this repository's sources, so they
are parameters.
-/
structure Helpers where
  device : String → Bool → String
  compare4 : List String → List String → List String × List String
  compare6 : List String → List String → List String × List String
  nodesEqual : NodesList → NodesList → Bool

/-- The calls to the outside world: the kernel through ipDevices, the BGP speaker through
bgp, and IPVS through ipvs.
-/
inductive Call
  | get
  | del (device : String)
  | add (addr : String) (v6 : Bool)
  | setMtu (mtu : List (String × Nat)) (v6 : Bool)
  | teardown (config config6 : List String)
  | bgpGet
  | bgpSet (addrs configured : List String)
  | bgpSetV6 (addrs : List String)
  | setIpvs (nodes : NodesList) (config : Option ClusterConfig) (v6 : Bool)
  | checkConfigParity (nodes : NodesList) (config : Option ClusterConfig)
      (addresses : List String) (newConfig : Bool)
  deriving DecidableEq, Repr

/-- An address added to a loopback device. -/
def Call.isAdd : Call → Bool
  | .add .. => true
  | _ => false

/-- A loopback device removed. -/
def Call.isDel : Call → Bool
  | .del _ => true
  | _ => false

-----------------------------------------------------------------------------------------
-- The two address families
-----------------------------------------------------------------------------------------

/-- configure() and setAddresses() work on IPv4, configure6() and setAddresses6() on IPv6. -/
inductive Family
  | v4
  | v6
  deriving DecidableEq, Repr

/-- The `v6` flag passed to Device and SetMTU. -/
def Family.isV6 : Family → Bool
  | .v4 => false
  | .v6 => true

/-- The VIPs the family ranges over: `b.config.Config` or `b.config.Config6`. -/
def Family.vips : Family → ClusterConfig → List String
  | .v4, config => config.config
  | .v6, config => config.config6

/-- The MTU map the family hands to SetMTU: `MTUConfig` or `MTUConfig6`. -/
def Family.mtu : Family → ClusterConfig → List (String × Nat)
  | .v4, config => config.mtuConfig
  | .v6, config => config.mtuConfig6

/-- The result of ipDevices.Get() the family keeps: the first or the second list. -/
def Family.observed : Family → List String → List String → List String
  | .v4, configured, _ => configured
  | .v6, _, configured => configured

/-- Compare4 or Compare6. -/
def Family.compare : Family → Helpers → List String → List String → List String × List String
  | .v4, helpers => helpers.compare4
  | .v6, helpers => helpers.compare6

-----------------------------------------------------------------------------------------
-- Desired devices
-----------------------------------------------------------------------------------------

/-- unicode.IsSpace: the runes strings.TrimSpace strips, Latin-1 spaces and the other
White_Space runes.
-/
def isSpace (c : Char) : Bool :=
  c.toNat ∈ [0x09, 0x0A, 0x0B, 0x0C, 0x0D, 0x20, 0x85, 0xA0, 0x1680, 0x2028, 0x2029, 0x202F,
    0x205F, 0x3000]
  || (0x2000 ≤ c.toNat && c.toNat ≤ 0x200A)

/-- `len(strings.TrimSpace(name)) > 0`: the name has a rune that is not white space. -/
def hasText (name : String) : Bool := name.data.any (!isSpace ·)

/-- The device names the loop over the family's VIPs appends to `desired`: a VIP whose
device name is blank is dropped.
-/
def desiredDevices (device : String → String) (vips : List String) : List String :=
  (vips.map device).filter hasText

/-- A Go `map[string]string` as the assignments made to it, newest first; a missing key
reads as the zero value "".
-/
abbrev AddrMap := List (String × String)

/-- `m[key]`: the newest assignment to `key`. -/
def AddrMap.get (m : AddrMap) (key : String) : String :=
  ((m.find? (·.1 = key)).map (·.2)).getD ""

/-- The map devToAddr the same loop fills: every VIP under its device name, blank names
included, a later VIP overwriting an earlier one.
-/
def devToAddr (device : String → String) (vips : List String) : AddrMap :=
  vips.foldl (fun m ip => (device ip, ip) :: m) []

/-- `desired` as setAddresses/setAddresses6 build it for the family. -/
def Family.desired (fam : Family) (helpers : Helpers) (config : ClusterConfig) : List String :=
  desiredDevices (helpers.device · fam.isV6) (fam.vips config)

/-- `devToAddr` as setAddresses/setAddresses6 build it for the family. -/
def Family.addrs (fam : Family) (helpers : Helpers) (config : ClusterConfig) : AddrMap :=
  devToAddr (helpers.device · fam.isV6) (fam.vips config)

/-- The calls of the Del loop and the Add loop of setAddresses/setAddresses6, in order:
`Del` on each removal, then `Add`/`Add6` of `devToAddr[device]` for each addition.
-/
def Family.diffCalls (fam : Family) (helpers : Helpers) (config : ClusterConfig)
    (configured : List String) : List Call :=
  let diff := fam.compare helpers configured (fam.desired helpers config)
  diff.1.map .del ++ (diff.2.map (fam.addrs helpers config).get).map (.add · fam.isV6)

end Ravel.Bgp

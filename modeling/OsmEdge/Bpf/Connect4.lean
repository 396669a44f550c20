import OsmEdge.Cni.PodConfig
import OsmEdge.Injector.Iptables

/-
  The eBPF `cgroup/connect4` program of the CNI mode (`bpf/osm_cni_grp_connect.c`, with the
  helpers of `bpf/headers/helpers.h`).

  A TCP `connect` of a meshed pod is seen here before the kernel routes it. An application's
  connection is redirected to the sidecar's outbound listener unless the pod's configuration
  in `osm_pod_fib` excludes its port or destination, or has inclusion lists that leave it
  out; the sidecar's own connections to another meshed pod go to that pod's inbound
  listener. The original destination is recorded in `osm_cki_fib` under the socket cookie.

  Addresses and ports in `bpf_sock_addr` are in network byte order, and the program converts
  them with `bpf_htonl`/`bpf_htons` before comparing them with the configuration, whose
  ports are plain numbers and whose networks are stored in network order
  (`Ipv4.networkOrder`), so the byte swaps cancel. The `IS_*` macros read an array up to its
  first zero entry (`anyBeforeZero`).

  What the model leaves out: `bpf_bind` of the pod address as the source (it only logs an
  error), and the debug output.

  The program and the iptables rules the injector generates (`OsmEdge.Injector`) read the
  same annotations and disagree on one the injector accepts: the injector trims every entry
  before parsing it, the pod watcher only before checking that it is not blank, so a port
  written after a comma and a space is excluded by the iptables rules but not by the
  program (`ebpf_redirects_spaced_exclusion`).
-/

namespace OsmEdge.Bpf

open OsmEdge.Cni Ipv4

/-- `OUT_REDIRECT_PORT`. -/
def OUT_REDIRECT_PORT : UInt16 := 15001
/-- `IN_REDIRECT_PORT`. -/
def IN_REDIRECT_PORT : UInt16 := 15003
/-- `SIDECAR_USER_ID`. -/
def SIDECAR_USER_ID : Nat := 1500

/-- `localhost`: 127.0.0.1 in network order. -/
def localhost : UInt32 := (127 : UInt32) + (1 : UInt32) <<< (24 : UInt32)

example : localhost = networkOrder (ofOctets 127 0 0 1) := by decide

/-! ## The helpers -/

/-- The loop of the `IS_*` macros: walk the array up to its first zero entry, and report
    whether an entry before it satisfies `p`. -/
def anyBeforeZero {α : Type} (isZero p : α → Bool) : List α → Bool
  | [] => false
  | x :: xs => if isZero x then false else if p x then true else anyBeforeZero isZero p xs

/-- `is_in_cidr`: compare the two addresses shifted right by `32 - mask`, as 32-bit values. -/
def is_in_cidr (c : cidr) (ip : UInt32) : Bool :=
  bswap32 c.net >>> (32 - c.mask.toUInt32) == bswap32 ip >>> (32 - c.mask.toUInt32)

/-- `IS_EXCLUDE_PORT`. -/
def IS_EXCLUDE_PORT (items : List.Vector UInt16 maxItemLen) (port : UInt16) : Bool :=
  anyBeforeZero (· == 0) (· == bswap16 port) items.toList

/-- `IS_EXCLUDE_IPRANGES`. -/
def IS_EXCLUDE_IPRANGES (items : List.Vector cidr maxItemLen) (ip : UInt32) : Bool :=
  anyBeforeZero (·.net == 0) (is_in_cidr · ip) items.toList

/-- `IS_INCLUDE_PORT`: an empty array includes every port. -/
def IS_INCLUDE_PORT (items : List.Vector UInt16 maxItemLen) (port : UInt16) : Bool :=
  if items.get ⟨0, by decide⟩ ≠ 0 then anyBeforeZero (· == 0) (· == bswap16 port) items.toList
  else true

/-- `IS_INCLUDE_IPRANGES`: an empty array includes every address. -/
def IS_INCLUDE_IPRANGES (items : List.Vector cidr maxItemLen) (ip : UInt32) : Bool :=
  if (items.get ⟨0, by decide⟩).net ≠ 0 then anyBeforeZero (·.net == 0) (is_in_cidr · ip) items.toList
  else true

/-! ## The program -/

/-- `origin_info`: the destination a redirected connection was meant for. -/
structure origin_info where
  ip : UInt32
  port : UInt16
  pid : UInt32
  flags : UInt16
  deriving DecidableEq

/-- The destination fields of `bpf_sock_addr`, in network byte order. -/
structure bpf_sock_addr where
  user_ip4 : UInt32
  user_port : UInt16
  deriving DecidableEq

/-- What `get_current_cgroup_info` finds for the calling cgroup: whether it is in the mesh
    and its pod address (`get_ipv4(cgroup_ip)`, network order, 0 when unknown). -/
structure cgroup_info where
  is_in_mesh : Bool
  cgroup_ip : UInt32

/-- The maps the program uses and its static counter `outip`. -/
structure BpfState where
  osm_pod_fib : UInt32 → Option podConfig
  osm_proc_fib : UInt32 → Option UInt32
  osm_cki_fib : UInt64 → Option origin_info
  outip : UInt32

/-- What the helpers report about the calling task: its cgroup (`none` when
    `get_current_cgroup_info` fails), `bpf_get_current_uid_gid() & 0xffffffff`, the thread
    group id, the socket cookie, and whether `osm_cki_fib` has room for a new entry. -/
structure Task where
  cgroup : Option cgroup_info
  uid : Nat
  tgid : UInt32
  cookie : UInt64
  ckiFibHasRoom : Bool

/-- The application branch once the pod's configuration has been consulted: redirect to the
    outbound listener on 127.0.0.1 unless the configuration lets the connection go. -/
def appDecision (pod : Option podConfig) (ctx : bpf_sock_addr) : Bool :=
  match pod with
  | none => true
  | some pod =>
    !IS_EXCLUDE_PORT pod.excludeOutPorts ctx.user_port &&
    !IS_EXCLUDE_IPRANGES pod.excludeOutRanges ctx.user_ip4 &&
    IS_INCLUDE_PORT pod.includeOutPorts ctx.user_port &&
    IS_INCLUDE_IPRANGES pod.includeOutRanges ctx.user_ip4

/-- `osm_cni_tcp_connect4`: the return code, the destination after rewriting, and the new
    state. -/
def osm_cni_tcp_connect4 (s : BpfState) (t : Task) (ctx : bpf_sock_addr) :
    Int × bpf_sock_addr × BpfState :=
  match t.cgroup with
  | none => (1, ctx, s)
  | some cg =>
    if !cg.is_in_mesh then (1, ctx, s) else
    let curr_pod_ip := cg.cgroup_ip
    let dst_ip := ctx.user_ip4
    if t.uid ≠ SIDECAR_USER_ID then
      -- app -> local: bypass
      if dst_ip &&& 0xff = 0x7f then (1, ctx, s) else
      let origin : origin_info := { ip := dst_ip, port := ctx.user_port, pid := 0, flags := 1 }
      if !t.ckiFibHasRoom then (0, ctx, s) else
      let s := { s with osm_cki_fib := Function.update s.osm_cki_fib t.cookie (some origin) }
      if curr_pod_ip ≠ 0 then
        if appDecision (s.osm_pod_fib curr_pod_ip) ctx then
          (1, { user_ip4 := localhost, user_port := bswap16 OUT_REDIRECT_PORT }, s)
        else (1, ctx, s)
      else
        -- no pod address: a fresh address of 127.128.0.0/20
        let user_ip4 := bswap32 (0x7f800000 ||| s.outip)
        let outip := if (s.outip + 1) >>> 20 ≠ 0 then 1 else s.outip + 1
        (1, { user_ip4 := user_ip4, user_port := bswap16 OUT_REDIRECT_PORT }, { s with outip := outip })
    else
      -- from the sidecar: only connections to a meshed pod of this node are touched
      match s.osm_pod_fib dst_ip with
      | none => (1, ctx, s)
      | some pod =>
        let origin : origin_info := { ip := dst_ip, port := ctx.user_port, pid := 0, flags := 0 }
        let step : Option (bpf_sock_addr × origin_info) :=
          if curr_pod_ip ≠ 0 then
            if curr_pod_ip ≠ dst_ip then
              if IS_EXCLUDE_PORT pod.excludeInPorts ctx.user_port then none
              else if !IS_INCLUDE_PORT pod.includeInPorts ctx.user_port then none
              else some ({ ctx with user_port := bswap16 IN_REDIRECT_PORT }, { origin with flags := 1 })
            else some (ctx, { origin with flags := 1 })
          else
            match s.osm_proc_fib t.tgid with
            | some curr_ip =>
              some (if curr_ip ≠ dst_ip then { ctx with user_port := bswap16 IN_REDIRECT_PORT } else ctx,
                { origin with pid := t.tgid })
            | none => some ({ ctx with user_port := bswap16 IN_REDIRECT_PORT }, { origin with pid := t.tgid })
        match step with
        | none => (1, ctx, s)
        | some (ctx', origin') =>
          -- `BPF_NOEXIST`
          if t.ckiFibHasRoom && (s.osm_cki_fib t.cookie).isNone then
            (1, ctx', { s with osm_cki_fib := Function.update s.osm_cki_fib t.cookie (some origin') })
          else (0, ctx', s)

/-! ## Against the iptables rules -/

open Netfilter OsmEdge.Injector

/-- A pod that excludes ports 80 and 443 from interception, written with a space after the
    comma. -/
def spacedPortsPod : Pod where
  PodIP := "10.0.0.5"
  Labels := (∅ : AList fun _ : String => String).insert "osm-proxy-uuid" "a1"
  Annotations := (∅ : Annotations).insert OutboundPortExclusionListAnnotation "80, 443"

/-- The maps after `addFunc` stored that pod. -/
def spacedPortsState : BpfState where
  osm_pod_fib := addFunc (fun _ => none) spacedPortsPod
  osm_proc_fib := fun _ => none
  osm_cki_fib := fun _ => none
  outip := 1

/-- The application of that pod (not the sidecar's UID). -/
def spacedPortsApp : Task where
  cgroup := some { is_in_mesh := true, cgroup_ip := networkOrder (ofOctets 10 0 0 5) }
  uid := 1000
  tgid := 42
  cookie := 7
  ckiFibHasRoom := true

/-- The same connection to 10.96.0.10:443, as iptables sees it leaving by `eth0`. -/
def spacedPortsPacket : Packet where
  protocol := .tcp
  inInterface := none
  outInterface := some "eth0"
  destination := ofOctets 10 96 0 10
  dport := 443
  uid := some 1000

/-- The injector accepts `"80, 443"` and excludes port 443, so the iptables rules let a
    connection to port 443 go; the pod watcher drops `" 443"`, so the eBPF program redirects
    the same connection to the sidecar. -/
theorem ebpf_redirects_spaced_exclusion {eval : Chain → Outcome NatTarget}
    (heval : Walks Match.matches spacedPortsPacket
      (natTable .Localhost false [] [] [80, 443] [] []) eval) :
    GetPortExclusionListForPod spacedPortsPod.Annotations OutboundPortExclusionListAnnotation =
        .ok [80, 443] ∧
      (osm_cni_tcp_connect4 spacedPortsState spacedPortsApp
          { user_ip4 := networkOrder (ofOctets 10 96 0 10), user_port := bswap16 443 }).2.1 =
        { user_ip4 := localhost, user_port := bswap16 OUT_REDIRECT_PORT } ∧
      eval .OUTPUT ≠ .decided (.REDIRECT OsmEdge.Constants.SidecarOutboundListenerPort) := by
  refine ⟨by decide, by decide, ?_⟩
  -- OUTPUT jumps to OSM_PROXY_OUTBOUND, which returns at the excluded port
  have hw : walk Match.matches spacedPortsPacket (natTable .Localhost false [] [] [80, 443] [] [])
      3 .OUTPUT = .next := by decide
  rw [eq_of_walks_of_walk heval hw (by decide)]
  decide

theorem ebpf_redirects_spaced_exclusion_walk :
    Walks Match.matches spacedPortsPacket (natTable .Localhost false [] [] [80, 443] [] [])
        (walk Match.matches spacedPortsPacket (natTable .Localhost false [] [] [80, 443] [] []) 3) ∧
      GetPortExclusionListForPod spacedPortsPod.Annotations OutboundPortExclusionListAnnotation =
        .ok [80, 443] ∧
      (osm_cni_tcp_connect4 spacedPortsState spacedPortsApp
          { user_ip4 := networkOrder (ofOctets 10 96 0 10), user_port := bswap16 443 }).2.1 =
        { user_ip4 := localhost, user_port := bswap16 OUT_REDIRECT_PORT } ∧
      walk Match.matches spacedPortsPacket (natTable .Localhost false [] [] [80, 443] [] []) 3
        .OUTPUT ≠ .decided (.REDIRECT OsmEdge.Constants.SidecarOutboundListenerPort) := by
  have hwalks : Walks Match.matches spacedPortsPacket
      (natTable .Localhost false [] [] [80, 443] [] [])
      (walk Match.matches spacedPortsPacket (natTable .Localhost false [] [] [80, 443] [] []) 3) :=
    walks_walk fun c => by cases c <;> decide
  exact ⟨hwalks, ebpf_redirects_spaced_exclusion hwalks⟩

end OsmEdge.Bpf

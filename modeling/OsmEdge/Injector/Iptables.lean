import OsmEdge.Lib.Netfilter
import OsmEdge.Lib.Ipv4
import OsmEdge.Constants

/-
  The sidecar's traffic interception rules (`pkg/injector/iptables.go`).

  `GenerateIptablesCommands` writes the `iptables-restore` script the pod's init container
  runs. Each rule line is a `Netfilter.Command` over the matches and targets these lines
  use; `renderCommand` prints it as the source spells it, and the script is the rendered
  lines between the source's header and `COMMIT`. What the script means is the nat table
  `Netfilter.build` loads from the same commands, with `Match.matches` for its matches; the
  results hold for every outcome of the table that obeys the kernel's walk
  (`Netfilter.Walks`), of which `Netfilter.walk` with enough fuel is one.

  Proved here, for every proxy mode, DNS flag and exclusion and inclusion list:
  * `outbound_redirect_iff`: a TCP packet an application (any UID but the sidecar's) sends
    out of an interface other than `lo` is redirected to the sidecar's outbound listener
    iff its destination is not 127.0.0.1, the interface matches no excluded interface, the
    destination is in no excluded range, the port is not excluded, and the inclusion list
    is empty or contains the destination;
  * `inbound_redirect_iff`: an inbound TCP packet is redirected to the inbound listener
    iff its interface is not excluded and its port is neither excluded nor one of the
    Prometheus, probe and health-check ports;
  * `multiport_rejected`: a port exclusion list of more than 15 ports gives a `multiport`
    rule that `iptables-restore` refuses, so none of the script is loaded.
-/

namespace OsmEdge.Injector

open Netfilter OsmEdge.Constants

/-! ## Rules -/

/-- `configv1alpha2.LocalProxyMode`. -/
inductive LocalProxyMode where
  | Localhost
  | PodIP
  deriving DecidableEq

/-- The chains of the nat table the rules use. -/
inductive Chain where
  | PREROUTING
  | OUTPUT
  | OSM_PROXY_INBOUND
  | OSM_PROXY_IN_REDIRECT
  | OSM_PROXY_OUTBOUND
  | OSM_PROXY_OUT_REDIRECT
  deriving DecidableEq

def Chain.name : Chain → String
  | .PREROUTING => "PREROUTING"
  | .OUTPUT => "OUTPUT"
  | .OSM_PROXY_INBOUND => "OSM_PROXY_INBOUND"
  | .OSM_PROXY_IN_REDIRECT => "OSM_PROXY_IN_REDIRECT"
  | .OSM_PROXY_OUTBOUND => "OSM_PROXY_OUTBOUND"
  | .OSM_PROXY_OUT_REDIRECT => "OSM_PROXY_OUT_REDIRECT"

/-- The protocols of `-p`. -/
inductive Protocol where
  | tcp
  | udp
  deriving DecidableEq

def Protocol.name : Protocol → String
  | .tcp => "tcp"
  | .udp => "udp"

/-- The terminal targets the rules use. -/
inductive NatTarget where
  | ACCEPT
  | REDIRECT (toPort : Nat)
  | DNAT (toDestination : String)
  deriving DecidableEq

/-- The match options of the rules, in the order the source writes them:
    `-p`, `-i`, `-o`, `[!] -d`, `-m owner [!] --uid-owner`, `--dport`,
    `--match multiport --dports`. A `true` flag is a `!`. -/
structure Match where
  protocol : Option Protocol := none
  inInterface : Option String := none
  outInterface : Option String := none
  destination : Option (Bool × String) := none
  uidOwner : Option (Bool × Nat) := none
  dport : Option Nat := none
  dports : Option (List Int) := none
  deriving DecidableEq

abbrev Rule := Netfilter.Rule Chain Match NatTarget
abbrev Command := Netfilter.Command Chain Match NatTarget

/-! ## The text of a rule -/

def NatTarget.render : NatTarget → String
  | .ACCEPT => "ACCEPT"
  | .REDIRECT p => "REDIRECT --to-port " ++ toString p
  | .DNAT d => "DNAT --to-destination " ++ d

def renderTarget : Target Chain NatTarget → String
  | .ret => "RETURN"
  | .verdict t => t.render
  | .jump c => c.name

def Match.render (m : Match) : String :=
  m.protocol.elim "" (fun p => " -p " ++ p.name) ++
  m.inInterface.elim "" (fun i => " -i " ++ i) ++
  m.outInterface.elim "" (fun o => " -o " ++ o) ++
  m.destination.elim "" (fun d => (if d.1 then " !" else "") ++ " -d " ++ d.2) ++
  m.uidOwner.elim "" (fun u => " -m owner" ++ (if u.1 then " !" else "") ++ " --uid-owner " ++
    toString u.2) ++
  m.dport.elim "" (fun d => " --dport " ++ toString d) ++
  m.dports.elim "" (fun ps => " --match multiport --dports " ++
    ",".intercalate (ps.map toString))

def renderCommand : Command → String
  | .append c r => "-A " ++ c.name ++ r.m.render ++ " -j " ++ renderTarget r.target
  | .insert c r => "-I " ++ c.name ++ r.m.render ++ " -j " ++ renderTarget r.target

/-! ## The static rules -/

/-- `iptablesOutboundStaticRules`. -/
def iptablesOutboundStaticRules : List Command :=
  [.append .OSM_PROXY_OUT_REDIRECT
      ⟨{ protocol := some .tcp }, .verdict (.REDIRECT SidecarOutboundListenerPort)⟩,
    .append .OSM_PROXY_OUT_REDIRECT
      ⟨{ protocol := some .tcp, dport := some SidecarAdminPort }, .verdict .ACCEPT⟩,
    .append .OUTPUT ⟨{ protocol := some .tcp }, .jump .OSM_PROXY_OUTBOUND⟩,
    .append .OSM_PROXY_OUTBOUND
      ⟨{ outInterface := some "lo", destination := some (true, "127.0.0.1/32"),
          uidOwner := some (false, SidecarUID) }, .jump .OSM_PROXY_IN_REDIRECT⟩,
    .append .OSM_PROXY_OUTBOUND
      ⟨{ outInterface := some "lo", uidOwner := some (true, SidecarUID) }, .ret⟩,
    .append .OSM_PROXY_OUTBOUND ⟨{ uidOwner := some (false, SidecarUID) }, .ret⟩,
    .append .OSM_PROXY_OUTBOUND ⟨{ destination := some (false, "127.0.0.1/32") }, .ret⟩]

example : iptablesOutboundStaticRules.map renderCommand =
    ["-A OSM_PROXY_OUT_REDIRECT -p tcp -j REDIRECT --to-port 15001",
      "-A OSM_PROXY_OUT_REDIRECT -p tcp --dport 15000 -j ACCEPT",
      "-A OUTPUT -p tcp -j OSM_PROXY_OUTBOUND",
      "-A OSM_PROXY_OUTBOUND -o lo ! -d 127.0.0.1/32 -m owner --uid-owner 1500 -j OSM_PROXY_IN_REDIRECT",
      "-A OSM_PROXY_OUTBOUND -o lo -m owner ! --uid-owner 1500 -j RETURN",
      "-A OSM_PROXY_OUTBOUND -m owner --uid-owner 1500 -j RETURN",
      "-A OSM_PROXY_OUTBOUND -d 127.0.0.1/32 -j RETURN"] := by decide

/-- `iptablesDNSOutboundStaticRules`. -/
def iptablesDNSOutboundStaticRules : List Command :=
  [.append .OUTPUT
    ⟨{ protocol := some .udp, destination := some (false, "127.0.0.153"), dport := some 53 },
      .verdict (.DNAT "127.0.0.153:5300")⟩]

/-- The ports `iptablesInboundStaticRules` lets through to the application. -/
def inboundStaticPorts : List Nat :=
  [SidecarPrometheusInboundListenerPort, LivenessProbePort, ReadinessProbePort, StartupProbePort,
    HealthcheckPort]

/-- `iptablesInboundStaticRules`. -/
def iptablesInboundStaticRules : List Command :=
  [.append .OSM_PROXY_IN_REDIRECT
      ⟨{ protocol := some .tcp }, .verdict (.REDIRECT SidecarInboundListenerPort)⟩,
    .append .PREROUTING ⟨{ protocol := some .tcp }, .jump .OSM_PROXY_INBOUND⟩] ++
  inboundStaticPorts.map (fun port =>
    .append .OSM_PROXY_INBOUND ⟨{ protocol := some .tcp, dport := some port }, .ret⟩) ++
  [.append .OSM_PROXY_INBOUND ⟨{ protocol := some .tcp }, .jump .OSM_PROXY_IN_REDIRECT⟩]

example : iptablesInboundStaticRules.map renderCommand =
    ["-A OSM_PROXY_IN_REDIRECT -p tcp -j REDIRECT --to-port 15003",
      "-A PREROUTING -p tcp -j OSM_PROXY_INBOUND",
      "-A OSM_PROXY_INBOUND -p tcp --dport 15010 -j RETURN",
      "-A OSM_PROXY_INBOUND -p tcp --dport 15901 -j RETURN",
      "-A OSM_PROXY_INBOUND -p tcp --dport 15902 -j RETURN",
      "-A OSM_PROXY_INBOUND -p tcp --dport 15903 -j RETURN",
      "-A OSM_PROXY_INBOUND -p tcp --dport 15904 -j RETURN",
      "-A OSM_PROXY_INBOUND -p tcp -j OSM_PROXY_IN_REDIRECT"] := by decide

/-! ## GenerateIptablesCommands -/

section generate

variable (proxyMode : LocalProxyMode) (enabledDNSProxy : Bool)
  (outboundIPRangeExclusionList outboundIPRangeInclusionList : List String)
  (outboundPortExclusionList inboundPortExclusionList : List Int)
  (networkInterfaceExclusionList : List String)

/-- The `cmds` of `GenerateIptablesCommands`, in the order the source appends them. -/
def iptablesCmds : List Command :=
  -- 1. inbound rules, and the interface exclusions inserted before them
  iptablesInboundStaticRules ++
  networkInterfaceExclusionList.map (fun iface =>
    .insert .OSM_PROXY_INBOUND ⟨{ inInterface := some iface }, .ret⟩) ++
  -- 2. inbound port exclusions
  (if inboundPortExclusionList.length > 0 then
    [.insert .OSM_PROXY_INBOUND
      ⟨{ protocol := some .tcp, dports := some inboundPortExclusionList }, .ret⟩]
  else []) ++
  -- 3. outbound rules
  iptablesOutboundStaticRules ++
  (if enabledDNSProxy then iptablesDNSOutboundStaticRules else []) ++
  (if proxyMode = .PodIP then
    [.insert .OUTPUT
      ⟨{ protocol := some .tcp, outInterface := some "lo",
         destination := some (false, "127.0.0.1/32"), uidOwner := some (false, SidecarUID) },
        .verdict (.DNAT "$POD_IP")⟩]
  else []) ++
  networkInterfaceExclusionList.map (fun iface =>
    .append .OSM_PROXY_OUTBOUND ⟨{ outInterface := some iface }, .ret⟩) ++
  -- 4. outbound IP range exclusions
  outboundIPRangeExclusionList.map (fun cidr =>
    .append .OSM_PROXY_OUTBOUND ⟨{ destination := some (false, cidr) }, .ret⟩) ++
  -- 5. outbound port exclusions
  (if outboundPortExclusionList.length > 0 then
    [.append .OSM_PROXY_OUTBOUND
      ⟨{ protocol := some .tcp, dports := some outboundPortExclusionList }, .ret⟩]
  else []) ++
  -- 6. outbound IP range inclusions
  (if outboundIPRangeInclusionList.length > 0 then
    outboundIPRangeInclusionList.map (fun cidr =>
      .append .OSM_PROXY_OUTBOUND
        ⟨{ destination := some (false, cidr) }, .jump .OSM_PROXY_OUT_REDIRECT⟩) ++
    [.append .OSM_PROXY_OUTBOUND ⟨{}, .ret⟩]
  else [.append .OSM_PROXY_OUTBOUND ⟨{}, .jump .OSM_PROXY_OUT_REDIRECT⟩])

/-- The header `GenerateIptablesCommands` prints before the rules. -/
def iptablesHeader : String :=
  "# OSM sidecar interception rules\n*nat\n:OSM_PROXY_INBOUND - [0:0]\n" ++
  ":OSM_PROXY_IN_REDIRECT - [0:0]\n:OSM_PROXY_OUTBOUND - [0:0]\n:OSM_PROXY_OUT_REDIRECT - [0:0]"

/-- `GenerateIptablesCommands`: the shell command the init container runs. -/
def GenerateIptablesCommands : String :=
  let rules := iptablesHeader ++ "\n" ++
    String.join ((iptablesCmds proxyMode enabledDNSProxy outboundIPRangeExclusionList
      outboundIPRangeInclusionList outboundPortExclusionList inboundPortExclusionList
      networkInterfaceExclusionList).map fun rule => renderCommand rule ++ "\n") ++ "COMMIT"
  "iptables-restore --noflush <<EOF\n" ++ rules ++ "\nEOF\n"

end generate

/-! ## What the rules do with a packet -/

/-- What the rules look at in a packet. The kernel knows the input interface of an arriving
    packet (`PREROUTING`), and the output interface and the owner of the sending socket of a
    locally generated one (`OUTPUT`). -/
structure Packet where
  protocol : Protocol
  inInterface : Option String
  outInterface : Option String
  destination : UInt32
  dport : Nat
  uid : Option Nat

/-- `-i`/`-o NAME`: the interface is `NAME`, or starts with `NAME` without its final `+`. -/
def interfaceMatches (pattern name : String) : Bool :=
  match pattern.toList.reverse with
  | '+' :: rest => rest.reverse.isPrefixOf name.toList
  | _ => pattern == name

/-- `xt_owner` on a `--uid-owner` option: a packet without a socket matches only the
    negated form. -/
def uidOwnerMatches (u : Bool × Nat) : Option Nat → Bool
  | some uid => u.1 != (uid == u.2)
  | none => u.1

/-- The packet satisfies every option of the match. -/
def Match.matches (m : Match) (p : Packet) : Bool :=
  m.protocol.all (· == p.protocol) &&
  m.inInterface.all (fun i => p.inInterface.any (interfaceMatches i)) &&
  m.outInterface.all (fun o => p.outInterface.any (interfaceMatches o)) &&
  m.destination.all (fun d => d.1 != Ipv4.networkContains d.2.toList p.destination) &&
  m.uidOwner.all (uidOwnerMatches · p.uid) &&
  m.dport.all (· == p.dport) &&
  m.dports.all (fun ps => ps.contains (p.dport : Int))

section matching

variable {p : Packet}

theorem Match.matches_def (m : Match) :
    m.matches p =
      (m.protocol.all (· == p.protocol) &&
      m.inInterface.all (fun i => p.inInterface.any (interfaceMatches i)) &&
      m.outInterface.all (fun o => p.outInterface.any (interfaceMatches o)) &&
      m.destination.all (fun d => d.1 != Ipv4.networkContains d.2.toList p.destination) &&
      m.uidOwner.all (uidOwnerMatches · p.uid) &&
      m.dport.all (· == p.dport) &&
      m.dports.all (fun ps => ps.contains (p.dport : Int))) :=
  rfl

@[simp] theorem matches_empty : ({} : Match).matches p = true := rfl

@[simp] theorem matches_destination (s : String) :
    ({ destination := some (false, s) } : Match).matches p =
      Ipv4.networkContains s.toList p.destination := by
  simp [Match.matches_def]

@[simp] theorem matches_outInterface (i : String) :
    ({ outInterface := some i } : Match).matches p = p.outInterface.any (interfaceMatches i) := by
  simp [Match.matches_def]

@[simp] theorem matches_inInterface (i : String) :
    ({ inInterface := some i } : Match).matches p = p.inInterface.any (interfaceMatches i) := by
  simp [Match.matches_def]

theorem interfaceMatches_lo (name : String) : interfaceMatches "lo" name = ("lo" == name) := rfl

end matching

/-- The address `127.0.0.1`. -/
def localhost : UInt32 := Ipv4.ofOctets 127 0 0 1

theorem networkContains_localhost (ip : UInt32) :
    Ipv4.networkContains "127.0.0.1/32".toList ip = (ip == localhost) := by
  have h : Ipv4.parseNetwork "127.0.0.1/32".toList = some (localhost, 32) := by decide
  rw [Ipv4.networkContains, h]
  simp [Ipv4.inPrefix_32]

/-! ## The chains the script loads -/

section chains

variable (proxyMode : LocalProxyMode) (enabledDNSProxy : Bool)
  (outboundIPRangeExclusionList outboundIPRangeInclusionList : List String)
  (outboundPortExclusionList inboundPortExclusionList : List Int)
  (networkInterfaceExclusionList : List String)

/-- The nat table `GenerateIptablesCommands` loads. -/
def natTable : Table Chain Match NatTarget :=
  build (iptablesCmds proxyMode enabledDNSProxy outboundIPRangeExclusionList
    outboundIPRangeInclusionList outboundPortExclusionList inboundPortExclusionList
    networkInterfaceExclusionList)

theorem natTable_OUTPUT :
    natTable proxyMode enabledDNSProxy outboundIPRangeExclusionList outboundIPRangeInclusionList
        outboundPortExclusionList inboundPortExclusionList networkInterfaceExclusionList
        .OUTPUT =
      (if proxyMode = .PodIP then
        [⟨{ protocol := some .tcp, outInterface := some "lo",
            destination := some (false, "127.0.0.1/32"), uidOwner := some (false, SidecarUID) },
          .verdict (.DNAT "$POD_IP")⟩]
      else []) ++
      [⟨{ protocol := some .tcp }, .jump .OSM_PROXY_OUTBOUND⟩] ++
      (if enabledDNSProxy then
        [⟨{ protocol := some .udp, destination := some (false, "127.0.0.153"), dport := some 53 },
          .verdict (.DNAT "127.0.0.153:5300")⟩]
      else []) := by
  rw [natTable, build_apply]
  delta iptablesCmds
  simp only [inserted_append, appended_append, apply_ite (inserted Chain.OUTPUT),
    apply_ite (appended Chain.OUTPUT), inserted_map_insert, inserted_map_append,
    appended_map_insert, appended_map_append]
  delta iptablesInboundStaticRules iptablesOutboundStaticRules iptablesDNSOutboundStaticRules
  simp [inserted_cons_insert, inserted_cons_append, appended_cons_append, appended_cons_insert]
  split <;> rfl

theorem natTable_OSM_PROXY_OUTBOUND :
    natTable proxyMode enabledDNSProxy outboundIPRangeExclusionList outboundIPRangeInclusionList
        outboundPortExclusionList inboundPortExclusionList networkInterfaceExclusionList
        .OSM_PROXY_OUTBOUND =
      [⟨{ outInterface := some "lo", destination := some (true, "127.0.0.1/32"),
          uidOwner := some (false, SidecarUID) }, .jump .OSM_PROXY_IN_REDIRECT⟩,
        ⟨{ outInterface := some "lo", uidOwner := some (true, SidecarUID) }, .ret⟩,
        ⟨{ uidOwner := some (false, SidecarUID) }, .ret⟩,
        ⟨{ destination := some (false, "127.0.0.1/32") }, .ret⟩] ++
      networkInterfaceExclusionList.map (fun iface => ⟨{ outInterface := some iface }, .ret⟩) ++
      outboundIPRangeExclusionList.map (fun cidr => ⟨{ destination := some (false, cidr) }, .ret⟩) ++
      (if outboundPortExclusionList.length > 0 then
        [⟨{ protocol := some .tcp, dports := some outboundPortExclusionList }, .ret⟩]
      else []) ++
      (if outboundIPRangeInclusionList.length > 0 then
        outboundIPRangeInclusionList.map (fun cidr =>
          ⟨{ destination := some (false, cidr) }, .jump .OSM_PROXY_OUT_REDIRECT⟩) ++ [⟨{}, .ret⟩]
      else [⟨{}, .jump .OSM_PROXY_OUT_REDIRECT⟩]) := by
  rw [natTable, build_apply]
  delta iptablesCmds
  simp only [inserted_append, appended_append,
    apply_ite (inserted Chain.OSM_PROXY_OUTBOUND), apply_ite (appended Chain.OSM_PROXY_OUTBOUND),
    inserted_map_insert, inserted_map_append, appended_map_insert, appended_map_append]
  delta iptablesInboundStaticRules iptablesOutboundStaticRules iptablesDNSOutboundStaticRules
  simp [inserted_cons_insert, inserted_cons_append, appended_cons_append, appended_cons_insert]

theorem natTable_OSM_PROXY_OUT_REDIRECT :
    natTable proxyMode enabledDNSProxy outboundIPRangeExclusionList outboundIPRangeInclusionList
        outboundPortExclusionList inboundPortExclusionList networkInterfaceExclusionList
        .OSM_PROXY_OUT_REDIRECT =
      [⟨{ protocol := some .tcp }, .verdict (.REDIRECT SidecarOutboundListenerPort)⟩,
        ⟨{ protocol := some .tcp, dport := some SidecarAdminPort }, .verdict .ACCEPT⟩] := by
  rw [natTable, build_apply]
  delta iptablesCmds
  simp only [inserted_append, appended_append,
    apply_ite (inserted Chain.OSM_PROXY_OUT_REDIRECT),
    apply_ite (appended Chain.OSM_PROXY_OUT_REDIRECT), inserted_map_insert, inserted_map_append,
    appended_map_insert, appended_map_append]
  delta iptablesInboundStaticRules iptablesOutboundStaticRules iptablesDNSOutboundStaticRules
  simp [inserted_cons_insert, inserted_cons_append, appended_cons_append, appended_cons_insert]

theorem natTable_PREROUTING :
    natTable proxyMode enabledDNSProxy outboundIPRangeExclusionList outboundIPRangeInclusionList
        outboundPortExclusionList inboundPortExclusionList networkInterfaceExclusionList
        .PREROUTING =
      [⟨{ protocol := some .tcp }, .jump .OSM_PROXY_INBOUND⟩] := by
  rw [natTable, build_apply]
  delta iptablesCmds
  simp only [inserted_append, appended_append, apply_ite (inserted Chain.PREROUTING),
    apply_ite (appended Chain.PREROUTING), inserted_map_insert, inserted_map_append,
    appended_map_insert, appended_map_append]
  delta iptablesInboundStaticRules iptablesOutboundStaticRules iptablesDNSOutboundStaticRules
  simp [inserted_cons_insert, inserted_cons_append, appended_cons_append, appended_cons_insert]

theorem natTable_OSM_PROXY_INBOUND :
    natTable proxyMode enabledDNSProxy outboundIPRangeExclusionList outboundIPRangeInclusionList
        outboundPortExclusionList inboundPortExclusionList networkInterfaceExclusionList
        .OSM_PROXY_INBOUND =
      (if inboundPortExclusionList.length > 0 then
        [⟨{ protocol := some .tcp, dports := some inboundPortExclusionList }, .ret⟩]
      else []) ++
      (networkInterfaceExclusionList.map fun iface => ⟨{ inInterface := some iface }, .ret⟩).reverse ++
      inboundStaticPorts.map (fun port => ⟨{ protocol := some .tcp, dport := some port }, .ret⟩) ++
      [⟨{ protocol := some .tcp }, .jump .OSM_PROXY_IN_REDIRECT⟩] := by
  rw [natTable, build_apply]
  delta iptablesCmds
  simp only [inserted_append, appended_append,
    apply_ite (inserted Chain.OSM_PROXY_INBOUND), apply_ite (appended Chain.OSM_PROXY_INBOUND),
    inserted_map_insert, inserted_map_append, appended_map_insert, appended_map_append]
  delta iptablesInboundStaticRules iptablesOutboundStaticRules iptablesDNSOutboundStaticRules
  simp [inserted_cons_insert, inserted_cons_append, appended_cons_append, appended_cons_insert]
  split <;> rfl

theorem natTable_OSM_PROXY_IN_REDIRECT :
    natTable proxyMode enabledDNSProxy outboundIPRangeExclusionList outboundIPRangeInclusionList
        outboundPortExclusionList inboundPortExclusionList networkInterfaceExclusionList
        .OSM_PROXY_IN_REDIRECT =
      [⟨{ protocol := some .tcp }, .verdict (.REDIRECT SidecarInboundListenerPort)⟩] := by
  rw [natTable, build_apply]
  delta iptablesCmds
  simp only [inserted_append, appended_append,
    apply_ite (inserted Chain.OSM_PROXY_IN_REDIRECT),
    apply_ite (appended Chain.OSM_PROXY_IN_REDIRECT), inserted_map_insert, inserted_map_append,
    appended_map_insert, appended_map_append]
  delta iptablesInboundStaticRules iptablesOutboundStaticRules iptablesDNSOutboundStaticRules
  simp [inserted_cons_insert, inserted_cons_append, appended_cons_append, appended_cons_insert]

end chains

/-! ## Where a packet goes -/

section blocks

variable {p : Packet} (call : Chain → Outcome NatTarget)

/-- The loopback and sidecar rules at the head of `OSM_PROXY_OUTBOUND`: for an application's
    packet leaving by another interface, only the rule for 127.0.0.1 acts. -/
theorem walkRules_outboundStatic {o : String} {u : Nat} (ho : p.outInterface = some o)
    (hlo : o ≠ "lo") (hu : p.uid = some u) (hs : u ≠ SidecarUID) :
    walkRules Match.matches p call
        [⟨{ outInterface := some "lo", destination := some (true, "127.0.0.1/32"),
            uidOwner := some (false, SidecarUID) }, .jump .OSM_PROXY_IN_REDIRECT⟩,
          ⟨{ outInterface := some "lo", uidOwner := some (true, SidecarUID) }, .ret⟩,
          ⟨{ uidOwner := some (false, SidecarUID) }, .ret⟩,
          ⟨{ destination := some (false, "127.0.0.1/32") }, .ret⟩] =
      if p.destination = localhost then .ret else .next := by
  have hlo' : ("lo" == o) = false := by simpa using Ne.symm hlo
  -- the jump to `OSM_PROXY_IN_REDIRECT` is for packets leaving by `lo`
  rw [walkRules_cons_of_not_sat _ _ (by simp [Match.matches_def, ho, interfaceMatches_lo, hlo'])]
  simp only [walkRules_cons_ret_ite, walkRules_nil, Match.matches_def, ho, hu, Option.all_some,
    Option.any_some, interfaceMatches_lo, hlo', networkContains_localhost, uidOwnerMatches]
  by_cases hd : p.destination = localhost <;> simp [hd, hs]

/-- A port exclusion rule: a TCP packet to one of the ports returns. -/
theorem walkRules_portExclusion (hp : p.protocol = .tcp) (ps : List Int) :
    walkRules Match.matches p call
        (if ps.length > 0 then [⟨{ protocol := some .tcp, dports := some ps }, .ret⟩] else []) =
      if (p.dport : Int) ∈ ps then .ret else .next := by
  split
  · by_cases h : (p.dport : Int) ∈ ps <;> simp [walkRules_cons_ret_ite, Match.matches_def, hp, h]
  · rename_i hlen
    have hnil : ps = [] := List.eq_nil_of_length_eq_zero (by omega)
    simp [hnil]

/-- The inclusion rules end `OSM_PROXY_OUTBOUND`: with no inclusion list everything left is
    redirected, with one only the destinations it contains are, and the rest returns. -/
theorem walkRules_inclusions
    (hred : call .OSM_PROXY_OUT_REDIRECT = .decided (.REDIRECT SidecarOutboundListenerPort))
    (incl : List String) :
    walkRules Match.matches p call
        (if incl.length > 0 then
          incl.map (fun cidr =>
            ⟨{ destination := some (false, cidr) }, .jump .OSM_PROXY_OUT_REDIRECT⟩) ++ [⟨{}, .ret⟩]
        else [⟨{}, .jump .OSM_PROXY_OUT_REDIRECT⟩]) =
      if incl = [] ∨ ∃ s ∈ incl, Ipv4.networkContains s.toList p.destination = true then
        .decided (.REDIRECT SidecarOutboundListenerPort)
      else .ret := by
  split
  · rename_i hlen
    have hne : incl ≠ [] := List.ne_nil_of_length_pos hlen
    rw [walkRules_append, walkRules_jumps _ _ _ hred]
    by_cases h : ∃ s ∈ incl, Ipv4.networkContains s.toList p.destination = true
    · simp [h]
    · simp [h, hne, walkRules_cons_ret_ite]
  · rename_i hlen
    have hnil : incl = [] := List.eq_nil_of_length_eq_zero (by omega)
    rw [walkRules_cons_jump_of_decided _ matches_empty hred]
    simp [hnil]

end blocks

section walks

variable (proxyMode : LocalProxyMode) (enabledDNSProxy : Bool)
  (outboundIPRangeExclusionList outboundIPRangeInclusionList : List String)
  (outboundPortExclusionList inboundPortExclusionList : List Int)
  (networkInterfaceExclusionList : List String)
variable {p : Packet}

/-- Every TCP packet that reaches `OSM_PROXY_OUT_REDIRECT` is redirected to the outbound
    listener; the `ACCEPT` rule for the admin port after the first rule is never reached. -/
theorem walk_OSM_PROXY_OUT_REDIRECT (hp : p.protocol = .tcp) (n : Nat) :
    walk Match.matches p (natTable proxyMode enabledDNSProxy outboundIPRangeExclusionList
        outboundIPRangeInclusionList outboundPortExclusionList inboundPortExclusionList
        networkInterfaceExclusionList) (n + 1) .OSM_PROXY_OUT_REDIRECT =
      .decided (.REDIRECT SidecarOutboundListenerPort) := by
  rw [walk, natTable_OSM_PROXY_OUT_REDIRECT]
  exact walkRules_cons_verdict _ (by simp [Match.matches_def, hp]) _ _

/-- An application's TCP packet leaving by an interface other than `lo` returns from
    `OSM_PROXY_OUTBOUND` at the first block whose match accepts it, and is redirected if none
    does and the inclusion rules let it through. -/
theorem walk_OSM_PROXY_OUTBOUND {o : String} {u : Nat} (hp : p.protocol = .tcp)
    (ho : p.outInterface = some o) (hlo : o ≠ "lo") (hu : p.uid = some u) (hs : u ≠ SidecarUID)
    (n : Nat) :
    walk Match.matches p (natTable proxyMode enabledDNSProxy outboundIPRangeExclusionList
        outboundIPRangeInclusionList outboundPortExclusionList inboundPortExclusionList
        networkInterfaceExclusionList) (n + 2) .OSM_PROXY_OUTBOUND =
      if p.destination = localhost then .ret
      else if ∃ x ∈ networkInterfaceExclusionList, interfaceMatches x o = true then .ret
      else if ∃ s ∈ outboundIPRangeExclusionList,
          Ipv4.networkContains s.toList p.destination = true then .ret
      else if (p.dport : Int) ∈ outboundPortExclusionList then .ret
      else if outboundIPRangeInclusionList = [] ∨ ∃ s ∈ outboundIPRangeInclusionList,
          Ipv4.networkContains s.toList p.destination = true then
        .decided (.REDIRECT SidecarOutboundListenerPort)
      else .ret := by
  have hred := walk_OSM_PROXY_OUT_REDIRECT proxyMode enabledDNSProxy outboundIPRangeExclusionList
    outboundIPRangeInclusionList outboundPortExclusionList inboundPortExclusionList
    networkInterfaceExclusionList hp n
  rw [walk, natTable_OSM_PROXY_OUTBOUND]
  simp only [walkRules_append]
  rw [walkRules_outboundStatic _ ho hlo hu hs, walkRules_returns, walkRules_returns,
    walkRules_portExclusion _ hp, walkRules_inclusions _ hred]
  simp [ho]

/-- `OUTPUT` hands an application's TCP packet leaving by an interface other than `lo` to
    `OSM_PROXY_OUTBOUND`; the pod-IP and DNS rules around the jump do not match it. -/
theorem walk_OUTPUT {o : String} (hp : p.protocol = .tcp) (ho : p.outInterface = some o)
    (hlo : o ≠ "lo") (n : Nat) :
    walk Match.matches p (natTable proxyMode enabledDNSProxy outboundIPRangeExclusionList
        outboundIPRangeInclusionList outboundPortExclusionList inboundPortExclusionList
        networkInterfaceExclusionList) (n + 3) .OUTPUT =
      (walk Match.matches p (natTable proxyMode enabledDNSProxy outboundIPRangeExclusionList
        outboundIPRangeInclusionList outboundPortExclusionList inboundPortExclusionList
        networkInterfaceExclusionList) (n + 2) .OSM_PROXY_OUTBOUND).resume := by
  have hlo' : ("lo" == o) = false := by simpa using Ne.symm hlo
  rw [walk, natTable_OUTPUT, walkRules_append, walkRules_append,
    walkRules_cons_jump _ (by simp [Match.matches_def, hp])]
  have hdnat : ∀ call : Chain → Outcome NatTarget,
      walkRules Match.matches p call (if proxyMode = .PodIP then
        [⟨{ protocol := some .tcp, outInterface := some "lo",
            destination := some (false, "127.0.0.1/32"), uidOwner := some (false, SidecarUID) },
          .verdict (.DNAT "$POD_IP")⟩]
      else []) = .next := by
    intro call
    split
    · simp [walkRules_cons_verdict_ite, Match.matches_def, ho, interfaceMatches_lo, hlo']
    · rfl
  have hdns : ∀ call : Chain → Outcome NatTarget,
      walkRules Match.matches p call (if enabledDNSProxy then
        [⟨{ protocol := some .udp, destination := some (false, "127.0.0.153"), dport := some 53 },
          .verdict (.DNAT "127.0.0.153:5300")⟩]
      else []) = .next := by
    intro call
    split
    · simp [walkRules_cons_verdict_ite, Match.matches_def, hp]
    · rfl
  rw [hdnat, hdns]
  simp

/-- The interception of an application's outbound traffic: a TCP packet that a process other
    than the sidecar sends out of an interface other than `lo` is redirected to the sidecar's
    outbound listener exactly when its destination is not 127.0.0.1, the interface matches no
    excluded interface, the destination is in no excluded range, its port is not excluded,
    and the inclusion list is empty or contains the destination. -/
theorem outbound_redirect_iff {eval : Chain → Outcome NatTarget}
    (heval : Walks Match.matches p (natTable proxyMode enabledDNSProxy
      outboundIPRangeExclusionList outboundIPRangeInclusionList outboundPortExclusionList
      inboundPortExclusionList networkInterfaceExclusionList) eval)
    {o : String} {u : Nat} (hp : p.protocol = .tcp)
    (ho : p.outInterface = some o) (hlo : o ≠ "lo") (hu : p.uid = some u) (hs : u ≠ SidecarUID) :
    eval .OUTPUT = .decided (.REDIRECT SidecarOutboundListenerPort) ↔
      p.destination ≠ localhost ∧
      (∀ x ∈ networkInterfaceExclusionList, interfaceMatches x o = false) ∧
      (∀ s ∈ outboundIPRangeExclusionList, Ipv4.networkContains s.toList p.destination = false) ∧
      (p.dport : Int) ∉ outboundPortExclusionList ∧
      (outboundIPRangeInclusionList = [] ∨
        ∃ s ∈ outboundIPRangeInclusionList, Ipv4.networkContains s.toList p.destination = true) := by
  have hw := walk_OUTPUT proxyMode enabledDNSProxy outboundIPRangeExclusionList
    outboundIPRangeInclusionList outboundPortExclusionList inboundPortExclusionList
    networkInterfaceExclusionList hp ho hlo 0
  rw [walk_OSM_PROXY_OUTBOUND proxyMode enabledDNSProxy outboundIPRangeExclusionList
    outboundIPRangeInclusionList outboundPortExclusionList inboundPortExclusionList
    networkInterfaceExclusionList hp ho hlo hu hs 0] at hw
  rw [eq_of_walks_of_walk heval hw (by split_ifs <;> simp)]
  -- the walk returns at the first block whose match accepts the packet
  split_ifs with h₁ h₂ h₃ h₄ h₅ <;> simp_all

/-- An application's packet to 192.168.1.1:80 leaving by `eth0`. -/
def appPacket : Packet where
  protocol := .tcp
  inInterface := none
  outInterface := some "eth0"
  destination := Ipv4.ofOctets 192 168 1 1
  dport := 80
  uid := some 1000

theorem outbound_redirect_iff_appPacket :
    Walks Match.matches appPacket (natTable .PodIP true ["10.0.0.0/8"] [] [443] [] ["eth1"])
        (walk Match.matches appPacket (natTable .PodIP true ["10.0.0.0/8"] [] [443] [] ["eth1"])
          3) ∧
      appPacket.protocol = .tcp ∧ appPacket.outInterface = some "eth0" ∧ "eth0" ≠ "lo" ∧
      appPacket.uid = some 1000 ∧ 1000 ≠ SidecarUID ∧
      (walk Match.matches appPacket (natTable .PodIP true ["10.0.0.0/8"] [] [443] [] ["eth1"]) 3
          .OUTPUT = .decided (.REDIRECT SidecarOutboundListenerPort) ↔
        appPacket.destination ≠ localhost ∧
        (∀ x ∈ ["eth1"], interfaceMatches x "eth0" = false) ∧
        (∀ s ∈ ["10.0.0.0/8"], Ipv4.networkContains s.toList appPacket.destination = false) ∧
        (appPacket.dport : Int) ∉ [443] ∧
        (([] : List String) = [] ∨
          ∃ s ∈ ([] : List String), Ipv4.networkContains s.toList appPacket.destination = true)) := by
  -- three chains deep: OUTPUT, OSM_PROXY_OUTBOUND, OSM_PROXY_OUT_REDIRECT
  have hwalks : Walks Match.matches appPacket
      (natTable .PodIP true ["10.0.0.0/8"] [] [443] [] ["eth1"])
      (walk Match.matches appPacket (natTable .PodIP true ["10.0.0.0/8"] [] [443] [] ["eth1"]) 3) :=
    walks_walk fun c => by cases c <;> decide
  exact ⟨hwalks, rfl, rfl, by decide, rfl, by decide,
    outbound_redirect_iff .PodIP true ["10.0.0.0/8"] [] [443] [] ["eth1"] hwalks rfl rfl
      (by decide) rfl (by decide)⟩

/-- Every TCP packet that reaches `OSM_PROXY_IN_REDIRECT` is redirected to the inbound
    listener. -/
theorem walk_OSM_PROXY_IN_REDIRECT (hp : p.protocol = .tcp) (n : Nat) :
    walk Match.matches p (natTable proxyMode enabledDNSProxy outboundIPRangeExclusionList
        outboundIPRangeInclusionList outboundPortExclusionList inboundPortExclusionList
        networkInterfaceExclusionList) (n + 1) .OSM_PROXY_IN_REDIRECT =
      .decided (.REDIRECT SidecarInboundListenerPort) := by
  rw [walk, natTable_OSM_PROXY_IN_REDIRECT]
  exact walkRules_cons_verdict _ (by simp [Match.matches_def, hp]) _ _

/-- An inbound TCP packet returns from `OSM_PROXY_INBOUND` at the first block whose match
    accepts it, and is redirected if none does. -/
theorem walk_OSM_PROXY_INBOUND {i : String} (hp : p.protocol = .tcp)
    (hi : p.inInterface = some i) (n : Nat) :
    walk Match.matches p (natTable proxyMode enabledDNSProxy outboundIPRangeExclusionList
        outboundIPRangeInclusionList outboundPortExclusionList inboundPortExclusionList
        networkInterfaceExclusionList) (n + 2) .OSM_PROXY_INBOUND =
      if (p.dport : Int) ∈ inboundPortExclusionList then .ret
      else if ∃ x ∈ networkInterfaceExclusionList, interfaceMatches x i = true then .ret
      else if p.dport ∈ inboundStaticPorts then .ret
      else .decided (.REDIRECT SidecarInboundListenerPort) := by
  have hred := walk_OSM_PROXY_IN_REDIRECT proxyMode enabledDNSProxy outboundIPRangeExclusionList
    outboundIPRangeInclusionList outboundPortExclusionList inboundPortExclusionList
    networkInterfaceExclusionList hp n
  rw [walk, natTable_OSM_PROXY_INBOUND]
  simp only [walkRules_append]
  rw [walkRules_portExclusion _ hp, ← List.map_reverse, walkRules_returns, walkRules_returns,
    walkRules_cons_jump_of_decided _ (by simp [Match.matches_def, hp]) hred]
  simp [hi, Match.matches_def, hp]

/-- The interception of inbound traffic: a TCP packet arriving on interface `i` is redirected
    to the sidecar's inbound listener exactly when `i` matches no excluded interface and the
    port is neither excluded nor one of the Prometheus, probe and health-check ports. -/
theorem inbound_redirect_iff {eval : Chain → Outcome NatTarget}
    (heval : Walks Match.matches p (natTable proxyMode enabledDNSProxy
      outboundIPRangeExclusionList outboundIPRangeInclusionList outboundPortExclusionList
      inboundPortExclusionList networkInterfaceExclusionList) eval)
    {i : String} (hp : p.protocol = .tcp) (hi : p.inInterface = some i) :
    eval .PREROUTING = .decided (.REDIRECT SidecarInboundListenerPort) ↔
      (∀ x ∈ networkInterfaceExclusionList, interfaceMatches x i = false) ∧
      (p.dport : Int) ∉ inboundPortExclusionList ∧ p.dport ∉ inboundStaticPorts := by
  have hw : walk Match.matches p (natTable proxyMode enabledDNSProxy outboundIPRangeExclusionList
        outboundIPRangeInclusionList outboundPortExclusionList inboundPortExclusionList
        networkInterfaceExclusionList) 3 .PREROUTING =
      (walk Match.matches p (natTable proxyMode enabledDNSProxy outboundIPRangeExclusionList
        outboundIPRangeInclusionList outboundPortExclusionList inboundPortExclusionList
        networkInterfaceExclusionList) 2 .OSM_PROXY_INBOUND).resume := by
    rw [walk, natTable_PREROUTING, walkRules_cons_jump _ (by simp [Match.matches_def, hp])]
    simp
  rw [walk_OSM_PROXY_INBOUND proxyMode enabledDNSProxy outboundIPRangeExclusionList
    outboundIPRangeInclusionList outboundPortExclusionList inboundPortExclusionList
    networkInterfaceExclusionList hp hi 0] at hw
  rw [eq_of_walks_of_walk heval hw (by split_ifs <;> simp)]
  split_ifs with h₁ h₂ h₃ <;> simp_all

/-- A packet to port 8080 arriving on `eth0`. -/
def inboundPacket : Packet where
  protocol := .tcp
  inInterface := some "eth0"
  outInterface := none
  destination := Ipv4.ofOctets 10 0 0 5
  dport := 8080
  uid := none

theorem inbound_redirect_iff_inboundPacket :
    Walks Match.matches inboundPacket (natTable .Localhost false [] [] [] [9090] ["eth1"])
        (walk Match.matches inboundPacket (natTable .Localhost false [] [] [] [9090] ["eth1"]) 3) ∧
      inboundPacket.protocol = .tcp ∧ inboundPacket.inInterface = some "eth0" ∧
      (walk Match.matches inboundPacket (natTable .Localhost false [] [] [] [9090] ["eth1"]) 3
          .PREROUTING = .decided (.REDIRECT SidecarInboundListenerPort) ↔
        (∀ x ∈ ["eth1"], interfaceMatches x "eth0" = false) ∧
        (inboundPacket.dport : Int) ∉ [9090] ∧ inboundPacket.dport ∉ inboundStaticPorts) := by
  have hwalks : Walks Match.matches inboundPacket
      (natTable .Localhost false [] [] [] [9090] ["eth1"])
      (walk Match.matches inboundPacket (natTable .Localhost false [] [] [] [9090] ["eth1"]) 3) :=
    walks_walk fun c => by cases c <;> decide
  exact ⟨hwalks, rfl, rfl,
    inbound_redirect_iff .Localhost false [] [] [] [9090] ["eth1"] hwalks rfl rfl⟩

end walks

/-! ## What iptables-restore refuses -/

/-- `XT_MULTI_PORTS`: the most ports one `multiport` match takes. -/
def XT_MULTI_PORTS : Nat := 15

/-- A condition `iptables-restore` puts on every rule before it loads any of the script: a
    `multiport` match lists at most `XT_MULTI_PORTS` ports. -/
def Match.multiportAccepted (m : Match) : Bool :=
  m.dports.all (·.length ≤ XT_MULTI_PORTS)

section restore

variable (proxyMode : LocalProxyMode) (enabledDNSProxy : Bool)
  (outboundIPRangeExclusionList outboundIPRangeInclusionList : List String)
  (outboundPortExclusionList inboundPortExclusionList : List Int)
  (networkInterfaceExclusionList : List String)

/-- The port exclusion lists are emitted whole, in one `multiport` rule each, so a list of
    more than 15 ports gives a rule `iptables-restore` refuses, and the init container loads
    none of the script. -/
theorem multiport_rejected
    (h : XT_MULTI_PORTS < outboundPortExclusionList.length ∨
      XT_MULTI_PORTS < inboundPortExclusionList.length) :
    ∃ cmd ∈ iptablesCmds proxyMode enabledDNSProxy outboundIPRangeExclusionList
        outboundIPRangeInclusionList outboundPortExclusionList inboundPortExclusionList
        networkInterfaceExclusionList,
      cmd.rule.m.multiportAccepted = false := by
  rcases h with h | h
  · refine ⟨.append .OSM_PROXY_OUTBOUND
      ⟨{ protocol := some .tcp, dports := some outboundPortExclusionList }, .ret⟩, ?_, ?_⟩
    · have hpos : outboundPortExclusionList.length > 0 := by
        unfold XT_MULTI_PORTS at h; omega
      delta iptablesCmds
      simp [hpos]
    · simpa [Command.rule, Match.multiportAccepted] using h
  · refine ⟨.insert .OSM_PROXY_INBOUND
      ⟨{ protocol := some .tcp, dports := some inboundPortExclusionList }, .ret⟩, ?_, ?_⟩
    · have hpos : inboundPortExclusionList.length > 0 := by
        unfold XT_MULTI_PORTS at h; omega
      delta iptablesCmds
      simp [hpos]
    · simpa [Command.rule, Match.multiportAccepted] using h

/-- Sixteen excluded outbound ports. -/
def sixteenPorts : List Int :=
  [1001, 1002, 1003, 1004, 1005, 1006, 1007, 1008, 1009, 1010, 1011, 1012, 1013, 1014, 1015, 1016]

theorem multiport_rejected_sixteenPorts :
    (XT_MULTI_PORTS < sixteenPorts.length ∨ XT_MULTI_PORTS < ([] : List Int).length) ∧
      ∃ cmd ∈ iptablesCmds .Localhost false [] [] sixteenPorts [] [],
        cmd.rule.m.multiportAccepted = false :=
  ⟨.inl (by decide), multiport_rejected .Localhost false [] [] sixteenPorts [] [] (.inl (by decide))⟩

end restore

end OsmEdge.Injector

import OsmEdge.Lib.GoText

/-
  IPv4 addresses and networks as Go's `net` package reads them from text, and as C code on
  a little-endian host holds them in memory.

  An address is its 32-bit value with the first octet most significant. A network
  `net/len` contains the addresses that agree with `net` on their first `len` bits
  (`inPrefix`); `len = 0` is every address. `parseIPv4` and `parseCIDR` are Go 1.19's
  `parseIPv4` and `net.ParseCIDR` on IPv4 text: four dot-separated decimal octets without
  leading zeros, and a decimal prefix length of at most 32; `ParseCIDR` clears the host
  bits of the network it returns. Go also accepts IPv6 text there; it is outside this
  library. `parseNetwork` is the `address[/length]` form of `iptables -d`, where an address
  alone is a /32 network; on the text Go accepts, iptables reads the same network.

  Byte order: a `__u32` holding an address "in network order" has the octets in memory in
  text order, so on a little-endian host its value is the byte swap of the address value
  (`networkOrder`), and `bpf_htonl` swaps it back. The same holds for 16-bit ports.
-/

namespace Ipv4

/-- The address `a.b.c.d`. -/
def ofOctets (a b c d : Nat) : UInt32 :=
  UInt32.ofNat (((a * 256 + b) * 256 + c) * 256 + d)

/-- `ip` is in the network `net/len`: the two agree on their first `len` bits. -/
def inPrefix (net : UInt32) (len : Nat) (ip : UInt32) : Bool :=
  ip.toNat / 2 ^ (32 - len) == net.toNat / 2 ^ (32 - len)

/-- The network address of `ip/len`: the host bits cleared (Go's `IP.Mask`). -/
def maskNet (ip : UInt32) (len : Nat) : UInt32 :=
  UInt32.ofNat (ip.toNat / 2 ^ (32 - len) * 2 ^ (32 - len))

/-! ## Parsing -/

/-- One octet of Go's `parseIPv4`: a decimal number below 256, with no leading zero unless
    it is `0`. -/
def parseOctet : List Char → Option Nat
  | '0' :: _ :: _ => none
  | s => (GoText.decimalVal s).bind fun n => if n ≤ 255 then some n else none

/-- Go's `parseIPv4`: exactly four octets separated by dots. -/
def parseIPv4 (s : List Char) : Option UInt32 :=
  match GoText.split '.' s with
  | [a, b, c, d] => do
    let a ← parseOctet a
    let b ← parseOctet b
    let c ← parseOctet c
    let d ← parseOctet d
    pure (ofOctets a b c d)
  | _ => none

/-- Go's `net.ParseCIDR` on IPv4 text: the network (host bits cleared) and the prefix
    length. The text splits at its first `/`; the length is all decimal digits. -/
def parseCIDR (s : List Char) : Option (UInt32 × Nat) :=
  match GoText.split '/' s with
  | [addr, mask] => do
    let ip ← parseIPv4 addr
    let n ← GoText.decimalVal mask
    if n ≤ 32 then pure (maskNet ip n, n) else none
  | _ => none

/-- The network of an `iptables -d` argument: an address with an optional prefix length. -/
def parseNetwork (s : List Char) : Option (UInt32 × Nat) :=
  match GoText.split '/' s with
  | [addr] => (parseIPv4 addr).map fun ip => (ip, 32)
  | _ => parseCIDR s

/-- The text `s` names a network that contains `ip`. -/
def networkContains (s : List Char) (ip : UInt32) : Bool :=
  (parseNetwork s).any fun n => inPrefix n.1 n.2 ip

example : parseCIDR "10.1.2.3/8".toList = some (ofOctets 10 0 0 0, 8) := by decide
example : parseCIDR "10.01.2.3/8".toList = none := by decide
example : parseNetwork "127.0.0.153".toList = some (ofOctets 127 0 0 153, 32) := by decide

/-! ## Networks -/

/-- A /32 network is one address. -/
theorem inPrefix_32 (net ip : UInt32) : inPrefix net 32 ip = (ip == net) := by
  simp only [inPrefix, Nat.sub_self, Nat.pow_zero, Nat.div_one]
  rw [Bool.eq_iff_iff, beq_iff_eq, beq_iff_eq, UInt32.toNat_inj]

/-! ## Byte order -/

/-- The 32-bit value whose little-endian bytes are those of `x` in the other order
    (`__builtin_bswap32`, which is `bpf_htonl` on a little-endian host). -/
def bswap32 (x : UInt32) : UInt32 :=
  ofOctets (x.toNat % 256) (x.toNat / 256 % 256) (x.toNat / 65536 % 256) (x.toNat / 16777216)

/-- The 16-bit byte swap (`bpf_htons` on a little-endian host). -/
def bswap16 (x : UInt16) : UInt16 :=
  UInt16.ofNat (x.toNat % 256 * 256 + x.toNat / 256)

/-- The `__u32` a little-endian host reads from an address stored in network order. -/
def networkOrder (ip : UInt32) : UInt32 := bswap32 ip

/-- The value of an address from its four octets. -/
theorem toNat_ofOctets {a b c d : Nat} (ha : a < 256) (hb : b < 256) (hc : c < 256)
    (hd : d < 256) : (ofOctets a b c d).toNat = a * 16777216 + b * 65536 + c * 256 + d := by
  simp only [ofOctets, UInt32.toNat_ofNat', Nat.reducePow]
  omega

end Ipv4

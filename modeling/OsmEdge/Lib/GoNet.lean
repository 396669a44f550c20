import OsmEdge.Lib.Ipv4

/-
  Go's `net.IP`, `net.IPMask` and `net.IPNet` (Go 1.19) as the byte slices Go keeps them in.

  An address is four bytes, or sixteen; an IPv4 address parsed from text has the sixteen-byte
  form, its four bytes behind `v4InV6Prefix`, and `To4` gives the four bytes of either form.
  `nil` is the empty slice. A mask is the bytes of a prefix (`CIDRMask`), which `Size` reads
  back as the number of its leading ones (`Size_maskBytes`, in `GoNet.V4`).

  Text: `ParseIP`, `ParseCIDR` and `IP.String` are Go's on IPv4 text. IPv6 text is left to
  the user of the library as a parameter (`V6Text`): what Go's `parseIPv6` reads, and what
  `IP.String` writes for a sixteen-byte address that is not IPv4.
-/

namespace GoNet

/-- `net.IP`. -/
abbrev IP := List UInt8

/-- `net.IPMask`. -/
abbrev IPMask := List UInt8

/-- `net.IPNet`. -/
structure IPNet where
  IP : IP
  Mask : IPMask
  deriving DecidableEq, Repr

/-- `IPv4len`. -/
def IPv4len : Nat := 4

/-- `IPv6len`. -/
def IPv6len : Nat := 16

/-- `v4InV6Prefix`: the twelve bytes before an IPv4 address in its sixteen-byte form. -/
def v4InV6Prefix : List UInt8 := [0, 0, 0, 0, 0, 0, 0, 0, 0, 0, 0xff, 0xff]

/-- `net.IPv4`: the sixteen-byte form of `a.b.c.d`. -/
def IPv4 (a b c d : UInt8) : IP := v4InV6Prefix ++ [a, b, c, d]

/-- `IP.To4`: the four bytes of an IPv4 address in either form, `nil` for any other. Go tests
    the first ten bytes for zero and the next two for `0xff`, which is `v4InV6Prefix`. -/
def IP.To4 (ip : IP) : IP :=
  if ip.length = IPv4len then ip
  else if ip.length = IPv6len ∧ ip.take 12 = v4InV6Prefix then ip.drop 12
  else []

/-- `IP.Equal`: the same address, an IPv4 address in either form. -/
def IP.Equal (ip x : IP) : Bool :=
  if ip.length = x.length then ip == x
  else if ip.length = IPv4len ∧ x.length = IPv6len then x.take 12 == v4InV6Prefix && ip == x.drop 12
  else if ip.length = IPv6len ∧ x.length = IPv4len then ip.take 12 == v4InV6Prefix && ip.drop 12 == x
  else false

/-! ## Masks -/

/-- The loop of `CIDRMask`: `l` bytes for `n` leading ones. -/
def maskBytes : Nat → Nat → List UInt8
  | 0, _ => []
  | l + 1, n =>
    if 8 ≤ n then 0xff :: maskBytes l (n - 8) else ~~~(0xff >>> n.toUInt8) :: maskBytes l 0

/-- `CIDRMask(ones, bits)`: `ones` leading ones of `bits`, for 32 or 128 bits; `nil` for any
    other width or count. -/
def CIDRMask (ones bits : Int) : IPMask :=
  if bits ≠ 8 * IPv4len ∧ bits ≠ 8 * IPv6len then []
  else if ones < 0 ∨ bits < ones then []
  else maskBytes (bits / 8).toNat ones.toNat

/-- The loop `for v&0x80 != 0 { n++; v <<= 1 }` of `simpleMaskLength`, for at most `k`
    rounds: the ones that lead the byte, and what is left of it. -/
def leadingOnes : Nat → UInt8 → Nat × UInt8
  | 0, v => (0, v)
  | k + 1, v =>
    if v &&& 0x80 ≠ 0 then
      let r := leadingOnes k (v <<< 1)
      (r.1 + 1, r.2)
    else (0, v)

/-- `simpleMaskLength`: the number of leading ones, or `-1` when a one follows a zero. -/
def simpleMaskLength : IPMask → Int
  | [] => 0
  | v :: rest =>
    if v = 0xff then
      let n := simpleMaskLength rest
      if n = -1 then -1 else n + 8
    else
      -- the first byte that is not `0xff`: ones, then zeros, then zero bytes only
      let (ones, left) := leadingOnes 8 v
      if left ≠ 0 then -1
      else if rest.all (· == 0) then ones else -1

/-- `IPMask.Size`: the leading ones and the width; `(0, 0)` for a mask that is not a prefix. -/
def IPMask.Size (m : IPMask) : Int × Int :=
  let ones := simpleMaskLength m
  if ones = -1 then (0, 0) else (ones, 8 * m.length)

/-- `IP.Mask`: the address with the bits outside the mask cleared, the IPv4 parts of either
    taken where the other is IPv4; `nil` when the lengths still differ. -/
def IP.Mask (ip : IP) (mask : IPMask) : IP :=
  let mask := if mask.length = IPv6len ∧ ip.length = IPv4len ∧ (mask.take 12).all (· == 0xff)
    then mask.drop 12 else mask
  let ip := if mask.length = IPv4len ∧ ip.length = IPv6len ∧ ip.take 12 = v4InV6Prefix
    then ip.drop 12 else ip
  if ip.length ≠ mask.length then [] else List.zipWith (· &&& ·) ip mask

/-- `networkNumberAndMask`: the network's address and mask at one length, or `nil, nil`. -/
def networkNumberAndMask (n : IPNet) : IP × IPMask :=
  let ip4 := n.IP.To4
  if ip4 = [] ∧ n.IP.length ≠ IPv6len then ([], [])
  else
    let ip := if ip4 = [] then n.IP else ip4
    if n.Mask.length = IPv4len then
      if ip.length ≠ IPv4len then ([], []) else (ip, n.Mask)
    else if n.Mask.length = IPv6len then
      if ip.length = IPv4len then (ip, n.Mask.drop 12) else (ip, n.Mask)
    else ([], [])

/-- `IPNet.Contains`: the address agrees with the network on the bits of the mask. -/
def IPNet.Contains (n : IPNet) (ip : GoNet.IP) : Bool :=
  let (nn, m) := networkNumberAndMask n
  let ip := if ip.To4 ≠ [] then ip.To4 else ip
  if ip.length ≠ nn.length then false
  else ((nn.zip ip).zip m).all fun p => p.1.1 &&& p.2 == p.1.2 &&& p.2

/-! ## Text -/

/-- IPv6 text: Go's `parseIPv6`, and what `IP.String` writes for a sixteen-byte address that
    is not IPv4. -/
structure V6Text where
  parse : List Char → IP
  toString : IP → String

/-- IPv6 text read and written as nothing, for texts that are all IPv4. -/
def noV6Text : V6Text := ⟨fun _ => [], fun _ => ""⟩

/-- `hexString`: two lower-case hex digits a byte. -/
def hexString (b : List UInt8) : String :=
  String.ofList (b.flatMap fun t => [Nat.digitChar (t.toNat / 16), Nat.digitChar (t.toNat % 16)])

/-- The dotted text of four bytes (`ubtoa` for each). -/
def dotted (p4 : IP) : String :=
  ".".intercalate (p4.map fun b => toString b.toNat)

/-- `IP.String`. -/
def IP.String (v6 : V6Text) (ip : IP) : String :=
  if ip = [] then "<nil>"
  else if ip.To4.length = IPv4len then dotted ip.To4
  else if ip.length ≠ IPv6len then "?" ++ hexString ip
  else v6.toString ip

/-- The four bytes of an IPv4 address value, most significant first. -/
def octets (x : UInt32) : List UInt8 :=
  [UInt8.ofNat (x.toNat / 16777216), UInt8.ofNat (x.toNat / 65536 % 256),
    UInt8.ofNat (x.toNat / 256 % 256), UInt8.ofNat (x.toNat % 256)]

/-- `parseIPv4`: the sixteen-byte form of dotted text, `nil` if it is not. -/
def parseIPv4 (s : List Char) : IP :=
  match Ipv4.parseIPv4 s with
  | some x => v4InV6Prefix ++ octets x
  | none => []

/-- `ParseIP`: IPv4 text if a dot comes before any colon, IPv6 text if a colon does. -/
def ParseIP (v6 : V6Text) (s : List Char) : IP :=
  match s.find? fun c => c = '.' ∨ c = ':' with
  | some '.' => parseIPv4 s
  | some _ => v6.parse s
  | none => []

/-- `ParseCIDR`: the address before the first `/`, IPv4 or else IPv6, and a decimal prefix
    length at most its width; the network is the address masked to that length. -/
def ParseCIDR (v6 : V6Text) (s : List Char) : Option (IP × IPNet) :=
  match GoText.cut '/' s with
  | none => none
  | some (addr, mask) =>
    let ip4 := parseIPv4 addr
    let (iplen, ip) := if ip4 = [] then (IPv6len, v6.parse addr) else (IPv4len, ip4)
    match GoText.decimalVal mask with
    | some n =>
      if ip = [] ∨ 8 * iplen < n then none
      else
        let m := CIDRMask n (8 * iplen)
        some (ip, { IP := ip.Mask m, Mask := m })
    | none => none

end GoNet

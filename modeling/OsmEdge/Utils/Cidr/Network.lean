import OsmEdge.Utils.Cidr
import OsmEdge.Lib.GoNet
import OsmEdge.Lib.GoSort
import OsmEdge.Lib.ExceptLoop

/-
  `pkg/utils/cidr`: networks (`cidr.go`) and their order (`helper.go`).

  A `CIDR` is the `net.IPNet` that `net.ParseCIDR` returns: the address with the host bits
  cleared, and the mask. `CompareCIDR` orders networks by mask length, a longer prefix above
  a shorter, and networks of one length by their address bytes. `AscSortCIDRs` and
  `DescSortCIDRs` sort by `sort.Slice` with that order either way up; `pdqsort` stands for
  `sort.Slice` on more than twelve elements, where it is not insertion sort.
-/

namespace OsmEdge.Cidr

open GoNet

/-- `CIDR`. The address as written is read only by `IP()`, which nothing modelled calls; the
    network is kept. -/
structure CIDR where
  ipnet : IPNet
  deriving DecidableEq, Repr

/-- `CIDR.MaskSize`: the leading ones of the mask, and its width. -/
def CIDR.MaskSize (c : CIDR) : Int × Int := c.ipnet.Mask.Size

/-- `Compare`: `bytes.Compare`. -/
def Compare (a b : IP) : Int := Bytes.Compare a b

/-- `CompareCIDR`: `1` when `a` has the longer prefix, or the same and the greater address. -/
def CompareCIDR (a b : CIDR) : Int :=
  let i1 := a.ipnet.Mask.Size.1
  let j1 := b.ipnet.Mask.Size.1
  if i1 = j1 then Compare a.ipnet.IP b.ipnet.IP
  else if i1 > j1 then 1 else -1

/-- The `less` of `AscSortCIDRs`: the shorter prefix first, then the smaller address. -/
def ascLess (a b : CIDR) : Bool :=
  let i1 := a.ipnet.Mask.Size.1
  let j1 := b.ipnet.Mask.Size.1
  if i1 = j1 then decide (Compare a.ipnet.IP b.ipnet.IP < 0) else decide (i1 < j1)

/-- The `less` of `DescSortCIDRs`: the longer prefix first, then the address not below. -/
def descLess (a b : CIDR) : Bool :=
  let i1 := a.ipnet.Mask.Size.1
  let j1 := b.ipnet.Mask.Size.1
  if i1 = j1 then decide (Compare a.ipnet.IP b.ipnet.IP ≥ 0) else decide (i1 > j1)

section sorts

variable (pdqsort : List CIDR → List CIDR)

/-- `AscSortCIDRs`. -/
def AscSortCIDRs (cs : List CIDR) : List CIDR := GoSort.sort ascLess pdqsort cs

/-- `DescSortCIDRs`. -/
def DescSortCIDRs (cs : List CIDR) : List CIDR := GoSort.sort descLess pdqsort cs

end sorts

/-! ## Broadcast, SubNetting and SuperNetting -/

/-- Go's panic on the index `-1`. -/
def indexMinusOne : String := "runtime error: index out of range [-1]"

/-- The address `Broadcast` writes: the network with every bit outside the mask set, the
    mask aligned to the end of the address. A mask longer than the address sends the index
    below zero. -/
def broadcastIP (n : IPNet) : Except String IP :=
  if n.IP.length < n.Mask.length then .error indexMinusOne
  else
    let k := n.IP.length - n.Mask.length
    .ok (n.IP.take k ++ List.zipWith (fun b m => b ||| ~~~m) (n.IP.drop k) n.Mask)

/-- `CIDR.Broadcast`. -/
def CIDR.Broadcast (v6 : V6Text) (c : CIDR) : Except String String :=
  (broadcastIP c.ipnet).map (IP.String v6)

/-- `CIDR.Mask`: the mask written as an address. Go writes the mask in hex and decodes the
    text back to the same bytes; the empty mask writes `<nil>`, which decodes to nothing. -/
def CIDR.Mask (v6 : V6Text) (c : CIDR) : String := IP.String v6 c.ipnet.Mask

/-- `subnettingMethodSubnetNum`. -/
def subnettingMethodSubnetNum : Int := 0

/-- `subnettingMethodHostNum`. -/
def subnettingMethodHostNum : Int := 1

/-- The loop of `SubNetting`: `num` networks of `newOnes` bits, each parsed from the text of
    its first address, the next one starting after its broadcast address. -/
def subnetLoop (v6 : V6Text) (newOnes : Int) : Nat → IP → Except String (List CIDR)
  | 0, _ => .ok []
  | num + 1, network =>
    match ParseCIDR v6 ((IP.String v6 network).toList ++ '/' :: (toString newOnes).toList) with
    | none => .error ExceptLoop.nilDereference
    | some (_, ipnet) =>
      match broadcastIP ipnet with
      | .error e => .error e
      | .ok bcst =>
        (subnetLoop v6 newOnes num (IncrIP (ParseIP v6 (IP.String v6 bcst).toList))).map
          (⟨ipnet⟩ :: ·)

/-- `CIDR.SubNetting`: `num` networks by the subnet-number method, or the networks of `num`
    addresses each by the host-number method; `num` must be a power of two, and `math.Log2`
    of a power of two is its exponent. `nil, nil` is the empty list. -/
def CIDR.SubNetting (v6 : V6Text) (c : CIDR) (method num : Int) : Except String (List CIDR) :=
  if num < 1 ∨ num.toNat &&& (num.toNat - 1) ≠ 0 then .error "num must the power of 2"
  else
    let newOnes : Int := Nat.log2 num.toNat
    let ones := c.MaskSize.1
    let bits := c.MaskSize.2
    if method = subnettingMethodSubnetNum then
      if bits < ones + newOnes then .ok []
      else subnetLoop v6 (ones + newOnes) num.toNat c.ipnet.IP
    else if method = subnettingMethodHostNum then
      if bits - newOnes ≤ ones then .ok []
      else subnetLoop v6 (bits - newOnes) (2 ^ (bits - newOnes - ones).toNat) c.ipnet.IP
    else .error "unsupported method"

/-- The first loop of `SuperNetting`: every text parsed, with the mask of the first. -/
def parseSameMask (v6 : V6Text) : String → List String → Except String (List CIDR)
  | _, [] => .ok []
  | mask, n :: ns =>
    match ParseCIDR v6 n.toList with
    | none => .error ("invalid CIDR format:" ++ n)
    | some (_, ipnet) =>
      let c : CIDR := ⟨ipnet⟩
      if mask.length = 0 then (parseSameMask v6 (c.Mask v6) ns).map (c :: ·)
      else if c.Mask v6 ≠ mask then .error "not the same mask"
      else (parseSameMask v6 mask ns).map (c :: ·)

/-- The second loop of `SuperNetting`: every network starts at the address after the
    previous one's broadcast address. -/
def checkContiguous (v6 : V6Text) : IP → List CIDR → Except String Unit
  | _, [] => .ok ()
  | network, c :: cs =>
    if 0 < network.length ∧ IP.Equal network c.ipnet.IP = false then
      .error "not the contiguous segments"
    else
      match broadcastIP c.ipnet with
      | .error e => .error e
      | .ok bcst => checkContiguous v6 (IncrIP (ParseIP v6 (IP.String v6 bcst).toList)) cs

section SuperNetting

variable (v6 : V6Text) (pdqsort : List CIDR → List CIDR)

/-- `SuperNetting`: the lowest of a power-of-two number of contiguous networks of one mask,
    with the mask shortened by the exponent. `c.ipnet.IP.Mask(c.ipnet.Mask)` returns the
    masked address, which the code drops: the address stays the lowest network's. -/
def SuperNetting (ns : List String) : Except String CIDR :=
  let num := ns.length
  if num < 1 ∨ num &&& (num - 1) ≠ 0 then .error "ns length must the power of 2"
  else
    match parseSameMask v6 "" ns with
    | .error e => .error e
    | .ok cidrs =>
      let cidrs := AscSortCIDRs pdqsort cidrs
      match checkContiguous v6 [] cidrs with
      | .error e => .error e
      | .ok () =>
        match cidrs with
        | [] => .error (ExceptLoop.indexOutOfRange 0 0)
        | c :: _ =>
          let ones := c.MaskSize.1 - Nat.log2 num
          .ok ⟨{ c.ipnet with Mask := CIDRMask ones c.MaskSize.2 }⟩

end SuperNetting

end OsmEdge.Cidr

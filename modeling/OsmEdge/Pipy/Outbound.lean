import OsmEdge.Utils.Cidr.Network
import OsmEdge.Lib.GoMap

/-
  The order of the outbound traffic matches of a port (`OutboundTrafficMatchSlice.Less` and
  `OutboundTrafficMatches.Sort`, `pkg/sidecar/providers/pipy/repo/policy.go`), and how the
  Pipy script picks one of them for a destination (`outbound-main.js`).

  `Less` puts a traffic match without ranges first. Otherwise it sorts both lists of ranges
  with `DescSortCIDRs` and returns `true` at the first position where the left range
  compares above the right one; where it compares below, the loop goes on, and past the
  shorter list the longer list is less. So it is not the lexicographic order of the two
  lists: two traffic matches whose ranges interleave, each above the other at some position,
  are each less than the other (`OutboundTrafficMatchLess_both_ways`). Insertion sort then
  swaps such a pair whichever order it comes in, and the script's first match for an address
  in a range of both is the one appended second
  (`outbound_order_depends_on_append_order`).

  `pdqsortCIDR` and `pdqsort` stand for `sort.Slice` and `sort.Sort` on more than twelve
  elements.
-/

namespace OsmEdge.Pipy

open GoNet OsmEdge.Cidr

/-- `OutboundTrafficMatch`, in the field its order reads: the destination ranges as
    `cidr.ParseCIDR` reads the keys of the `DestinationIPRanges` map, in the order the map
    hands them out. A key that does not parse would be a nil `*CIDR`, which the comparison
    dereferences; the generators write ranges that parse. -/
structure OutboundTrafficMatch where
  DestinationIPRanges : List CIDR
  deriving DecidableEq, Repr

section order

variable (pdqsortCIDR : List CIDR → List CIDR)

/-- `OutboundTrafficMatchSlice.Less`. -/
def OutboundTrafficMatchLess (a b : OutboundTrafficMatch) : Bool :=
  let aLen := a.DestinationIPRanges.length
  let bLen := b.DestinationIPRanges.length
  if aLen = 0 ∧ bLen = 0 then false
  else if 0 < aLen ∧ bLen = 0 then false
  else if aLen = 0 ∧ 0 < bLen then true
  else
    let aCidrs := DescSortCIDRs pdqsortCIDR a.DestinationIPRanges
    let bCidrs := DescSortCIDRs pdqsortCIDR b.DestinationIPRanges
    -- the loop over the first `minLen` positions returns at the first where `a`'s range
    -- compares above `b`'s, and goes on where it compares below
    if (aCidrs.zip bCidrs).any fun p => CompareCIDR p.1 p.2 == 1 then true
    else decide (bLen < aLen)

variable (pdqsort : List OutboundTrafficMatch → List OutboundTrafficMatch)

/-- `OutboundTrafficMatches.Sort`: the traffic matches of every port with two or more sorted
    in place. -/
def OutboundTrafficMatches.Sort (otms : AList fun _ : UInt16 => List OutboundTrafficMatch) :
    AList fun _ : UInt16 => List OutboundTrafficMatch :=
  GoMap.mapVal (fun tms => if 1 < tms.length
    then GoSort.sort (OutboundTrafficMatchLess pdqsortCIDR) pdqsort tms else tms) otms

/-- `outbound-main.js`: the first traffic match of the port with a range that contains the
    destination address. The script tests a range with its own `Netmask`, here
    `IPNet.Contains`; its fallback to a traffic match without ranges is left out. -/
def findDestination (tms : List OutboundTrafficMatch) (address : IP) :
    Option OutboundTrafficMatch :=
  tms.find? fun tm => tm.DestinationIPRanges.any fun r => r.ipnet.Contains address

/-- A traffic match whose sorted ranges compare above the other's at some position is less
    than it, whatever the other positions say. -/
theorem OutboundTrafficMatchLess_of_above {a b : OutboundTrafficMatch}
    (ha : a.DestinationIPRanges ≠ []) (hb : b.DestinationIPRanges ≠ [])
    (hab : ∃ p ∈ (DescSortCIDRs pdqsortCIDR a.DestinationIPRanges).zip
      (DescSortCIDRs pdqsortCIDR b.DestinationIPRanges), CompareCIDR p.1 p.2 = 1) :
    OutboundTrafficMatchLess pdqsortCIDR a b = true := by
  have hapos : 0 < a.DestinationIPRanges.length := List.length_pos_iff.mpr ha
  have hbpos : 0 < b.DestinationIPRanges.length := List.length_pos_iff.mpr hb
  have hany : ((DescSortCIDRs pdqsortCIDR a.DestinationIPRanges).zip
      (DescSortCIDRs pdqsortCIDR b.DestinationIPRanges)).any
        (fun p => CompareCIDR p.1 p.2 == 1) = true := by
    obtain ⟨p, hp, hcmp⟩ := hab
    exact List.any_eq_true.mpr ⟨p, hp, beq_iff_eq.mpr hcmp⟩
  unfold OutboundTrafficMatchLess
  rw [if_neg (by omega), if_neg (by omega), if_neg (by omega)]
  exact if_pos hany

/-- Traffic matches whose ranges interleave are each less than the other. -/
theorem OutboundTrafficMatchLess_both_ways {a b : OutboundTrafficMatch}
    (ha : a.DestinationIPRanges ≠ []) (hb : b.DestinationIPRanges ≠ [])
    (hab : ∃ p ∈ (DescSortCIDRs pdqsortCIDR a.DestinationIPRanges).zip
      (DescSortCIDRs pdqsortCIDR b.DestinationIPRanges), CompareCIDR p.1 p.2 = 1)
    (hba : ∃ p ∈ (DescSortCIDRs pdqsortCIDR b.DestinationIPRanges).zip
      (DescSortCIDRs pdqsortCIDR a.DestinationIPRanges), CompareCIDR p.1 p.2 = 1) :
    OutboundTrafficMatchLess pdqsortCIDR a b = true ∧
      OutboundTrafficMatchLess pdqsortCIDR b a = true :=
  ⟨OutboundTrafficMatchLess_of_above pdqsortCIDR ha hb hab,
    OutboundTrafficMatchLess_of_above pdqsortCIDR hb ha hba⟩

/-- The sort of a port with two traffic matches swaps them exactly when the second is less
    than the first. -/
theorem Sort_singleton_pair (port : UInt16) (a b : OutboundTrafficMatch) :
    OutboundTrafficMatches.Sort pdqsortCIDR pdqsort (AList.singleton port [a, b]) =
      AList.singleton port
        (if OutboundTrafficMatchLess pdqsortCIDR b a then [b, a] else [a, b]) := by
  have hsort : GoSort.sort (OutboundTrafficMatchLess pdqsortCIDR) pdqsort [a, b] =
      if OutboundTrafficMatchLess pdqsortCIDR b a then [b, a] else [a, b] := by
    rw [GoSort.sort, if_pos (by simp), GoSort.insertionSort_pair]
  apply AList.ext
  rw [OutboundTrafficMatches.Sort, GoMap.entries_mapVal, AList.singleton_entries,
    AList.singleton_entries, List.map_singleton, if_pos (by simp), hsort]

/-- The first match is the first traffic match with a range that contains the address. -/
theorem findDestination_cons_of_mem {tm : OutboundTrafficMatch} {address : IP}
    (h : ∃ r ∈ tm.DestinationIPRanges, r.ipnet.Contains address) (tms : List OutboundTrafficMatch) :
    findDestination (tm :: tms) address = some tm := by
  rw [findDestination, List.find?_cons_of_pos]
  exact List.any_eq_true.mpr h

/-- Two traffic matches of one port whose ranges interleave are sorted the other way round
    from the order they were appended in, so the first match for an address in a range of
    both is the traffic match appended second. -/
theorem outbound_order_depends_on_append_order {a b : OutboundTrafficMatch} (port : UInt16)
    (address : IP) (ha : a.DestinationIPRanges ≠ []) (hb : b.DestinationIPRanges ≠ [])
    (hab : ∃ p ∈ (DescSortCIDRs pdqsortCIDR a.DestinationIPRanges).zip
      (DescSortCIDRs pdqsortCIDR b.DestinationIPRanges), CompareCIDR p.1 p.2 = 1)
    (hba : ∃ p ∈ (DescSortCIDRs pdqsortCIDR b.DestinationIPRanges).zip
      (DescSortCIDRs pdqsortCIDR a.DestinationIPRanges), CompareCIDR p.1 p.2 = 1)
    (hina : ∃ r ∈ a.DestinationIPRanges, r.ipnet.Contains address)
    (hinb : ∃ r ∈ b.DestinationIPRanges, r.ipnet.Contains address) :
    OutboundTrafficMatchLess pdqsortCIDR a b = true ∧
      OutboundTrafficMatchLess pdqsortCIDR b a = true ∧
      OutboundTrafficMatches.Sort pdqsortCIDR pdqsort (AList.singleton port [a, b]) =
        AList.singleton port [b, a] ∧
      OutboundTrafficMatches.Sort pdqsortCIDR pdqsort (AList.singleton port [b, a]) =
        AList.singleton port [a, b] ∧
      findDestination [b, a] address = some b ∧ findDestination [a, b] address = some a := by
  obtain ⟨hlt, hgt⟩ := OutboundTrafficMatchLess_both_ways pdqsortCIDR ha hb hab hba
  refine ⟨hlt, hgt, ?_, ?_, findDestination_cons_of_mem hinb _, findDestination_cons_of_mem hina _⟩
  · rw [Sort_singleton_pair, if_pos hgt]
  · rw [Sort_singleton_pair, if_pos hlt]

end order

/-- The network `a.b.c.d/ones` as `cidr.ParseCIDR` reads it, for an address with no host
    bits. -/
def v4Net (a b c d : UInt8) (ones : Int) : CIDR := ⟨⟨[a, b, c, d], CIDRMask ones 32⟩⟩

/-- Two /16 and /8 networks, and two /24 and /0 networks, all containing `10.0.0.1`. -/
def wideAndNarrow : OutboundTrafficMatch :=
  ⟨[v4Net 10 0 0 0 16, v4Net 10 0 0 0 8]⟩

def narrowAndAll : OutboundTrafficMatch :=
  ⟨[v4Net 10 0 0 0 24, v4Net 0 0 0 0 0]⟩

theorem outbound_order_depends_on_append_order_tenNet :
    OutboundTrafficMatchLess id wideAndNarrow narrowAndAll = true ∧
      OutboundTrafficMatchLess id narrowAndAll wideAndNarrow = true ∧
      OutboundTrafficMatches.Sort id id (AList.singleton (80 : UInt16) [wideAndNarrow, narrowAndAll]) =
        AList.singleton (80 : UInt16) [narrowAndAll, wideAndNarrow] ∧
      OutboundTrafficMatches.Sort id id (AList.singleton (80 : UInt16) [narrowAndAll, wideAndNarrow]) =
        AList.singleton (80 : UInt16) [wideAndNarrow, narrowAndAll] ∧
      findDestination [narrowAndAll, wideAndNarrow] (IPv4 10 0 0 1) = some narrowAndAll ∧
      findDestination [wideAndNarrow, narrowAndAll] (IPv4 10 0 0 1) = some wideAndNarrow :=
  outbound_order_depends_on_append_order id id 80 (IPv4 10 0 0 1) (by decide) (by decide)
    (by decide) (by decide) (by decide) (by decide)

end OsmEdge.Pipy

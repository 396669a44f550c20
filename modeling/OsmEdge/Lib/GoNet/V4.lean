import OsmEdge.Lib.GoNet
import OsmEdge.Lib.GoStrconv
import OsmEdge.Lib.Bytes

/-
  IPv4 addresses and networks of `GoNet` by their values.

  Text: the dotted text `IP.String` writes for four bytes is read back by `ParseIP` as the
  sixteen-byte form of the same bytes (`ParseIP_dotted`), and with a prefix length by
  `ParseCIDR` as the masked network (`ParseCIDR_dotted`); neither reads IPv6 text on the way.

  Values: four bytes are the number `beVal` reads, most significant first. The mask of `n`
  ones of `8 * l` bits clears the low `8 * l - n` bits of a value (`beVal_and_maskBytes`), and
  its complement sets them (`beVal_or_not_maskBytes`); `Size` reads the mask back
  (`Size_maskBytes`). A network of four bytes contains the IPv4 addresses that agree with it
  above those bits (`Contains_v4`).
-/

namespace GoNet

open Bytes

/-! ## Text -/

theorem isDigit_of_mem_toDigits {n : Nat} {c : Char} (h : c ∈ Nat.toDigits 10 n) :
    c.isDigit = true :=
  Nat.isDigit_of_mem_toDigits (by decide) (by decide) h

/-- Decimal digits are no separator of address text. -/
theorem sep_not_mem_toDigits (n : Nat) :
    '.' ∉ Nat.toDigits 10 n ∧ ':' ∉ Nat.toDigits 10 n ∧ '/' ∉ Nat.toDigits 10 n := by
  refine ⟨fun h => ?_, fun h => ?_, fun h => ?_⟩ <;>
  · have hdigit := isDigit_of_mem_toDigits h
    revert hdigit
    decide

theorem toList_dotted (a b c d : UInt8) :
    (dotted [a, b, c, d]).toList = Nat.toDigits 10 a.toNat ++ '.' :: (Nat.toDigits 10 b.toNat ++
      '.' :: (Nat.toDigits 10 c.toNat ++ '.' :: Nat.toDigits 10 d.toNat)) := by
  simp [dotted, Nat.toString_eq_repr, Nat.toList_repr]

theorem split_dotted (a b c d : UInt8) :
    GoText.split '.' (dotted [a, b, c, d]).toList = [Nat.toDigits 10 a.toNat,
      Nat.toDigits 10 b.toNat, Nat.toDigits 10 c.toNat, Nat.toDigits 10 d.toNat] := by
  rw [toList_dotted, GoText.split_append_cons_of_not_mem '.' (sep_not_mem_toDigits _).1,
    GoText.split_append_cons_of_not_mem '.' (sep_not_mem_toDigits _).1,
    GoText.split_append_cons_of_not_mem '.' (sep_not_mem_toDigits _).1,
    GoText.split_of_not_mem '.' _ (sep_not_mem_toDigits _).1]

/-- The decimal text of an octet reads back: it has no leading zero. -/
theorem parseOctet_toDigits {n : Nat} (h : n < 256) :
    Ipv4.parseOctet (Nat.toDigits 10 n) = some n := by
  unfold Ipv4.parseOctet
  split
  · rename_i x y heq
    rcases Nat.eq_zero_or_pos n with rfl | hn
    · cases heq
    · obtain ⟨c, cs, hcs, hc⟩ := GoStrconv.toDigits_head_ne_zero hn
      rw [hcs] at heq
      cases heq
      exact absurd rfl hc
  · rw [GoStrconv.decimalVal_toDigits, Option.bind_some, if_pos (by omega)]

/-- Each byte is the octet of its value. -/
theorem octets_ofOctets (a b c d : UInt8) :
    octets (Ipv4.ofOctets a.toNat b.toNat c.toNat d.toNat) = [a, b, c, d] := by
  have ha := a.toNat_lt
  have hb := b.toNat_lt
  have hc := c.toNat_lt
  have hd := d.toNat_lt
  have hv := Ipv4.toNat_ofOctets ha hb hc hd
  have hbyte : ∀ (x : UInt8) (m : Nat), m = x.toNat → UInt8.ofNat m = x := by
    rintro x m rfl
    exact UInt8.ofNat_toNat
  simp only [octets, hv, List.cons.injEq, and_true]
  exact ⟨hbyte a _ (by omega), hbyte b _ (by omega), hbyte c _ (by omega), hbyte d _ (by omega)⟩

theorem parseIPv4_dotted (a b c d : UInt8) :
    parseIPv4 (dotted [a, b, c, d]).toList = IPv4 a b c d := by
  rw [parseIPv4, Ipv4.parseIPv4, split_dotted]
  simp only [parseOctet_toDigits a.toNat_lt, parseOctet_toDigits b.toNat_lt,
    parseOctet_toDigits c.toNat_lt, parseOctet_toDigits d.toNat_lt]
  show v4InV6Prefix ++ octets (Ipv4.ofOctets a.toNat b.toNat c.toNat d.toNat) = _
  rw [octets_ofOctets]
  rfl

/-- Dotted text reads back as the sixteen-byte form of its bytes. -/
theorem ParseIP_dotted (v6 : V6Text) {p : IP} (hp : p.length = 4) :
    ParseIP v6 (dotted p).toList = v4InV6Prefix ++ p := by
  obtain ⟨a, b, c, d, rfl⟩ := List.length_eq_four.mp hp
  have hfind : (dotted [a, b, c, d]).toList.find? (fun c => decide (c = '.' ∨ c = ':')) =
      some '.' := by
    rw [toList_dotted, List.find?_append, List.find?_eq_none.mpr, Option.none_or,
      List.find?_cons_of_pos (by decide)]
    intro x hx
    have hdigit := isDigit_of_mem_toDigits hx
    simp only [decide_eq_true_eq, not_or]
    exact ⟨fun h => by rw [h] at hdigit; revert hdigit; decide,
      fun h => by rw [h] at hdigit; revert hdigit; decide⟩
  rw [ParseIP, hfind]
  exact parseIPv4_dotted a b c d

theorem toString_natCast (n : Nat) : (toString (n : Int)).toList = Nat.toDigits 10 n := by
  show (Nat.repr n).toList = _
  rw [Nat.toList_repr]

/-! ## Masks by value -/

@[simp] theorem length_maskBytes : ∀ l n, (maskBytes l n).length = l
  | 0, _ => rfl
  | l + 1, n => by
    unfold maskBytes
    split <;> rw [List.length_cons, length_maskBytes]

theorem maskBytes_succ_of_le {l n : Nat} (h : 8 ≤ n) :
    maskBytes (l + 1) n = 0xff :: maskBytes l (n - 8) := by
  show (if 8 ≤ n then _ else _) = _
  rw [if_pos h]

theorem maskBytes_succ_of_lt {l n : Nat} (h : n < 8) :
    maskBytes (l + 1) n = ~~~(0xff >>> n.toUInt8) :: maskBytes l 0 := by
  show (if 8 ≤ n then _ else _) = _
  rw [if_neg (by omega)]

/-- The byte of `n < 8` leading ones keeps the high bits of a byte, and its complement sets
    the low ones; checked over every byte and every `n`. -/
theorem toNat_and_maskByte : ∀ x < 256, ∀ n < 8,
    (UInt8.ofNat x &&& ~~~((0xff : UInt8) >>> n.toUInt8)).toNat = x / 2 ^ (8 - n) * 2 ^ (8 - n) := by
  decide +kernel

theorem toNat_or_not_maskByte : ∀ x < 256, ∀ n < 8,
    (UInt8.ofNat x ||| ~~~(~~~((0xff : UInt8) >>> n.toUInt8))).toNat =
      x / 2 ^ (8 - n) * 2 ^ (8 - n) + (2 ^ (8 - n) - 1) := by
  decide +kernel

theorem pow_256 (l : Nat) : 256 ^ l = 2 ^ (8 * l) := by
  rw [pow_mul]
  rfl

/-- Clearing the low `k` bits of a value leaves its high part alone. -/
theorem add_div_pow_mul_pow (b r k m : Nat) :
    (b * 2 ^ (k + m) + r) / 2 ^ k * 2 ^ k = b * 2 ^ (k + m) + r / 2 ^ k * 2 ^ k := by
  have hsplit : b * 2 ^ (k + m) = b * 2 ^ m * 2 ^ k := by rw [pow_add]; ring
  rw [hsplit, Nat.add_comm, Nat.add_mul_div_right _ _ (Nat.two_pow_pos k)]
  ring

/-- Clearing more bits than the low part has clears it, and the low bits of the high part. -/
theorem add_div_pow_add_mul_pow {b r j : Nat} (i : Nat) (hr : r < 2 ^ j) :
    (b * 2 ^ j + r) / 2 ^ (j + i) * 2 ^ (j + i) = b / 2 ^ i * 2 ^ i * 2 ^ j := by
  have hhigh : (b * 2 ^ j + r) / 2 ^ j = b := by
    rw [Nat.add_comm, Nat.add_mul_div_right _ _ (Nat.two_pow_pos j), Nat.div_eq_of_lt hr,
      Nat.zero_add]
  rw [pow_add, ← Nat.div_div_eq_div_mul, hhigh]
  ring

/-- A fact checked over the values of every byte holds of every byte. -/
theorem forall_byte {P : UInt8 → Prop} (h : ∀ x < 256, P (UInt8.ofNat x)) (b : UInt8) : P b := by
  have hb := h b.toNat b.toNat_lt
  rwa [UInt8.ofNat_toNat] at hb

theorem beVal_lt_two_pow {bs : List UInt8} {l : Nat} (h : bs.length = l) :
    beVal bs < 2 ^ (8 * l) := by
  rw [← pow_256, ← h]
  exact beVal_lt bs

/-- The low bits set below a high part, counted by the factors of the two sizes. -/
theorem add_pred_mul_add_pred (q : Nat) {t u : Nat} (ht : 1 ≤ t) (hu : 1 ≤ u) :
    (q + (t - 1)) * u + (u - 1) = q * u + (u * t - 1) := by
  obtain ⟨t, rfl⟩ := Nat.exists_eq_add_of_le ht
  obtain ⟨u, rfl⟩ := Nat.exists_eq_add_of_le hu
  simp only [Nat.add_sub_cancel_left]
  rw [show (1 + u) * (1 + t) - 1 = u + t + u * t by ring_nf; omega]
  ring

/-- The mask of `n` ones clears the low `8 * l - n` bits. -/
theorem beVal_and_maskBytes : ∀ (l n : Nat) (p : List UInt8), p.length = l → n ≤ 8 * l →
    beVal (List.zipWith (· &&& ·) p (maskBytes l n)) =
      beVal p / 2 ^ (8 * l - n) * 2 ^ (8 * l - n)
  | 0, n, [], _, hn => by simp [beVal]
  | l + 1, n, b :: bs, hlen, hn => by
    have hbs : bs.length = l := by simpa using hlen
    have hr := beVal_lt_two_pow hbs
    by_cases h8 : 8 ≤ n
    · -- a whole byte of ones keeps the byte
      have hff : b &&& 0xff = b := forall_byte (P := fun b => b &&& 0xff = b) (by decide +kernel) b
      rw [maskBytes_succ_of_le h8, List.zipWith_cons_cons, hff, beVal_cons, beVal_cons,
        List.length_zipWith, length_maskBytes, hbs, Nat.min_self,
        beVal_and_maskBytes l (n - 8) bs hbs (by omega), pow_256,
        show 8 * (l + 1) - n = 8 * l - (n - 8) by omega]
      generalize hk : 8 * l - (n - 8) = k
      rw [show 8 * l = k + (n - 8) by omega, add_div_pow_mul_pow]
    · -- the byte with the last ones, then zero bytes
      have hlt : n < 8 := by omega
      have hzero := beVal_and_maskBytes l 0 bs hbs (by omega)
      rw [Nat.sub_zero, Nat.div_eq_of_lt hr, Nat.zero_mul] at hzero
      have hbyte := toNat_and_maskByte b.toNat b.toNat_lt n hlt
      rw [UInt8.ofNat_toNat] at hbyte
      rw [maskBytes_succ_of_lt hlt, List.zipWith_cons_cons, beVal_cons, beVal_cons,
        List.length_zipWith, length_maskBytes, hbs, Nat.min_self, hzero, hbyte, pow_256]
      have hexp : 8 * (l + 1) - n = 8 * l + (8 - n) := by omega
      rw [hexp, add_div_pow_add_mul_pow (8 - n) hr, Nat.add_zero]

/-- The complement of the mask of `n` ones sets the low `8 * l - n` bits. -/
theorem beVal_or_not_maskBytes : ∀ (l n : Nat) (p : List UInt8), p.length = l → n ≤ 8 * l →
    beVal (List.zipWith (fun b m => b ||| ~~~m) p (maskBytes l n)) =
      beVal p / 2 ^ (8 * l - n) * 2 ^ (8 * l - n) + (2 ^ (8 * l - n) - 1)
  | 0, n, [], _, hn => by simp [beVal]
  | l + 1, n, b :: bs, hlen, hn => by
    have hbs : bs.length = l := by simpa using hlen
    have hr := beVal_lt_two_pow hbs
    by_cases h8 : 8 ≤ n
    · -- a whole byte of ones keeps the byte
      have hff : b ||| ~~~0xff = b :=
        forall_byte (P := fun b => b ||| ~~~0xff = b) (by decide +kernel) b
      rw [maskBytes_succ_of_le h8, List.zipWith_cons_cons, hff, beVal_cons, beVal_cons,
        List.length_zipWith, length_maskBytes, hbs, Nat.min_self,
        beVal_or_not_maskBytes l (n - 8) bs hbs (by omega), pow_256,
        show 8 * (l + 1) - n = 8 * l - (n - 8) by omega]
      generalize hk : 8 * l - (n - 8) = k
      rw [show 8 * l = k + (n - 8) by omega, add_div_pow_mul_pow]
      omega
    · -- the byte with the last ones sets the bits below them, the bytes after it all bits
      have hlt : n < 8 := by omega
      have hones := beVal_or_not_maskBytes l 0 bs hbs (by omega)
      rw [Nat.sub_zero, Nat.div_eq_of_lt hr, Nat.zero_mul, Nat.zero_add] at hones
      have hbyte := toNat_or_not_maskByte b.toNat b.toNat_lt n hlt
      rw [UInt8.ofNat_toNat] at hbyte
      rw [maskBytes_succ_of_lt hlt, List.zipWith_cons_cons, beVal_cons, beVal_cons,
        List.length_zipWith, length_maskBytes, hbs, Nat.min_self, hones, hbyte, pow_256]
      have hexp : 8 * (l + 1) - n = 8 * l + (8 - n) := by omega
      rw [hexp, add_div_pow_add_mul_pow (8 - n) hr, pow_add]
      exact add_pred_mul_add_pred _ Nat.one_le_two_pow Nat.one_le_two_pow

/-- `CIDRMask(n, 32)` is the four bytes of `n` ones. -/
theorem CIDRMask_v4 {n : Nat} (h : n ≤ 32) : CIDRMask n 32 = maskBytes 4 n := by
  unfold CIDRMask
  rw [if_neg (by decide), if_neg (by omega)]
  rfl

theorem maskBytes_zero : ∀ l, maskBytes l 0 = List.replicate l 0
  | 0 => rfl
  | l + 1 => by
    rw [maskBytes_succ_of_lt (by omega), maskBytes_zero l]
    rfl

/-- The byte of `n < 8` leading ones: `simpleMaskLength` counts them and finds nothing after. -/
theorem leadingOnes_maskByte : ∀ n < 8,
    ~~~((0xff : UInt8) >>> n.toUInt8) ≠ 0xff ∧
      leadingOnes 8 (~~~((0xff : UInt8) >>> n.toUInt8)) = (n, 0) := by
  decide

theorem simpleMaskLength_maskBytes : ∀ (l n : Nat), n ≤ 8 * l →
    simpleMaskLength (maskBytes l n) = n
  | 0, n, h => by
    rw [show n = 0 by omega]
    rfl
  | l + 1, n, h => by
    by_cases h8 : 8 ≤ n
    · -- a byte of ones, and the rest counted on
      rw [maskBytes_succ_of_le h8]
      simp only [simpleMaskLength, if_true, simpleMaskLength_maskBytes l (n - 8) (by omega)]
      rw [if_neg (by omega)]
      omega
    · obtain ⟨hne, hones⟩ := leadingOnes_maskByte n (by omega)
      have hzero : (maskBytes l 0).all (· == 0) = true := by
        rw [maskBytes_zero]
        simp
      rw [maskBytes_succ_of_lt (by omega)]
      simp only [simpleMaskLength, if_neg hne, hones, ne_eq, not_true_eq_false, if_false, hzero,
        if_true]

/-- `Size` reads the mask of `n` ones of `8 * l` bits back as `(n, 8 * l)`. -/
theorem Size_maskBytes {l n : Nat} (h : n ≤ 8 * l) :
    IPMask.Size (maskBytes l n) = ((n : Int), 8 * (l : Int)) := by
  unfold IPMask.Size
  rw [simpleMaskLength_maskBytes l n h, if_neg (by omega), length_maskBytes]

/-! ## Networks read from dotted text -/

theorem length_IPv4 (a b c d : UInt8) : (IPv4 a b c d).length = 16 := rfl

theorem To4_IPv4 (a b c d : UInt8) : (IPv4 a b c d).To4 = [a, b, c, d] := rfl

theorem To4_of_length {p : IP} (h : p.length = 4) : p.To4 = p := by
  rw [IP.To4, if_pos (show p.length = IPv4len from h)]

theorem take_IPv4 (a b c d : UInt8) : (IPv4 a b c d).take 12 = v4InV6Prefix := rfl

theorem drop_IPv4 (a b c d : UInt8) : (IPv4 a b c d).drop 12 = [a, b, c, d] := rfl

/-- The sixteen-byte form of an address masked by a mask of four bytes is its four bytes
    masked. -/
theorem Mask_IPv4 (a b c d : UInt8) {m : IPMask} (hm : m.length = 4) :
    (IPv4 a b c d).Mask m = List.zipWith (· &&& ·) [a, b, c, d] m := by
  unfold IP.Mask
  simp [hm, length_IPv4, take_IPv4, drop_IPv4, IPv4len, IPv6len]

theorem slash_not_mem_dotted (a b c d : UInt8) : '/' ∉ (dotted [a, b, c, d]).toList := by
  rw [toList_dotted]
  simp only [List.mem_append, List.mem_cons, not_or]
  refine ⟨(sep_not_mem_toDigits _).2.2, by decide, (sep_not_mem_toDigits _).2.2, by decide,
    (sep_not_mem_toDigits _).2.2, by decide, (sep_not_mem_toDigits _).2.2⟩

/-- `ParseCIDR` reads dotted text and a prefix length back as the four masked bytes and the
    mask of that length. -/
theorem ParseCIDR_dotted (v6 : V6Text) {p : IP} (hp : p.length = 4) {n : Nat} (hn : n ≤ 32) :
    ParseCIDR v6 ((dotted p).toList ++ '/' :: Nat.toDigits 10 n) =
      some (v4InV6Prefix ++ p, ⟨List.zipWith (· &&& ·) p (maskBytes 4 n), maskBytes 4 n⟩) := by
  obtain ⟨a, b, c, d, rfl⟩ := List.length_eq_four.mp hp
  show _ = some (IPv4 a b c d, _)
  have hne : IPv4 a b c d ≠ [] := by simp [IPv4]
  unfold ParseCIDR
  rw [GoText.cut_append_cons '/' (slash_not_mem_dotted a b c d)]
  simp only [parseIPv4_dotted, hne, if_false, GoStrconv.decimalVal_toDigits]
  rw [if_neg (by simp only [false_or, IPv4len]; omega)]
  have hmask : CIDRMask (n : Int) (8 * (IPv4len : Int)) = maskBytes 4 n := CIDRMask_v4 hn
  rw [hmask, Mask_IPv4 a b c d (length_maskBytes 4 n)]

/-- An address of four bytes, in either form, is written as dotted text. -/
theorem String_of_To4 (v6 : V6Text) {ip : IP} (h : ip.To4.length = 4) :
    IP.String v6 ip = dotted ip.To4 := by
  have hne : ip ≠ [] := by
    rintro rfl
    exact absurd h (by decide)
  rw [IP.String, if_neg hne, if_pos (show ip.To4.length = IPv4len from h)]

/-- Four bytes are written as their dotted text. -/
theorem String_of_length (v6 : V6Text) {p : IP} (hp : p.length = 4) : IP.String v6 p = dotted p := by
  rw [String_of_To4 v6 (by rw [To4_of_length hp, hp]), To4_of_length hp]

theorem To4_v4InV6Prefix_append {q : IP} (hq : q.length = 4) : IP.To4 (v4InV6Prefix ++ q) = q := by
  obtain ⟨a, b, c, d, rfl⟩ := List.length_eq_four.mp hq
  exact To4_IPv4 a b c d

/-- The text of four bytes reads back as their sixteen-byte form. -/
theorem ParseIP_String_beBytes (v6 : V6Text) (y : Nat) :
    ParseIP v6 (IP.String v6 (beBytes 4 y)).toList = v4InV6Prefix ++ beBytes 4 y := by
  rw [String_of_length v6 (length_beBytes 4 y), ParseIP_dotted v6 (length_beBytes 4 y)]

/-- `Equal` of a sixteen-byte address and a four-byte one: the first is the IPv4 form of the
    second. -/
theorem Equal_of_length_sixteen {ip x : IP} (hip : ip.length = 16) (hx : x.length = 4) :
    IP.Equal ip x = (ip.take 12 == v4InV6Prefix && ip.drop 12 == x) := by
  unfold IP.Equal
  simp [hip, hx, IPv4len, IPv6len]

/-! ## Networks by value -/

/-- The bytes `Contains` compares, all of them at once. -/
theorem all_zip_and_iff : ∀ (p q m : List UInt8), p.length = q.length → p.length = m.length →
    ((((p.zip q).zip m).all fun x => x.1.1 &&& x.2 == x.1.2 &&& x.2) = true ↔
      List.zipWith (· &&& ·) p m = List.zipWith (· &&& ·) q m)
  | [], [], [], _, _ => by simp
  | x :: p, y :: q, z :: m, hq, hm => by
    have ih := all_zip_and_iff p q m (by simpa using hq) (by simpa using hm)
    simp only [List.zip_cons_cons, List.all_cons, Bool.and_eq_true, beq_iff_eq, ih,
      List.zipWith_cons_cons, List.cons.injEq]

/-- Four masked bytes are the bytes of the value with the low bits cleared. -/
theorem zipWith_and_maskBytes {p : List UInt8} (hp : p.length = 4) {n : Nat} (hn : n ≤ 32) :
    List.zipWith (· &&& ·) p (maskBytes 4 n) =
      beBytes 4 (beVal p / 2 ^ (32 - n) * 2 ^ (32 - n)) := by
  have hlen : (List.zipWith (· &&& ·) p (maskBytes 4 n)).length = 4 := by simp [hp]
  rw [← beBytes_beVal (List.zipWith (· &&& ·) p (maskBytes 4 n)), hlen,
    beVal_and_maskBytes 4 n p hp hn]

theorem networkNumberAndMask_v4 {p : IP} (hp : p.length = 4) (n : Nat) :
    networkNumberAndMask ⟨p, maskBytes 4 n⟩ = (p, maskBytes 4 n) := by
  have hpne : p ≠ [] := fun h => by rw [h] at hp; exact absurd hp (by decide)
  unfold networkNumberAndMask
  simp [To4_of_length hp, hpne, hp, IPv4len]

/-- Only an address of four bytes, in either form, is in a network of four bytes. -/
theorem length_To4_of_Contains {p : IP} (hp : p.length = 4) {n : Nat} {ip : IP}
    (h : IPNet.Contains ⟨p, maskBytes 4 n⟩ ip = true) : ip.To4.length = 4 := by
  unfold IPNet.Contains at h
  rw [networkNumberAndMask_v4 hp] at h
  by_cases hne : ip.To4 = []
  · -- `Contains` compares the address as given, which has four bytes, and `To4` keeps them
    have hlen : ip.length = 4 := by
      by_contra hlen
      simp [hne, hp, hlen] at h
    rw [To4_of_length hlen] at hne
    rw [hne] at hlen
    exact absurd hlen (by decide)
  · by_contra hlen
    simp [hne, hp, hlen] at h

/-- `Contains` on an address of four bytes compares the masked bytes by value. -/
theorem Contains_eq_of_To4 {p : IP} (hp : p.length = 4) {n : Nat} (hn : n ≤ 32) {ip : IP}
    (hip : ip.To4.length = 4) :
    IPNet.Contains ⟨p, maskBytes 4 n⟩ ip =
      decide (beVal p / 2 ^ (32 - n) = beVal ip.To4 / 2 ^ (32 - n)) := by
  have hne : ip.To4 ≠ [] := fun h => by rw [h] at hip; exact absurd hip (by decide)
  have hvals : List.zipWith (· &&& ·) p (maskBytes 4 n) =
      List.zipWith (· &&& ·) ip.To4 (maskBytes 4 n) ↔
        beVal p / 2 ^ (32 - n) = beVal ip.To4 / 2 ^ (32 - n) := by
    rw [← beVal_inj_iff (by simp [hp, hip]), beVal_and_maskBytes 4 n p hp hn,
      beVal_and_maskBytes 4 n ip.To4 hip hn]
    exact Nat.mul_left_inj (Nat.two_pow_pos _).ne'
  unfold IPNet.Contains
  simp only [networkNumberAndMask_v4 hp, ne_eq, hne, not_false_eq_true, hip, hp,
    not_true_eq_false, ↓reduceIte]
  rw [Bool.eq_iff_iff, all_zip_and_iff p ip.To4 (maskBytes 4 n) (by rw [hp, hip]) (by simp [hp]),
    hvals, decide_eq_true_iff]

/-- A network of four bytes contains exactly the IPv4 addresses that agree with it above the
    low `32 - n` bits. -/
theorem Contains_v4 {p : IP} (hp : p.length = 4) {n : Nat} (hn : n ≤ 32) (ip : IP) :
    IPNet.Contains ⟨p, maskBytes 4 n⟩ ip = true ↔
      ip.To4.length = 4 ∧ beVal p / 2 ^ (32 - n) = beVal ip.To4 / 2 ^ (32 - n) := by
  constructor
  · intro h
    have hip := length_To4_of_Contains hp h
    rw [Contains_eq_of_To4 hp hn hip, decide_eq_true_iff] at h
    exact ⟨hip, h⟩
  · rintro ⟨hip, hval⟩
    rw [Contains_eq_of_To4 hp hn hip, decide_eq_true_iff]
    exact hval

end GoNet

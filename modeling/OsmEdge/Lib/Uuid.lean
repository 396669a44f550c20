import OsmEdge.Lib.GoStrconv

/-
  UUIDs as `github.com/google/uuid` (v1.3.0) writes and reads them.

  A UUID is sixteen bytes. `String` writes them as 32 lower-case hex digits in groups of
  8-4-4-4-12 joined by dashes. `Parse` reads the UTF-8 bytes of its input, as Go indexes a
  string, and goes by their number: 36 is the dashed form; 45 is the dashed form behind
  `urn:uuid:` in any case; 38 is the dashed form with one byte on each side, meant for
  braces and checked for neither; 32 is the digits without dashes. Upper- and lower-case
  digits are read alike.

  `Parse` reads back what `String` writes (`Parse_String`), and `String` writes no dot
  (`dot_not_mem_String`): the two facts of the package that the certificate names of the ADS
  server rest on, which take `Parse` and `String` as arguments.
-/

namespace Uuid

open GoStrconv

/-- `uuid.UUID`: sixteen bytes. -/
structure UUID where
  bytes : List UInt8
  length_bytes : bytes.length = 16
  deriving DecidableEq

/-- `uuid.Nil`: every byte zero. -/
def Nil : UUID := ⟨List.replicate 16 0, rfl⟩

/-! ## String -/

/-- The two lower-case hex digits of a byte, as `hex.Encode` writes it. -/
def hexByte (b : UInt8) : List Char :=
  [Nat.digitChar (b.toNat / 16), Nat.digitChar (b.toNat % 16)]

/-- The hex digits of some bytes. -/
def hexBytes (bs : List UInt8) : List Char := bs.flatMap hexByte

/-- `encodeHex`: the groups of 4, 2, 2, 2 and 6 bytes, joined by dashes. -/
def encodeHex (bs : List UInt8) : List Char :=
  hexBytes (bs.take 4) ++ '-' :: hexBytes ((bs.drop 4).take 2) ++ '-' ::
    hexBytes ((bs.drop 6).take 2) ++ '-' :: hexBytes ((bs.drop 8).take 2) ++ '-' ::
      hexBytes (bs.drop 10)

/-- `UUID.String`. -/
def UUID.String (u : UUID) : String := String.ofList (encodeHex u.bytes)

/-! ## Parse -/

/-- `xvalues`: the value of a byte as a hex digit. -/
def xvalue (b : UInt8) : Option Nat :=
  let n := b.toNat
  if 48 ≤ n ∧ n ≤ 57 then some (n - 48)
  else if 97 ≤ n ∧ n ≤ 102 then some (n - 87)
  else if 65 ≤ n ∧ n ≤ 70 then some (n - 55)
  else none

/-- `xtob`: the byte two hex digits write. -/
def xtob (x1 x2 : UInt8) : Option UInt8 :=
  match xvalue x1, xvalue x2 with
  | some b1, some b2 => some (UInt8.ofNat (b1 * 16 + b2))
  | _, _ => none

/-- The bytes of the hex pairs at the positions `xs`. -/
def readPairs (s : List UInt8) : List Nat → Option (List UInt8)
  | [] => some []
  | x :: xs =>
    match xtob (s.getD x 0) (s.getD (x + 1) 0), readPairs s xs with
    | some b, some bs => some (b :: bs)
    | _, _ => none

theorem length_readPairs {s : List UInt8} :
    ∀ {xs : List Nat} {bs : List UInt8}, readPairs s xs = some bs → bs.length = xs.length
  | [], bs, h => by cases h; rfl
  | x :: xs, bs, h => by
    unfold readPairs at h
    split at h
    · cases h
      rename_i hrest
      rw [List.length_cons, List.length_cons, length_readPairs hrest]
    · cases h

/-- The errors of `uuid.Parse`. -/
inductive ParseError
  | invalidLength (len : Nat)
  | invalidURNPrefix (pre : List UInt8)
  | invalidFormat
  deriving DecidableEq, Repr

/-- `%q` of a byte string: the bytes below `0x80` as `strconv.Quote` writes them, the others
    as `\xNN`. Go writes a complete multi-byte UTF-8 character as the character instead. -/
def quoteBytes (bs : List UInt8) : String :=
  String.ofList (doubleQuote :: bs.flatMap (fun b =>
    if b.toNat < 0x80 then quoteChar (Char.ofNat b.toNat)
    else [backslash, 'x', Nat.digitChar (b.toNat / 16), Nat.digitChar (b.toNat % 16)]) ++
      [doubleQuote])

/-- The texts of the errors. -/
def ParseError.Error : ParseError → String
  | .invalidLength len => "invalid UUID length: " ++ toString len
  | .invalidURNPrefix pre => "invalid urn prefix: " ++ quoteBytes pre
  | .invalidFormat => "invalid UUID format"

/-- The positions of the sixteen hex pairs of the dashed form. -/
def dashedPositions : List Nat := [0, 2, 4, 6, 9, 11, 14, 16, 19, 21, 24, 26, 28, 30, 32, 34]

/-- The dashed form `xxxxxxxx-xxxx-xxxx-xxxx-xxxxxxxxxxxx` at the start of `s`, which holds at
    least 36 bytes. -/
def parseDashed (s : List UInt8) : Except ParseError UUID :=
  if s.getD 8 0 ≠ 45 ∨ s.getD 13 0 ≠ 45 ∨ s.getD 18 0 ≠ 45 ∨ s.getD 23 0 ≠ 45 then
    .error .invalidFormat
  else
    match h : readPairs s dashedPositions with
    | some bs => .ok ⟨bs, length_readPairs h⟩
    | none => .error .invalidFormat

/-- ASCII lower case, which is all `strings.EqualFold` folds against `urn:uuid:`. -/
def asciiLower (b : UInt8) : UInt8 := if 65 ≤ b.toNat ∧ b.toNat ≤ 90 then b + 32 else b

/-- The bytes of `urn:uuid:`. -/
def urnPrefix : List UInt8 := [117, 114, 110, 58, 117, 117, 105, 100, 58]

/-- `uuid.Parse`, on the UTF-8 bytes of `s`. -/
def Parse (s : String) : Except ParseError UUID :=
  let b := s.toUTF8.data.toList
  if b.length = 36 then parseDashed b
  else if b.length = 36 + 9 then
    if (b.take 9).map asciiLower = urnPrefix then parseDashed (b.drop 9)
    else .error (.invalidURNPrefix (b.take 9))
  else if b.length = 36 + 2 then parseDashed (b.drop 1)
  else if b.length = 32 then
    match h : readPairs b ((List.range 16).map (2 * ·)) with
    | some bs => .ok ⟨bs, (length_readPairs h).trans (by simp)⟩
    | none => .error .invalidFormat
  else .error (.invalidLength b.length)

/-! ## Parse reads back what String writes -/

/-- The bytes of the dashed form, as `String` writes them. -/
def dashedBytes (bs : List UInt8) : List UInt8 := (encodeHex bs).map fun c => c.val.toUInt8

/-- The UTF-8 bytes of ASCII text are its characters' codes. -/
theorem toUTF8_ofList {l : List Char} (hl : ∀ c ∈ l, c.utf8Size = 1) :
    (String.ofList l).toUTF8.data.toList = l.map fun c => c.val.toUInt8 := by
  rw [String.toUTF8_eq_toByteArray, String.toByteArray_ofList, List.utf8Encode,
    List.toList_data_toByteArray]
  induction l with
  | nil => rfl
  | cons c l ih =>
    rw [List.flatMap_cons, String.utf8EncodeChar_eq_singleton (hl c List.mem_cons_self),
      ih fun d hd => hl d (List.mem_cons_of_mem c hd)]
    rfl

/-- What holds of a dash and of every hex digit holds of every character `String` writes. -/
theorem forall_mem_encodeHex {P : Char → Prop} (hdash : P '-')
    (hhex : ∀ d < 16, P (Nat.digitChar d)) (bs : List UInt8) : ∀ c ∈ encodeHex bs, P c := by
  have hbytes : ∀ xs : List UInt8, (∀ c ∈ hexBytes xs, P c) = True := by
    refine fun xs => eq_true fun c hc => ?_
    obtain ⟨b, -, hb⟩ := List.mem_flatMap.mp hc
    have := b.toNat_lt
    simp only [hexByte, List.mem_cons, List.not_mem_nil, or_false] at hb
    rcases hb with rfl | rfl
    · exact hhex _ (by omega)
    · exact hhex _ (by omega)
  simp only [encodeHex, List.forall_mem_append, List.forall_mem_cons, hbytes, hdash, and_self]

theorem digitChar_utf8Size {d : Nat} (hd : d < 16) : (Nat.digitChar d).utf8Size = 1 := by
  have hall : ∀ d < 16, (Nat.digitChar d).utf8Size = 1 := by decide
  exact hall d hd

/-- The UTF-8 bytes of the text `String` writes. -/
theorem toUTF8_String (u : UUID) : u.String.toUTF8.data.toList = dashedBytes u.bytes := by
  exact toUTF8_ofList (forall_mem_encodeHex (P := fun c => c.utf8Size = 1) rfl (fun d hd => digitChar_utf8Size hd) u.bytes)

theorem length_hexBytes (bs : List UInt8) : (hexBytes bs).length = 2 * bs.length := by
  induction bs with
  | nil => rfl
  | cons b bs ih =>
    rw [hexBytes, List.flatMap_cons, List.length_append, ← hexBytes, ih]
    simp only [hexByte, List.length_cons, List.length_nil]
    omega

theorem length_dashedBytes (u : UUID) : (dashedBytes u.bytes).length = 36 := by
  simp [dashedBytes, encodeHex, length_hexBytes, u.length_bytes]

/-- Each hex digit `String` writes reads back as its value. -/
theorem xvalue_digitChar {d : Nat} (hd : d < 16) :
    xvalue (Nat.digitChar d).val.toUInt8 = some d := by
  have hall : ∀ d < 16, xvalue (Nat.digitChar d).val.toUInt8 = some d := by decide
  exact hall d hd

/-- The two digits of a byte read back as the byte. -/
theorem xtob_hexByte (b : UInt8) :
    xtob (Nat.digitChar (b.toNat / 16)).val.toUInt8 (Nat.digitChar (b.toNat % 16)).val.toUInt8 =
      some b := by
  have hb : b.toNat < 256 := b.toNat_lt
  rw [xtob, xvalue_digitChar (by omega), xvalue_digitChar (by omega)]
  dsimp only
  rw [Nat.div_add_mod' b.toNat 16, UInt8.ofNat_toNat]

/-- The dashed form reads back as its bytes. -/
theorem parseDashed_dashedBytes (u : UUID) : parseDashed (dashedBytes u.bytes) = .ok u := by
  obtain ⟨bytes, hlen⟩ := u
  match bytes, hlen with
  | [b0, b1, b2, b3, b4, b5, b6, b7, b8, b9, b10, b11, b12, b13, b14, b15], _ =>
    simp only [dashedBytes, encodeHex, hexBytes, hexByte, List.take, List.drop,
      List.flatMap_cons, List.flatMap_nil, List.cons_append, List.nil_append, List.append_nil,
      List.map_cons, List.map_nil]
    unfold parseDashed
    simp only [List.getD_cons_succ, List.getD_cons_zero]
    rw [if_neg (by decide)]
    split
    · rename_i bs hpairs
      simp only [dashedPositions, readPairs, List.getD_cons_succ, List.getD_cons_zero,
        xtob_hexByte, Option.some.injEq] at hpairs
      subst hpairs
      rfl
    · rename_i hpairs
      simp only [dashedPositions, readPairs, List.getD_cons_succ, List.getD_cons_zero,
        xtob_hexByte, reduceCtorEq] at hpairs

/-- `Parse` reads the 36-byte form. -/
theorem Parse_of_length {s : String} (h : s.toUTF8.data.toList.length = 36) :
    Parse s = parseDashed s.toUTF8.data.toList := by
  rw [Parse]
  exact if_pos h

/-- `Parse` reads back what `String` writes. -/
theorem Parse_String (u : UUID) : Parse u.String = .ok u := by
  have hbytes := toUTF8_String u
  rw [Parse_of_length (by rw [hbytes, length_dashedBytes]), hbytes, parseDashed_dashedBytes]

/-- The text `String` writes holds no dot. -/
theorem dot_not_mem_String (u : UUID) : '.' ∉ u.String.toList := by
  have hdigit : ∀ d < 16, Nat.digitChar d ≠ '.' := by decide
  intro hdot
  rw [UUID.String, String.toList_ofList] at hdot
  exact forall_mem_encodeHex (P := (· ≠ '.')) (by decide) hdigit u.bytes '.' hdot rfl

end Uuid

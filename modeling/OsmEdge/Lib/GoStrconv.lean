import OsmEdge.Lib.GoText

/-
  `strconv` with its errors, in base 10.

  `parseUintErr` is `strconv.ParseUint` as Go scans its input, left to right: it stops at the
  first character that is not a digit (`ErrSyntax`) or at the first digit that takes the
  value past the bit size (`ErrRange`), whichever comes first, and an empty input is a
  syntax error. On success it agrees with the error-free `GoText.parseUint`
  (`parseUintErr_eq_ok_iff`). `ParseUint` wraps the error in a `NumError`, whose text quotes
  the input with `strconv.Quote`. The decimal text of a number (`%d`, Lean's `Nat.repr`) is
  read back to the number (`parseUintErr_repr`).

  `Quote` escapes what Go escapes in ASCII and Latin-1. Above Latin-1 every character is
  taken as printable, where Go consults the Unicode tables and escapes the unprintable
  ones.
-/

namespace GoStrconv

open GoText

/-! ## ParseUint -/

/-- `strconv.ErrSyntax` and `strconv.ErrRange`. -/
inductive NumErr
  | ErrSyntax
  | ErrRange
  deriving DecidableEq, Repr

/-- The texts of the two errors. -/
def NumErr.Error : NumErr → String
  | .ErrSyntax => "invalid syntax"
  | .ErrRange => "value out of range"

/-- The digit loop of `ParseUint` in base 10, with the value read so far. -/
def parseUintLoop (maxVal : Nat) : Nat → List Char → Except NumErr Nat
  | n, [] => .ok n
  | n, c :: cs =>
    match digitVal c with
    | none => .error .ErrSyntax
    | some d =>
      if maxVal < n * 10 + d then .error .ErrRange else parseUintLoop maxVal (n * 10 + d) cs

/-- `strconv.ParseUint(s, 10, bitSize)` with the error it returns, for `bitSize ≤ 64`, where
    Go's tests against the 64-bit cutoff fail only on values past `maxVal` too. -/
def parseUintErr (s : List Char) (bitSize : Nat) : Except NumErr Nat :=
  if s = [] then .error .ErrSyntax else parseUintLoop (2 ^ bitSize - 1) 0 s

/-! ## Quote and NumError -/

/-- The backslash. -/
def backslash : Char := Char.ofNat 92

/-- The double quote. -/
def doubleQuote : Char := Char.ofNat 34

/-- `unicode.IsPrint` on ASCII and Latin-1: the ASCII graphic characters and the space, and
    the Latin-1 characters from U+00A1 on but the soft hyphen U+00AD. Every character above
    Latin-1 is taken as printable. -/
def isPrint (c : Char) : Bool :=
  let n := c.toNat
  (0x20 ≤ n && n ≤ 0x7E) || (0xA1 ≤ n && n ≤ 0xFF && n != 0xAD) || 0xFF < n

/-- The letter of the one-letter escapes `\a \b \f \n \r \t \v`. -/
def escapeLetter : Nat → Option Char
  | 7 => some 'a'
  | 8 => some 'b'
  | 12 => some 'f'
  | 10 => some 'n'
  | 13 => some 'r'
  | 9 => some 't'
  | 11 => some 'v'
  | _ => none

/-- One character as `strconv.Quote` writes it (`appendEscapedRune` with the double quote). -/
def quoteChar (c : Char) : List Char :=
  if c = doubleQuote ∨ c = backslash then [backslash, c]
  else if isPrint c then [c]
  else
    match escapeLetter c.toNat with
    | some e => [backslash, e]
    | none =>
      if c.toNat < 0x20 ∨ c.toNat = 0x7F then
        [backslash, 'x', Nat.digitChar (c.toNat / 16), Nat.digitChar (c.toNat % 16)]
      else
        backslash :: 'u' :: (List.range 4).reverse.map fun i => Nat.digitChar (c.toNat / 16 ^ i % 16)

/-- `strconv.Quote`. -/
def Quote (s : String) : String :=
  String.ofList (doubleQuote :: s.toList.flatMap quoteChar ++ [doubleQuote])

/-- `strconv.NumError`. -/
structure NumError where
  Func : String
  Num : String
  Err : NumErr
  deriving DecidableEq, Repr

/-- `(*NumError).Error()`. -/
def NumError.Error (e : NumError) : String :=
  "strconv." ++ e.Func ++ ": parsing " ++ Quote e.Num ++ ": " ++ e.Err.Error

/-- `strconv.ParseUint(s, 10, bitSize)`. -/
def ParseUint (s : String) (bitSize : Nat) : Except NumError Nat :=
  (parseUintErr s.toList bitSize).mapError fun err => ⟨"ParseUint", s, err⟩

example : (ParseUint "8x" 16).mapError NumError.Error =
    .error "strconv.ParseUint: parsing \x228x\x22: invalid syntax" := by decide
example : parseUintErr "70000x".toList 16 = .error .ErrRange := by decide

/-! ## The loop -/

theorem parseUintLoop_cons (maxVal n : Nat) (c : Char) (cs : List Char) :
    parseUintLoop maxVal n (c :: cs) =
      match digitVal c with
      | none => .error .ErrSyntax
      | some d =>
        if maxVal < n * 10 + d then .error .ErrRange
        else parseUintLoop maxVal (n * 10 + d) cs := rfl

/-- The loop over two pieces runs over the first, then from its value over the second. -/
theorem parseUintLoop_append (maxVal : Nat) (ys : List Char) :
    ∀ (xs : List Char) (n : Nat),
      parseUintLoop maxVal n (xs ++ ys) = (parseUintLoop maxVal n xs).bind
        fun v => parseUintLoop maxVal v ys
  | [], _ => rfl
  | c :: xs, n => by
    rw [List.cons_append, parseUintLoop_cons, parseUintLoop_cons]
    cases digitVal c with
    | none => rfl
    | some d =>
      dsimp only
      split
      · rfl
      · exact parseUintLoop_append maxVal ys xs _

/-- The value stays at most `maxVal`. -/
theorem parseUintLoop_le {maxVal : Nat} :
    ∀ {s : List Char} {n v : Nat}, n ≤ maxVal → parseUintLoop maxVal n s = .ok v → v ≤ maxVal
  | [], n, v, hn, h => by
    cases h
    exact hn
  | c :: cs, n, v, _, h => by
    rw [parseUintLoop_cons] at h
    cases hc : digitVal c with
    | none => rw [hc] at h; cases h
    | some d =>
      rw [hc] at h
      dsimp only at h
      split at h
      · cases h
      · exact parseUintLoop_le (by omega) h

/-- On success the loop computes `n` followed by the decimal digits of `s`. -/
theorem parseUintLoop_eq_ok {maxVal : Nat} :
    ∀ {s : List Char}, s ≠ [] → ∀ {n v : Nat},
      parseUintLoop maxVal n s = .ok v ↔
        ∃ w, decimalVal s = some w ∧ v = n * 10 ^ s.length + w ∧ v ≤ maxVal
  | [], hs, _, _ => absurd rfl hs
  | [c], _, n, v => by
    rw [parseUintLoop_cons]
    cases hc : digitVal c with
    | none => simp [decimalVal, hc]
    | some d =>
      dsimp only
      split
      · simp [decimalVal, hc]
        omega
      · simp only [parseUintLoop, Except.ok.injEq, decimalVal, hc, Option.some.injEq,
          List.length_singleton, pow_one, exists_eq_left']
        omega
  | c :: d :: ds, _, n, v => by
    have ih := @parseUintLoop_eq_ok maxVal (d :: ds) (List.cons_ne_nil d ds)
    have hpow : n * 10 ^ (c :: d :: ds).length = n * 10 * 10 ^ (d :: ds).length := by
      rw [List.length_cons (a := c), pow_succ]
      ring
    rw [parseUintLoop_cons, decimalVal_cons_cons, hpow]
    cases hc : digitVal c with
    | none => simp
    | some e =>
      dsimp only
      split
      · -- the first digit already takes the value past `maxVal`
        rename_i hrange
        simp only [reduceCtorEq, false_iff, Option.bind_some, Option.bind_eq_some_iff,
          Option.some.injEq, not_exists, not_and]
        rintro _ ⟨w, -, rfl⟩ hv hle
        have : n * 10 + e ≤ (n * 10 + e) * 10 ^ (d :: ds).length :=
          Nat.le_mul_of_pos_right _ (Nat.pow_pos (by decide))
        have hmul : (n * 10 + e) * 10 ^ (d :: ds).length =
            n * 10 * 10 ^ (d :: ds).length + e * 10 ^ (d :: ds).length := Nat.add_mul _ _ _
        omega
      · rw [ih]
        simp only [Option.bind_some, Option.bind_eq_some_iff, Option.some.injEq]
        constructor
        · rintro ⟨w, hw, rfl, hle⟩
          refine ⟨_, ⟨w, hw, rfl⟩, by rw [Nat.add_mul]; ring, hle⟩
        · rintro ⟨_, ⟨w, hw, rfl⟩, rfl, hle⟩
          refine ⟨w, hw, by rw [Nat.add_mul]; ring, hle⟩

/-- `parseUintErr` succeeds exactly where the error-free model does, with the same value. -/
theorem parseUintErr_eq_ok_iff {s : List Char} {bitSize n : Nat} :
    parseUintErr s bitSize = .ok n ↔ parseUint s bitSize = some n := by
  unfold parseUintErr parseUint
  by_cases hs : s = []
  · subst hs
    simp [decimalVal]
  · rw [if_neg hs, parseUintLoop_eq_ok hs]
    have hpos : 0 < 2 ^ bitSize := Nat.two_pow_pos bitSize
    cases decimalVal s with
    | none => simp
    | some w =>
      simp only [Option.some.injEq, exists_eq_left', Nat.zero_mul, Nat.zero_add]
      by_cases hw : w < 2 ^ bitSize
      · rw [if_pos hw, Option.some.injEq]
        omega
      · rw [if_neg hw]
        simp only [reduceCtorEq, iff_false, not_and]
        omega

/-! ## The decimal text of a number -/

theorem digitVal_digitChar {d : Nat} (h : d < 10) : digitVal (Nat.digitChar d) = some d := by
  have hall : ∀ d < 10, digitVal (Nat.digitChar d) = some d := by decide
  exact hall d h

/-- The loop reads the decimal digits of `n` back to `n`. -/
theorem parseUintLoop_toDigits {maxVal : Nat} :
    ∀ n, n ≤ maxVal → parseUintLoop maxVal 0 (Nat.toDigits 10 n) = .ok n := by
  intro n
  induction n using Nat.strong_induction_on with
  | _ n ih =>
    intro hn
    rw [Nat.toDigits_eq_if (by decide)]
    split
    · rename_i hlt
      rw [parseUintLoop_cons, digitVal_digitChar hlt]
      dsimp only
      rw [if_neg (by omega), Nat.zero_mul, Nat.zero_add]
      rfl
    · -- the digits of `n / 10`, then the last digit
      rename_i hge
      have hlast : n % 10 < 10 := Nat.mod_lt n (by decide)
      rw [parseUintLoop_append, ih (n / 10) (by omega) (by omega)]
      show parseUintLoop maxVal (n / 10) [(n % 10).digitChar] = .ok n
      rw [parseUintLoop_cons, digitVal_digitChar hlast]
      dsimp only
      rw [if_neg (by omega), Nat.div_add_mod' n 10]
      rfl

/-- `%d` of a number that fits reads back as the number. -/
theorem parseUintErr_repr {n bitSize : Nat} (h : n < 2 ^ bitSize) :
    parseUintErr (Nat.repr n).toList bitSize = .ok n := by
  rw [parseUintErr, if_neg (by rw [Nat.toList_repr]; exact Nat.toDigits_ne_nil),
    Nat.toList_repr, parseUintLoop_toDigits n (by omega)]

/-- The decimal digits of a number read back as the number. -/
theorem decimalVal_toDigits (n : Nat) : decimalVal (Nat.toDigits 10 n) = some n := by
  have hok := parseUintErr_eq_ok_iff.mp (parseUintErr_repr (Nat.lt_two_pow_self (n := n)))
  rw [Nat.toList_repr, parseUint] at hok
  split at hok
  · rename_i m hm
    split at hok
    · cases hok
      exact hm
    · cases hok
  · cases hok

/-- The decimal text of a positive number does not start with `0`. -/
theorem toDigits_head_ne_zero : ∀ {n : Nat}, 0 < n → ∃ c cs, Nat.toDigits 10 n = c :: cs ∧ c ≠ '0'
  | n, hn => by
    rw [Nat.toDigits_eq_if (by decide)]
    split
    · rename_i hlt
      have hdigit : ∀ d < 10, 0 < d → Nat.digitChar d ≠ '0' := by decide
      exact ⟨_, [], rfl, hdigit n hlt hn⟩
    · -- the first digit is the first digit of `n / 10`
      obtain ⟨c, cs, hcs, hc⟩ := toDigits_head_ne_zero (n := n / 10) (by omega)
      exact ⟨c, cs ++ [(n % 10).digitChar], by rw [hcs, List.cons_append], hc⟩
termination_by n => n
decreasing_by omega

theorem isDigit_of_mem_repr {n : Nat} {c : Char} (h : c ∈ (Nat.repr n).toList) :
    c.isDigit = true := by
  rw [Nat.toList_repr] at h
  exact Nat.isDigit_of_mem_toDigits (by decide) (by decide) h

end GoStrconv

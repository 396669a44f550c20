import Mathlib.Data.List.Basic
import Mathlib.Tactic.Ring
import Mathlib.Data.UInt

/-
  Go text functions the control plane calls on annotation values and protocol fields:
  `strings.Split` on a one-byte separator, `strings.TrimSpace`, `strings.ToLower` and
  `strings.EqualFold` as far as the comparisons with ASCII text they feed, and
  `strconv.ParseUint` and `strconv.Atoi` in base 10; and the wrap-around of Go's 64-bit
  `int`. They work on `List Char`, so that the kernel evaluates them on concrete inputs
  (Lean's own `String.splitOn` and `toNat?` do not reduce there). Nothing here is specific to the mesh: this is Go's documented
  behaviour for these functions, restricted to what the callers use (base 10, no `_`
  separators, which Go accepts only in base 0).
-/

namespace GoText

/-! ## strings.Split and strings.TrimSpace -/

/-- `strings.Split(s, sep)` for a one-character separator: the pieces between
    separators, in order. `Split("", sep)` is `[""]`, and a trailing separator gives a
    trailing empty piece. -/
def split (sep : Char) : List Char → List (List Char)
  | [] => [[]]
  | c :: cs =>
    if c = sep then [] :: split sep cs
    else
      match split sep cs with
      | [] => [[c]]
      | w :: ws => (c :: w) :: ws

/-- `strings.Cut(s, sep)` for a one-character separator: the text before the first separator
    and the text after it, if there is one. -/
def cut (sep : Char) : List Char → Option (List Char × List Char)
  | [] => none
  | c :: cs => if c = sep then some ([], cs) else (cut sep cs).map fun p => (c :: p.1, p.2)

/-- `strings.SplitN(s, sep, n)` for a one-character separator and `n ≥ 0`: at most `n`
    pieces, the last one the rest of the text; none for `n = 0`. -/
def splitN (sep : Char) : Nat → List Char → List (List Char)
  | 0, _ => []
  | 1, s => [s]
  | n + 2, s =>
    match cut sep s with
    | none => [s]
    | some (before, after) => before :: splitN sep (n + 1) after

/-- Go's `unicode.IsSpace`: the Latin-1 spaces `\t \n \v \f \r`, space, U+0085 and U+00A0,
    and above Latin-1 the characters with the White_Space property. -/
def isSpace (c : Char) : Bool :=
  let n := c.toNat
  n = 9 || n = 10 || n = 11 || n = 12 || n = 13 || n = 32 || n = 0x85 || n = 0xA0 ||
    n = 0x1680 || (0x2000 ≤ n && n ≤ 0x200A) || n = 0x2028 || n = 0x2029 ||
    n = 0x202F || n = 0x205F || n = 0x3000

/-- `strings.TrimSpace`: drop leading and trailing white space. -/
def trimSpace (s : List Char) : List Char :=
  ((s.dropWhile isSpace).reverse.dropWhile isSpace).reverse

/-- `strings.FieldsFunc(s, func(r rune) bool { return r == sep })`: the non-empty pieces
    between separators. -/
def fields (sep : Char) (s : List Char) : List (List Char) :=
  (split sep s).filter fun w => !w.isEmpty

/-- The pieces of `s` between the characters that satisfy `f`, empty ones included. -/
def splitWhere (f : Char → Bool) : List Char → List (List Char)
  | [] => [[]]
  | c :: cs =>
    if f c then [] :: splitWhere f cs
    else
      match splitWhere f cs with
      | [] => [[c]]
      | w :: ws => (c :: w) :: ws

/-- `strings.FieldsFunc(s, f)`: the non-empty pieces between the characters that satisfy
    `f`. -/
def fieldsFunc (f : Char → Bool) (s : List Char) : List (List Char) :=
  (splitWhere f s).filter fun w => !w.isEmpty

/-- `strings.TrimSuffix`. -/
def trimSuffix (s suffix : List Char) : List Char :=
  if suffix.isSuffixOf s then s.take (s.length - suffix.length) else s

/-- `unicode.ToLower` on the runes it lowers into ASCII: the ASCII capitals, U+0130 (to `i`)
    and U+212A, the Kelvin sign (to `k`). Other runes are kept. Go lowers the other Unicode
    capitals to letters outside ASCII, so the two agree on every comparison with ASCII text. -/
def lowerRune (c : Char) : Char :=
  if c.val = 0x130 then 'i' else if c.val = 0x212A then 'k' else c.toLower

/-- `strings.ToLower`: every rune lowered. -/
def toLower (s : String) : String := String.ofList (s.toList.map lowerRune)

/-- The ASCII capitals of a text lowered, every other character kept. -/
def asciiLower (s : String) : String := String.ofList (s.toList.map Char.toLower)

/-- `strings.EqualFold(s, t)` where `t` is made of ASCII letters other than `k` and `s`, whose
    only case variants are their ASCII capitals: `s` and `t` agree once their ASCII capitals
    are lowered. -/
def equalFold (s t : String) : Bool := asciiLower s == asciiLower t

/-- Text without ASCII capitals is its own ASCII lower-case form. -/
theorem asciiLower_eq_self {s : String} (h : ∀ c ∈ s.toList, c.isUpper = false) :
    asciiLower s = s := by
  have hc : ∀ c ∈ s.toList, c.toLower = c := by
    intro c hc
    unfold Char.toLower
    exact dif_neg (of_decide_eq_false (h c hc))
  unfold asciiLower
  rw [List.map_congr_left hc, List.map_id', String.ofList_toList]

/-- On texts without ASCII capitals, `equalFold` is equality. -/
theorem equalFold_iff_eq {s t : String} (hs : ∀ c ∈ s.toList, c.isUpper = false)
    (ht : ∀ c ∈ t.toList, c.isUpper = false) : equalFold s t = true ↔ s = t := by
  simp [equalFold, asciiLower_eq_self hs, asciiLower_eq_self ht]

/-! ## strconv in base 10 -/

/-- The value of a decimal digit character, if it is one. -/
def digitVal (c : Char) : Option Nat :=
  if '0' ≤ c ∧ c ≤ '9' then some (c.toNat - '0'.toNat) else none

/-- The value of a non-empty run of decimal digits, most significant first; `none` at the
    first character that is not a digit. -/
def decimalVal : List Char → Option Nat
  | [] => none
  | [c] => digitVal c
  | c :: d :: ds => do
    let v ← digitVal c
    let w ← decimalVal (d :: ds)
    pure (v * 10 ^ (d :: ds).length + w)

/-- `strconv.ParseUint(s, 10, bitSize)`: every character a decimal digit, at least one,
    and the value below `2^bitSize`; otherwise Go returns a syntax or range error. -/
def parseUint (s : List Char) (bitSize : Nat) : Option Nat :=
  match decimalVal s with
  | some n => if n < 2 ^ bitSize then some n else none
  | none => none

/-- `strconv.Atoi` on a 64-bit platform: an optional sign, then decimal digits, with the
    value inside the `int64` range. -/
def atoi : List Char → Option Int
  | '+' :: ds => (decimalVal ds).bind fun n =>
      if n < 2 ^ 63 then some (n : Int) else none
  | '-' :: ds => (decimalVal ds).bind fun n =>
      if n ≤ 2 ^ 63 then some (-(n : Int)) else none
  | ds => (decimalVal ds).bind fun n =>
      if n < 2 ^ 63 then some (n : Int) else none

/-! ## time.ParseDuration -/

/-- Whether a character is a decimal digit. -/
def isDigit (c : Char) : Bool := '0' ≤ c && c ≤ '9'

/-- The units `time.ParseDuration` accepts, in nanoseconds. -/
def durationUnit (u : List Char) : Option Nat :=
  if u = ['n', 's'] then some 1
  else if u = ['u', 's'] ∨ u = ['µ', 's'] ∨ u = ['μ', 's'] then some 1000
  else if u = ['m', 's'] then some 1000000
  else if u = ['s'] then some 1000000000
  else if u = ['m'] then some 60000000000
  else if u = ['h'] then some 3600000000000
  else none

/-- The loop of `time.ParseDuration` over components `[0-9]+[a-z]+`, summed in nanoseconds;
    `fuel` bounds the number of components (the text's length is enough). A component with a
    fraction (`1.5s`), which Go accepts, is refused here. -/
def durationComponents : Nat → List Char → Option Nat
  | _, [] => some 0
  | 0, _ :: _ => none
  | fuel + 1, s@(_ :: _) => do
    let v ← decimalVal (s.takeWhile isDigit)
    let rest := s.dropWhile isDigit
    let unit ← durationUnit (rest.takeWhile fun c => !(c == '.' || isDigit c))
    if v > 2 ^ 63 / unit then none
    else
      let d ← durationComponents fuel (rest.dropWhile fun c => !(c == '.' || isDigit c))
      if v * unit + d > 2 ^ 63 then none else pure (v * unit + d)

/-- `time.ParseDuration`, in nanoseconds: an optional sign, then `0` or components with
    units. -/
def parseDuration (s : List Char) : Option Int :=
  let (neg, s) : Bool × List Char := match s with
    | '-' :: t => (true, t)
    | '+' :: t => (false, t)
    | t => (false, t)
  if s = ['0'] then some 0
  else if s = [] then none
  else (durationComponents s.length s).bind fun d =>
    if neg then some (-(d : Int))
    else if d > 2 ^ 63 - 1 then none else some (d : Int)

example : parseDuration "1s".toList = some 1000000000 := by decide
example : parseDuration "1m30s".toList = some 90000000000 := by decide
example : parseDuration "0".toList = some 0 := by decide
example : parseDuration "5".toList = none := by decide

/-! ## Facts the models use -/

@[simp] theorem split_nil (sep : Char) : split sep [] = [[]] := rfl

theorem split_cons_sep (sep : Char) (cs : List Char) :
    split sep (sep :: cs) = [] :: split sep cs := by
  show (if sep = sep then _ else _) = _
  rw [if_pos rfl]

/-- A character other than the separator joins the first piece of the rest. -/
theorem split_cons_of_ne (sep : Char) {c : Char} (hc : c ≠ sep) (cs : List Char) :
    split sep (c :: cs) =
      match split sep cs with
      | [] => [[c]]
      | w :: ws => (c :: w) :: ws := by
  show (if c = sep then _ else _) = _
  rw [if_neg hc]

theorem split_ne_nil (sep : Char) (s : List Char) : split sep s ≠ [] := by
  cases s with
  | nil => simp
  | cons c cs =>
    by_cases hc : c = sep
    · subst hc
      simp [split_cons_sep]
    · rw [split_cons_of_ne sep hc]
      split <;> simp

/-- Splitting at a separator splits the two sides apart. -/
theorem split_append_cons (sep : Char) (b : List Char) :
    ∀ a : List Char, split sep (a ++ sep :: b) = split sep a ++ split sep b
  | [] => by simp [split_cons_sep]
  | c :: a => by
    have ih := split_append_cons sep b a
    by_cases hc : c = sep
    · subst hc
      simp [split_cons_sep, ih]
    · -- the first piece of `a` grows by `c`, whatever follows the separator
      obtain ⟨w, ws, hw⟩ := List.exists_cons_of_ne_nil (split_ne_nil sep a)
      rw [List.cons_append, split_cons_of_ne sep hc, split_cons_of_ne sep hc, ih, hw]
      rfl

/-- A text without the separator is its only piece. -/
theorem split_of_not_mem (sep : Char) : ∀ s : List Char, sep ∉ s → split sep s = [s]
  | [] => fun _ => rfl
  | c :: s => fun h => by
    have hc : c ≠ sep := fun e => h (e ▸ List.mem_cons_self)
    have ih := split_of_not_mem sep s fun hs => h (List.mem_cons_of_mem c hs)
    rw [split_cons_of_ne sep hc, ih]

/-- The first piece is what stands before the first separator. -/
theorem headD_split_append_cons (sep : Char) {a : List Char} (b : List Char) (ha : sep ∉ a) :
    (split sep (a ++ sep :: b)).headD [] = a := by
  rw [split_append_cons, split_of_not_mem sep a ha]
  rfl

/-- A text with `k` separators in it splits into more than `k` pieces. -/
theorem length_split_append_cons (sep : Char) (a b : List Char) :
    (split sep b).length + 1 ≤ (split sep (a ++ sep :: b)).length := by
  rw [split_append_cons, List.length_append]
  have := List.length_pos_iff.mpr (split_ne_nil sep a)
  omega

/-- A text with three separators splits into at least four pieces. -/
theorem three_lt_length_split (sep : Char) (a b c d : List Char) :
    3 < (split sep (a ++ sep :: (b ++ sep :: (c ++ sep :: d)))).length := by
  have h₁ := length_split_append_cons sep a (b ++ sep :: (c ++ sep :: d))
  have h₂ := length_split_append_cons sep b (c ++ sep :: d)
  have h₃ := length_split_append_cons sep c d
  have h₄ := List.length_pos_iff.mpr (split_ne_nil sep d)
  omega

/-- Splitting at a separator splits the non-empty pieces apart. -/
theorem fields_append_cons (sep : Char) (a b : List Char) :
    fields sep (a ++ sep :: b) = fields sep a ++ fields sep b := by
  simp [fields, split_append_cons, List.filter_append]

/-- A non-empty text without the separator is its only non-empty piece. -/
theorem fields_of_not_mem (sep : Char) {a : List Char} (ha : sep ∉ a) (hne : a ≠ []) :
    fields sep a = [a] := by
  simp [fields, split_of_not_mem sep a ha, hne]

/-- Dropping the empty pieces leaves at most as many. -/
theorem length_fields_le (sep : Char) (s : List Char) :
    (fields sep s).length ≤ (split sep s).length :=
  List.length_filter_le _ _

/-- The pieces joined at the separator give the text back. -/
theorem intercalate_split (sep : Char) : ∀ s : List Char, List.intercalate [sep] (split sep s) = s
  | [] => rfl
  | c :: cs => by
    have ih := intercalate_split sep cs
    by_cases hc : c = sep
    · subst hc
      obtain ⟨w, ws, hw⟩ := List.exists_cons_of_ne_nil (split_ne_nil c cs)
      rw [split_cons_sep, hw, List.intercalate_cons_cons, List.nil_append, List.singleton_append,
        ← hw, ih]
    · rw [split_cons_of_ne sep hc]
      obtain ⟨w, ws, hw⟩ := List.exists_cons_of_ne_nil (split_ne_nil sep cs)
      rw [hw] at ih ⊢
      cases ws with
      | nil => simpa using ih
      | cons v vs =>
        rw [List.intercalate_cons_cons] at ih ⊢
        rw [List.cons_append, List.cons_append, ih]

theorem cut_cons_of_ne (sep : Char) {c : Char} (hc : c ≠ sep) (cs : List Char) :
    cut sep (c :: cs) = (cut sep cs).map fun p => (c :: p.1, p.2) := by
  show (if c = sep then _ else _) = _
  rw [if_neg hc]

theorem cut_append_cons (sep : Char) {a : List Char} (ha : sep ∉ a) (b : List Char) :
    cut sep (a ++ sep :: b) = some (a, b) := by
  induction a with
  | nil =>
    show (if sep = sep then _ else _) = _
    rw [if_pos rfl]
  | cons c a ih =>
    have hc : c ≠ sep := fun e => ha (e ▸ List.mem_cons_self)
    rw [List.cons_append, cut_cons_of_ne sep hc, ih fun h => ha (List.mem_cons_of_mem c h)]
    rfl

theorem cut_of_not_mem (sep : Char) : ∀ {s : List Char}, sep ∉ s → cut sep s = none
  | [], _ => rfl
  | c :: cs, h => by
    have hc : c ≠ sep := fun e => h (e ▸ List.mem_cons_self)
    rw [cut_cons_of_ne sep hc, cut_of_not_mem sep fun hs => h (List.mem_cons_of_mem c hs)]
    rfl

theorem splitN_add_two (sep : Char) (n : Nat) (s : List Char) :
    splitN sep (n + 2) s =
      match cut sep s with
      | none => [s]
      | some (before, after) => before :: splitN sep (n + 1) after := rfl

/-- `SplitN` with room for two pieces or more cuts at the first separator. -/
theorem splitN_append_cons (sep : Char) (n : Nat) {a : List Char} (ha : sep ∉ a)
    (b : List Char) : splitN sep (n + 2) (a ++ sep :: b) = a :: splitN sep (n + 1) b := by
  rw [splitN_add_two, cut_append_cons sep ha]

/-- The last piece `SplitN` keeps is the rest of the text. -/
theorem splitN_one (sep : Char) (s : List Char) : splitN sep 1 s = [s] := rfl

/-- Splitting after a first piece without the separator. -/
theorem split_append_cons_of_not_mem (sep : Char) {a : List Char} (ha : sep ∉ a)
    (b : List Char) : split sep (a ++ sep :: b) = a :: split sep b := by
  rw [split_append_cons, split_of_not_mem sep a ha]
  rfl

/-- A text splits into two pieces or more exactly when it holds the separator. -/
theorem one_lt_length_split_iff (sep : Char) (s : List Char) :
    1 < (split sep s).length ↔ sep ∈ s := by
  constructor
  · intro h
    by_contra hs
    rw [split_of_not_mem sep s hs] at h
    exact Nat.lt_irrefl 1 h
  · intro hs
    obtain ⟨a, b, rfl⟩ := List.append_of_mem hs
    have h₁ := length_split_append_cons sep a b
    have h₂ := List.length_pos_iff.mpr (split_ne_nil sep b)
    omega

theorem exists_split_eq_cons_cons {sep : Char} {s : List Char} (h : sep ∈ s) :
    ∃ a b rest, split sep s = a :: b :: rest := by
  have hlen := (one_lt_length_split_iff sep s).mpr h
  rcases hs : split sep s with _ | ⟨a, _ | ⟨b, rest⟩⟩
  · rw [hs] at hlen; cases hlen
  · rw [hs] at hlen; exact absurd hlen (Nat.lt_irrefl 1)
  · exact ⟨a, b, rest, rfl⟩

/-- `Cut` finds no separator exactly when there is none. -/
theorem cut_eq_none_iff (sep : Char) : ∀ s : List Char, cut sep s = none ↔ sep ∉ s
  | [] => by simp [cut]
  | c :: cs => by
    by_cases hc : c = sep
    · subst hc
      show (if c = c then _ else _) = none ↔ _
      simp
    · rw [cut_cons_of_ne sep hc, Option.map_eq_none_iff, cut_eq_none_iff sep cs, List.mem_cons]
      exact ⟨fun h e => e.elim (hc ∘ Eq.symm) h, fun h e => h (.inr e)⟩

/-- What `Cut` returns: the text before the first separator, and the rest after it. -/
theorem cut_eq_some {sep : Char} :
    ∀ {s a b : List Char}, cut sep s = some (a, b) → sep ∉ a ∧ s = a ++ sep :: b
  | [], _, _, h => by cases h
  | c :: cs, a, b, h => by
    by_cases hc : c = sep
    · subst hc
      have h' : some ([], cs) = some (a, b) := by
        rw [← h]
        show _ = if c = c then _ else _
        rw [if_pos rfl]
      cases h'
      exact ⟨List.not_mem_nil, rfl⟩
    · rw [cut_cons_of_ne sep hc, Option.map_eq_some_iff] at h
      obtain ⟨⟨a', b'⟩, hcut, hab⟩ := h
      cases hab
      obtain ⟨ha', rfl⟩ := cut_eq_some hcut
      refine ⟨?_, rfl⟩
      rw [List.mem_cons]
      exact fun e => e.elim (hc ∘ Eq.symm) ha'

/-- Every piece `SplitN` cuts off before its last one holds no separator; the pieces of a
    text with fewer separators than the limit allows hold none at all. -/
theorem not_mem_of_mem_take_splitN (sep : Char) :
    ∀ (n : Nat) (s w : List Char), w ∈ (splitN sep (n + 1) s).take n → sep ∉ w
  | 0, _, _, hw => by simp at hw
  | n + 1, s, w, hw => by
    -- `SplitN` cuts at the first separator and goes on with one piece fewer
    rw [splitN_add_two] at hw
    cases hcut : cut sep s with
    | none =>
      rw [hcut] at hw
      have hs := (cut_eq_none_iff sep s).mp hcut
      simp only [List.take_succ_cons, List.take_nil, List.mem_singleton] at hw
      exact hw ▸ hs
    | some p =>
      obtain ⟨before, after⟩ := p
      rw [hcut] at hw
      rw [List.take_succ_cons, List.mem_cons] at hw
      rcases hw with rfl | hw
      · exact (cut_eq_some hcut).1
      · exact not_mem_of_mem_take_splitN sep n after w hw

section fieldsFunc

variable (f : Char → Bool)

@[simp] theorem splitWhere_nil : splitWhere f [] = [[]] := rfl

theorem splitWhere_cons_of_pos {c : Char} (hc : f c = true) (cs : List Char) :
    splitWhere f (c :: cs) = [] :: splitWhere f cs := by
  show (if f c then _ else _) = _
  rw [if_pos hc]

theorem splitWhere_cons_of_neg {c : Char} (hc : f c = false) (cs : List Char) :
    splitWhere f (c :: cs) =
      match splitWhere f cs with
      | [] => [[c]]
      | w :: ws => (c :: w) :: ws := by
  show (if f c then _ else _) = _
  rw [if_neg (by simp [hc])]

theorem splitWhere_ne_nil (s : List Char) : splitWhere f s ≠ [] := by
  cases s with
  | nil => simp
  | cons c cs =>
    cases hc : f c
    · rw [splitWhere_cons_of_neg f hc]
      split <;> simp
    · simp [splitWhere_cons_of_pos f hc]

/-- Splitting at a character that satisfies `f` splits the two sides apart. -/
theorem splitWhere_append_cons {c : Char} (hc : f c = true) (b : List Char) :
    ∀ a : List Char, splitWhere f (a ++ c :: b) = splitWhere f a ++ splitWhere f b
  | [] => by simp [splitWhere_cons_of_pos f hc]
  | d :: a => by
    have ih := splitWhere_append_cons hc b a
    cases hd : f d
    · -- the first piece of `a` grows by `d`, whatever follows
      obtain ⟨w, ws, hw⟩ := List.exists_cons_of_ne_nil (splitWhere_ne_nil f a)
      rw [List.cons_append, splitWhere_cons_of_neg f hd, splitWhere_cons_of_neg f hd, ih, hw]
      rfl
    · simp [splitWhere_cons_of_pos f hd, ih]

/-- A text with no character that satisfies `f` is its only piece. -/
theorem splitWhere_of_forall : ∀ s : List Char, (∀ c ∈ s, f c = false) → splitWhere f s = [s]
  | [] => fun _ => rfl
  | c :: s => fun h => by
    have ih := splitWhere_of_forall s fun d hd => h d (List.mem_cons_of_mem c hd)
    rw [splitWhere_cons_of_neg f (h c List.mem_cons_self), ih]

/-- No piece holds a character that satisfies `f`. -/
theorem forall_of_mem_splitWhere :
    ∀ {s w : List Char}, w ∈ splitWhere f s → ∀ c ∈ w, f c = false
  | [], w, hw => by simp at hw; simp [hw]
  | c :: cs, w, hw => by
    have ih := @forall_of_mem_splitWhere cs
    cases hc : f c
    · rw [splitWhere_cons_of_neg f hc] at hw
      obtain ⟨v, vs, hv⟩ := List.exists_cons_of_ne_nil (splitWhere_ne_nil f cs)
      rw [hv] at hw ih
      simp only [List.mem_cons] at hw
      rcases hw with rfl | hw
      · intro d hd
        rcases List.mem_cons.mp hd with rfl | hd
        · exact hc
        · exact ih (List.mem_cons_self) d hd
      · exact ih (List.mem_cons_of_mem v hw)
    · rw [splitWhere_cons_of_pos f hc] at hw
      rcases List.mem_cons.mp hw with rfl | hw
      · simp
      · exact ih hw

theorem fieldsFunc_append_cons {c : Char} (hc : f c = true) (a b : List Char) :
    fieldsFunc f (a ++ c :: b) = fieldsFunc f a ++ fieldsFunc f b := by
  simp [fieldsFunc, splitWhere_append_cons f hc, List.filter_append]

/-- A non-empty text with no character that satisfies `f` is its only field. -/
theorem fieldsFunc_of_forall {a : List Char} (ha : ∀ c ∈ a, f c = false) (hne : a ≠ []) :
    fieldsFunc f a = [a] := by
  simp [fieldsFunc, splitWhere_of_forall f a ha, hne]

/-- A field is non-empty and holds no character that satisfies `f`. -/
theorem mem_fieldsFunc {s w : List Char} (hw : w ∈ fieldsFunc f s) :
    w ≠ [] ∧ ∀ c ∈ w, f c = false := by
  rw [fieldsFunc, List.mem_filter] at hw
  exact ⟨by simpa using hw.2, forall_of_mem_splitWhere f hw.1⟩

end fieldsFunc

/-- The value of a run of two or more characters: its first digit, weighted, and the value
    of the rest. -/
theorem decimalVal_cons_cons (c d : Char) (ds : List Char) :
    decimalVal (c :: d :: ds) = (digitVal c).bind fun v =>
      (decimalVal (d :: ds)).bind fun w => some (v * 10 ^ (d :: ds).length + w) := rfl

example : split ',' "80, 443".toList = ["80".toList, " 443".toList] := by decide
example : trimSpace " 443 ".toList = "443".toList := by decide
example : parseUint "443".toList 16 = some 443 := by decide
example : parseUint "65536".toList 16 = none := by decide
example : atoi "+80".toList = some 80 := by decide

/-! ## Go's `int` -/

/-- The 64-bit Go `int` that an integer computation lands on: two's-complement wrap. -/
def wrapInt64 (x : Int) : Int := (x + 2 ^ 63) % 2 ^ 64 - 2 ^ 63

/-- Within the range of `int`, nothing wraps. -/
theorem wrapInt64_of_mem {x : Int} (h₁ : -2 ^ 63 ≤ x) (h₂ : x < 2 ^ 63) : wrapInt64 x = x := by
  unfold wrapInt64
  rw [Int.emod_eq_of_lt (by omega) (by omega)]
  omega

example : wrapInt64 (2 ^ 63) = -2 ^ 63 := by decide

theorem wrapInt64_zero : wrapInt64 0 = 0 := wrapInt64_of_mem (by decide) (by decide)

/-- Wrapping in the middle of a sum changes nothing: `int` addition is addition modulo
    `2 ^ 64`. -/
theorem wrapInt64_wrapInt64_add (x y : Int) : wrapInt64 (wrapInt64 x + y) = wrapInt64 (x + y) := by
  unfold wrapInt64
  omega

/-- An `int` accumulator over a slice ends at the sum, wrapped once. -/
theorem foldl_wrapInt64_add {α : Type*} (f : α → Int) :
    ∀ (xs : List α) (total : Int),
      xs.foldl (fun total x => wrapInt64 (total + f x)) (wrapInt64 total) =
        wrapInt64 (total + (xs.map f).sum)
  | [], total => by rw [List.foldl_nil, List.map_nil, List.sum_nil, Int.add_zero]
  | x :: xs, total => by
    rw [List.foldl_cons, wrapInt64_wrapInt64_add, foldl_wrapInt64_add f xs, List.map_cons,
      List.sum_cons, Int.add_assoc]

/-- The same loop from `0`. -/
theorem foldl_wrapInt64 {α : Type*} (f : α → Int) (xs : List α) :
    xs.foldl (fun total x => wrapInt64 (total + f x)) 0 = wrapInt64 (xs.map f).sum := by
  have h := foldl_wrapInt64_add f xs 0
  rwa [wrapInt64_zero, Int.zero_add] at h

/-- `uint32(x)` of an `int` reads the low 32 bits, which the 64-bit wrap keeps. -/
theorem ofInt_wrapInt64 (x : Int) : UInt32.ofInt (wrapInt64 x) = UInt32.ofInt x := by
  unfold UInt32.ofInt wrapInt64
  congr 2
  omega

/-- `uint32` of a sum is the `uint32` sum of the converted terms. -/
theorem ofInt_sum {α : Type*} (f : α → Int) :
    ∀ xs : List α, UInt32.ofInt (xs.map f).sum = (xs.map fun x => UInt32.ofInt (f x)).sum
  | [] => rfl
  | x :: xs => by
    rw [List.map_cons, List.sum_cons, UInt32.ofInt_add, ofInt_sum f xs, List.map_cons,
      List.sum_cons]

end GoText

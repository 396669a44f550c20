import Mathlib.Data.List.Sort
import Mathlib.Order.Basic

/-
  JSON text as Go's `encoding/json` writes it with `json.Marshal`.

  A value is null, a boolean, an integer, a string, an array, an object whose members
  stand in the order given, or the text a `json.Marshaler` such as `runtime.RawExtension`
  writes for itself (taken to be compact already); a struct is an object with its exported
  fields in declaration order. `Value.ofMap` writes a Go map: Go sorts the members by key, after writing an integer
  key in decimal, so a map's text does not depend on the order its entries were inserted.
  `render` is the compact text `Marshal` produces: no white space, and in strings `"`, `\`,
  the control characters, `<`, `>`, `&`, U+2028 and U+2029 escaped.

  The one fact the models need about whole documents is positional: a document that writes
  one member's text at the same place as another document, with the same text before it,
  differs from it when the two member texts differ at a position where both have a
  character (`append_ne_of_differAt`), whatever follows.
-/

namespace GoJson

/-- A JSON value. -/
inductive Value where
  | null
  | bool (b : Bool)
  | num (n : Int)
  | str (s : String)
  | arr (elems : List Value)
  | obj (members : List (String × Value))
  | raw (text : String)

/-- A lower-case hexadecimal digit. -/
def hexDigit (n : Nat) : Char :=
  if n < 10 then Char.ofNat (48 + n) else Char.ofNat (87 + n)

/-- `\u` and the four hexadecimal digits of a code unit. -/
def unicodeEscape (n : Nat) : List Char :=
  ['\\', 'u', hexDigit (n / 4096 % 16), hexDigit (n / 256 % 16), hexDigit (n / 16 % 16),
    hexDigit (n % 16)]

/-- One character of a string, as `encodeState.string` writes it with HTML escaping on. -/
def escapeChar (c : Char) : List Char :=
  if c = '"' then ['\\', '"']
  else if c = '\\' then ['\\', '\\']
  else if c = '\n' then ['\\', 'n']
  else if c = '\r' then ['\\', 'r']
  else if c = '\t' then ['\\', 't']
  else if c.toNat < 32 ∨ c = '<' ∨ c = '>' ∨ c = '&' ∨ c.toNat = 0x2028 ∨ c.toNat = 0x2029 then
    unicodeEscape c.toNat
  else [c]

/-- A quoted string. -/
def quote (s : String) : List Char :=
  '"' :: s.toList.flatMap escapeChar ++ ['"']

mutual

/-- The compact text of a value. -/
def render : Value → List Char
  | .null => "null".toList
  | .bool b => if b then "true".toList else "false".toList
  | .num n => (toString n).toList
  | .str s => quote s
  | .arr elems => '[' :: List.intercalate [','] (renderElems elems) ++ [']']
  | .obj members => '\x7b' :: List.intercalate [','] (renderMembers members) ++ ['\x7d']
  | .raw text => text.toList

/-- The texts of the elements of an array. -/
def renderElems : List Value → List (List Char)
  | [] => []
  | v :: vs => render v :: renderElems vs

/-- The texts of the members of an object, `"key":value`. -/
def renderMembers : List (String × Value) → List (List Char)
  | [] => []
  | (k, v) :: ms => (quote k ++ ':' :: render v) :: renderMembers ms

end

/-- A Go map with the given entries: its members sorted by key. -/
def Value.ofMap (members : List (String × Value)) : Value :=
  .obj (members.insertionSort fun a b => a.1 ≤ b.1)

/-- A slice or a map the program leaves `nil` until its first element is added: `null`
    when empty. -/
def Value.orNull (v : Value) (empty : Bool) : Value :=
  if empty then .null else v

example : render (.ofMap [("b", .num 2), ("a", .arr [.str "x<y", .bool true])]) =
    "\x7b\"a\":[\"x\\u003cy\",true],\"b\":2\x7d".toList := by decide

/-- Whether two texts have different characters at some position where both have one. -/
def differAt {α : Type*} [DecidableEq α] : List α → List α → Bool
  | a :: as, b :: bs => a ≠ b || differAt as bs
  | _, _ => false

/-- Two documents that write different member texts after the same text differ, whatever
    follows each member, when the member texts differ at a position where both have a
    character. -/
theorem append_ne_of_differAt {α : Type*} [DecidableEq α] :
    ∀ (pre : List α) {m₁ m₂ : List α} (suf₁ suf₂ : List α), differAt m₁ m₂ = true →
      pre ++ m₁ ++ suf₁ ≠ pre ++ m₂ ++ suf₂
  | _, [], _, _, _, h => by simp [differAt] at h
  | _, _ :: _, [], _, _, h => by simp [differAt] at h
  | pre, a :: as, b :: bs, suf₁, suf₂, h => by
    intro heq
    rw [List.append_assoc, List.append_assoc] at heq
    have hcons := List.append_cancel_left heq
    simp only [List.cons_append, List.cons.injEq] at hcons
    simp only [differAt, Bool.or_eq_true, decide_eq_true_eq] at h
    -- the first characters differ, or the rest differs after equal first characters
    rcases h with hab | hrest
    · exact hab hcons.1
    · exact append_ne_of_differAt [] suf₁ suf₂ hrest (by simpa using hcons.2)

end GoJson

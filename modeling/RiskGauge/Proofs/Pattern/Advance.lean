import Mathlib.Data.List.Infix
import Mathlib.Data.List.TakeWhile
import RiskGauge.Pattern.Build

/-!
# How a cursor moves over a text

A cursor moves over the characters that follow it (`Cursor.advance`). The places reached over characters that pass a
test are those up to the first character that does not (`Cursor.span_eq`). The text of a group is what lies between two
places of the whole text, on either side of the cursor (`Cursor.Sound.between_eq`, `Cursor.Sound.group?_closeGroup`).
-/

namespace RiskGauge

namespace Cursor

variable {s : Cursor}

/-- The place `n` characters further on. -/
def advance (n : Nat) (s : Cursor) : Cursor :=
  { s with before := (s.after.take n).reverse ++ s.before, after := s.after.drop n, left := s.left - n }

@[simp] theorem advance_after (n : Nat) (s : Cursor) : (s.advance n).after = s.after.drop n := rfl
@[simp] theorem advance_left (n : Nat) (s : Cursor) : (s.advance n).left = s.left - n := rfl

@[simp] theorem advance_zero (s : Cursor) : s.advance 0 = s := rfl

theorem advance_advance (m n : Nat) (s : Cursor) : (s.advance m).advance n = s.advance (m + n) := by
  simp [advance, List.take_add, Nat.sub_sub]

theorem advance_one {c : Char} {rest : List Char} (h : s.after = c :: rest) :
    s.advance 1 = { s with before := c :: s.before, after := rest, left := s.left - 1 } := by
  simp [advance, h]

theorem step?_cons {c : Char} {rest : List Char} (h : s.after = c :: rest) (test : Char → Bool) :
    s.step? test = if test c then some (s.advance 1) else none := by
  rw [advance_one h, step?, h]

/-- The number of characters left is that of the text after the cursor. -/
def Sound (s : Cursor) : Prop :=
  s.left = s.after.length

theorem sound_ofText (text : List Char) : (ofText text).Sound := rfl

theorem Sound.advance (h : s.Sound) (n : Nat) : (s.advance n).Sound := by
  rw [Sound, advance_left, advance_after, List.length_drop, h]

/-- The whole text, on both sides of the cursor. -/
def text (s : Cursor) : List Char :=
  s.before.reverse ++ s.after

@[simp] theorem text_advance (n : Nat) (s : Cursor) : (s.advance n).text = s.text := by
  simp [text, advance]

@[simp] theorem text_openGroup (n : Nat) (s : Cursor) : (s.openGroup n).text = s.text := rfl
@[simp] theorem text_closeGroup (n : Nat) (s : Cursor) : (s.closeGroup n).text = s.text := rfl

/-- What lies between two places is that part of the whole text, on whichever side of the cursor. -/
theorem Sound.between_eq (hs : s.Sound) {front xs ys : List Char} (h : s.text = front ++ (xs ++ ys)) :
    s.between (xs.length + ys.length) ys.length = xs := by
  have hlength : s.before.length + s.left = front.length + (xs.length + ys.length) := by
    have hlengths := congrArg List.length h
    rwa [text, List.length_append, List.length_append, List.length_append, List.length_reverse, ← hs] at hlengths
  have hbehind : (s.before.drop (ys.length - s.left)).take (xs.length + ys.length - max ys.length s.left) =
      ((s.before.reverse.drop front.length).take xs.length).reverse := by
    rw [List.reverse_take, List.length_drop, List.length_reverse, List.reverse_drop, List.length_reverse,
      List.reverse_reverse, List.drop_take]
    congr 1
    · omega
    · congr 1
      omega
  have hahead : (s.after.drop (s.left - (xs.length + ys.length))).take (min (xs.length + ys.length) s.left - ys.length) =
      (s.after.drop (front.length - s.before.length)).take (xs.length - (s.before.length - front.length)) := by
    congr 1
    · omega
    · congr 1
      omega
  calc s.between (xs.length + ys.length) ys.length
      = (s.text.drop front.length).take xs.length := by
        rw [between, hbehind, hahead, List.reverse_reverse, text, List.drop_append, List.take_append, List.length_reverse,
          List.length_drop, List.length_reverse]
    _ = xs := by rw [h, List.drop_left, List.take_left]

/-- A group that has just ended holds the characters that were passed since it began. -/
theorem Sound.group?_closeGroup (h : s.Sound) (n : Nat) {k : Nat} (hk : k ≤ s.after.length) :
    (((s.openGroup n).advance k).closeGroup n).group? n = some (s.after.take k) := by
  have hgroup : (((s.openGroup n).advance k).closeGroup n).group? n =
      some ((((s.openGroup n).advance k).closeGroup n).between s.left (s.left - k)) := by
    simp [group?, mark?, closeGroup, openGroup, Cursor.advance]
  have hsound : (((s.openGroup n).advance k).closeGroup n).Sound := h.advance k
  have htext : (((s.openGroup n).advance k).closeGroup n).text =
      s.before.reverse ++ (s.after.take k ++ s.after.drop k) := by
    rw [text_closeGroup, text_advance, text_openGroup, List.take_append_drop, text]
  have hbetween := hsound.between_eq htext
  rw [List.length_take_of_le hk, List.length_drop, Nat.add_sub_cancel' hk, ← h] at hbetween
  rw [hgroup, hbetween]

/-- How many characters a text begins with that pass a test, at most `limit` of them. -/
def spanLength (test : Char → Bool) : Option Nat → List Char → Nat
  | none, text => (text.takeWhile test).length
  | some n, text => ((text.take n).takeWhile test).length

theorem spanLength_le (test : Char → Bool) (limit : Option Nat) (text : List Char) :
    spanLength test limit text ≤ text.length := by
  cases limit with
  | none => exact (List.takeWhile_prefix test).length_le
  | some n => exact (List.takeWhile_prefix test).length_le.trans (List.length_take_le' n text)

theorem spanLength_true_none (text : List Char) : spanLength (fun _ => true) none text = text.length := by
  rw [spanLength, List.takeWhile_eq_self_iff.mpr fun _ _ => rfl]

theorem spanLength_true_some (n : Nat) (text : List Char) :
    spanLength (fun _ => true) (some n) text = min n text.length := by
  rw [spanLength, List.takeWhile_eq_self_iff.mpr fun _ _ => rfl, List.length_take]

theorem spanFrom_eq (test : Char → Bool) (limit : Option Nat) {rest : List Char} (h : s.after = rest) :
    s.spanFrom test limit rest = (List.range (spanLength test limit rest + 1)).map s.advance := by
  induction rest generalizing s limit with
  | nil => cases limit <;> simp [spanFrom, spanLength]
  | cons c rest ih =>
    have hnext : (s.advance 1).after = rest := by rw [advance_after, h, List.drop_one, List.tail_cons]
    rw [spanFrom, ← advance_one h]
    by_cases hc : (limit != some 0 && test c) = true
    · obtain ⟨hlimit, htest⟩ : limit ≠ some 0 ∧ test c = true := by simpa using hc
      have hlength : spanLength test limit (c :: rest) = spanLength test (limit.map (· - 1)) rest + 1 := by
        match limit, hlimit with
        | none, _ => simp [spanLength, htest]
        | some (n + 1), _ => simp [spanLength, htest]
      rw [if_pos hc, ih _ hnext, hlength, List.range_succ_eq_map (n := _ + 1), List.map_cons, List.map_map,
        advance_zero]
      congr 2
      funext n
      rw [advance_advance, Function.comp_apply, Nat.add_comm]
    · have hlength : spanLength test limit (c :: rest) = 0 := by
        match limit with
        | none => simp [spanLength, show test c = false by simpa using hc]
        | some 0 => simp [spanLength]
        | some (n + 1) => simp [spanLength, show test c = false by simpa using hc]
      rw [if_neg hc, hlength]
      rfl

theorem span_eq (test : Char → Bool) (limit : Option Nat) (s : Cursor) :
    s.span test limit = (List.range (spanLength test limit s.after + 1)).map s.advance :=
  spanFrom_eq test limit rfl

end Cursor

end RiskGauge

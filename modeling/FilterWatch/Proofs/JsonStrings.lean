import FilterWatch.Json.Quoted
import FilterWatch.Json.Reader
import FilterWatch.Proofs.Outcomes
import Mathlib.Tactic.SplitIfs

/-! Strings in JSON. What is written as a string is read back, whatever characters it has and whatever follows it. -/

namespace FilterWatch
open Proofs.Outcomes

namespace Text

theorem hexValue?_hexDigit {digit : Nat} (single : digit < 16) : hexValue? (hexDigit digit) = some digit := by
  revert digit
  decide

theorem hexDigits_succ (width n : Nat) :
    hexDigits (width + 1) n = hexDigit (n / Nat.pow 16 width % 16) :: hexDigits width n := by
  simp [hexDigits, List.range_succ]

theorem length_hexDigits (width n : Nat) : (hexDigits width n).length = width := by
  simp [hexDigits]

theorem foldlM_hexDigits (width n value : Nat) :
    (hexDigits width n).foldlM (fun value c => (hexValue? c).map (16 * value + ·)) value =
      some (Nat.pow 16 width * value + n % Nat.pow 16 width) := by
  induction width generalizing value with
  | zero => simp [hexDigits, Nat.mod_one]
  | succ width ih =>
    have digit : n / Nat.pow 16 width % 16 < 16 := Nat.mod_lt _ (by decide)
    have split : n % Nat.pow 16 (width + 1) = n % Nat.pow 16 width + Nat.pow 16 width * (n / Nat.pow 16 width % 16) :=
      Nat.mod_pow_succ
    have power : Nat.pow 16 (width + 1) = Nat.pow 16 width * 16 := rfl
    rw [hexDigits_succ, List.foldlM_cons, hexValue?_hexDigit digit]
    simp only [Option.map_some, Option.bind_eq_bind, Option.bind_some]
    rw [ih, split, power, Nat.mul_add, Nat.mul_assoc]
    congr 1
    omega

/-- The lowest digits of a number spell what they hold of it. -/
theorem ofHex?_hexDigits (width n : Nat) : ofHex? (hexDigits width n) = some (n % Nat.pow 16 width) := by
  rw [ofHex?, foldlM_hexDigits, Nat.mul_zero, Nat.zero_add]

end Text

namespace Json.Reader
open Text

theorem hexEscape_control {code : Nat} (control : code < 0x20) (rest : List Char) :
    hexEscape (hexDigits 4 code ++ rest) = .ok (code, rest) := by
  have four : (hexDigits 4 code).length = 4 := length_hexDigits 4 code
  have size : (String.ofList (hexDigits 4 code)).utf8ByteSize = 4 := by
    revert code
    decide
  have value : ofHex? (hexDigits 4 code) = some code := by
    rw [ofHex?_hexDigits, Nat.mod_eq_of_lt (Nat.lt_trans control (by decide))]
  rw [hexEscape, List.take_left' four, List.drop_left' four, size, value]
  rfl

theorem escaped_control {c : Char} (control : c.toNat < 0x20) (rest : List Char) :
    escaped true ('u' :: (hexDigits 4 c.toNat ++ rest)) = .ok ([c], rest) := by
  have trailing : isTrailing c.toNat = false := by simp [isTrailing]; omega
  have leading : isLeading c.toNat = false := by simp [isLeading]; omega
  rw [escaped, if_pos rfl, if_pos rfl, unicodeEscape, hexEscape_control control, ok_bind]
  simp [trailing, leading, Except.map, pure, Except.pure]

/-- A character stands for itself in a string, or is read from what follows a backslash. -/
theorem escape_read (c : Char) :
    (∃ mark, escape c = '\\' :: mark ∧ ∀ rest, escaped true (mark ++ rest) = .ok ([c], rest)) ∨
      escape c = [c] ∧ c ≠ '\x22' ∧ c ≠ '\\' ∧ ¬ c.toNat < 0x20 := by
  unfold escape
  split_ifs with quote backslash _ _ _ _ _ control
  iterate 7
    subst c
    exact .inl ⟨_, rfl, fun _ => rfl⟩
  · exact .inl ⟨_, rfl, escaped_control control⟩
  · exact .inr ⟨rfl, quote, backslash, control⟩

theorem characters_escape (c : Char) (steps : Nat) (rest : List Char) :
    characters true (steps + 1) (escape c ++ rest) =
      (characters true steps rest).map fun (others, left) => (c :: others, left) := by
  rcases escape_read c with ⟨mark, marked, read⟩ | ⟨itself, quote, backslash, control⟩
  · have other : '\\' ≠ '\x22' := by decide
    rw [marked, List.cons_append, characters, if_neg other, if_pos rfl, read, ok_bind]
    dsimp only
    cases characters true steps rest <;> rfl
  · rw [itself, List.singleton_append, characters, if_neg quote, if_neg backslash, if_neg control, pure_bind]
    dsimp only
    cases characters true steps rest <;> rfl

theorem characters_closed {text : List Char} {steps : Nat} (enough : text.length < steps) (rest : List Char) :
    characters true steps (text.flatMap escape ++ '\x22' :: rest) = .ok (text, rest) := by
  induction text generalizing steps with
  | nil =>
    obtain ⟨steps, rfl⟩ := Nat.exists_eq_add_of_lt enough
    rfl
  | cons c others ih =>
    obtain ⟨steps, rfl⟩ := Nat.exists_eq_add_one_of_ne_zero (Nat.ne_zero_of_lt enough)
    rw [List.flatMap_cons, List.append_assoc, characters_escape, ih (Nat.lt_of_succ_lt_succ enough)]
    rfl

theorem length_le_escaped (text : List Char) : text.length ≤ (text.flatMap escape).length := by
  induction text with
  | nil => exact Nat.le_refl 0
  | cons c rest ih =>
    have filled : 0 < (escape c).length := by
      rcases escape_read c with ⟨mark, marked, -⟩ | ⟨itself, -⟩
      · rw [marked]
        exact Nat.succ_pos _
      · rw [itself]
        exact Nat.one_pos
    rw [List.flatMap_cons, List.length_append, List.length_cons]
    omega

/-- A string is read up to its own closing quote. -/
theorem quoted_quote (text : String) (rest : List Char) :
    StateT.run (quoted true) ((quote text).toList ++ rest) = .ok (text, rest) := by
  have written : (quote text).toList ++ rest = '\x22' :: (text.toList.flatMap escape ++ '\x22' :: rest) := by
    simp [quote]
  have enough : text.toList.length < (text.toList.flatMap escape ++ '\x22' :: rest).length := by
    have escaped := length_le_escaped text.toList
    rw [List.length_append, List.length_cons]
    omega
  have read := characters_closed enough rest
  rw [written]
  simp only [quoted, skip, StateT.run_bind, StateT.run_modify, StateT.run_get, StateT.run_set, pure_bind,
    List.tail_cons]
  change (characters true _ _ >>= fun found => pure (found, _)) >>= _ = _
  rw [read, ok_bind]
  simp only [pure_bind, String.ofList_toList, StateT.run_pure]
  rfl

end Json.Reader

end FilterWatch

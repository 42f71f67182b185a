import Mathlib.Tactic.IntervalCases
import TrigramSieve.Proofs.CharSets
import TrigramSieve.Proofs.Results
import TrigramSieve.Regex.ClassSource

/-! A character as it is written in a class. What is written reads back as the character, and none of
the marks that give a class its shape comes first. -/

namespace TrigramSieve

/-! Hexadecimal digits -/

theorem hexValue_digit {d : Nat} (h : d < 16) : Unicode.hexValue (Nat.digitChar d).toUpper = d := by
  interval_cases d <;> rfl

theorem isHex_digit {d : Nat} (h : d < 16) : Pattern.isHex (Nat.digitChar d).toUpper = true := by
  interval_cases d <;> rfl

theorem readHex_append_singleton (ds : List Char) (d : Char) :
    Unicode.readHex (ds ++ [d]) = 16 * Unicode.readHex ds + Unicode.hexValue d := by
  simp [Unicode.readHex, List.foldl_append]

theorem hexDigits_spec (n : Nat) :
    Unicode.readHex ((Nat.toDigits 16 n).map Char.toUpper) = n ∧
      ∀ d ∈ (Nat.toDigits 16 n).map Char.toUpper, Pattern.isHex d = true := by
  induction n using Nat.strong_induction_on with
  | h n ih =>
    by_cases hn : n < 16
    · rw [Nat.toDigits_of_lt_base hn]
      simp [Unicode.readHex, hexValue_digit hn, isHex_digit hn]
    · have hd : n % 16 < 16 := Nat.mod_lt n (by omega)
      obtain ⟨hv, ha⟩ := ih (n / 16) (by omega)
      rw [Nat.toDigits_of_base_le (by omega) (by omega), List.map_append, List.map_singleton,
        readHex_append_singleton, hv, hexValue_digit hd]
      refine ⟨by omega, fun d hmem => ?_⟩
      rcases List.mem_append.1 hmem with h | h
      · exact ha d h
      · rw [List.mem_singleton.1 h]
        exact isHex_digit hd

theorem readHex_hexOf (c : Char) : Unicode.readHex (hexOf true c) = c.toNat :=
  (hexDigits_spec c.toNat).1

theorem isHex_of_mem_hexOf {c d : Char} (h : d ∈ hexOf true c) : Pattern.isHex d = true :=
  (hexDigits_spec c.toNat).2 d h

theorem hexOf_ne_nil (c : Char) : hexOf true c ≠ [] := by
  simp [hexOf]

theorem charOf?_toNat (c : Char) : Pattern.charOf? c.toNat = some c := by
  have hv : c.toNat.isValidChar := c.valid
  simp [Pattern.charOf?, hv, Char.ofNat_toNat]

namespace Pattern

/-! Steps of a cursor that stops at blanks -/

namespace Cursor

variable {p : Position} {x : Char} {rest : List Char}

theorem next_mk : next ⟨p, x :: rest, false⟩ = ⟨p.after x, rest, false⟩ := rfl

theorem step_mk : step ⟨p, x :: rest, false⟩ = ⟨p.after x, rest, false⟩ := rfl

theorem steps_append (p : Position) (w rest : List Char) :
    ∃ p', steps w.length ⟨p, w ++ rest, false⟩ = ⟨p', rest, false⟩ := by
  induction w generalizing p with
  | nil => exact ⟨p, rfl⟩
  | cons x w ih => exact ih (p.after x)

end Cursor

theorem takeWhile_isHex {ds : List Char} {rest : List Char} (h : ∀ d ∈ ds, isHex d = true) :
    (ds ++ '}' :: rest).takeWhile isHex = ds := by
  rw [List.takeWhile_append_of_pos h, List.takeWhile_cons_of_neg (by decide), List.append_nil]

/-- A code point between braces, from the letter in front of them on. -/
theorem readHexLiteral_hexOf (n : Nat) (start p : Position) (c : Char) (rest : List Char) :
    ∃ span p', readHexLiteral n start ⟨p, 'x' :: '{' :: (hexOf true c ++ '}' :: rest), false⟩ =
      .ok (⟨span, c, false⟩, ⟨p', rest, false⟩) := by
  obtain ⟨q, hq⟩ := Cursor.steps_append ((p.after 'x').after '{') (hexOf true c) ('}' :: rest)
  refine ⟨⟨start, q.after '}'⟩, q.after '}', ?_⟩
  simp only [readHexLiteral, Cursor.step_mk, Cursor.peek?, List.head?_cons, readHexBraced, Cursor.visible,
    Bool.false_eq_true, if_false, takeWhile_isHex fun d => isHex_of_mem_hexOf, hq, hexOf_ne_nil,
    readHex_hexOf, charOf?_toNat, Cursor.spanFrom]

theorem readEscape_hex (p : Position) (rest : List Char) :
    readEscape ⟨p, '\\' :: 'x' :: rest, false⟩ =
      (readHexLiteral 2 p ⟨p.after '\\', 'x' :: rest, false⟩).map fun r => (.literal r.1, r.2) := rfl

theorem not_isDigit_of_isMeta {c : Char} (h : isMeta c = true) : c.isDigit = false := by
  simp only [isMeta, List.contains_iff_mem, List.mem_cons, List.not_mem_nil, or_false] at h
  rcases h with rfl | rfl | rfl | rfl | rfl | rfl | rfl | rfl | rfl | rfl | rfl | rfl | rfl | rfl | rfl |
    rfl | rfl | rfl <;> rfl

theorem readEscape_meta {c : Char} (h : isMeta c = true) (p : Position) (rest : List Char) :
    ∃ span p', readEscape ⟨p, '\\' :: c :: rest, false⟩ =
      .ok (.literal ⟨span, c, false⟩, ⟨p', rest, false⟩) := by
  refine ⟨⟨p, (p.after '\\').after c⟩, (p.after '\\').after c, ?_⟩
  simp only [readEscape, Cursor.next_mk, Cursor.peek?, List.head?_cons, not_isDigit_of_isMeta h, h,
    Bool.true_or, Bool.false_eq_true, if_false, if_true, Cursor.spanFrom]

end Pattern

namespace ClassSource

open Pattern

/-- An item of a class, read from its first character on. -/
theorem readSetItem_writeChar (c : Char) (p : Position) (rest : List Char) :
    ∃ span p', readSetItem ⟨p, writeChar c ++ rest, false⟩ =
      .ok (.literal ⟨span, c, false⟩, ⟨p', rest, false⟩) := by
  rw [writeChar]
  split_ifs with hhidden hmeta
  · obtain ⟨span, q, h⟩ := readHexLiteral_hexOf 2 p (p.after '\\') c rest
    refine ⟨span, q, ?_⟩
    simp only [List.cons_append, List.nil_append, List.append_assoc, readSetItem, Cursor.peek?,
      List.head?_cons, readEscape_hex, h]
    rfl
  · obtain ⟨span, q, h⟩ := readEscape_meta hmeta p rest
    exact ⟨span, q, h⟩
  · refine ⟨⟨p, p.after c⟩, p.after c, ?_⟩
    have hc : c ≠ '\\' := by
      rintro rfl
      exact hmeta rfl
    simp [readSetItem, Cursor.peek?, Cursor.charSpan, Cursor.next_mk]

/-- Opens, closes, negates, joins or spans sets when it stands in a class by itself. -/
def isMark (c : Char) : Bool := ['[', ']', '^', '&', '-', '~'].contains c

theorem isMark_eq_false {c : Char} :
    isMark c = false ↔ c ≠ '[' ∧ c ≠ ']' ∧ c ≠ '^' ∧ c ≠ '&' ∧ c ≠ '-' ∧ c ≠ '~' := by
  simp [isMark]

theorem exists_writeChar (c : Char) : ∃ x more, writeChar c = x :: more ∧ isMark x = false := by
  rw [writeChar]
  split_ifs with hhidden hmeta
  · exact ⟨'\\', _, rfl, rfl⟩
  · exact ⟨'\\', _, rfl, rfl⟩
  · refine ⟨c, [], rfl, isMark_eq_false.2 ?_⟩
    simp only [isMeta, List.contains_iff_mem, List.mem_cons, List.not_mem_nil, or_false, not_or] at hmeta
    simp [hmeta]

end ClassSource

end TrigramSieve

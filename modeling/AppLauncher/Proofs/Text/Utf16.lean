import AppLauncher.Text.Utf16
import Mathlib

/-!
# Texts as 16-bit units

`Spells` says which characters units stand for, and says it without the reader: a unit that is no
surrogate stands for the character of its value, and a high surrogate with a low one after it for a
character above those. The encoding of a text spells the text (`spells_encode`), and a reader of
units finds what they spell (`Spells.decode_eq`), so units spell one text at most.

**`Spells.read_eq`**: a reader that stops at the first zero finds the text up to its first zero.
-/

namespace AppLauncher.Utf16

/-- These units stand for these characters. -/
inductive Spells : List UInt16 → List Char → Prop where
  | nil : Spells [] []
  | unit {u : UInt16} {c : Char} {units : List UInt16} {s : List Char}
      (plain : u.toNat < 0xD800 ∨ 0xE000 ≤ u.toNat) (value : c.toNat = u.toNat)
      (rest : Spells units s) : Spells (u :: units) (c :: s)
  | pair {high low : UInt16} {c : Char} {units : List UInt16} {s : List Char}
      (isHigh : 0xD800 ≤ high.toNat ∧ high.toNat < 0xDC00)
      (isLow : 0xDC00 ≤ low.toNat ∧ low.toNat < 0xE000)
      (value : c.toNat = 0x10000 + (high.toNat - 0xD800) * 0x400 + (low.toNat - 0xDC00))
      (rest : Spells units s) : Spells (high :: low :: units) (c :: s)

variable {units more : List UInt16} {s t : List Char} {c : Char}

/-! ## Encoding -/

theorem toNat_notSurrogate (c : Char) :
    c.toNat < 0xD800 ∨ 0xE000 ≤ c.toNat ∧ c.toNat < 0x110000 := by
  rcases c.valid with small | ⟨above, below⟩
  · exact .inl small
  · exact .inr ⟨above, below⟩

theorem spells_encodeChar (c : Char) (rest : Spells units s) :
    Spells (encodeChar c ++ units) (c :: s) := by
  have notSurrogate := toNat_notSurrogate c
  rw [encodeChar]
  by_cases basic : c.toNat < 0x10000
  · rw [if_pos basic]
    have value : c.toNat.toUInt16.toNat = c.toNat := UInt16.toNat_ofNat_of_lt basic
    refine .unit ?_ value.symm rest
    rw [value]
    omega
  · rw [if_neg basic]
    -- Without 0x10000, twenty bits are left, ten of them for each surrogate.
    have high : (0xD800 + (c.toNat - 0x10000) / 0x400).toUInt16.toNat =
        0xD800 + (c.toNat - 0x10000) / 0x400 :=
      UInt16.toNat_ofNat_of_lt (show _ < 0x10000 by omega)
    have low : (0xDC00 + (c.toNat - 0x10000) % 0x400).toUInt16.toNat =
        0xDC00 + (c.toNat - 0x10000) % 0x400 :=
      UInt16.toNat_ofNat_of_lt (show _ < 0x10000 by omega)
    refine .pair ?_ ?_ ?_ rest
    · rw [high]
      omega
    · rw [low]
      omega
    · rw [high, low]
      omega

theorem spells_encode (s : List Char) : Spells (encode s) s := by
  induction s with
  | nil => exact .nil
  | cons c s ih => exact spells_encodeChar c ih

/-- A character above the others takes two units. -/
example : encode ['é', '😀'] = [0xE9, 0xD83D, 0xDE00] := by decide

/-- A text as a buffer spells the text with a zero after it. -/
theorem spells_wide (s : List Char) : Spells (wide s) (s ++ ['\x00']) := by
  have same : wide s = encode (s ++ ['\x00']) := by
    rw [encode_append]
    rfl
  rw [same]
  exact spells_encode _

/-! ## Reading -/

theorem isHigh_iff (u : UInt16) : isHigh u = true ↔ 0xD800 ≤ u.toNat ∧ u.toNat < 0xDC00 := by
  simp [isHigh, UInt16.le_iff_toNat_le, UInt16.lt_iff_toNat_lt]

theorem isLow_iff (u : UInt16) : isLow u = true ↔ 0xDC00 ≤ u.toNat ∧ u.toNat < 0xE000 := by
  simp [isLow, UInt16.le_iff_toNat_le, UInt16.lt_iff_toNat_lt]

theorem decode_plain {u : UInt16} (plain : u.toNat < 0xD800 ∨ 0xE000 ≤ u.toNat) :
    decode (u :: units) = Char.ofNat u.toNat :: decode units := by
  have notHigh : isHigh u = false := by
    rw [Bool.eq_false_iff, ne_eq, isHigh_iff]
    omega
  have notLow : isLow u = false := by
    rw [Bool.eq_false_iff, ne_eq, isLow_iff]
    omega
  cases units with
  | nil => simp [decode, notHigh, notLow]
  | cons v rest => simp [decode, notHigh, notLow]

theorem Spells.decode_eq (spells : Spells units s) : decode units = s := by
  induction spells with
  | nil => rfl
  | unit plain value rest ih => rw [decode_plain plain, ih, ← value, Char.ofNat_toNat]
  | pair high low value rest ih =>
    rw [← isHigh_iff] at high
    rw [← isLow_iff] at low
    rw [decode, if_pos (by rw [high, low]; rfl), ih, ofPair, ← value, Char.ofNat_toNat]

theorem Spells.unique (spells : Spells units s) (spells' : Spells units t) : s = t :=
  spells.decode_eq.symm.trans spells'.decode_eq

theorem wide_injective : Function.Injective wide := by
  intro s t same
  have spells := spells_wide s
  rw [same] at spells
  exact List.append_cancel_right (spells.unique (spells_wide t))

/-! ## Zeros -/

theorem eq_zero_iff {u : UInt16} (value : c.toNat = u.toNat) : u = 0 ↔ c = '\x00' := by
  rw [← UInt16.toNat_inj, ← Char.toNat_inj, value]
  rfl

/-- Neither the units of a surrogate pair nor its character are zero. -/
theorem pair_filled {high low : UInt16} (isHigh : 0xD800 ≤ high.toNat ∧ high.toNat < 0xDC00)
    (isLow : 0xDC00 ≤ low.toNat ∧ low.toNat < 0xE000)
    (value : c.toNat = 0x10000 + (high.toNat - 0xD800) * 0x400 + (low.toNat - 0xDC00)) :
    high ≠ 0 ∧ low ≠ 0 ∧ c ≠ '\x00' := by
  refine ⟨?_, ?_, ?_⟩
  · rintro rfl
    exact absurd isHigh.1 (by decide)
  · rintro rfl
    exact absurd isLow.1 (by decide)
  · rintro rfl
    change 0 = _ at value
    omega

/-- Zero units stand for zeros in the text, and for nothing else. -/
theorem Spells.count_zero (spells : Spells units s) : units.count 0 = s.count '\x00' := by
  induction spells with
  | nil => rfl
  | unit plain value rest ih =>
    rw [List.count_cons, List.count_cons, ih]
    simp only [beq_iff_eq, eq_zero_iff value]
  | pair isHigh isLow value rest ih =>
    obtain ⟨high, low, filled⟩ := pair_filled isHigh isLow value
    rw [List.count_cons_of_ne high, List.count_cons_of_ne low, List.count_cons_of_ne filled, ih]

/-- What stands before the first zero unit spells what stands before the first zero. -/
theorem Spells.untilZero (spells : Spells units s) :
    Spells (untilZero units) (s.takeWhile (· ≠ '\x00')) := by
  induction spells with
  | nil => exact .nil
  | @unit u c _ _ plain value rest ih =>
    -- Both stop here or both go on, as the unit and its character are zero together.
    by_cases zero : u = 0
    · have zero' : c = '\x00' := (eq_zero_iff value).1 zero
      simpa [Utf16.untilZero, zero, zero'] using Spells.nil
    · have filled : c ≠ '\x00' := mt (eq_zero_iff value).2 zero
      simpa [Utf16.untilZero, zero, filled] using ih.unit plain value
  | pair isHigh isLow value rest ih =>
    obtain ⟨high, low, filled⟩ := pair_filled isHigh isLow value
    simpa [Utf16.untilZero, high, low, filled] using ih.pair isHigh isLow value

/-- A reader that stops at the first zero unit finds the text up to its first zero. -/
theorem Spells.read_eq (spells : Spells units s) : read units = s.takeWhile (· ≠ '\x00') :=
  spells.untilZero.decode_eq

end AppLauncher.Utf16

import Mathlib
import CopyFormat.Script.Guard

/-!
Classes of characters by their code points.
-/

namespace CopyFormat

theorem not_mem_of_class {k : Char → Bool} {l : List Char} (hl : (l.any k) = false) {c : Char}
    (hc : k c = true) : c ∉ l := by
  intro hmem
  rw [List.any_eq_false] at hl
  exact hl c hmem hc

theorem isDigit_iff {c : Char} : c.isDigit = true ↔ 48 ≤ c.toNat ∧ c.toNat ≤ 57 := by
  simp [Char.isDigit, UInt32.le_iff_toNat_le, ← Char.toNat_val]

theorem isAlpha_iff {c : Char} :
    c.isAlpha = true ↔ 65 ≤ c.toNat ∧ c.toNat ≤ 90 ∨ 97 ≤ c.toNat ∧ c.toNat ≤ 122 := by
  simp [Char.isAlpha, Char.isUpper, Char.isLower, UInt32.le_iff_toNat_le, ← Char.toNat_val]

theorem isBlank_iff {c : Char} :
    isBlank c = true ↔ 9 ≤ c.toNat ∧ c.toNat ≤ 13 ∨ c.toNat = 0x20 ∨ c.toNat = 0x85 ∨
      c.toNat = 0xA0 ∨ c.toNat = 0x1680 ∨ 0x2000 ≤ c.toNat ∧ c.toNat ≤ 0x200A ∨
      c.toNat = 0x2028 ∨ c.toNat = 0x2029 ∨ c.toNat = 0x202F ∨ c.toNat = 0x205F ∨
      c.toNat = 0x3000 := by
  simp [isBlank, or_assoc]

theorem isBlank_of_isDigit {c : Char} (h : c.isDigit = true) : isBlank c = false := by
  rw [isDigit_iff] at h
  rw [Bool.eq_false_iff, ne_eq, isBlank_iff]
  omega

namespace Script

theorem isNameStart_iff {c : Char} :
    isNameStart c = true ↔ 65 ≤ c.toNat ∧ c.toNat ≤ 90 ∨ 97 ≤ c.toNat ∧ c.toNat ≤ 122 ∨
      c.toNat = 95 ∨ c.toNat = 36 := by
  simp [isNameStart, isAlpha_iff, or_assoc, ← Char.toNat_inj]

theorem isNameChar_iff {c : Char} :
    isNameChar c = true ↔ isNameStart c = true ∨ 48 ≤ c.toNat ∧ c.toNat ≤ 57 := by
  rw [isNameChar, Bool.or_eq_true, isDigit_iff]

end Script

end CopyFormat

import CopyFormat.Pattern.Fault
import CopyFormat.Proofs.Text.Basic
import CopyFormat.Proofs.Text.Character
import CopyFormat.Proofs.Text.Trim

/-!
The reason that the report on a faulty pattern gives. It is the message of the fault, unless the
pattern is a single line that itself looks like the line with the reason.
-/

namespace CopyFormat.Pattern

open Text

def isPrintable (c : Char) : Bool := 0x20 ≤ c.toNat && c.toNat < 0x7F

theorem isPrintable_of_isDigit {c : Char} (h : c.isDigit = true) : isPrintable c = true := by
  rw [isDigit_iff] at h
  simp [isPrintable]
  omega

/-- Printable characters, of which the last is not blank. -/
def isWording (t : Text) : Bool := t.all isPrintable && t.getLast?.any fun c => !isBlank c

theorem isWording_iff {t : Text} :
    isWording t = true ↔
      (∀ c ∈ t, isPrintable c = true) ∧ ∃ c, t.getLast? = some c ∧ isBlank c = false := by
  rw [isWording, Bool.and_eq_true, List.all_eq_true, Option.any_eq_true]
  simp

-- A literal is the text of its characters by definition, and only in that form the kernel goes
-- through it quickly.
theorem holds_lit (p : Text → Bool) {l : List Char} (h : p l = true) :
    p (Text.lit (String.ofList l)) = true := by
  rwa [Text.lit, String.toList_ofList]

theorem isWording_append {s t : Text} (hs : s.all isPrintable = true) (ht : isWording t = true) :
    isWording (s ++ t) = true := by
  rw [List.all_eq_true] at hs
  rw [isWording_iff] at ht ⊢
  obtain ⟨hprintable, c, hlast, hc⟩ := ht
  refine ⟨List.forall_mem_append.mpr ⟨hs, hprintable⟩, c, ?_, hc⟩
  rw [List.getLast?_append, hlast]
  rfl

theorem Fault.message_isWording (fault : Fault) : isWording fault.message = true := by
  fun_cases Fault.message fault with
  | case23 limit => -- the message with the limit of nesting
      have hdigits : (Text.ofNat limit).all isPrintable = true := by
        rw [List.all_eq_true]
        intro c hc
        exact isPrintable_of_isDigit (Nat.isDigit_of_mem_toDigits (by decide) (by decide) hc)
      rw [List.append_assoc]
      refine isWording_append ?_ (isWording_append hdigits (by decide))
      exact holds_lit (·.all isPrintable) (by decide +kernel)
  | case29 | case30 => -- the messages that are written in two pieces
      refine isWording_append ?_ (holds_lit isWording (by decide +kernel))
      exact holds_lit (·.all isPrintable) (by decide +kernel)
  | _ => exact holds_lit isWording (by decide +kernel)

def reasonIn? (line : Text) : Option Text := after? reasonMark (trim line)

theorem reasonIn?_reason (fault : Fault) :
    reasonIn? (reasonMark ++ fault.message) = some fault.message := by
  obtain ⟨-, c, hlast, hc⟩ := isWording_iff.mp fault.message_isWording
  have hend : (reasonMark ++ fault.message).getLast? = some c := by
    rw [List.getLast?_append, hlast]
    rfl
  have htrim : trim (reasonMark ++ fault.message) = reasonMark ++ fault.message :=
    trim_of_ends (c := 'e') rfl (by decide) hend hc
  rw [reasonIn?, htrim, after?_append]

theorem reasonIn?_blank_append {blanks : Text} (h : blanks.isBlankText = true) (line : Text) :
    reasonIn? (blanks ++ line) = reasonIn? line := by
  rw [reasonIn?, trim_blank_append h, reasonIn?]

theorem reasonIn?_cons_eq_none {c : Char} (hc : isBlank c = false) (hne : c ≠ 'e') (r : Text) :
    reasonIn? (c :: r) = none := by
  rw [Option.eq_none_iff_forall_ne_some]
  intro reason h
  have htrim : trimEnd (c :: r) = reasonMark ++ reason := by
    rw [← trimStart_cons hc r]
    exact after?_eq_some h
  obtain ⟨blanks, -, hsplit⟩ := exists_trimEnd (c :: r)
  rw [htrim] at hsplit
  exact hne (List.cons.inj hsplit).1

theorem reasonIn?_numbered (n : Nat) (line : Text) :
    reasonIn? (Text.ofNat n ++ Text.lit ": " ++ line) = none := by
  obtain ⟨d, ds, hd⟩ := List.exists_cons_of_ne_nil (Nat.toDigits_ne_nil (n := n) (b := 10))
  have hdigit : d.isDigit = true :=
    Nat.isDigit_of_mem_toDigits (b := 10) (n := n) (by decide) (by decide)
      (hd ▸ List.mem_cons_self)
  have hne : d ≠ 'e' := by
    rintro rfl
    exact absurd hdigit (by decide)
  rw [Text.ofNat, hd, List.cons_append, List.cons_append]
  exact reasonIn?_cons_eq_none (isBlank_of_isDigit hdigit) hne _

theorem Fault.reason_eq (pattern : Text) (fault : Fault) :
    fault.reason pattern = ((fault.report pattern).findSome? reasonIn?).getD [] := rfl

theorem reasonIn?_heading : reasonIn? (Text.lit "regex parse error:") = none :=
  reasonIn?_cons_eq_none (c := 'r') (by decide) (by decide) _

/-- The numbers in front of the lines keep the pattern from speaking for itself. -/
theorem Fault.reason_of_lines {pattern : Text} (h : '\n' ∈ pattern) (fault : Fault) :
    fault.reason pattern = fault.message := by
  have hnumbered : ((Text.lines pattern).zipIdx.map fun p =>
      Text.ofNat (p.2 + 1) ++ Text.lit ": " ++ p.1).findSome? reasonIn? = none := by
    rw [List.findSome?_eq_none_iff, List.forall_mem_map]
    exact fun p _ => reasonIn?_numbered (p.2 + 1) p.1
  have hlines : pattern.contains '\n' = true := List.contains_iff_mem.mpr h
  rw [reason_eq, report, if_pos hlines, List.cons_append, List.findSome?_cons, reasonIn?_heading,
    List.findSome?_append, hnumbered]
  simp [reasonIn?_reason]

theorem Fault.reason_of_line {pattern : Text} (h : '\n' ∉ pattern) (fault : Fault) :
    fault.reason pattern = (reasonIn? pattern).getD fault.message := by
  have hline : ¬pattern.contains '\n' = true := mt List.contains_iff_mem.mp h
  have hshown : reasonIn? (Text.lit "    " ++ pattern) = reasonIn? pattern :=
    reasonIn?_blank_append (by decide) pattern
  rw [reason_eq, report, if_neg hline, List.cons_append, List.findSome?_cons, reasonIn?_heading,
    List.findSome?_append, List.findSome?_singleton, hshown]
  cases reasonIn? pattern with
  | none => simp [reasonIn?_reason]
  | some reason => rfl

end CopyFormat.Pattern

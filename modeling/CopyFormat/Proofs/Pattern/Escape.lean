import CopyFormat.Pattern.Compiled
import CopyFormat.Proofs.Text.Character

/-!
A text whose characters are escaped is a pattern of written characters, one for each of them, and
its meaning is the text itself.
-/

namespace CopyFormat.Pattern

open CopyFormat.Unicode

@[simp] theorem escape_nil : escape [] = [] := rfl

theorem escape_cons (c : Char) (t : Text) :
    escape (c :: t) = (if isMeta c then ['\\', c] else [c]) ++ escape t := rfl

theorem isDigit_of_isMeta {c : Char} (h : isMeta c = true) : c.isDigit = false := by
  rw [isMeta, List.contains_iff_mem] at h
  rw [Bool.eq_false_iff]
  intro hdigit
  exact not_mem_of_class (by decide) hdigit h

theorem readEscape_of_isMeta {c : Char} (h : isMeta c = true) (r : Text) :
    readEscape false (c :: r) = .ok (.literal { char := c }, r) := by
  have hdigit : ¬ c.isDigit = true := by simp [isDigit_of_isMeta h]
  have hescapable : isEscapable c = true := by simp [isEscapable, h]
  exact (if_neg hdigit).trans (if_pos hescapable)

theorem skip_false (t : Text) : skip false t = t := rfl

variable {fuel : Nat} {parts : List Node}

theorem readParts_plain {c : Char} (h : isMeta c = false) (r : Text) :
    readParts (fuel + 1) {} [] parts (c :: r) =
      readParts fuel {} [] (.literal { char := c } :: parts) r := by
  -- the characters that the reader tells apart all have a meaning of their own
  have hne : ∀ d, isMeta d = true → c ≠ d := by
    rintro d hd rfl
    simp [h] at hd
  rw [readParts]
  simp only [skip_false]
  split
  case h_8 =>
    rename_i heq
    cases heq
    split
    case h_7 => rfl
    all_goals exact absurd rfl (hne _ (by decide))
  case h_1 heq => cases heq
  all_goals
    rename_i heq
    cases heq
    exact absurd rfl (hne _ (by decide))

theorem readParts_escaped {c : Char} (h : isMeta c = true) (r : Text) :
    readParts (fuel + 1) {} [] parts ('\\' :: c :: r) =
      readParts fuel {} [] (.literal { char := c } :: parts) r := by
  change (readEscape false (c :: r)).bind
    (fun q => readParts fuel {} [] (q.1.toNode :: parts) q.2) = _
  rw [readEscape_of_isMeta h]
  rfl

theorem readParts_nil : readParts (fuel + 1) {} [] parts [] = .ok (.ofParts parts.reverse) := rfl

def written (t : Text) : List Node := t.map fun c => .literal { char := c }

theorem readParts_escape {t : Text} (h : t.length < fuel) :
    readParts fuel {} [] parts (escape t) = .ok (.ofParts (parts.reverse ++ written t)) := by
  induction t generalizing fuel parts with
  | nil =>
      obtain ⟨k, rfl⟩ := Nat.exists_eq_add_of_le' (Nat.zero_lt_of_lt h)
      simp [readParts_nil, written]
  | cons c t ih =>
      obtain ⟨k, rfl⟩ := Nat.exists_eq_add_of_le' (Nat.zero_lt_of_lt h)
      have hk : t.length < k := Nat.lt_of_succ_lt_succ h
      rw [escape_cons]
      split
      · rename_i hmeta
        rw [List.cons_append, List.cons_append, List.nil_append, readParts_escaped hmeta, ih hk]
        simp [written]
      · rename_i hplain
        rw [List.cons_append, List.nil_append, readParts_plain (by simpa using hplain), ih hk]
        simp [written]

theorem length_le_escape (t : Text) : t.length ≤ (escape t).length := by
  induction t with
  | nil => simp
  | cons c t ih =>
      rw [escape_cons]
      split <;> simp <;> omega

theorem depthOfList_written (t : Text) : Node.depthOfList (written t) = 0 := by
  induction t with
  | nil => rfl
  | cons c t ih => simpa [written, Node.depthOfList, Node.depth] using ih

theorem depth_ofParts_written (t : Text) : (Node.ofParts (written t)).depth ≤ 1 := by
  match t with
  | [] => simp [written, Node.ofParts, Node.depth]
  | [c] => simp [written, Node.ofParts, Node.depth]
  | c :: d :: t =>
      have hdepth := depthOfList_written (c :: d :: t)
      simpa [written, Node.ofParts, Node.depth] using hdepth

theorem read_escape (t : Text) : Node.read (escape t) = .ok (.ofParts (written t)) := by
  have hlimit : (Node.ofParts (written t)).depth ≤ nestingLimit :=
    Nat.le_trans (depth_ofParts_written t) (by decide)
  rw [Node.read, readParts_escape (Nat.lt_succ_of_le (length_le_escape t))]
  exact if_pos hlimit

theorem ofSet_ofChar (c : Char) : Expr.ofSet (.ofChar c) = .literal [c] := by
  simp [Expr.ofSet, CharSet.single?, CharSet.ofChar, Char.ofNat_toNat]

theorem node_written (c : Char) :
    Modes.node {} (.literal { char := c }) = .ok (.literal [c], {}) := by
  rw [← ofSet_ofChar]
  rfl

theorem nodes_written (t : Text) :
    Modes.nodes {} (written t) = .ok (t.map fun c => .literal [c], {}) := by
  induction t with
  | nil => rfl
  | cons c t ih =>
      rw [written] at ih
      rw [written, List.map_cons, Modes.nodes, node_written]
      simp only [bind, Except.bind, ih]
      rfl

theorem foldr_consPart (c : Char) (t : Text) :
    ((c :: t).map fun c => Expr.literal [c]).foldr Expr.consPart [] = [.literal (c :: t)] := by
  induction t generalizing c with
  | nil => rfl
  | cons d t ih =>
      rw [List.map_cons, List.foldr_cons, ih]
      rfl

theorem sequence_chars {t : Text} (ht : t ≠ []) :
    Expr.sequence (t.map fun c => .literal [c]) = .literal t := by
  obtain ⟨c, t, rfl⟩ := List.exists_cons_of_ne_nil ht
  have hopen (u : Text) :
      Expr.openParts (u.map fun c => .literal [c]) = u.map fun c => .literal [c] := by
    induction u with
    | nil => rfl
    | cons d u ih => simpa [Expr.openParts] using ih
  rw [Expr.sequence, hopen, foldr_consPart]

theorem node_ofParts_written {t : Text} (ht : t ≠ []) :
    Modes.node {} (.ofParts (written t)) = .ok (.literal t, {}) := by
  match t with
  | [c] => exact node_written c
  | c :: d :: t =>
      have hparts : Node.ofParts (written (c :: d :: t)) = .concat (written (c :: d :: t)) := rfl
      rw [hparts, Modes.node, nodes_written, ← sequence_chars ht]
      rfl

theorem meaning_escape {t : Text} (ht : t ≠ []) : meaning {} (escape t) = .ok (.literal t) := by
  have hbind : meaning {} (escape t) =
      (Modes.node {} (.ofParts (written t))).bind fun q => .ok q.1 := by
    rw [meaning, read_escape]
    rfl
  rw [hbind, node_ofParts_written ht]
  rfl

theorem meaning_escape_isOk (t : Text) : ∃ e, meaning {} (escape t) = .ok e := by
  by_cases ht : t = []
  · subst ht
    exact ⟨.empty, rfl⟩
  · exact ⟨_, meaning_escape ht⟩

variable (room : Expr → Nat)

theorem compile_escape {t : Text} (ht : t ≠ []) :
    compile room {} (escape t) =
      if roomLimit < room (.literal t) then .error (.tooLarge roomLimit)
      else .ok { program := .ofExpr (.literal t) } := by
  rw [compile, meaning_escape ht]

/-- Compiling an escaped text fails only when the program takes too much room. -/
theorem eq_tooLarge_of_compile_escape {t : Text} {e : CompileError}
    (h : compile room {} (escape t) = .error e) : e = .tooLarge roomLimit := by
  obtain ⟨expr, hmeaning⟩ := meaning_escape_isOk t
  rw [compile, hmeaning] at h
  dsimp only at h
  split at h <;> cases h
  rfl

end CopyFormat.Pattern

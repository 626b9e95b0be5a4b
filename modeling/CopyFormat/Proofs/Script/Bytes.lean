import CopyFormat.Proofs.Script.Scan
import CopyFormat.Proofs.Text.Offset

/-!
Scripts read byte by byte. The bytes of a character beyond ASCII are no ASCII characters, so none of
them opens, closes or separates anything, and a backslash that takes only the first of them along
leaves the others without effect. The marks of the bytes are therefore those of the characters, and a
scanner finds the same delimiters in both, at places that are counted in bytes and in characters.
-/

namespace CopyFormat

namespace Text

variable {b c : Char}

/-- The bytes of a character in UTF-8, each as the character of its number. -/
def bytesOf (c : Char) : Text := (String.utf8EncodeChar c).map Char.ofUInt8

def bytes (t : Text) : Text := t.flatMap bytesOf

theorem toNat_ofUInt8 (b : UInt8) : (Char.ofUInt8 b).toNat = b.toNat := rfl

theorem length_bytesOf (c : Char) : (bytesOf c).length = c.utf8Size := by
  rw [bytesOf, List.length_map, String.length_utf8EncodeChar]

theorem bytesOf_ascii (hc : c.toNat < 128) : bytesOf c = [c] := by
  have hsize : c.utf8Size = 1 := by
    rw [Char.utf8Size_eq_one_iff, UInt32.le_iff_toNat_le]
    exact Nat.le_of_lt_succ hc
  have hbyte : Char.ofUInt8 c.val.toUInt8 = c := by
    rw [← Char.toNat_inj, toNat_ofUInt8, UInt32.toNat_toUInt8]
    exact Nat.mod_eq_of_lt (Nat.lt_trans hc (by decide))
  rw [bytesOf, String.utf8EncodeChar_eq_singleton hsize, List.map_singleton, hbyte]

theorem le_of_mem_bytesOf (hc : 128 ≤ c.toNat) (hb : b ∈ bytesOf c) : 128 ≤ b.toNat := by
  obtain ⟨x, hx, rfl⟩ := List.mem_map.mp hb
  rw [toNat_ofUInt8]
  change 128 ≤ c.val.toNat at hc
  revert hx
  fun_cases String.utf8EncodeChar c with
  | case1 v hv => omega
  | _ =>
    intro hx
    simp only [List.mem_cons, List.not_mem_nil, or_false] at hx
    rcases hx with rfl | rfl | rfl | rfl <;> simp <;> omega

theorem bytesOf_eq_cons (c : Char) : ∃ b r, bytesOf c = b :: r ∧ ∀ d ∈ r, 128 ≤ d.toNat := by
  by_cases hc : c.toNat < 128
  · exact ⟨c, [], bytesOf_ascii hc, nofun⟩
  · obtain ⟨b, r, hr⟩ := List.exists_cons_of_length_pos
      (lt_of_lt_of_eq c.utf8Size_pos (length_bytesOf c).symm)
    refine ⟨b, r, hr, fun d hd => le_of_mem_bytesOf (Nat.le_of_not_lt hc) ?_⟩
    rw [hr]
    exact List.mem_cons_of_mem b hd

theorem bytes_cons (c : Char) (t : Text) : bytes (c :: t) = bytesOf c ++ bytes t := List.flatMap_cons

theorem bytes_append (s t : Text) : bytes (s ++ t) = bytes s ++ bytes t := List.flatMap_append

theorem length_bytes (t : Text) : (bytes t).length = size t := by
  induction t with
  | nil => rfl
  | cons c t ih => rw [bytes_cons, List.length_append, length_bytesOf, ih, size_cons]

theorem bytes_eq_nil_iff {t : Text} : bytes t = [] ↔ t = [] := by
  rw [← List.length_eq_zero_iff, length_bytes, size_eq_zero_iff]

def byteOffset (t : Text) (k : Nat) : Nat := size (t.take k)

theorem byteOffset_add (t : Text) (j k : Nat) :
    byteOffset t (j + k) = byteOffset t j + byteOffset (t.drop j) k := by
  rw [byteOffset, List.take_add, size_append]
  rfl

theorem drop_bytes (t : Text) (k : Nat) : (bytes t).drop (byteOffset t k) = bytes (t.drop k) := by
  conv_lhs => rw [← List.take_append_drop k t, bytes_append]
  rw [byteOffset, List.take_append_drop, ← length_bytes, List.drop_left]

end Text

namespace Script

variable {b c : Char} {quote : Option Char} {m : Mark} {ms : List Mark} {s t : Text}

/-! ### Marks -/

/-- The marks of the bytes of a character. -/
def Mark.bytes (m : Mark) : List Mark := (Text.bytesOf m.char).map fun b => ⟨b, m.bare⟩

theorem ne_of_wide (hc : c.toNat < 128) (hb : 128 ≤ b.toNat) : b ≠ c := by
  rintro rfl
  exact absurd hb (Nat.not_le_of_lt hc)

theorem isQuote_eq_false_of_wide (hb : 128 ≤ b.toNat) : isQuote b = false := by
  rw [Bool.eq_false_iff, ne_eq, isQuote_iff, not_or]
  exact ⟨ne_of_wide (by decide) hb, ne_of_wide (by decide) hb⟩

theorem toNat_lt_of_isQuote (hc : isQuote c = true) : c.toNat < 128 := by
  rcases isQuote_iff.mp hc with rfl | rfl <;> decide

theorem marksIn_wide_append (hquote : ∀ q ∈ quote, isQuote q = true)
    (ht : ∀ d ∈ t, 128 ≤ d.toNat) (u : Text) :
    marksIn quote (t ++ u) = (t.map fun d => ⟨d, quote.isNone⟩) ++ marksIn quote u := by
  induction t with
  | nil => rfl
  | cons d t ih =>
      obtain ⟨hd, ht⟩ := List.forall_mem_cons.mp ht
      rw [List.cons_append, List.map_cons, List.cons_append, ← ih ht]
      cases quote with
      | none => rw [marksIn_none_cons, isQuote_eq_false_of_wide hd]; rfl
      | some q =>
          rw [marksIn_quote (ne_of_wide (by decide) hd),
            if_neg (ne_of_wide (toNat_lt_of_isQuote (hquote q rfl)) hd)]
          rfl

theorem marksIn_bytes (hquote : ∀ q ∈ quote, isQuote q = true) (t : Text) :
    marksIn quote t.bytes = (marksIn quote t).flatMap Mark.bytes := by
  fun_induction marksIn quote t with
  | case1 => cases quote <;> rfl
  | case2 c r hc ih =>
      have hascii := Text.bytesOf_ascii (toNat_lt_of_isQuote hc)
      rw [Text.bytes_cons, hascii, List.singleton_append, marksIn_none_cons, if_pos hc,
        List.flatMap_cons, Mark.bytes, hascii, ih (by simpa using hc)]
      rfl
  | case3 c r hc ih =>
      rw [List.flatMap_cons, Mark.bytes, Text.bytes_cons, ← ih hquote]
      by_cases hascii : c.toNat < 128
      · rw [Text.bytesOf_ascii hascii, List.singleton_append, marksIn_none_cons, if_neg hc]
        rfl
      · rw [marksIn_wide_append hquote fun d hd =>
          Text.le_of_mem_bytesOf (Nat.le_of_not_lt hascii) hd]
        rfl
  | case4 q d r ih =>
      -- the backslash takes the first byte of `d` along, and the others are hidden one by one
      obtain ⟨b, bs, hd, hbs⟩ := Text.bytesOf_eq_cons d
      have hback : Text.bytesOf '\\' = ['\\'] := Text.bytesOf_ascii (by decide)
      rw [Text.bytes_cons, Text.bytes_cons, hback, hd, List.singleton_append, List.cons_append,
        marksIn_backslash, marksIn_wide_append hquote hbs, List.flatMap_cons, List.flatMap_cons,
        Mark.bytes, Mark.bytes, hback, hd, ih hquote]
      rfl
  | case5 q c r hpair ih =>
      have hq : isQuote q = true := hquote q rfl
      rw [List.flatMap_cons, Mark.bytes, Text.bytes_cons]
      by_cases hascii : c.toNat < 128
      · have hrest : ∀ d ∈ (if c = q then none else some q), isQuote d = true := by
          split <;> simp [hq]
        rw [Text.bytesOf_ascii hascii, ← ih hrest]
        by_cases hback : c = '\\'
        · cases r with
          | nil => rw [hback]; rw [if_neg (ne_backslash_of_isQuote hq).symm]; rfl
          | cons d r => exact (hpair d r hback rfl).elim
        · exact marksIn_quote hback (Text.bytes r)
      · have hwide : ∀ d ∈ Text.bytesOf c, 128 ≤ d.toNat :=
          fun d hd => Text.le_of_mem_bytesOf (Nat.le_of_not_lt hascii) hd
        have hne : c ≠ q := ne_of_wide (toNat_lt_of_isQuote hq) (Nat.le_of_not_lt hascii)
        rw [if_neg hne] at ih ⊢
        rw [marksIn_wide_append hquote hwide, ih hquote]
        rfl

theorem marks_bytes (s : Text) : marks s.bytes = (marks s).flatMap Mark.bytes :=
  marksIn_bytes (by simp) s

theorem Mark.length_bytes (m : Mark) : m.bytes.length = m.char.utf8Size := by
  rw [Mark.bytes, List.length_map, Text.length_bytesOf]

theorem Mark.bytes_ascii (hc : c.toNat < 128) (bare : Bool) :
    Mark.bytes ⟨c, bare⟩ = [⟨c, bare⟩] := by
  rw [Mark.bytes, Text.bytesOf_ascii hc, List.map_singleton]

theorem Mark.is_of_mem_bytes (hc : c.toNat < 128) {m' : Mark} (hm' : m' ∈ m.bytes) :
    m'.is c = m.is c := by
  obtain ⟨b, hb, rfl⟩ := List.mem_map.mp hm'
  by_cases hascii : m.char.toNat < 128
  · rw [Text.bytesOf_ascii hascii, List.mem_singleton] at hb
    rw [hb]
  · have hwide := Nat.le_of_not_lt hascii
    rw [Mark.is, Mark.is, beq_eq_false_iff_ne.mpr (ne_of_wide hc hwide),
      beq_eq_false_iff_ne.mpr (ne_of_wide hc (Text.le_of_mem_bytesOf hwide hb))]

/-! ### The top level -/

theorem isPlain_of_wide (hb : 128 ≤ b.toNat) : isPlain b = true := by
  rw [isPlain_iff_not_mem]
  intro hmem
  simp only [List.mem_cons, List.not_mem_nil, or_false] at hmem
  rcases hmem with rfl | rfl | rfl | rfl | rfl | rfl <;> exact absurd hb (by decide)

theorem topOf_wide_append (ht : ∀ d ∈ t, 128 ≤ d.toNat) (bare : Bool) (depth : Nat)
    (ms : List Mark) :
    topOf depth ((t.map fun d => ⟨d, bare⟩) ++ ms) =
      (t.map fun d => ⟨d, bare && depth == 0⟩) ++ topOf depth ms := by
  induction t with
  | nil => rfl
  | cons d t ih =>
      obtain ⟨hd, ht⟩ := List.forall_mem_cons.mp ht
      have hplain := isPlain_of_wide hd
      have hdepth : depthBehind depth ⟨d, bare⟩ = depth := by
        cases bare with
        | false => rfl
        | true => exact depthBehind_plain hplain depth
      rw [List.map_cons, List.cons_append, topOf, hdepth, ih ht, (isPlain_iff.mp hplain).2]
      simp

theorem topOf_bytes (depth : Nat) (ms : List Mark) :
    topOf depth (ms.flatMap Mark.bytes) = (topOf depth ms).flatMap Mark.bytes := by
  induction ms generalizing depth with
  | nil => rfl
  | cons m ms ih =>
      rw [List.flatMap_cons, topOf, List.flatMap_cons, ← ih, Mark.bytes, Mark.bytes]
      by_cases hascii : m.char.toNat < 128
      · rw [Text.bytesOf_ascii hascii]
        rfl
      · have hwide := Nat.le_of_not_lt hascii
        have hplain := isPlain_of_wide hwide
        have hdepth : depthBehind depth m = depth := by
          obtain ⟨c, bare⟩ := m
          cases bare with
          | false => rfl
          | true => exact depthBehind_plain hplain depth
        rw [topOf_wide_append fun d hd => Text.le_of_mem_bytesOf hwide hd, hdepth,
          (isPlain_iff.mp hplain).2]
        simp

theorem topMarks_bytes (s : Text) : topMarks s.bytes = (topMarks s).flatMap Mark.bytes := by
  rw [topMarks, marks_bytes, topOf_bytes]
  rfl

/-! ### Places -/

def bytesBefore (ms : List Mark) (k : Nat) : Nat := Text.size ((ms.take k).map Mark.char)

theorem bytesBefore_cons (m : Mark) (ms : List Mark) (k : Nat) :
    bytesBefore (m :: ms) (k + 1) = bytesBefore ms k + m.bytes.length := by
  rw [Mark.length_bytes]
  exact Nat.add_comm m.char.utf8Size (bytesBefore ms k)

theorem map_bytesBefore_cons (m : Mark) (ms : List Mark) (place : Option Nat) :
    (place.map (bytesBefore ms)).map (· + m.bytes.length) =
      (place.map (· + 1)).map (bytesBefore (m :: ms)) := by
  rw [Option.map_map, Option.map_map]
  congr 1
  funext k
  exact (bytesBefore_cons m ms k).symm

theorem map_bytesBefore_ascii (hc : c.toNat < 128) (ms : List Mark) (place : Option Nat) :
    (place.map (bytesBefore ms)).map (· + 1) =
      (place.map (· + 1)).map (bytesBefore (⟨c, true⟩ :: ms)) := by
  rw [← map_bytesBefore_cons, Mark.bytes_ascii hc]
  rfl

theorem closeAmong_bytes (depth : Nat) (ms : List Mark) :
    closeAmong depth (ms.flatMap Mark.bytes) = (closeAmong depth ms).map (bytesBefore ms) := by
  induction ms generalizing depth with
  | nil => rfl
  | cons m ms ih =>
      rw [List.flatMap_cons]
      by_cases hopen : m.is '(' = true
      · obtain rfl := Mark.eq_of_is hopen
        rw [Mark.bytes_ascii (by decide), List.singleton_append, closeAmong_open, closeAmong_open,
          ih, map_bytesBefore_ascii (c := '(') (by decide)]
      · by_cases hclose : m.is ')' = true
        · obtain rfl := Mark.eq_of_is hclose
          rw [Mark.bytes_ascii (by decide), List.singleton_append, closeAmong_close,
            closeAmong_close]
          split
          · rfl
          · rw [ih, map_bytesBefore_ascii (c := ')') (by decide)]
        · rw [Bool.not_eq_true] at hopen hclose
          rw [closeAmong_other hopen hclose, ← map_bytesBefore_cons, ← ih]
          refine closeAmong_append_of_none (fun m' hm' => ?_) depth _
          rw [Mark.is_of_mem_bytes (by decide) hm', Mark.is_of_mem_bytes (by decide) hm']
          exact ⟨hopen, hclose⟩

theorem colonAmong_bytes (pending : Nat) (ms : List Mark) :
    colonAmong pending (ms.flatMap Mark.bytes) =
      (colonAmong pending ms).map (bytesBefore ms) := by
  induction ms generalizing pending with
  | nil => rfl
  | cons m ms ih =>
      rw [List.flatMap_cons]
      by_cases hquestion : m.is '?' = true
      · obtain rfl := Mark.eq_of_is hquestion
        rw [Mark.bytes_ascii (by decide), List.singleton_append, colonAmong_question,
          colonAmong_question, ih, map_bytesBefore_ascii (c := '?') (by decide)]
      · by_cases hcolon : m.is ':' = true
        · obtain rfl := Mark.eq_of_is hcolon
          rw [Mark.bytes_ascii (by decide), List.singleton_append]
          cases pending with
          | zero => rfl
          | succ pending =>
              rw [colonAmong_answer, colonAmong_answer, ih,
                map_bytesBefore_ascii (c := ':') (by decide)]
        · rw [Bool.not_eq_true] at hquestion hcolon
          rw [colonAmong_other hquestion hcolon, ← map_bytesBefore_cons, ← ih]
          refine colonAmong_append_of_none (fun m' hm' => ?_) pending _
          rw [Mark.is_of_mem_bytes (by decide) hm', Mark.is_of_mem_bytes (by decide) hm']
          exact ⟨hquestion, hcolon⟩

/-- The places are counted in bytes by `f`, from that of the first mark on. -/
theorem openAmong_bytes {f : Nat → Nat} {place : Nat} {ms : List Mark}
    (hf : ∀ k m, ms[k]? = some m → f (place + k + 1) = f (place + k) + m.bytes.length)
    (opened : List Nat) :
    openAmong (opened.map f) (f place) (ms.flatMap Mark.bytes) =
      (openAmong opened place ms).map f := by
  induction ms generalizing opened place with
  | nil => rfl
  | cons m ms ih =>
      have hnext : f (place + 1) = f place + m.bytes.length := hf 0 m rfl
      have hrest : ∀ opened, openAmong (opened.map f) (f place + m.bytes.length)
          (ms.flatMap Mark.bytes) = (openAmong opened (place + 1) ms).map f := by
        rw [← hnext]
        refine ih fun k m' hm' => ?_
        rw [Nat.add_assoc place 1 k, Nat.add_comm 1 k]
        exact hf (k + 1) m' hm'
      rw [List.flatMap_cons]
      by_cases hopen : m.is '(' = true
      · obtain rfl := Mark.eq_of_is hopen
        rw [Mark.bytes_ascii (by decide)] at hrest ⊢
        exact hrest (place :: opened)
      · by_cases hclose : m.is ')' = true
        · obtain rfl := Mark.eq_of_is hclose
          rw [Mark.bytes_ascii (by decide)] at hrest ⊢
          cases ms with
          | nil => exact List.head?_map
          | cons m' ms =>
              obtain ⟨b, bs, hb⟩ := List.exists_cons_of_length_pos
                (lt_of_lt_of_eq m'.char.utf8Size_pos m'.length_bytes.symm)
              have htail := hrest opened.tail
              rw [List.map_tail] at htail
              rw [List.flatMap_cons, hb] at htail ⊢
              exact htail
        · rw [Bool.not_eq_true] at hopen hclose
          rw [openAmong_other hopen hclose, ← hrest]
          refine openAmong_append_of_none (fun m' hm' => ?_) _ _ _
          rw [Mark.is_of_mem_bytes (by decide) hm', Mark.is_of_mem_bytes (by decide) hm']
          exact ⟨hopen, hclose⟩

theorem bytesBefore_succ {ms : List Mark} {k : Nat} {m : Mark} (hm : ms[k]? = some m) :
    bytesBefore ms (k + 1) = bytesBefore ms k + m.bytes.length := by
  rw [bytesBefore, List.take_add_one, hm, List.map_append, Text.size_append, Mark.length_bytes]
  rfl

theorem bytesBefore_eq {ms : List Mark} (hs : ms.map Mark.char = s) :
    bytesBefore ms = s.byteOffset := by
  funext k
  rw [bytesBefore, List.map_take, hs]
  rfl

theorem matchingClose_bytes (s : Text) :
    matchingClose s.bytes = (matchingClose s).map s.byteOffset := by
  rw [matchingClose, marks_bytes, closeAmong_bytes, bytesBefore_eq (marks_map_char s)]
  rfl

theorem branchColon_bytes (s : Text) :
    branchColon s.bytes = (branchColon s).map s.byteOffset := by
  rw [branchColon, topMarks_bytes, colonAmong_bytes, bytesBefore_eq (topMarks_map_char s)]
  rfl

theorem trailingOpen_bytes (s : Text) :
    trailingOpen s.bytes = (trailingOpen s).map s.byteOffset := by
  have hcount : ∀ k m, (marks s)[k]? = some m →
      s.byteOffset (0 + k + 1) = s.byteOffset (0 + k) + m.bytes.length := by
    intro k m hm
    rw [Nat.zero_add, ← bytesBefore_eq (marks_map_char s)]
    exact bytesBefore_succ hm
  rw [trailingOpen, marks_bytes]
  exact openAmong_bytes hcount []

end Script
end CopyFormat

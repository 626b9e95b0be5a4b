import CopyFormat.Proofs.Script.Bytes

/-!
The colon between the branches of a choice. It is the first at the top level before which all question
marks have been answered, whatever follows it. In a branch that holds choices itself, each of their
colons answers a question mark of the branch, so that the colon behind the branch is the one that is
found.
-/

namespace CopyFormat.Script

variable {c : Char} {k : Nat} {ms : List Mark} {s t u v w : Text}

/-! ### The depth of brackets -/

theorem depthBehind_near {depth depth' : Nat} (hle : depth ≤ depth') (hnear : depth' ≤ depth + 1)
    (m : Mark) : depthBehind depth m ≤ depthBehind depth' m ∧
      depthBehind depth' m ≤ depthBehind depth m + 1 := by
  rw [depthBehind, depthBehind]
  split
  · omega
  · split <;> omega

theorem foldl_depthBehind_near {depth depth' : Nat} (hle : depth ≤ depth')
    (hnear : depth' ≤ depth + 1) (ms : List Mark) :
    ms.foldl depthBehind depth' ≤ ms.foldl depthBehind depth + 1 := by
  induction ms generalizing depth depth' with
  | nil => exact hnear
  | cons m ms ih =>
      obtain ⟨hle', hnear'⟩ := depthBehind_near hle hnear m
      exact ih hle' hnear'

theorem topOf_of_deeper {depth depth' : Nat} (hle : depth ≤ depth') (hnear : depth' ≤ depth + 1)
    (h : ∀ m ∈ topOf depth ms, m.is c = false) : ∀ m ∈ topOf depth' ms, m.is c = false := by
  induction ms generalizing depth depth' with
  | nil => exact nofun
  | cons m ms ih =>
      rw [topOf, List.forall_mem_cons] at h ⊢
      obtain ⟨hle', hnear'⟩ := depthBehind_near hle hnear m
      refine ⟨?_, ih hle' hnear' h.2⟩
      by_cases hzero : depth' = 0
      · obtain rfl : depth = 0 := by omega
        rw [hzero]
        exact h.1
      · simp [Mark.is, hzero]

/-! ### Whole texts -/

/-- The text ends at the top level, as all do whose quotes and brackets pair up, and has no question
mark and no colon there. -/
structure Whole (t : Text) : Prop where
  endsAtTop : EndsAtTop t
  question : findTop '?' t = none
  colon : findTop ':' t = none

instance (t : Text) : Decidable (Whole t) :=
  decidable_of_iff (EndsAtTop t ∧ findTop '?' t = none ∧ findTop ':' t = none)
    ⟨fun h => ⟨h.1, h.2.1, h.2.2⟩, fun h => ⟨h.endsAtTop, h.question, h.colon⟩⟩

namespace Whole

theorem of_balances {p : Char → Prop} (h : Balances p 0 t) (hquestion : ¬p '?')
    (hcolon : ¬p ':') : Whole t :=
  ⟨h.endsAtTop, h.findTop_eq_none hquestion, h.findTop_eq_none hcolon⟩

theorem of_forall (h : ∀ c ∈ t, isPlain c = true ∧ c ≠ '?' ∧ c ≠ ':') : Whole t :=
  of_balances (p := fun c => c ≠ '?' ∧ c ≠ ':') (Balances.of_forall h) (by simp) (by simp)

theorem of_blank (ht : t.isBlankText = true) : Whole t := by
  rw [Text.isBlankText_iff] at ht
  refine of_forall fun c hc => ⟨isPlain_of_isBlank (ht c hc), ?_, ?_⟩ <;>
  · rintro rfl
    exact absurd (ht _ hc) (by decide)

theorem append (hs : Whole s) (ht : Whole t) : Whole (s ++ t) := by
  have hnone : ∀ {c : Char}, findTop c s = none → findTop c t = none →
      findTop c (s ++ t) = none := by
    intro c hs' ht'
    rw [findTop_eq_none_iff] at hs' ht' ⊢
    rw [hs.endsAtTop.topMarks_append, List.forall_mem_append]
    exact ⟨hs', ht'⟩
  exact ⟨hs.endsAtTop.append ht.endsAtTop, hnone hs.question ht.question, hnone hs.colon ht.colon⟩

theorem group (h : Whole t) : Whole ('(' :: (t ++ [')'])) := by
  have hmarks : ∀ r : Text, marks ('(' :: (t ++ [')']) ++ r) =
      ⟨'(', true⟩ :: (marks t ++ ⟨')', true⟩ :: marks r) := by
    intro r
    rw [List.cons_append, marks_cons rfl, List.append_assoc, h.endsAtTop.marks_append,
      List.singleton_append, marks_cons rfl]
  have hwhole := hmarks []
  rw [List.append_nil] at hwhole
  have hnone : ∀ {c : Char}, isBracket c = false → findTop c t = none →
      findTop c ('(' :: (t ++ [')'])) = none := by
    intro c hc ht
    rw [findTop_eq_none_iff] at ht ⊢
    have hinside := topOf_of_deeper (Nat.zero_le 1) (le_refl 1) ht
    rw [topMarks, hwhole, topOf, topOf_append, List.forall_mem_cons, List.forall_mem_append]
    refine ⟨rfl, hinside, ?_⟩
    rw [topOf, List.forall_mem_cons]
    exact ⟨by simp [Mark.is, isBracket], List.forall_mem_nil _⟩
  refine ⟨⟨quoteBehind_of_marks_append fun r => ?_, ?_⟩, hnone rfl h.question, hnone rfl h.colon⟩
  · rw [hmarks, hwhole]
    simp [marks, marksIn]
  · -- where `t` closes more than it has opened, it closes the parenthesis before it
    have hdepth := foldl_depthBehind_near (Nat.zero_le 1) (le_refl 1) (marks t)
    rw [← depthOf, h.endsAtTop.2] at hdepth
    rw [depthOf, hwhole, List.foldl_cons, List.foldl_append, depthBehind_open]
    change (marks t).foldl depthBehind 1 - 1 = 0
    omega

theorem colonAmong_append (h : Whole t) (pending : Nat) (ms : List Mark) :
    colonAmong pending (topMarks t ++ ms) = (colonAmong pending ms).map (· + t.length) := by
  rw [colonAmong_append_of_none, topMarks_length]
  exact fun m hm => ⟨findTop_eq_none_iff.mp h.question m hm, findTop_eq_none_iff.mp h.colon m hm⟩

end Whole

/-! ### The colon that answers -/

/-- The mark at a place is a colon, before which all question marks have been answered, also the
`pending` ones that stand before the marks. -/
def Answers (pending : Nat) (ms : List Mark) (k : Nat) : Prop :=
  ms[k]? = some ⟨':', true⟩ ∧ pending + countOf '?' (ms.take k) = countOf ':' (ms.take k)

theorem answers_succ_iff {pending pending' : Nat} {m : Mark}
    (h : pending' + (if m.is ':' then 1 else 0) = pending + if m.is '?' then 1 else 0) (j : Nat) :
    Answers pending (m :: ms) (j + 1) ↔ Answers pending' ms j := by
  rw [Answers, Answers, List.getElem?_cons_succ, List.take_succ_cons, countOf_cons, countOf_cons]
  apply and_congr_right
  intro _
  omega

theorem answers_zero_iff {pending : Nat} {m : Mark} :
    Answers pending (m :: ms) 0 ↔ m = ⟨':', true⟩ ∧ pending = 0 := by
  simp [Answers, countOf]

theorem colonAmong_eq_some_iff {pending : Nat} :
    colonAmong pending ms = some k ↔ IsLeast {j | Answers pending ms j} k := by
  induction ms generalizing pending k with
  | nil =>
      constructor
      · exact nofun
      · rintro ⟨⟨hk, -⟩, -⟩
        cases hk
  | cons m ms ih =>
      by_cases hquestion : m.is '?' = true
      · obtain rfl := Mark.eq_of_is hquestion
        rw [colonAmong_question]
        apply map_succ_eq_some_iff _ (answers_succ_iff _) fun j => ih
        · simp [answers_zero_iff]
        · simp
      · by_cases hcolon : m.is ':' = true
        · obtain rfl := Mark.eq_of_is hcolon
          cases pending with
          | zero => exact some_zero_eq_some_iff (answers_zero_iff.mpr ⟨rfl, rfl⟩)
          | succ pending =>
              rw [colonAmong_answer]
              apply map_succ_eq_some_iff _ (answers_succ_iff _) fun j => ih
              · simp [answers_zero_iff]
              · simp
        · rw [Bool.not_eq_true] at hquestion hcolon
          rw [colonAmong_other hquestion hcolon]
          apply map_succ_eq_some_iff _ (answers_succ_iff _) fun j => ih
          · rw [answers_zero_iff]
            rintro ⟨rfl, -⟩
            cases hcolon
          · rw [hquestion, hcolon]

/-- At the top level of the text as many question marks as colons stand. -/
def EvenlyAnswered (t : Text) : Prop := countOf '?' (topMarks t) = countOf ':' (topMarks t)

instance (t : Text) : Decidable (EvenlyAnswered t) := inferInstanceAs (Decidable (_ = _))

/-- A colon at the top level, and all question marks before it have been answered. -/
def EndsBranch (s : Text) (k : Nat) : Prop :=
  (topMarks s)[k]? = some ⟨':', true⟩ ∧ EvenlyAnswered (s.take k)

theorem branchColon_eq_some_iff :
    branchColon s = some k ↔ IsLeast {j | EndsBranch s j} k := by
  have hset : ∀ j, Answers 0 (topMarks s) j ↔ EndsBranch s j := by
    intro j
    rw [Answers, EndsBranch, EvenlyAnswered, topMarks_take, Nat.zero_add]
  rw [branchColon, colonAmong_eq_some_iff]
  simp only [hset]

theorem topMarks_getElem?_congr (h : s.take (k + 1) = t.take (k + 1)) :
    (topMarks s)[k]? = (topMarks t)[k]? := by
  have hmark : ∀ r : Text, (topMarks r)[k]? = (topMarks (r.take (k + 1)))[k]? := by
    intro r
    rw [topMarks_take, List.getElem?_take_of_lt (Nat.lt_succ_self k)]
  rw [hmark, h, ← hmark]

theorem endsBranch_congr (h : s.take (k + 1) = t.take (k + 1)) :
    EndsBranch s k ↔ EndsBranch t k := by
  have hbefore : s.take k = t.take k := by
    have htake := congrArg (List.take k) h
    rwa [List.take_take, List.take_take, min_eq_left (Nat.le_succ k)] at htake
  rw [EndsBranch, EndsBranch, topMarks_getElem?_congr h, hbefore]

theorem branchColon_take_append (h : branchColon s = some k) (t : Text) :
    branchColon (s.take (k + 1) ++ t) = some k := by
  rw [branchColon_eq_some_iff] at h ⊢
  obtain ⟨hk, hleast⟩ := h
  have hlength : k < s.length := by
    obtain ⟨hlt, -⟩ := List.getElem?_eq_some_iff.mp hk.1
    rwa [topMarks_length] at hlt
  have hsame : ∀ j ≤ k, EndsBranch (s.take (k + 1) ++ t) j ↔ EndsBranch s j := by
    intro j hj
    apply endsBranch_congr
    rw [List.take_append_of_le_length (by rw [List.length_take]; omega), List.take_take,
      min_eq_left (Nat.succ_le_succ hj)]
  constructor
  · exact (hsame k (le_refl k)).mpr hk
  · intro j hj
    by_contra hlt
    exact hlt (hleast ((hsame j (by omega)).mp hj))

theorem branchColon_eq_findTop (h : findTop '?' s = none) : branchColon s = findTop ':' s := by
  have hnone := findTop_eq_none_iff.mp h
  rw [branchColon, findTop]
  generalize topMarks s = ms at hnone
  induction ms with
  | nil => rfl
  | cons m ms ih =>
      obtain ⟨hm, hnone⟩ := List.forall_mem_cons.mp hnone
      rw [List.findIdx?_cons, ← ih hnone]
      by_cases hcolon : m.is ':' = true
      · obtain rfl := Mark.eq_of_is hcolon
        rfl
      · rw [colonAmong_other hm (eq_false_of_ne_true hcolon), if_neg hcolon]

/-! ### Branches -/

/-- The text of a branch: choices inside one another, down to whole texts. -/
inductive Branch : Text → Prop
  | leaf {t : Text} (ht : Whole t) : Branch t
  | choice {u v c w s t : Text} (hu : u.isBlankText = true) (hv : v.isBlankText = true)
      (hc : Whole c) (hw : w.isBlankText = true) (hs : Branch s) (ht : Branch t) :
      Branch (u ++ (Text.lit "if" ++ (v ++ '(' :: (c ++ ')' :: (w ++ '?' :: (s ++ ':' :: t))))))

namespace Branch

theorem choice_induction {P : Text → Prop} (h : Branch s) (leaf : ∀ t, Whole t → P t)
    (choice : ∀ lead s t, Whole lead → Branch s → Branch t → P s → P t →
      P (lead ++ '?' :: (s ++ ':' :: t))) : P s := by
  induction h with
  | leaf ht => exact leaf _ ht
  | @choice u v c w s t hu hv hc hw hs ht ihs iht =>
      have hword : Whole (Text.lit "if") := ⟨by decide, rfl, rfl⟩
      have hlead := (Whole.of_blank hu).append (hword.append ((Whole.of_blank hv).append
        (hc.group.append (.of_blank hw))))
      have hsplit : u ++ (Text.lit "if" ++ (v ++ '(' :: (c ++ ')' :: (w ++ '?' :: (s ++ ':' :: t))))) =
          u ++ (Text.lit "if" ++ (v ++ ('(' :: (c ++ [')']) ++ w))) ++ '?' :: (s ++ ':' :: t) := by
        simp
      rw [hsplit]
      exact choice _ s t hlead hs ht ihs iht

theorem endsAtTop (h : Branch s) : EndsAtTop s := by
  apply h.choice_induction fun t ht => ht.endsAtTop
  intro lead s t hlead _ _ ihs iht
  exact hlead.endsAtTop.append ((ihs.append (iht.cons (by decide))).cons (by decide))

/-- Within a branch each colon answers a question mark before it. -/
theorem colonAmong_append (h : Branch s) : ∀ pending ms,
    colonAmong pending (topMarks s ++ ms) = (colonAmong pending ms).map (· + s.length) := by
  apply h.choice_induction fun t ht => ht.colonAmong_append
  intro lead s t hlead hs ht ihs iht pending ms
  rw [hlead.endsAtTop.topMarks_append, topMarks_cons (by decide), hs.endsAtTop.topMarks_append,
    topMarks_cons (by decide)]
  simp only [List.append_assoc, List.cons_append]
  rw [hlead.colonAmong_append, colonAmong_question, ihs, colonAmong_answer, iht]
  simp only [Option.map_map]
  congr 1
  funext k
  simp only [Function.comp_apply, List.length_append, List.length_cons]
  omega

theorem branchColon_append (h : Branch s) (rest : Text) :
    branchColon (s ++ ':' :: rest) = some s.length := by
  rw [branchColon, h.endsAtTop.topMarks_append, topMarks_cons (by decide), h.colonAmong_append,
    colonAmong_found, Option.map_some, Nat.zero_add]

theorem padded (h : Branch s) (hu : u.isBlankText = true) (hv : v.isBlankText = true) :
    Branch (u ++ (s ++ v)) := by
  induction h generalizing u with
  | leaf ht => exact .leaf ((Whole.of_blank hu).append (ht.append (.of_blank hv)))
  | @choice u' v' c w s t hu' hv' hc hw hs ht _ iht =>
      have hblank := Text.isBlankText_append.mpr ⟨hu, hu'⟩
      have hchoice := choice hblank hv' hc hw hs (iht (u := []) rfl)
      simpa using hchoice

end Branch

/-- The colon that ends a branch is the first at the top level that answers no question mark before it,
whatever stands behind it. Behind a branch of choices inside one another it is found at the end of the
branch. Places are the same in bytes. -/
theorem branchColon_balances (s : Text) :
    (∀ i, branchColon s = some i ↔
      IsLeast {j | (topMarks s)[j]? = some ⟨':', true⟩ ∧ EvenlyAnswered (s.take j)} i) ∧
    (∀ i, branchColon s = some i → ∀ t, branchColon (s.take (i + 1) ++ t) = some i) ∧
    (findTop '?' s = none → branchColon s = findTop ':' s) ∧
    (Branch s → ∀ rest, branchColon (s ++ ':' :: rest) = some s.length) ∧
    branchColon s.bytes = (branchColon s).map s.byteOffset := by
  refine ⟨?_, ?_, branchColon_eq_findTop, ?_, branchColon_bytes s⟩
  · intro i
    exact branchColon_eq_some_iff
  · intro i hi t
    exact branchColon_take_append hi t
  · intro hs rest
    exact hs.branchColon_append rest

/-- A choice in each branch of a choice, with colons and question marks in quotes and brackets. Without
a question mark at the top level the first colon there is the one; a parenthesis that closes nothing
does not count. -/
theorem branchColon_balances_nested :
    let s := " if (x) ? if (f('?')) ? [a:b] : 'é:' : if (y)?c:d ".toList
    let t := "m) (a ? b : c) : d : e".toList
    (Branch s ∧ branchColon (s ++ ':' :: "z : w".toList) = some 50) ∧
    (findTop '?' t = none ∧ branchColon t = some 15) ∧
      branchColon ("m) (a ? b : c) :".toList ++ "?'".toList) = some 15 := by
  intro s t
  obtain ⟨-, -, -, hbranch, -⟩ := branchColon_balances s
  obtain ⟨-, hbehind, hnone, -, -⟩ := branchColon_balances t
  have hone : Branch " if (f('?')) ? [a:b] : 'é:' ".toList :=
    .choice (u := [' ']) (v := [' ']) (c := "f('?')".toList) (w := [' ']) (s := " [a:b] ".toList)
      (t := " 'é:' ".toList) rfl rfl (by decide) rfl (.leaf (by decide)) (.leaf (by decide))
  have htwo : Branch " if (y)?c:d ".toList :=
    .choice (u := [' ']) (v := [' ']) (c := ['y']) (w := []) (s := ['c']) (t := "d ".toList) rfl rfl
      (by decide) rfl (.leaf (by decide)) (.leaf (by decide))
  have hs : Branch s := by
    have hsplit : s = [' '] ++ (Text.lit "if" ++ ([' '] ++ '(' :: (['x'] ++ ')' :: ([' '] ++ '?' ::
        (" if (f('?')) ? [a:b] : 'é:' ".toList ++ ':' :: " if (y)?c:d ".toList))))) := by decide
    rw [hsplit]
    exact .choice rfl rfl (by decide) rfl hone htwo
  have ht : findTop '?' t = none := by decide
  have hcolon : branchColon t = some 15 := (hnone ht).trans (by decide)
  exact ⟨⟨hs, hbranch hs _⟩, ⟨ht, hcolon⟩, hbehind 15 hcolon _⟩

end CopyFormat.Script

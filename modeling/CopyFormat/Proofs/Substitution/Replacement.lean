import CopyFormat.Proofs.Substitution.Apply
import CopyFormat.Proofs.Text.Basic

/-!
How replacement texts are read. A grammar says which tokens a replacement text can start with and
what each stands for; a character that starts none stands for itself. Expanding a replacement text
is reading it from left to right in this way.
-/

namespace CopyFormat.Substitution

variable {names : List (Option Text)} {t r r' s out : Text} {m : Match} {count : Nat}

/-! ### The grammar -/

/-- What a group with a name stands for: the text of the first group of that name, or nothing if
there is none. -/
def Match.HasNamed (names : List (Option Text)) (t : Text) (m : Match) (name s : Text) : Prop :=
  (∃ i, names[i]? = some (some name) ∧ (∀ j < i, names[j]? ≠ some (some name)) ∧
    s = m.group t i) ∨
  (some name ∉ names ∧ s = [])

/-- The tokens of replacement texts at a match of the text `t`: a text starts with a token that
stands for the second one, and the third one is left. Besides group 0 there are as many groups as
there are names behind the first. -/
inductive Token (names : List (Option Text)) (t : Text) (m : Match) : Text → Text → Text → Prop
  | dollar {r : Text} : Token names t m ('$' :: '$' :: r) ['$'] r
  | whole {r s : Text} (hs : Text.between? t m.start m.stop = some s) :
      Token names t m ('$' :: '&' :: r) s r
  | before {r s : Text} (hs : Text.before? m.start t = some s) :
      Token names t m ('$' :: '`' :: r) s r
  | behind {r s : Text} (hs : Text.behind? m.stop t = some s) :
      Token names t m ('$' :: '\'' :: r) s r
  | twoDigits {c d : Char} {a b : Nat} {r : Text} (hc : Text.digitValue? c = some a)
      (hd : Text.digitValue? d = some b) (hpos : 1 ≤ a * 10 + b)
      (hle : a * 10 + b ≤ names.length - 1) :
      Token names t m ('$' :: c :: d :: r) (m.group t (a * 10 + b)) r
  | oneDigit {c : Char} {a : Nat} {r : Text} (hc : Text.digitValue? c = some a) (hpos : 1 ≤ a)
      (hle : a ≤ names.length - 1)
      (hlonger : ∀ d b r', r = d :: r' → Text.digitValue? d = some b →
        names.length - 1 < a * 10 + b) :
      Token names t m ('$' :: c :: r) (m.group t a) r
  | named {name r s : Text} (hnames : ∃ n, some n ∈ names) (hname : '>' ∉ name)
      (hs : m.HasNamed names t name s) : Token names t m ('$' :: '<' :: (name ++ '>' :: r)) s r

/-- A replacement text, read from left to right, inserts the second text. What a token stands for is
not read again. -/
inductive Inserts (names : List (Option Text)) (t : Text) (m : Match) : Text → Text → Prop
  | nil : Inserts names t m [] []
  | token {r r' s out : Text} (htoken : Token names t m r s r') (hrest : Inserts names t m r' out) :
      Inserts names t m r (s ++ out)
  | char {c : Char} {r out : Text} (hno : ∀ s r', ¬Token names t m (c :: r) s r')
      (hrest : Inserts names t m r out) : Inserts names t m (c :: r) (c :: out)

/-! ### Group references -/

theorem groupReference?_of_none {c : Char} (hc : Text.digitValue? c = none) :
    groupReference? count (c :: r) = none := by
  simp [groupReference?, hc]

theorem groupReference?_two {c d : Char} {a b : Nat} (hc : Text.digitValue? c = some a)
    (hd : Text.digitValue? d = some b) (hpos : 1 ≤ a * 10 + b) (hle : a * 10 + b ≤ count) :
    groupReference? count (c :: d :: r) = some (a * 10 + b, 2) := by
  simp [groupReference?, hc, hd, hpos, hle]

theorem groupReference?_one {c : Char} {a : Nat} (hc : Text.digitValue? c = some a)
    (hlonger : ∀ d b r', r = d :: r' → Text.digitValue? d = some b →
      ¬(1 ≤ a * 10 + b ∧ a * 10 + b ≤ count)) :
    groupReference? count (c :: r) = if 1 ≤ a ∧ a ≤ count then some (a, 1) else none := by
  cases r with
  | nil => simp [groupReference?, hc]
  | cons d r =>
      cases hd : Text.digitValue? d with
      | none => simp [groupReference?, hc, hd]
      | some b => simp [groupReference?, hc, hd, hlonger d b r rfl hd]

theorem groupReference?_cases {i n : Nat} (h : groupReference? count r = some (i, n)) :
    (∃ c d a b r', r = c :: d :: r' ∧ Text.digitValue? c = some a ∧
      Text.digitValue? d = some b ∧ 1 ≤ a * 10 + b ∧ a * 10 + b ≤ count ∧
        i = a * 10 + b ∧ n = 2) ∨
    ∃ c a r', r = c :: r' ∧ Text.digitValue? c = some a ∧ 1 ≤ a ∧ a ≤ count ∧
      (∀ d b r'', r' = d :: r'' → Text.digitValue? d = some b → count < a * 10 + b) ∧
        i = a ∧ n = 1 := by
  cases r with
  | nil => cases h
  | cons c r =>
      cases hc : Text.digitValue? c with
      | none =>
          rw [groupReference?_of_none hc] at h
          cases h
      | some a =>
          by_cases htwo : ∃ d b r', r = d :: r' ∧ Text.digitValue? d = some b ∧
              1 ≤ a * 10 + b ∧ a * 10 + b ≤ count
          · obtain ⟨d, b, r', rfl, hd, hpos, hle⟩ := htwo
            rw [groupReference?_two hc hd hpos hle] at h
            cases h
            exact .inl ⟨c, d, a, b, r', rfl, hc, hd, hpos, hle, rfl, rfl⟩
          · have hlonger : ∀ d b r', r = d :: r' → Text.digitValue? d = some b →
                ¬(1 ≤ a * 10 + b ∧ a * 10 + b ≤ count) :=
              fun d b r' hr hd hbounds => htwo ⟨d, b, r', hr, hd, hbounds⟩
            rw [groupReference?_one hc hlonger] at h
            split at h
            · rename_i hbounds
              cases h
              refine .inr ⟨c, i, r, rfl, hc, hbounds.1, hbounds.2, ?_, rfl, rfl⟩
              intro d b r' hr hd
              have hnot := hlonger d b r' hr hd
              omega
            · cases h

/-! ### Tokens -/

theorem token?_digit {c : Char} {a : Nat} (hc : Text.digitValue? c = some a) (named : Bool)
    (r : Text) :
    token? count named ('$' :: c :: r) =
      (groupReference? count (c :: r)).map fun p => (.group p.1, p.2 + 1) := by
  have hdigit : (Text.digitValue? c).isSome = true := by rw [hc]; rfl
  unfold token?
  split
  case h_6 r' _ _ _ _ _ h =>
    cases h
    rfl
  case h_7 h => exact absurd rfl (h (c :: r))
  all_goals
    rename_i h
    cases h
    exact absurd hdigit (by decide)

theorem token?_named {name : Text} (hname : '>' ∉ name) (r : Text) :
    token? count true ('$' :: '<' :: (name ++ '>' :: r)) =
      some (.named name, name.length + 3) := by
  simp only [token?, Text.takeWhile_ne_append hname]
  simp

theorem named_expand_iff {name : Text} :
    (Piece.named name).expand names t m = some s ↔ m.HasNamed names t name s := by
  rw [Piece.expand, Match.HasNamed]
  cases hfound : names.findIdx? (· == some name) with
  | none =>
      have hno : some name ∉ names := by
        intro hmem
        simpa using List.findIdx?_eq_none_iff.mp hfound _ hmem
      constructor
      · intro h
        cases h
        exact .inr ⟨hno, rfl⟩
      · rintro (⟨i, hi, -, -⟩ | ⟨-, rfl⟩)
        · exact absurd (List.mem_of_getElem? hi) hno
        · rfl
  | some i =>
      obtain ⟨hi, hname, hfirst⟩ := List.findIdx?_eq_some_iff_getElem.mp hfound
      have hget : names[i]? = some (some name) := by
        rw [List.getElem?_eq_getElem hi]
        simpa using hname
      have hbefore : ∀ j < i, names[j]? ≠ some (some name) := by
        intro j hj hj'
        refine hfirst j hj ?_
        rw [List.getElem?_eq_getElem (Nat.lt_trans hj hi)] at hj'
        simpa using hj'
      constructor
      · intro h
        cases h
        exact .inl ⟨i, hget, hbefore, rfl⟩
      · rintro (⟨j, hj, hj', rfl⟩ | ⟨hno, -⟩)
        · have hij : i = j := by
            rcases Nat.lt_trichotomy i j with hlt | heq | hgt
            · exact absurd hget (hj' i hlt)
            · exact heq
            · exact absurd hj (hbefore j hgt)
          rw [hij]
        · exact absurd (List.mem_of_getElem? hget) hno

theorem Token.exists_piece {pos : Nat} (hm : m.FitsIn t pos) (h : Token names t m r s r') :
    ∃ p n, token? (names.length - 1) (names.any Option.isSome) r = some (p, n) ∧
      p.expand names t m = some s ∧ r' = r.drop n := by
  cases h with
  | dollar => exact ⟨.char '$', 2, rfl, rfl, rfl⟩
  | whole hs => exact ⟨.group 0, 2, rfl, hm.group_zero.trans hs, rfl⟩
  | before hs => exact ⟨.before, 2, rfl, hs, rfl⟩
  | behind hs => exact ⟨.behind, 2, rfl, hs, rfl⟩
  | @twoDigits c d a b r hc hd hpos hle =>
      refine ⟨.group (a * 10 + b), 3, ?_, rfl, rfl⟩
      rw [token?_digit hc, groupReference?_two hc hd hpos hle]
      rfl
  | @oneDigit c a r hc hpos hle hlonger =>
      refine ⟨.group a, 2, ?_, rfl, rfl⟩
      rw [token?_digit hc, groupReference?_one hc, if_pos ⟨hpos, hle⟩]
      · rfl
      · intro d b r' hr hd hbounds
        have hlt := hlonger d b r' hr hd
        omega
  | @named name r s hnames hname hs =>
      refine ⟨.named name, name.length + 3, ?_, named_expand_iff.mpr hs, by simp⟩
      have hany : names.any Option.isSome = true := by
        obtain ⟨n, hn⟩ := hnames
        exact List.any_eq_true.mpr ⟨some n, hn, rfl⟩
      rw [hany, token?_named hname]

theorem token_of_token? {pos n : Nat} {p : Piece} (hm : m.FitsIn t pos)
    (h : token? (names.length - 1) (names.any Option.isSome) r = some (p, n))
    (hs : p.expand names t m = some s) : Token names t m r s (r.drop n) := by
  unfold token? at h
  split at h
  · cases h
    cases hs
    exact .dollar
  · cases h
    exact .whole (hm.group_zero.symm.trans hs)
  · cases h
    exact .before hs
  · cases h
    exact .behind hs
  · rename_i r
    dsimp only at h
    split at h
    · rename_i hnamed
      cases h
      rw [Bool.and_eq_true, decide_eq_true_eq] at hnamed
      obtain ⟨name, rest, hr, hname⟩ := Text.exists_of_takeWhile_lt hnamed.2
      obtain ⟨n, hn, hsome⟩ := List.any_eq_true.mp hnamed.1
      obtain ⟨n, rfl⟩ := Option.isSome_iff_exists.mp hsome
      rw [hr, Text.takeWhile_ne_append hname] at hs
      rw [hr, Text.takeWhile_ne_append hname]
      have hdrop : ('$' :: '<' :: (name ++ '>' :: rest)).drop (name.length + 3) = rest := by
        simp
      rw [hdrop]
      exact .named ⟨n, hn⟩ hname (named_expand_iff.mp hs)
    · cases h
  · rename_i r _ _ _ _ _
    obtain ⟨⟨i, k⟩, hreference, heq⟩ := Option.map_eq_some_iff.mp h
    cases heq
    cases hs
    rcases groupReference?_cases hreference with
      ⟨c, d, a, b, r', rfl, hc, hd, hpos, hle, rfl, rfl⟩ |
        ⟨c, a, r', rfl, hc, hpos, hle, hlonger, rfl, rfl⟩
    · exact .twoDigits hc hd hpos hle
    · exact .oneDigit hc hpos hle hlonger
  · cases h

/-! ### Reading a replacement text -/

section

variable {named : Bool} {p : Piece} {n : Nat}

theorem token?_of_ne {c : Char} (hc : c ≠ '$') : token? count named (c :: r) = none := by
  unfold token?
  split
  case h_7 => rfl
  all_goals
    rename_i h
    cases h
    exact absurd rfl hc

theorem token?_pos (h : token? count named r = some (p, n)) : 1 ≤ n := by
  unfold token? at h
  split at h
  case h_5 =>
    dsimp only at h
    split at h
    · cases h
      exact Nat.le_add_left _ _
    · cases h
  case h_6 =>
    obtain ⟨q, -, heq⟩ := Option.map_eq_some_iff.mp h
    cases heq
    exact Nat.le_add_left _ _
  case h_7 => cases h
  all_goals
    cases h
    decide

theorem pieces_skip (k : Nat) (r : Text) :
    pieces count named k r = pieces count named 0 (r.drop k) := by
  induction r generalizing k with
  | nil => simp [pieces]
  | cons c r ih =>
      cases k with
      | zero => rfl
      | succ k => rw [pieces, ih, List.drop_succ_cons]

theorem pieces_token (h : token? count named r = some (p, n)) :
    pieces count named 0 r = p :: pieces count named 0 (r.drop n) := by
  cases r with
  | nil => cases h
  | cons c r =>
      obtain ⟨k, rfl⟩ := Nat.exists_eq_add_of_le' (token?_pos h)
      rw [pieces, h, List.drop_succ_cons, ← pieces_skip]
      rfl

theorem pieces_char {c : Char} (h : token? count named (c :: r) = none) :
    pieces count named 0 (c :: r) = .char c :: pieces count named 0 r := by
  rw [pieces, h]

end

theorem expandReplacement_nil : expandReplacement names [] t m = some [] := rfl

theorem expandReplacement_token {p : Piece} {n : Nat}
    (h : token? (names.length - 1) (names.any Option.isSome) r = some (p, n)) :
    expandReplacement names r t m = (p.expand names t m).bind fun s =>
      (expandReplacement names (r.drop n) t m).map (s ++ ·) := by
  rw [expandReplacement, pieces_token h, expandReplacement, List.mapM_cons]
  cases p.expand names t m with
  | none => rfl
  | some s =>
      cases ((pieces _ _ 0 (r.drop n)).mapM (Piece.expand names t m)) with
      | none => rfl
      | some ss => rfl

theorem expandReplacement_char {c : Char}
    (h : token? (names.length - 1) (names.any Option.isSome) (c :: r) = none) :
    expandReplacement names (c :: r) t m = (expandReplacement names r t m).map (c :: ·) := by
  rw [expandReplacement, pieces_char h, expandReplacement, List.mapM_cons]
  cases ((pieces _ _ 0 r).mapM (Piece.expand names t m)) with
  | none => rfl
  | some ss => rfl

theorem Inserts.of_expandReplacement {pos : Nat} (hm : m.FitsIn t pos)
    (h : expandReplacement names r t m = some out) : Inserts names t m r out := by
  -- a token takes several characters at once, so the induction is on the length
  induction hn : r.length using Nat.strongRecOn generalizing r out with
  | ind n ih =>
      cases htoken : token? (names.length - 1) (names.any Option.isSome) r with
      | some q =>
          obtain ⟨p, k⟩ := q
          rw [expandReplacement_token htoken] at h
          obtain ⟨s, hs, hmap⟩ := Option.bind_eq_some_iff.mp h
          obtain ⟨rest, hrest, rfl⟩ := Option.map_eq_some_iff.mp hmap
          have hlength : (r.drop k).length < n := by
            have hpos := token?_pos htoken
            cases r with
            | nil => cases htoken
            | cons c r =>
                rw [List.length_drop]
                rw [List.length_cons] at hn ⊢
                omega
          exact .token (token_of_token? hm htoken hs) (ih _ hlength hrest rfl)
      | none =>
          cases r with
          | nil =>
              cases h
              exact .nil
          | cons c r =>
              rw [expandReplacement_char htoken] at h
              obtain ⟨rest, hrest, rfl⟩ := Option.map_eq_some_iff.mp h
              refine .char (fun s r' hstart => ?_) (ih _ (by rw [← hn]; simp) hrest rfl)
              obtain ⟨p, k, hp, -⟩ := hstart.exists_piece hm
              rw [htoken] at hp
              cases hp

theorem Inserts.expandReplacement {pos : Nat} (hm : m.FitsIn t pos) (h : Inserts names t m r out) :
    expandReplacement names r t m = some out := by
  induction h with
  | nil => exact expandReplacement_nil
  | token htoken _ ih =>
      obtain ⟨p, n, hp, hs, rfl⟩ := htoken.exists_piece hm
      rw [expandReplacement_token hp, hs, ih]
      rfl
  | @char c r out hno _ ih =>
      have hnone : token? (names.length - 1) (names.any Option.isSome) (c :: r) = none := by
        rw [Option.eq_none_iff_forall_ne_some]
        rintro ⟨p, n⟩ hp
        obtain ⟨s, hs⟩ := p.expand_eq_some hm names
        exact hno _ _ (token_of_token? hm hp hs)
      rw [expandReplacement_char hnone, ih]
      rfl

/-- A replacement text with its dollar signs doubled. -/
def doubled (r : Text) : Text := r.flatMap fun c => if c = '$' then ['$', '$'] else [c]

theorem expandReplacement_doubled (names : List (Option Text)) (r t : Text) (m : Match) :
    expandReplacement names (doubled r) t m = some r := by
  induction r with
  | nil => rfl
  | cons c r ih =>
      by_cases hc : c = '$'
      · subst hc
        have htoken : token? (names.length - 1) (names.any Option.isSome) (doubled ('$' :: r)) =
            some (.char '$', 2) := rfl
        have hdrop : (doubled ('$' :: r)).drop 2 = doubled r := rfl
        rw [expandReplacement_token htoken, hdrop, ih]
        rfl
      · have hcons : doubled (c :: r) = c :: doubled r := by simp [doubled, hc]
        rw [hcons, expandReplacement_char (token?_of_ne hc), ih]
        rfl

/-- At every match a replacement text inserts one text, the one of the grammar. To insert a text as
it stands its dollar signs are doubled. -/
theorem expandReplacement_grammar {pos : Nat} (hm : m.FitsIn t pos) (names : List (Option Text))
    (r : Text) :
    (∃ out, expandReplacement names r t m = some out) ∧
      (∀ out, expandReplacement names r t m = some out ↔ Inserts names t m r out) ∧
      expandReplacement names (doubled r) t m = some r :=
  ⟨expandReplacement_eq_some hm names r,
    fun _ => ⟨.of_expandReplacement hm, Inserts.expandReplacement hm⟩,
    expandReplacement_doubled names r t m⟩

/-- A date, with its year as a named group and a group that takes no part. -/
def dateMatch : Match :=
  { start := 3, stop := 10, groups := [some (3, 10), some (3, 7), none] }

theorem dateMatch_fitsIn : dateMatch.FitsIn (Text.lit "on 2024-05.") 0 where
  pos_le_start := by decide
  start_le_stop := by decide
  start_boundary := ⟨Text.lit "on ", Text.lit "2024-05.", by decide, by decide⟩
  stop_boundary := ⟨Text.lit "on 2024-05", Text.lit ".", by decide, by decide⟩
  whole := rfl

/-- There is no group 10, and a dollar sign in front of group 0 stands for itself. -/
theorem expandReplacement_grammar_date :
    dateMatch.FitsIn (Text.lit "on 2024-05.") 0 ∧
      Inserts [none, some (Text.lit "year"), none] (Text.lit "on 2024-05.") dateMatch
        (Text.lit "$$1 $10 [$2] $<year>$' $0$") (Text.lit "$1 20240 [] 2024. $0$") := by
  refine ⟨dateMatch_fitsIn, ?_⟩
  obtain ⟨-, hiff, -⟩ := expandReplacement_grammar dateMatch_fitsIn
    [none, some (Text.lit "year"), none] (Text.lit "$$1 $10 [$2] $<year>$' $0$")
  exact (hiff _).mp (by cbv)

end CopyFormat.Substitution

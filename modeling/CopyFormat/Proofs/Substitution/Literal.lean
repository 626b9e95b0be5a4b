import CopyFormat.Proofs.Pattern.Escape
import CopyFormat.Proofs.Pattern.Literal
import CopyFormat.Proofs.Substitution.Replacement
import CopyFormat.Proofs.Substitution.Rule
import CopyFormat.Proofs.Text.Rewrite

/-!
Search texts that are no regular expressions. The escaped text is compiled and searched for like any
other pattern, which comes to the plain replacement of every occurrence.
-/

namespace CopyFormat.Substitution

/-- Whether a search text has the form `/body/flags`. -/
def IsSlashForm (search : Text) : Prop :=
  ∃ body flags, body ≠ [] ∧ flags ≠ [] ∧ (∀ c ∈ flags, c ∈ flagChars) ∧
    search = '/' :: (body ++ '/' :: flags)

theorem slashForm?_of_not_mem {body flags : Text} (h : '/' ∉ flags) :
    slashForm? ('/' :: (body ++ '/' :: flags)) =
      if !body.isEmpty && !flags.isEmpty && flags.all flagChars.contains then some (body, flags)
      else none := by
  have hreverse : (body ++ '/' :: flags).reverse = flags.reverse ++ '/' :: body.reverse := by simp
  have hslash : '/' ∉ flags.reverse := by simpa using h
  have htake := Text.takeWhile_ne_append hslash body.reverse
  have hdrop := Text.dropWhile_ne_append hslash body.reverse
  rw [← hreverse] at htake hdrop
  simp only [slashForm?, htake, hdrop, List.drop_one, List.tail_cons, List.reverse_reverse]

theorem slashForm?_of_no_slash {r : Text} (h : '/' ∉ r) : slashForm? ('/' :: r) = none := by
  have hdrop : r.reverse.dropWhile (· ≠ '/') = [] := by
    rw [List.dropWhile_eq_nil_iff]
    intro c hc
    simpa using ne_of_mem_of_not_mem (List.mem_reverse.mp hc) h
  simp only [slashForm?, hdrop]
  rfl

theorem slashForm?_eq_none_iff {search : Text} :
    slashForm? search = none ↔ ¬IsSlashForm search := by
  constructor
  · rintro h ⟨body, flags, hbody, hflags, hchars, rfl⟩
    have hslash : '/' ∉ flags := fun hmem => absurd (hchars _ hmem) (by decide)
    rw [slashForm?_of_not_mem hslash, if_pos] at h
    · cases h
    · simpa [hbody, hflags] using hchars
  · intro h
    match search with
    | [] => rfl
    | c :: r =>
        by_cases hc : c = '/'
        · subst hc
          by_cases hr : '/' ∈ r
          · obtain ⟨flags, body, hsplit, hslash⟩ :=
              List.eq_append_cons_of_mem (List.mem_reverse.mpr hr)
            have hwhole : r = body.reverse ++ '/' :: flags.reverse := by
              simpa using congrArg List.reverse hsplit
            subst hwhole
            rw [slashForm?_of_not_mem (by simpa using hslash), if_neg]
            intro hparts
            simp only [Bool.and_eq_true, Bool.not_eq_true', List.isEmpty_eq_false_iff,
              List.all_eq_true, List.contains_iff_mem] at hparts
            exact h ⟨_, _, hparts.1.1, hparts.1.2, hparts.2, rfl⟩
          · exact slashForm?_of_no_slash hr
        · simp [slashForm?, hc]

variable {needle : Needle} {t u v replacement : Text}

theorem Needle.readsLiteral (h : needle.text ≠ []) :
    Pattern.ReadsLiteral needle.text needle.compiled.program := by
  obtain ⟨room, hcompiles⟩ := needle.compiles
  rw [Pattern.compile_escape room h] at hcompiles
  split at hcompiles
  · cases hcompiles
  · rw [← Except.ok.inj hcompiles]
    exact Pattern.readsLiteral needle.text

theorem locate_literal (h : needle.text ≠ []) (u v : Text) :
    (Rule.literal needle).locate (u ++ v) u.length =
      (Text.cut? needle.text v).map fun q =>
        { start := (u ++ q.1).length
          stop := (u ++ q.1 ++ needle.text).length
          groups := [some ((u ++ q.1).length, (u ++ q.1 ++ needle.text).length)] } := by
  have hsearch := Pattern.search_literal (needle.readsLiteral h) (u ++ v) u.length h
  rw [List.drop_left] at hsearch
  simp only [Rule.locate, Rule.compiled, hsearch]
  cases Text.cut? needle.text v with
  | none => rfl
  | some q => simp [Nat.add_assoc]

theorem find_literal (h : needle.text ≠ []) (u v : Text) :
    (Rule.literal needle).find (u ++ v) (Text.size u) =
      (Text.cut? needle.text v).map fun q =>
        { start := Text.size (u ++ q.1)
          stop := Text.size (u ++ q.1 ++ needle.text)
          groups := [some (Text.size (u ++ q.1), Text.size (u ++ q.1 ++ needle.text))] } := by
  rw [Rule.find, Text.before?_size_append]
  simp only [Option.bind_eq_bind, Option.bind_some, locate_literal h]
  cases hcut : Text.cut? needle.text v with
  | none => rfl
  | some q =>
      obtain ⟨before, behind⟩ := q
      have hv := Text.cut?_eq_some hcut
      have hstart : (u ++ v).take (u ++ before).length = u ++ before := by
        rw [hv, List.append_assoc before, ← List.append_assoc u, List.take_left]
      have hstop : (u ++ v).take (u ++ before ++ needle.text).length =
          u ++ before ++ needle.text := by
        rw [hv, ← List.append_assoc u, ← List.append_assoc u, List.take_left]
      simp only [Option.map_some, Match.inBytes, List.map_cons, List.map_nil, hstart, hstop]

/-- When every match is replaced by the same text, what is left is replaced as plain text. -/
theorem rewriteFrom_literal (h : needle.text ≠ []) {insert : Match → Option Text}
    (hinsert : ∀ m, insert m = some replacement) (u v : Text) :
    rewriteFrom ((Rule.literal needle).find (u ++ v)) true false insert (u ++ v) (Text.size u)
      (Text.size u) = some (Text.replaceAll v needle.text replacement) := by
  have hpos : 0 < Text.size needle.text :=
    Nat.pos_of_ne_zero fun hzero => h (Text.size_eq_zero_iff.mp hzero)
  obtain ⟨c, rest, hneedle⟩ := List.exists_cons_of_ne_nil h
  -- what is left is read from behind the last match on, and nothing of it has been replaced yet
  induction hn : v.length using Nat.strongRecOn generalizing u v with
  | ind n ih =>
      rw [rewriteFrom, dif_neg (by simp), find_literal h]
      cases hcut : Text.cut? needle.text v with
      | none =>
          rw [hneedle] at hcut ⊢
          simp only [Option.map_none, Text.behind?_size_append]
          rw [Text.replaceAll_of_cut?_none hcut]
      | some q =>
          obtain ⟨before, behind⟩ := q
          have hv := Text.cut?_eq_some hcut
          have hkept : Text.between? (u ++ v) (Text.size u) (Text.size (u ++ before)) =
              some before := by
            rw [hv, List.append_assoc before, ← List.append_assoc u, Text.between?_eq_some]
          have hlt : Text.size (u ++ before) < Text.size (u ++ before ++ needle.text) := by
            rw [Text.size_append (u ++ before)]
            omega
          have hnext : Text.size u < Text.size (u ++ before ++ needle.text) := by
            simp only [Text.size_append]
            omega
          have hshorter : behind.length < n := by
            rw [← hn, hv, hneedle]
            simp only [List.length_append, List.length_cons]
            omega
          have hrest := ih _ hshorter (u ++ before ++ needle.text) behind rfl
          have hwhole : u ++ before ++ needle.text ++ behind = u ++ v := by simp [hv]
          rw [hwhole] at hrest
          simp only [Option.map_some, Bool.false_and, Bool.false_eq_true, if_false, hkept,
            hinsert, if_true, resume?, if_neg (Nat.ne_of_lt hlt), Option.bind_eq_bind,
            Option.bind_some, hnext, dif_pos, hrest]
          rw [hneedle] at hcut ⊢
          rw [Text.replaceAll_of_cut? hcut]
          rfl

theorem doubled_of_not_mem (h : '$' ∉ replacement) : doubled replacement = replacement := by
  induction replacement with
  | nil => rfl
  | cons c r ih =>
      rw [List.mem_cons, not_or] at h
      have hr : doubled r = r := ih h.2
      simpa [doubled, Ne.symm h.1] using hr

theorem expandReplacement_plain (h : '$' ∉ replacement) (names : List (Option Text)) (t : Text)
    (m : Match) : expandReplacement names replacement t m = some replacement := by
  rw [← doubled_of_not_mem h, expandReplacement_doubled, doubled_of_not_mem h]

theorem apply_literal (h : needle.text ≠ []) (hplain : '$' ∉ replacement) (t : Text) :
    (Rule.literal needle).apply t replacement = Text.replaceAll t needle.text replacement := by
  have hrewrite := rewriteFrom_literal h (fun m => expandReplacement_plain hplain
    (Rule.literal needle).groups t m) [] t
  rw [Rule.apply, Rule.isGlobal, Rule.isSticky]
  exact congrArg (·.getD t) hrewrite

theorem exists_parse_literal {room : Pattern.Expr → Nat} {search : Text}
    (hform : ¬IsSlashForm search)
    (hsize : Pattern.compile room {} (Pattern.escape search) ≠
      .error (.tooLarge Pattern.roomLimit)) :
    ∃ needle : Needle, needle.text = search ∧ Rule.parse search room = .ok (.literal needle) := by
  rw [Rule.parse, slashForm?_eq_none_iff.mpr hform]
  dsimp only
  split
  · rename_i e he
    rw [Pattern.eq_tooLarge_of_compile_escape room he] at he
    exact absurd he hsize
  · exact ⟨_, rfl, rfl⟩

/-- A search text that is no regular expression is replaced as plain text, unless it is too long to
be searched for. -/
theorem substitute_literal {room : Pattern.Expr → Nat} {search : Text}
    (hblank : search.isBlankText = false) (hform : ¬IsSlashForm search)
    (hsize : Pattern.compile room {} (Pattern.escape search) ≠
      .error (.tooLarge Pattern.roomLimit))
    (hplain : '$' ∉ replacement) (t : Text) :
    substitute t search replacement room = .ok (Text.replaceAll t search replacement) := by
  have hne : search ≠ [] := by
    rintro rfl
    simp [Text.isBlankText] at hblank
  obtain ⟨needle, rfl, hrule⟩ := exists_parse_literal hform hsize
  rw [substitute, hblank, if_neg (by simp), hrule]
  exact congrArg Except.ok (apply_literal hne hplain t)

/-- A needle that is blank at both ends and overlaps itself. -/
theorem substitute_literal_overlapping :
    (Text.lit " .(. ").isBlankText = false ∧ ¬IsSlashForm (Text.lit " .(. ") ∧
      Pattern.compile Pattern.Expr.estimatedRoom {} (Pattern.escape (Text.lit " .(. ")) ≠
        .error (.tooLarge Pattern.roomLimit) ∧
      '$' ∉ Text.lit "-" ∧
      substitute (Text.lit " .(. .(. é") (Text.lit " .(. ") (Text.lit "-") =
        .ok (Text.lit "-.(. é") := by
  have hblank : (Text.lit " .(. ").isBlankText = false := by decide
  have hform : ¬IsSlashForm (Text.lit " .(. ") := slashForm?_eq_none_iff.mp rfl
  have hsize : Pattern.compile Pattern.Expr.estimatedRoom {}
      (Pattern.escape (Text.lit " .(. ")) ≠ .error (.tooLarge Pattern.roomLimit) := by
    rw [Pattern.compile_escape _ (by decide), if_neg (by decide)]
    intro h
    cases h
  have hplain : '$' ∉ Text.lit "-" := by decide
  refine ⟨hblank, hform, hsize, hplain, ?_⟩
  rw [substitute_literal hblank hform hsize hplain]
  decide

end CopyFormat.Substitution

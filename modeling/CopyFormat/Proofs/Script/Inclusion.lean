import CopyFormat.Proofs.Script.Agreement

/-!
Tests of inclusion. A condition is cut at the last `.includes(` of its text, wherever that stands.
So a test whose needle does not hold this word again tells whether the needle is contained, whatever
stands in the target; and one whose needle is a literal that does hold it never succeeds.
-/

namespace CopyFormat.Script

open Shape

variable {ctx : Context} {s t n : Text}

/-! ### Containment -/

/-- Whether a value contains a text: a list as one of its items, any other value somewhere in its
text. -/
def Value.Contains (v : Value) (needle : Text) : Prop :=
  match v with
  | .list items => needle ∈ items
  | v => needle <:+: v.display

theorem Value.includes_iff {v : Value} {needle : Text} :
    v.includes needle = true ↔ v.Contains needle := by
  cases v with
  | list items => exact List.contains_iff_mem
  | text t => exact Text.occursIn_iff
  | number x => exact Text.occursIn_iff
  | boolean b => exact Text.occursIn_iff

instance (v : Value) (needle : Text) : Decidable (v.Contains needle) :=
  decidable_of_iff _ Value.includes_iff

/-! ### The condition -/

def inclusion (t n : Text) : Text := t ++ Text.lit ".includes(" ++ (n ++ [')'])

theorem inclusion_eq (t n : Text) :
    inclusion t n = t ++ (Text.lit ".includes" ++ '(' :: (n ++ [')'])) := by
  rw [inclusion, List.append_assoc]
  rfl

theorem balances_inclusion (ht : Operand ctx t) (hn : Operand ctx n) :
    Balances (· ∉ [',', '?', ':', '&', '|', '!']) 0 (inclusion t n) := by
  have hword : Balances (· ∉ [',', '?', ':', '&', '|', '!']) 0 (Text.lit ".includes") :=
    balances_of_all (by decide)
  rw [inclusion_eq]
  exact ht.balances.append (hword.append hn.balances.group)

theorem trim_inclusion (ht : t.isBlankText = false) (n : Text) :
    Text.trim (inclusion t n) = inclusion (Text.trimStart t) n := by
  rw [inclusion_eq, inclusion_eq,
    Text.trim_append_of_getLast? ht (getLast?_group _ n) (by decide)]

theorem includes?_eq_some {before behind : Text} (hbefore : before ≠ []) (hbehind : behind ≠ [])
    (hlast : ¬Text.lit ".includes(" <:+: behind) :
    includes? (inclusion before behind) = some (before, behind) := by
  have hword : Text.lit ".includes(" = '.' :: Text.lit "includes(" := by decide
  have hnot : ¬('.' :: Text.lit "includes(") <:+: behind ++ [')'] := by
    rw [← hword, List.infix_concat_iff]
    rintro (hsuffix | hinside)
    · obtain ⟨r, hr⟩ := hsuffix
      have hends := congrArg List.getLast? hr
      rw [List.getLast?_concat, List.getLast?_append_of_ne_nil _ (by decide)] at hends
      revert hends
      decide
    · exact hlast hinside
  have hcut := Text.lastCut?_append (p := fun t => decide (2 ≤ t.length) && t.getLast? == some ')')
    before (Text.lit "includes(") (by decide) hnot (by
      have hlength : 0 < behind.length := List.length_pos_iff.mpr hbehind
      simp [Nat.succ_le_iff, hlength])
  have hempty : before.isEmpty = false := by simpa using hbefore
  rw [includes?, inclusion, hword, hcut]
  simp only [Option.bind_eq_bind, Option.bind_some, hempty, Bool.false_eq_true, if_false,
    List.dropLast_concat]
  rfl

theorem length?_inclusion (t n : Text) : Shape.length? ctx (inclusion t n) = none := by
  have hlast : (inclusion t n).getLast? = some ')' := by
    rw [inclusion, ← List.append_assoc, List.getLast?_concat]
  rw [Shape.length?, lengthForm?_eq_none_of_getLast? hlast (by decide)]
  rfl

theorem isCompound_inclusion (ht : Operand ctx t) (hn : Operand ctx n) :
    isCompound (Text.trim (inclusion t n)) = false := by
  have hbalances := (balances_inclusion ht hn).trim
  exact isCompound_eq_false hbalances (by decide) (by decide)
    (hbalances.head?_ne (by decide) (by decide))

/-- A test is cut where it is written, unless its needle holds `.includes(` again. -/
theorem holds_inclusion (ht : Operand ctx t) (hn : Operand ctx n)
    (hlast : ¬Text.lit ".includes(" <:+: n) (eval : Text → Except EvalFault Value) :
    holds ctx eval (Text.trim (inclusion t n)) = (do
      let v ← eval (Text.trimStart t)
      return v.includes (← eval n).display) := by
  have htarget : Text.trimStart t ≠ [] := by
    rw [ne_eq, Text.trimStart_eq_nil_iff, ht.isBlankText]
    exact Bool.false_ne_true
  have hneedle : n ≠ [] := by
    rintro rfl
    exact absurd hn.isBlankText (by decide)
  have hoperand : Shape.isOperand ctx (Text.trimStart t) = true := by
    rw [← isOperand_trim, Text.trim_trimStart, isOperand_trim, ht.isOperand]
  rw [holds, isCompound_inclusion ht hn, trim_inclusion ht.isBlankText, length?_inclusion,
    includes?_eq_some htarget hneedle hlast]
  simp only [hoperand, hn.isOperand, Bool.and_self, Bool.false_eq_true, if_false, if_true]

/-! ### The choice -/

/-- A choice between two letters by a test of inclusion. -/
def byInclusion (t n : Text) : Text :=
  Text.lit "if (" ++ t ++ Text.lit ".includes(" ++ n ++ Text.lit ")) ? 'A' : 'B'"

theorem byInclusion_eq (t n : Text) :
    byInclusion t n = Text.lit "if" ++ ([' '] ++ '(' :: (inclusion t n ++ ')' :: ([' '] ++
      '?' :: (Text.lit " 'A' " ++ ':' :: Text.lit " 'B'")))) := by
  have hopen : Text.lit "if (" = Text.lit "if" ++ ([' '] ++ ['(']) := by decide
  have hclose : Text.lit ")) ? 'A' : 'B'" = [')'] ++ ([')'] ++ ([' '] ++
      ('?' :: (Text.lit " 'A' " ++ ':' :: Text.lit " 'B'")))) := by decide
  calc
    byInclusion t n = Text.lit "if" ++ ([' '] ++ ['(']) ++ t ++ Text.lit ".includes(" ++ n ++
        ([')'] ++ ([')'] ++ ([' '] ++ ('?' :: (Text.lit " 'A' " ++ ':' :: Text.lit " 'B'"))))) :=
      congrArg₂ (fun a b => a ++ t ++ Text.lit ".includes(" ++ n ++ b) hopen hclose
    _ = _ := by
      simp only [inclusion, List.append_assoc, List.cons_append, List.nil_append]

theorem of?_byInclusion (ht : Operand ctx t) (hn : Operand ctx n) :
    Shape.of? ctx (Text.trim (byInclusion t n)) =
      some (.choice (Text.trim (inclusion t n)) (Text.lit "'A'") (Text.lit "'B'")) := by
  have hhead : (byInclusion t n).head? = some 'i' := by
    rw [byInclusion_eq]
    rfl
  have hlast : (byInclusion t n).getLast? = some '\'' :=
    (List.getLast?_append_of_ne_nil _ (by decide)).trans (by decide)
  have hcolon : branchColon (Text.lit " 'A' " ++ ':' :: Text.lit " 'B'") =
      some (Text.lit " 'A' ").length := by decide
  have hA : Text.trim (Text.lit " 'A' ") = Text.lit "'A'" := by decide
  have hB : Text.trim (Text.lit " 'B'") = Text.lit "'B'" := by decide
  have hchoice := choice?_written (u := [' ']) (v := [' ']) (by decide) (by decide)
    (balances_inclusion ht hn) hcolon
  simp only [hA, hB, ← byInclusion_eq] at hchoice
  rw [Text.trim_of_ends hhead (by decide) hlast (by decide), Shape.of?, hchoice]
  rfl

theorem evalAt_quoted {q : Char} (hq : isQuote q = true) {u : Text}
    (hname : ctx.contains (quoted q u) = false) (limit levels : Nat) :
    evalAt ctx limit (levels + 1) (quoted q u) = .ok (.text u) := by
  have hidentifier : identifier? ctx (quoted q u) = none := by
    rw [identifier?, hname]
    rfl
  have hlength : Shape.length? ctx (Text.trim (quoted q u)) = none := by
    have hend : q ≠ ')' ∧ q.isDigit = false := by
      rcases isQuote_iff.mp hq with rfl | rfl <;> decide
    rw [trim_quoted hq, Shape.length?,
      lengthForm?_eq_none_of_getLast? (c := q) (by rw [quoted_eq_append, List.getLast?_concat])
        hend.2]
    rfl
  have hchoice : Shape.choice? (Text.trim (quoted q u)) = none := by
    rw [trim_quoted hq]
    exact choice?_eq_none (Balances.of_quoted (p := fun _ => False) hq u) not_false
  rw [evalAt, Shape.of?, hchoice, hlength, operand?_literal hq hidentifier]
  rfl

theorem evalAt_trimStart (ctx : Context) (limit levels : Nat) (s : Text) :
    evalAt ctx limit levels (Text.trimStart s) = evalAt ctx limit levels s := by
  rw [← evalAt_trim, Text.trim_trimStart, evalAt_trim]

theorem evalAt_byInclusion (hA : ctx.contains (Text.lit "'A'") = false)
    (hB : ctx.contains (Text.lit "'B'") = false) (ht : Operand ctx t) (hn : Operand ctx n)
    (hlast : ¬Text.lit ".includes(" <:+: n) (limit levels : Nat) :
    evalAt ctx limit (levels + 1) (byInclusion t n) = (do
      let v ← evalAt ctx limit levels t
      let w ← evalAt ctx limit levels n
      return .text (if v.Contains w.display then ['A'] else ['B'])) := by
  rw [evalAt, of?_byInclusion ht hn]
  simp only [Shape.value, holds_inclusion ht hn hlast, evalAt_trimStart]
  cases levels with
  | zero => rfl
  | succ levels =>
      have haccepted : evalAt ctx limit (levels + 1) (Text.lit "'A'") = .ok (.text ['A']) :=
        evalAt_quoted (q := '\'') (u := ['A']) rfl hA limit levels
      have hrefused : evalAt ctx limit (levels + 1) (Text.lit "'B'") = .ok (.text ['B']) :=
        evalAt_quoted (q := '\'') (u := ['B']) rfl hB limit levels
      rw [haccepted, hrefused]
      cases evalAt ctx limit (levels + 1) t with
      | error f => rfl
      | ok v =>
          cases evalAt ctx limit (levels + 1) n with
          | error f => rfl
          | ok w =>
              by_cases hcontains : v.Contains w.display
              · have hincludes := Value.includes_iff.mpr hcontains
                simp [bind, Except.bind, pure, Except.pure, hincludes, hcontains]
              · have hincludes : v.includes w.display = false := by
                  rwa [← Bool.not_eq_true, Value.includes_iff]
                simp [bind, Except.bind, pure, Except.pure, hincludes, hcontains]

/-- A choice by inclusion evaluates the target, then the needle, each one level deeper, and takes
the first letter when the value of the target contains the text of the needle. The text of the
needle must not hold `.includes(`, and the letters must be no names. -/
theorem evaluate_byInclusion {limits : Limits} (hA : ctx.contains (Text.lit "'A'") = false)
    (hB : ctx.contains (Text.lit "'B'") = false) (ht : Operand ctx t) (hn : Operand ctx n)
    (hlast : ¬Text.lit ".includes(" <:+: n)
    (hcheck : check limits.deniedWords (byInclusion t n) = .ok ()) :
    evaluate limits ctx (byInclusion t n) = (do
      let v ← evalAt ctx limits.depth limits.depth t
      let w ← evalAt ctx limits.depth limits.depth n
      return Value.text (if v.Contains w.display then ['A'] else ['B'])).mapError .evaluation := by
  rw [evaluate, hcheck, evalAt_byInclusion hA hB ht hn hlast]
  rfl

/-- A test whose target is a call. -/
theorem evaluate_byInclusion_call :
    let ctx := (titled (Text.lit "Hello")).context default
    let source := Text.lit "if (upper(title).includes('ELL')) ? 'A' : 'B'"
    check [] source = .ok () ∧ evaluate {} ctx source = .ok (.text ['A']) := by
  intro ctx source
  have hcheck : check ({} : Limits).deniedWords source = .ok () := by decide +kernel
  have hupper : ctx.operation? (Text.lit "upper") = some .upper := rfl
  have hinner : Balances (fun _ => True) 0 (Text.lit "title") :=
    (balances_of_all (l := []) (by decide)).anywhere
  have ht : Operand ctx (Text.lit "upper(title)") := .call (u := []) (by decide) hupper rfl hinner
  have hn : Operand ctx (Text.lit "'ELL'") := .literal (q := '\'') rfl (Text.lit "ELL")
  have hlast : ¬Text.lit ".includes(" <:+: Text.lit "'ELL'" := by
    rw [← Text.occursIn_iff]
    decide
  have hvalue := evaluate_byInclusion rfl rfl ht hn hlast hcheck
  exact ⟨hcheck, hvalue⟩

/-! ### Needles that hide a test -/

theorem getLast?_cons_of_eq_some {c d : Char} {x : Text} (h : x.getLast? = some c) :
    (d :: x).getLast? = some c := by
  rw [List.getLast?_cons, h]
  rfl

theorem getLast?_of_escape_eq {q : Char} (hq : isQuote q = true) {u x y : Text}
    (h : escape q u = x ++ q :: y) : x.getLast? = some '\\' := by
  induction u generalizing x with
  | nil => simp [escape] at h
  | cons c u ih =>
      rw [escape] at h
      split at h
      · rcases x with _ | ⟨d, _ | ⟨e, x⟩⟩
        · exact absurd (List.cons.inj h).1.symm (ne_backslash_of_isQuote hq)
        · rw [(List.cons.inj h).1]
          rfl
        · have hrest := ih (List.cons.inj (List.cons.inj h).2).2
          exact getLast?_cons_of_eq_some (getLast?_cons_of_eq_some hrest)
      · rename_i hc
        cases x with
        | nil => exact absurd (.inr (List.cons.inj h).1) hc
        | cons d x => exact getLast?_cons_of_eq_some (ih (List.cons.inj h).2)

theorem getLast?_of_unquoteBehind {q : Char} {s w : Text} (h : unquoteBehind q s = some w) :
    s.getLast? = some q := by
  fun_induction unquoteBehind q s generalizing w with
  | case1 => cases h
  | case2 => rfl
  | case3 => cases h
  | case4 c r ih =>
      obtain ⟨w', hw', -⟩ := Option.map_eq_some_iff.mp h
      exact getLast?_cons_of_eq_some (getLast?_cons_of_eq_some (ih hw'))
  | case5 => cases h
  | case6 =>
      rename_i ih
      obtain ⟨w', hw', -⟩ := Option.map_eq_some_iff.mp h
      exact getLast?_cons_of_eq_some (ih hw')

theorem getLast?_of_quoted_eq {q : Char} {u b e : Text} (h : quoted q u = b ++ e) (he : e ≠ []) :
    e.getLast? = some q := by
  have hends := congrArg List.getLast? h
  rw [quoted_eq_append, List.getLast?_concat, List.getLast?_append_of_ne_nil b he] at hends
  exact hends.symm

theorem literal?_behind {q : Char} (hq : isQuote q = true) {u b x r : Text}
    (hx : x.isBlankText = true) (h : quoted q u = b ++ '(' :: (x ++ r)) (hr : r ≠ []) :
    literal? r = none := by
  have hlast : r.getLast? = some q := by
    rw [← List.cons_append, ← List.append_assoc] at h
    exact getLast?_of_quoted_eq h hr
  cases r with
  | nil => exact absurd rfl hr
  | cons c r =>
      rw [literal?, Option.map_eq_none_iff, Option.eq_none_iff_forall_ne_some]
      intro w hw
      rw [unquote?] at hw
      split at hw
      · have hc : r.getLast? = some c := getLast?_of_unquoteBehind hw
        obtain ⟨r', rfl⟩ := List.getLast?_eq_some_iff.mp hc
        rw [getLast?_cons_of_eq_some hc] at hlast
        cases hlast
        cases b with
        | nil =>
            have hopen := (List.cons.inj h).1
            rw [hopen] at hq
            exact absurd hq (by decide)
        | cons d b =>
            have hescape : escape q u = b ++ '(' :: x ++ q :: r' := by
              have htail : escape q u ++ [q] = b ++ '(' :: x ++ q :: r' ++ [q] := by
                simpa using (List.cons.inj h).2
              exact List.append_cancel_right htail
            have hback := getLast?_of_escape_eq hq hescape
            rw [List.getLast?_append_of_ne_nil _ (List.cons_ne_nil _ _)] at hback
            rcases List.mem_cons.mp (List.mem_of_getLast? hback) with hmem | hmem
            · cases hmem
            · exact absurd (Text.isBlankText_iff.mp hx _ hmem) (by decide)
      · cases hw

theorem operand?_eq_none_of_getLast? (hnames : ctx.HasNames) {q : Char} (hq : isQuote q = true)
    (hlast : s.getLast? = some q) (hliteral : literal? s = none) : operand? ctx s = none := by
  have hquote : q ≠ ')' ∧ isNameChar q = false ∧ Arithmetic.isSourceChar q = false := by
    rcases isQuote_iff.mp hq with rfl | rfl <;> decide +kernel
  have hmem : q ∈ s := List.mem_of_getLast? hlast
  have harithmetic : arithmetic? s = none := by
    rw [arithmetic?, if_neg]
    intro hsource
    rw [Arithmetic.isArithmetic, Bool.and_eq_true, List.all_eq_true] at hsource
    have hsourceChar : Arithmetic.isSourceChar q = true := hsource.2 q hmem
    rw [hquote.2.2] at hsourceChar
    cases hsourceChar
  rw [operand?, substring?_eq_none_of_getLast? hlast hquote.1,
    identifier?_eq_none_of_mem hnames hmem hquote.2.1,
    call?_eq_none_of_getLast? hlast hquote.1, hliteral, harithmetic]
  rfl

theorem isOperand_behind (hnames : ctx.HasNames) {q : Char} (hq : isQuote q = true)
    {u b e : Text} (h : quoted q u = b ++ Text.lit ".includes(" ++ e) (he : e ≠ []) :
    Shape.isOperand ctx e = false := by
  have hblank : isBlank q = false := by
    rcases isQuote_iff.mp hq with rfl | rfl <;> decide +kernel
  have hlast : e.getLast? = some q := getLast?_of_quoted_eq h he
  have hrest : Text.trimStart e ≠ [] := by
    rw [ne_eq, Text.trimStart_eq_nil_iff,
      Text.isBlankText_of_mem (List.mem_of_getLast? hlast) hblank]
    exact Bool.false_ne_true
  obtain ⟨x, hx, hex⟩ := Text.exists_trimStart e
  have htail : (Text.trimStart e).getLast? = some q := by
    rw [← List.getLast?_append_of_ne_nil x hrest, ← hex, hlast]
  have hcut : quoted q u = b ++ Text.lit ".includes" ++ '(' :: (x ++ Text.trimStart e) := by
    have hword : Text.lit ".includes(" = Text.lit ".includes" ++ ['('] := by decide
    rw [h, hword, ← hex]
    simp
  rw [Shape.isOperand, Text.trim, Text.trimEnd_of_getLast? htail hblank,
    operand?_eq_none_of_getLast? hnames hq htail (literal?_behind hq hx hcut hrest),
    Option.isSome_none, Bool.and_false]

theorem exists_behind_hidden {q : Char} (hq : isQuote q = true) {u b behind : Text}
    (h : quoted q u ++ [')'] = b ++ (Text.lit ".includes(" ++ behind)) :
    ∃ e, e ≠ [] ∧ behind = e ++ [')'] ∧ quoted q u = b ++ Text.lit ".includes(" ++ e := by
  have hquote : q ≠ '(' := by rcases isQuote_iff.mp hq with rfl | rfl <;> decide
  rcases List.eq_nil_or_concat behind with rfl | ⟨e, d, rfl⟩
  · have hends := congrArg List.getLast? h
    rw [List.append_nil, List.getLast?_concat,
      List.getLast?_append_of_ne_nil _ (by decide)] at hends
    exact absurd hends (by decide)
  · rw [List.concat_eq_append, ← List.append_assoc, ← List.append_assoc] at h
    obtain ⟨hparts, hd⟩ := List.append_inj' h rfl
    cases hd
    refine ⟨e, ?_, List.concat_eq_append, hparts⟩
    rintro rfl
    rw [List.append_nil] at hparts
    have hends := getLast?_of_quoted_eq hparts (by decide)
    exact hquote (Option.some.inj (hends.symm.trans (by decide)))

/-- A test whose needle is a literal that holds `.includes(` is cut inside the literal. -/
theorem includes?_hidden {q : Char} (hq : isQuote q = true) {u : Text} (ht : t ≠ [])
    (hinside : Text.lit ".includes(" <:+: quoted q u) :
    ∃ before b e, quoted q u = b ++ Text.lit ".includes(" ++ e ∧ e ≠ [] ∧
      includes? (inclusion t (quoted q u)) = some (before, e) := by
  have hword : Text.lit ".includes(" = '.' :: Text.lit "includes(" := by decide
  have hcut := Text.exists_lastCut? (p := fun t => decide (2 ≤ t.length) && t.getLast? == some ')')
    (hword ▸ hinside.trans (List.prefix_append (quoted q u) [')']).isInfix) (by
      rintro behind ⟨b, hb⟩
      rw [← hword] at hb
      obtain ⟨e, he, rfl, -⟩ := exists_behind_hidden hq hb.symm
      have hlength : 0 < e.length := List.length_pos_iff.mpr he
      simp [Nat.succ_le_iff, hlength])
  obtain ⟨b, behind, hcut⟩ := hcut
  rw [← hword] at hcut
  obtain ⟨e, he, rfl, hparts⟩ := exists_behind_hidden hq (by
    rw [← List.append_assoc]
    exact (Text.lastCut?_eq_some hcut).1)
  refine ⟨t ++ Text.lit ".includes(" ++ b, b, e, hparts, he, ?_⟩
  have hempty : (t ++ Text.lit ".includes(" ++ b).isEmpty = false := by simp [ht]
  rw [includes?, inclusion, Text.lastCut?_append_left _ hcut]
  simp only [Option.bind_eq_bind, Option.bind_some, hempty, Bool.false_eq_true, if_false,
    List.dropLast_concat]
  rfl

theorem holds_hidden (hnames : ctx.HasNames) {q : Char} (hq : isQuote q = true) {u : Text}
    (ht : Operand ctx t) (hinside : Text.lit ".includes(" <:+: quoted q u)
    (eval : Text → Except EvalFault Value) :
    holds ctx eval (Text.trim (inclusion t (quoted q u))) = .ok false := by
  have htarget : Text.trimStart t ≠ [] := by
    rw [ne_eq, Text.trimStart_eq_nil_iff, ht.isBlankText]
    exact Bool.false_ne_true
  obtain ⟨before, b, e, hparts, he, hincludes⟩ := includes?_hidden hq htarget hinside
  rw [holds, isCompound_inclusion ht (.literal hq u), trim_inclusion ht.isBlankText,
    length?_inclusion, hincludes]
  simp only [isOperand_behind hnames hq hparts he, Bool.and_false, Bool.false_eq_true, if_false]

theorem evalAt_byInclusion_hidden (hnames : ctx.HasNames) {q : Char} (hq : isQuote q = true)
    {u : Text} (ht : Operand ctx t) (hinside : Text.lit ".includes(" <:+: quoted q u)
    (limit levels : Nat) :
    evalAt ctx limit (levels + 2) (byInclusion t (quoted q u)) = .ok (.text ['B']) := by
  have hB : ctx.contains (Text.lit "'B'") = false := by
    rw [Bool.eq_false_iff]
    intro hcontains
    exact absurd (hnames _ hcontains) (by decide)
  rw [evalAt, of?_byInclusion ht (.literal hq u)]
  simp only [Shape.value, holds_hidden hnames hq ht hinside]
  exact evalAt_quoted (q := '\'') (u := ['B']) rfl hB limit levels

theorem evaluate_byInclusion_hidden {limits : Limits} (hnames : ctx.HasNames)
    (hlevels : 0 < limits.depth) {q : Char} (hq : isQuote q = true) {u : Text}
    (ht : Operand ctx t) (hinside : Text.lit ".includes(" <:+: quoted q u)
    (hcheck : check limits.deniedWords (byInclusion t (quoted q u)) = .ok ()) :
    evaluate limits ctx (byInclusion t (quoted q u)) = .ok (.text ['B']) := by
  obtain ⟨levels, hdepth⟩ := Nat.exists_eq_add_of_le' hlevels
  rw [evaluate, hcheck, hdepth]
  exact congrArg (Except.mapError _) (evalAt_byInclusion_hidden hnames hq ht hinside _ levels)

/-- A context in which `url` is a text that holds `.includes(`. -/
def covering : Context :=
  (Context.operations default).set (Text.lit "url") (.text (Text.lit "a.includes(b"))

/-- The target contains the needle, and yet the second letter is taken. -/
theorem byInclusion_hidden_refused :
    ¬∀ (limits : Limits) (ctx : Context) (t n : Text), ctx.HasNames → ctx.Built →
      Operand ctx t → Operand ctx n → check limits.deniedWords (byInclusion t n) = .ok () →
        evaluate limits ctx (byInclusion t n) = (do
          let v ← evalAt ctx limits.depth limits.depth t
          let w ← evalAt ctx limits.depth limits.depth n
          return Value.text (if v.Contains w.display then ['A'] else ['B'])).mapError
            .evaluation := by
  intro h
  have hnames : covering.HasNames := (Context.hasNames_operations default).set (by decide) _
  have ht : Operand covering (Text.lit "url") := .identifier (by decide) rfl
  have hinside : Text.lit ".includes(" <:+: quoted '\'' (Text.lit ".includes(") := by
    rw [← Text.occursIn_iff]
    decide
  have hcheck : check ({} : Limits).deniedWords
      (byInclusion (Text.lit "url") (quoted '\'' (Text.lit ".includes("))) = .ok () := by
    decide +kernel
  have hvalue := h {} covering _ _ hnames (.set (.operations default) _ _) ht (.literal rfl _)
    hcheck
  rw [evaluate_byInclusion_hidden hnames (by decide) rfl ht hinside hcheck] at hvalue
  have hletter := congrArg (Except.map Value.display) hvalue
  revert hletter
  decide +kernel

end CopyFormat.Script

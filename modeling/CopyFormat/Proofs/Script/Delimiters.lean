import CopyFormat.Proofs.Script.Expression
import CopyFormat.Proofs.Script.Guard

/-!
Texts that write expressions are balanced, and hold no delimiter at their top level that would
cut them.
-/

namespace CopyFormat.Script

variable {ctx : Context} {e : Expr} {s : Text}

/-- The delimiters that never stand at the top level of an expression. -/
def Expr.delimiters : Expr → List Char
  | .choice .. => [',']
  | .length .. => [',', '?', ':', '&', '|']
  | _ => [',', '?', ':', '&', '|', '!']

theorem Expr.delimiters_of_isOperand (he : e.isOperand = true) :
    e.delimiters = [',', '?', ':', '&', '|', '!'] := by
  cases e <;> first | rfl | cases he

theorem Expr.delimiters_subset (e : Expr) : e.delimiters ⊆ [',', '?', ':', '&', '|', '!'] := by
  cases e <;> simp [Expr.delimiters]

theorem Expr.comma_mem_delimiters (e : Expr) : ',' ∈ e.delimiters := by
  cases e <;> simp [Expr.delimiters]

theorem balances_of_class {k : Char → Bool}
    (hk : ['\'', '"', '(', '[', ')', ']', ',', '?', ':', '&', '|', '!'].any k = false)
    {t : Text} (ht : ∀ c ∈ t, k c = true) (e : Expr) : Balances (· ∉ e.delimiters) 0 t := by
  refine Balances.of_forall fun c hc => ?_
  have hnot := not_mem_of_class hk (ht c hc)
  refine ⟨isPlain_iff_not_mem.mpr fun hmem => hnot ?_, fun hmem => hnot ?_⟩
  · exact List.mem_append_left [',', '?', ':', '&', '|', '!'] hmem
  · exact List.mem_append_right ['\'', '"', '(', '[', ')', ']'] (e.delimiters_subset hmem)

theorem balances_of_all {l : List Char} {t : Text}
    (h : (t.all fun c => isPlain c && !l.contains c) = true) : Balances (· ∉ l) 0 t := by
  refine Balances.of_forall fun c hc => ?_
  have hboth := List.all_eq_true.mp h c hc
  simpa using hboth

theorem balances_of_blank {t : Text} (ht : t.isBlankText = true) (e : Expr) :
    Balances (· ∉ e.delimiters) 0 t :=
  balances_of_class (by decide) (Text.isBlankText_iff.mp ht) e

theorem isNameChar_of_isName {name : Text} (h : Shape.isName name = true) :
    ∀ c ∈ name, isNameChar c = true := by
  cases name with
  | nil => cases h
  | cons c r =>
      rw [Shape.isName, Bool.and_eq_true, List.all_eq_true] at h
      refine List.forall_mem_cons.mpr ⟨?_, h.2⟩
      rw [isNameChar, h.1]
      rfl

theorem balances_of_isName {name : Text} (h : Shape.isName name = true) (e : Expr) :
    Balances (· ∉ e.delimiters) 0 name :=
  balances_of_class (by decide) (isNameChar_of_isName h) e

theorem Balances.anywhere {p : Char → Prop} {n : Nat} {t : Text} (h : Balances p n t) :
    Balances (fun _ => True) n t :=
  h.mono fun _ _ => trivial

/-- Whether a character can stand between the parentheses of a part. -/
def isRangeChar (c : Char) : Bool := isBlank c || c.isDigit || c == ','

theorem isRangeChar_of_blank {u : Text} (hu : u.isBlankText = true) :
    ∀ c ∈ u, isRangeChar c = true := by
  intro c hc
  simp [isRangeChar, Text.isBlankText_iff.mp hu c hc]

theorem IsIndex.isRangeChar {i : Text} (hi : IsIndex i) : ∀ c ∈ i, isRangeChar c = true := by
  intro c hc
  simp [Script.isRangeChar, hi.isDigit c hc]

theorem WritesRange.isRangeChar {start : Nat} {stop : Option Nat} {r : Text}
    (h : WritesRange start stop r) : ∀ c ∈ r, isRangeChar c = true := by
  cases h with
  | toEnd hu hi hv =>
      exact List.forall_mem_append.mpr ⟨isRangeChar_of_blank hu,
        List.forall_mem_append.mpr ⟨hi.isRangeChar, isRangeChar_of_blank hv⟩⟩
  | between hu hi hv hu' hj hv' =>
      have hsecond := List.forall_mem_append.mpr ⟨isRangeChar_of_blank hu',
        List.forall_mem_append.mpr ⟨hj.isRangeChar, isRangeChar_of_blank hv'⟩⟩
      have hrest := List.forall_mem_append.mpr ⟨isRangeChar_of_blank hv,
        List.forall_mem_cons.mpr ⟨show Script.isRangeChar ',' = true by decide, hsecond⟩⟩
      exact List.forall_mem_append.mpr ⟨isRangeChar_of_blank hu,
        List.forall_mem_append.mpr ⟨hi.isRangeChar, hrest⟩⟩

theorem WritesRange.balances {start : Nat} {stop : Option Nat} {r : Text}
    (h : WritesRange start stop r) : Balances (fun _ => True) 0 r := by
  refine Balances.of_forall fun c hc => ⟨?_, trivial⟩
  exact isPlain_of_class (k := Script.isRangeChar) (by decide) (h.isRangeChar c hc)

theorem Balances.join {p : Char → Prop} {c : Char} (hplain : isPlain c = true) (hc : p c)
    {ts : List Text} (h : ∀ t ∈ ts, Balances p 0 t) : Balances p 0 (Text.join [c] ts) := by
  induction ts with
  | nil => exact .nil
  | cons t ts ih =>
      have ht := h t List.mem_cons_self
      cases ts with
      | nil => rwa [Text.join_singleton]
      | cons t' ts =>
          rw [Text.join_cons_cons]
          exact ht.append (.plain hplain (fun _ => hc)
            (ih fun u hu => h u (List.mem_cons_of_mem t hu)))

theorem balances_arguments {p : Char → Prop} {w : Text} (hw : w.isBlankText = true)
    {ts : List Text} (h : ∀ t ∈ ts, Balances p 0 t) :
    Balances (fun _ => True) 0 (w ++ Text.join [','] ts) := by
  refine (balances_of_blank hw (.literal [])).anywhere.append (n := 0) ?_
  exact Balances.join (by decide) trivial fun t ht => (h t ht).anywhere

theorem balances_of_mem_map {arguments : List (Expr × Text)}
    (h : ∀ a ∈ arguments, Balances (· ∉ a.1.delimiters) 0 a.2) :
    ∀ t ∈ arguments.map Prod.snd, Balances (· ≠ ',') 0 t := by
  intro t ht
  obtain ⟨a, ha, rfl⟩ := List.mem_map.mp ht
  refine (h a ha).mono fun c hc hcomma => hc ?_
  rw [hcomma]
  exact a.1.comma_mem_delimiters

theorem Comparison.spelling_chars {spelling : String} {comparison : Comparison}
    (h : (spelling, comparison) ∈ table) :
    ∀ c ∈ spelling.toList, (c == '=' || c == '!' || c == '<' || c == '>') = true := by
  have hall : table.all fun p =>
      p.1.toList.all fun c => c == '=' || c == '!' || c == '<' || c == '>' := by decide
  exact List.all_eq_true.mp (List.all_eq_true.mp hall _ h)

/-- The texts that can stand on their own between a dot and an operator. What stands between the
parentheses of a call is only asked to have its quotes and parentheses paired. -/
inductive Operand (ctx : Context) : Text → Prop
  | padded {u t v : Text} (hu : u.isBlankText = true) (hv : v.isBlankText = true)
      (h : Operand ctx t) : Operand ctx (u ++ (t ++ v))
  | identifier {name : Text} {v : Value} (hname : Shape.isName name = true)
      (hbound : ctx.binding name = some (.value v)) : Operand ctx name
  | literal {q : Char} (hq : isQuote q = true) (t : Text) : Operand ctx (quoted q t)
  | arithmetic {t : Text} {x : Float} (h : Arithmetic.eval Arithmetic.floats t = .ok x) :
      Operand ctx t
  | substring {t r : Text} {start : Nat} {stop : Option Nat} (h : Operand ctx t)
      (hr : WritesRange start stop r) :
      Operand ctx (t ++ (Text.lit ".substring" ++ '(' :: (r ++ [')'])))
  | call {name u inner : Text} {op : Operation} (hname : Shape.isName name = true)
      (hop : ctx.operation? name = some op) (hu : u.isBlankText = true)
      (hinner : Balances (fun _ => True) 0 inner) :
      Operand ctx (name ++ u ++ '(' :: (inner ++ [')']))
  | method {t name u v inner : Text} {op : Operation} (h : Operand ctx t)
      (hname : Shape.isName name = true) (hop : ctx.operation? name = some op)
      (hu : u.isBlankText = true) (hv : v.isBlankText = true)
      (hinner : Balances (fun _ => True) 0 inner) :
      Operand ctx (t ++ '.' :: (u ++ name ++ v) ++ '(' :: (inner ++ [')']))

theorem Operand.balances (h : Operand ctx s) :
    Balances (· ∉ [',', '?', ':', '&', '|', '!']) 0 s := by
  have hblank : ∀ {u : Text}, u.isBlankText = true →
      Balances (· ∉ [',', '?', ':', '&', '|', '!']) 0 u :=
    fun hu => balances_of_blank hu (.literal [])
  have hword : ∀ {name : Text}, Shape.isName name = true →
      Balances (· ∉ [',', '?', ':', '&', '|', '!']) 0 name :=
    fun hname => balances_of_isName hname (.literal [])
  induction h with
  | padded hu hv _ ih => exact (hblank hu).append (ih.append (hblank hv))
  | identifier hname _ => exact hword hname
  | literal hq t => exact .of_quoted hq t
  | arithmetic heval =>
      refine Arithmetic.balances_of_eval (fun c hc hmem => ?_) heval
      exact not_mem_of_class (k := Arithmetic.isSourceChar) (by decide +kernel) hc hmem
  | substring _ hr ih =>
      have hpart : Balances (· ∉ [',', '?', ':', '&', '|', '!']) 0 (Text.lit ".substring") :=
        balances_of_all (by decide)
      exact ih.append (hpart.append hr.balances.group)
  | call hname _ hu hinner => exact ((hword hname).append (hblank hu)).append hinner.group
  | method _ hname _ hu hv hinner ih =>
      have hhead := ((hblank hu).append (hword hname)).append (hblank hv)
      exact (ih.append (.plain (by decide) (fun _ => by decide) hhead)).append hinner.group

/-- A text that writes an expression is balanced and keeps the delimiters of the expression
away from its top level. -/
theorem Writes.balances_and_operand (hnames : ctx.HasNames) (h : Writes ctx e s) :
    Balances (· ∉ e.delimiters) 0 s ∧ (e.isOperand = true → Operand ctx s) := by
  have hoperand : ∀ {e : Expr} {s : Text}, e.isOperand = true → Operand ctx s →
      Balances (· ∉ e.delimiters) 0 s ∧ (e.isOperand = true → Operand ctx s) := by
    intro e s he h
    rw [Expr.delimiters_of_isOperand he]
    exact ⟨h.balances, fun _ => h⟩
  induction h with
  | @padded e u s v hu hv _ ih =>
      exact ⟨(balances_of_blank hu e).append (ih.1.append (balances_of_blank hv e)),
        fun he => .padded hu hv (ih.2 he)⟩
  | identifier hbound => exact hoperand rfl (.identifier (hnames.isName hbound) hbound)
  | literal hq t => exact hoperand rfl (.literal hq t)
  | arithmetic heval => exact hoperand rfl (.arithmetic heval)
  | substring htarget _ hr ih => exact hoperand rfl (.substring (ih.2 htarget) hr)
  | call hop hu hw _ ih =>
      have hinner := balances_arguments hw (balances_of_mem_map fun a ha => (ih a ha).1)
      exact hoperand rfl (.call (hnames.isName_of_operation? hop) hop hu hinner)
  | method hreceiver _ hop hu hv hw _ ih ihargs =>
      have hinner := balances_arguments hw (balances_of_mem_map fun a ha => (ihargs a ha).1)
      exact hoperand rfl
        (.method (ih.2 hreceiver) (hnames.isName_of_operation? hop) hop hu hv hinner)
  | @length target comparison s u v digits htarget _ hu hv hdigits ih =>
      refine ⟨?_, nofun⟩
      have hs : Balances (· ∉ [',', '?', ':', '&', '|']) 0 s :=
        (ih.2 htarget).balances.mono fun c hc hmem => hc (List.mem_append_left ['!'] hmem)
      have hword : Balances (· ∉ [',', '?', ':', '&', '|']) 0 (Text.lit ".length") :=
        balances_of_all (by decide)
      have hcomparison :
          Balances (· ∉ [',', '?', ':', '&', '|']) 0 comparison.spelling.toList := by
        refine Balances.of_forall fun c hc => ?_
        have hchar := Comparison.spelling_chars comparison.spelling_mem c hc
        simp only [Bool.or_eq_true, beq_iff_eq] at hchar
        rcases hchar with ((rfl | rfl) | rfl) | rfl <;> decide
      have hbound := balances_of_class (k := Char.isDigit) (by decide) hdigits.isDigit
        (.length target comparison 0)
      exact hs.append (hword.append ((balances_of_blank hu (.length target comparison 0)).append
        (hcomparison.append ((balances_of_blank hv (.length target comparison 0)).append hbound))))
  | @choice target accepted refused comparison bound u c v s t hu hv _ _ _ ihc ihs iht =>
      refine ⟨?_, nofun⟩
      have hcomma : ∀ {e : Expr} {n : Nat} {t : Text}, Balances (· ∉ e.delimiters) n t →
          Balances (· ∉ [',']) n t := by
        intro e n t h
        refine h.mono fun c hc hmem => hc ?_
        rw [List.mem_singleton.mp hmem]
        exact e.comma_mem_delimiters
      have hword : Balances (· ∉ [',']) 0 (Text.lit "if") := balances_of_all (by decide)
      have hrefused : Balances (· ∉ [',']) 0 (':' :: t) :=
        .plain (by decide) (fun _ => by decide) (hcomma iht.1)
      have hbranches : Balances (· ∉ [',']) 0 ('?' :: (s ++ ':' :: t)) :=
        .plain (by decide) (fun _ => by decide) ((hcomma ihs.1).append hrefused)
      have htail := (hcomma (balances_of_blank hv (.literal []))).append hbranches
      have hcondition := ihc.1.group.append htail
      rw [List.cons_append, List.append_assoc] at hcondition
      exact hword.append ((hcomma (balances_of_blank hu (.literal []))).append hcondition)

theorem Writes.balances (hnames : ctx.HasNames) (h : Writes ctx e s) :
    Balances (· ∉ e.delimiters) 0 s :=
  (h.balances_and_operand hnames).1

theorem Writes.operand (hnames : ctx.HasNames) (h : Writes ctx e s) (he : e.isOperand = true) :
    Operand ctx s :=
  (h.balances_and_operand hnames).2 he

theorem Operand.isBlankText (h : Operand ctx s) : s.isBlankText = false := by
  induction h with
  | padded _ _ _ ih =>
      rw [Bool.eq_false_iff, ne_eq, Text.isBlankText_append, Text.isBlankText_append, ih]
      simp
  | @identifier name v hname _ =>
      cases name with
      | nil => cases hname
      | cons c r =>
          have hc : isNameStart c = true := (Bool.and_eq_true_iff.mp hname).1
          exact Text.isBlankText_of_mem List.mem_cons_self (isBlank_of_isNameStart hc)
  | @literal q hq t =>
      refine Text.isBlankText_of_mem (c := q) List.mem_cons_self ?_
      rcases isQuote_iff.mp hq with rfl | rfl <;> decide
  | arithmetic heval =>
      have hdigit := Arithmetic.isArithmetic_of_eval heval
      rw [Arithmetic.isArithmetic, Bool.and_eq_true, List.any_eq_true] at hdigit
      obtain ⟨⟨c, hc, hdigit⟩, -⟩ := hdigit
      exact Text.isBlankText_of_mem hc (isBlank_of_isDigit hdigit)
  | substring _ _ _ => exact Text.isBlankText_of_mem (c := '(') (by simp) (by decide)
  | call _ _ _ _ => exact Text.isBlankText_of_mem (c := '(') (by simp) (by decide)
  | method _ _ _ _ _ _ _ => exact Text.isBlankText_of_mem (c := '(') (by simp) (by decide)

theorem Writes.isBlankText {e : Expr} (hnames : ctx.HasNames) (h : Writes ctx e s) :
    s.isBlankText = false := by
  have hoperand := h.operand hnames
  induction h with
  | padded _ _ h ih =>
      rw [Bool.eq_false_iff, ne_eq, Text.isBlankText_append, Text.isBlankText_append,
        ih (h.operand hnames)]
      simp
  | length htarget h _ _ _ _ =>
      rw [Bool.eq_false_iff, ne_eq, Text.isBlankText_append,
        (h.operand hnames htarget).isBlankText]
      simp
  | choice _ _ _ _ _ _ _ _ => exact Text.isBlankText_of_mem (c := '(') (by simp) (by decide)
  | _ => exact (hoperand rfl).isBlankText

end CopyFormat.Script

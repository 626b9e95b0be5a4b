import CopyFormat.Proofs.Script.Branches
import CopyFormat.Proofs.Script.Operands

/-!
The shape of a text that writes an expression: it belongs to the expression, and its parts write
the parts of the expression.
-/

namespace CopyFormat.Script

open Shape

variable {ctx : Context} {e : Expr} {s : Text}

/-! ### Shapes of expressions -/

/-- The shapes that an expression can be recognised as: its parts are written by the parts of
the shape, but for the blanks around them. -/
inductive Fits (ctx : Context) : Expr → Shape → Prop
  | identifier {name : Text} {v : Value} (hname : ctx.binding name = some (.value v)) :
      Fits ctx (.identifier name) (.identifier name)
  | literal (t : Text) : Fits ctx (.literal t) (.literal t)
  | arithmetic {source s : Text} {x : Float}
      (hsource : Arithmetic.eval Arithmetic.floats source = .ok x)
      (h : Arithmetic.eval Arithmetic.floats s = .ok x) :
      Fits ctx (.arithmetic source) (.arithmetic s)
  | substring {target : Expr} {s : Text} (h : Writes ctx target s) (start : Nat)
      (stop : Option Nat) :
      Fits ctx (.substring target start stop) (.substring (Text.trim s) start stop)
  | call {name : Text} {op : Operation} (receiver : Option (Expr × Text))
      {arguments : List (Expr × Text)} (hname : ctx.operation? name = some op)
      (h : ∀ a ∈ receiver.toList ++ arguments, Writes ctx a.1 a.2) :
      Fits ctx (.call name ((receiver.toList ++ arguments).map Prod.fst))
        (.call name (receiver.map fun a => Text.trim a.2)
          (arguments.map fun a => Text.trim a.2))
  | length {target : Expr} {s : Text} (h : Writes ctx target s) (comparison : Comparison)
      (bound : Nat) :
      Fits ctx (.length target comparison bound) (.length (Text.trim s) comparison bound)
  | choice {target accepted refused : Expr} {comparison : Comparison} {bound : Nat}
      {condition c s t : Text} (hcondition : isCompound condition = false)
      (hlength : length? ctx condition = some (.length (Text.trim c) comparison bound))
      (hc : Writes ctx target c) (hs : Writes ctx accepted s) (ht : Writes ctx refused t) :
      Fits ctx (.choice target comparison bound accepted refused)
        (.choice condition (Text.trim s) (Text.trim t))

/-! ### Operands -/

theorem name_ne_substring (hbuilt : ctx.Built) {name : Text} {op : Operation}
    (hop : ctx.operation? name = some op) : name ≠ Text.lit "substring" := by
  rintro rfl
  have hnamed := hbuilt.named?_eq hop
  rw [show Operation.named? (Text.lit "substring") = none by decide] at hnamed
  cases hnamed

theorem not_mem_name {name u : Text} (hname : isName name = true) (hu : u.isBlankText = true) :
    '.' ∉ name ++ u := by
  rw [List.mem_append, not_or]
  exact ⟨fun hmem => absurd (isNameChar_of_isName hname _ hmem) (by decide),
    fun hmem => absurd (Text.isBlankText_iff.mp hu _ hmem) (by decide)⟩

theorem trim_call {name u t : Text} (hname : isName name = true) :
    Text.trim (name ++ u ++ '(' :: (t ++ [')'])) = name ++ u ++ '(' :: (t ++ [')']) := by
  cases name with
  | nil => cases hname
  | cons c r =>
      have hc : isNameStart c = true := (Bool.and_eq_true_iff.mp hname).1
      exact Text.trim_of_ends rfl (isBlank_of_isNameStart hc) (getLast?_group (c :: r ++ u) t)
        (by decide)

theorem callee_name {name u : Text} (hname : isName name = true) (hu : u.isBlankText = true) :
    callee (name ++ u) = (none, name) := by
  have htrim := trim_name hname (show Text.isBlankText [] = true from rfl) hu
  rw [List.nil_append] at htrim
  rw [callee_of_not_mem (not_mem_name hname hu), htrim]

theorem callee_method {name u v : Text} (hname : isName name = true) (hu : u.isBlankText = true)
    (hv : v.isBlankText = true) (t : Text) :
    callee (t ++ '.' :: (u ++ name ++ v)) = (some (Text.trim t), name) := by
  have hdot : '.' ∉ u ++ name ++ v := by
    rw [List.append_assoc, List.mem_append, not_or]
    exact ⟨fun hmem => absurd (Text.isBlankText_iff.mp hu _ hmem) (by decide),
      not_mem_name hname hv⟩
  rw [callee_append hdot, trim_name hname hu hv]

theorem trim_quoted {q : Char} (hq : isQuote q = true) (t : Text) :
    Text.trim (quoted q t) = quoted q t := by
  have hblank : isBlank q = false := by rcases isQuote_iff.mp hq with rfl | rfl <;> decide
  have hlast : (quoted q t).getLast? = some q := by rw [quoted_eq_append, List.getLast?_concat]
  exact Text.trim_of_ends rfl hblank hlast hblank

theorem operand?_group (hnames : ctx.HasNames) {p : Char → Prop} {head inner : Text}
    (hinner : Balances p 0 inner) (hhead : ∀ u, head ≠ u ++ Text.lit ".substring") {shape : Shape}
    (hcall : call? ctx (head ++ '(' :: (inner ++ [')'])) = some shape) :
    operand? ctx (head ++ '(' :: (inner ++ [')'])) = some shape := by
  have hname : identifier? ctx (head ++ '(' :: (inner ++ [')'])) = none :=
    identifier?_eq_none_of_mem hnames (c := '(') (by simp) (by decide)
  rw [operand?, substring?_eq_none_of_group hinner hhead, hname, hcall]
  rfl

theorem operand?_identifier (hnames : ctx.HasNames) {name : Text} {v : Value}
    (hbound : ctx.binding name = some (.value v)) :
    operand? ctx (Text.trim name) = some (.identifier name) := by
  have hname := hnames.isName hbound
  have hcontains : ctx.contains name = true := by rw [Context.contains, hbound]; rfl
  have hopen : '(' ∉ name := fun hmem => absurd (isNameChar_of_isName hname _ hmem) (by decide)
  rw [trim_of_isName hname, operand?, substring?_eq_none_of_not_mem (by decide) hopen,
    identifier?, hcontains]
  rfl

theorem operand?_literal {q : Char} (hq : isQuote q = true) {t : Text}
    (hname : identifier? ctx (quoted q t) = none) :
    operand? ctx (Text.trim (quoted q t)) = some (.literal t) := by
  have hclose : q ≠ ')' := by rcases isQuote_iff.mp hq with rfl | rfl <;> decide
  have hlast : (quoted q t).getLast? = some q := by rw [quoted_eq_append, List.getLast?_concat]
  rw [trim_quoted hq, operand?, substring?_eq_none_of_getLast? hlast hclose, hname,
    call?_eq_none_of_getLast? hlast hclose, literal?_quoted hq]
  rfl

theorem operand?_arithmetic (hnames : ctx.HasNames) {x : Float}
    (heval : Arithmetic.eval Arithmetic.floats s = .ok x) :
    operand? ctx (Text.trim s) = some (.arithmetic (Text.trim s)) := by
  have htrim := Arithmetic.eval_trim heval
  have hchars := Arithmetic.isSourceChar_of_eval htrim
  have hpart : 's' ∉ Text.trim s := fun hmem => absurd (hchars _ hmem) (by decide +kernel)
  have hname := identifier?_eq_none_of_forall hnames
    fun c hc => isNameStart_of_isSourceChar (hchars c hc)
  rw [operand?, substring?_eq_none_of_not_mem (by decide) hpart, hname,
    call?_eq_none_of_forall fun c hc => isNameStart_of_isSourceChar (hchars c hc),
    literal?_eq_none_of_forall fun c hc => isQuote_of_isSourceChar (hchars c hc), arithmetic?,
    if_pos (Arithmetic.isArithmetic_of_eval htrim)]
  rfl

theorem operand?_substring {start : Nat} {stop : Option Nat} {r : Text}
    (hblank : s.isBlankText = false) (hr : WritesRange start stop r) :
    operand? ctx (Text.trim (s ++ (Text.lit ".substring" ++ '(' :: (r ++ [')'])))) =
      some (.substring (Text.trim s) start stop) := by
  have hne : Text.trimStart s ≠ [] := by
    rw [ne_eq, Text.trimStart_eq_nil_iff, hblank]
    exact Bool.false_ne_true
  rw [Text.trim_append_of_getLast? hblank (getLast?_group _ r) (by decide), operand?,
    substring?_written hne hr, Text.trim_trimStart]
  rfl

theorem Writes.arguments (hnames : ctx.HasNames) {arguments : List (Expr × Text)}
    (h : ∀ a ∈ arguments, Writes ctx a.1 a.2) :
    (∀ t ∈ arguments.map Prod.snd, t.isBlankText = false) ∧
      ∀ t ∈ arguments.map Prod.snd, Balances (· ≠ ',') 0 t := by
  refine ⟨fun t ht => ?_, balances_of_mem_map fun a ha => (h a ha).balances hnames⟩
  obtain ⟨a, ha, rfl⟩ := List.mem_map.mp ht
  exact (h a ha).isBlankText hnames

theorem operand?_call (hnames : ctx.HasNames) {name u w : Text} {op : Operation}
    {arguments : List (Expr × Text)} (hop : ctx.operation? name = some op)
    (hu : u.isBlankText = true) (hw : w.isBlankText = true)
    (h : ∀ a ∈ arguments, Writes ctx a.1 a.2) :
    operand? ctx (Text.trim
        (name ++ u ++ '(' :: (w ++ Text.join [','] (arguments.map Prod.snd) ++ [')']))) =
      some (.call name none (arguments.map fun a => Text.trim a.2)) := by
  have hname := hnames.isName_of_operation? hop
  have hdot := not_mem_name hname hu
  obtain ⟨hblank, hbalances⟩ := Writes.arguments hnames h
  have hhead : Balances (· ∉ [',', '?', ':', '&', '|', '!']) 0 (name ++ u) :=
    (balances_of_isName hname (.literal [])).append (balances_of_blank hu (.literal []))
  have hcall := call?_written hhead (callee_name hname hu) hname hop (by simp) hw (by simp) hblank
    hbalances
  rw [List.map_map] at hcall
  rw [trim_call hname]
  refine operand?_group hnames (balances_arguments hw hbalances) (fun x hx => hdot ?_) hcall
  rw [hx]
  exact List.mem_append_right x (show '.' ∈ Text.lit ".substring" by decide)

theorem operand?_method (hnames : ctx.HasNames) (hbuilt : ctx.Built) {receiver : Expr}
    {name u v w : Text} {op : Operation} {arguments : List (Expr × Text)}
    (hreceiver : receiver.isOperand = true) (hs : Writes ctx receiver s)
    (hop : ctx.operation? name = some op) (hu : u.isBlankText = true)
    (hv : v.isBlankText = true) (hw : w.isBlankText = true)
    (h : ∀ a ∈ arguments, Writes ctx a.1 a.2) :
    operand? ctx (Text.trim (s ++ '.' :: (u ++ name ++ v) ++
        '(' :: (w ++ Text.join [','] (arguments.map Prod.snd) ++ [')']))) =
      some (.call name (some (Text.trim s)) (arguments.map fun a => Text.trim a.2)) := by
  have hname := hnames.isName_of_operation? hop
  have hreceiverBlank := hs.isBlankText hnames
  have hne : some (Text.trim (Text.trimStart s)) ≠ some [] := by
    rw [Text.trim_trimStart, ne_eq, Option.some_inj, Text.trim_eq_nil_iff, hreceiverBlank]
    exact Bool.false_ne_true
  obtain ⟨hblank, hbalances⟩ := Writes.arguments hnames h
  have hcallee := callee_method hname hu hv (Text.trimStart s)
  have hhead : Balances (· ∉ [',', '?', ':', '&', '|', '!']) 0
      (Text.trimStart s ++ '.' :: (u ++ name ++ v)) := by
    have hs := (hs.balances hnames).trimStart
    rw [Expr.delimiters_of_isOperand hreceiver] at hs
    have hname' := (balances_of_blank hu (.literal [])).append
      (balances_of_isName hname (.literal []))
    exact hs.append (.plain (by decide) (fun _ => by decide)
      (hname'.append (balances_of_blank hv (.literal []))))
  have hcall := call?_written hhead hcallee hname hop hne hw (by simp) hblank hbalances
  rw [List.map_map, Text.trim_trimStart] at hcall
  rw [List.append_assoc, Text.trim_append_of_getLast? hreceiverBlank (getLast?_group _ _)
    (by decide), ← List.append_assoc]
  refine operand?_group hnames (balances_arguments hw hbalances) (fun x hx => ?_) hcall
  have hparts := congrArg callee hx
  rw [hcallee, show Text.lit ".substring" = '.' :: Text.lit "substring" from rfl,
    callee_append (by decide)] at hparts
  exact name_ne_substring hbuilt hop (congrArg Prod.snd hparts)

theorem Writes.operand? (hnames : ctx.HasNames) (hbuilt : ctx.Built) (h : Writes ctx e s)
    (he : e.isOperand = true) :
    ∃ shape, Shape.operand? ctx (Text.trim s) = some shape ∧ Fits ctx e shape := by
  induction h with
  | padded hu hv _ ih =>
      rw [Text.trim_blank_append hu, Text.trim_append_blank hv]
      exact ih he
  | identifier hbound => exact ⟨_, operand?_identifier hnames hbound, .identifier hbound⟩
  | @literal q hq t =>
      have hname : isNameChar q = false := by rcases isQuote_iff.mp hq with rfl | rfl <;> decide
      exact ⟨_, operand?_literal hq (identifier?_eq_none_of_mem hnames List.mem_cons_self hname),
        .literal t⟩
  | arithmetic heval =>
      exact ⟨_, operand?_arithmetic hnames heval,
        .arithmetic heval (Arithmetic.eval_trim heval)⟩
  | @substring target start stop s r htarget hs hr _ =>
      exact ⟨_, operand?_substring (hs.isBlankText hnames) hr, .substring hs start stop⟩
  | call hop hu hw h _ => exact ⟨_, operand?_call hnames hop hu hw h, .call none hop h⟩
  | @method receiver s name u v w op arguments hreceiver hs hop hu hv hw h _ _ =>
      exact ⟨_, operand?_method hnames hbuilt hreceiver hs hop hu hv hw h,
        .call (some (receiver, s)) hop (List.forall_mem_cons.mpr ⟨hs, h⟩)⟩
  | length _ _ _ _ _ _ => cases he
  | choice _ _ _ _ _ _ _ _ => cases he

theorem Writes.lengthForm?_eq_none (hnames : ctx.HasNames) (h : Writes ctx e s)
    (he : e.isOperand = true) : lengthForm? (Text.trim s) = none := by
  have hgroup : ∀ {u head inner : Text}, u.isBlankText = false →
      lengthForm? (Text.trim (u ++ (head ++ '(' :: (inner ++ [')'])))) = none := by
    intro u head inner hu
    rw [Text.trim_append_of_getLast? hu (getLast?_group head inner) (by decide),
      ← List.append_assoc]
    exact lengthForm?_eq_none_of_getLast? (getLast?_group _ inner) (by decide)
  induction h with
  | padded hu hv _ ih =>
      rw [Text.trim_blank_append hu, Text.trim_append_blank hv]
      exact ih he
  | @identifier name v hbound =>
      have hname := hnames.isName hbound
      have hdot : '.' ∉ name :=
        fun hmem => absurd (isNameChar_of_isName hname _ hmem) (by decide)
      rw [trim_of_isName hname]
      exact lengthForm?_eq_none_of_not_mem (by decide) hdot
  | @literal q hq t =>
      have hlast : (quoted q t).getLast? = some q := by
        rw [quoted_eq_append, List.getLast?_concat]
      rcases isQuote_iff.mp hq with rfl | rfl
      · rw [Text.trim_of_ends rfl (by decide) hlast (by decide)]
        exact lengthForm?_eq_none_of_getLast? hlast (by decide)
      · rw [Text.trim_of_ends rfl (by decide) hlast (by decide)]
        exact lengthForm?_eq_none_of_getLast? hlast (by decide)
  | @arithmetic source x heval =>
      have hchars := Arithmetic.isSourceChar_of_eval (Arithmetic.eval_trim heval)
      exact lengthForm?_eq_none_of_not_mem (c := 'l') (by decide)
        fun hmem => absurd (hchars _ hmem) (by decide +kernel)
  | @substring target start stop s r htarget hs hr _ =>
      exact hgroup (hs.isBlankText hnames)
  | @call name u w op arguments hop hu hw h _ =>
      rw [trim_call (hnames.isName_of_operation? hop)]
      exact lengthForm?_eq_none_of_getLast? (getLast?_group _ _) (by decide)
  | @method receiver s name u v w op arguments hreceiver hs hop hu hv hw h _ _ =>
      rw [List.append_assoc]
      exact hgroup (hs.isBlankText hnames)
  | length _ _ _ _ _ _ => cases he
  | choice _ _ _ _ _ _ _ _ => cases he

/-! ### Lengths and choices -/

theorem isCompound_eq_false {p : Char → Prop} (h : Balances p 0 s) (hand : ¬p '&') (hor : ¬p '|')
    (hhead : s.head? ≠ some '!') : isCompound s = false := by
  have hnot : (s.head? == some '!') = false := beq_eq_false_iff_ne.mpr hhead
  rw [isCompound, hnot, h.findTop_eq_none hand, h.findTop_eq_none hor]
  rfl

theorem isOperand_trim (s : Text) : Shape.isOperand ctx (Text.trim s) = Shape.isOperand ctx s := by
  rw [Shape.isOperand, Shape.isOperand, Text.trim_trim]

theorem operand?_isSome (s : Text) :
    (operand? ctx s).isSome = ((substring? s).isSome || (identifier? ctx s).isSome ||
      (call? ctx s).isSome || (literal? s).isSome || (arithmetic? s).isSome) := by
  rw [operand?]
  cases substring? s <;> cases identifier? ctx s <;> cases call? ctx s <;> cases literal? s <;>
    cases arithmetic? s <;> rfl

theorem Operand.operand?_isSome (h : Operand ctx s) :
    (operand? ctx (Text.trim s)).isSome = true := by
  rw [Script.operand?_isSome]
  induction h with
  | padded hu hv _ ih => rwa [Text.trim_blank_append hu, Text.trim_append_blank hv]
  | @identifier name v hname hbound =>
      have hcontains : ctx.contains name = true := by rw [Context.contains, hbound]; rfl
      simp [trim_of_isName hname, identifier?, hcontains]
  | literal hq t => simp [trim_quoted hq, literal?_quoted hq]
  | arithmetic heval =>
      simp [arithmetic?, Arithmetic.isArithmetic_of_eval (Arithmetic.eval_trim heval)]
  | @substring t r start stop h hr _ =>
      have hne : Text.trimStart t ≠ [] := by
        rw [ne_eq, Text.trimStart_eq_nil_iff, h.isBlankText]
        exact Bool.false_ne_true
      rw [Text.trim_append_of_getLast? h.isBlankText (getLast?_group _ r) (by decide),
        substring?_written hne hr]
      rfl
  | @call name u inner op hname hop hu hinner =>
      have hhead : Balances (· ∉ [',', '?', ':', '&', '|', '!']) 0 (name ++ u) :=
        (balances_of_isName hname (.literal [])).append (balances_of_blank hu (.literal []))
      rw [trim_call hname,
        call?_group hhead hinner (callee_name hname hu) hname hop (by simp)]
      simp
  | @method t name u v inner op h hname hop hu hv hinner _ =>
      have hne : some (Text.trim (Text.trimStart t)) ≠ some [] := by
        rw [Text.trim_trimStart, ne_eq, Option.some_inj, Text.trim_eq_nil_iff, h.isBlankText]
        exact Bool.false_ne_true
      have hname' := ((balances_of_blank hu (.literal [])).append
        (balances_of_isName hname (.literal []))).append (balances_of_blank hv (.literal []))
      have hhead := h.balances.trimStart.append
        (.plain (c := '.') (by decide) (fun _ => by decide) hname')
      rw [List.append_assoc, Text.trim_append_of_getLast? h.isBlankText (getLast?_group _ _)
        (by decide), ← List.append_assoc,
        call?_group hhead hinner (callee_method hname hu hv _) hname hop hne]
      simp

theorem Operand.isOperand (h : Operand ctx s) : Shape.isOperand ctx s = true := by
  have hbalances := h.balances.trim
  rw [Shape.isOperand, h.operand?_isSome, isCompound_eq_false hbalances (by decide) (by decide)
    (hbalances.head?_ne (by decide) (by decide))]
  rfl

theorem Writes.length? (hnames : ctx.HasNames) {target : Expr}
    {comparison : Comparison} {bound : Nat} (h : Writes ctx (.length target comparison bound) s) :
    isCompound (Text.trim s) = false ∧ ∃ c, Writes ctx target c ∧
      Shape.length? ctx (Text.trim s) = some (.length (Text.trim c) comparison bound) := by
  have hbalances := (h.balances hnames).trim
  generalize he : Expr.length target comparison bound = e at h
  induction h with
  | padded hu hv _ ih =>
      rw [Text.trim_blank_append hu, Text.trim_append_blank hv] at hbalances ⊢
      exact ih hbalances he
  | @length target' comparison' s u v digits htarget hs hu hv hdigits _ =>
      cases he
      have hblank := hs.isBlankText hnames
      have hne : Text.trimStart s ≠ [] := by
        rw [ne_eq, Text.trimStart_eq_nil_iff, hblank]
        exact Bool.false_ne_true
      have hlast := List.getLast?_eq_some_getLast hdigits.ne_nil
      have hdigit := hdigits.isDigit _ (List.getLast_mem hdigits.ne_nil)
      have htail : (Text.lit ".length" ++
          (u ++ (comparison.spelling.toList ++ (v ++ digits)))).getLast? =
            some (digits.getLast hdigits.ne_nil) := by
        simp only [← List.append_assoc]
        rw [List.getLast?_append_of_ne_nil _ hdigits.ne_nil, hlast]
      rw [Text.trim_append_of_getLast? hblank htail (isBlank_of_isDigit hdigit)] at hbalances ⊢
      have hoperand := hs.operand hnames htarget
      have hhead : (Text.trimStart s ++ (Text.lit ".length" ++
          (u ++ (comparison.spelling.toList ++ (v ++ digits))))).head? ≠ some '!' := by
        have hfirst := hoperand.balances.trimStart.head?_ne (c := '!') (by decide) (by decide)
        obtain ⟨d, r, hd⟩ := List.exists_cons_of_ne_nil hne
        rw [hd] at hfirst ⊢
        exact hfirst
      refine ⟨isCompound_eq_false hbalances (by simp [Expr.delimiters])
        (by simp [Expr.delimiters]) hhead, s, hs, ?_⟩
      rw [Shape.length?, lengthForm?_written hne comparison.spelling_mem hu hv hdigits,
        Text.trim_trimStart]
      simp only [Option.bind_eq_bind, Option.bind_some, isOperand_trim, hoperand.isOperand,
        if_true]
      rfl
  | _ => cases he

theorem Writes.branch (hnames : ctx.HasNames) (h : Writes ctx e s) : Branch s := by
  have hbalances := h.balances hnames
  induction h with
  | padded hu hv h ih => exact (ih (h.balances hnames)).padded hu hv
  | choice hu hv hc hs ht _ ihs iht =>
      have hcondition := Whole.of_balances (hc.balances hnames) (by simp [Expr.delimiters])
        (by simp [Expr.delimiters])
      exact .choice (u := []) rfl hu hcondition hv (ihs (hs.balances hnames))
        (iht (ht.balances hnames))
  | _ =>
      exact .leaf (.of_balances hbalances (by simp [Expr.delimiters]) (by simp [Expr.delimiters]))

theorem Writes.choice? (hnames : ctx.HasNames)
    {target accepted refused : Expr} {comparison : Comparison} {bound : Nat}
    (h : Writes ctx (.choice target comparison bound accepted refused) s) :
    ∃ shape, Shape.choice? (Text.trim s) = some shape ∧
      Fits ctx (.choice target comparison bound accepted refused) shape := by
  generalize he : Expr.choice target comparison bound accepted refused = e at h
  induction h with
  | padded hu hv _ ih =>
      rw [Text.trim_blank_append hu, Text.trim_append_blank hv]
      exact ih he
  | @choice target' accepted' refused' comparison' bound' u c v s t hu hv hc hs ht _ _ _ =>
      obtain ⟨hcondition, c', hc', hlength⟩ := hc.length? hnames
      have htrim : Text.trim (Text.lit "if" ++ (u ++ '(' :: (c ++ ')' :: (v ++ '?' ::
          (s ++ ':' :: t))))) =
          Text.lit "if" ++
            (u ++ '(' :: (c ++ ')' :: (v ++ '?' :: (s ++ ':' :: Text.trimEnd t)))) := by
        have hend := Text.trimEnd_append
          (Text.lit "if" ++ (u ++ '(' :: (c ++ ')' :: (v ++ '?' :: (s ++ [':'])))))
          (ht.isBlankText hnames)
        simp only [List.append_assoc, List.cons_append, List.nil_append] at hend
        rw [Text.trim, Text.trimStart_of_head? (c := 'i') rfl (by decide)]
        exact hend
      have hcolon := (hs.branch hnames).branchColon_append (Text.trimEnd t)
      refine ⟨_, ?_, .choice hcondition hlength hc' hs ht⟩
      rw [htrim, choice?_written hu hv (hc.balances hnames) hcolon, Text.trim_trimEnd]
  | _ => cases he

/-- A text that writes an expression has a shape that fits it. -/
theorem Writes.of? (hnames : ctx.HasNames) (hbuilt : ctx.Built) (h : Writes ctx e s) :
    ∃ shape, Shape.of? ctx (Text.trim s) = some shape ∧ Fits ctx e shape := by
  have hbalances := (h.balances hnames).trim
  cases he : e.isOperand with
  | true =>
      obtain ⟨shape, hshape, hfits⟩ := h.operand? hnames hbuilt he
      rw [Expr.delimiters_of_isOperand he] at hbalances
      refine ⟨shape, ?_, hfits⟩
      rw [Shape.of?, choice?_eq_none hbalances (by decide), Shape.length?,
        h.lengthForm?_eq_none hnames he]
      exact hshape
  | false =>
      cases e with
      | length target comparison bound =>
          obtain ⟨-, c, hc, hlength⟩ := h.length? hnames
          refine ⟨_, ?_, .length hc comparison bound⟩
          rw [Shape.of?, choice?_eq_none hbalances (by simp [Expr.delimiters]), hlength]
          rfl
      | choice target comparison bound accepted refused =>
          obtain ⟨shape, hshape, hfits⟩ := h.choice? hnames
          refine ⟨shape, ?_, hfits⟩
          rw [Shape.of?, hshape]
          rfl
      | _ => cases he

end CopyFormat.Script

import CopyFormat.Proofs.Script.Arithmetic
import CopyFormat.Proofs.Script.Scan
import CopyFormat.Script.Eval
import Mathlib.Data.Nat.Digits.Defs

/-!
Expressions as trees: what they mean, how deep they go, and the texts that write them. The
meaning of a tree depends on the meanings of its parts only; no text is looked at. Lengths,
comparisons and parts of texts have meanings of their own here, to which those of the evaluator
are shown to be equal.
-/

namespace CopyFormat.Script

/-! ### Lengths and parts -/

/-- How a length may stand to the bound with which it is compared. -/
def Comparison.orders : Comparison → List Ordering
  | greater => [.gt]
  | less => [.lt]
  | greaterEqual => [.gt, .eq]
  | lessEqual => [.lt, .eq]
  | equal => [.eq]
  | notEqual => [.lt, .gt]

theorem Comparison.holds_eq (comparison : Comparison) (n bound : Nat) :
    comparison.holds n bound = decide (compare n bound ∈ comparison.orders) := by
  rw [Bool.eq_iff_iff, decide_eq_true_iff]
  rcases Nat.lt_trichotomy n bound with h | rfl | h
  · rw [Nat.compare_eq_lt.mpr h]
    cases comparison <;> simp [holds, orders] <;> omega
  · rw [Nat.compare_eq_eq.mpr rfl]
    cases comparison <;> simp [holds, orders]
  · rw [Nat.compare_eq_gt.mpr h]
    cases comparison <;> simp [holds, orders] <;> omega

/-- How long a value is. Numbers and truth values have no length. -/
def Value.extent : Value → Except EvalFault Nat
  | text t => .ok t.length
  | list items => .ok items.length
  | number _ => .error (.noLength (Text.lit "number"))
  | boolean _ => .error (.noLength (Text.lit "boolean"))

theorem Value.length_eq (v : Value) : v.length = v.extent := by
  cases v <;> rfl

/-- The characters between two places of a text, whichever of the two is the first, or those from
one place on. -/
def part (t : Text) (start : Nat) : Option Nat → Text
  | none => (t.zipIdx.filter fun p => start ≤ p.2).map Prod.fst
  | some stop =>
      (t.zipIdx.filter fun p =>
        (start ≤ p.2 ∧ p.2 < stop) ∨ (stop ≤ p.2 ∧ p.2 < start)).map Prod.fst

theorem map_fst_filter_zipIdx (t : Text) (k lo hi : Nat) :
    ((t.zipIdx k).filter fun p => lo ≤ p.2 ∧ p.2 < hi).map Prod.fst =
      (t.take (hi - k)).drop (lo - k) := by
  induction t generalizing k with
  | nil => simp
  | cons c t ih =>
      rw [List.zipIdx_cons, List.filter_cons]
      rcases Nat.lt_or_ge k hi with hhi | hhi
      · have htake : hi - k = hi - (k + 1) + 1 := by omega
        rw [htake, List.take_succ_cons]
        rcases Nat.lt_or_ge k lo with hlo | hlo
        · have hdrop : lo - k = lo - (k + 1) + 1 := by omega
          rw [if_neg (by simp; omega), ih, hdrop, List.drop_succ_cons]
        · have hfirst : lo - k = 0 := by omega
          have hnext : lo - (k + 1) = 0 := by omega
          rw [if_pos (by simp; omega), List.map_cons, ih, hfirst, hnext, List.drop_zero,
            List.drop_zero]
      · have hnone : hi - k = 0 := by omega
        have hnext : hi - (k + 1) = 0 := by omega
        rw [if_neg (by simp; omega), ih, hnone, hnext, List.take_zero, List.take_zero,
          List.drop_nil, List.drop_nil]

theorem drop_take_min (t : Text) (a b : Nat) :
    (t.take (max (min a t.length) (min b t.length))).drop (min (min a t.length) (min b t.length)) =
      (t.take (max a b)).drop (min a b) := by
  have htake : t.take (max (min a t.length) (min b t.length)) = t.take (max a b) := by
    rw [List.take_eq_take_iff]
    omega
  rw [htake, List.drop_eq_drop_iff, List.length_take]
  omega

theorem substring_eq (t : Text) (start : Nat) (stop : Option Nat) :
    substring t start stop = part t start stop := by
  rw [substring, drop_take_min]
  cases stop with
  | none =>
      have hends : ∀ p ∈ t.zipIdx, p.2 < t.length := by
        intro p hp
        simpa using List.snd_lt_of_mem_zipIdx hp
      have hfilter : (t.zipIdx.filter fun p => start ≤ p.2) =
          t.zipIdx.filter fun p => start ≤ p.2 ∧ p.2 < t.length :=
        List.filter_congr fun p hp => by simp [hends p hp]
      rw [part, hfilter, map_fst_filter_zipIdx, Option.getD_none,
        List.take_of_length_le (Nat.le_max_right ..), Nat.sub_zero, Nat.sub_zero, List.take_length,
        List.drop_eq_drop_iff]
      omega
  | some stop =>
      have hfilter : (t.zipIdx.filter fun p =>
          (start ≤ p.2 ∧ p.2 < stop) ∨ (stop ≤ p.2 ∧ p.2 < start)) =
            t.zipIdx.filter fun p => min start stop ≤ p.2 ∧ p.2 < max start stop :=
        List.filter_congr fun p _ => by
          rw [decide_eq_decide]
          omega
      rw [part, hfilter, map_fst_filter_zipIdx]
      rfl

/-! ### Trees -/

/-- An expression. The receiver of an operation is its first argument. -/
inductive Expr
  | identifier (name : Text)
  | literal (t : Text)
  | arithmetic (source : Text)
  | substring (target : Expr) (start : Nat) (stop : Option Nat)
  | call (name : Text) (arguments : List Expr)
  | length (target : Expr) (comparison : Comparison) (bound : Nat)
  | choice (target : Expr) (comparison : Comparison) (bound : Nat) (accepted refused : Expr)

namespace Expr

/-- Whether the expression can be a receiver, or the target of a part or a length. -/
def isOperand : Expr → Bool
  | length .. | choice .. => false
  | _ => true

mutual

/-- The value of an expression. Parts are evaluated from left to right until one has none, and of
the branches of a choice only the one that is taken. -/
def meaning (ctx : Context) : Expr → Except EvalFault Value
  | identifier name =>
      match ctx.binding name with
      | some (.value v) => .ok v
      | _ => .error (.unknownName name)
  | literal t => .ok (.text t)
  | arithmetic source =>
      match Arithmetic.eval Arithmetic.floats source with
      | .ok x => .ok (.number x)
      | .error f => .error (.arithmetic f)
  | substring target start stop => do
      let v ← target.meaning ctx
      return .text (part v.display start stop)
  | call name arguments =>
      match ctx.operation? name with
      | some op => do
          let vs ← meanings ctx arguments
          op.call ctx.now vs
      | none => .error (.unknownOperation name)
  | length target comparison bound => do
      let v ← target.meaning ctx
      let n ← v.extent
      return .boolean (compare n bound ∈ comparison.orders)
  | choice target comparison bound accepted refused => do
      let v ← target.meaning ctx
      let n ← v.extent
      if compare n bound ∈ comparison.orders then accepted.meaning ctx else refused.meaning ctx

def meanings (ctx : Context) : List Expr → Except EvalFault (List Value)
  | [] => .ok []
  | e :: es => do
      let v ← e.meaning ctx
      let vs ← meanings ctx es
      return v :: vs

end

mutual

/-- How many levels lie below an expression. -/
def nesting : Expr → Nat
  | identifier _ | literal _ | arithmetic _ => 0
  | substring target _ _ | length target _ _ => target.nesting + 1
  | call _ arguments => nestings arguments
  | choice target _ _ accepted refused =>
      max target.nesting (max accepted.nesting refused.nesting) + 1

def nestings : List Expr → Nat
  | [] => 0
  | e :: es => max (e.nesting + 1) (nestings es)

end

theorem nesting_lt_of_mem {e : Expr} {es : List Expr} (h : e ∈ es) :
    e.nesting < nestings es := by
  induction es with
  | nil => cases h
  | cons d es ih =>
      rw [nestings]
      rcases List.mem_cons.mp h with rfl | h
      · omega
      · have := ih h
        omega

end Expr

/-! ### Texts -/

/-- The digits of an index, of which there are not too many. -/
structure IsIndex (digits : Text) : Prop where
  ne_nil : digits ≠ []
  length_le : digits.length ≤ 15
  isDigit : ∀ c ∈ digits, c.isDigit = true

instance (digits : Text) : Decidable (IsIndex digits) :=
  decidable_of_iff
    (digits ≠ [] ∧ digits.length ≤ 15 ∧ digits.all Char.isDigit = true)
    ⟨fun ⟨hne, hle, hall⟩ => ⟨hne, hle, List.all_eq_true.mp hall⟩,
      fun h => ⟨h.ne_nil, h.length_le, List.all_eq_true.mpr h.isDigit⟩⟩

/-- The number that digits write, the last of which stands for the ones. -/
def indexValue (digits : Text) : Nat :=
  Nat.ofDigits 10 (digits.reverse.map fun c => c.toNat - '0'.toNat)

theorem numeral_eq_indexValue {digits : Text} (h : ∀ c ∈ digits, c.isDigit = true) :
    Text.numeral 10 digits = indexValue digits := by
  induction digits using List.reverseRecOn with
  | nil => rfl
  | append_singleton digits c ih =>
      rw [List.forall_mem_append, List.forall_mem_singleton] at h
      have hc : '0' ≤ c ∧ c ≤ '9' := by
        have hdigit := h.2
        simp only [Char.isDigit, Bool.and_eq_true, decide_eq_true_eq] at hdigit
        exact hdigit
      have hinit := ih h.1
      rw [Text.numeral] at hinit
      rw [Text.numeral, List.foldl_append, List.foldl_cons, List.foldl_nil, hinit, indexValue,
        indexValue, List.reverse_append, List.reverse_singleton, List.singleton_append,
        List.map_cons, Nat.ofDigits_cons, Text.hexValue?, if_pos hc, Option.getD_some]
      omega

def Comparison.spelling : Comparison → String
  | greater => ">"
  | less => "<"
  | greaterEqual => ">="
  | lessEqual => "<="
  | equal => "==="
  | notEqual => "!=="

theorem Comparison.spelling_mem (comparison : Comparison) :
    (comparison.spelling, comparison) ∈ Comparison.table := by
  cases comparison <;> decide

/-- The texts between the parentheses of a part. -/
inductive WritesRange : Nat → Option Nat → Text → Prop
  | toEnd {u i v : Text} (hu : u.isBlankText = true) (hi : IsIndex i)
      (hv : v.isBlankText = true) : WritesRange (indexValue i) none (u ++ (i ++ v))
  | between {u i v u' j v' : Text} (hu : u.isBlankText = true) (hi : IsIndex i)
      (hv : v.isBlankText = true) (hu' : u'.isBlankText = true) (hj : IsIndex j)
      (hv' : v'.isBlankText = true) :
      WritesRange (indexValue i) (some (indexValue j))
        (u ++ (i ++ (v ++ ',' :: (u' ++ (j ++ v')))))

/-- The texts that write an expression. Blanks may stand around it and between its parts, though
not within names, numbers and comparisons, nor behind the dot of a part or a length. -/
inductive Writes (ctx : Context) : Expr → Text → Prop
  | padded {e : Expr} {u s v : Text} (hu : u.isBlankText = true) (hv : v.isBlankText = true)
      (h : Writes ctx e s) : Writes ctx e (u ++ (s ++ v))
  | identifier {name : Text} {v : Value} (hname : ctx.binding name = some (.value v)) :
      Writes ctx (.identifier name) name
  | literal {q : Char} (hq : isQuote q = true) (t : Text) : Writes ctx (.literal t) (quoted q t)
  | arithmetic {s : Text} {x : Float}
      (h : Arithmetic.eval Arithmetic.floats s = .ok x) : Writes ctx (.arithmetic s) s
  | substring {target : Expr} {start : Nat} {stop : Option Nat} {s r : Text}
      (htarget : target.isOperand = true) (h : Writes ctx target s)
      (hr : WritesRange start stop r) :
      Writes ctx (.substring target start stop)
        (s ++ (Text.lit ".substring" ++ '(' :: (r ++ [')'])))
  | call {name u w : Text} {op : Operation} {arguments : List (Expr × Text)}
      (hname : ctx.operation? name = some op) (hu : u.isBlankText = true)
      (hw : w.isBlankText = true) (h : ∀ a ∈ arguments, Writes ctx a.1 a.2) :
      Writes ctx (.call name (arguments.map Prod.fst))
        (name ++ u ++ '(' :: (w ++ Text.join [','] (arguments.map Prod.snd) ++ [')']))
  | method {receiver : Expr} {s name u v w : Text} {op : Operation}
      {arguments : List (Expr × Text)} (hreceiver : receiver.isOperand = true)
      (hs : Writes ctx receiver s) (hname : ctx.operation? name = some op)
      (hu : u.isBlankText = true) (hv : v.isBlankText = true) (hw : w.isBlankText = true)
      (h : ∀ a ∈ arguments, Writes ctx a.1 a.2) :
      Writes ctx (.call name (receiver :: arguments.map Prod.fst))
        (s ++ '.' :: (u ++ name ++ v) ++
          '(' :: (w ++ Text.join [','] (arguments.map Prod.snd) ++ [')']))
  | length {target : Expr} {comparison : Comparison} {s u v digits : Text}
      (htarget : target.isOperand = true) (h : Writes ctx target s) (hu : u.isBlankText = true)
      (hv : v.isBlankText = true) (hdigits : IsIndex digits) :
      Writes ctx (.length target comparison (indexValue digits))
        (s ++ (Text.lit ".length" ++ (u ++ (comparison.spelling.toList ++ (v ++ digits)))))
  | choice {target accepted refused : Expr} {comparison : Comparison} {bound : Nat}
      {u c v s t : Text} (hu : u.isBlankText = true) (hv : v.isBlankText = true)
      (hc : Writes ctx (.length target comparison bound) c) (hs : Writes ctx accepted s)
      (ht : Writes ctx refused t) :
      Writes ctx (.choice target comparison bound accepted refused)
        (Text.lit "if" ++ (u ++ '(' :: (c ++ ')' :: (v ++ '?' :: (s ++ ':' :: t)))))

/-! ### Contexts -/

namespace Context

/-- The contexts that programs build: nothing or all operations, and values that are set. -/
inductive Built : Context → Prop
  | empty (now : Date.Moment) : Built (.empty now)
  | operations (now : Date.Moment) : Built (.operations now)
  | set {ctx : Context} (h : Built ctx) (name : Text) (v : Value) : Built (ctx.set name v)

/-- Whether everything that means something is a name. -/
def HasNames (ctx : Context) : Prop := ∀ name, ctx.contains name = true → Shape.isName name = true

theorem operation?_eq_some {ctx : Context} {name : Text} {op : Operation} :
    ctx.operation? name = some op ↔ ctx.binding name = some (.operation op) := by
  rw [operation?]
  split
  · rename_i op' h
    simp [h]
  · rename_i h
    exact ⟨fun hnone => (by cases hnone), fun hsome => (h op hsome).elim⟩

theorem HasNames.isName {ctx : Context} (h : ctx.HasNames) {name : Text} {b : Binding}
    (hbound : ctx.binding name = some b) : Shape.isName name = true := by
  refine h name ?_
  rw [contains, hbound]
  rfl

theorem HasNames.isName_of_operation? {ctx : Context} (h : ctx.HasNames) {name : Text}
    {op : Operation} (hop : ctx.operation? name = some op) : Shape.isName name = true :=
  h.isName (operation?_eq_some.mp hop)

theorem Built.named?_eq {ctx : Context} (h : ctx.Built) {name : Text} {op : Operation}
    (hop : ctx.operation? name = some op) : Operation.named? name = some op := by
  rw [operation?_eq_some] at hop
  induction h with
  | empty now => cases hop
  | operations now =>
      obtain ⟨op', hop', heq⟩ := Option.map_eq_some_iff.mp hop
      cases heq
      exact hop'
  | set _ n v ih =>
      rw [Context.set] at hop
      dsimp only at hop
      split at hop
      · cases hop
      · exact ih hop

end Context

end CopyFormat.Script

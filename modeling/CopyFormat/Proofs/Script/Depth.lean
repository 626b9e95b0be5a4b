import CopyFormat.Proofs.Script.Confinement

/-!
The limit of levels. Every text that is evaluated on the way to the value of a script is shorter
than the one it is a part of, so that evaluation would come to an end without any limit. What the
limit does is to cut an evaluation short: it gives the error that tells the limit, or leaves the
value and any other error as they are.
-/

namespace CopyFormat.Script

variable {α β : Type} {ctx : Context} {eval eval' : Text → Except EvalFault Value} {s t : Text}
  {limit limit' levels levels' : Nat}

/-! ### Parts are shorter -/

theorem length_trim_le (t : Text) : (Text.trim t).length ≤ t.length :=
  (excerpt_trim t).isInfix.length_le

theorem Excerpt.length_le (h : Excerpt s t) : t.length ≤ s.length := h.isInfix.length_le

namespace Shape

theorem length_lt_of_lengthForm? {comparison : Comparison} {bound : Nat}
    (h : lengthForm? s = some (t, comparison, bound)) : t.length < s.length := by
  obtain ⟨before, behind, rfl, rfl⟩ := exists_of_lengthForm? h
  have htrim := length_trim_le before
  rw [List.length_append, List.length_cons]
  omega

theorem length_lt_of_includes? {target needle : Text}
    (h : includes? s = some (target, needle)) :
    target.length < s.length ∧ needle.length < s.length := by
  obtain ⟨word, rfl⟩ := exists_of_includes? h
  simp only [List.length_append, List.length_cons]
  omega

theorem length_lt_of_mem_conditionParts {condition : Text} (h : t ∈ conditionParts condition) :
    t.length < condition.length := by
  rcases List.mem_append.mp h with h | h
  · obtain ⟨⟨target, comparison, bound⟩, hform, rfl⟩ := List.mem_map.mp h
    exact length_lt_of_lengthForm? (Option.mem_toList.mp hform)
  · obtain ⟨⟨target, needle⟩, hparts, ht⟩ := List.mem_flatMap.mp h
    obtain ⟨htarget, hneedle⟩ := length_lt_of_includes? (Option.mem_toList.mp hparts)
    simp only [List.mem_cons, List.not_mem_nil, or_false] at ht
    rcases ht with rfl | rfl
    · exact htarget
    · exact hneedle

theorem length_lt_of_choice? {shape : Shape} (h : choice? s = some shape)
    (ht : t ∈ shape.parts) : t.length < s.length := by
  obtain ⟨u, c, v, a, b, rfl, rfl⟩ := exists_of_choice? h
  have hc := length_trim_le c
  have ha := length_trim_le a
  have hb := length_trim_le b
  simp only [List.length_append, List.length_cons, List.length_nil]
  rcases List.mem_append.mp ht with ht | ht
  · have hlt := length_lt_of_mem_conditionParts ht
    omega
  · simp only [List.mem_cons, List.not_mem_nil, or_false] at ht
    rcases ht with rfl | rfl
    · omega
    · omega

theorem length_lt_of_length? {shape : Shape} (h : length? ctx s = some shape)
    (ht : t ∈ shape.parts) : t.length < s.length := by
  obtain ⟨⟨target, comparison, bound⟩, hform, hshape⟩ := Option.bind_eq_some_iff.mp h
  dsimp only at hshape
  split at hshape
  · cases hshape
    rw [List.mem_singleton.mp ht]
    exact length_lt_of_lengthForm? hform
  · cases hshape

theorem length_lt_of_substring? {shape : Shape} (h : substring? s = some shape)
    (ht : t ∈ shape.parts) : t.length < s.length := by
  obtain ⟨before, behind, start, stop, rfl, rfl⟩ := exists_of_substring?_cut h
  have htrim := length_trim_le before
  rw [List.mem_singleton.mp ht, List.length_append, List.length_cons]
  omega

theorem length_lt_of_call? {shape : Shape} (h : call? ctx s = some shape)
    (ht : t ∈ shape.parts) : t.length < s.length := by
  obtain ⟨head, inner, arguments, rfl, rfl, harguments⟩ := exists_of_call? h
  simp only [List.length_append, List.length_cons, List.length_nil]
  rcases List.mem_append.mp ht with ht | ht
  · have hreceiver := (excerpt_of_receiver (Option.mem_toList.mp ht)).length_le
    omega
  · obtain ⟨u, hu, rfl⟩ := harguments t ht
    have hpart := (excerpt_of_mem_splitTop (by decide) hu).length_le
    have htrim := length_trim_le u
    have hinner := length_trim_le inner
    omega

theorem length_lt_of_mem_parts {shape : Shape} (h : of? ctx s = some shape)
    (ht : t ∈ shape.parts) : t.length < s.length := by
  rcases of?_cases h with h | h | h | h | h | h | h
  · exact length_lt_of_choice? h ht
  · exact length_lt_of_length? h ht
  · exact length_lt_of_substring? h ht
  · rw [identifier?] at h
    split at h
    · cases h
      cases ht
    · cases h
  · exact length_lt_of_call? h ht
  · obtain ⟨u, -, rfl⟩ := Option.map_eq_some_iff.mp h
    cases ht
  · rw [arithmetic?] at h
    split at h
    · cases h
      cases ht
    · cases h

end Shape

theorem IsPart.length_lt (h : IsPart ctx s t) : t.length < s.length := by
  obtain ⟨shape, hshape, ht⟩ := h
  exact Nat.lt_of_lt_of_le (Shape.length_lt_of_mem_parts hshape ht) (length_trim_le s)

/-! ### One level -/

/-- The value of a text, whose parts `eval` evaluates. -/
def evalLevel (ctx : Context) (eval : Text → Except EvalFault Value) (source : Text) :
    Except EvalFault Value :=
  match Shape.of? ctx (Text.trim source) with
  | some shape => shape.value ctx eval
  | none => .ok (.text (Text.trim source))

theorem evalAt_succ (ctx : Context) (limit levels : Nat) :
    evalAt ctx limit (levels + 1) = evalLevel ctx (evalAt ctx limit levels) := by
  funext source
  rfl

theorem evalLevel_congr (h : ∀ t, IsPart ctx s t → eval t = eval' t) :
    evalLevel ctx eval s = evalLevel ctx eval' s := by
  rw [evalLevel, evalLevel]
  cases hshape : Shape.of? ctx (Text.trim s) with
  | none => rfl
  | some shape => exact Shape.value_congr fun t ht => h t ⟨shape, hshape, ht⟩

theorem evalAt_eq_of_length_lt (h : s.length < levels) (h' : s.length < levels') :
    evalAt ctx limit levels s = evalAt ctx limit' levels' s := by
  induction levels generalizing levels' s with
  | zero => cases h
  | succ levels ih =>
      cases levels' with
      | zero => cases h'
      | succ levels' =>
          rw [evalAt_succ, evalAt_succ]
          refine evalLevel_congr fun t ht => ?_
          have hlt := ht.length_lt
          exact ih (by omega) (by omega)

/-! ### Cutting short -/

/-- The first outcome is the second one or has been cut short at the limit; it is not that the
levels did not suffice for another reason. -/
def CutShort (limit : Nat) (x x' : Except EvalFault α) : Prop :=
  x = .error (.nestedTooDeep limit) ∨ x = x' ∧ ∀ n, x ≠ .error (.nestedTooDeep n)

namespace CutShort

theorem of_ne {x : Except EvalFault α} (h : ∀ n, x ≠ .error (.nestedTooDeep n)) :
    CutShort limit x x :=
  .inr ⟨rfl, h⟩

theorem ok (a : α) : CutShort limit (.ok a) (.ok a) := of_ne fun _ h => by cases h

theorem bind {x x' : Except EvalFault α} {f f' : α → Except EvalFault β}
    (h : CutShort limit x x') (hf : ∀ a, CutShort limit (f a) (f' a)) :
    CutShort limit (x >>= f) (x' >>= f') := by
  rcases h with rfl | ⟨rfl, hne⟩
  · exact .inl rfl
  · cases x with
    | ok a => exact hf a
    | error e => exact .inr ⟨rfl, fun n h => hne n (by cases h; rfl)⟩

theorem map {x x' : Except EvalFault α} (f : α → β) (h : CutShort limit x x') :
    CutShort limit (x.map f) (x'.map f) :=
  h.bind fun a => ok (f a)

theorem mapM {ts : List Text} (h : ∀ t ∈ ts, CutShort limit (eval t) (eval' t)) :
    CutShort limit (ts.mapM eval) (ts.mapM eval') := by
  induction ts with
  | nil => exact ok []
  | cons t ts ih =>
      rw [List.mapM_cons, List.mapM_cons]
      exact (h t List.mem_cons_self).bind fun v =>
        (ih fun u hu => h u (List.mem_cons_of_mem t hu)).bind fun vs => ok (v :: vs)

end CutShort

theorem Value.length_ne_nestedTooDeep (v : Value) (n : Nat) :
    v.length ≠ .error (.nestedTooDeep n) := by
  cases v <;> rintro ⟨⟩

theorem Operation.call_ne_nestedTooDeep (now : Date.Moment) (op : Operation) (vs : List Value)
    (n : Nat) : op.call now vs ≠ .error (.nestedTooDeep n) := by
  fun_cases Operation.call now op vs <;> rintro ⟨⟩

theorem compareLength_cutShort {target : Text} (h : CutShort limit (eval target) (eval' target))
    (comparison : Comparison) (bound : Nat) :
    CutShort limit (compareLength eval target comparison bound)
      (compareLength eval' target comparison bound) :=
  h.bind fun v => (CutShort.of_ne v.length_ne_nestedTooDeep).bind fun n =>
    .ok (comparison.holds n bound)

theorem holds_cutShort {condition : Text}
    (h : ∀ t ∈ Shape.conditionParts condition, CutShort limit (eval t) (eval' t)) :
    CutShort limit (holds ctx eval condition) (holds ctx eval' condition) := by
  unfold holds
  split
  · exact .ok false
  · split
    · rename_i target comparison bound hlength
      exact compareLength_cutShort (h target (Shape.mem_conditionParts_of_length? hlength)) _ _
    · rename_i target needle hincludes _
      obtain ⟨htarget, hneedle⟩ := Shape.mem_conditionParts_of_includes? hincludes
      split
      · exact (h target htarget).bind fun v => (h needle hneedle).bind fun w =>
          .ok (v.includes w.display)
      · exact .ok false
    · exact .ok false

/-- Nothing but a part is cut short on the way to the value of a shape. Of a choice only the branch
that is taken counts. -/
theorem Shape.value_cutShort {shape : Shape}
    (h : ∀ t ∈ shape.parts, CutShort limit (eval t) (eval' t)) :
    CutShort limit (shape.value ctx eval) (shape.value ctx eval') := by
  cases shape with
  | choice condition accepted refused =>
      have hcondition : CutShort limit (holds ctx eval condition) (holds ctx eval' condition) :=
        holds_cutShort fun t ht => h t (List.mem_append_left _ ht)
      have haccepted : CutShort limit (eval accepted) (eval' accepted) :=
        h accepted (List.mem_append_right _ List.mem_cons_self)
      have hrefused : CutShort limit (eval refused) (eval' refused) :=
        h refused (List.mem_append_right _ (List.mem_cons_of_mem _ List.mem_cons_self))
      refine hcondition.bind fun b => ?_
      cases b with
      | true => exact haccepted
      | false => exact hrefused
  | length target comparison bound =>
      exact (compareLength_cutShort (h target List.mem_cons_self) _ _).map _
  | substring target start stop =>
      exact (h target List.mem_cons_self).bind fun v => .ok _
  | identifier name =>
      rw [value, value]
      split
      · exact .ok _
      · exact .of_ne fun n h => by cases h
      · exact .of_ne fun n h => by cases h
  | call name receiver arguments =>
      rw [value, value]
      split
      · exact .of_ne fun n h => by cases h
      · rename_i op _
        exact (CutShort.mapM h).bind fun vs => .of_ne (op.call_ne_nestedTooDeep ctx.now vs)
  | literal t => exact .ok _
  | arithmetic source =>
      rw [value, value]
      split
      · exact .ok _
      · exact .of_ne fun n h => by cases h

theorem evalLevel_cutShort (h : ∀ t, IsPart ctx s t → CutShort limit (eval t) (eval' t)) :
    CutShort limit (evalLevel ctx eval s) (evalLevel ctx eval' s) := by
  rw [evalLevel, evalLevel]
  cases hshape : Shape.of? ctx (Text.trim s) with
  | none => exact .ok _
  | some shape => exact Shape.value_cutShort fun t ht => h t ⟨shape, hshape, ht⟩

theorem evalAt_cutShort (h : levels ≤ levels') :
    CutShort limit (evalAt ctx limit levels s) (evalAt ctx limit' levels' s) := by
  induction levels generalizing levels' s with
  | zero => exact .inl rfl
  | succ levels ih =>
      cases levels' with
      | zero => cases h
      | succ levels' =>
          rw [evalAt_succ, evalAt_succ]
          exact evalLevel_cutShort fun t _ => ih (Nat.le_of_succ_le_succ h)

/-- A text is never cut short when there are more levels than it has characters: otherwise it would
be cut short at two limits at once. -/
theorem evalAt_ne_nestedTooDeep (h : s.length < levels) (n : Nat) :
    evalAt ctx limit levels s ≠ .error (.nestedTooDeep n) := by
  have hlimit : CutShort limit (evalAt ctx limit levels s) (evalAt ctx limit levels s) :=
    evalAt_cutShort (Nat.le_refl levels)
  have hother : CutShort (limit + 1) (evalAt ctx (limit + 1) levels s)
      (evalAt ctx limit levels s) := evalAt_cutShort (Nat.le_refl levels)
  have hsame : evalAt ctx (limit + 1) levels s = evalAt ctx limit levels s :=
    evalAt_eq_of_length_lt h h
  rcases hlimit with hlimit | ⟨-, hne⟩
  · rw [hsame, hlimit] at hother
    rcases hother with hother | ⟨-, hne⟩
    · simp at hother
    · exact absurd rfl (hne limit)
  · exact hne n

/-! ### Evaluation without a limit -/

/-- The value of a text when nothing limits the levels: as many are allowed as the text has
characters. -/
def evalFully (ctx : Context) (source : Text) : Except EvalFault Value :=
  evalAt ctx source.length (source.length + 1) source

theorem evalAt_eq_evalFully (h : s.length < levels) :
    evalAt ctx limit levels s = evalFully ctx s :=
  evalAt_eq_of_length_lt h (Nat.lt_succ_self _)

theorem evalFully_eq (ctx : Context) (s : Text) :
    evalFully ctx s = evalLevel ctx (evalFully ctx) s := by
  rw [evalFully, evalAt_succ]
  exact evalLevel_congr fun t ht => evalAt_eq_evalFully ht.length_lt

theorem eq_evalFully (h : ∀ s, eval s = evalLevel ctx eval s) : eval = evalFully ctx := by
  funext s
  induction hn : s.length using Nat.strongRecOn generalizing s with
  | ind n ih =>
      subst hn
      rw [h, evalFully_eq]
      exact evalLevel_congr fun t ht => ih t.length ht.length_lt t rfl

/-! ### Scripts -/

/-- The value of a script below which at most `depth` levels may lie. -/
def evalWithin (ctx : Context) (depth : Nat) (source : Text) : Except EvalFault Value :=
  evalAt ctx depth (depth + 1) source

theorem evalWithin_eq {depth depth' : Nat} (h : depth ≤ depth')
    (hne : evalWithin ctx depth s ≠ .error (.nestedTooDeep depth)) :
    evalWithin ctx depth' s = evalWithin ctx depth s :=
  ((evalAt_cutShort (Nat.succ_le_succ h)).resolve_left hne).1.symm

theorem evalWithin_ne {depth : Nat} (h : s.length ≤ depth) (n : Nat) :
    evalWithin ctx depth s ≠ .error (.nestedTooDeep n) :=
  evalAt_ne_nestedTooDeep (Nat.lt_succ_of_le h) n

theorem mapError_evaluation_eq {x : Except EvalFault α} {fault : EvalFault} :
    x.mapError EvalError.evaluation = .error (.evaluation fault) ↔ x = .error fault := by
  cases x with
  | ok a => exact iff_of_false (by rintro ⟨⟩) (by rintro ⟨⟩)
  | error e =>
      change Except.error (EvalError.evaluation e) = _ ↔ _
      rw [Except.error.injEq, EvalError.evaluation.injEq, Except.error.injEq]

theorem evaluate_cases (limits : Limits) (ctx : Context) (source : Text) :
    (∃ construct, ∀ depth,
      evaluate { limits with depth := depth } ctx source = .error (.notAllowed construct)) ∨
    ∀ depth, evaluate { limits with depth := depth } ctx source =
      (evalWithin ctx depth source).mapError .evaluation := by
  cases hrefused : refused? limits.deniedWords source with
  | some construct =>
      refine .inl ⟨construct, fun depth => ?_⟩
      rw [evaluate, check, hrefused]
      rfl
  | none =>
      refine .inr fun depth => ?_
      rw [evaluate, check, hrefused]
      rfl

/-- The limit of levels only ever cuts an evaluation short. With a greater one a script that was
not cut short has the same value or the same error, and none is cut short when there are as many
levels as it has characters. For every text that is evaluated on the way is shorter than the one
before, so that there is one way to evaluate without a limit, which always comes to an end. -/
theorem depth_cuts_short (limits : Limits) (ctx : Context) (source : Text) :
    (∀ depth depth', depth ≤ depth' →
      evalWithin ctx depth source ≠ .error (.nestedTooDeep depth) →
        evalWithin ctx depth' source = evalWithin ctx depth source) ∧
    (∀ depth depth', depth ≤ depth' →
      evaluate { limits with depth := depth } ctx source ≠
          .error (.evaluation (.nestedTooDeep depth)) →
        evaluate { limits with depth := depth' } ctx source =
          evaluate { limits with depth := depth } ctx source) ∧
    (∀ depth, source.length ≤ depth → ∀ n,
      evalWithin ctx depth source ≠ .error (.nestedTooDeep n) ∧
        evaluate { limits with depth := depth } ctx source ≠
          .error (.evaluation (.nestedTooDeep n))) ∧
    (∀ s t, IsPart ctx s t → t.length < s.length) ∧
    (∀ s eval eval', (∀ t, IsPart ctx s t → eval t = eval' t) →
      evalLevel ctx eval s = evalLevel ctx eval' s) ∧
    ∃! eval, ∀ s, eval s = evalLevel ctx eval s := by
  refine ⟨fun _ _ => evalWithin_eq, ?_, ?_, fun s t => IsPart.length_lt,
    fun s eval eval' => evalLevel_congr, ?_⟩
  · intro depth depth' h hne
    obtain ⟨construct, hrefused⟩ | hvalue := evaluate_cases limits ctx source
    · rw [hrefused, hrefused]
    · rw [hvalue, Ne, mapError_evaluation_eq] at hne
      rw [hvalue, hvalue, evalWithin_eq h hne]
  · intro depth h n
    refine ⟨evalWithin_ne h n, ?_⟩
    obtain ⟨construct, hrefused⟩ | hvalue := evaluate_cases limits ctx source
    · rw [hrefused]
      rintro ⟨⟩
    · rw [hvalue, Ne, mapError_evaluation_eq]
      exact evalWithin_ne h n
  · exact ⟨evalFully ctx, evalFully_eq ctx, fun eval => eq_evalFully⟩

/-- A name in a call in a call: two levels below the script are needed, and with them or more the
value is always the same. -/
theorem depth_cuts_short_nested :
    let source := Text.lit "trim(trim(title))"
    let ctx := (Context.operations default).set (Text.lit "title") (.text (Text.lit "abc "))
    evalWithin ctx 1 source = .error (.nestedTooDeep 1) ∧
      evalWithin ctx 2 source ≠ .error (.nestedTooDeep 2) ∧
        ∀ depth, 2 ≤ depth → evalWithin ctx depth source = .ok (.text (Text.lit "abc")) := by
  intro source ctx
  have houter : Shape.of? ctx (Text.trim source) =
      some (.call (Text.lit "trim") none [Text.lit "trim(title)"]) := by decide +kernel
  have hinner : Shape.of? ctx (Text.trim (Text.lit "trim(title)")) =
      some (.call (Text.lit "trim") none [Text.lit "title"]) := by decide +kernel
  have hname : Shape.of? ctx (Text.trim (Text.lit "title")) =
      some (.identifier (Text.lit "title")) := by decide +kernel
  have hone : evalWithin ctx 1 source = .error (.nestedTooDeep 1) := by
    simp only [evalWithin, evalAt, houter, Shape.value, Option.toList, List.nil_append,
      List.mapM_cons, hinner]
    rfl
  have htwo : evalWithin ctx 2 source = .ok (.text (Text.lit "abc")) := by
    simp only [evalWithin, evalAt, houter, Shape.value, Option.toList, List.nil_append,
      List.mapM_cons, hinner, hname]
    rfl
  have hne : evalWithin ctx 2 source ≠ .error (.nestedTooDeep 2) := by
    rw [htwo]
    rintro ⟨⟩
  refine ⟨hone, hne, fun depth h => ?_⟩
  rw [(depth_cuts_short {} ctx source).1 2 depth h hne, htwo]

end CopyFormat.Script

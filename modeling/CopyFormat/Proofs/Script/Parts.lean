import CopyFormat.Proofs.Script.Branches
import CopyFormat.Proofs.Script.Guard
import CopyFormat.Proofs.Script.Parentheses
import CopyFormat.Script.Eval

/-!
The parts of a script. A script is only ever cut at separators, so that its parts are excerpts of
it, and its value depends on the values of nothing but its parts.
-/

namespace CopyFormat.Script

variable {ctx : Context} {eval eval' : Text → Except EvalFault Value} {s t : Text}

/-! ### Places of delimiters -/

theorem exists_of_getElem?_marks {ms : List Mark} (hs : ms.map Mark.char = s) {k : Nat} {c : Char}
    (hm : ms[k]? = some ⟨c, true⟩) :
    ∃ before behind, s = before ++ c :: behind ∧ before.length = k := by
  have hchar : s[k]? = some c := by
    rw [← hs, List.getElem?_map, hm]
    rfl
  obtain ⟨hk, hget⟩ := List.getElem?_eq_some_iff.mp hchar
  refine ⟨s.take k, s.drop (k + 1), ?_, by rw [List.length_take]; omega⟩
  rw [← hget, ← List.drop_eq_getElem_cons hk, List.take_append_drop]

theorem exists_of_matchingClose {k : Nat} (h : matchingClose s = some k) :
    ∃ before behind, s = before ++ ')' :: behind ∧ before.length = k := by
  exact exists_of_getElem?_marks (marks_map_char s) (closeAmong_getElem? h)

theorem exists_of_branchColon {k : Nat} (h : branchColon s = some k) :
    ∃ before behind, s = before ++ ':' :: behind ∧ before.length = k := by
  obtain ⟨⟨hcolon, -⟩, -⟩ := branchColon_eq_some_iff.mp h
  exact exists_of_getElem?_marks (topMarks_map_char s) hcolon

theorem exists_of_trailingOpen {k : Nat} (h : trailingOpen s = some k) :
    ∃ before inner, s = before ++ '(' :: (inner ++ [')']) ∧ before.length = k := by
  obtain ⟨hopen, -⟩ := trailingOpen_eq_some_iff.mp h
  obtain ⟨before, behind, hs, hlength⟩ := exists_of_getElem?_marks (marks_map_char s) hopen
  have hclose := getLast?_of_trailingOpen h
  -- the text ends with another parenthesis than the one found, so that one is not the last
  rcases List.eq_nil_or_concat behind with rfl | ⟨inner, d, rfl⟩
  · rw [hs, List.getLast?_concat] at hclose
    cases hclose
  · rw [hs, List.concat_eq_append, ← List.cons_append, ← List.append_assoc,
      List.getLast?_concat] at hclose
    cases hclose
    exact ⟨before, inner, by rw [hs, List.concat_eq_append], hlength⟩

theorem excerpt_of_mem_splitTop {c : Char} (hc : isSeparator c = true) (h : t ∈ splitTop c s) :
    Excerpt s t := by
  obtain ⟨part, hpart, rfl⟩ := List.mem_map.mp h
  obtain ⟨hcut, -⟩ := Text.cutOut_of_mem_stretches hpart
  have hmap : Excerpt ((topMarks s).map Mark.char) (part.map Mark.char) :=
    hcut.map fun m hm => by rwa [(Mark.is_iff.mp hm).2]
  rwa [topMarks_map_char] at hmap

/-! ### Where shapes are cut -/

theorem drop_succ_length {α : Type} (l : List α) (a : α) (r : List α) :
    (l ++ a :: r).drop (l.length + 1) = r := by
  rw [← List.singleton_append, ← List.append_assoc, List.drop_left' (by simp)]

theorem exists_of_choice? {shape : Shape} (h : Shape.choice? s = some shape) :
    ∃ u c v a b, s = ['i', 'f'] ++ (u ++ '(' :: (c ++ ')' :: (v ++ '?' :: (a ++ ':' :: b)))) ∧
      shape = .choice (Text.trim c) (Text.trim a) (Text.trim b) := by
  obtain ⟨r, hr, hshape⟩ := Option.bind_eq_some_iff.mp h
  obtain ⟨u, -, hu⟩ := Text.exists_trimStart r
  rw [Text.after?_eq_some hr, hu]
  generalize Text.trimStart r = rest at hshape ⊢
  by_cases hhead : rest.head? = some '('
  · obtain ⟨rest, rfl⟩ := List.head?_eq_some_iff.mp hhead
    obtain ⟨close, hclose, hbehind⟩ := Option.bind_eq_some_iff.mp hshape
    obtain ⟨branches, hbranches, hcolons⟩ := Option.bind_eq_some_iff.mp hbehind
    obtain ⟨colon, hcolon, hparts⟩ := Option.bind_eq_some_iff.mp hcolons
    obtain ⟨before, behind, hrest, rfl⟩ := exists_of_matchingClose hclose
    obtain ⟨a, b, rfl, rfl⟩ := exists_of_branchColon hcolon
    obtain ⟨v, -, hv⟩ := Text.exists_trimStart behind
    rw [hrest] at hbranches hparts
    rw [drop_succ_length] at hbranches
    rw [Text.after?_eq_some hbranches] at hv
    cases before with
    | nil => cases hrest
    | cons d c =>
        obtain ⟨rfl, rfl⟩ := List.cons.inj hrest
        refine ⟨u, c, v, a, b, by rw [hv]; rfl, ?_⟩
        simpa using hparts.symm
  · simp [hhead] at hshape

theorem exists_of_lengthForm? {target : Text} {comparison : Comparison} {bound : Nat}
    (h : Shape.lengthForm? s = some (target, comparison, bound)) :
    ∃ before behind, s = before ++ '.' :: behind ∧ target = Text.trim before := by
  obtain ⟨⟨before, tail⟩, hcut, hform⟩ := Option.bind_eq_some_iff.mp h
  obtain ⟨hs, -⟩ := Text.lastCut?_eq_some hcut
  dsimp only at hform
  split at hform
  · cases hform
  · obtain ⟨⟨_, _⟩, -, hform⟩ := Option.bind_eq_some_iff.mp hform
    cases hform
    exact ⟨before, Text.lit "length" ++ tail, by rw [hs, List.append_assoc]; rfl, rfl⟩

theorem exists_of_substring?_cut {shape : Shape} (h : Shape.substring? s = some shape) :
    ∃ before behind start stop, s = before ++ '.' :: behind ∧
      shape = .substring (Text.trim before) start stop := by
  obtain ⟨⟨before, tail⟩, hcut, hshape⟩ := Option.bind_eq_some_iff.mp h
  obtain ⟨hs, -⟩ := Text.lastCut?_eq_some hcut
  dsimp only at hshape
  split at hshape
  · cases hshape
  · obtain ⟨⟨start, stop⟩, -, hshape⟩ := Option.bind_eq_some_iff.mp hshape
    cases hshape
    exact ⟨before, Text.lit "substring(" ++ tail, start, stop, by
      rw [hs, List.append_assoc]; rfl, rfl⟩

theorem exists_of_includes? {target needle : Text}
    (h : Shape.includes? s = some (target, needle)) :
    ∃ word, s = target ++ '.' :: (word ++ '(' :: (needle ++ [')'])) := by
  obtain ⟨⟨before, tail⟩, hcut, hparts⟩ := Option.bind_eq_some_iff.mp h
  obtain ⟨hs, htail⟩ := Text.lastCut?_eq_some hcut
  dsimp only at hparts
  split at hparts
  · cases hparts
  · cases hparts
    rw [Bool.and_eq_true, beq_iff_eq] at htail
    obtain ⟨needle, rfl⟩ := List.getLast?_eq_some_iff.mp htail.2
    exact ⟨Text.lit "includes", by rw [hs, List.dropLast_concat, List.append_assoc]; rfl⟩

theorem callee_cases (head : Text) :
    (∃ before behind, head = before ++ '.' :: behind ∧
      Shape.callee head = (some (Text.trim before), Text.trim behind)) ∨
    Shape.callee head = (none, Text.trim head) := by
  rw [Shape.callee]
  split
  · rename_i before behind hcut
    obtain ⟨rfl, -⟩ := Text.lastCut?_eq_some hcut
    exact .inl ⟨before, behind, by rw [List.append_assoc]; rfl, rfl⟩
  · exact .inr rfl

theorem exists_of_call? {shape : Shape} (h : Shape.call? ctx s = some shape) :
    ∃ head inner arguments, s = head ++ '(' :: (inner ++ [')']) ∧
      shape = .call (Shape.callee head).2 (Shape.callee head).1 arguments ∧
      ∀ t ∈ arguments, ∃ u ∈ splitTop ',' (Text.trim inner), t = Text.trim u := by
  obtain ⟨place, hplace, hparts⟩ := Option.bind_eq_some_iff.mp h
  obtain ⟨head, inner, hs, rfl⟩ := exists_of_trailingOpen hplace
  rw [hs, drop_succ_length, List.take_left, List.dropLast_concat] at hparts
  generalize hcallee : Shape.callee head = parts at hparts
  dsimp only at hparts
  split at hparts
  · cases hparts
  · split at hparts
    · cases hparts
    · cases hparts
      refine ⟨head, inner, _, hs, by rw [hcallee], fun t ht => ?_⟩
      split at ht
      · cases ht
      · obtain ⟨u, hu, rfl⟩ := List.mem_map.mp ht
        exact ⟨u, hu, rfl⟩

/-! ### Excerpts -/

namespace Shape

def texts : Shape → List Text
  | .choice condition accepted refused => [condition, accepted, refused]
  | .length target _ _ => [target]
  | .substring target _ _ => [target]
  | .identifier name => [name]
  | .call name receiver arguments => name :: (receiver.toList ++ arguments)
  | .literal _ => []
  | .arithmetic source => [source]

theorem excerpt_of_choice? {shape : Shape} (h : choice? s = some shape) (ht : t ∈ shape.texts) :
    Excerpt s t := by
  obtain ⟨u, c, v, a, b, rfl, rfl⟩ := exists_of_choice? h
  have hopen : Excerpt (['i', 'f'] ++ (u ++ '(' :: (c ++ ')' :: (v ++ '?' :: (a ++ ':' :: b)))))
      (c ++ ')' :: (v ++ '?' :: (a ++ ':' :: b))) := by
    rw [← List.append_assoc]
    exact .behind (by decide) _ _
  have hbranches : Excerpt (c ++ ')' :: (v ++ '?' :: (a ++ ':' :: b))) (a ++ ':' :: b) := by
    rw [← List.cons_append, ← List.append_assoc]
    exact .behind (by decide) _ _
  simp only [texts, List.mem_cons, List.not_mem_nil, or_false] at ht
  rcases ht with rfl | rfl | rfl
  · exact (hopen.trans (.before (by decide) _ _)).trans (excerpt_trim c)
  · exact ((hopen.trans hbranches).trans (.before (by decide) _ _)).trans (excerpt_trim a)
  · exact ((hopen.trans hbranches).trans (.behind (by decide) _ _)).trans (excerpt_trim b)

theorem excerpt_of_lengthForm? {comparison : Comparison} {bound : Nat}
    (h : lengthForm? s = some (t, comparison, bound)) : Excerpt s t := by
  obtain ⟨before, behind, rfl, rfl⟩ := exists_of_lengthForm? h
  exact (Text.CutOut.before (by decide) before behind).trans (excerpt_trim before)

theorem excerpt_of_includes? {target needle : Text} (h : includes? s = some (target, needle)) :
    Excerpt s target ∧ Excerpt s needle := by
  obtain ⟨word, rfl⟩ := exists_of_includes? h
  refine ⟨.before (by decide) _ _, ?_⟩
  have hbehind : Excerpt (target ++ '.' :: (word ++ '(' :: (needle ++ [')'])))
      (needle ++ [')']) := by
    rw [← List.cons_append, ← List.append_assoc]
    exact .behind (by decide) _ _
  exact hbehind.trans (.before (by decide) needle [])

theorem excerpt_of_length? {shape : Shape} (h : length? ctx s = some shape)
    (ht : t ∈ shape.texts) : Excerpt s t := by
  obtain ⟨⟨target, comparison, bound⟩, hform, hshape⟩ := Option.bind_eq_some_iff.mp h
  dsimp only at hshape
  split at hshape
  · cases hshape
    rw [List.mem_singleton.mp ht]
    exact excerpt_of_lengthForm? hform
  · cases hshape

theorem excerpt_of_substring? {shape : Shape} (h : substring? s = some shape)
    (ht : t ∈ shape.texts) : Excerpt s t := by
  obtain ⟨before, behind, start, stop, rfl, rfl⟩ := exists_of_substring?_cut h
  rw [List.mem_singleton.mp ht]
  exact (Text.CutOut.before (by decide) before behind).trans (excerpt_trim before)

theorem excerpt_callee (head : Text) : Excerpt head (callee head).2 := by
  obtain ⟨before, behind, hdot, hcallee⟩ | hcallee := callee_cases head
  · rw [hcallee]
    rw [hdot]
    exact (Text.CutOut.behind (by decide) before behind).trans (excerpt_trim behind)
  · rw [hcallee]
    exact excerpt_trim head

theorem excerpt_of_receiver {head : Text} (ht : t ∈ (callee head).1) : Excerpt head t := by
  obtain ⟨before, behind, hdot, hcallee⟩ | hcallee := callee_cases head
  · rw [hcallee, Option.mem_some_iff] at ht
    rw [← ht, hdot]
    exact (Text.CutOut.before (by decide) before behind).trans (excerpt_trim before)
  · rw [hcallee] at ht
    cases ht

theorem excerpt_of_call? {shape : Shape} (h : call? ctx s = some shape) (ht : t ∈ shape.texts) :
    Excerpt s t := by
  obtain ⟨head, inner, arguments, rfl, rfl, harguments⟩ := exists_of_call? h
  have hhead : Excerpt (head ++ '(' :: (inner ++ [')'])) head := .before (by decide) _ _
  have hinner : Excerpt (head ++ '(' :: (inner ++ [')'])) inner :=
    (Text.CutOut.behind (by decide) head _).trans (.before (by decide) inner [])
  rw [texts, List.mem_cons, List.mem_append] at ht
  rcases ht with rfl | ht | ht
  · exact hhead.trans (excerpt_callee head)
  · exact hhead.trans (excerpt_of_receiver (Option.mem_toList.mp ht))
  · obtain ⟨u, hu, rfl⟩ := harguments t ht
    exact ((hinner.trans (excerpt_trim inner)).trans
      (excerpt_of_mem_splitTop (by decide) hu)).trans (excerpt_trim u)

theorem of?_cases {shape : Shape} (h : of? ctx s = some shape) :
    choice? s = some shape ∨ length? ctx s = some shape ∨ substring? s = some shape ∨
      identifier? ctx s = some shape ∨ call? ctx s = some shape ∨ literal? s = some shape ∨
        arithmetic? s = some shape := by
  simp only [of?, operand?, Option.orElse_eq_some] at h
  tauto

/-- A text is cut into the texts of its shape at separators. -/
theorem excerpt_of_mem_texts {shape : Shape} (h : of? ctx s = some shape)
    (ht : t ∈ shape.texts) : Excerpt s t := by
  rcases of?_cases h with h | h | h | h | h | h | h
  · exact excerpt_of_choice? h ht
  · exact excerpt_of_length? h ht
  · exact excerpt_of_substring? h ht
  · rw [identifier?] at h
    split at h
    · cases h
      rw [List.mem_singleton.mp ht]
      exact .refl _ _
    · cases h
  · exact excerpt_of_call? h ht
  · obtain ⟨u, -, rfl⟩ := Option.map_eq_some_iff.mp h
    cases ht
  · rw [arithmetic?] at h
    split at h
    · cases h
      rw [List.mem_singleton.mp ht]
      exact .refl _ _
    · cases h

/-! ### Parts -/

/-- The texts that testing a condition can evaluate. -/
def conditionParts (condition : Text) : List Text :=
  (lengthForm? condition).toList.map Prod.fst ++
    (includes? condition).toList.flatMap fun p => [p.1, p.2]

/-- The texts that finding the value of a shape can evaluate. -/
def parts : Shape → List Text
  | .choice condition accepted refused => conditionParts condition ++ [accepted, refused]
  | .length target _ _ => [target]
  | .substring target _ _ => [target]
  | .call _ receiver arguments => receiver.toList ++ arguments
  | .identifier _ => []
  | .literal _ => []
  | .arithmetic _ => []

theorem mem_conditionParts_of_length? {condition target : Text} {comparison : Comparison}
    {bound : Nat} (h : length? ctx condition = some (.length target comparison bound)) :
    target ∈ conditionParts condition := by
  obtain ⟨⟨target, comparison, bound⟩, hform, hshape⟩ := Option.bind_eq_some_iff.mp h
  dsimp only at hshape
  split at hshape
  · cases hshape
    rw [conditionParts, hform]
    exact List.mem_append_left _ List.mem_cons_self
  · cases hshape

theorem mem_conditionParts_of_includes? {condition target needle : Text}
    (h : includes? condition = some (target, needle)) :
    target ∈ conditionParts condition ∧ needle ∈ conditionParts condition := by
  rw [conditionParts, h]
  simp

theorem excerpt_of_mem_conditionParts {condition : Text} (h : t ∈ conditionParts condition) :
    Excerpt condition t := by
  rcases List.mem_append.mp h with h | h
  · obtain ⟨⟨target, comparison, bound⟩, hform, rfl⟩ := List.mem_map.mp h
    exact excerpt_of_lengthForm? (Option.mem_toList.mp hform)
  · obtain ⟨⟨target, needle⟩, hparts, ht⟩ := List.mem_flatMap.mp h
    obtain ⟨htarget, hneedle⟩ := excerpt_of_includes? (Option.mem_toList.mp hparts)
    simp only [List.mem_cons, List.not_mem_nil, or_false] at ht
    rcases ht with rfl | rfl
    · exact htarget
    · exact hneedle

theorem excerpt_of_mem_parts {shape : Shape} (h : of? ctx s = some shape)
    (ht : t ∈ shape.parts) : Excerpt s t := by
  cases shape with
  | choice condition accepted refused =>
      have htexts : ∀ u ∈ [condition, accepted, refused], Excerpt s u :=
        fun u hu => excerpt_of_mem_texts h hu
      rcases List.mem_append.mp ht with ht | ht
      · exact (htexts condition List.mem_cons_self).trans (excerpt_of_mem_conditionParts ht)
      · exact htexts t (List.mem_cons_of_mem _ ht)
  | length target comparison bound => exact excerpt_of_mem_texts h ht
  | substring target start stop => exact excerpt_of_mem_texts h ht
  | call name receiver arguments => exact excerpt_of_mem_texts h (List.mem_cons_of_mem _ ht)
  | identifier name => cases ht
  | literal u => cases ht
  | arithmetic source => cases ht

end Shape

/-! ### Values -/

theorem compareLength_congr {target : Text} (h : eval target = eval' target)
    (comparison : Comparison) (bound : Nat) :
    compareLength eval target comparison bound = compareLength eval' target comparison bound := by
  rw [compareLength, compareLength, h]

theorem holds_congr {condition : Text}
    (h : ∀ t ∈ Shape.conditionParts condition, eval t = eval' t) :
    holds ctx eval condition = holds ctx eval' condition := by
  unfold holds
  split
  · rfl
  · split
    · rename_i target comparison bound hlength
      exact compareLength_congr (h target (Shape.mem_conditionParts_of_length? hlength)) _ _
    · rename_i target needle hincludes _
      obtain ⟨htarget, hneedle⟩ := Shape.mem_conditionParts_of_includes? hincludes
      rw [h target htarget, h needle hneedle]
    · rfl

theorem mapM_congr {ts : List Text} (h : ∀ t ∈ ts, eval t = eval' t) :
    ts.mapM eval = ts.mapM eval' := by
  induction ts with
  | nil => rfl
  | cons t ts ih =>
      rw [List.mapM_cons, List.mapM_cons, h t List.mem_cons_self,
        ih fun u hu => h u (List.mem_cons_of_mem t hu)]

theorem Shape.value_congr {shape : Shape} (h : ∀ t ∈ shape.parts, eval t = eval' t) :
    shape.value ctx eval = shape.value ctx eval' := by
  cases shape with
  | choice condition accepted refused =>
      have hcondition : holds ctx eval condition = holds ctx eval' condition :=
        holds_congr fun t ht => h t (List.mem_append_left _ ht)
      have haccepted : eval accepted = eval' accepted :=
        h accepted (List.mem_append_right _ List.mem_cons_self)
      have hrefused : eval refused = eval' refused :=
        h refused (List.mem_append_right _ (List.mem_cons_of_mem _ List.mem_cons_self))
      rw [value, value, hcondition, haccepted, hrefused]
  | length target comparison bound =>
      rw [value, value, compareLength_congr (h target List.mem_cons_self)]
  | substring target start stop => rw [value, value, h target List.mem_cons_self]
  | call name receiver arguments =>
      have hvalues : (receiver.toList ++ arguments).mapM eval =
          (receiver.toList ++ arguments).mapM eval' := mapM_congr h
      rw [value, value, hvalues]
  | identifier name => rfl
  | literal u => rfl
  | arithmetic source => rfl

end CopyFormat.Script

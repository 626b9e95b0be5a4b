import CopyFormat.Proofs.Json.Normal

/-!
What a value becomes when it is written and then read. Nothing of it can change but its numbers:
one with a fraction or an exponent may come back as a neighbour of what it was, and a text with a
number that is too large cannot be read.
-/

namespace CopyFormat.Json

variable {p : Number → Prop} {d : Nat} {v w : Json}

/-- What a number is read back as, if it can be. -/
def Number.reread? (n : Number) : Option Json := parse n.print

/-- Whether a number is read back as what it is. -/
def Number.Exact (n : Number) : Prop := n.reread? = some (.number n)

def Number.Rereadable (n : Number) : Prop := ∃ w, n.reread? = some w

mutual

/-- The value with every number as it is read back, if all can be. -/
def reread? : Json → Option Json
  | .null => some .null
  | .bool b => some (.bool b)
  | .number n => n.reread?
  | .text t => some (.text t)
  | .array items => (rereadItems? items).map .array
  | .object fields => (rereadFields? fields).map .object

def rereadItems? : List Json → Option (List Json)
  | [] => some []
  | v :: r => do return (← reread? v) :: (← rereadItems? r)

def rereadFields? : List (Text × Json) → Option Fields
  | [] => some []
  | (k, v) :: r => do return (k, ← reread? v) :: (← rereadFields? r)

end

theorem parse_numberText {t : Text} (ht : IsNumberText t) :
    parse t = (Number.ofText? t).map .number := by
  have hend : EndsNumber [] := by
    intro c hc
    cases hc
  have htoken := token?_numberText ht hend
  obtain ⟨c, hhead, hc⟩ := ht.head
  obtain ⟨r, rfl⟩ := List.head?_eq_some_iff.mp hhead
  have hspace : isSpace c = false := by
    rcases hc with hc | rfl
    · exact isSpace_of_isDigit hc
    · decide
  rw [List.append_nil] at htoken
  rw [parse, List.length_cons, tokens, List.dropWhile_cons_of_neg (by simp [hspace])]
  dsimp only
  rw [htoken]
  cases Number.ofText? (c :: r) with
  | none => rfl
  | some n =>
      have hnothing : tokens r.length [] = some [] := by cases r.length <;> rfl
      simp [hnothing, Machine.step, Machine.begin, Machine.put]

theorem Number.reread?_cases (n : Number) {rest : Text} (hrest : EndsNumber rest) :
    (n.reread? = none ∧ token? (n.print ++ rest) = none) ∨
      ∃ w k, n.reread? = some w ∧ token? (n.print ++ rest) = some (k, rest) ∧
        ∀ m : Machine, m.Awaits → m.step k = some (Machine.put m.frames w) := by
  rw [Number.reread?]
  rcases n.print_cases with hn | hn | hn
  · rw [parse_numberText hn, token?_numberText hn hrest]
    cases Number.ofText? n.print with
    | none => exact .inl ⟨rfl, rfl⟩
    | some m => exact .inr ⟨_, _, rfl, rfl, fun m hm => hm.step_eq (by simp)⟩
  · rw [hn]
    exact .inr ⟨.null, .null, rfl, rfl, fun m hm => hm.step_eq (by simp)⟩
  · rw [hn]
    exact .inl ⟨rfl, rfl⟩

theorem Number.IsInteger.isNumberText {n : Number} (h : n.IsInteger) : IsNumberText n.print := by
  cases n with
  | whole n => exact isNumberText_wholeText n
  | real x =>
      cases h
      exact ⟨List.all_eq_true.mp (by decide), '-', rfl, .inr rfl⟩

theorem Number.IsInteger.exact {n : Number} (h : n.IsInteger) : n.Exact := by
  rw [Number.Exact, Number.reread?, parse_numberText h.isNumberText, h.ofText?_print]
  rfl

theorem rereadItems?_cons {items items' : List Json} :
    rereadItems? (v :: items) = some items' ↔
      ∃ w r, reread? v = some w ∧ rereadItems? items = some r ∧ w :: r = items' := by
  simp [rereadItems?, Option.bind_eq_some_iff]

theorem rereadFields?_cons {key : Text} {fields fields' : Fields} :
    rereadFields? ((key, v) :: fields) = some fields' ↔
      ∃ w r, reread? v = some w ∧ rereadFields? fields = some r ∧ (key, w) :: r = fields' := by
  simp [rereadFields?, Option.bind_eq_some_iff]

theorem rereadItems?_eq_none {items : List Json} (hw : reread? v = some w)
    (h : rereadItems? (v :: items) = none) : rereadItems? items = none := by
  cases hr : rereadItems? items with
  | none => rfl
  | some r =>
      rw [rereadItems?_cons.mpr ⟨w, r, hw, hr, rfl⟩] at h
      cases h

theorem rereadFields?_eq_none {key : Text} {fields : Fields} (hw : reread? v = some w)
    (h : rereadFields? ((key, v) :: fields) = none) : rereadFields? fields = none := by
  cases hr : rereadFields? fields with
  | none => rfl
  | some r =>
      rw [rereadFields?_cons.mpr ⟨w, r, hw, hr, rfl⟩] at h
      cases h

theorem rereadItems?_eq_self {items : List Json} (h : ∀ v ∈ items, reread? v = some v) :
    rereadItems? items = some items := by
  induction items with
  | nil => rfl
  | cons v items ih =>
      obtain ⟨hv, hitems⟩ := List.forall_mem_cons.mp h
      exact rereadItems?_cons.mpr ⟨v, items, hv, ih hitems, rfl⟩

theorem rereadFields?_eq_self {fields : Fields} (h : ∀ f ∈ fields, reread? f.2 = some f.2) :
    rereadFields? fields = some fields := by
  induction fields with
  | nil => rfl
  | cons f fields ih =>
      obtain ⟨hf, hfields⟩ := List.forall_mem_cons.mp h
      exact rereadFields?_cons.mpr ⟨f.2, fields, hf, ih hfields, rfl⟩

theorem Normal.reread?_eq_self (h : Normal Number.Exact d v) : reread? v = some v := by
  induction h with
  | null => rfl
  | bool b => rfl
  | number hn => exact hn
  | text t => rfl
  | array _ ih => rw [reread?, rereadItems?_eq_self ih]; rfl
  | object _ _ ih => rw [reread?, rereadFields?_eq_self ih]; rfl

theorem exists_rereadItems? {items : List Json} (h : ∀ v ∈ items, ∃ w, reread? v = some w) :
    ∃ r, rereadItems? items = some r := by
  induction items with
  | nil => exact ⟨_, rfl⟩
  | cons v items ih =>
      obtain ⟨⟨w, hw⟩, hitems⟩ := List.forall_mem_cons.mp h
      obtain ⟨r, hr⟩ := ih hitems
      exact ⟨_, rereadItems?_cons.mpr ⟨w, r, hw, hr, rfl⟩⟩

theorem exists_rereadFields? {fields : Fields} (h : ∀ f ∈ fields, ∃ w, reread? f.2 = some w) :
    ∃ r, rereadFields? fields = some r := by
  induction fields with
  | nil => exact ⟨_, rfl⟩
  | cons f fields ih =>
      obtain ⟨⟨w, hw⟩, hfields⟩ := List.forall_mem_cons.mp h
      obtain ⟨r, hr⟩ := ih hfields
      exact ⟨_, rereadFields?_cons.mpr ⟨w, r, hw, hr, rfl⟩⟩

theorem Normal.exists_reread? (h : Normal Number.Rereadable d v) : ∃ w, reread? v = some w := by
  induction h with
  | null => exact ⟨_, rfl⟩
  | bool b => exact ⟨_, rfl⟩
  | number hn => exact hn
  | text t => exact ⟨_, rfl⟩
  | array _ ih =>
      obtain ⟨r, hr⟩ := exists_rereadItems? ih
      exact ⟨.array r, by rw [reread?, hr]; rfl⟩
  | object _ _ ih =>
      obtain ⟨r, hr⟩ := exists_rereadFields? ih
      exact ⟨.object r, by rw [reread?, hr]; rfl⟩

theorem field?_rereadFields? {fields fields' : Fields} (h : rereadFields? fields = some fields')
    (key : Text) : field? key fields' = (field? key fields).bind reread? := by
  induction fields generalizing fields' with
  | nil =>
      cases h
      rfl
  | cons f fields ih =>
      obtain ⟨k, v⟩ := f
      obtain ⟨w, r, hw, hr, rfl⟩ := rereadFields?_cons.mp h
      rw [field?_cons, field?_cons]
      by_cases hk : k = key
      · rw [if_pos hk, if_pos hk]
        exact hw.symm
      · rw [if_neg hk, if_neg hk, ih hr]

end CopyFormat.Json

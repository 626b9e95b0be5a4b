import CopyFormat.Proofs.Json.Reread

/-!
Values that are written over several lines are read back as they were, but for their numbers, each
of which is read back from its own text. So nothing changes in a value whose numbers are integers.
-/

namespace CopyFormat.Json

variable {m m₁ m₂ : Machine} {t u rest : Text} {d level : Nat} {v w : Json}

/-! ### Reading a stretch of text -/

/-- The machine comes from the first state to the second one while it reads the first text up to
the second one. -/
inductive Reads : Machine → Text → Machine → Text → Prop
  | refl {m : Machine} {t : Text} : Reads m t m t
  | space {m m' : Machine} {t rest : Text} {c : Char} (hc : isSpace c = true)
      (h : Reads m t m' rest) : Reads m (c :: t) m' rest
  | token {m m₁ m' : Machine} {u t rest : Text} {k : Token}
      (hspace : ∀ c, u.head? = some c → isSpace c = false) (hlength : t.length < u.length)
      (htoken : token? u = some (k, t)) (hstep : m.step k = some m₁) (h : Reads m₁ t m' rest) :
      Reads m u m' rest

theorem Reads.trans (h : Reads m t m₁ u) (h' : Reads m₁ u m₂ rest) : Reads m t m₂ rest := by
  induction h with
  | refl => exact h'
  | space hc _ ih => exact .space hc (ih h')
  | token hspace hlength htoken hstep _ ih => exact .token hspace hlength htoken hstep (ih h')

theorem tokens_space {c : Char} (hc : isSpace c = true) (fuel : Nat) (t : Text) :
    tokens fuel (c :: t) = tokens fuel t := by
  cases fuel with
  | zero => rw [tokens, tokens, List.dropWhile_cons_of_pos hc]
  | succ fuel => rw [tokens, tokens, List.dropWhile_cons_of_pos hc]

theorem Reads.exists_tokens (h : Reads m t m₁ []) {fuel : Nat} (hfuel : t.length ≤ fuel) :
    ∃ ks, tokens fuel t = some ks ∧ ks.foldlM Machine.step m = some m₁ := by
  generalize hrest : ([] : Text) = rest at h
  induction h generalizing fuel with
  | refl =>
      subst hrest
      refine ⟨[], ?_, rfl⟩
      cases fuel <;> rfl
  | space hc _ ih =>
      obtain ⟨ks, hks, hfold⟩ := ih (Nat.le_of_succ_le hfuel) hrest
      exact ⟨ks, by rw [tokens_space hc, hks], hfold⟩
  | @token m m₁ m' u t rest k hspace hlength htoken hstep _ ih =>
      obtain ⟨fuel, rfl⟩ : ∃ n, fuel = n + 1 := ⟨fuel - 1, by omega⟩
      obtain ⟨ks, hks, hfold⟩ := ih (show t.length ≤ fuel by omega) hrest
      refine ⟨k :: ks, ?_, ?_⟩
      · obtain ⟨c, r, rfl⟩ : ∃ c r, u = c :: r := List.exists_cons_of_length_pos (by omega)
        rw [tokens, List.dropWhile_cons_of_neg (by simp [hspace c rfl])]
        simp [htoken, hks]
      · rw [List.foldlM_cons, hstep]
        exact hfold

/-! ### Single tokens -/

theorem endsNumber_cons {c : Char} (hc : isNumberChar c = false) (t : Text) :
    EndsNumber (c :: t) := by
  intro d hd
  cases hd
  exact hc

theorem endsNumber_breakLine (level : Nat) (t : Text) : EndsNumber (breakLine level ++ t) :=
  endsNumber_cons (by decide) _

theorem Reads.one {w : Text} {c : Char} {k : Token} (hw : w.head? = some c)
    (hc : isSpace c = false) (htoken : token? (w ++ t) = some (k, t))
    (hstep : m.step k = some m₁) : Reads m (w ++ t) m₁ t := by
  obtain ⟨r, rfl⟩ := List.head?_eq_some_iff.mp hw
  refine .token ?_ (by simp) htoken hstep .refl
  intro d hd
  cases hd
  exact hc

theorem reads_spaces (n : Nat) (t : Text) : Reads m (List.replicate n ' ' ++ t) m t := by
  induction n with
  | zero => exact .refl
  | succ n ih => exact .space (by decide) ih

theorem reads_breakLine (level : Nat) (t : Text) : Reads m (breakLine level ++ t) m t :=
  .space (by decide) (reads_spaces _ t)

/-! ### The texts of values -/

section texts

variable (level : Nat)

theorem pretty_null : pretty level .null = Text.lit "null" := rfl

theorem pretty_bool (b : Bool) :
    pretty level (.bool b) = Text.lit (if b then "true" else "false") := rfl

theorem pretty_number (n : Number) : pretty level (.number n) = n.print := rfl

theorem pretty_text (t : Text) : pretty level (.text t) = quote t := rfl

theorem pretty_array_nil : pretty level (.array []) = ['[', ']'] := rfl

theorem pretty_object_nil : pretty level (.object []) = ['\x7b', '\x7d'] := rfl

theorem pretty_array_cons (v : Json) (items : List Json) (rest : Text) :
    pretty level (.array (v :: items)) ++ rest =
      '[' :: (prettyItems level (v :: items) ++ (breakLine level ++ ']' :: rest)) := by
  change ('[' :: prettyItems level (v :: items) ++ breakLine level ++ [']']) ++ rest = _
  simp only [List.cons_append, List.append_assoc, List.nil_append]

theorem pretty_object_cons (f : Text × Json) (fields : Fields) (rest : Text) :
    pretty level (.object (f :: fields)) ++ rest =
      '\x7b' :: (prettyFields level (f :: fields) ++ (breakLine level ++ '\x7d' :: rest)) := by
  change ('\x7b' :: prettyFields level (f :: fields) ++ breakLine level ++ ['\x7d']) ++ rest = _
  simp only [List.cons_append, List.append_assoc, List.nil_append]

theorem prettyItems_cons (v : Json) (items : List Json) (rest : Text) :
    prettyItems level (v :: items) ++ rest =
      breakLine (level + 1) ++ (pretty (level + 1) v ++
        if items.isEmpty then rest else ',' :: (prettyItems level items ++ rest)) := by
  cases items with
  | nil => exact List.append_assoc _ _ _
  | cons w items =>
      change (breakLine (level + 1) ++ pretty (level + 1) v ++
        ',' :: prettyItems level (w :: items)) ++ rest = _
      simp

theorem prettyFields_cons (key : Text) (v : Json) (fields : Fields) (rest : Text) :
    prettyFields level ((key, v) :: fields) ++ rest =
      breakLine (level + 1) ++ (quote key ++ ':' :: ' ' :: (pretty (level + 1) v ++
        if fields.isEmpty then rest else ',' :: (prettyFields level fields ++ rest))) := by
  cases fields with
  | nil =>
      change (breakLine (level + 1) ++ quote key ++ ':' :: ' ' :: pretty (level + 1) v) ++ rest = _
      simp
  | cons f fields =>
      change (breakLine (level + 1) ++ quote key ++ ':' :: ' ' :: pretty (level + 1) v ++
        ',' :: prettyFields level (f :: fields)) ++ rest = _
      simp

end texts

/-! ### Values -/

/-- A machine that awaits a value and comes upon the first one, written at a level, takes the
second one. -/
def ReadsAs (d level : Nat) (v w : Json) : Prop :=
  ∀ {m : Machine} {rest : Text}, m.Awaits → m.frames.length + d ≤ nestingLimit →
    EndsNumber rest → Reads m (v.pretty level ++ rest) (Machine.put m.frames w) rest

theorem readsAs_text (d level : Nat) (t : Text) : ReadsAs d level (.text t) (.text t) := by
  intro m rest hm _ _
  rw [pretty_text]
  refine .one rfl (by decide) (token?_quote t rest) ?_
  rw [hm.step_eq (by simp)]
  rfl

theorem Number.print_head (n : Number) : ∃ c, n.print.head? = some c ∧ isSpace c = false := by
  rcases n.print_cases with hn | hn | hn
  · obtain ⟨c, hhead, hc⟩ := hn.head
    refine ⟨c, hhead, ?_⟩
    rcases hc with hc | rfl
    · exact isSpace_of_isDigit hc
    · decide
  · rw [hn]
    exact ⟨'n', rfl, by decide⟩
  · rw [hn]
    exact ⟨'-', rfl, by decide⟩

theorem readsAs_number {n : Number} (hw : n.reread? = some w) (d level : Nat) :
    ReadsAs d level (.number n) w := by
  intro m rest hm _ hrest
  obtain ⟨c, hhead, hc⟩ := n.print_head
  obtain ⟨hnone, -⟩ | ⟨w', k, hw', htoken, hstep⟩ := n.reread?_cases hrest
  · rw [hnone] at hw
    cases hw
  · rw [hw'] at hw
    cases hw
    rw [pretty_number]
    exact .one hhead hc htoken (hstep m hm)

theorem readsAs_bool (d level : Nat) (b : Bool) : ReadsAs d level (.bool b) (.bool b) := by
  intro m rest hm _ _
  rw [pretty_bool]
  cases b with
  | false => exact .one rfl (by decide) rfl (hm.step_eq (by simp))
  | true => exact .one rfl (by decide) rfl (hm.step_eq (by simp))

theorem readsAs_null (d level : Nat) : ReadsAs d level .null .null := by
  intro m rest hm _ _
  rw [pretty_null]
  exact .one rfl (by decide) rfl (hm.step_eq (by simp))

theorem reads_items {items items' : List Json} {outer : List Frame} (hne : items ≠ [])
    (hitems : ∀ v ∈ items, ∀ w, reread? v = some w → ReadsAs d (level + 1) v w)
    (hreread : rereadItems? items = some items') {done : List Json} (hm : m.Awaits)
    (hframes : m.frames = .array done :: outer) (hlength : outer.length + (d + 1) ≤ nestingLimit)
    (hrest : EndsNumber rest) :
    Reads m (prettyItems level items ++ rest)
      { frames := .array (items'.reverse ++ done) :: outer, want := .separator } rest := by
  induction items generalizing m done items' with
  | nil => exact absurd rfl hne
  | cons v items ih =>
      obtain ⟨hv, hitems⟩ := List.forall_mem_cons.mp hitems
      obtain ⟨w, r, hw, hr, rfl⟩ := rereadItems?_cons.mp hreread
      have hroom : m.frames.length + d ≤ nestingLimit := by
        rw [hframes, List.length_cons]
        omega
      rw [prettyItems_cons]
      cases items with
      | nil =>
          cases hr
          have hread := hv w hw hm hroom hrest
          rw [hframes] at hread
          exact (reads_breakLine _ _).trans hread
      | cons v' items =>
          have hread := hv w hw hm hroom
            (endsNumber_cons (c := ',') (by decide) (prettyItems level (v' :: items) ++ rest))
          rw [hframes] at hread
          have hnext := ih (by simp) hitems hr
            (m := { frames := .array (w :: done) :: outer, want := .value }) (.inl rfl) rfl
          rw [List.reverse_cons, List.append_assoc]
          exact ((reads_breakLine _ _).trans hread).trans
            ((Reads.one (w := [',']) rfl (by decide) rfl rfl).trans hnext)

theorem readsAs_array {items items' : List Json}
    (hitems : ∀ v ∈ items, ∀ w, reread? v = some w → ReadsAs d (level + 1) v w)
    (hreread : rereadItems? items = some items') :
    ReadsAs (d + 1) level (.array items) (.array items') := by
  intro m rest hm hroom hrest
  have hopen : m.step .openArray =
      some { frames := .array [] :: m.frames, want := .firstItem } := by
    rw [hm.step_eq (by simp), Machine.begin, if_pos (by omega)]
  cases items with
  | nil =>
      cases hreread
      rw [pretty_array_nil]
      exact (Reads.one (w := ['[']) rfl (by decide) rfl hopen).trans
        (.one (w := [']']) rfl (by decide) rfl rfl)
  | cons v items =>
      have hread := reads_items (by simp) hitems hreread
        (m := { frames := .array [] :: m.frames, want := .firstItem }) (.inr rfl) rfl hroom
        (endsNumber_breakLine level (']' :: rest))
      have hclose : Machine.step
          { frames := .array (items'.reverse ++ []) :: m.frames, want := .separator }
          .closeArray = some (Machine.put m.frames (.array items')) := by
        simp [Machine.step]
      rw [pretty_array_cons]
      exact (Reads.one (w := ['[']) rfl (by decide) rfl hopen).trans
        (hread.trans ((reads_breakLine _ _).trans (.one (w := [']']) rfl (by decide) rfl hclose)))

/-- The fields of an object are read one after the other; they come in order, so that each is set
behind those before it. -/
theorem reads_fields {fields fields' : Fields} (hne : fields ≠ [])
    (hfields : ∀ f ∈ fields, ∀ w, reread? f.2 = some w → ReadsAs d (level + 1) f.2 w)
    (hreread : rereadFields? fields = some fields') {done : Fields}
    (hsorted : Sorted (done ++ fields)) (hm : m.want = .firstKey done ∨ m.want = .key done)
    (hlength : m.frames.length + (d + 1) ≤ nestingLimit) (hrest : EndsNumber rest) :
    ∃ key, Reads m (prettyFields level fields ++ rest)
      { frames := .object (done ++ fields') key :: m.frames, want := .separator } rest := by
  induction fields generalizing m done fields' with
  | nil => exact absurd rfl hne
  | cons f fields ih =>
      obtain ⟨key, v⟩ := f
      obtain ⟨hv, hfields⟩ := List.forall_mem_cons.mp hfields
      obtain ⟨w, r, hw, hr, rfl⟩ := rereadFields?_cons.mp hreread
      have hset : setField key w done = done ++ [(key, w)] :=
        setField_concat fun p hp =>
          (List.pairwise_append.mp hsorted).2.2 p hp (key, v) List.mem_cons_self
      have hkey : m.step (.text key) = some { m with want := .colon done key } := by
        obtain ⟨frames, want⟩ := m
        rcases hm with rfl | rfl <;> rfl
      have hvalue : ∀ {r : Text}, EndsNumber r →
          Reads m
            (breakLine (level + 1) ++ (quote key ++ ':' :: ' ' :: (pretty (level + 1) v ++ r)))
            { frames := .object (done ++ [(key, w)]) key :: m.frames, want := .separator } r := by
        intro r hr
        have hread := hv w hw (m := { frames := .object done key :: m.frames, want := .value })
          (.inl rfl) (by rw [List.length_cons]; omega) hr
        rw [Machine.put, hset] at hread
        exact (reads_breakLine _ _).trans ((Reads.one rfl (by decide) (token?_quote _ _) hkey).trans
          ((Reads.one (w := [':']) rfl (by decide) rfl rfl).trans (.space (by decide) hread)))
      rw [prettyFields_cons]
      cases fields with
      | nil =>
          cases hr
          exact ⟨key, hvalue hrest⟩
      | cons g fields =>
          have hnewSorted : Sorted ((done ++ [(key, w)]) ++ g :: fields) := by
            refine hsorted.of_map_fst ?_
            simp
          obtain ⟨last, hnext⟩ := ih (by simp) hfields hr
            (m := { frames := m.frames, want := .key (done ++ [(key, w)]) }) hnewSorted (.inr rfl)
            hlength
          rw [List.append_cons done]
          exact ⟨last, (hvalue (endsNumber_cons (by decide) _)).trans
            ((Reads.one (w := [',']) rfl (by decide) rfl rfl).trans hnext)⟩

theorem readsAs_object {fields fields' : Fields} (hsorted : Sorted fields)
    (hfields : ∀ f ∈ fields, ∀ w, reread? f.2 = some w → ReadsAs d (level + 1) f.2 w)
    (hreread : rereadFields? fields = some fields') :
    ReadsAs (d + 1) level (.object fields) (.object fields') := by
  intro m rest hm hroom hrest
  have hopen : m.step .openObject = some { m with want := .firstKey [] } := by
    rw [hm.step_eq (by simp), Machine.begin, if_pos (by omega)]
  cases fields with
  | nil =>
      cases hreread
      rw [pretty_object_nil]
      exact (Reads.one (w := ['\x7b']) rfl (by decide) rfl hopen).trans
        (.one (w := ['\x7d']) rfl (by decide) rfl rfl)
  | cons f fields =>
      have hdone : Sorted ([] ++ f :: fields) := hsorted
      obtain ⟨key, hread⟩ := reads_fields (by simp) hfields hreread hdone
        (m := { m with want := .firstKey [] }) (.inl rfl) hroom
        (endsNumber_breakLine level ('\x7d' :: rest))
      rw [pretty_object_cons]
      exact (Reads.one (w := ['\x7b']) rfl (by decide) rfl hopen).trans
        (hread.trans ((reads_breakLine _ _).trans (.one (w := ['\x7d']) rfl (by decide) rfl rfl)))

theorem readsAs_of_normal {p : Number → Prop} (h : Normal p d v) (level : Nat)
    (hw : v.reread? = some w) : ReadsAs d level v w := by
  induction h generalizing level w with
  | null =>
      cases hw
      exact readsAs_null _ _
  | bool b =>
      cases hw
      exact readsAs_bool _ _ b
  | number _ => exact readsAs_number hw _ _
  | text t =>
      cases hw
      exact readsAs_text _ _ t
  | array _ ih =>
      obtain ⟨items', hitems', rfl⟩ := Option.map_eq_some_iff.mp hw
      exact readsAs_array (fun v hv w hw => ih v hv (level + 1) hw) hitems'
  | object hsorted _ ih =>
      obtain ⟨fields', hfields', rfl⟩ := Option.map_eq_some_iff.mp hw
      exact readsAs_object hsorted (fun f hf w hw => ih f hf (level + 1) hw) hfields'

/-! ### Values that cannot be read back -/

def Lexes (t : Text) : Prop := ∃ fuel ks, tokens fuel t = some ks

theorem Lexes.token {c : Char} {k : Token} (h : Lexes (c :: t)) (hc : isSpace c = false)
    (htoken : token? (c :: t) = some (k, rest)) : Lexes rest := by
  obtain ⟨fuel, ks, h⟩ := h
  cases fuel with
  | zero =>
      rw [tokens, List.dropWhile_cons_of_neg (by simp [hc])] at h
      cases h
  | succ fuel =>
      rw [tokens, List.dropWhile_cons_of_neg (by simp [hc])] at h
      simp only [htoken, Option.bind_eq_bind, Option.bind_some] at h
      obtain ⟨ks', hks', -⟩ := Option.bind_eq_some_iff.mp h
      exact ⟨fuel, ks', hks'⟩

theorem not_lexes_of_token? {c : Char} (hc : isSpace c = false)
    (htoken : token? (c :: t) = none) : ¬Lexes (c :: t) := by
  rintro ⟨fuel, ks, h⟩
  cases fuel with
  | zero =>
      rw [tokens, List.dropWhile_cons_of_neg (by simp [hc])] at h
      cases h
  | succ fuel =>
      rw [tokens, List.dropWhile_cons_of_neg (by simp [hc])] at h
      simp only [htoken, Option.bind_eq_bind, Option.bind_none] at h
      cases h

theorem Reads.lexes (h : Reads m t m₁ rest) (ht : Lexes t) : Lexes rest := by
  induction h with
  | refl => exact ht
  | space hc _ ih =>
      obtain ⟨fuel, ks, hks⟩ := ht
      exact ih ⟨fuel, ks, by rw [← hks, tokens_space hc]⟩
  | @token _ _ _ u _ _ _ hspace hlength htoken _ _ ih =>
      obtain ⟨c, r, rfl⟩ : ∃ c r, u = c :: r := List.exists_cons_of_length_pos (by omega)
      exact ih (ht.token (hspace c rfl) htoken)

theorem Lexes.of_append {c : Char} {k : Token} (ht : Lexes (t ++ rest)) (hhead : t.head? = some c)
    (hc : isSpace c = false) (htoken : token? (t ++ rest) = some (k, rest)) : Lexes rest := by
  obtain ⟨r, rfl⟩ := List.head?_eq_some_iff.mp hhead
  exact ht.token hc htoken

/-- No text in which the value stands, written at a level, can be read. -/
def Spoils (level : Nat) (v : Json) : Prop :=
  ∀ {rest : Text}, EndsNumber rest → ¬Lexes (v.pretty level ++ rest)

theorem spoils_number {n : Number} (hn : n.reread? = none) (level : Nat) :
    Spoils level (.number n) := by
  intro rest hrest
  obtain ⟨c, hhead, hc⟩ := n.print_head
  obtain ⟨-, htoken⟩ | ⟨_, _, hw, -⟩ := n.reread?_cases hrest
  · obtain ⟨r, hr⟩ := List.head?_eq_some_iff.mp hhead
    rw [pretty_number]
    rw [hr] at htoken ⊢
    exact not_lexes_of_token? hc htoken
  · rw [hn] at hw
    cases hw

theorem Lexes.after_value {p : Number → Prop} (ht : Lexes (v.pretty level ++ rest))
    (hv : Normal p d v) (hd : d ≤ nestingLimit) (hw : v.reread? = some w)
    (hrest : EndsNumber rest) : Lexes rest :=
  (readsAs_of_normal hv level hw (m := {}) (.inl rfl) (by simpa using hd) hrest).lexes ht

theorem Lexes.after_breakLine (ht : Lexes (breakLine level ++ t)) : Lexes t :=
  (reads_breakLine (m := {}) level t).lexes ht

-- Up to the first item that is not read back the text is cut into tokens, and there it ends; the
-- induction takes the items that are read back away.
theorem not_lexes_items {p : Number → Prop} {items : List Json} (hd : d ≤ nestingLimit)
    (hitems : ∀ v ∈ items, Normal p d v)
    (hspoils : ∀ v ∈ items, v.reread? = none → Spoils (level + 1) v)
    (hnone : rereadItems? items = none) (hrest : EndsNumber rest) :
    ¬Lexes (prettyItems level items ++ rest) := by
  induction items with
  | nil => cases hnone
  | cons v items ih =>
      obtain ⟨hv, hitems⟩ := List.forall_mem_cons.mp hitems
      obtain ⟨hspoilsFirst, hspoils⟩ := List.forall_mem_cons.mp hspoils
      have hends : EndsNumber
          (if items.isEmpty then rest else ',' :: (prettyItems level items ++ rest)) := by
        split
        · exact hrest
        · exact endsNumber_cons (by decide) _
      rw [prettyItems_cons]
      intro ht
      cases hw : v.reread? with
      | none => exact hspoilsFirst hw hends ht.after_breakLine
      | some w =>
          have hnext := ht.after_breakLine.after_value hv hd hw hends
          cases items with
          | nil => cases rereadItems?_eq_none hw hnone
          | cons v' items =>
              exact ih hitems hspoils (rereadItems?_eq_none hw hnone)
                (Lexes.token hnext (by decide) rfl)

theorem not_lexes_fields {p : Number → Prop} {fields : Fields} (hd : d ≤ nestingLimit)
    (hfields : ∀ f ∈ fields, Normal p d f.2)
    (hspoils : ∀ f ∈ fields, f.2.reread? = none → Spoils (level + 1) f.2)
    (hnone : rereadFields? fields = none) (hrest : EndsNumber rest) :
    ¬Lexes (prettyFields level fields ++ rest) := by
  induction fields with
  | nil => cases hnone
  | cons f fields ih =>
      obtain ⟨key, v⟩ := f
      obtain ⟨hv, hfields⟩ := List.forall_mem_cons.mp hfields
      obtain ⟨hspoilsFirst, hspoils⟩ := List.forall_mem_cons.mp hspoils
      have hends : EndsNumber
          (if fields.isEmpty then rest else ',' :: (prettyFields level fields ++ rest)) := by
        split
        · exact hrest
        · exact endsNumber_cons (by decide) _
      rw [prettyFields_cons]
      intro ht
      have hcolon := ht.after_breakLine.of_append rfl (by decide) (token?_quote key _)
      have hvalue := (Reads.space (m := {}) (by decide) .refl).lexes
        (Lexes.token hcolon (by decide) rfl)
      cases hw : v.reread? with
      | none => exact hspoilsFirst hw hends hvalue
      | some w =>
          have hnext := hvalue.after_value hv hd hw hends
          cases fields with
          | nil => cases rereadFields?_eq_none hw hnone
          | cons g fields =>
              exact ih hfields hspoils (rereadFields?_eq_none hw hnone)
                (Lexes.token hnext (by decide) rfl)

theorem spoils_of_normal {p : Number → Prop} (h : Normal p d v) (hd : d ≤ nestingLimit)
    (hnone : v.reread? = none) (level : Nat) : Spoils level v := by
  induction h generalizing level with
  | null => cases hnone
  | bool b => cases hnone
  | number _ => exact spoils_number hnone level
  | text t => cases hnone
  | @array d items hitems ih =>
      intro rest hrest ht
      cases items with
      | nil => cases hnone
      | cons v items =>
          rw [pretty_array_cons] at ht
          exact not_lexes_items (Nat.le_of_succ_le hd) hitems
            (fun v hv hnone => ih v hv (Nat.le_of_succ_le hd) hnone (level + 1))
            (Option.map_eq_none_iff.mp hnone) (endsNumber_breakLine level _)
            (Lexes.token ht (by decide) rfl)
  | @object d fields _ hfields ih =>
      intro rest hrest ht
      cases fields with
      | nil => cases hnone
      | cons f fields =>
          rw [pretty_object_cons] at ht
          exact not_lexes_fields (Nat.le_of_succ_le hd) hfields
            (fun f hf hnone => ih f hf (Nat.le_of_succ_le hd) hnone (level + 1))
            (Option.map_eq_none_iff.mp hnone) (endsNumber_breakLine level _)
            (Lexes.token ht (by decide) rfl)

/-! ### Whole texts -/

/-- A text that has been written holds the value with its numbers as they are read back. -/
theorem parse_pretty_eq_reread? {p : Number → Prop} (h : Normal p nestingLimit v) :
    parse (v.pretty 0) = v.reread? := by
  have hends : EndsNumber [] := fun c hc => by cases hc
  cases hw : v.reread? with
  | some w =>
      have hread : Reads {} (v.pretty 0 ++ []) (Machine.put [] w) [] :=
        readsAs_of_normal h 0 hw (.inl rfl) (by simp) hends
      rw [List.append_nil] at hread
      obtain ⟨ks, hks, hfold⟩ := hread.exists_tokens le_rfl
      rw [parse, hks]
      simp [hfold, Machine.put]
  | none =>
      have hspoils := spoils_of_normal h le_rfl hw 0 hends
      rw [List.append_nil] at hspoils
      cases hks : tokens (v.pretty 0).length (v.pretty 0) with
      | none => rw [parse, hks]; rfl
      | some ks => exact absurd ⟨_, ks, hks⟩ hspoils

theorem parse_pretty (h : Normal Number.IsInteger nestingLimit v) :
    parse (v.pretty 0) = some v := by
  rw [parse_pretty_eq_reread? h, (h.imp fun _ => Number.IsInteger.exact).reread?_eq_self]

end CopyFormat.Json

import Mathlib.Data.List.Infix
import CopyFormat.Pattern.Search
import CopyFormat.Proofs.Text.Basic

/-!
Searching for a literal. The ways to match that are followed at a place are the endings of the text
read so far with which the literal starts; the first one that is read to its end is the first
occurrence of the literal.
-/

namespace CopyFormat.Pattern

open Text (after? cut?)

variable {w u r s : Text} {c : Char} {fuel index : Nat}

/-! ### What is left to read -/

/-- What is left of a literal behind each ending of a text that it starts with, the longest ending
first. -/
def pending (w u : Text) : List Text := u.tails.filterMap fun x => after? x w

theorem pending_nil (w : Text) : pending w [] = [w] := rfl

theorem pending_cons (w : Text) (c : Char) (u : Text) :
    pending w (c :: u) = (after? (c :: u) w).toList ++ pending w u := by
  rw [pending, List.tails_cons, List.filterMap_cons, pending]
  cases after? (c :: u) w <;> rfl

theorem pending_concat (w u : Text) (c : Char) :
    pending w (u ++ [c]) = (pending w u).filterMap (after? [c]) ++ [w] := by
  induction u with
  | nil =>
      rw [List.nil_append, pending_cons, pending_nil]
      cases h : after? [c] w <;> simp [h]
  | cons d u ih =>
      rw [List.cons_append, pending_cons, pending_cons, ih, ← List.cons_append,
        Text.after?_append_left, List.filterMap_append, List.append_assoc]
      cases after? (d :: u) w with
      | none => rfl
      | some r => cases h : after? [c] r <;> simp [h]

theorem mem_pending_iff : r ∈ pending w u ↔ ∃ x, x <:+ u ∧ w = x ++ r := by
  simp [pending, Text.after?_eq_some_iff]

theorem suffix_of_mem_pending (h : r ∈ pending w u) : r <:+ w := by
  obtain ⟨x, -, hx⟩ := mem_pending_iff.mp h
  exact ⟨x, hx.symm⟩

theorem pending_pairwise (w u : Text) :
    (pending w u).Pairwise fun r s => r.length < s.length := by
  induction u with
  | nil => simp [pending_nil]
  | cons c u ih =>
      rw [pending_cons, List.pairwise_append]
      refine ⟨by cases after? (c :: u) w <;> simp, ih, ?_⟩
      intro r hr s hs
      have hw : w = c :: u ++ r := Text.after?_eq_some (by simpa using hr)
      obtain ⟨x, ⟨y, rfl⟩, hx⟩ := mem_pending_iff.mp hs
      have hlength := congrArg List.length (hw.symm.trans hx)
      simp at hlength
      omega

theorem pending_nodup (w u : Text) : (pending w u).Nodup :=
  (pending_pairwise w u).imp fun h heq => by simp [heq] at h

theorem pending_of_suffix (h : w <:+ u) : ∃ ls, pending w u = [] :: ls := by
  have hmem : [] ∈ pending w u := mem_pending_iff.mpr ⟨w, h, by simp⟩
  have hpairwise := pending_pairwise w u
  cases hpending : pending w u with
  | nil => simp [hpending] at hmem
  | cons r ls =>
      rw [hpending] at hmem hpairwise
      rcases List.mem_cons.mp hmem with rfl | hmem
      · exact ⟨ls, rfl⟩
      · have hlt := List.rel_of_pairwise_cons hpairwise hmem
        simp at hlt

theorem pending_of_not_suffix (h : ¬w <:+ u) : ∀ r ∈ pending w u, r <:+ w ∧ r ≠ [] := by
  intro r hr
  refine ⟨suffix_of_mem_pending hr, ?_⟩
  rintro rfl
  obtain ⟨x, hx, hw⟩ := mem_pending_iff.mp hr
  rw [List.append_nil] at hw
  exact h (hw ▸ hx)

/-! ### The first occurrence -/

/-- Whether a literal stands nowhere in a text but at its end. -/
def OnlyAtEnd (w u : Text) : Prop := ∀ b s, u = b ++ w ++ s → s = []

theorem OnlyAtEnd.cut?_of_suffix (h : OnlyAtEnd w u) (hu : w <:+ u) (t : Text) :
    ∃ b, u = b ++ w ∧ cut? w (u ++ t) = some (b, t) := by
  obtain ⟨b, rfl⟩ := hu
  refine ⟨b, rfl, Text.cut?_of_first ?_⟩
  intro b' s hb'
  rcases Nat.lt_or_ge b'.length b.length with hlt | hle
  · have hwhole : b' ++ w <+: b ++ w ++ t := ⟨s, hb'.symm⟩
    obtain ⟨s', hs'⟩ := List.prefix_of_prefix_length_le hwhole (List.prefix_append _ t)
      (by simp only [List.length_append]; omega)
    have hnil := h b' s' hs'.symm
    have hlength := congrArg List.length hs'
    rw [hnil] at hlength
    simp only [List.length_append, List.length_nil] at hlength
    omega
  · exact hle

theorem OnlyAtEnd.cut?_of_not_suffix (h : OnlyAtEnd w u) (hu : ¬w <:+ u) : cut? w u = none := by
  rw [Text.cut?_eq_none_iff]
  rintro ⟨b, s, hs⟩
  have hnil := h b s hs.symm
  subst hnil
  exact hu ⟨b, by simpa using hs⟩

theorem OnlyAtEnd.concat (h : OnlyAtEnd w u) (hu : ¬w <:+ u) (c : Char) :
    OnlyAtEnd w (u ++ [c]) := by
  intro b s hs
  rcases List.eq_nil_or_concat s with rfl | ⟨s, d, rfl⟩
  · rfl
  · have hconcat : u ++ [c] = b ++ w ++ s ++ [d] := by simpa using hs
    have hinit := (List.append_inj' hconcat rfl).1
    have hnil := h b s hinit
    subst hnil
    exact absurd ⟨b, by simpa using hinit.symm⟩ hu

/-! ### The program of a literal -/

/-- The step at which `r` is left to read. -/
def stepBefore : Text → Step
  | [] => .accept
  | c :: r => .char c r.length

/-- A program that reads the literal `w`: the steps are numbered by how much is left to read. -/
structure ReadsLiteral (w : Text) (p : Program) : Prop where
  start : p.start = w.length
  size : p.steps.size = w.length + 1
  step : ∀ r, r <:+ w → p.steps[r.length]? = some (stepBefore r)
  groups : p.groups = [none]

theorem literal_steps (w : Text) :
    ∃ steps : Steps, Steps.literal w 0 #[.accept] = (w.length, steps) ∧
      steps.size = w.length + 1 ∧ ∀ r, r <:+ w → steps[r.length]? = some (stepBefore r) := by
  induction w with
  | nil =>
      refine ⟨#[.accept], rfl, rfl, ?_⟩
      intro r hr
      rw [List.suffix_nil.mp hr]
      rfl
  | cons c w ih =>
      obtain ⟨steps, hsteps, hsize, hbefore⟩ := ih
      refine ⟨steps.push (.char c w.length), ?_, by simp [hsize], ?_⟩
      · rw [Steps.literal, hsteps]
        simp [Steps.add, hsize]
      · intro r hr
        rcases List.suffix_cons_iff.mp hr with rfl | hr
        · rw [List.length_cons, ← hsize, Array.getElem?_push_size]
          rfl
        · have hlt : r.length < steps.size := by
            have := hr.length_le
            omega
          rw [Array.getElem?_push_lt hlt, ← Array.getElem?_eq_getElem, hbefore r hr]

theorem readsLiteral (w : Text) : ReadsLiteral w (.ofExpr (.literal w)) := by
  obtain ⟨steps, hsteps, hsize, hstep⟩ := literal_steps w
  have hprogram : Program.ofExpr (.literal w) =
      { steps, start := w.length, groups := (Expr.literal w).groups } := by
    simp [Program.ofExpr, Steps.add, Steps.compile, hsteps]
  rw [hprogram]
  refine ⟨rfl, hsize, hstep, ?_⟩
  simp [Expr.groups, Expr.captures]

namespace Program

theorem le_foldl {f : Nat → Step → Nat} (hf : ∀ n s, n ≤ f n s) (steps : List Step) (n : Nat) :
    n ≤ steps.foldl f n := by
  induction steps generalizing n with
  | nil => exact Nat.le_refl n
  | cons s steps ih => exact Nat.le_trans (hf n s) (ih (f n s))

theorem rounds_pos (p : Program) : 0 < p.rounds := by
  rw [rounds, ← Array.foldl_toList]
  apply le_foldl
  intro n s
  split <;> omega

theorem follow_nil (p : Program) (place : Place) (fuel : Nat) (f : Front) :
    p.follow place fuel [] f = f := by
  cases fuel <;> rfl

end Program

variable {p : Program} {place : Place} {f : Front} {rs : List Text}

/-! ### What waits at a place -/

/-- The thread that waits at the place `index` with `r` left to read. -/
def threadAt (w : Text) (index : Nat) (r : Text) : Thread :=
  { step := r.length, marks := [(0, index - (w.length - r.length))] }

theorem ReadsLiteral.step_threadAt (hp : ReadsLiteral w p) (hr : r <:+ w) :
    p.steps.getD (threadAt w index r).step .accept = stepBefore r := by
  rw [threadAt, Array.getD_eq_getD_getElem?, hp.step r hr]
  rfl

theorem threadAt_next (h : c :: r <:+ w) :
    { threadAt w index (c :: r) with step := r.length } = threadAt w (index + 1) r := by
  have hlength := h.length_le
  rw [List.length_cons] at hlength
  have hstart : index - (w.length - (r.length + 1)) = index + 1 - (w.length - r.length) := by
    omega
  simp [threadAt, hstart]

/-- What threads wait in a front: those with one of `rs` left to read, in this order of
preference. -/
structure Waits (w : Text) (index : Nat) (f : Front) (rs : List Text) : Prop where
  threads : f.threads.reverse = rs.map (threadAt w index)
  seen : ∀ r, r <:+ w → (f.seen.getD r.length true = true ↔ r ∈ rs)

theorem waits_emptyFront (hp : ReadsLiteral w p) (index : Nat) :
    Waits w index p.emptyFront [] where
  threads := rfl
  seen r hr := by
    have hlt : r.length < w.length + 1 := Nat.lt_succ_of_le hr.length_le
    simp [Program.emptyFront, hp.size, Array.getD, hlt]

theorem Waits.follow (hp : ReadsLiteral w p) (h : Waits w place.index f rs) (hr : r <:+ w)
    (hnew : r ∉ rs) (hfuel : 0 < fuel) :
    Waits w place.index (p.follow place fuel [threadAt w place.index r] f) (rs ++ [r]) := by
  obtain ⟨k, rfl⟩ := Nat.exists_eq_add_of_le' hfuel
  have hseen : ¬f.seen.getD (threadAt w place.index r).step true = true := by
    rwa [threadAt, h.seen r hr]
  have hfollow : p.follow place (k + 1) [threadAt w place.index r] f =
      { seen := f.seen.setIfInBounds r.length true,
        threads := threadAt w place.index r :: f.threads } := by
    rw [Program.follow, if_neg hseen, hp.step_threadAt hr]
    cases r <;> simp [stepBefore, Program.follow_nil, threadAt]
  rw [hfollow]
  constructor
  · simp [h.threads]
  · intro s hs
    -- what is left to read of one literal is told by how much it is
    have hlength : r.length = s.length ↔ s = r := by
      constructor
      · intro heq
        have hsuffix : s <:+ r := List.suffix_of_suffix_length_le hs hr heq.ge
        exact hsuffix.eq_of_length heq.symm
      · rintro rfl
        rfl
    rw [List.mem_append, List.mem_singleton, ← h.seen s hs, ← hlength]
    simp only [Array.getD_eq_getD_getElem?, Array.getElem?_setIfInBounds]
    split
    · rename_i heq
      rw [heq]
      split <;> simp
    · rename_i hne
      simp [hne]

/-! ### Running -/

theorem advance_accepts (hp : ReadsLiteral w p) (next : Place) (c : Option Char)
    (ls : List Thread) :
    p.advance fuel c next (threadAt w index [] :: ls) f = (f, some (threadAt w index [])) := by
  rw [Program.advance, hp.step_threadAt List.nil_suffix]
  rfl

theorem advance_end (hp : ReadsLiteral w p) (next : Place) {ls : List Text}
    (hls : ∀ r ∈ ls, r <:+ w ∧ r ≠ []) :
    p.advance fuel none next (ls.map (threadAt w index)) f = (f, none) := by
  induction ls with
  | nil => rfl
  | cons r ls ih =>
      obtain ⟨⟨hr, hne⟩, hrest⟩ := List.forall_mem_cons.mp hls
      obtain ⟨d, r, rfl⟩ := List.exists_cons_of_ne_nil hne
      rw [List.map_cons, Program.advance, hp.step_threadAt hr]
      exact ih hrest

theorem advance_char (hp : ReadsLiteral w p) (hfuel : 0 < fuel) {ls : List Text}
    (hls : ∀ r ∈ ls, r <:+ w ∧ r ≠ []) (place : Place) (hplace : place.index = index + 1)
    (hf : Waits w (index + 1) f rs) (hnodup : (rs ++ ls.filterMap (after? [c])).Nodup) :
    ∃ f', p.advance fuel (some c) place (ls.map (threadAt w index)) f = (f', none) ∧
      Waits w (index + 1) f' (rs ++ ls.filterMap (after? [c])) := by
  induction ls generalizing f rs with
  | nil => exact ⟨f, rfl, by simpa using hf⟩
  | cons r ls ih =>
      obtain ⟨⟨hr, hne⟩, hrest⟩ := List.forall_mem_cons.mp hls
      obtain ⟨d, r, rfl⟩ := List.exists_cons_of_ne_nil hne
      rw [List.map_cons, Program.advance, hp.step_threadAt hr]
      dsimp only [stepBefore]
      by_cases hcd : c = d
      · subst hcd
        have htake : after? [c] (c :: r) = some r := Text.after?_append [c] r
        rw [List.filterMap_cons_some htake, List.append_cons] at hnodup ⊢
        rw [if_pos (by simp), threadAt_next hr, ← hplace]
        have hnew : r ∉ rs := by
          intro hmem
          have hdisjoint := (List.nodup_append.mp (List.nodup_append.mp hnodup).1).2.2
          exact hdisjoint r hmem r (by simp) rfl
        rw [← hplace] at hf
        have hfollow := hf.follow hp ((List.suffix_cons c r).trans hr) hnew hfuel
        rw [hplace] at hfollow
        rw [hplace]
        exact ih hrest hfollow hnodup
      · have htake : after? [c] (d :: r) = none := by
          rw [after?, if_neg hcd]
        rw [List.filterMap_cons_none htake] at hnodup ⊢
        rw [if_neg (by simpa using hcd)]
        exact ih hrest hf hnodup

theorem Waits.started (hp : ReadsLiteral w p) (hfuel : 0 < fuel) (h : Waits w index f rs)
    (hrs : pending w u = rs ++ [w]) (place : Place) (hplace : place.index = index) :
    Waits w index (p.follow place fuel [{ step := p.start, marks := [(0, index)] }] f)
      (pending w u) := by
  subst hplace
  have hnew : w ∉ rs := by
    have hnodup := pending_nodup w u
    rw [hrs] at hnodup
    intro hmem
    exact (List.nodup_append.mp hnodup).2.2 w hmem w (by simp) rfl
  have hthread : { step := p.start, marks := [(0, place.index)] } = threadAt w place.index w := by
    simp [threadAt, hp.start]
  rw [hthread, hrs]
  exact h.follow hp (List.suffix_refl w) hnew hfuel

/-- Where the first occurrence of a literal is: its end, and the note of its start. -/
def foundAt (w : Text) (first : Nat) (cut : Text × Text) : Nat × List (Nat × Nat) :=
  (first + cut.1.length + w.length, [(0, first + cut.1.length)])

theorem foundAt_eq (w : Text) (first : Nat) (b t : Text) :
    foundAt w first (b, t) = (first + (b ++ w).length,
      (threadAt w (first + (b ++ w).length) []).marks) := by
  have hstart : first + (b.length + w.length) - w.length = first + b.length := by omega
  simp [foundAt, threadAt, hstart, Nat.add_assoc]

/-- A run that has read `u`, in which the literal stands at most at the end, goes on to the first
occurrence. -/
theorem run_literal (hp : ReadsLiteral w p) (hfuel : 0 < fuel) {first : Nat}
    {before : Option Char} {u : Text} (t : Text) (hrs : pending w u = rs ++ [w])
    (hf : Waits w (first + u.length) f rs) (hu : OnlyAtEnd w u) :
    p.run fuel (first + u.length) before f none t = (cut? w (u ++ t)).map (foundAt w first) := by
  induction t generalizing u rs f before with
  | nil =>
      have hthreads := (hf.started hp hfuel hrs ⟨first + u.length, before, none⟩ rfl).threads
      rw [Program.run]
      simp only [Option.isNone_none, if_true, hthreads]
      by_cases hs : w <:+ u
      · obtain ⟨ls, hls⟩ := pending_of_suffix hs
        obtain ⟨b, rfl, hcut⟩ := hu.cut?_of_suffix hs []
        rw [hls, List.map_cons, advance_accepts hp, hcut, Option.map_some, foundAt_eq]
      · rw [advance_end hp _ (pending_of_not_suffix hs), List.append_nil, hu.cut?_of_not_suffix hs]
        rfl
  -- as long as nothing has been read to its end, the threads are those of what has been read
  | cons c t ih =>
      have hthreads := (hf.started hp hfuel hrs ⟨first + u.length, before, some c⟩ rfl).threads
      rw [Program.run]
      simp only [Option.isNone_none, if_true, hthreads]
      by_cases hs : w <:+ u
      · obtain ⟨ls, hls⟩ := pending_of_suffix hs
        obtain ⟨b, rfl, hcut⟩ := hu.cut?_of_suffix hs (c :: t)
        rw [hls, List.map_cons, advance_accepts hp, hcut]
        simp only [Option.map_some, foundAt_eq]
        rfl
      · have hnext := pending_concat w u c
        have hnodup := pending_nodup w (u ++ [c])
        rw [hnext] at hnodup
        obtain ⟨f', hadvance, hf'⟩ := advance_char hp hfuel (pending_of_not_suffix hs)
          ⟨first + u.length + 1, some c, t.head?⟩ rfl
          (waits_emptyFront hp (first + u.length + 1)) (List.nodup_append.mp hnodup).1
        rw [hadvance]
        have hlength : first + (u ++ [c]).length = first + u.length + 1 := by
          rw [List.length_append, List.length_singleton, Nat.add_assoc]
        rw [← hlength] at hf'
        rw [List.append_cons, if_neg (by simp), ← hlength]
        exact ih hnext hf' (hu.concat hs c)

theorem search_literal (hp : ReadsLiteral w p) (t : Text) (start : Nat) (hw : w ≠ []) :
    p.search t start = (cut? w (t.drop start)).map fun q =>
      [some (start + q.1.length, start + q.1.length + w.length)] := by
  have hu : OnlyAtEnd w [] := by
    intro b s hs
    have hnil := hs.symm
    simp [hw] at hnil
  have hpending : pending w [] = [] ++ [w] := pending_nil w
  have hrun (before : Option Char) : p.run p.rounds start before p.emptyFront none (t.drop start) =
      (cut? w (t.drop start)).map (foundAt w start) :=
    run_literal hp p.rounds_pos (t.drop start) hpending (waits_emptyFront hp start) hu
  rw [Program.search, hrun, hp.groups]
  simp [foundAt, Program.span?, Function.comp_def, List.lookup_cons]

end CopyFormat.Pattern

import Mathlib
import CopyFormat.Pattern.Search

/-!
Searches stay within the text: every place that a program notes lies between the place where the
search starts and the place that it has reached.
-/

namespace CopyFormat.Pattern

/-- Whether all places that are noted lie between two others, the start of the match among
them. -/
structure MarksWithin (first last : Nat) (marks : List (Nat × Nat)) : Prop where
  started : ∃ place, marks.lookup 0 = some place
  bounds : ∀ m ∈ marks, first ≤ m.2 ∧ m.2 ≤ last

theorem MarksWithin.mono {first last last' : Nat} {marks : List (Nat × Nat)}
    (h : MarksWithin first last marks) (hle : last ≤ last') : MarksWithin first last' marks where
  started := h.started
  bounds m hm := ⟨(h.bounds m hm).1, Nat.le_trans (h.bounds m hm).2 hle⟩

theorem MarksWithin.cons {first last slot : Nat} {marks : List (Nat × Nat)}
    (h : MarksWithin first last marks) (hle : first ≤ last) :
    MarksWithin first last ((slot, last) :: marks) where
  started := by
    rw [List.lookup_cons]
    split
    · exact ⟨last, rfl⟩
    · exact h.started
  bounds := by
    rintro m (_ | ⟨_, hm⟩)
    · exact ⟨hle, Nat.le_refl _⟩
    · exact h.bounds m hm

/-- Whether all threads have noted places between two others only. -/
def ThreadsWithin (first last : Nat) (threads : List Thread) : Prop :=
  ∀ t ∈ threads, MarksWithin first last t.marks

theorem threadsWithin_cons {first last : Nat} {t : Thread} {threads : List Thread} :
    ThreadsWithin first last (t :: threads) ↔
      MarksWithin first last t.marks ∧ ThreadsWithin first last threads :=
  List.forall_mem_cons

theorem threadsWithin_nil (first last : Nat) : ThreadsWithin first last [] :=
  List.forall_mem_nil _

theorem ThreadsWithin.reverse {first last : Nat} {threads : List Thread}
    (h : ThreadsWithin first last threads) : ThreadsWithin first last threads.reverse :=
  fun t ht => h t (List.mem_reverse.mp ht)

namespace Program

theorem follow_threadsWithin (p : Program) {place : Place} {first : Nat}
    (hfirst : first ≤ place.index) (fuel : Nat) {stack : List Thread} {f : Front}
    (hstack : ThreadsWithin first place.index stack)
    (hf : ThreadsWithin first place.index f.threads) :
    ThreadsWithin first place.index (p.follow place fuel stack f).threads := by
  fun_induction follow p place fuel stack f with
  | case1 | case2 => exact hf
  | case3 _ _ _ _ _ ih => exact ih (threadsWithin_cons.mp hstack).2 hf
  | case4 _ _ _ _ _ _ _ _ _ ih | case5 _ _ _ _ _ _ _ _ _ ih | case6 _ _ _ _ _ _ _ ih =>
      obtain ⟨ht, hrest⟩ := threadsWithin_cons.mp hstack
      exact ih hrest (threadsWithin_cons.mpr ⟨ht, hf⟩)
  | case7 _ _ _ _ _ _ _ _ _ _ ih =>
      obtain ⟨ht, hrest⟩ := threadsWithin_cons.mp hstack
      exact ih (threadsWithin_cons.mpr ⟨ht, hrest⟩) hf
  | case8 _ _ _ _ _ _ _ _ _ _ ih => exact ih (threadsWithin_cons.mp hstack).2 hf
  | case9 _ _ _ _ _ _ _ _ _ ih =>
      obtain ⟨ht, hrest⟩ := threadsWithin_cons.mp hstack
      exact ih (threadsWithin_cons.mpr ⟨ht.cons hfirst, hrest⟩) hf
  | case10 _ _ _ _ _ _ _ _ ih =>
      obtain ⟨ht, hrest⟩ := threadsWithin_cons.mp hstack
      refine ih (fun o ho => ?_) hf
      rcases List.mem_append.mp ho with ho | ho
      · obtain ⟨_, _, rfl⟩ := List.mem_map.mp ho
        exact ht
      · exact hrest o ho

theorem advance_threadsWithin (p : Program) (place next : Place) {first : Nat} (fuel : Nat)
    (c : Option Char) (hfirst : first ≤ place.index) (hnext : place.index ≤ next.index)
    {threads : List Thread} {f : Front} (hthreads : ThreadsWithin first place.index threads)
    (hf : ThreadsWithin first next.index f.threads) :
    ThreadsWithin first next.index (p.advance fuel c next threads f).1.threads ∧
      ∀ t, (p.advance fuel c next threads f).2 = some t →
        MarksWithin first place.index t.marks := by
  have hstep : ∀ {t : Thread} (n : Nat) {g : Front}, MarksWithin first place.index t.marks →
      ThreadsWithin first next.index g.threads →
        ThreadsWithin first next.index
          (p.follow next fuel [{ t with step := n }] g).threads := by
    intro t n g ht hg
    exact p.follow_threadsWithin (Nat.le_trans hfirst hnext) fuel
      (threadsWithin_cons.mpr ⟨ht.mono hnext, threadsWithin_nil _ _⟩) hg
  induction threads generalizing f with
  | nil =>
      rw [advance]
      exact ⟨hf, fun t ht => by cases ht⟩
  | cons t rest ih =>
      obtain ⟨ht, hrest⟩ := threadsWithin_cons.mp hthreads
      rw [advance]
      split
      · exact ⟨hf, fun t' ht' => by cases ht'; exact ht⟩
      · refine ih hrest ?_
        split
        · exact hstep _ ht hf
        · exact hf
      · refine ih hrest ?_
        split
        · exact hstep _ ht hf
        · exact hf
      · exact ih hrest hf

/-- Whether a match found so far lies within the text that has been passed. -/
def FoundWithin (first last : Nat) (found : Option (Nat × List (Nat × Nat))) : Prop :=
  ∀ stop marks, found = some (stop, marks) → stop ≤ last ∧ MarksWithin first stop marks

theorem emptyFront_threadsWithin (p : Program) (first last : Nat) :
    ThreadsWithin first last p.emptyFront.threads :=
  threadsWithin_nil first last

theorem startable_threadsWithin (p : Program) (place : Place) {first : Nat} (fuel : Nat)
    (startable : Bool) {front : Front} (hfirst : first ≤ place.index)
    (hfront : ThreadsWithin first place.index front.threads) :
    ThreadsWithin first place.index
      (if startable then
        p.follow place fuel [{ step := p.start, marks := [(0, place.index)] }] front
      else front).threads := by
  split
  · refine p.follow_threadsWithin hfirst fuel ?_ hfront
    refine threadsWithin_cons.mpr ⟨⟨⟨place.index, rfl⟩, ?_⟩, threadsWithin_nil _ _⟩
    intro m hm
    cases List.mem_singleton.mp hm
    exact ⟨hfirst, Nat.le_refl _⟩
  · exact hfront

theorem run_foundWithin (p : Program) (fuel : Nat) {first index : Nat} (before : Option Char)
    {front : Front} {best : Option (Nat × List (Nat × Nat))} (t : Text) (hfirst : first ≤ index)
    (hfront : ThreadsWithin first index front.threads) (hbest : FoundWithin first index best) :
    FoundWithin first (index + t.length) (p.run fuel index before front best t) := by
  induction t generalizing index before front best with
  | nil =>
      rw [run]
      have hthreads := p.startable_threadsWithin ⟨index, before, none⟩ fuel best.isNone hfirst
        hfront
      have hadvance := p.advance_threadsWithin ⟨index, before, none⟩ ⟨index, before, none⟩ fuel
        none hfirst (Nat.le_refl _) hthreads.reverse (p.emptyFront_threadsWithin first index)
      split
      · rename_i t h
        intro stop marks hfound
        cases hfound
        exact ⟨Nat.le_refl _, hadvance.2 t (congrArg Prod.snd h)⟩
      · exact hbest
  | cons c r ih =>
      rw [run]
      have hthreads := p.startable_threadsWithin ⟨index, before, some c⟩ fuel best.isNone hfirst
        hfront
      have hadvance := p.advance_threadsWithin ⟨index, before, some c⟩
        ⟨index + 1, some c, r.head?⟩ fuel (some c) hfirst (Nat.le_succ _) hthreads.reverse
        (p.emptyFront_threadsWithin first (index + 1))
      split
      rename_i f accepted h
      have hbest' : FoundWithin first (index + 1)
          ((accepted.map fun t => (index, t.marks)) <|> best) := by
        intro stop marks hfound
        cases accepted with
        | none =>
            obtain ⟨hstop, hmarks⟩ := hbest stop marks hfound
            exact ⟨by omega, hmarks⟩
        | some t =>
            cases hfound
            exact ⟨Nat.le_succ _, hadvance.2 t (congrArg Prod.snd h)⟩
      have hlength : index + (c :: r).length = index + 1 + r.length := by
        rw [List.length_cons]
        omega
      rw [hlength]
      dsimp only
      split
      · intro stop marks hfound
        obtain ⟨hstop, hmarks⟩ := hbest' stop marks hfound
        exact ⟨by omega, hmarks⟩
      · refine ih (some c) (by omega) ?_ hbest'
        have hf := hadvance.1
        rwa [h] at hf

/-- A match that is found starts at or behind the place where the search starts and ends within
the text. -/
theorem search_bounds (p : Program) {t : Text} {start : Nat}
    {groups : List (Option (Nat × Nat))} (hstart : start ≤ t.length)
    (h : p.search t start = some groups) {first last : Nat}
    (hwhole : groups.head?.join = some (first, last)) :
    start ≤ first ∧ first ≤ last ∧ last ≤ t.length := by
  unfold search at h
  obtain ⟨⟨stop, marks⟩, hfound, rfl⟩ := Option.map_eq_some_iff.mp h
  obtain ⟨hstop, ⟨place, hplace⟩, hbounds⟩ :=
    p.run_foundWithin p.rounds _ (t.drop start) (Nat.le_refl start)
      (p.emptyFront_threadsWithin start start) (by intro _ _ hbest; cases hbest) stop marks hfound
  have hspan : span? ((1, stop) :: marks) 0 = some (place, stop) := by
    simp [span?, List.lookup_cons, hplace]
  have hpair : (place, stop) = (first, last) := by
    cases hcount : p.groups.length with
    | zero => simp [hcount] at hwhole
    | succ n =>
        rw [hcount, List.range_succ_eq_map] at hwhole
        simpa [hspan] using hwhole
  cases hpair
  obtain ⟨before, behind, rfl, -⟩ := List.lookup_eq_some_iff.mp hplace
  obtain ⟨hfirst, hlast⟩ := hbounds (0, first) (by simp)
  rw [List.length_drop] at hstop
  exact ⟨hfirst, hlast, by omega⟩

end Program

end CopyFormat.Pattern

import Mathlib
import CopyFormat.Proofs.Text.Offset
import CopyFormat.Substitution.Apply

/-!
Rewriting goes match by match. What finds the matches is any function that gives matches within
the text, whose ends lie between characters.
-/

namespace CopyFormat.Substitution

open Text (IsBoundary)

/-- A match at or behind the place `pos` of a text. -/
structure Match.FitsIn (t : Text) (pos : Nat) (m : Match) : Prop where
  pos_le_start : pos ≤ m.start
  start_le_stop : m.start ≤ m.stop
  start_boundary : IsBoundary t m.start
  stop_boundary : IsBoundary t m.stop
  whole : m.groups[0]? = some (some (m.start, m.stop))

/-- What a search in a text can be: it gives matches of the text at or behind the place where it
starts. -/
def FindsIn (t : Text) (find : Nat → Option Match) : Prop :=
  ∀ pos m, IsBoundary t pos → find pos = some m → m.FitsIn t pos

/-- Where the search goes on behind a match: at its end, or one character further when it is
empty. Behind the end of the text that is one byte further. -/
inductive ResumesAt (t : Text) (m : Match) : Nat → Prop
  | stop (h : m.start ≠ m.stop) : ResumesAt t m m.stop
  | nextChar {c : Char} {r : Text} (h : m.start = m.stop)
      (hrest : Text.behind? m.stop t = some (c :: r)) : ResumesAt t m (m.stop + c.utf8Size)
  | pastEnd (h : m.start = m.stop) (hrest : Text.behind? m.stop t = some []) :
      ResumesAt t m (m.stop + 1)

/-- The matches that count when the search goes on at a place. -/
inductive MatchSequence (find : Nat → Option Match) (isGlobal isSticky : Bool) (t : Text) :
    Nat → List Match → Prop
  | pastEnd {pos : Nat} (hpos : Text.size t < pos) : MatchSequence find isGlobal isSticky t pos []
  | noMatch {pos : Nat} (hpos : pos ≤ Text.size t) (hfind : find pos = none) :
      MatchSequence find isGlobal isSticky t pos []
  | elsewhere {pos : Nat} {m : Match} (hpos : pos ≤ Text.size t) (hfind : find pos = some m)
      (hsticky : isSticky = true) (hstart : m.start ≠ pos) :
      MatchSequence find isGlobal isSticky t pos []
  | single {pos : Nat} {m : Match} (hpos : pos ≤ Text.size t) (hfind : find pos = some m)
      (hsticky : isSticky = true → m.start = pos) (hglobal : isGlobal = false) :
      MatchSequence find isGlobal isSticky t pos [m]
  | more {pos next : Nat} {m : Match} {ms : List Match} (hpos : pos ≤ Text.size t)
      (hfind : find pos = some m) (hsticky : isSticky = true → m.start = pos)
      (hglobal : isGlobal = true) (hnext : ResumesAt t m next)
      (hrest : MatchSequence find isGlobal isSticky t next ms) :
      MatchSequence find isGlobal isSticky t pos (m :: ms)

/-- The text from a place on with matches replaced: what stands between the matches is kept. -/
inductive Replaced (insert : Match → Option Text) (t : Text) : Nat → List Match → Text → Prop
  | nil {start : Nat} {rest : Text} (hrest : Text.behind? start t = some rest) :
      Replaced insert t start [] rest
  | cons {start : Nat} {m : Match} {ms : List Match} {kept piece rest : Text}
      (hkept : Text.between? t start m.start = some kept) (hpiece : insert m = some piece)
      (hrest : Replaced insert t m.stop ms rest) :
      Replaced insert t start (m :: ms) (kept ++ piece ++ rest)

/-! ### Going on behind a match -/

theorem Match.FitsIn.resume?_spec {t : Text} {pos : Nat} {m : Match} (hm : m.FitsIn t pos) :
    ∃ next, resume? t m = some next ∧ ResumesAt t m next ∧ m.stop ≤ next ∧ pos < next ∧
      (IsBoundary t next ∨ Text.size t < next) := by
  have hpos := hm.pos_le_start
  have hle := hm.start_le_stop
  unfold resume?
  split
  · rename_i hempty
    obtain ⟨u, v, rfl, hu⟩ := hm.stop_boundary
    have hrest : Text.behind? m.stop (u ++ v) = some v := by rw [hu, Text.behind?_size_append]
    rw [nextBoundary?, hrest]
    cases v with
    | nil =>
        refine ⟨m.stop + 1, rfl, .pastEnd hempty hrest, by omega, by omega, .inr ?_⟩
        rw [List.append_nil]
        omega
    | cons c r =>
        have hc := c.utf8Size_pos
        refine ⟨m.stop + c.utf8Size, rfl, .nextChar hempty hrest, by omega, by omega,
          .inl ⟨u ++ [c], r, by simp, by simp [hu]⟩⟩
  · rename_i hne
    exact ⟨m.stop, rfl, .stop hne, Nat.le_refl _, by omega, .inl hm.stop_boundary⟩

theorem ResumesAt.unique {t : Text} {m : Match} {a b : Nat} (ha : ResumesAt t m a)
    (hb : ResumesAt t m b) : a = b := by
  cases ha with
  | stop h =>
      cases hb with
      | stop _ => rfl
      | nextChar h' _ => exact absurd h' h
      | pastEnd h' _ => exact absurd h' h
  | nextChar h hrest =>
      cases hb with
      | stop h' => exact absurd h h'
      | nextChar _ hrest' =>
          rw [hrest] at hrest'
          cases hrest'
          rfl
      | pastEnd _ hrest' =>
          rw [hrest] at hrest'
          cases hrest'
  | pastEnd h hrest =>
      cases hb with
      | stop h' => exact absurd h h'
      | nextChar _ hrest' =>
          rw [hrest] at hrest'
          cases hrest'
      | pastEnd _ _ => rfl

/-! ### The sequence of matches -/

section

variable {find : Nat → Option Match} {isGlobal isSticky : Bool} {t : Text}

theorem MatchSequence.unique {pos : Nat} {ms ms' : List Match}
    (h : MatchSequence find isGlobal isSticky t pos ms)
    (h' : MatchSequence find isGlobal isSticky t pos ms') : ms = ms' := by
  induction h generalizing ms' with
  | pastEnd hpos =>
      cases h' with
      | pastEnd => rfl
      | noMatch hle | elsewhere hle | single hle | more hle => omega
  | noMatch hle hfind =>
      cases h' with
      | pastEnd | noMatch | elsewhere => rfl
      | single _ hfind' | more _ hfind' => simp [hfind] at hfind'
  | elsewhere hle hfind hsticky hstart =>
      cases h' with
      | pastEnd | noMatch | elsewhere => rfl
      | single _ hfind' hsticky' | more _ hfind' hsticky' =>
          rw [hfind] at hfind'
          cases hfind'
          exact absurd (hsticky' hsticky) hstart
  | single hle hfind hsticky hglobal =>
      cases h' with
      | pastEnd hpos => omega
      | noMatch _ hfind' => simp [hfind] at hfind'
      | elsewhere _ hfind' hsticky' hstart' =>
          rw [hfind] at hfind'
          cases hfind'
          exact absurd (hsticky hsticky') hstart'
      | single _ hfind' =>
          rw [hfind] at hfind'
          cases hfind'
          rfl
      | more _ _ _ hglobal' => simp [hglobal] at hglobal'
  | more hle hfind hsticky hglobal hnext _ ih =>
      cases h' with
      | pastEnd hpos => omega
      | noMatch _ hfind' => simp [hfind] at hfind'
      | elsewhere _ hfind' hsticky' hstart' =>
          rw [hfind] at hfind'
          cases hfind'
          exact absurd (hsticky hsticky') hstart'
      | single _ _ _ hglobal' => simp [hglobal] at hglobal'
      | more _ hfind' _ _ hnext' hrest' =>
          rw [hfind] at hfind'
          cases hfind'
          cases hnext.unique hnext'
          rw [ih hrest']

theorem exists_matchSequence (hfind : FindsIn t find) (isGlobal isSticky : Bool) {pos : Nat}
    (hpos : IsBoundary t pos ∨ Text.size t < pos) :
    ∃ ms, MatchSequence find isGlobal isSticky t pos ms := by
  induction hn : Text.size t + 1 - pos using Nat.strongRecOn generalizing pos with
  | ind n ih =>
      rcases hpos with hpos | hpos
      · have hle := hpos.le_size
        cases hm : find pos with
        | none => exact ⟨[], .noMatch hle hm⟩
        | some m =>
            by_cases hsticky : isSticky = true → m.start = pos
            · obtain ⟨next, -, hnext, -, hlt, hnextPos⟩ := (hfind pos m hpos hm).resume?_spec
              cases hglobal : isGlobal with
              | false => exact ⟨[m], .single hle hm hsticky rfl⟩
              | true =>
                  obtain ⟨ms, hms⟩ := ih (Text.size t + 1 - next) (by omega) hnextPos rfl
                  rw [hglobal] at hms
                  exact ⟨m :: ms, .more hle hm hsticky rfl hnext hms⟩
            · rw [Classical.not_imp] at hsticky
              exact ⟨[], .elsewhere hle hm hsticky.1 hsticky.2⟩
      · exact ⟨[], .pastEnd hpos⟩

/-- Matches of a text behind a place, none of which starts before the one before it has ended. -/
def InOrder (t : Text) : Nat → List Match → Prop
  | _, [] => True
  | last, m :: ms => m.FitsIn t last ∧ InOrder t m.stop ms

theorem InOrder.mono {last last' : Nat} {ms : List Match} (h : InOrder t last ms)
    (hle : last' ≤ last) : InOrder t last' ms := by
  cases ms with
  | nil => trivial
  | cons m ms =>
      exact ⟨{ h.1 with pos_le_start := Nat.le_trans hle h.1.pos_le_start }, h.2⟩

theorem MatchSequence.inOrder (hfind : FindsIn t find) {pos : Nat} {ms : List Match}
    (hpos : IsBoundary t pos ∨ Text.size t < pos)
    (h : MatchSequence find isGlobal isSticky t pos ms) : InOrder t pos ms := by
  induction h with
  | pastEnd | noMatch | elsewhere => trivial
  | single hle hm hsticky hglobal =>
      exact ⟨hfind _ _ (hpos.resolve_right (by omega)) hm, trivial⟩
  | more hle hm hsticky hglobal hnext _ ih =>
      have hfits := hfind _ _ (hpos.resolve_right (by omega)) hm
      obtain ⟨next, -, hnext', hstop, -, hnextPos⟩ := hfits.resume?_spec
      cases hnext.unique hnext'
      exact ⟨hfits, (ih hnextPos).mono hstop⟩

theorem InOrder.start_le {last : Nat} {ms : List Match} (h : InOrder t last ms) :
    ∀ m ∈ ms, last ≤ m.start := by
  induction ms generalizing last with
  | nil => simp
  | cons m ms ih =>
      rintro m' (_ | ⟨_, hm'⟩)
      · exact h.1.pos_le_start
      · exact Nat.le_trans (Nat.le_trans h.1.pos_le_start h.1.start_le_stop) (ih h.2 m' hm')

theorem InOrder.pairwise {last : Nat} {ms : List Match} (h : InOrder t last ms) :
    ms.Pairwise fun a b => a.stop ≤ b.start := by
  induction ms generalizing last with
  | nil => exact .nil
  | cons m ms ih => exact .cons h.2.start_le (ih h.2)

/-! ### Replacing the matches -/

theorem InOrder.replaced_own {last : Nat} {ms : List Match} {rest : Text}
    (h : InOrder t last ms) (hlast : IsBoundary t last) (hrest : Text.behind? last t = some rest) :
    Replaced (fun m => Text.between? t m.start m.stop) t last ms rest := by
  induction ms generalizing last rest with
  | nil => exact .nil hrest
  | cons m ms ih =>
      obtain ⟨hm, hms⟩ := h
      obtain ⟨kept, hkept⟩ :=
        Text.between?_of_boundaries hlast hm.start_boundary hm.pos_le_start
      obtain ⟨piece, hpiece⟩ :=
        Text.between?_of_boundaries hm.start_boundary hm.stop_boundary hm.start_le_stop
      obtain ⟨rest', hrest'⟩ := Text.behind?_of_boundary hm.stop_boundary
      have hstart := Text.behind?_eq_between?_append hm.start_boundary hm.stop_boundary
        hm.start_le_stop hpiece hrest'
      have hsplit := Text.behind?_eq_between?_append hlast hm.start_boundary hm.pos_le_start hkept
        hstart
      have heq : rest = kept ++ piece ++ rest' := by
        rw [hrest] at hsplit
        simpa using hsplit
      rw [heq]
      exact .cons hkept hpiece (ih hms hm.stop_boundary hrest')

theorem InOrder.within {last : Nat} {ms : List Match} (h : InOrder t last ms) :
    ∀ m ∈ ms, m.start ≤ m.stop ∧ m.stop ≤ Text.size t := by
  induction ms generalizing last with
  | nil => simp
  | cons m ms ih =>
      rintro m' (_ | ⟨_, hm'⟩)
      · exact ⟨h.1.start_le_stop, h.1.stop_boundary.le_size⟩
      · exact ih h.2 m' hm'

theorem Replaced.congr {insert insert' : Match → Option Text} {start : Nat} {ms : List Match}
    {out : Text} (h : Replaced insert t start ms out) (hms : InOrder t start ms)
    (hinsert : ∀ pos m, m.FitsIn t pos → insert m = insert' m) :
    Replaced insert' t start ms out := by
  induction h with
  | nil hrest => exact .nil hrest
  | cons hkept hpiece _ ih =>
      rw [hinsert _ _ hms.1] at hpiece
      exact .cons hkept hpiece (ih hms.2)

theorem Replaced.unique {insert : Match → Option Text} {start : Nat} {ms : List Match}
    {out out' : Text} (h : Replaced insert t start ms out) (h' : Replaced insert t start ms out') :
    out = out' := by
  induction h generalizing out' with
  | nil hrest =>
      cases h' with
      | nil hrest' =>
          rw [hrest] at hrest'
          exact Option.some.inj hrest'
  | cons hkept hpiece _ ih =>
      cases h' with
      | cons hkept' hpiece' hrest' =>
          rw [hkept] at hkept'
          rw [hpiece] at hpiece'
          cases hkept'
          cases hpiece'
          rw [ih hrest']

/-- Rewriting from a place on replaces the matches of the sequence, whatever has been replaced
before. -/
theorem MatchSequence.rewriteFrom_eq {insert : Match → Option Text} (hfind : FindsIn t find)
    (hinsert : ∀ pos m, m.FitsIn t pos → ∃ piece, insert m = some piece) {last pos : Nat}
    {ms : List Match} (hlast : IsBoundary t last) (hle : last ≤ pos)
    (hpos : IsBoundary t pos ∨ Text.size t < pos)
    (h : MatchSequence find isGlobal isSticky t pos ms) :
    ∃ out, rewriteFrom find isGlobal isSticky insert t last pos = some out ∧
      Replaced insert t last ms out := by
  obtain ⟨rest, hrest⟩ := Text.behind?_of_boundary hlast
  induction h generalizing last rest with
  | pastEnd hend =>
      rw [rewriteFrom, dif_pos hend]
      exact ⟨rest, hrest, .nil hrest⟩
  | noMatch hsize hm =>
      rw [rewriteFrom, dif_neg (by omega), hm]
      exact ⟨rest, hrest, .nil hrest⟩
  | elsewhere hsize hm hsticky hstart =>
      rw [rewriteFrom, dif_neg (by omega), hm]
      simp only
      rw [if_pos (by simp [hsticky, hstart])]
      exact ⟨rest, hrest, .nil hrest⟩
  | @single pos m hsize hm hsticky hglobal =>
      have hfits := hfind pos m (hpos.resolve_right (by omega)) hm
      obtain ⟨kept, hkept⟩ := Text.between?_of_boundaries hlast hfits.start_boundary
        (Nat.le_trans hle hfits.pos_le_start)
      obtain ⟨piece, hpiece⟩ := hinsert pos m hfits
      obtain ⟨rest', hrest'⟩ := Text.behind?_of_boundary hfits.stop_boundary
      refine ⟨kept ++ piece ++ rest', ?_, .cons hkept hpiece (.nil hrest')⟩
      rw [rewriteFrom, dif_neg (by omega), hm]
      simp only
      rw [if_neg (by simpa using hsticky), hkept, hpiece, hglobal, hrest']
      rfl
  | @more pos next m ms hsize hm hsticky hglobal hnext _ ih =>
      have hfits := hfind pos m (hpos.resolve_right (by omega)) hm
      obtain ⟨kept, hkept⟩ := Text.between?_of_boundaries hlast hfits.start_boundary
        (Nat.le_trans hle hfits.pos_le_start)
      obtain ⟨piece, hpiece⟩ := hinsert pos m hfits
      obtain ⟨rest', hrest'⟩ := Text.behind?_of_boundary hfits.stop_boundary
      obtain ⟨next', hresume, hnext', hstop, hlt, hnextPos⟩ := hfits.resume?_spec
      cases hnext.unique hnext'
      obtain ⟨out, hout, hreplaced⟩ := ih hfits.stop_boundary hstop hnextPos rest' hrest'
      refine ⟨kept ++ piece ++ out, ?_, .cons hkept hpiece hreplaced⟩
      rw [rewriteFrom, dif_neg (by omega), hm]
      simp only
      rw [if_neg (by simpa using hsticky), hkept, hpiece]
      simp only [Option.bind_eq_bind, Option.bind_some, hglobal, if_true, hresume]
      rw [dif_pos hlt, ← hglobal, hout]
      rfl

end

/-- What it means to rewrite a text match by match: the matches of the sequence, which lie in the
text, come in order and do not overlap, are replaced, and all else is kept. That the matches
replaced by their own texts give the text back shows that nothing of it is left out or comes
twice. -/
def RewritesTo (find : Nat → Option Match) (isGlobal isSticky : Bool)
    (insert : Match → Option Text) (t out : Text) : Prop :=
  ∃ ms, MatchSequence find isGlobal isSticky t 0 ms ∧
    (∀ m ∈ ms, m.start ≤ m.stop ∧ m.stop ≤ Text.size t) ∧
      ms.Pairwise (fun a b => a.stop ≤ b.start) ∧
        Replaced (fun m => Text.between? t m.start m.stop) t 0 ms t ∧
          Replaced insert t 0 ms out

/-- Rewriting comes to an end and never cuts the text in the wrong place. -/
theorem rewriteFrom_rewritesTo {t : Text} {find : Nat → Option Match} (hfind : FindsIn t find)
    (isGlobal isSticky : Bool) {insert : Match → Option Text}
    (hinsert : ∀ pos m, m.FitsIn t pos → ∃ piece, insert m = some piece) :
    ∃ out, rewriteFrom find isGlobal isSticky insert t 0 0 = some out ∧
      RewritesTo find isGlobal isSticky insert t out := by
  have hzero := IsBoundary.zero t
  obtain ⟨ms, hms⟩ := exists_matchSequence hfind isGlobal isSticky (.inl hzero)
  have horder := hms.inOrder hfind (.inl hzero)
  obtain ⟨out, hout, hreplaced⟩ :=
    hms.rewriteFrom_eq hfind hinsert hzero (Nat.le_refl 0) (.inl hzero)
  exact ⟨out, hout, ms, hms, horder.within, horder.pairwise,
    horder.replaced_own hzero (Text.behind?_zero t), hreplaced⟩

theorem RewritesTo.eq_self {find : Nat → Option Match} {isGlobal isSticky : Bool}
    {insert : Match → Option Text} {t out : Text} (hfind : FindsIn t find)
    (h : RewritesTo find isGlobal isSticky insert t out)
    (hinsert : ∀ pos m, m.FitsIn t pos → insert m = Text.between? t m.start m.stop) : out = t := by
  obtain ⟨ms, hms, -, -, hown, hout⟩ := h
  have horder := hms.inOrder hfind (.inl (.zero t))
  exact (hout.congr horder hinsert).unique hown

/-! ### What is inserted -/

theorem Piece.expand_eq_some {t : Text} {pos : Nat} {m : Match} (hm : m.FitsIn t pos)
    (names : List (Option Text)) (p : Piece) : ∃ s, p.expand names t m = some s := by
  cases p with
  | char c => exact ⟨[c], rfl⟩
  | before => exact Text.before?_of_boundary hm.start_boundary
  | behind => exact Text.behind?_of_boundary hm.stop_boundary
  | group index => exact ⟨m.group t index, rfl⟩
  | named name =>
      cases hfound : names.findIdx? (· == some name) with
      | none => exact ⟨[], by simp [Piece.expand, hfound]⟩
      | some index => exact ⟨m.group t index, by simp [Piece.expand, hfound]⟩

theorem mapM_eq_some {α β : Type} {f : α → Option β} (hf : ∀ a, ∃ b, f a = some b) (l : List α) :
    ∃ bs, l.mapM f = some bs := by
  induction l with
  | nil => exact ⟨[], rfl⟩
  | cons a l ih =>
      obtain ⟨b, hb⟩ := hf a
      obtain ⟨bs, hbs⟩ := ih
      exact ⟨b :: bs, by simp [hb, hbs]⟩

theorem expandReplacement_eq_some {t : Text} {pos : Nat} {m : Match} (hm : m.FitsIn t pos)
    (names : List (Option Text)) (replacement : Text) :
    ∃ piece, expandReplacement names replacement t m = some piece := by
  obtain ⟨pieces, hpieces⟩ := mapM_eq_some (Piece.expand_eq_some hm names)
    (pieces (names.length - 1) (names.any Option.isSome) 0 replacement)
  exact ⟨pieces.flatten, by rw [expandReplacement, hpieces]; rfl⟩

theorem Match.FitsIn.group_zero {t : Text} {pos : Nat} {m : Match} (hm : m.FitsIn t pos) :
    some (m.group t 0) = Text.between? t m.start m.stop := by
  obtain ⟨s, hs⟩ := Text.between?_of_boundaries hm.start_boundary hm.stop_boundary
    hm.start_le_stop
  simp [Match.group, hm.whole, hs]

def itself : Text := ['$', '&']

theorem expandReplacement_itself {t : Text} {pos : Nat} {m : Match} (hm : m.FitsIn t pos)
    (names : List (Option Text)) :
    expandReplacement names itself t m = Text.between? t m.start m.stop := by
  rw [← hm.group_zero]
  simp [expandReplacement, itself, pieces, token?, Piece.expand]

end CopyFormat.Substitution

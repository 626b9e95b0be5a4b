import CopyFormat.Proofs.Pattern.Search
import CopyFormat.Proofs.Substitution.Apply
import CopyFormat.Proofs.Text.Basic

namespace CopyFormat.Substitution

open Text (IsBoundary)

theorem size_take_le {t : Text} {i j : Nat} (h : i ≤ j) :
    Text.size (t.take i) ≤ Text.size (t.take j) := by
  have hsplit : t.take j = t.take i ++ (t.take j).drop i := by
    have htake : t.take i = (t.take j).take i := by rw [List.take_take, Nat.min_eq_left h]
    rw [htake, List.take_append_drop]
  rw [hsplit, Text.size_append]
  exact Nat.le_add_right _ _

theorem isBoundary_size_take (t : Text) (i : Nat) : IsBoundary t (Text.size (t.take i)) :=
  ⟨t.take i, t.drop i, (List.take_append_drop i t).symm, rfl⟩

theorem Rule.locate_bounds (r : Rule) {t : Text} {start : Nat} {m : Match}
    (hstart : start ≤ t.length) (h : r.locate t start = some m) :
    start ≤ m.start ∧ m.start ≤ m.stop ∧ m.stop ≤ t.length ∧
      m.groups[0]? = some (some (m.start, m.stop)) := by
  obtain ⟨groups, hsearch, hgroups⟩ := Option.bind_eq_some_iff.mp h
  obtain ⟨⟨first, last⟩, hwhole, hm⟩ := Option.bind_eq_some_iff.mp hgroups
  cases hm
  obtain ⟨hfirst, hlast, hlength⟩ := r.compiled.program.search_bounds hstart hsearch hwhole
  refine ⟨hfirst, hlast, hlength, ?_⟩
  rw [List.head?_eq_getElem?, Option.join_eq_some_iff] at hwhole
  exact hwhole

theorem Rule.findsIn (r : Rule) (t : Text) : FindsIn t (r.find t) := by
  rintro pos m - h
  obtain ⟨before, hbefore, hlocate⟩ := Option.bind_eq_some_iff.mp h
  obtain ⟨found, hfound, rfl⟩ := Option.map_eq_some_iff.mp hlocate
  obtain ⟨behind, rfl, rfl⟩ := Text.isBoundary_of_before? hbefore
  obtain ⟨hstart, hstop, hlength, hwhole⟩ := r.locate_bounds (by simp) hfound
  have hpos : Text.size ((before ++ behind).take before.length) = Text.size before := by
    rw [List.take_left]
  refine ⟨?_, size_take_le hstop, isBoundary_size_take _ _, isBoundary_size_take _ _, ?_⟩
  · rw [← hpos]
    exact size_take_le hstart
  · simp [Match.inBytes, hwhole]

theorem Rule.apply_rewritesTo (r : Rule) (t replacement : Text) :
    RewritesTo (r.find t) r.isGlobal r.isSticky (expandReplacement r.groups replacement t) t
      (r.apply t replacement) := by
  obtain ⟨out, hout, hrewrites⟩ := rewriteFrom_rewritesTo (r.findsIn t) r.isGlobal r.isSticky
    fun _ _ hm => expandReplacement_eq_some hm r.groups replacement
  rw [Rule.apply, hout]
  exact hrewrites

/-- Whatever finds the matches, rewriting goes match by match, and the replacement that stands for
the match itself changes nothing. In particular that holds of every rule with its own search. -/
theorem rewriting_match_by_match {t : Text} {find : Nat → Option Match} (hfind : FindsIn t find)
    (isGlobal isSticky : Bool) (names : List (Option Text)) (replacement : Text) :
    (∃ out, rewriteFrom find isGlobal isSticky (expandReplacement names replacement t) t 0 0 =
        some out ∧
      RewritesTo find isGlobal isSticky (expandReplacement names replacement t) t out) ∧
    rewriteFrom find isGlobal isSticky (expandReplacement names itself t) t 0 0 = some t ∧
    ∀ r : Rule,
      RewritesTo (r.find t) r.isGlobal r.isSticky (expandReplacement r.groups replacement t) t
        (r.apply t replacement) ∧ r.apply t itself = t := by
  refine ⟨?_, ?_, fun r => ⟨r.apply_rewritesTo t replacement, ?_⟩⟩
  · exact rewriteFrom_rewritesTo hfind isGlobal isSticky
      fun _ _ hm => expandReplacement_eq_some hm names replacement
  · obtain ⟨out, hout, hrewrites⟩ := rewriteFrom_rewritesTo hfind isGlobal isSticky
      fun _ _ hm => expandReplacement_eq_some hm names itself
    rw [hout, hrewrites.eq_self hfind fun _ _ hm => expandReplacement_itself hm names]
  · exact (r.apply_rewritesTo t itself).eq_self (r.findsIn t)
      fun _ _ hm => expandReplacement_itself hm r.groups

/-- A search that finds the empty match at every place up to the end of a text. -/
def findEmpty (t : Text) (pos : Nat) : Option Match :=
  if pos ≤ Text.size t then some { start := pos, stop := pos, groups := [some (pos, pos)] }
  else none

theorem findEmpty_findsIn (t : Text) : FindsIn t (findEmpty t) := by
  intro pos m hpos h
  rw [findEmpty, if_pos hpos.le_size] at h
  cases h
  exact ⟨Nat.le_refl _, Nat.le_refl _, hpos, hpos, rfl⟩

/-- Empty matches between characters of three bytes each. -/
theorem rewriting_empty_matches :
    FindsIn (Text.lit "日本") (findEmpty (Text.lit "日本")) ∧
      RewritesTo (findEmpty (Text.lit "日本")) true false
        (expandReplacement [none] ['-'] (Text.lit "日本")) (Text.lit "日本")
        (Text.lit "-日-本-") := by
  refine ⟨findEmpty_findsIn _, ?_⟩
  obtain ⟨⟨out, hout, hrewrites⟩, -⟩ :=
    rewriting_match_by_match (findEmpty_findsIn (Text.lit "日本")) true false [none] ['-']
  have hvalue : rewriteFrom (findEmpty (Text.lit "日本")) true false
      (expandReplacement [none] ['-'] (Text.lit "日本")) (Text.lit "日本") 0 0 =
        some (Text.lit "-日-本-") := by cbv
  rw [hvalue] at hout
  cases hout
  exact hrewrites

end CopyFormat.Substitution

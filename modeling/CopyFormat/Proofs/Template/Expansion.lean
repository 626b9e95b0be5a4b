import Mathlib.Data.List.Find
import CopyFormat.Proofs.Template
import CopyFormat.Proofs.Text.Basic

/-!
Filling in the placeholders of a page is simultaneous: what each place of a template contributes
depends on the template alone, not on what has been filled in before it. So a template can be cut
wherever no placeholder is cut. Reading from brace to brace fills in the same.
-/

namespace CopyFormat.Template

open Text

variable {v : PageValues}

/-! ### From brace to brace -/

def isNameChar (c : Char) : Bool := c.isAlphanum || c == '_'

def IsName (name : Text) : Prop := name ≠ [] ∧ ∀ c ∈ name, isNameChar c = true

-- not by the instance for types with finitely many members, which would go through all characters
instance (name : Text) : Decidable (IsName name) :=
  decidable_of_iff (name ≠ [] ∧ name.all isNameChar = true) (by rw [IsName, List.all_eq_true])

/-- The value for the name that stands before the next closing brace, and what follows that. -/
def named? (v : PageValues) (t : Text) : Option (Text × Text) := do
  let (name, rest) ← cut? ['\x7d'] t
  if IsName name then
    let value ← v.get? name
    return (value, rest)
  else none

theorem get?_eq_some_iff {name value : Text} :
    v.get? name = some value ↔ ∃ p ∈ v.named, p.1.toList = name ∧ p.2 = value := by
  constructor
  · intro h
    obtain ⟨p, hfind, hvalue⟩ := Option.map_eq_some_iff.mp h
    exact ⟨p, List.mem_of_find?_eq_some hfind, by simpa using List.find?_some hfind, hvalue⟩
  · rintro ⟨p, hp, rfl, rfl⟩
    have hfind := (named_distinguishable v).find?_eq_some hp
      (f := fun q => q.1.toList = p.1.toList) fun q _ => by simp [String.toList_inj]
    rw [PageValues.get?, hfind]
    rfl

theorem isName_of_mem_named {p : String × Text} (hp : p ∈ v.named) : IsName p.1.toList :=
  forall_name (P := fun name => IsName name.toList) (by decide) hp

theorem named?_eq_some_iff {t value rest : Text} :
    named? v t = some (value, rest) ↔
      ∃ p ∈ v.named, '\x7b' :: t = placeholder p.1.toList ++ rest ∧ p.2 = value := by
  constructor
  · intro h
    obtain ⟨⟨name, rest'⟩, hcut, h⟩ := Option.bind_eq_some_iff.mp h
    dsimp only at h
    split at h
    · obtain ⟨value', hget, h⟩ := Option.bind_eq_some_iff.mp h
      cases h
      obtain ⟨p, hp, rfl, rfl⟩ := get?_eq_some_iff.mp hget
      obtain ⟨rfl, -⟩ := cut?_mark_eq_some_iff.mp hcut
      exact ⟨p, hp, by simp [placeholder], rfl⟩
    · cases h
  · rintro ⟨p, hp, ht, rfl⟩
    have ht' : t = p.1.toList ++ '\x7d' :: rest := by simpa [placeholder] using ht
    have hcut : cut? ['\x7d'] t = some (p.1.toList, rest) :=
      cut?_mark_eq_some_iff.mpr ⟨ht', (name_of_mem_named hp).2.1⟩
    have hget : v.get? p.1.toList = some p.2 := get?_eq_some_iff.mpr ⟨p, hp, rfl, rfl⟩
    simp [named?, hcut, isName_of_mem_named hp, hget]

theorem length_lt_of_named? {t value rest : Text} (h : named? v t = some (value, rest)) :
    rest.length < t.length := by
  obtain ⟨p, -, ht, -⟩ := named?_eq_some_iff.mp h
  have hlength := congrArg List.length ht
  simp [placeholder] at hlength
  omega

/-- The template read from brace to brace. Behind an opening brace the text up to the next closing
one is taken for a name; when it has no value, the brace is kept, and reading goes on right behind
it. -/
def fillBraces (v : PageValues) (t : Text) : Text :=
  match _hcut : cut? ['\x7b'] t with
  | none => t
  | some (before, behind) =>
      match _hnamed : named? v behind with
      | some (value, rest) => before ++ value ++ fillBraces v rest
      | none => before ++ '\x7b' :: fillBraces v behind
termination_by t.length
decreasing_by
  all_goals
    have hlength := congrArg List.length (cut?_eq_some _hcut)
    simp only [List.length_append, List.length_singleton] at hlength
  · have hrest := length_lt_of_named? _hnamed
    omega
  · omega

theorem expand_of_brace_not_mem {u : Text} (hu : '\x7b' ∉ u) (r : Text) :
    expand (u ++ r) v = u ++ expand r v :=
  rewrite_of_brace_not_mem hu r

theorem expand_placeholder {p : String × Text} (hp : p ∈ v.named) (r : Text) :
    expand (placeholder p.1.toList ++ r) v = p.2 ++ expand r v :=
  (named_distinguishable v).rewrite_placeholder hp r

theorem expand_single {c : Char} {r : Text}
    (h : ∀ p ∈ v.named, ¬placeholder p.1.toList <+: c :: r) :
    expand (c :: r) v = c :: expand r v :=
  rewrite_of_none (valueAt?_eq_none_iff.mpr h)

theorem fillBraces_eq_expand (v : PageValues) (t : Text) : fillBraces v t = expand t v := by
  fun_induction fillBraces v t with
  | case1 t hcut =>
      have hkept := expand_of_brace_not_mem (v := v) (cut?_mark_eq_none_iff.mp hcut) []
      rw [List.append_nil] at hkept
      rw [hkept]
      exact (List.append_nil t).symm
  | case2 t before behind hcut value rest hnamed ih =>
      obtain ⟨rfl, hbefore⟩ := cut?_mark_eq_some_iff.mp hcut
      obtain ⟨p, hp, hstands, rfl⟩ := named?_eq_some_iff.mp hnamed
      rw [expand_of_brace_not_mem hbefore, hstands, expand_placeholder hp, ih, List.append_assoc]
  | case3 t before behind hcut hnamed ih =>
      obtain ⟨rfl, hbefore⟩ := cut?_mark_eq_some_iff.mp hcut
      have hnone : ∀ p ∈ v.named, ¬placeholder p.1.toList <+: '\x7b' :: behind := by
        rintro p hp ⟨rest, hstands⟩
        rw [named?_eq_some_iff.mpr ⟨p, hp, hstands.symm, rfl⟩] at hnamed
        cases hnamed
      rw [expand_of_brace_not_mem hbefore, expand_single hnone, ih]

/-! ### Place by place -/

/-- The placeholder of a name stands at a place of a text. -/
def StandsAt (name : String) (t : Text) (i : Nat) : Prop := placeholder name.toList <+: t.drop i

instance (name : String) (t : Text) (i : Nat) : Decidable (StandsAt name t i) :=
  inferInstanceAs (Decidable (_ <+: _))

def span (name : String) : Nat := (placeholder name.toList).length

/-- What a place of a template contributes to the text: the value of the placeholder that stands
there, nothing within a placeholder, and otherwise its character. -/
def share (v : PageValues) (t : Text) (i : Nat) : Text :=
  match v.named.find? fun p => StandsAt p.1 t i with
  | some p => p.2
  | none =>
      if ∃ j < i, ∃ p ∈ v.named, StandsAt p.1 t j ∧ i < j + span p.1 then [] else t[i]?.toList

/-- A placeholder of the page begins in the first text and ends in the second. -/
def Straddles (v : PageValues) (a b : Text) : Prop :=
  ∃ i < a.length, ∃ p ∈ v.named, StandsAt p.1 (a ++ b) i ∧ a.length < i + span p.1

theorem span_pos (name : String) : 0 < span name := by
  simp [span, placeholder]

theorem StandsAt.getElem? {name : String} {t : Text} {i : Nat} (h : StandsAt name t i) (k : Nat)
    (hk : k < span name) : t[i + k]? = (placeholder name.toList)[k]? := by
  rw [← List.getElem?_drop, List.prefix_iff_getElem?.mp h k hk]
  exact (List.getElem?_eq_getElem hk).symm

/-- Placeholders of the page do not overlap: only the first character of one is an opening
brace. -/
theorem StandsAt.span_le {p q : String × Text} {t : Text} {i j : Nat} (hp : p ∈ v.named)
    (hi : StandsAt p.1 t i) (hj : StandsAt q.1 t j) (hij : i < j) : i + span p.1 ≤ j := by
  by_contra hlt
  obtain ⟨k, rfl⟩ := Nat.exists_eq_add_of_lt hij
  have hbrace := hj.getElem? 0 (span_pos q.1)
  rw [Nat.add_zero, Nat.add_assoc, hi.getElem? (k + 1) (by omega)] at hbrace
  have hmem : '\x7b' ∈ p.1.toList ++ ['\x7d'] := List.mem_of_getElem? hbrace
  rw [List.mem_append, List.mem_singleton] at hmem
  exact hmem.elim (name_of_mem_named hp).1 (by decide)

theorem StandsAt.name_eq {p q : String × Text} {t : Text} {i : Nat} (hp : p ∈ v.named)
    (hq : q ∈ v.named) (hpi : StandsAt p.1 t i) (hqi : StandsAt q.1 t i) : p.1 = q.1 := by
  obtain ⟨r, hr⟩ := hqi
  rw [StandsAt, ← hr, placeholder_prefix_iff (name_of_mem_named hp).2.1
    (name_of_mem_named hq).2.1] at hpi
  exact String.toList_inj.mp hpi

/-! ### Cutting a template -/

section

variable {a b : Text} {p : String × Text} {i : Nat}

theorem standsAt_append_right (name : String) (a b : Text) (i : Nat) :
    StandsAt name (a ++ b) (a.length + i) ↔ StandsAt name b i := by
  rw [StandsAt, StandsAt, List.drop_length_add_append]

theorem standsAt_append_left (h : ¬Straddles v a b) (hp : p ∈ v.named) (hi : i < a.length) :
    StandsAt p.1 (a ++ b) i ↔ StandsAt p.1 a i := by
  have hdrop : (a ++ b).drop i = a.drop i ++ b := List.drop_append_of_le_length hi.le
  constructor
  · intro hstands
    have hwithin : i + span p.1 ≤ a.length :=
      Nat.le_of_not_lt fun hlt => h ⟨i, hi, p, hp, hstands, hlt⟩
    rw [StandsAt, hdrop] at hstands
    refine List.prefix_of_prefix_length_le hstands (List.prefix_append _ _) ?_
    rw [List.length_drop]
    rw [span] at hwithin
    omega
  · intro hstands
    rw [StandsAt, hdrop]
    exact hstands.trans (List.prefix_append _ _)

theorem share_append_left (h : ¬Straddles v a b) (hi : i < a.length) :
    share v (a ++ b) i = share v a i := by
  have hfind : (v.named.find? fun p => StandsAt p.1 (a ++ b) i) =
      v.named.find? fun p => StandsAt p.1 a i :=
    List.find?_congr fun p hp => decide_eq_decide.mpr (standsAt_append_left h hp hi)
  have hwithin : (∃ j < i, ∃ p ∈ v.named, StandsAt p.1 (a ++ b) j ∧ i < j + span p.1) ↔
      ∃ j < i, ∃ p ∈ v.named, StandsAt p.1 a j ∧ i < j + span p.1 := by
    refine exists_congr fun j => and_congr_right fun hj => exists_congr fun p =>
      and_congr_right fun hp => and_congr_left' ?_
    exact standsAt_append_left h hp (hj.trans hi)
  rw [share, share, hfind, List.getElem?_append_left hi]
  simp only [hwithin]

theorem share_append_right (h : ¬Straddles v a b) (i : Nat) :
    share v (a ++ b) (a.length + i) = share v b i := by
  have hwithin : (∃ j < a.length + i, ∃ p ∈ v.named,
      StandsAt p.1 (a ++ b) j ∧ a.length + i < j + span p.1) ↔
      ∃ j < i, ∃ p ∈ v.named, StandsAt p.1 b j ∧ i < j + span p.1 := by
    constructor
    · rintro ⟨j, hj, p, hp, hstands, hlt⟩
      rcases Nat.lt_or_ge j a.length with hja | hja
      · exact absurd ⟨j, hja, p, hp, hstands, by omega⟩ h
      · obtain ⟨k, rfl⟩ := Nat.exists_eq_add_of_le hja
        exact ⟨k, by omega, p, hp, (standsAt_append_right p.1 a b k).mp hstands, by omega⟩
    · rintro ⟨k, hk, p, hp, hstands, hlt⟩
      exact ⟨a.length + k, by omega, p, hp, (standsAt_append_right p.1 a b k).mpr hstands,
        by omega⟩
  simp only [share, standsAt_append_right, hwithin,
    List.getElem?_append_right (Nat.le_add_right _ _), Nat.add_sub_cancel_left]

/-- What the places of a template contribute, one after the other. -/
def shares (v : PageValues) (t : Text) : Text := (List.range t.length).flatMap (share v t)

theorem shares_append (h : ¬Straddles v a b) : shares v (a ++ b) = shares v a ++ shares v b := by
  have hleft : (List.range a.length).flatMap (share v (a ++ b)) = shares v a :=
    List.flatMap_congr fun i hi => share_append_left h (List.mem_range.mp hi)
  rw [shares, List.length_append, List.range_add, List.flatMap_append, List.flatMap_map, hleft]
  exact congrArg (shares v a ++ ·) (List.flatMap_congr fun i _ => share_append_right h i)

theorem not_straddles_placeholder (hp : p ∈ v.named) (r : Text) :
    ¬Straddles v (placeholder p.1.toList) r := by
  rintro ⟨i, hi, q, hq, hstands, hlt⟩
  have hfirst : StandsAt p.1 (placeholder p.1.toList ++ r) 0 := List.prefix_append _ _
  rcases Nat.eq_zero_or_pos i with rfl | hpos
  · rw [hfirst.name_eq hp hq hstands, Nat.zero_add] at hlt
    exact Nat.lt_irrefl _ hlt
  · have hle := hfirst.span_le hp hstands hpos
    rw [Nat.zero_add] at hle
    exact absurd hi (Nat.not_lt_of_le hle)

theorem not_straddles_single {c : Char} {r : Text}
    (h : ∀ p ∈ v.named, ¬placeholder p.1.toList <+: c :: r) : ¬Straddles v [c] r := by
  rintro ⟨i, hi, p, hp, hstands, -⟩
  obtain rfl : i = 0 := Nat.lt_one_iff.mp hi
  exact h p hp hstands

theorem shares_placeholder (hp : p ∈ v.named) : shares v (placeholder p.1.toList) = p.2 := by
  have hfirst : StandsAt p.1 (placeholder p.1.toList) 0 := List.prefix_refl _
  have hvalue : share v (placeholder p.1.toList) 0 = p.2 := by
    have hfind := (named_distinguishable v).find?_eq_some hp
      (f := fun q => StandsAt q.1 (placeholder p.1.toList) 0) fun q hq => by
        rw [decide_eq_true_iff]
        exact ⟨fun hstands => (hfirst.name_eq hp hq hstands).symm, fun heq => heq ▸ hfirst⟩
    rw [share, hfind]
  have hwithin : ∀ k < p.1.toList.length + 1,
      share v (placeholder p.1.toList) (k + 1) = [] := by
    intro k hk
    have hspan : k + 1 < span p.1 := by
      rw [span, placeholder]
      simp
      omega
    have hfind : (v.named.find? fun q => StandsAt q.1 (placeholder p.1.toList) (k + 1)) =
        none := by
      rw [List.find?_eq_none]
      intro q hq hstands
      have hle := hfirst.span_le hp (of_decide_eq_true hstands) (Nat.succ_pos k)
      omega
    rw [share, hfind]
    exact if_pos ⟨0, Nat.succ_pos k, p, hp, hfirst, by omega⟩
  have hlength : (placeholder p.1.toList).length = p.1.toList.length + 1 + 1 := by
    simp [placeholder]
  rw [shares, hlength, List.range_succ_eq_map, List.flatMap_cons, List.flatMap_map, hvalue,
    List.flatMap_eq_nil_iff.mpr fun k hk => hwithin k (List.mem_range.mp hk), List.append_nil]

theorem shares_single {c : Char} (h : ∀ p ∈ v.named, ¬placeholder p.1.toList <+: [c]) :
    shares v [c] = [c] := by
  have hfind : (v.named.find? fun p => StandsAt p.1 [c] 0) = none := by
    rw [List.find?_eq_none]
    exact fun p hp hstands => h p hp (of_decide_eq_true hstands)
  simp [shares, share, hfind]

theorem expand_eq_shares (v : PageValues) (t : Text) : expand t v = shares v t := by
  induction t using reading_induction v.named with
  | nil => rfl
  | placed p hp r ih =>
      rw [expand_placeholder hp, shares_append (not_straddles_placeholder hp r),
        shares_placeholder hp, ih]
  | single c r hnone ih =>
      have hc : ∀ p ∈ v.named, ¬placeholder p.1.toList <+: [c] :=
        fun p hp hstands => hnone p hp (hstands.trans (List.prefix_append [c] r))
      have hcut : shares v (c :: r) = shares v [c] ++ shares v r :=
        shares_append (not_straddles_single hnone)
      rw [expand_single hnone, hcut, shares_single hc, ih, List.singleton_append]

end

/-- A template is filled in place by place, each on its own: the placeholders of the page do not
overlap, and every one of them gives its value and every other character itself. Reading from brace
to brace comes to that, and so a template can be cut where no placeholder is. -/
theorem expand_simultaneous (v : PageValues) (t : Text) :
    expand t v = shares v t ∧
      fillBraces v t = expand t v ∧
      (∀ p ∈ v.named, ∀ q ∈ v.named, ∀ i j, StandsAt p.1 t i → StandsAt q.1 t j →
        i < j → i + span p.1 ≤ j) ∧
      ∀ a b, t = a ++ b → ¬Straddles v a b → expand t v = expand a v ++ expand b v := by
  refine ⟨expand_eq_shares v t, fillBraces_eq_expand v t, ?_, ?_⟩
  · intro p hp q _ i j hi hj hij
    exact hi.span_le hp hj hij
  · rintro a b rfl h
    rw [expand_eq_shares, expand_eq_shares, expand_eq_shares, shares_append h]

/-- Placeholders among stray braces and next to a name without a value. -/
theorem expand_simultaneous_nested :
    let v : PageValues :=
      { title := Text.lit "\x7burl\x7d", url := ['U'], domain := [], path := [], selectedText := [] }
    let a := Text.lit "\x7b\x7btitle\x7d"
    let b := Text.lit "\x7d\x7bfoo\x7d\x7burl\x7d\x7bti"
    StandsAt "title" (a ++ b) 1 ∧ StandsAt "url" (a ++ b) 14 ∧ 1 + span "title" ≤ 14 ∧
      ¬Straddles v a b ∧
      expand (a ++ b) v = Text.lit "\x7b\x7burl\x7d" ++ Text.lit "\x7d\x7bfoo\x7dU\x7bti" := by
  intro v a b
  have htitle : StandsAt "title" (a ++ b) 1 := by decide
  have hurl : StandsAt "url" (a ++ b) 14 := by decide
  have hcut : ¬Straddles v a b := by
    unfold Straddles
    decide
  obtain ⟨-, -, hspan, happend⟩ := expand_simultaneous v (a ++ b)
  refine ⟨htitle, hurl, ?_, hcut, ?_⟩
  · exact hspan ("title", v.title) List.mem_cons_self ("url", v.url)
      (List.mem_cons_of_mem _ List.mem_cons_self) 1 14 htitle hurl (by decide)
  · rw [happend a b rfl hcut, (expand_simultaneous v a).1, (expand_simultaneous v b).1]
    decide

end CopyFormat.Template

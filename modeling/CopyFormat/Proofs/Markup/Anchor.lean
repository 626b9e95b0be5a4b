import CopyFormat.Preset.Builtin
import CopyFormat.Proofs.Text.Basic
import CopyFormat.Proofs.Text.Rewrite

/-!
Reading an HTML anchor back. What ends the text of an anchor is escaped in the title, so the title
never ends it early. The address is written as it is: a quote in it ends the attribute. Ampersands
are left alone too, so a title that already holds an entity comes back with the character that this
stands for, and every other title comes back as it is.
-/

namespace CopyFormat.Markup

variable {t : Text} {c : Char}

def IsSpecial (c : Char) : Prop := c = '<' ∨ c = '>' ∨ c = '"'

instance (c : Char) : Decidable (IsSpecial c) := inferInstanceAs (Decidable (_ ∨ _ ∨ _))

theorem html_cons (c : Char) (t : Text) : html (c :: t) = htmlChar c ++ html t := rfl

theorem not_special_iff : ¬IsSpecial c ↔ c ≠ '<' ∧ c ≠ '>' ∧ c ≠ '"' := by
  rw [IsSpecial, not_or, not_or]

theorem htmlChar_of_not_special (hc : ¬IsSpecial c) : htmlChar c = [c] := by
  obtain ⟨hless, hgreater, hquote⟩ := not_special_iff.mp hc
  rw [htmlChar]
  · exact hless
  · exact hgreater
  · exact hquote

theorem html_cons_of_not_special (hc : ¬IsSpecial c) (t : Text) : html (c :: t) = c :: html t := by
  rw [html_cons, htmlChar_of_not_special hc]
  rfl

theorem exists_of_htmlChar (hc : IsSpecial c) :
    ∃ name, htmlChar c = '&' :: name ∧ ∀ d ∈ htmlChar c, ¬IsSpecial d := by
  rcases hc with rfl | rfl | rfl
  · exact ⟨Text.lit "lt;", rfl, by simp [htmlChar, IsSpecial, Text.lit]⟩
  · exact ⟨Text.lit "gt;", rfl, by simp [htmlChar, IsSpecial, Text.lit]⟩
  · exact ⟨Text.lit "quot;", rfl, by simp [htmlChar, IsSpecial, Text.lit]⟩

theorem htmlChar_ne_nil (c : Char) : htmlChar c ≠ [] := by
  unfold htmlChar
  split <;> simp

theorem not_special_of_mem_html (h : c ∈ html t) : ¬IsSpecial c := by
  obtain ⟨d, -, hmem⟩ := List.mem_flatMap.mp h
  by_cases hd : IsSpecial d
  · obtain ⟨-, -, hnone⟩ := exists_of_htmlChar hd
    exact hnone c hmem
  · rw [htmlChar_of_not_special hd, List.mem_singleton] at hmem
    rwa [hmem]

/-- The text of an element is escaped one kind of character after the other. What has been written
for one kind is not escaped again for the next. -/
theorem html_eq_replaceAll (t : Text) :
    html t = Text.replaceAll (Text.replaceAll (Text.replaceAll t ['<'] (Text.lit "&lt;"))
      ['>'] (Text.lit "&gt;")) ['"'] (Text.lit "&quot;") := by
  simp only [Text.replaceAll_char, List.flatMap_assoc]
  rw [html]
  congr 1
  funext c
  by_cases hc : IsSpecial c
  · rcases hc with rfl | rfl | rfl <;> rfl
  · obtain ⟨hless, hgreater, hquote⟩ := not_special_iff.mp hc
    simp [htmlChar_of_not_special hc, hless, hgreater, hquote]

theorem prefix_of_prefix_html {lead : Text} (hlead : '&' ∉ lead) (h : lead <+: html t) :
    lead <+: t := by
  induction lead generalizing t with
  | nil => exact List.nil_prefix
  | cons d lead ih =>
      rw [List.mem_cons, not_or] at hlead
      cases t with
      | nil => simp [html] at h
      | cons c t =>
          by_cases hc : IsSpecial c
          · obtain ⟨name, hname, -⟩ := exists_of_htmlChar hc
            rw [html_cons, hname, List.cons_append, List.cons_prefix_cons] at h
            exact absurd h.1.symm hlead.1
          · rw [html_cons_of_not_special hc, List.cons_prefix_cons] at h
            exact List.cons_prefix_cons.mpr ⟨h.1, ih hlead.2 h.2⟩

/-- The entities that can stand in the text of an element, with the characters they stand for. -/
def entities : List (Text × Char) :=
  [(Text.lit "&lt;", '<'), (Text.lit "&gt;", '>'), (Text.lit "&quot;", '"'),
    (Text.lit "&amp;", '&')]

/-- The character that the entity at the front of a text stands for, and how long the entity is. -/
def entityAt? (t : Text) : Option (Text × Nat) :=
  (entities.find? fun e => e.1.isPrefixOf t).map fun e => ([e.2], e.1.length)

/-- A text in which each entity is read as its character, in one pass from left to right. -/
def decode (t : Text) : Text := Text.rewrite entityAt? 0 t

def IsEntityFree (t : Text) : Prop := ∀ e ∈ entities, ¬e.1 <:+: t

instance (t : Text) : Decidable (IsEntityFree t) :=
  inferInstanceAs (Decidable (∀ e ∈ entities, ¬e.1 <:+: t))

theorem exists_of_mem_entities {e : Text × Char} (he : e ∈ entities) :
    ∃ name, e.1 = '&' :: name ∧ '&' ∉ name := by
  simp only [entities, List.mem_cons, List.not_mem_nil, or_false] at he
  rcases he with rfl | rfl | rfl | rfl
  · exact ⟨Text.lit "lt;", rfl, by decide⟩
  · exact ⟨Text.lit "gt;", rfl, by decide⟩
  · exact ⟨Text.lit "quot;", rfl, by decide⟩
  · exact ⟨Text.lit "amp;", rfl, by decide⟩

theorem decode_htmlChar_append (hc : IsSpecial c) (t : Text) :
    decode (htmlChar c ++ t) = c :: decode t := by
  have hread : entityAt? (htmlChar c ++ t) = some ([c], (htmlChar c).length) := by
    rcases hc with rfl | rfl | rfl <;> rfl
  exact Text.rewrite_of_some (htmlChar_ne_nil c) hread

theorem decode_cons_of_none (h : ∀ e ∈ entities, ¬e.1 <+: c :: t) :
    decode (c :: t) = c :: decode t := by
  apply Text.rewrite_of_none
  rw [entityAt?, Option.map_eq_none_iff, List.find?_eq_none]
  intro e he
  rw [List.isPrefixOf_iff_prefix]
  exact h e he

theorem IsEntityFree.of_cons (h : IsEntityFree (c :: t)) : IsEntityFree t :=
  fun e he hstands => h e he (hstands.trans (List.suffix_cons c t).isInfix)

theorem not_prefix_cons_html (h : IsEntityFree (c :: t)) {e : Text × Char} (he : e ∈ entities) :
    ¬e.1 <+: c :: html t := by
  obtain ⟨name, hname, hamp⟩ := exists_of_mem_entities he
  intro hlead
  rw [hname, List.cons_prefix_cons] at hlead
  have hstands : e.1 <+: c :: t := by
    rw [hname, List.cons_prefix_cons]
    exact ⟨hlead.1, prefix_of_prefix_html hamp hlead.2⟩
  exact h e he hstands.isInfix

theorem decode_html (h : IsEntityFree t) : decode (html t) = t := by
  induction t with
  | nil => rfl
  | cons c t ih =>
      by_cases hc : IsSpecial c
      · rw [html_cons, decode_htmlChar_append hc, ih h.of_cons]
      · rw [html_cons_of_not_special hc, decode_cons_of_none fun e he => not_prefix_cons_html h he,
          ih h.of_cons]

/-- Reads an anchor: the value of its attribute, which the next quote ends, and its text, which the
next `<` ends. Nothing follows the closing tag. -/
def readAnchor? (t : Text) : Option (Text × Text) := do
  let behind ← Text.after? (Text.lit "<a href=\"") t
  let (address, behind) ← Text.cut? ['"'] behind
  let behind ← Text.after? ['>'] behind
  let (label, behind) ← Text.cut? ['<'] behind
  if behind = Text.lit "/a>" then some (address, label) else none

theorem readAnchor?_eq_some_iff {address label : Text} :
    readAnchor? t = some (address, label) ↔
      t = Text.lit "<a href=\"" ++ (address ++ '"' :: ('>' :: (label ++ '<' :: Text.lit "/a>"))) ∧
        '"' ∉ address ∧ '<' ∉ label := by
  rw [readAnchor?]
  simp only [Option.bind_eq_bind, Option.bind_eq_some_iff, Text.after?_eq_some_iff, Prod.exists,
    Text.cut?_mark_eq_some_iff, Option.ite_none_right_eq_some, Option.some.injEq, Prod.mk.injEq]
  constructor
  · rintro ⟨_, rfl, _, _, ⟨rfl, haddress⟩, _, rfl, _, _, ⟨rfl, hlabel⟩, rfl, rfl, rfl⟩
    exact ⟨rfl, haddress, hlabel⟩
  · rintro ⟨rfl, haddress, hlabel⟩
    exact ⟨_, rfl, _, _, ⟨rfl, haddress⟩, _, rfl, _, _, ⟨rfl, hlabel⟩, rfl, rfl, rfl⟩

theorem render_html (p : Page) :
    Builtin.html.render p = Text.lit "<a href=\"" ++
      (p.url ++ '"' :: ('>' :: (html p.title ++ '<' :: Text.lit "/a>"))) := by
  change Text.lit "<a href=\"" ++ p.url ++ '"' :: '>' :: html p.title ++ '<' :: Text.lit "/a>" = _
  rw [List.append_assoc, List.append_assoc, List.cons_append, List.cons_append]

/-- The anchor of a page gives back the address, and the title once its entities are read. -/
def AnchorReadable (p : Page) : Prop :=
  (readAnchor? (Builtin.html.render p)).map (fun a => (a.1, decode a.2)) = some (p.url, p.title)

instance (p : Page) : Decidable (AnchorReadable p) := inferInstanceAs (Decidable (_ = _))

/-- The address ends the attribute early just when it holds a quote, and no title ends the text of
the anchor early. A title that holds no entity is read back as it is. -/
theorem anchor_readable (p : Page) :
    (readAnchor? (Builtin.html.render p) = some (p.url, html p.title) ↔ '"' ∉ p.url) ∧
      ('"' ∉ p.url → IsEntityFree p.title → AnchorReadable p) := by
  have hlabel : '<' ∉ html p.title := fun h => not_special_of_mem_html h (.inl rfl)
  have hread : readAnchor? (Builtin.html.render p) = some (p.url, html p.title) ↔ '"' ∉ p.url := by
    rw [readAnchor?_eq_some_iff]
    exact ⟨fun h => h.2.1, fun h => ⟨render_html p, h, hlabel⟩⟩
  refine ⟨hread, fun hurl htitle => ?_⟩
  rw [AnchorReadable, hread.mpr hurl, Option.map_some, decode_html htitle]

/-- What looks like markup comes back, in the title and in the address. -/
theorem anchor_readable_escaped :
    let p : Page := { title := Text.lit "<b> & \"c\" &lt ;", url := Text.lit "?a=1&lt;=</a>" }
    '"' ∉ p.url ∧ IsEntityFree p.title ∧ AnchorReadable p := by
  intro p
  have hurl : '"' ∉ p.url := by decide
  have htitle : IsEntityFree p.title := by decide
  exact ⟨hurl, htitle, (anchor_readable p).2 hurl htitle⟩

/-- A quote in the address ends the attribute, and a title that is an entity comes back as the
character that this stands for. -/
theorem anchor_not_read :
    ¬AnchorReadable { title := ['t'], url := ['"'] } ∧
      ¬AnchorReadable { title := Text.lit "&lt;", url := ['u'] } := by
  decide

end CopyFormat.Markup

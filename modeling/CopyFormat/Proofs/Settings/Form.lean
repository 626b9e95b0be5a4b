import CopyFormat.Proofs.Settings.RoundTrip

/-!
The form in which settings are stored, field by field: how a field looks for each value of it, and
which value counts when it is left out. What is read is exactly what has the form.
-/

namespace CopyFormat

open Json

/-! ### Records -/

namespace Json

variable {α β : Type} {j : Json}

/-- Whether a value is a record with `n` fields: an object, or an array that is not too long. -/
def IsRecord (n : Nat) : Json → Prop
  | .object _ => True
  | .array items => items.length ≤ n
  | _ => False

/-- A field of a record: in an object it stands under its key, in an array at its place. -/
def slot? (key : Text) (i : Nat) : Json → Option Json
  | .object fields => field? key fields
  | .array items => items[i]?
  | _ => none

theorem record?_eq_some_iff {keys : List Text} {slots : List (Option Json)} :
    record? keys j = some slots ↔
      j.IsRecord keys.length ∧ keys.zipIdx.map (fun p => j.slot? p.1 p.2) = slots := by
  cases j with
  | object fields =>
      have hslots : keys.zipIdx.map (fun p => (Json.object fields).slot? p.1 p.2) =
          keys.map fun k => field? k fields := by
        calc
          _ = (keys.zipIdx.map Prod.fst).map fun k => field? k fields := (List.map_map ..).symm
          _ = _ := by rw [List.zipIdx_map_fst]
      rw [record?, hslots, Option.some.injEq, IsRecord, true_and]
  | array items =>
      rw [record?, IsRecord]
      by_cases hlength : items.length ≤ keys.length
      · have hslots : keys.zipIdx.map (fun p => (Json.array items).slot? p.1 p.2) =
            items.map some ++ List.replicate (keys.length - items.length) none := by
          refine List.ext_getElem (by simp [hlength]) fun i hi _ => ?_
          simp only [List.getElem_map, List.getElem_zipIdx, slot?, List.getElem_append,
            List.getElem_replicate, List.length_map, Nat.zero_add]
          split
          · rename_i hitem
            exact List.getElem?_eq_getElem hitem
          · rename_i hitem
            exact List.getElem?_eq_none (Nat.le_of_not_lt hitem)
        rw [if_pos hlength, hslots, Option.some.injEq]
        simp [hlength]
      · simp [hlength]
  | _ => simp [record?, IsRecord]

/-- What a field that may be left out says: the usual value if it is left out, else the value whose
form it has. -/
def Says (form : Json → α → Prop) (usual : α) : Option Json → α → Prop
  | none, a => a = usual
  | some j, a => form j a

/-- Whether a field is there and has the form of no value. -/
def Unreadable (form : Json → α → Prop) (v : Option Json) : Prop :=
  ∃ j, v = some j ∧ ∀ a, ¬form j a

theorem exists_says_iff {form : Json → α → Prop} (usual : α) {v : Option Json} :
    (∃ a, Says form usual v a) ↔ ¬Unreadable form v := by
  cases v with
  | none => simp [Says, Unreadable]
  | some j => simp [Says, Unreadable]

theorem optional_eq_some_iff {d : Decoder α} {form : Json → α → Prop}
    (hd : ∀ j a, d j = some a ↔ form j a) {usual a : α} {v : Option Json} :
    Json.optional d usual v = some a ↔ Says form usual v a := by
  cases v with
  | none =>
      rw [Json.optional, Says, Option.some.injEq]
      exact eq_comm
  | some j => exact hd j a

theorem optional_or {d : Decoder α} {usual other : α} {j : Json} (h : d j = some usual)
    (v : Option Json) : Json.optional d other (v.or (some j)) = Json.optional d usual v := by
  cases v with
  | none => exact h
  | some i => rfl

theorem required_eq_some_iff {d : Decoder α} {form : Json → α → Prop}
    (hd : ∀ j a, d j = some a ↔ form j a) {a : α} {v : Option Json} :
    required d v = some a ↔ ∃ j, v = some j ∧ form j a := by
  rw [required, Option.bind_eq_bind, Option.bind_eq_some_iff]
  simp only [hd]

/-- The fields of a value; one that is no object has none. -/
def ownFields : Json → Fields
  | .object fields => fields
  | _ => []

/-! ### Single values -/

def IsText (j : Json) (t : Text) : Prop := j = .text t

/-- A natural number of 64 bits, written without point and exponent. -/
def IsNatural (j : Json) (n : Nat) : Prop := j = .number (.whole n) ∧ (n : Int) ≤ maxWhole

/-- An array whose items have the given forms. -/
def IsList (form : Json → α → Prop) (j : Json) (l : List α) : Prop :=
  ∃ items, j = .array items ∧ List.Forall₂ form items l

abbrev IsTexts : Json → List Text → Prop := IsList IsText

theorem Decoder.text_eq_some_iff (j : Json) (t : Text) : Decoder.text j = some t ↔ IsText j t := by
  cases j <;> simp [Decoder.text, IsText]

theorem Decoder.natural_eq_some_iff (j : Json) (n : Nat) :
    Decoder.natural j = some n ↔ IsNatural j n := by
  constructor
  · intro h
    refine ⟨?_, le_of_natural h⟩
    unfold Decoder.natural at h
    split at h
    · split at h
      · rename_i hrange
        cases h
        rw [Int.toNat_of_nonneg hrange.1]
      · cases h
    · cases h
  · rintro ⟨rfl, hn⟩
    exact natural_whole hn

theorem mapM_eq_some_iff {f : β → Option α} {items : List β} {l : List α} :
    items.mapM f = some l ↔ List.Forall₂ (fun b a => f b = some a) items l := by
  induction items generalizing l with
  | nil => simp [eq_comm]
  | cons b items ih =>
      rw [List.mapM_cons, List.forall₂_cons_left_iff, Option.bind_eq_bind, Option.bind_eq_some_iff]
      simp only [Option.bind_eq_bind, Option.bind_eq_some_iff, ih, Option.pure_def,
        Option.some.injEq, eq_comm (b := l), exists_and_left]

theorem Decoder.list_eq_some_iff {item : Decoder α} {form : Json → α → Prop}
    (h : ∀ j a, item j = some a ↔ form j a) (j : Json) (l : List α) :
    Decoder.list item j = some l ↔ IsList form j l := by
  cases j with
  | array items =>
      rw [Decoder.list, mapM_eq_some_iff]
      simp only [h, IsList, Json.array.injEq, exists_eq_left']
  | _ => simp [Decoder.list, IsList]

theorem Decoder.texts_eq_some_iff (j : Json) (l : List Text) :
    Decoder.list Decoder.text j = some l ↔ IsTexts j l :=
  list_eq_some_iff text_eq_some_iff j l

end Json

/-! ### Formats, limits and settings -/

/-- The stored form of a custom format. -/
structure CustomFormat.Form (j : Json) (f : CustomFormat) : Prop where
  record : j.IsRecord 6
  id : ∃ v, j.slot? (Text.lit "id") 0 = some v ∧ IsText v f.id
  name : ∃ v, j.slot? (Text.lit "name") 1 = some v ∧ IsText v f.name
  template : ∃ v, j.slot? (Text.lit "template") 2 = some v ∧ IsText v f.template
  searchPattern : Says IsText [] (j.slot? (Text.lit "searchPattern") 3) f.searchPattern
  replacePattern : Says IsText [] (j.slot? (Text.lit "replacePattern") 4) f.replacePattern
  scriptSource : Says IsText [] (j.slot? (Text.lit "scriptSource") 5) f.scriptSource

theorem CustomFormat.ofJson?_eq_some_iff (j : Json) (f : CustomFormat) :
    ofJson? j = some f ↔ Form j f := by
  have hkeys : keys.zipIdx.map (fun p => j.slot? p.1 p.2) =
      [j.slot? (Text.lit "id") 0, j.slot? (Text.lit "name") 1, j.slot? (Text.lit "template") 2,
        j.slot? (Text.lit "searchPattern") 3, j.slot? (Text.lit "replacePattern") 4,
        j.slot? (Text.lit "scriptSource") 5] := by rfl
  have hlength : keys.length = 6 := by rfl
  constructor
  · intro h
    obtain ⟨slots, hrecord, h⟩ := Option.bind_eq_some_iff.mp h
    rw [record?_eq_some_iff, hkeys, hlength] at hrecord
    obtain ⟨hrecord, rfl⟩ := hrecord
    obtain ⟨id, hid, h⟩ := Option.bind_eq_some_iff.mp h
    obtain ⟨name, hname, h⟩ := Option.bind_eq_some_iff.mp h
    obtain ⟨template, htemplate, h⟩ := Option.bind_eq_some_iff.mp h
    obtain ⟨search, hsearch, h⟩ := Option.bind_eq_some_iff.mp h
    obtain ⟨replacement, hreplacement, h⟩ := Option.bind_eq_some_iff.mp h
    obtain ⟨script, hscript, h⟩ := Option.bind_eq_some_iff.mp h
    cases h
    exact {
      record := hrecord
      id := (required_eq_some_iff Decoder.text_eq_some_iff).mp hid
      name := (required_eq_some_iff Decoder.text_eq_some_iff).mp hname
      template := (required_eq_some_iff Decoder.text_eq_some_iff).mp htemplate
      searchPattern := (optional_eq_some_iff Decoder.text_eq_some_iff).mp hsearch
      replacePattern := (optional_eq_some_iff Decoder.text_eq_some_iff).mp hreplacement
      scriptSource := (optional_eq_some_iff Decoder.text_eq_some_iff).mp hscript }
  · intro h
    have hrecord := record?_eq_some_iff.mpr ⟨hlength ▸ h.record, hkeys⟩
    rw [ofJson?, hrecord]
    simp only [Option.bind_eq_bind, Option.bind_some,
      (required_eq_some_iff Decoder.text_eq_some_iff).mpr h.id,
      (required_eq_some_iff Decoder.text_eq_some_iff).mpr h.name,
      (required_eq_some_iff Decoder.text_eq_some_iff).mpr h.template,
      (optional_eq_some_iff Decoder.text_eq_some_iff).mpr h.searchPattern,
      (optional_eq_some_iff Decoder.text_eq_some_iff).mpr h.replacePattern,
      (optional_eq_some_iff Decoder.text_eq_some_iff).mpr h.scriptSource]
    rfl

/-- The stored form of the limits of scripts. -/
structure Script.Limits.Form (j : Json) (l : Limits) : Prop where
  record : j.IsRecord 3
  milliseconds : Says IsNatural 1000 (j.slot? (Text.lit "evalTimeoutMs") 0) l.milliseconds
  depth : Says IsNatural 16 (j.slot? (Text.lit "maxDepth") 1) l.depth
  deniedWords : Says IsTexts [] (j.slot? (Text.lit "extraDeniedWords") 2) l.deniedWords

theorem Script.Limits.ofJson?_eq_some_iff (j : Json) (l : Limits) :
    ofJson? j = some l ↔ Form j l := by
  have hkeys : keys.zipIdx.map (fun p => j.slot? p.1 p.2) =
      [j.slot? (Text.lit "evalTimeoutMs") 0, j.slot? (Text.lit "maxDepth") 1,
        j.slot? (Text.lit "extraDeniedWords") 2] := by rfl
  have hlength : keys.length = 3 := by rfl
  constructor
  · intro h
    obtain ⟨slots, hrecord, h⟩ := Option.bind_eq_some_iff.mp h
    rw [record?_eq_some_iff, hkeys, hlength] at hrecord
    obtain ⟨hrecord, rfl⟩ := hrecord
    obtain ⟨milliseconds, hmilliseconds, h⟩ := Option.bind_eq_some_iff.mp h
    obtain ⟨depth, hdepth, h⟩ := Option.bind_eq_some_iff.mp h
    obtain ⟨words, hwords, h⟩ := Option.bind_eq_some_iff.mp h
    cases h
    exact {
      record := hrecord
      milliseconds := (optional_eq_some_iff Decoder.natural_eq_some_iff).mp hmilliseconds
      depth := (optional_eq_some_iff Decoder.natural_eq_some_iff).mp hdepth
      deniedWords := (optional_eq_some_iff Decoder.texts_eq_some_iff).mp hwords }
  · intro h
    have hrecord := record?_eq_some_iff.mpr ⟨hlength ▸ h.record, hkeys⟩
    rw [ofJson?, hrecord]
    simp only [Option.bind_eq_bind, Option.bind_some,
      (optional_eq_some_iff Decoder.natural_eq_some_iff).mpr h.milliseconds,
      (optional_eq_some_iff Decoder.natural_eq_some_iff).mpr h.depth,
      (optional_eq_some_iff Decoder.texts_eq_some_iff).mpr h.deniedWords]
    rfl

theorem Script.Limits.ofJson?_usual :
    Script.Limits.ofJson? (Script.Limits.toJson {}) = some {} :=
  Script.Limits.ofJson?_toJson Script.Limits.storable_usual

namespace Settings

variable {ids : List Text} {fields : Fields} {s : Settings}

/-- The settings are what the stored fields say, over the usual ones. -/
structure Overrides (ids : List Text) (fields : Fields) (s : Settings) : Prop where
  enabledPresets : Says IsTexts ids (field? (Text.lit "enabledPresets") fields) s.enabledPresets
  presetOrder : Says IsTexts ids (field? (Text.lit "presetOrder") fields) s.presetOrder
  customFormats :
    Says (IsList CustomFormat.Form) [] (field? (Text.lit "customFormats") fields) s.customFormats
  engine : Says Script.Limits.Form {} (field? (Text.lit "engine") fields) s.engine

/-- Whether a field of settings is there and cannot be read. -/
def Spoiled (fields : Fields) : Prop :=
  Unreadable IsTexts (field? (Text.lit "enabledPresets") fields) ∨
    Unreadable IsTexts (field? (Text.lit "presetOrder") fields) ∨
    Unreadable (IsList CustomFormat.Form) (field? (Text.lit "customFormats") fields) ∨
    Unreadable Script.Limits.Form (field? (Text.lit "engine") fields)

theorem exists_overrides_iff (ids : List Text) :
    (∃ s, Overrides ids fields s) ↔ ¬Spoiled fields := by
  -- Each field can be read by itself, so that the values can be chosen one by one.
  simp only [Spoiled, not_or, ← exists_says_iff ids, ← exists_says_iff [],
    ← exists_says_iff ({} : Script.Limits)]
  constructor
  · rintro ⟨s, h⟩
    exact ⟨⟨_, h.enabledPresets⟩, ⟨_, h.presetOrder⟩, ⟨_, h.customFormats⟩, ⟨_, h.engine⟩⟩
  · rintro ⟨⟨enabled, henabled⟩, ⟨order, horder⟩, ⟨formats, hformats⟩, ⟨engine, hengine⟩⟩
    exact ⟨⟨enabled, order, formats, engine⟩, henabled, horder, hformats, hengine⟩

theorem overUsual?_eq (ids : List Text) (stored : Json) :
    overUsual? ids stored = ofJson? (.object (overlay (usual ids).toFields stored.ownFields)) := by
  cases stored with
  | object fields => rfl
  | _ => simp [overUsual?, ownFields, overlay]

theorem overUsual?_eq_some_iff {stored : Json} (hsorted : Sorted stored.ownFields) :
    overUsual? ids stored = some s ↔ Overrides ids stored.ownFields s := by
  have hrecord : record? keys (.object (overlay (usual ids).toFields stored.ownFields)) =
      some [(field? (Text.lit "enabledPresets") stored.ownFields).or (some (.texts ids)),
        (field? (Text.lit "presetOrder") stored.ownFields).or (some (.texts ids)),
        (field? (Text.lit "customFormats") stored.ownFields).or (some (.array [])),
        (field? (Text.lit "engine") stored.ownFields).or (some (Script.Limits.toJson {}))] := by
    rw [record?]
    simp only [field?_overlay hsorted]
    rfl
  have htexts : Decoder.list Decoder.text (.texts ids) = some ids := Decoder.list_texts ids
  have hnone : Decoder.list CustomFormat.ofJson? (.array []) = some [] := rfl
  rw [overUsual?_eq, ofJson?, hrecord]
  simp only [Option.bind_eq_bind, Option.bind_some, optional_or htexts, optional_or hnone,
    optional_or Script.Limits.ofJson?_usual]
  constructor
  · intro h
    obtain ⟨enabled, henabled, h⟩ := Option.bind_eq_some_iff.mp h
    obtain ⟨order, horder, h⟩ := Option.bind_eq_some_iff.mp h
    obtain ⟨formats, hformats, h⟩ := Option.bind_eq_some_iff.mp h
    obtain ⟨engine, hengine, h⟩ := Option.bind_eq_some_iff.mp h
    cases h
    exact {
      enabledPresets := (optional_eq_some_iff Decoder.texts_eq_some_iff).mp henabled
      presetOrder := (optional_eq_some_iff Decoder.texts_eq_some_iff).mp horder
      customFormats := (optional_eq_some_iff
        (Decoder.list_eq_some_iff CustomFormat.ofJson?_eq_some_iff)).mp hformats
      engine := (optional_eq_some_iff Script.Limits.ofJson?_eq_some_iff).mp hengine }
  · intro h
    simp only [(optional_eq_some_iff Decoder.texts_eq_some_iff).mpr h.enabledPresets,
      (optional_eq_some_iff Decoder.texts_eq_some_iff).mpr h.presetOrder,
      (optional_eq_some_iff
        (Decoder.list_eq_some_iff CustomFormat.ofJson?_eq_some_iff)).mpr h.customFormats,
      (optional_eq_some_iff Script.Limits.ofJson?_eq_some_iff).mpr h.engine, Option.bind_some]
    rfl

theorem overUsual?_eq_none_iff {stored : Json} (hsorted : Sorted stored.ownFields) :
    overUsual? ids stored = none ↔ Spoiled stored.ownFields := by
  rw [Option.eq_none_iff_forall_ne_some, ← not_iff_not, ← exists_overrides_iff ids]
  simp only [not_forall, not_not, ← overUsual?_eq_some_iff hsorted, ne_eq]

end Settings

end CopyFormat

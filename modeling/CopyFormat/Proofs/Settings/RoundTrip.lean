import CopyFormat.Proofs.Json.Normal
import CopyFormat.Settings.Basic

/-!
Settings come back from their stored form as they were.
-/

namespace CopyFormat

open Json

theorem Json.Decoder.list_map {α : Type} {item : Decoder α} {form : α → Json} {l : List α}
    (h : ∀ a ∈ l, item (form a) = some a) :
    Decoder.list item (.array (l.map form)) = some l := by
  change (l.map form).mapM item = some l
  induction l with
  | nil => rfl
  | cons a l ih =>
      obtain ⟨ha, hl⟩ := List.forall_mem_cons.mp h
      rw [List.map_cons, List.mapM_cons, ha, ih hl]
      rfl

theorem Json.Decoder.list_texts (l : List Text) : Decoder.list Decoder.text (.texts l) = some l :=
  list_map fun _ _ => rfl

theorem Json.normal_texts {p : Number → Prop} (l : List Text) : Normal p 1 (.texts l) := by
  refine .array fun v hv => ?_
  obtain ⟨t, -, rfl⟩ := List.mem_map.mp hv
  exact .text t

theorem Json.normal_overlay {p : Number → Prop} {d : Nat} {base newer : Fields}
    (hbase : Normal p (d + 1) (.object base)) (hnewer : ∀ f ∈ newer, Normal p d f.2) :
    Normal p (d + 1) (.object (overlay base newer)) := by
  induction newer generalizing base with
  | nil => exact hbase
  | cons f newer ih =>
      obtain ⟨hf, hnewer⟩ := List.forall_mem_cons.mp hnewer
      exact ih (hbase.setField _ hf) hnewer

theorem Json.normal_ofFields {p : Number → Prop} {d : Nat} {keys : List Text} {values : List Json}
    (h : ∀ v ∈ values, Normal p d v) : Normal p (d + 1) (ofFields (keys.zip values)) :=
  normal_overlay (.object List.Pairwise.nil (by simp)) fun f hf => h f.2 (List.of_mem_zip hf).2

theorem Json.of_optional {α : Type} {p : α → Prop} {d : Decoder α} {usual a : α}
    {v : Option Json} (husual : p usual) (hd : ∀ j a, d j = some a → p a)
    (h : Json.optional d usual v = some a) : p a := by
  cases v with
  | none =>
      cases h
      exact husual
  | some j => exact hd j a h

namespace CustomFormat

theorem ofJson?_toJson (f : CustomFormat) : ofJson? f.toJson = some f := by
  rfl

theorem normal_toJson {p : Number → Prop} (f : CustomFormat) : Normal p 1 f.toJson := by
  refine normal_ofFields fun v hv => ?_
  obtain ⟨t, -, rfl⟩ := List.mem_map.mp hv
  exact .text t

end CustomFormat

theorem Json.Decoder.natural_whole {n : Nat} (h : (n : Int) ≤ maxWhole) :
    Decoder.natural (.number (.whole n)) = some n := by
  rw [Decoder.natural, if_pos ⟨Int.natCast_nonneg n, h⟩, Int.toNat_natCast]

theorem Json.Decoder.le_of_natural {j : Json} {n : Nat} (h : Decoder.natural j = some n) :
    (n : Int) ≤ maxWhole := by
  unfold Decoder.natural at h
  split at h
  · split at h
    · rename_i hrange
      cases h
      rw [Int.toNat_of_nonneg hrange.1]
      exact hrange.2
    · cases h
  · cases h

namespace Script.Limits

/-- Whether the numbers among the limits can be stored. -/
structure Storable (l : Limits) : Prop where
  milliseconds_le : (l.milliseconds : Int) ≤ maxWhole
  depth_le : (l.depth : Int) ≤ maxWhole

theorem storable_usual : Storable {} := ⟨by decide, by decide⟩

theorem ofJson?_toJson {l : Limits} (h : l.Storable) : ofJson? l.toJson = some l := by
  have hrecord : record? keys l.toJson =
      some [some (.number (.whole l.milliseconds)), some (.number (.whole l.depth)),
        some (.texts l.deniedWords)] := by rfl
  rw [ofJson?, hrecord]
  simp only [Option.bind_eq_bind, Option.bind_some, Json.optional,
    Decoder.natural_whole h.milliseconds_le, Decoder.natural_whole h.depth_le, Decoder.list_texts]
  rfl

theorem storable_of_ofJson? {j : Json} {l : Limits} (h : ofJson? j = some l) : l.Storable := by
  obtain ⟨fields, -, h⟩ := Option.bind_eq_some_iff.mp h
  split at h
  · obtain ⟨milliseconds, hmilliseconds, h⟩ := Option.bind_eq_some_iff.mp h
    obtain ⟨depth, hdepth, h⟩ := Option.bind_eq_some_iff.mp h
    obtain ⟨words, -, h⟩ := Option.bind_eq_some_iff.mp h
    cases h
    refine ⟨?_, ?_⟩
    · exact of_optional (p := fun n : Nat => (n : Int) ≤ maxWhole) storable_usual.milliseconds_le
        (fun _ _ => Decoder.le_of_natural) hmilliseconds
    · exact of_optional (p := fun n : Nat => (n : Int) ≤ maxWhole) storable_usual.depth_le
        (fun _ _ => Decoder.le_of_natural) hdepth
  · cases h

theorem normal_toJson {l : Limits} (h : l.Storable) : Normal Number.IsInteger 2 l.toJson := by
  have hwhole : ∀ {n : Nat}, (n : Int) ≤ maxWhole →
      Normal Number.IsInteger 1 (.number (.whole n)) := by
    intro n hn
    refine .number ⟨?_, hn⟩
    exact Int.le_trans (by decide) (Int.natCast_nonneg n)
  refine normal_ofFields (List.forall_mem_cons.mpr ⟨hwhole h.milliseconds_le, ?_⟩)
  refine List.forall_mem_cons.mpr ⟨hwhole h.depth_le, ?_⟩
  exact List.forall_mem_singleton.mpr (normal_texts _)

end Script.Limits

namespace Settings

theorem normal_toJson {s : Settings} (h : s.engine.Storable) :
    Normal Number.IsInteger 3 s.toJson := by
  have htexts : ∀ l : List Text, Normal Number.IsInteger 2 (.texts l) :=
    fun l => (normal_texts l).mono (by decide)
  have hformats : Normal Number.IsInteger 2 (.array (s.customFormats.map CustomFormat.toJson)) := by
    refine .array fun v hv => ?_
    obtain ⟨f, -, rfl⟩ := List.mem_map.mp hv
    exact f.normal_toJson
  refine normal_ofFields (List.forall_mem_cons.mpr ⟨htexts _, ?_⟩)
  refine List.forall_mem_cons.mpr ⟨htexts _, List.forall_mem_cons.mpr ⟨hformats, ?_⟩⟩
  exact List.forall_mem_singleton.mpr (Script.Limits.normal_toJson h)

theorem ofJson?_toJson {s : Settings} (h : s.engine.Storable) : ofJson? s.toJson = some s := by
  have hrecord : record? keys s.toJson =
      some [some (.texts s.enabledPresets), some (.texts s.presetOrder),
        some (.array (s.customFormats.map CustomFormat.toJson)), some s.engine.toJson] := by rfl
  have hformats : Decoder.list CustomFormat.ofJson?
      (.array (s.customFormats.map CustomFormat.toJson)) = some s.customFormats :=
    Decoder.list_map fun f _ => f.ofJson?_toJson
  rw [ofJson?, hrecord]
  simp only [Option.bind_eq_bind, Option.bind_some, Json.optional, Decoder.list_texts, hformats,
    Script.Limits.ofJson?_toJson h]
  rfl

theorem overUsual?_toJson (ids : List Text) {s : Settings} (h : s.engine.Storable) :
    overUsual? ids s.toJson = some s := by
  have hoverlay : overlay (usual ids).toFields s.toFields = s.toFields := by rfl
  rw [← ofJson?_toJson h, toJson, overUsual?]
  simp only [hoverlay]

theorem storable_of_ofJson? {j : Json} {s : Settings} (h : ofJson? j = some s) :
    s.engine.Storable := by
  obtain ⟨fields, -, h⟩ := Option.bind_eq_some_iff.mp h
  split at h
  · obtain ⟨enabled, -, h⟩ := Option.bind_eq_some_iff.mp h
    obtain ⟨order, -, h⟩ := Option.bind_eq_some_iff.mp h
    obtain ⟨formats, -, h⟩ := Option.bind_eq_some_iff.mp h
    obtain ⟨engine, hengine, h⟩ := Option.bind_eq_some_iff.mp h
    cases h
    exact of_optional Script.Limits.storable_usual
      (fun _ _ => Script.Limits.storable_of_ofJson?) hengine
  · cases h

theorem storable_of_overUsual? {ids : List Text} {j : Json} {s : Settings}
    (h : overUsual? ids j = some s) : s.engine.Storable := by
  unfold overUsual? at h
  dsimp only at h
  split at h
  · exact storable_of_ofJson? h
  · exact storable_of_ofJson? h

end Settings

end CopyFormat

import CopyFormat.Proofs.Json.Fields
import CopyFormat.Proofs.Json.Token

/-!
The form of the values that are read: their objects are in order, and they do not nest deeper than
may be read.
-/

namespace CopyFormat.Json

variable {p q : Number → Prop} {d : Nat} {v : Json}

/-! ### Normal values -/

/-- The value has at most `d` levels of arrays and objects, all objects are in order, and all
numbers satisfy `p`. -/
inductive Normal (p : Number → Prop) : Nat → Json → Prop
  | null {d : Nat} : Normal p d .null
  | bool {d : Nat} (b : Bool) : Normal p d (.bool b)
  | number {d : Nat} {n : Number} (hn : p n) : Normal p d (.number n)
  | text {d : Nat} (t : Text) : Normal p d (.text t)
  | array {d : Nat} {items : List Json} (h : ∀ v ∈ items, Normal p d v) :
      Normal p (d + 1) (.array items)
  | object {d : Nat} {fields : Fields} (hsorted : Sorted fields)
      (h : ∀ f ∈ fields, Normal p d f.2) : Normal p (d + 1) (.object fields)

inductive Mentions (n : Number) : Json → Prop
  | number : Mentions n (.number n)
  | array {items : List Json} {v : Json} (hv : v ∈ items) (h : Mentions n v) :
      Mentions n (.array items)
  | object {fields : Fields} {f : Text × Json} (hf : f ∈ fields) (h : Mentions n f.2) :
      Mentions n (.object fields)

@[simp]
theorem mentions_number {n m : Number} : Mentions n (.number m) ↔ n = m := by
  constructor
  · rintro ⟨⟩
    rfl
  · rintro rfl
    exact .number

@[simp]
theorem not_mentions_text {n : Number} {t : Text} : ¬Mentions n (.text t) := by
  rintro ⟨⟩

@[simp]
theorem mentions_array {n : Number} {items : List Json} :
    Mentions n (.array items) ↔ ∃ v ∈ items, Mentions n v := by
  constructor
  · rintro ⟨⟩
    exact ⟨_, ‹_›, ‹_›⟩
  · rintro ⟨v, hv, h⟩
    exact .array hv h

@[simp]
theorem mentions_object {n : Number} {fields : Fields} :
    Mentions n (.object fields) ↔ ∃ f ∈ fields, Mentions n f.2 := by
  constructor
  · rintro ⟨⟩
    exact ⟨_, ‹_›, ‹_›⟩
  · rintro ⟨f, hf, h⟩
    exact .object hf h

/-- A value of which nothing is asked but its form. -/
abbrev Shaped : Nat → Json → Prop := Normal fun _ => True

theorem Normal.mono {d' : Nat} (h : Normal p d v) (hd : d ≤ d') : Normal p d' v := by
  induction h generalizing d' with
  | null => exact .null
  | bool b => exact .bool b
  | number hn => exact .number hn
  | text t => exact .text t
  | array _ ih =>
      obtain ⟨e, rfl⟩ : ∃ e, d' = e + 1 := ⟨d' - 1, by omega⟩
      exact .array fun v hv => ih v hv (by omega)
  | object hsorted _ ih =>
      obtain ⟨e, rfl⟩ : ∃ e, d' = e + 1 := ⟨d' - 1, by omega⟩
      exact .object hsorted fun f hf => ih f hf (by omega)

theorem Normal.of_mentions (h : Normal p d v) (hq : ∀ n, Mentions n v → q n) :
    Normal q d v := by
  induction h with
  | null => exact .null
  | bool b => exact .bool b
  | number hn => exact .number (hq _ .number)
  | text t => exact .text t
  | array _ ih => exact .array fun v hv => ih v hv fun n hn => hq n (.array hv hn)
  | object hsorted _ ih =>
      exact .object hsorted fun f hf => ih f hf fun n hn => hq n (.object hf hn)

theorem Normal.mentions (h : Normal p d v) {n : Number} (hn : Mentions n v) : p n := by
  induction h with
  | null => cases hn
  | bool b => cases hn
  | number hp => exact mentions_number.mp hn ▸ hp
  | text t => cases hn
  | array _ ih =>
      obtain ⟨v, hv, hn⟩ := mentions_array.mp hn
      exact ih v hv hn
  | object _ _ ih =>
      obtain ⟨f, hf, hn⟩ := mentions_object.mp hn
      exact ih f hf hn

theorem Normal.imp (h : Normal p d v) (hpq : ∀ n, p n → q n) : Normal q d v := by
  induction h with
  | null => exact .null
  | bool b => exact .bool b
  | number hn => exact .number (hpq _ hn)
  | text t => exact .text t
  | array _ ih => exact .array ih
  | object hsorted _ ih => exact .object hsorted ih

theorem Normal.setField {fields : Fields} (h : Normal p (d + 1) (.object fields)) (key : Text)
    (hv : Normal p d v) : Normal p (d + 1) (.object (setField key v fields)) := by
  cases h with
  | object hsorted h =>
      refine .object (hsorted.setField key v) fun f hf => ?_
      rcases setField_subset hf with rfl | hf
      · exact hv
      · exact h f hf

/-! ### The machine -/

def Machine.Awaits (m : Machine) : Prop := m.want = .value ∨ m.want = .firstItem

theorem Machine.Awaits.step_eq {m : Machine} (hm : m.Awaits) {k : Token} (hk : k ≠ .closeArray) :
    m.step k = m.begin k := by
  obtain ⟨frames, want⟩ := m
  rcases hm with rfl | rfl
  · rfl
  · cases k with
    | closeArray => exact absurd rfl hk
    | _ => rfl

/-- The arrays and objects that are open hold values which leave room for the levels around
them. -/
inductive FramesShaped : List Frame → Prop
  | nil : FramesShaped []
  | array {done : List Json} {outer : List Frame} (houter : FramesShaped outer)
      (hlength : outer.length < nestingLimit)
      (h : ∀ v ∈ done, Shaped (nestingLimit - (outer.length + 1)) v) :
      FramesShaped (.array done :: outer)
  | object {done : Fields} {key : Text} {outer : List Frame} (houter : FramesShaped outer)
      (hlength : outer.length < nestingLimit) (hsorted : Sorted done)
      (h : ∀ f ∈ done, Shaped (nestingLimit - (outer.length + 1)) f.2) :
      FramesShaped (.object done key :: outer)

/-- The same for an object whose next key is awaited. -/
structure OpenObject (outer : List Frame) (done : Fields) : Prop where
  length_lt : outer.length < nestingLimit
  sorted : Sorted done
  shaped : ∀ f ∈ done, Shaped (nestingLimit - (outer.length + 1)) f.2

def WantShaped (frames : List Frame) : Want → Prop
  | .firstKey done | .key done | .colon done _ => OpenObject frames done
  | .nothing v => Shaped nestingLimit v
  | .value | .firstItem | .separator => True

structure MachineShaped (m : Machine) : Prop where
  frames : FramesShaped m.frames
  want : WantShaped m.frames m.want

theorem put_shaped {frames : List Frame} (hframes : FramesShaped frames)
    (hv : Shaped (nestingLimit - frames.length) v) : MachineShaped (Machine.put frames v) := by
  cases hframes with
  | nil => exact ⟨.nil, hv⟩
  | array houter hlength h =>
      exact ⟨.array houter hlength (List.forall_mem_cons.mpr ⟨hv, h⟩), trivial⟩
  | object houter hlength hsorted h =>
      refine ⟨.object houter hlength (hsorted.setField _ v) fun f hf => ?_, trivial⟩
      rcases setField_subset hf with rfl | hf
      · exact hv
      · exact h f hf

theorem begin_shaped {m m' : Machine} {k : Token} (hm : MachineShaped m)
    (h : m.begin k = some m') : MachineShaped m' := by
  unfold Machine.begin at h
  split at h
  · cases h
    exact put_shaped hm.frames .null
  · cases h
    exact put_shaped hm.frames (.bool _)
  · cases h
    exact put_shaped hm.frames (.number trivial)
  · cases h
    exact put_shaped hm.frames (.text _)
  · split at h
    · rename_i hlength
      cases h
      exact ⟨.array hm.frames hlength (by simp), trivial⟩
    · cases h
  · split at h
    · rename_i hlength
      cases h
      exact ⟨hm.frames, hlength, List.Pairwise.nil, by simp⟩
    · cases h
  · cases h

theorem put_array_shaped {outer : List Frame} {items : List Json} (houter : FramesShaped outer)
    (hlength : outer.length < nestingLimit)
    (h : ∀ v ∈ items, Shaped (nestingLimit - (outer.length + 1)) v) :
    MachineShaped (Machine.put outer (.array items)) := by
  refine put_shaped houter ?_
  rw [show nestingLimit - outer.length = nestingLimit - (outer.length + 1) + 1 by omega]
  exact .array h

theorem put_object_shaped {outer : List Frame} {fields : Fields} (houter : FramesShaped outer)
    (h : OpenObject outer fields) : MachineShaped (Machine.put outer (.object fields)) := by
  obtain ⟨hlength, hsorted, h⟩ := h
  refine put_shaped houter ?_
  rw [show nestingLimit - outer.length = nestingLimit - (outer.length + 1) + 1 by omega]
  exact .object hsorted h

theorem step_shaped {m m' : Machine} {k : Token} (hm : MachineShaped m)
    (h : m.step k = some m') : MachineShaped m' := by
  obtain ⟨frames, want⟩ := m
  have hframes : FramesShaped frames := hm.frames
  have hwant : WantShaped frames want := hm.want
  cases want with
  | value => exact begin_shaped hm h
  | firstItem =>
      cases k with
      | closeArray =>
          cases hframes with
          | nil => cases h
          | array houter hlength _ =>
              cases h
              exact put_array_shaped houter hlength (by simp)
          | object _ _ _ _ => cases h
      | _ =>
          rw [Machine.Awaits.step_eq (.inr rfl) (by simp)] at h
          exact begin_shaped hm h
  | firstKey done =>
      cases k with
      | closeObject =>
          cases h
          exact put_object_shaped hframes ⟨hwant.length_lt, List.Pairwise.nil, by simp⟩
      | text t =>
          cases h
          exact ⟨hframes, hwant⟩
      | _ => cases h
  | key done =>
      cases k with
      | text t =>
          cases h
          exact ⟨hframes, hwant⟩
      | _ => cases h
  | colon done t =>
      cases k with
      | colon =>
          cases h
          exact ⟨.object hframes hwant.length_lt hwant.sorted hwant.shaped, trivial⟩
      | _ => cases h
  | separator =>
      cases k with
      | comma =>
          cases hframes with
          | nil => cases h
          | array houter hlength hdone =>
              cases h
              exact ⟨.array houter hlength hdone, trivial⟩
          | object houter hlength hsorted hdone =>
              cases h
              exact ⟨houter, hlength, hsorted, hdone⟩
      | closeArray =>
          cases hframes with
          | nil => cases h
          | array houter hlength hdone =>
              cases h
              exact put_array_shaped houter hlength fun v hv => hdone v (List.mem_reverse.mp hv)
          | object _ _ _ _ => cases h
      | closeObject =>
          cases hframes with
          | nil => cases h
          | array _ _ _ => cases h
          | object houter hlength hsorted hdone =>
              cases h
              exact put_object_shaped houter ⟨hlength, hsorted, hdone⟩
      | _ => cases h
  | nothing v => cases h

theorem foldlM_step_shaped {ks : List Token} {m m' : Machine} (hm : MachineShaped m)
    (h : ks.foldlM Machine.step m = some m') :
    MachineShaped m' := by
  induction ks generalizing m with
  | nil =>
      cases h
      exact hm
  | cons k ks ih =>
      rw [List.foldlM_cons] at h
      obtain ⟨m₁, hstep, h⟩ := Option.bind_eq_some_iff.mp h
      exact ih (step_shaped hm hstep) h

/-! ### What is read -/

theorem parse_shaped {t : Text} (h : parse t = some v) : Shaped nestingLimit v := by
  obtain ⟨ks, hks, h⟩ := Option.bind_eq_some_iff.mp h
  obtain ⟨m, hm, h⟩ := Option.bind_eq_some_iff.mp h
  have hstart : MachineShaped {} := ⟨.nil, trivial⟩
  have hshaped := foldlM_step_shaped hstart hm
  split at h
  · rename_i v' hwant
    cases h
    have hv := hshaped.want
    rw [hwant] at hv
    exact hv
  · cases h

end CopyFormat.Json

import CopyFormat.Proofs.Settings.File

/-!
A store in a file answers as a store in memory that starts with the same values, whatever is got
and set one after the other.
-/

namespace CopyFormat.Store

open Json

variable {file : SettingsFile} {fields : Fields}

inductive Call
  | get (key : Text)
  | set (key : Text) (value : Json)

inductive Answer
  | found (value : Option Json)
  | done
  | failed (e : StoreError)

/-- The answer to a call, and the store afterwards. A call that fails leaves the store as it is. -/
def call (s : Store) : Call → Answer × Store
  | .get key =>
      match s.get key with
      | .ok value => (.found value, s)
      | .error e => (.failed e, s)
  | .set key value =>
      match s.set key value with
      | .ok s' => (.done, s')
      | .error e => (.failed e, s)

def after (s : Store) (calls : List Call) : Store := calls.foldl (fun s c => (s.call c).2) s

def answers (s : Store) : List Call → List Answer
  | [] => []
  | c :: calls => (s.call c).1 :: (s.call c).2.answers calls

/-- The value that the last of the calls to set a key has given it. -/
def lastSet? (key : Text) : List Call → Option Json
  | [] => none
  | .get _ :: calls => lastSet? key calls
  | .set k value :: calls => (lastSet? key calls).or (if k = key then some value else none)

/-- Whether a call can be made of a file without loss: the value that it sets has no numbers but
integers and leaves a level for the object around it. -/
def Call.Storable : Call → Prop
  | .get _ => True
  | .set _ value => Normal Number.IsInteger 126 value

def put (fields : Fields) : Call → Fields
  | .get _ => fields
  | .set key value => setField key value fields

theorem memory_call (fields : Fields) (c : Call) :
    ((memory fields).call c).2 = memory (put fields c) := by
  cases c <;> rfl

theorem memory_after (fields : Fields) (calls : List Call) :
    (memory fields).after calls = memory (calls.foldl put fields) := by
  induction calls generalizing fields with
  | nil => rfl
  | cons c calls ih =>
      calc
        (memory fields).after (c :: calls) = ((memory fields).call c).2.after calls := rfl
        _ = (memory (put fields c)).after calls := by rw [memory_call]
        _ = memory (calls.foldl put (put fields c)) := ih _

theorem field?_foldl_put (key : Text) (fields : Fields) (calls : List Call) :
    field? key (calls.foldl put fields) = (lastSet? key calls).or (field? key fields) := by
  induction calls generalizing fields with
  | nil => rfl
  | cons c calls ih =>
      rw [List.foldl_cons, ih]
      cases c with
      | get k => rfl
      | set k value =>
          rw [put, lastSet?, Option.or_assoc]
          by_cases hk : k = key
          · rw [if_pos hk, hk, field?_setField_self]
            rfl
          · rw [if_neg hk, field?_setField_of_ne hk]
            rfl

theorem lastSet?_eq_none {key : Text} {calls : List Call} (h : ∀ value, .set key value ∉ calls) :
    lastSet? key calls = none := by
  induction calls with
  | nil => rfl
  | cons c calls ih =>
      have hrest := ih fun value hmem => h value (List.mem_cons_of_mem _ hmem)
      cases c with
      | get k => exact hrest
      | set k value =>
          have hk : k ≠ key := by
            rintro rfl
            exact h value List.mem_cons_self
          rw [lastSet?, hrest, if_neg hk]
          rfl

/-- The file holds the values, and they can be written without loss. -/
structure Mirrors (file : SettingsFile) (fields : Fields) : Prop where
  holds : file.Holds fields
  normal : Normal Number.IsInteger nestingLimit (.object fields)

theorem Mirrors.ofEntries (h : Normal Number.IsInteger nestingLimit (.object fields)) :
    Mirrors (.ofEntries fields) fields where
  holds := SettingsFile.holds_iff.mpr (SettingsFile.entries_ofEntries h)
  normal := h

theorem Mirrors.call (h : Mirrors file fields) {c : Call} (hc : c.Storable) :
    ∃ file', (Store.file file).call c = (((memory fields).call c).1, .file file') ∧
      Mirrors file' (put fields c) := by
  have hentries := SettingsFile.holds_iff.mp h.holds
  cases c with
  | get key =>
      refine ⟨file, ?_, h⟩
      rw [Store.call, Store.get, entries, hentries]
      rfl
  | set key value =>
      refine ⟨_, ?_, .ofEntries (h.normal.setField key hc)⟩
      rw [Store.call, Store.set, entries, hentries]
      rfl

theorem Mirrors.after (h : Mirrors file fields) {calls : List Call}
    (hcalls : ∀ c ∈ calls, c.Storable) :
    (Store.file file).answers calls = (memory fields).answers calls ∧
      ∃ file', (Store.file file).after calls = .file file' ∧
        Mirrors file' (calls.foldl put fields) := by
  induction calls generalizing file fields with
  | nil => exact ⟨rfl, file, rfl, h⟩
  | cons c calls ih =>
      obtain ⟨hc, hcalls⟩ := List.forall_mem_cons.mp hcalls
      -- The file after one call mirrors the values again, so that the rest runs over these.
      obtain ⟨file₁, hcall, h₁⟩ := h.call hc
      obtain ⟨hanswers, file₂, hafter, h₂⟩ := ih h₁ hcalls
      refine ⟨?_, file₂, ?_, h₂⟩
      · rw [answers, answers, hcall, memory_call, hanswers]
      · rw [Store.after, List.foldl_cons, hcall]
        exact hafter

theorem answers_getElem? (s : Store) (before : List Call) (c : Call) (rest : List Call) :
    (s.answers (before ++ c :: rest))[before.length]? = some ((s.after before).call c).1 := by
  induction before generalizing s with
  | nil => rfl
  | cons b before ih => exact ih (s.call b).2

/-- The file store and the memory store answer alike, and as the calls so far demand. -/
structure Interchangeable (file : SettingsFile) (fields : Fields) (calls : List Call) : Prop where
  answers_eq : (Store.file file).answers calls = (memory fields).answers calls
  get_last : ∀ before key rest, calls = before ++ .get key :: rest →
    ((Store.file file).answers calls)[before.length]? =
      some (.found ((lastSet? key before).or (field? key fields)))
  get_untouched : ∀ before key rest, calls = before ++ .get key :: rest →
    (∀ value, .set key value ∉ before) →
      ((Store.file file).answers calls)[before.length]? = some (.found (field? key fields))
  written : ∀ before key value rest, calls = before ++ .set key value :: rest →
    ∃ t values, (Store.file file).after (before ++ [.set key value]) = .file (.text t) ∧
      (memory fields).after (before ++ [.set key value]) = .memory values ∧
      parse t = some (.object values)

theorem Mirrors.interchangeable (h : Mirrors file fields) {calls : List Call}
    (hcalls : ∀ c ∈ calls, c.Storable) : Interchangeable file fields calls := by
  have hanswers := (h.after hcalls).1
  have hlast : ∀ before key rest, calls = before ++ .get key :: rest →
      ((Store.file file).answers calls)[before.length]? =
        some (.found ((lastSet? key before).or (field? key fields))) := by
    rintro before key rest rfl
    rw [hanswers, answers_getElem?, memory_after, ← field?_foldl_put]
    rfl
  refine ⟨hanswers, hlast, ?_, ?_⟩
  · intro before key rest hcalls huntouched
    rw [hlast before key rest hcalls, lastSet?_eq_none huntouched]
    rfl
  · rintro before key value rest rfl
    have hall := List.forall_mem_append.mp hcalls
    obtain ⟨hset, -⟩ := List.forall_mem_cons.mp hall.2
    obtain ⟨-, file₁, hafter, h₁⟩ := h.after hall.1
    have hnormal := h₁.normal.setField key hset
    let values := setField key value (before.foldl put fields)
    refine ⟨(Json.object values).pretty 0, values, ?_, ?_, parse_pretty hnormal⟩
    · rw [Store.after] at hafter
      rw [Store.after, List.foldl_concat, hafter, Store.call, Store.set, entries,
        SettingsFile.holds_iff.mp h₁.holds]
      rfl
    · rw [memory_after, List.foldl_concat]
      rfl

theorem call_of_error {e : StoreError} (h : file.entries = .error e) (c : Call) :
    (Store.file file).call c = (.failed e, .file file) := by
  cases c with
  | get key =>
      rw [call, get, entries, h]
      rfl
  | set key value =>
      rw [call, set, entries, h]
      rfl

theorem run_of_error {e : StoreError} (h : file.entries = .error e) (calls : List Call) :
    (Store.file file).answers calls = calls.map (fun _ => .failed e) ∧
      (Store.file file).after calls = .file file := by
  induction calls with
  | nil => exact ⟨rfl, rfl⟩
  | cons c calls ih =>
      obtain ⟨hanswers, hafter⟩ := ih
      refine ⟨?_, ?_⟩
      · rw [answers, call_of_error h, hanswers]
        rfl
      · rw [after, List.foldl_cons, call_of_error h]
        exact hafter

/-- Whatever is asked of them one after the other, a store in a file and a store in memory that
start with the same values cannot be told apart. A store over a file that holds no object fails at
every call and leaves the file alone. -/
theorem file_interchangeable (file : SettingsFile) (calls : List Call) :
    (∀ fields, file.Holds fields → file.HasIntegers → (∀ c ∈ calls, c.Storable) →
      Interchangeable file fields calls) ∧
    (¬file.HoldsObject → ∃ e, (Store.file file).answers calls = calls.map (fun _ => .failed e) ∧
      ∀ before, before <+: calls → (Store.file file).after before = .file file) := by
  refine ⟨fun fields hholds hintegers hcalls => ?_, fun hnone => ?_⟩
  · exact Mirrors.interchangeable ⟨hholds, hholds.normal hintegers⟩ hcalls
  · cases hentries : file.entries with
    | ok fields => exact absurd ((SettingsFile.holdsObject_iff file).mpr ⟨fields, hentries⟩) hnone
    | error e =>
        exact ⟨e, (run_of_error hentries calls).1, fun before _ => (run_of_error hentries before).2⟩

def notes : SettingsFile := .text (Text.lit "\x7b\"n\": -7, \"t\": \"a\\nb\"\x7d")

def noted : Fields := [(['n'], .number (.whole (-7))), (['t'], .text (Text.lit "a\nb"))]

theorem notes_hasIntegers : notes.HasIntegers := by
  have hparse : parse (Text.lit "\x7b\"n\": -7, \"t\": \"a\\nb\"\x7d") = some (.object noted) := rfl
  refine SettingsFile.hasIntegers_text hparse fun n hn => ?_
  obtain rfl : n = .whole (-7) := by simpa [noted] using hn
  exact ⟨by decide, by decide⟩

theorem file_interchangeable_notes :
    let calls := [.set ['k'] (.array [.text (Text.lit "\"é\"")]), .get ['k'], .get ['n']]
    let list := SettingsFile.text (Text.lit "[1]")
    (notes.Holds noted ∧ notes.HasIntegers ∧ ∀ c ∈ calls, c.Storable) ∧
      Interchangeable notes noted calls ∧ ¬list.HoldsObject ∧
      ∃ e, (Store.file list).answers calls = calls.map (fun _ => .failed e) ∧
        ∀ before, before <+: calls → (Store.file list).after before = .file list := by
  intro calls list
  have hholds : notes.Holds noted := .object rfl rfl
  have hcalls : ∀ c ∈ calls, c.Storable := by
    refine List.forall_mem_cons.mpr ⟨.array fun v hv => ?_, by simp [Call.Storable]⟩
    cases List.mem_singleton.mp hv
    exact .text _
  have hlist : ¬list.HoldsObject := by
    rw [SettingsFile.holdsObject_iff]
    rintro ⟨fields, hfields⟩
    cases hfields
  exact ⟨⟨hholds, notes_hasIntegers, hcalls⟩,
    (file_interchangeable notes calls).1 noted hholds notes_hasIntegers hcalls, hlist,
    (file_interchangeable list calls).2 hlist⟩

end CopyFormat.Store

import CopyFormat.CommandLine.Args
import Mathlib.Data.List.Perm.Basic

/-!
Command lines are read as they are meant. What is meant by the arguments behind a command is said
without reading them one after the other: of the values that are given to an option the last one
counts, whatever stands between them, and what is neither an option nor a value is the subject of
the command. So only the order of the values of one option matters.
-/

namespace CopyFormat.CommandLine

/-! ### Arguments -/

/-- An option with its value, or anything else. -/
inductive Argument
  | option (name value : Text)
  | subject (t : Text)
  deriving DecidableEq, Repr

namespace Argument

def words : Argument → List Text
  | option name value => [name, value]
  | subject t => [t]

def pair? : Argument → Option (Text × Text)
  | option name value => some (name, value)
  | subject _ => none

def subject? : Argument → Option Text
  | option _ _ => none
  | subject t => some t

/-- An option must be one of the given ones, with any value; a subject must not look like an
option. -/
def Fits (options : List Text) : Argument → Prop
  | option name _ => name ∈ options
  | subject t => Text.lit "--" <+: t → t = Text.lit "--"

end Argument

section

variable {as : List Argument} {name t : Text}

def valuesOf (name : Text) (as : List Argument) : List Text :=
  (as.filterMap Argument.pair?).filterMap fun p => if p.1 = name then some p.2 else none

@[simp] theorem valuesOf_nil (k : Text) : valuesOf k [] = [] := rfl

@[simp] theorem valuesOf_option (k name value : Text) (as : List Argument) :
    valuesOf k (.option name value :: as) =
      if name = k then value :: valuesOf k as else valuesOf k as := by
  have hpairs : (Argument.option name value :: as).filterMap Argument.pair? =
      (name, value) :: as.filterMap Argument.pair? := rfl
  rw [valuesOf, hpairs, List.filterMap_cons]
  by_cases h : name = k
  · simp [h, valuesOf]
  · simp [h, valuesOf]

@[simp] theorem valuesOf_subject (k t : Text) (as : List Argument) :
    valuesOf k (.subject t :: as) = valuesOf k as := rfl

def subjects (as : List Argument) : List Text := as.filterMap Argument.subject?

def last? (name : String) (as : List Argument) : Option Text := (valuesOf name.toList as).getLast?

def last (name : String) (as : List Argument) : Text := (last? name as).getD []

/-! ### Reading options -/

def Options.ofArguments (as : List Argument) : Options where
  values := as.filterMap Argument.pair?
  positionals := subjects as

theorem looksLikeOption_of_fits {options : List Text} (h : (Argument.subject t).Fits options) :
    Options.looksLikeOption t = false := by
  rw [Bool.eq_false_iff, ne_eq, Options.looksLikeOption, Bool.and_eq_true,
    List.isPrefixOf_iff_prefix, decide_eq_true_eq]
  rintro ⟨hlead, hlength⟩
  rw [h hlead] at hlength
  exact absurd hlength (by decide)

theorem parse_option {options : List Text} (h : name ∈ options) (value : Text) (rest : List Text) :
    Options.parse options [] (name :: value :: rest) =
      (Options.parse options [] rest).map fun o =>
        { o with values := (name, value) :: o.values } := by
  rw [Options.parse.eq_def]
  simp [h]

theorem parse_subject {options : List Text} (h : t ∉ options)
    (hlooks : Options.looksLikeOption t = false) (rest : List Text) :
    Options.parse options [] (t :: rest) =
      (Options.parse options [] rest).map fun o => { o with positionals := t :: o.positionals } := by
  rw [Options.parse.eq_def]
  simp [h, hlooks]

theorem parse_flatMap_words {options : List Text}
    (hoptions : ∀ k ∈ options, Options.looksLikeOption k = true)
    (h : ∀ a ∈ as, a.Fits options) :
    Options.parse options [] (as.flatMap Argument.words) = .ok (.ofArguments as) := by
  induction as with
  | nil => rfl
  | cons a as ih =>
      rw [List.forall_mem_cons] at h
      obtain ⟨ha, has⟩ := h
      cases a with
      | option name value =>
          simp only [List.flatMap_cons, Argument.words, List.cons_append, List.nil_append]
          rw [parse_option ha, ih has]
          rfl
      | subject t =>
          have hlooks := looksLikeOption_of_fits ha
          have ht : t ∉ options := by
            intro hmem
            rw [hoptions t hmem] at hlooks
            cases hlooks
          simp only [List.flatMap_cons, Argument.words, List.cons_append, List.nil_append]
          rw [parse_subject ht hlooks, ih has]
          rfl

/-! ### What options stand for -/

theorem lookup_reverse (k : Text) (ps : List (Text × Text)) :
    ps.reverse.lookup k =
      (ps.filterMap fun p => if p.1 = k then some p.2 else none).getLast? := by
  rw [List.getLast?_filterMap, List.lookup_eq_findSome?]
  congr 1
  funext p
  simp only [beq_iff_eq, eq_comm (a := k)]

theorem value?_ofArguments (name : String) (as : List Argument) :
    (Options.ofArguments as).value? name = last? name as :=
  lookup_reverse _ _

theorem value_ofArguments (name : String) (as : List Argument) :
    (Options.ofArguments as).value name = last name as := by
  rw [Options.value, value?_ofArguments, last]

def Given (as : List Argument) (name : String) : Prop := valuesOf name.toList as ≠ []

theorem require_ofArguments {name : String} (h : Given as name) :
    (Options.ofArguments as).require name = .ok (last name as) := by
  obtain ⟨value, hvalue⟩ := Option.ne_none_iff_exists'.mp (mt List.getLast?_eq_none_iff.mp h)
  have hlast : last? name as = some value := hvalue
  rw [Options.require, value?_ofArguments, last, hlast]
  rfl

def pageOf (as : List Argument) : Page where
  title := last "--title" as
  url := last "--url" as
  selection := last? "--selected" as

theorem page_ofArguments (as : List Argument) : (Options.ofArguments as).page = pageOf as := by
  rw [Options.page, value_ofArguments, value_ofArguments, value?_ofArguments, pageOf]

theorem fullPage_ofArguments (htitle : Given as "--title") (hurl : Given as "--url") :
    (Options.ofArguments as).fullPage = .ok (pageOf as) := by
  rw [Options.fullPage, require_ofArguments htitle, require_ofArguments hurl, page_ofArguments]
  rfl

def formatOf (as : List Argument) (name : Text) : CustomFormat where
  id := []
  name := name
  template := last "--template" as
  searchPattern := last "--search" as
  replacePattern := last "--replace" as
  scriptSource := last "--script" as

theorem format_ofArguments (htemplate : Given as "--template") (name : Text) :
    (Options.ofArguments as).format name = .ok (formatOf as name) := by
  rw [Options.format, require_ofArguments htemplate, value_ofArguments, value_ofArguments,
    value_ofArguments]
  rfl

theorem single_ofArguments (h : subjects as = [t]) (what : String) :
    (Options.ofArguments as).single what = .ok t := by
  rw [Options.single, Options.ofArguments, h]

theorem noPositionals_ofArguments (h : subjects as = []) :
    (Options.ofArguments as).noPositionals = .ok () := by
  rw [Options.noPositionals, Options.ofArguments, h]

end

/-! ### Commands -/

/-- A command that takes options with values, and its subject if it needs one. -/
inductive Form
  | copy (id : Text)
  | format
  | eval (source : Text)
  | addFormat
  deriving DecidableEq, Repr

namespace Form

variable {as : List Argument}

def name : Form → Text
  | copy _ => Text.lit "copy"
  | format => Text.lit "format"
  | eval _ => Text.lit "eval"
  | addFormat => Text.lit "add-format"

def subjects : Form → List Text
  | copy id => [id]
  | eval source => [source]
  | format | addFormat => []

def options : Form → List Text
  | copy _ | eval _ => pageOptions
  | format => pageOptions ++ formatOptions
  | addFormat => formatOptions ++ [Text.lit "--name"]

def required : Form → List String
  | copy _ => ["--title", "--url"]
  | format => ["--template", "--title", "--url"]
  | eval _ => []
  | addFormat => ["--name", "--template"]

def command (as : List Argument) : Form → Command
  | copy id => .copy id (pageOf as)
  | format => .format (formatOf as (Text.lit "ad-hoc")) (pageOf as)
  | eval source => .eval source (pageOf as)
  | addFormat => .addFormat (formatOf as (last "--name" as))

theorem looksLikeOption_of_mem (f : Form) : ∀ k ∈ f.options, Options.looksLikeOption k = true := by
  cases f with
  | copy id => exact (by decide : ∀ k ∈ pageOptions, Options.looksLikeOption k = true)
  | format => decide
  | eval source => exact (by decide : ∀ k ∈ pageOptions, Options.looksLikeOption k = true)
  | addFormat => decide

theorem isVerbose_name (f : Form) : isVerbose f.name = false := by
  cases f <;> rfl

theorem parse_words (f : Form) (hfits : ∀ a ∈ as, a.Fits f.options)
    (hsubjects : CommandLine.subjects as = f.subjects) (hrequired : ∀ k ∈ f.required, Given as k) :
    Command.parse f.name (as.flatMap Argument.words) = .ok (f.command as) := by
  have hparse := parse_flatMap_words f.looksLikeOption_of_mem hfits
  cases f with
  | copy id =>
      have hsingle := single_ofArguments hsubjects "preset id"
      have hpage := fullPage_ofArguments (hrequired "--title" (by simp [required]))
        (hrequired "--url" (by simp [required]))
      change (do
        let o ← Options.parse pageOptions [] (as.flatMap Argument.words)
        return Command.copy (← o.single "preset id") (← o.fullPage)) = _
      simp only [options] at hparse
      simp only [hparse, bind, Except.bind, hsingle, hpage]
      rfl
  | format =>
      have hnone := noPositionals_ofArguments hsubjects
      have hformat := format_ofArguments (hrequired "--template" (by decide)) (Text.lit "ad-hoc")
      have hpage := fullPage_ofArguments (hrequired "--title" (by decide))
        (hrequired "--url" (by decide))
      change (do
        let o ← Options.parse (pageOptions ++ formatOptions) [] (as.flatMap Argument.words)
        o.noPositionals
        return Command.format (← o.format (Text.lit "ad-hoc")) (← o.fullPage)) = _
      simp only [options] at hparse
      simp only [hparse, bind, Except.bind, hnone, hformat, hpage]
      rfl
  | eval source =>
      have hsingle := single_ofArguments hsubjects "expression"
      change (do
        let o ← Options.parse pageOptions [] (as.flatMap Argument.words)
        return Command.eval (← o.single "expression") o.page) = _
      simp only [options] at hparse
      simp only [hparse, bind, Except.bind, hsingle, page_ofArguments]
      rfl
  | addFormat =>
      have hnone := noPositionals_ofArguments hsubjects
      have hname := require_ofArguments (hrequired "--name" (by decide))
      have hformat := format_ofArguments (hrequired "--template" (by decide)) (last "--name" as)
      change (do
        let o ← Options.parse (formatOptions ++ [Text.lit "--name"]) [] (as.flatMap Argument.words)
        o.noPositionals
        return Command.addFormat (← o.format (← o.require "--name"))) = _
      simp only [options] at hparse
      simp only [hparse, bind, Except.bind, hnone, hname, hformat]
      rfl

theorem command_congr {as' : List Argument} (h : ∀ k, valuesOf k as' = valuesOf k as) (f : Form) :
    f.command as' = f.command as := by
  have hlast? : ∀ k, last? k as' = last? k as := fun k => by rw [last?, h, last?]
  have hlast : ∀ k, last k as' = last k as := fun k => by rw [last, hlast?, last]
  have hpage : pageOf as' = pageOf as := by
    simp only [pageOf, hlast, hlast?]
  have hformat : formatOf as' = formatOf as := by
    funext name
    simp only [formatOf, hlast]
  cases f with
  | copy id => rw [command, hpage, command]
  | format => rw [command, hformat, hpage, command]
  | eval source => rw [command, hpage, command]
  | addFormat => rw [command, hformat, hlast, command]

theorem subjects_perm {as' : List Argument} (hperm : as'.Perm as) {f : Form}
    (h : CommandLine.subjects as = f.subjects) : CommandLine.subjects as' = f.subjects := by
  have hsubjects : (CommandLine.subjects as').Perm f.subjects := by
    rw [← h]
    exact hperm.filterMap _
  cases f with
  | copy id => exact List.perm_singleton.mp hsubjects
  | format => exact List.perm_nil.mp hsubjects
  | eval source => exact List.perm_singleton.mp hsubjects
  | addFormat => exact List.perm_nil.mp hsubjects

end Form

/-! ### Lines -/

/-- A command line as it should be written. -/
structure Line where
  flags : List Text
  form : Form
  arguments : List Argument
  flags_verbose : ∀ a ∈ flags, a = Text.lit "-v" ∨ a = Text.lit "--verbose"
  fits : ∀ a ∈ arguments, a.Fits form.options
  subjects_eq : subjects arguments = form.subjects
  required_given : ∀ k ∈ form.required, Given arguments k

namespace Line

def words (l : Line) : List Text := l.flags ++ l.form.name :: l.arguments.flatMap Argument.words

def meaning (l : Line) : Invocation where
  verbose := !l.flags.isEmpty
  command := l.form.command l.arguments

theorem isVerbose_of_mem_flags (l : Line) : ∀ a ∈ l.flags, isVerbose a = true := by
  intro a ha
  rw [isVerbose, Bool.or_eq_true, decide_eq_true_eq, decide_eq_true_eq]
  exact l.flags_verbose a ha

theorem dropWhile_words (l : Line) :
    l.words.dropWhile isVerbose = l.form.name :: l.arguments.flatMap Argument.words := by
  rw [words, List.dropWhile_append_of_pos l.isVerbose_of_mem_flags,
    List.dropWhile_cons_of_neg (by rw [l.form.isVerbose_name]; exact Bool.false_ne_true)]

theorem head?_words (l : Line) : l.words.head?.any isVerbose = !l.flags.isEmpty := by
  have hflags := l.isVerbose_of_mem_flags
  rw [words]
  cases hl : l.flags with
  | nil => exact l.form.isVerbose_name
  | cons a rest =>
      rw [hl] at hflags
      exact hflags a List.mem_cons_self

theorem parse_words (l : Line) : Invocation.parse l.words = .ok l.meaning := by
  rw [Invocation.parse, l.dropWhile_words]
  simp only [l.form.parse_words l.fits l.subjects_eq l.required_given, l.head?_words]
  rfl

/-- The same line with its arguments in another order, which keeps that of the values of each
option. -/
def reorder (l : Line) (as : List Argument) (hperm : as.Perm l.arguments)
    (hvalues : ∀ k, valuesOf k as = valuesOf k l.arguments) : Line :=
  { l with
    arguments := as
    fits := fun a ha => l.fits a (hperm.mem_iff.mp ha)
    subjects_eq := Form.subjects_perm hperm l.subjects_eq
    required_given := fun k hk => by
      rw [Given, hvalues]
      exact l.required_given k hk }

end Line

/-- Reading a command line gives what it means: of the values of an option the last one counts, an
option that is not given is empty, and what is neither is the subject of the command. So the
arguments may come in any order that keeps the values of each option in order. -/
theorem line_understood (l : Line) :
    Invocation.parse l.words = .ok l.meaning ∧
      ∀ as (hperm : as.Perm l.arguments) (hvalues : ∀ k, valuesOf k as = valuesOf k l.arguments),
        Invocation.parse (l.reorder as hperm hvalues).words = Invocation.parse l.words := by
  refine ⟨l.parse_words, fun as hperm hvalues => ?_⟩
  rw [Line.parse_words, Line.parse_words]
  exact congrArg (fun c => Except.ok (Invocation.mk _ c)) (Form.command_congr hvalues l.form)

/-- A line in which the subject is two hyphens, one value looks like an option, and one option is given
twice. -/
def tangled : Line where
  flags := [Text.lit "--verbose", Text.lit "-v"]
  form := .copy (Text.lit "--")
  arguments := [.option (Text.lit "--url") (Text.lit "a"),
    .option (Text.lit "--title") (Text.lit "--url"), .subject (Text.lit "--"),
    .option (Text.lit "--url") (Text.lit "-v")]
  flags_verbose := by decide
  fits := by
    simp only [List.forall_mem_cons, Argument.Fits]
    exact ⟨by decide, by decide, fun _ => trivial, by decide, by simp⟩
  subjects_eq := rfl
  required_given := by
    simp only [Form.required, List.forall_mem_cons, Given]
    exact ⟨by decide, by decide, by simp⟩

/-- The title may come last, but the addresses may not change places. -/
theorem tangled_understood :
    Invocation.parse (["--verbose", "-v", "copy", "--url", "a", "--title", "--url", "--", "--url",
        "-v"].map String.toList) =
      .ok { verbose := true,
            command := .copy (Text.lit "--") { title := Text.lit "--url", url := Text.lit "-v" } } ∧
    Invocation.parse (["--verbose", "-v", "copy", "--", "--url", "a", "--url", "-v", "--title",
        "--url"].map String.toList) =
      .ok { verbose := true,
            command := .copy (Text.lit "--") { title := Text.lit "--url", url := Text.lit "-v" } } := by
  obtain ⟨hread, hreorder⟩ := line_understood tangled
  let as : List Argument := [.subject (Text.lit "--"), .option (Text.lit "--url") (Text.lit "a"),
    .option (Text.lit "--url") (Text.lit "-v"), .option (Text.lit "--title") (Text.lit "--url")]
  have hperm : as.Perm tangled.arguments := by decide
  have hvalues : ∀ k, valuesOf k as = valuesOf k tangled.arguments := by
    intro k
    by_cases hk : Text.lit "--title" = k
    · subst hk
      rfl
    · simp only [as, tangled, valuesOf_option, valuesOf_subject, valuesOf_nil, if_neg hk]
  exact ⟨hread, (hreorder as hperm hvalues).trans hread⟩

end CopyFormat.CommandLine

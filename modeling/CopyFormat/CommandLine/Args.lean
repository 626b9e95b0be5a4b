import CopyFormat.CustomFormat
import CopyFormat.Page

/-!
Reading the arguments of the command line.
-/

namespace CopyFormat.CommandLine

inductive UsageError
  | missingCommand
  | unknownCommand (name : Text)
  | unknownOption (option : Text)
  | missingValue (option : Text)
  | missing (what : Text)
  | unexpected (argument : Text)
  deriving DecidableEq, Repr

def UsageError.message : UsageError → Text
  | .missingCommand => Text.lit "missing command"
  | .unknownCommand name => Text.lit "unknown command '" ++ name ++ ['\'']
  | .unknownOption option => Text.lit "unknown option '" ++ option ++ ['\'']
  | .missingValue option => Text.lit "option '" ++ option ++ Text.lit "' needs a value"
  | .missing what => Text.lit "missing " ++ what
  | .unexpected argument => Text.lit "unexpected argument '" ++ argument ++ ['\'']

/-- A command. The format that is added has no id yet. -/
inductive Command
  | help
  | version
  | list (all : Bool)
  | copy (id : Text) (page : Page)
  | format (format : CustomFormat) (page : Page)
  | eval (source : Text) (page : Page)
  | addFormat (format : CustomFormat)
  | removeFormat (id : Text)
  | toggle (id : Text)
  | order (ids : List Text)
  deriving DecidableEq, Repr

structure Invocation where
  verbose : Bool
  command : Command
  deriving DecidableEq, Repr

/-! ### Options -/

/-- The arguments behind a command: options with their values, switches, and all others. -/
structure Options where
  values : List (Text × Text) := []
  switches : List Text := []
  positionals : List Text := []
  deriving DecidableEq, Repr

namespace Options

def looksLikeOption (arg : Text) : Bool := (Text.lit "--").isPrefixOf arg && 2 < arg.length

/-- Reads the arguments behind a command. An option takes the next argument as its value, whatever
that looks like. -/
def parse (valued switches : List Text) : List Text → Except UsageError Options
  | [] => .ok {}
  | arg :: rest =>
      if valued.contains arg then
        match rest with
        | [] => .error (.missingValue arg)
        | value :: rest =>
            (parse valued switches rest).map fun o => { o with values := (arg, value) :: o.values }
      else if switches.contains arg then
        (parse valued switches rest).map fun o => { o with switches := arg :: o.switches }
      else if looksLikeOption arg then .error (.unknownOption arg)
      else
        (parse valued switches rest).map fun o => { o with positionals := arg :: o.positionals }

def value? (o : Options) (option : String) : Option Text := o.values.reverse.lookup option.toList

/-- The value of an option, which is empty when it is not given. -/
def value (o : Options) (option : String) : Text := (o.value? option).getD []

/-- The value of an option that must be given. -/
def require (o : Options) (option : String) : Except UsageError Text :=
  match o.value? option with
  | some t => .ok t
  | none => .error (.missing option.toList)

/-- The only argument that is neither option nor switch. -/
def single (o : Options) (what : String) : Except UsageError Text :=
  match o.positionals with
  | [one] => .ok one
  | [] => .error (.missing what.toList)
  | _ :: extra :: _ => .error (.unexpected extra)

/-- Checks that there are only options and switches. -/
def noPositionals (o : Options) : Except UsageError Unit :=
  match o.positionals with
  | [] => .ok ()
  | extra :: _ => .error (.unexpected extra)

/-- The page that the options describe, without a check that it is complete. -/
def page (o : Options) : Page :=
  { title := o.value "--title", url := o.value "--url", selection := o.value? "--selected" }

/-- The page that the options describe, which must have a title and an address. -/
def fullPage (o : Options) : Except UsageError Page := do
  let title ← o.require "--title"
  let url ← o.require "--url"
  return { o.page with title, url }

/-- The format that the options describe. -/
def format (o : Options) (name : Text) : Except UsageError CustomFormat := do
  return {
    id := []
    name
    template := ← o.require "--template"
    searchPattern := o.value "--search"
    replacePattern := o.value "--replace"
    scriptSource := o.value "--script" }

end Options

/-! ### Commands -/

def pageOptions : List Text := ["--title", "--url", "--selected"].map String.toList

def formatOptions : List Text :=
  ["--template", "--search", "--replace", "--script"].map String.toList

/-- The ids between commas; empty ones do not count. -/
def readIds (t : Text) : List Text :=
  ((Text.splitOn t [',']).map Text.trim).filter fun id => !id.isEmpty

/-- Reads a command from its name and the arguments behind it. -/
def Command.parse (name : Text) (args : List Text) : Except UsageError Command :=
  match String.ofList name with
  | "-h" | "--help" | "help" => .ok .help
  | "-V" | "--version" | "version" => .ok .version
  | "list" | "ls" => do
      let o ← Options.parse [] [Text.lit "--all"] args
      o.noPositionals
      return .list (!o.switches.isEmpty)
  | "copy" => do
      let o ← Options.parse pageOptions [] args
      return .copy (← o.single "preset id") (← o.fullPage)
  | "format" => do
      let o ← Options.parse (pageOptions ++ formatOptions) [] args
      o.noPositionals
      return .format (← o.format (Text.lit "ad-hoc")) (← o.fullPage)
  | "eval" => do
      let o ← Options.parse pageOptions [] args
      return .eval (← o.single "expression") o.page
  | "add-format" => do
      let o ← Options.parse (formatOptions ++ [Text.lit "--name"]) [] args
      o.noPositionals
      return .addFormat (← o.format (← o.require "--name"))
  | "remove-format" => do
      let o ← Options.parse [] [] args
      return .removeFormat (← o.single "format id")
  | "toggle" => do
      let o ← Options.parse [] [] args
      return .toggle (← o.single "preset id")
  | "order" => do
      let o ← Options.parse [] [] args
      return .order (readIds (← o.single "preset ids"))
  | _ => .error (.unknownCommand name)

/-- Whether an argument in front of the command asks for more to be told. -/
def isVerbose (arg : Text) : Bool := arg = Text.lit "-v" || arg = Text.lit "--verbose"

/-- Reads the arguments behind the name of the program. -/
def Invocation.parse (args : List Text) : Except UsageError Invocation :=
  match args.dropWhile isVerbose with
  | [] => .error .missingCommand
  | name :: rest =>
      (Command.parse name rest).map fun command =>
        { verbose := args.head?.any isVerbose, command }

end CopyFormat.CommandLine

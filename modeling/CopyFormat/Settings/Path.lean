import CopyFormat.Text.Basic

/-!
Where the settings file is.
-/

namespace CopyFormat.Settings

/-- A file below a directory. -/
def joinPath (directory file : Text) : Text :=
  if directory.isEmpty || directory.getLast? == some '/' then directory ++ file
  else directory ++ '/' :: file

/-- The directory for configuration files, given the environment. -/
def configDirectory (env : Text → Option Text) : Text :=
  match (env (Text.lit "XDG_CONFIG_HOME")).filter fun t => !t.isEmpty with
  | some t => t
  | none =>
      let home := ((env (Text.lit "HOME")).or (env (Text.lit "USERPROFILE"))).getD []
      joinPath home (Text.lit ".config")

/-- The settings file, given the environment. -/
def path (env : Text → Option Text) : Text :=
  match (env (Text.lit "COPYTAB_CONFIG")).filter fun t => !t.isEmpty with
  | some t => t
  | none =>
      joinPath (joinPath (configDirectory env) (Text.lit "copytab")) (Text.lit "settings.json")

end CopyFormat.Settings

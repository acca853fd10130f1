import Lexicon.Command.Outcome
import Lexicon.CommandLine.Invocation
import Lexicon.Settings
import Lexicon.Toml.Document

/-!
# The configuration file

The settings come from the file that was asked for, or else from the first file that exists among
the usual ones, or else they are the defaults.
-/

namespace Lexicon

open CommandLine (Environment)

/-- The name of a configuration file. -/
def configurationName : String := "sablet.toml"

/-- The usual configuration files, in the order in which they are looked for. -/
def usualConfigurations (env : Environment) : List String :=
  [configurationName] ++
    (env.home.map (· ++ "/.config/sablet/" ++ configurationName)).toList ++
      (env.configHome.map (· ++ "/sablet/" ++ configurationName)).toList

/-- The settings in the text of a configuration file. -/
def parseSettings (text : List Char) : Except CommandError Settings :=
  match (Toml.parse text).bind Settings.ofEntries? with
  | none => .error .configurationMalformed
  | some settings =>
    if settings.jobs = some 0 then .error .configurationWithoutJobs else .ok settings

/-- Reads the settings in the configuration file at a path. -/
def readSettings (storage : Storage) (path : String) : Except CommandError Settings :=
  if storage.leadsTo path then
    match storage.read path with
    | .error e => .error (.configurationUnreadable e)
    | .ok bytes =>
      match decodeText? bytes with
      | none => .error .configurationNotText
      | some text => parseSettings text
  else .error (.configurationNotFound path)

/-- Reads the settings, from the file at `path` if it was asked for. -/
def loadSettings (storage : Storage) (env : Environment) (path : Option String) :
    Except CommandError Settings :=
  match path.or ((usualConfigurations env).find? storage.leadsTo) with
  | some path => readSettings storage path
  | none => .ok {}

end Lexicon

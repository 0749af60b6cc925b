/-
# Settings

What a search is run with: the extensions and the number of results shown by default,
the folders passed over, the size limit, the backend, the number of workers and the log
level.  Settings come from the environment, from keyword overrides laid over it, or as
they are; `Settings.check` says which of them cannot be used, and the first fault wins.
-/

import DeclSearch.Extension
import DeclSearch.Text.Integer
import DeclSearch.Text.Quoted

namespace DeclSearch

/-- The variables that the program was started with. -/
abbrev Environment := List (String × String)

/-- The value of a variable. -/
def Environment.get? (env : Environment) (name : String) : Option String := env.lookup name

/-- Why settings or a request cannot be used. -/
inductive SettingsError where
  | notAnInteger (setting value : String)
  | maxResults (n : Int)
  | maxWorkers (n : Int)
  | maxFileSize (n : Int)
  | backend (name : String)
  | noSuchBackend (name : String)
  | logLevel (name : String)
  | blankQuery
  deriving Repr, DecidableEq

namespace Settings

/-- The names of the backends. -/
def backends : List String := ["python", "none"]

/-- The names of the log levels. -/
def logLevels : List String := ["DEBUG", "INFO", "WARNING", "ERROR", "CRITICAL"]

/-- How many results are shown when nothing else is said. -/
def defaultMaxResults : Int := 50

end Settings

/-- The wording of a fault in settings or a request. -/
def SettingsError.message : SettingsError → String
  | .notAnInteger setting value => setting ++ " must be an integer, got " ++ Text.quoted value
  | .maxResults n => "max_results must be positive, got " ++ toString n
  | .maxWorkers n => "max_workers must be positive, got " ++ toString n
  | .maxFileSize n => "max_file_size_mb must be 0 (no limit) or positive, got " ++ toString n
  | .backend name =>
    "Unknown structured backend '" ++ name ++ "'. Supported: " ++
      Text.join ", " Settings.backends ++ ".\n  Set via: export TYPEFINDER_STRUCTURED=python"
  | .noSuchBackend name =>
    "Unknown structured backend '" ++ name ++ "'. Supported: " ++ Text.join ", " Settings.backends
  | .logLevel name =>
    "Unknown log level '" ++ name ++ "'. Supported: " ++ Text.join ", " Settings.logLevels ++ "."
  | .blankQuery => "query must be a non-empty name"

/-- What a search is run with.  A size limit of zero megabytes means no limit. -/
structure Settings where
  fileExtensions : List String := Extension.defaults
  maxResults : Int := Settings.defaultMaxResults
  excludedDirs : List String := []
  maxFileSizeMb : Int := 0
  backend : String := "python"
  maxWorkers : Int := 4
  showProgress : Bool := false
  logLevel : String := "WARNING"
  logFormat : String := "%(asctime)s - %(name)s - %(levelname)s - %(message)s"
  deriving Repr, DecidableEq

namespace Settings

/-- The integer in a variable; an unset or blank variable stands for the default. -/
def intVariable (env : Environment) (name : String) (default : Int) :
    Except SettingsError Int :=
  let raw := Text.trim ((env.get? name).getD "")
  if raw = "" then .ok default
  else match Text.readInt? raw with
    | some n => .ok n
    | none => .error (.notAnInteger name raw)

/-- The folder names in a list with commas. -/
def dirNames (csv : String) : List String :=
  (((Text.cut ',' csv).map Text.trim).filter (· ≠ "")).eraseDups

/-- The settings that the environment asks for. -/
def ofEnvironment (env : Environment) : Except SettingsError Settings := do
  let maxResults ← intVariable env "TYPEFINDER_MAX_RESULTS" defaultMaxResults
  let maxFileSizeMb ← intVariable env "TYPEFINDER_MAX_FILE_SIZE_MB" 0
  let maxWorkers ← intVariable env "TYPEFINDER_WORKERS" 4
  return {
    fileExtensions :=
      ((env.get? "TYPEFINDER_FILE_TYPES").map Extension.ofCsv).getD Extension.defaults
    maxResults
    excludedDirs := dirNames ((env.get? "TYPEFINDER_EXCLUDE_DIRS").getD "")
    maxFileSizeMb
    backend := Text.lower (Text.trim ((env.get? "TYPEFINDER_STRUCTURED").getD "python"))
    maxWorkers
    logLevel := Text.upper (Text.trim ((env.get? "TYPEFINDER_LOG_LEVEL").getD "WARNING")) }

/-- Settings given one by one; what is not given is taken from other settings. -/
structure Overrides where
  fileExtensions : Option (List String) := none
  maxResults : Option Int := none
  excludedDirs : Option (List String) := none
  maxFileSizeMb : Option Int := none
  backend : Option String := none
  maxWorkers : Option Int := none
  showProgress : Option Bool := none
  logLevel : Option String := none
  logFormat : Option String := none
  deriving Repr, DecidableEq

/-- The overrides laid over settings. -/
def override (s : Settings) (o : Overrides) : Settings where
  fileExtensions := o.fileExtensions.getD s.fileExtensions
  maxResults := o.maxResults.getD s.maxResults
  excludedDirs := o.excludedDirs.getD s.excludedDirs
  maxFileSizeMb := o.maxFileSizeMb.getD s.maxFileSizeMb
  backend := o.backend.getD s.backend
  maxWorkers := o.maxWorkers.getD s.maxWorkers
  showProgress := o.showProgress.getD s.showProgress
  logLevel := o.logLevel.getD s.logLevel
  logFormat := o.logFormat.getD s.logFormat

/-- Refuses settings that cannot be used. -/
def check (s : Settings) : Except SettingsError Unit :=
  if s.maxResults ≤ 0 then .error (.maxResults s.maxResults)
  else if s.maxWorkers ≤ 0 then .error (.maxWorkers s.maxWorkers)
  else if s.maxFileSizeMb < 0 then .error (.maxFileSize s.maxFileSizeMb)
  else if !backends.contains s.backend then .error (.backend s.backend)
  else if !logLevels.contains s.logLevel then .error (.logLevel s.logLevel)
  else .ok ()

/-- The size limit in bytes, zero when there is none. -/
def maxFileSizeBytes (s : Settings) : Int := s.maxFileSizeMb * 1024 * 1024

/-- The folders passed over, each once and in order. -/
def sortedExcludedDirs (s : Settings) : List String :=
  s.excludedDirs.eraseDups.mergeSort fun a b => decide (a ≤ b)

end Settings
end DeclSearch

/-
# Clients

A client holds settings that have been checked and a backend, and turns arguments with
defaults into requests.  Nothing is carried over from one search to the next.
-/

import DeclSearch.Search

namespace DeclSearch

/-- The version of the program. -/
def version : String := "1.0.0"

/-- What a status report says without touching any workspace. -/
structure Health where
  version : String
  backend : String
  extensions : List String
  maxResults : Option Int := none
  deriving Repr, DecidableEq

/-- The status report on settings. -/
def Settings.health (s : Settings) : Health := ⟨version, s.backend, s.fileExtensions, none⟩

/-- The settings of a client: the ones that are given or else, laid over the ones of the
environment, the ones that are given one by one.  They are checked in the end. -/
def Settings.forClient (env : Environment) (given : Option Settings)
    (overrides : Settings.Overrides) : Except SettingsError Settings := do
  let settings ← match given with
    | some settings => .ok settings
    | none => (Settings.ofEnvironment env).map (·.override overrides)
  settings.check
  return settings

/-- The arguments of a search; those left out are taken from the client's settings. -/
structure SearchArguments where
  workspace : String
  query : String
  exact : Bool := false
  caseSensitive : Bool := false
  fileTypes : List String := []
  maxResults : Option Int := none
  references : Bool := false
  deriving Repr, DecidableEq

/-- A client with checked settings. -/
structure Client (H S σ : Type) extends Searcher H S σ where
  settings_checked : settings.check = .ok ()

namespace Client

variable {H S σ : Type} (client : Client H S σ)

/-- A client with settings, a backend and a sink, unless the settings cannot be used. -/
def build (settings : Settings) (backend : Backend H S) (sink : Sink σ) :
    Except SettingsError (Client H S σ) :=
  match h : settings.check with
  | .ok () => .ok { settings, backend, sink, settings_checked := h }
  | .error e => .error e

/-- The status report of a client. -/
def health : Health :=
  ⟨version, client.backend.profile.name, client.settings.fileExtensions,
    some client.settings.maxResults⟩

/-- The request that arguments make. -/
def request (a : SearchArguments) : Except SettingsError Request :=
  Request.build (Workspace.Path.ofString a.workspace) a.query a.exact a.caseSensitive
    (if a.fileTypes.isEmpty then client.settings.fileExtensions else a.fileTypes)
    (a.maxResults.getD client.settings.maxResults) a.references

/-- Runs a search. -/
def search (tree : Workspace.Tree) (a : SearchArguments) : Run H σ Outcome := do
  match client.request a with
  | .error e => throw (.settings e)
  | .ok r => client.toSearcher.search tree r

end Client
end DeclSearch

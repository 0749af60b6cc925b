/-
# Blank file types

A search that names no file types is limited to the extensions of its client's settings.  Whether
some are named is asked before blank entries are dropped, so a list of blanks is not like no list:
nothing is left of it, and nothing left stands for the default extensions, whatever the settings say
(`blank_file_types_are_defaults`).  That is the same as naming none only where the settings come
down to the defaults too.

A search reads its file types once, through `Client.extensionsFor`, so two searches that agree there
are the same search (`Client.search_congr`); and the answer to a search holds the extensions that it
was limited to, so two that differ there differ in every answer
(`Client.extensionsFor_eq_of_search_eq`).  On a command line the file types are those of the last
use of their switch, and take no part in anything but the arguments of the search
(`CommandLine.Entry.order_typesUse`).
-/

import DeclSearch.Proofs.ExtensionLists
import DeclSearch.Proofs.FrontEnds
import DeclSearch.Proofs.Levels

namespace DeclSearch

open Workspace (Tree)

variable {H S σ : Type}

namespace Extension

/-- Of a list of blanks nothing is left. -/
theorem normalize_of_allBlank {raws : List String}
    (h : ∀ raw ∈ raws, Text.allBlank raw = true) : normalize raws = defaults := by
  rw [normalize_eq, if_pos ((entries_eq_nil_iff raws).2 h)]

/-- The extensions that are searched by default are in normal form. -/
theorem normalize_defaults : normalize defaults = defaults := by decide

/-- The extensions that are searched by default are read back from their list. -/
theorem ofCsv_defaults : ofCsv (Text.join "," defaults) = defaults := by decide

end Extension

namespace Client

variable (client : Client H S σ)

/-- Without file types the extensions are those of the settings. -/
theorem extensionsFor_nil :
    client.extensionsFor [] = Extension.normalize client.settings.fileExtensions := rfl

/-- File types that are given are put in normal form, blank or not. -/
theorem extensionsFor_of_ne_nil {types : List String} (h : types ≠ []) :
    client.extensionsFor types = Extension.normalize types := by
  rw [extensionsFor, List.isEmpty_eq_false_iff.2 h]
  rfl

/-- A list of blanks limits a search as naming all the defaults does. -/
theorem extensionsFor_of_allBlank {types : List String} (hne : types ≠ [])
    (h : ∀ t ∈ types, Text.allBlank t = true) :
    client.extensionsFor types = client.extensionsFor Extension.defaults := by
  rw [client.extensionsFor_of_ne_nil hne, Extension.normalize_of_allBlank h,
    client.extensionsFor_of_ne_nil (by decide), Extension.normalize_defaults]

/-- **When blanks are like no list**: when there are none, or the settings come down to the
defaults. -/
theorem extensionsFor_eq_nil_iff {types : List String} (h : ∀ t ∈ types, Text.allBlank t = true) :
    client.extensionsFor types = client.extensionsFor [] ↔
      types = [] ∨ Extension.normalize client.settings.fileExtensions = Extension.defaults := by
  rcases eq_or_ne types [] with rfl | hne
  · exact iff_of_true rfl (.inl rfl)
  · rw [client.extensionsFor_of_ne_nil hne, Extension.normalize_of_allBlank h,
      client.extensionsFor_nil, or_iff_right hne, eq_comm]

variable (tree : Tree) (a : SearchArguments)

/-- **A search depends on the extensions that it is limited to.** -/
theorem search_congr {types others : List String}
    (h : client.extensionsFor types = client.extensionsFor others) :
    client.search tree { a with fileTypes := types } =
      client.search tree { a with fileTypes := others } := by
  have hrequest := client.request_congr { a with fileTypes := others } h
  unfold search
  rw [← hrequest]

/-- So does what the tool answers. -/
theorem answer_congr (env : Environment) (state : σ) {types others : List String}
    (h : client.extensionsFor types = client.extensionsFor others) :
    Tool.answer client env tree state { a with fileTypes := types } =
      Tool.answer client env tree state { a with fileTypes := others } := by
  have hsearch := client.search_congr tree
    { a with workspace := Tool.resolvePath env a.workspace } h
  unfold Tool.answer
  dsimp only at hsearch ⊢
  rw [hsearch]

variable {client tree a}

/-- An outcome holds the extensions that the search was limited to. -/
theorem extensions_of_start_search {state : σ} {o : Outcome}
    (h : ((client.search tree a).start state).1 = .ok o) :
    o.request.extensions = client.extensionsFor a.fileTypes := by
  rcases hrequest : client.request a with e | r
  · rw [start_search_of_invalid hrequest] at h
    exact nomatch h
  · rw [search_of_request hrequest] at h
    obtain ⟨levels, hcompletes⟩ := Searcher.completes_of_result_search (Prod.ext h rfl)
    rw [hcompletes.request_eq]
    exact (eq_of_request hrequest).2

/-- Searches that are the same and have an outcome are limited to the same extensions. -/
theorem extensionsFor_eq_of_search_eq {types others : List String} {state : σ} {o : Outcome}
    (ho : ((client.search tree { a with fileTypes := others }).start state).1 = .ok o)
    (h : client.search tree { a with fileTypes := types } =
      client.search tree { a with fileTypes := others }) :
    client.extensionsFor types = client.extensionsFor others := by
  have hothers := extensions_of_start_search ho
  rw [← h] at ho
  exact (extensions_of_start_search ho).symm.trans hothers

end Client

namespace CommandLine

/-- The switch for the file types. -/
def fileTypesSwitch : Switch where
  names := ["--file-types"]
  operand := .text "CSV"
  summary := "Comma-separated extensions to search (default: " ++
    Text.join "," Extension.defaults ++ ")."

/-- The use that names file types. -/
def typesUse (csv : String) : Use := ⟨fileTypesSwitch, some csv⟩

/-- The file types that an operand names. -/
def typesOf : Option String → List String
  | none | some "" => []
  | some csv => Extension.ofCsv csv

/-- File types in a list that is not empty are those of the list. -/
theorem typesOf_of_ne {csv : String} (h : csv ≠ "") : typesOf (some csv) = Extension.ofCsv csv := by
  unfold typesOf
  split
  · next hnone => exact nomatch hnone
  · next hempty => exact absurd (Option.some.inj hempty) h
  · next other _ hother => rw [Option.some.inj hother]

/-- An order with other file types. -/
def SearchOrder.withTypes (o : SearchOrder) (types : List String) : SearchOrder :=
  { o with arguments := { o.arguments with fileTypes := types } }

/-- An order is answered alike with file types that limit the search of its client alike. -/
theorem SearchOrder.run_withTypes_congr (o : SearchOrder) (env : Environment) (tree : Tree)
    {types others : List String}
    (h : ∀ client, o.client env = .ok client →
      client.extensionsFor types = client.extensionsFor others) :
    (o.withTypes types).run env tree = (o.withTypes others).run env tree := by
  have hsame (types : List String) : (o.withTypes types).client env = o.client env := rfl
  unfold run
  rw [hsame, hsame]
  rcases hclient : o.client env with e | client
  · rfl
  · have hsearch : client.search tree (o.withTypes types).arguments =
        client.search tree (o.withTypes others).arguments :=
      client.search_congr tree o.arguments (h client hclient)
    dsimp only
    rw [hsearch]
    rfl

section Orders

variable {front back : List Use}
  (hothers : ∀ u ∈ front ++ back, u.switch.key ≠ "--file-types")

include hothers

/-- **Naming file types changes the file types of an order** and nothing else. -/
theorem searchOrder_typesUse (workspace query csv : String) :
    searchOrder workspace query (front ++ typesUse csv :: back) =
      (searchOrder workspace query (front ++ back)).withTypes (typesOf (some csv)) := by
  have hoperands (key : String) (h : fileTypesSwitch.key ≠ key) :
      operands (front ++ typesUse csv :: back) key = operands (front ++ back) key := by
    have hown : operands [typesUse csv] key = [] :=
      operands_eq_nil (List.forall_mem_singleton.2 h)
    rw [List.append_cons, operands_append, operands_append, operands_append, hown,
      List.append_nil]
  have hused (key : String) (h : fileTypesSwitch.key ≠ key) :
      isUsed (front ++ typesUse csv :: back) key = isUsed (front ++ back) key := by
    have hown : isUsed [typesUse csv] key = false :=
      isUsed_eq_false (List.forall_mem_singleton.2 h)
    rw [List.append_cons, isUsed_append, isUsed_append, isUsed_append, hown, Bool.or_false]
  have htypes : operands (front ++ typesUse csv :: back) "--file-types" = [csv] := by
    have hfront : operands front "--file-types" = [] :=
      operands_eq_nil fun u hu => hothers u (List.mem_append_left back hu)
    have hback : operands back "--file-types" = [] :=
      operands_eq_nil fun u hu => hothers u (List.mem_append_right front hu)
    rw [List.append_cons, operands_append, operands_append, hfront, hback]
    rfl
  unfold searchOrder jsonOrder searchArguments SearchOrder.withTypes
  simp only [lastOperand?, htypes, hoperands "--structured" (by decide),
    hoperands "--workers" (by decide), hoperands "--exclude-dir" (by decide),
    hoperands "--max-results" (by decide), hoperands "--format" (by decide),
    hused "--exact-match" (by decide), hused "--case-sensitive" (by decide),
    hused "--include-references" (by decide), hused "--progress" (by decide)]
  rfl

/-- An order without the switch names no file types. -/
theorem searchOrder_withTypes_nil (workspace query : String) :
    (searchOrder workspace query (front ++ back)).withTypes [] =
      searchOrder workspace query (front ++ back) := by
  have htypes : lastOperand? (front ++ back) "--file-types" = none := by
    rw [lastOperand?, operands_eq_nil hothers]
    rfl
  unfold searchOrder jsonOrder SearchOrder.withTypes
  rw [htypes]

/-- A use of the switch for file types changes these in the order, and nothing else. -/
theorem Entry.order_typesUse (entry : Entry) (csv : String) (given : List String) :
    entry.order (front ++ typesUse csv :: back) given =
      (entry.order (front ++ back) given).withTypes (typesOf (some csv)) := by
  cases entry with
  | main => exact searchOrder_typesUse hothers _ _ csv
  | findType =>
    have hworkspace : lastOperand? (front ++ typesUse csv :: back) "--workspace" =
        lastOperand? (front ++ back) "--workspace" := by
      have hown : operands [typesUse csv] "--workspace" = [] := by rfl
      rw [lastOperand?, lastOperand?, List.append_cons, operands_append, operands_append,
        operands_append, hown, List.append_nil]
    rw [order, hworkspace]
    exact searchOrder_typesUse hothers _ _ csv

/-- An order without that switch has no file types. -/
theorem Entry.order_withTypes_nil (entry : Entry) (given : List String) :
    (entry.order (front ++ back) given).withTypes [] = entry.order (front ++ back) given := by
  cases entry with
  | main => exact searchOrder_withTypes_nil hothers _ _
  | findType => exact searchOrder_withTypes_nil hothers _ _

/-- **What a command line with file types is answered**: what the order without them is, given
these. -/
theorem Entry.Asks.run_line_typesUse {entry : Entry} {words : List String} {csv : String}
    {given : List String} (h : entry.Asks words (front ++ typesUse csv :: back) given)
    (env : Environment) (tree : Tree) (canServe : Bool) :
    run entry env tree canServe (entry.line words) =
      .ok (((entry.order (front ++ back) given).withTypes (typesOf (some csv))).run env
        tree).plain := by
  rw [← order_typesUse hothers]
  exact h.run_line env tree canServe

/-- What a command line without file types is answered. -/
theorem Entry.Asks.run_line_withTypes_nil {entry : Entry} {words given : List String}
    (h : entry.Asks words (front ++ back) given) (env : Environment) (tree : Tree)
    (canServe : Bool) :
    run entry env tree canServe (entry.line words) =
      .ok (((entry.order (front ++ back) given).withTypes []).run env tree).plain := by
  rw [order_withTypes_nil hothers]
  exact h.run_line env tree canServe

end Orders

/-- The client of an order has the extensions of the environment. -/
theorem Entry.fileExtensions_of_client {entry : Entry} {uses : List Use} {given : List String}
    {env : Environment} {client : Client Python.Project Symbol (List String)}
    (h : (entry.order uses given).client env = .ok client) :
    ∃ base, Settings.ofEnvironment env = .ok base ∧
      client.settings.fileExtensions = base.fileExtensions := by
  -- No option overrides the extensions, whatever else it overrides.
  have hkept (base : Settings) :
      (base.override ((entry.order uses given).overrides base)).fileExtensions =
        base.fileExtensions := by
    cases entry <;> rfl
  unfold SearchOrder.client at h
  rcases hbase : Settings.ofEnvironment env with e | base
  · rw [hbase] at h
    exact nomatch h
  rw [hbase] at h
  refine ⟨base, rfl, ?_⟩
  change (do
    (base.override ((entry.order uses given).overrides base)).check
    let backend ← BuiltIn.choose none (base.override ((entry.order uses given).overrides base))
    Client.build (base.override ((entry.order uses given).overrides base)) backend _) = _ at h
  rw [← hkept base]
  generalize base.override ((entry.order uses given).overrides base) = settings at h ⊢
  rcases hcheck : settings.check with e | _
  · rw [hcheck] at h
    exact nomatch h
  rw [hcheck] at h
  rcases hbackend : BuiltIn.choose none settings with e | backend
  · rw [hbackend] at h
    exact nomatch h
  rw [hbackend] at h
  rw [← Except.ok.inj ((Client.build_eq_ok hcheck backend _).symm.trans h)]

end CommandLine

open CommandLine

/-- **Blank file types are the default ones.**  A client that is given a list of blanks searches as
if it had been given the default extensions, and so does the tool; it searches as if it had been
given none where there are none, or where its settings come down to the defaults, and only then if
the search has an outcome.  A command line with a comma-separated list of blanks is answered like
the one that names the defaults there; and like the one without the switch if the operand is empty,
or if the extensions of the environment come down to the defaults. -/
theorem blank_file_types_are_defaults (env : Environment) (tree : Tree) :
    (∀ (client : Client H S σ) (a : SearchArguments) (state : σ) (types : List String),
      (∀ t ∈ types, Text.allBlank t = true) →
      let search := fun types => client.search tree { a with fileTypes := types }
      let answer := fun types => Tool.answer client env tree state { a with fileTypes := types }
      let isDefault := Extension.normalize client.settings.fileExtensions = Extension.defaults
      (types ≠ [] → search types = search Extension.defaults ∧
        answer types = answer Extension.defaults) ∧
      (types = [] ∨ isDefault → search types = search [] ∧ answer types = answer []) ∧
      ∀ o, ((search []).start state).1 = .ok o → search types = search [] →
        types = [] ∨ isDefault) ∧
    (∀ (entry : Entry) (canServe : Bool) (front back : List Use) (given : List String)
      (csv : String) (words named omitted : List String),
      (∀ t ∈ Text.cut ',' csv, Text.allBlank t = true) →
      (∀ u ∈ front ++ back, u.switch.key ≠ "--file-types") →
      entry.Asks words (front ++ typesUse csv :: back) given →
      entry.Asks named (front ++ typesUse (Text.join "," Extension.defaults) :: back) given →
      entry.Asks omitted (front ++ back) given →
      let answer := fun words => run entry env tree canServe (entry.line words)
      (csv ≠ "" → answer words = answer named) ∧
      (csv = "" ∨ (∀ base, Settings.ofEnvironment env = .ok base →
          Extension.normalize base.fileExtensions = Extension.defaults) →
        answer words = answer omitted)) := by
  refine ⟨fun client a state types hblank => ?_, ?_⟩
  · have hiff := client.extensionsFor_eq_nil_iff hblank
    refine ⟨fun hne => ?_, fun h => ?_, fun o ho h => ?_⟩
    · have hdefaults := client.extensionsFor_of_allBlank hne hblank
      exact ⟨client.search_congr tree a hdefaults, client.answer_congr tree a env state hdefaults⟩
    · have hnil := hiff.2 h
      exact ⟨client.search_congr tree a hnil, client.answer_congr tree a env state hnil⟩
    · exact hiff.1 (Client.extensionsFor_eq_of_search_eq ho h)
  · intro entry canServe front back given csv words named omitted hblank hothers hwords hnamed
      homitted answer
    have hofCsv : Extension.ofCsv csv = Extension.defaults := Extension.normalize_of_allBlank hblank
    have hdefaults : typesOf (some (Text.join "," Extension.defaults)) = Extension.defaults :=
      (typesOf_of_ne (by decide)).trans Extension.ofCsv_defaults
    dsimp only [answer]
    rw [hwords.run_line_typesUse hothers, hnamed.run_line_typesUse hothers,
      homitted.run_line_withTypes_nil hothers]
    refine ⟨fun hne => ?_, fun h => ?_⟩
    · rw [typesOf_of_ne hne, hofCsv, hdefaults]
    · have hsame : ∀ client, (entry.order (front ++ back) given).client env = .ok client →
          client.extensionsFor (typesOf (some csv)) = client.extensionsFor [] := by
        intro client hclient
        rcases eq_or_ne csv "" with rfl | hne
        · rfl
        · obtain ⟨base, hbase, hextensions⟩ := Entry.fileExtensions_of_client hclient
          rw [typesOf_of_ne hne, hofCsv, client.extensionsFor_of_ne_nil (by decide),
            client.extensionsFor_nil, hextensions, Extension.normalize_defaults]
          exact (h.resolve_left hne base hbase).symm
      rw [SearchOrder.run_withTypes_congr _ env tree hsame]

/-- A client whose settings limit a search to notes. -/
def noteClient : Client Python.Project Symbol (List String) where
  settings := { fileExtensions := [".txt"], backend := "none" }
  backend := Backend.none []
  sink := Sink.collecting
  settings_checked := by decide +kernel

/-- The hypotheses in `blank_file_types_are_defaults` are satisfiable: for a client with extensions
of its own and a blank, and for the command lines of both programs. -/
theorem blank_file_types_are_defaults_space :
    (∀ t ∈ [" "], Text.allBlank t = true) ∧
    noteClient.search Searcher.oneLineTree { workspace := ".", query := "a", fileTypes := [" "] } =
      noteClient.search Searcher.oneLineTree
        { workspace := ".", query := "a", fileTypes := Extension.defaults } ∧
    run .main [("TYPEFINDER_FILE_TYPES", "txt")] Searcher.oneLineTree false
        ["search", ".", "a", "--file-types", " , "] =
      run .main [("TYPEFINDER_FILE_TYPES", "txt")] Searcher.oneLineTree false
        ["search", ".", "a", "--file-types", Text.join "," Extension.defaults] ∧
    run .findType [("TYPEFINDER_FILE_TYPES", "txt")] Searcher.oneLineTree false
        ["--file-types=", "a"] =
      run .findType [("TYPEFINDER_FILE_TYPES", "txt")] Searcher.oneLineTree false ["a"] := by
  have hblank : ∀ t ∈ [" "], Text.allBlank t = true := by decide
  have hsearch := ((blank_file_types_are_defaults [] Searcher.oneLineTree).1 noteClient
    { workspace := ".", query := "a" } [] [" "] hblank).1 (by decide)
  have hblanks : ∀ t ∈ Text.cut ',' " , ", Text.allBlank t = true := by decide +kernel
  have hempty : ∀ t ∈ Text.cut ',' "", Text.allBlank t = true := by decide +kernel
  have hothers : ∀ u ∈ ([] ++ [] : List Use), u.switch.key ≠ "--file-types" := nofun
  have hmain := ((@blank_file_types_are_defaults Unit Unit Unit
      [("TYPEFINDER_FILE_TYPES", "txt")] Searcher.oneLineTree).2 .main false [] [] [".", "a"] " , "
    [".", "a", "--file-types", " , "]
    [".", "a", "--file-types", Text.join "," Extension.defaults] [".", "a"] hblanks hothers
    ⟨by rfl, by decide +kernel, by decide +kernel, by rfl⟩
    ⟨by rfl, by decide +kernel, by decide +kernel, by rfl⟩
    ⟨by rfl, by decide +kernel, by decide +kernel, by rfl⟩).1 (by decide)
  have hfindType := ((@blank_file_types_are_defaults Unit Unit Unit
      [("TYPEFINDER_FILE_TYPES", "txt")] Searcher.oneLineTree).2 .findType false [] [] ["a"] ""
    ["--file-types=", "a"] ["a", "--file-types", Text.join "," Extension.defaults] ["a"] hempty
    hothers ⟨by rfl, by decide +kernel, by decide +kernel, by rfl⟩
    ⟨by rfl, by decide +kernel, by decide +kernel, by rfl⟩
    ⟨by rfl, by decide +kernel, by decide +kernel, by rfl⟩).2 (.inl rfl)
  exact ⟨hblank, hsearch.1, hmain, hfindType⟩

/-- **A blank is not like nothing.**  Where the settings limit a search to notes, one that names a
blank finds the match in a source, which the one that names nothing leaves out. -/
theorem blank_file_type_is_not_omitted :
    noteClient.settings.fileExtensions = [".txt"] ∧ Text.allBlank " " = true ∧
    ((noteClient.search Searcher.oneLineTree
        { workspace := ".", query := "a", fileTypes := [" "] }).start []).1.map Outcome.results =
      .ok [⟨"x.py", 1, "a", .reference, ">>> a"⟩] ∧
    ((noteClient.search Searcher.oneLineTree
        { workspace := ".", query := "a", fileTypes := [] }).start []).1.map Outcome.results =
      .ok [] := by
  refine ⟨rfl, by decide, ?_, ?_⟩ <;> decide +kernel

end DeclSearch

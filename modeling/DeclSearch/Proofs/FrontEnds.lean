/-
# The front ends agree

A search can be asked for on the command line of either program and through the tool for agents.
The options of a command line make settings and arguments (`CommandLine.effectiveSettings`,
`CommandLine.searchArguments`), in whatever order they stand and whether or not they are repeated.
A client that has these settings and is given these arguments finds what both commands print as JSON
and what the tool answers, and where it fails all three report its failure (`front_ends_agree`).

The commands differ from a client of one's own in three things: they bring the extensions in normal
form twice, they keep warnings for the report in a sink of their own, and they take control
sequences out of what they print.  The first two make no difference, and in a report there are no
control sequences.  In the message of a failure there may be (`escape_is_left_out_of_message`).
-/

import DeclSearch.CommandLine.Run
import DeclSearch.Proofs.Extensions
import DeclSearch.Proofs.Pieces
import DeclSearch.Proofs.PlainReports
import DeclSearch.Proofs.Readings
import DeclSearch.Proofs.SinkChoice
import DeclSearch.Tool

namespace DeclSearch

open Workspace (Path Tree)

variable {σ τ : Type}

namespace Client

variable {H S : Type}

/-- The extensions that a search for some file types is limited to. -/
def extensionsFor (client : Client H S σ) (types : List String) : List String :=
  Extension.normalize (if types.isEmpty then client.settings.fileExtensions else types)

/-- A request is made of the file types' extensions, and of the file types in no other way. -/
theorem request_congr (client : Client H S σ) (a : SearchArguments) {types : List String}
    (h : client.extensionsFor types = client.extensionsFor a.fileTypes) :
    client.request { a with fileTypes := types } = client.request a := by
  unfold extensionsFor at h
  unfold request Request.build
  dsimp only
  rw [h]

/-- What a request takes from the arguments: the workspace, and the extensions of its file types. -/
theorem eq_of_request {client : Client H S σ} {a : SearchArguments} {r : Request}
    (h : client.request a = .ok r) :
    r.root = Path.ofString a.workspace ∧ r.extensions = client.extensionsFor a.fileTypes := by
  unfold request Request.build at h
  split at h
  · split at h
    · rw [← Except.ok.inj h]
      exact ⟨rfl, rfl⟩
    · cases h
  · cases h

/-- A search whose arguments make no request fails for that, and nothing is done. -/
theorem start_search_of_invalid {client : Client H S σ} {tree : Tree} {a : SearchArguments}
    {e : SettingsError} (h : client.request a = .error e) (state : σ) :
    (client.search tree a).start state = (.error (.settings e), ⟨[], [], state⟩) := by
  unfold search
  rw [h]
  rfl

/-- A search whose arguments make a request is the search for this request. -/
theorem search_of_request {client : Client H S σ} {tree : Tree} {a : SearchArguments}
    {r : Request} (h : client.request a = .ok r) :
    client.search tree a = client.toSearcher.search tree r := by
  unfold search
  rw [h]

/-- A client that is built of settings that can be used. -/
theorem build_eq_ok {settings : Settings} (h : settings.check = .ok ()) (backend : Backend H S)
    (sink : Sink σ) :
    build settings backend sink = .ok ⟨⟨settings, backend, sink⟩, h⟩ := by
  unfold build
  split
  · rfl
  · next hcheck => exact nomatch hcheck.symm.trans h

end Client

/-- The backend of the name that the settings give. -/
theorem BuiltIn.choose_eq_ok {settings : Settings} {built : BuiltIn}
    (h : ofName? (Text.lower settings.backend) = some built) :
    choose none settings = .ok (built.backend settings.excludedDirs) := by
  unfold choose
  simp [h]

namespace CommandLine

/-- The settings that the options of a search make of others. -/
def settingsOf (uses : List Use) (base : Settings) : Settings :=
  { base with
    showProgress := isUsed uses "--progress"
    backend := (lastOperand? uses "--structured").getD base.backend
    maxWorkers := ((lastOperand? uses "--workers").bind Text.readInt?).getD base.maxWorkers
    excludedDirs := base.excludedDirs ++ operands uses "--exclude-dir" }

/-- The settings that the environment and the options of a search make, unless they cannot be
used. -/
def effectiveSettings (env : Environment) (uses : List Use) : Except SettingsError Settings := do
  let base ← Settings.ofEnvironment env
  (settingsOf uses base).check
  return settingsOf uses base

/-- The arguments that the options of a search make. -/
def searchArguments (workspace query : String) (uses : List Use) : SearchArguments where
  workspace
  query
  exact := isUsed uses "--exact-match"
  caseSensitive := isUsed uses "--case-sensitive"
  fileTypes := match lastOperand? uses "--file-types" with
    | none | some "" => []
    | some csv => Text.cut ',' csv
  maxResults := (lastOperand? uses "--max-results").bind Text.readInt?
  references := isUsed uses "--include-references"

/-- The order that the options of a search and the wish for JSON make. -/
def jsonOrder (workspace query : String) (uses : List Use) : SearchOrder where
  arguments := { searchArguments workspace query uses with
    fileTypes := match lastOperand? uses "--file-types" with
      | none | some "" => []
      | some csv => Extension.ofCsv csv }
  overrides := fun settings => {
    showProgress := some (isUsed uses "--progress")
    backend := lastOperand? uses "--structured"
    maxWorkers := (lastOperand? uses "--workers").bind Text.readInt?
    excludedDirs := some (settings.excludedDirs ++ operands uses "--exclude-dir") }
  format := .json

/-- The order that the options of a search make. -/
def searchOrder (workspace query : String) (uses : List Use) : SearchOrder :=
  { jsonOrder workspace query uses with
    format := ((lastOperand? uses "--format").bind ReportFormat.ofName?).getD .console }

/-- The switch for the format of the report. -/
def formatSwitch : Switch where
  names := ["-f", "--format"]
  operand := .choice (ReportFormat.all.map ReportFormat.name)
  summary := "Output format."

/-- The use that asks for a report as JSON. -/
def formatUse : Use := ⟨formatSwitch, some "json"⟩

/-- The switch for the workspace of the short program. -/
def workspaceSwitch : Switch where
  names := ["--workspace"]
  operand := .text "TEXT"
  summary := "Workspace root to search.  [default: .]"

/-- The use that names a workspace. -/
def workspaceUse (workspace : String) : Use := ⟨workspaceSwitch, some workspace⟩

/-- What a command needs to be asked for a search: the switches of a search, each to be called by
its last name, and the short name of the format. -/
structure Command.Searches (c : Command) : Prop where
  isRegular : c.isRegular
  hasSwitches : searchSwitches ⊆ c.switches
  sayingOf_f : Reading.sayingOf c "-f" = .ok ⟨[], some ("-f", formatSwitch)⟩

/-- The command `search` has the switches of a search. -/
theorem searches_searchCommand : searchCommand.Searches :=
  ⟨by decide +kernel, List.subset_append_left _ _, rfl⟩

/-- The other command has the switches of a search, and one for the workspace. -/
theorem searches_findTypeCommand : findTypeCommand.Searches :=
  ⟨by decide +kernel, by decide, rfl⟩

/-- The switch for the format is among those of a search, and JSON among its formats. -/
theorem fits_formatUse : formatUse.Fits searchSwitches := by decide

/-- Any workspace may be given to the switch for it. -/
theorem fits_workspaceUse (workspace : String) :
    (workspaceUse workspace).Fits findTypeCommand.switches :=
  ⟨List.mem_cons_self, ⟨nofun, nofun⟩, rfl⟩

/-- The order that the arguments of a command make is read off its uses. -/
theorem ofArguments_ofUses {c : Command} (hc : c.Searches) {uses : List Use}
    (huses : ∀ u ∈ uses, u.Fits c.switches) (words : List String) (workspace query : String) :
    SearchOrder.ofArguments workspace query (Arguments.ofUses uses words) =
      searchOrder workspace query uses := by
  -- What is asked of the arguments goes by the names of switches that both commands have.
  have hon (key : String) (h : ∃ s ∈ searchSwitches, s.key = key) :
      (Arguments.ofUses uses words).isOn key = isUsed uses key := by
    obtain ⟨s, hs, rfl⟩ := h
    exact Arguments.isOn_ofUses hc.isRegular huses words (hc.hasSwitches hs)
  have htext (key : String)
      (h : ∃ s ∈ searchSwitches, s.key = key ∧ s.operand.isText ∧ s.isRepeatable = false) :
      (Arguments.ofUses uses words).text? key = lastOperand? uses key := by
    obtain ⟨s, hs, rfl, htext, hsingle⟩ := h
    exact Arguments.text?_ofUses hc.isRegular huses words (hc.hasSwitches hs) htext hsingle
  have hnumber (key : String)
      (h : ∃ s ∈ searchSwitches, s.key = key ∧ s.operand = .positive ∧ s.isRepeatable = false) :
      (Arguments.ofUses uses words).number? key = (lastOperand? uses key).bind Text.readInt? := by
    obtain ⟨s, hs, rfl, hpositive, hsingle⟩ := h
    exact Arguments.number?_ofUses hc.isRegular huses words (hc.hasSwitches hs) hpositive hsingle
  have htexts (key : String)
      (h : ∃ s ∈ searchSwitches, s.key = key ∧ s.operand.isText ∧ s.isRepeatable = true) :
      (Arguments.ofUses uses words).texts key = operands uses key := by
    obtain ⟨s, hs, rfl, htext, hrepeats⟩ := h
    exact Arguments.texts_ofUses hc.isRegular huses words (hc.hasSwitches hs) htext hrepeats
  unfold SearchOrder.ofArguments
  rw [hon "--exact-match" (by decide), hon "--case-sensitive" (by decide),
    hon "--include-references" (by decide), hon "--progress" (by decide),
    htext "--file-types" (by decide), htext "--structured" (by decide),
    htext "--format" (by decide), hnumber "--max-results" (by decide),
    hnumber "--workers" (by decide), htexts "--exclude-dir" (by decide)]
  rfl

/-- **The words of a search, read by either command.**  Whatever uses stand in front, the words of
the options behind them and the wish for JSON are read as what they say. -/
theorem read_search {c : Command} (hc : c.Searches) {uses : List Use}
    (huses : ∀ u ∈ uses, u.Fits searchSwitches) (done : Reading) :
    Reading.readOnto c done (uses.flatMap Use.words ++ ["-f", "json"]) =
      .ok { done with uses := done.uses ++ uses ++ [formatUse] } := by
  rw [Reading.readOnto_uses hc.isRegular fun u hu => (huses u hu).mono hc.hasSwitches,
    Reading.readOnto, if_neg (by decide), if_pos (by decide), hc.sayingOf_f]
  simp [Reading.readOnto, formatUse]

/-- What a command wishes whose uses all carry an argument. -/
theorem wish_of_read {c : Command} (hc : c.isRegular) {words : List String} {reading : Reading}
    (hread : c.read words = .ok reading) (huses : ∀ u ∈ reading.uses, u.Fits c.switches)
    (hpurpose : ∀ u ∈ reading.uses, u.switch.purpose = .argument)
    (hwords : reading.words.length = c.parameters.length) :
    c.wish words = .ok (.run (Arguments.ofUses reading.uses reading.words)) := by
  have hnone : (reading.uses.findSome? fun use => use.switch.purpose.wish?) = none := by
    rw [List.findSome?_eq_none_iff]
    intro u hu
    rw [hpurpose u hu]
    rfl
  have harguments := Arguments.ofReading_eq hc huses hwords
  unfold Command.wish
  simp only [hread, hnone, harguments, bind, Except.bind]
  rfl

namespace Entry

/-- The command of a program that searches. -/
def command : Entry → Command
  | .main => searchCommand
  | .findType => findTypeCommand

/-- What stands behind the name of a program to give words to its command. -/
def line : Entry → List String → List String
  | .main, words => "search" :: words
  | .findType, words => words

/-- The order that a program takes from the uses and the words of its command. -/
def order : Entry → List Use → List String → SearchOrder
  | .main, uses, words => searchOrder (words.getD 0 "") (words.getD 1 "") uses
  | .findType, uses, words =>
    searchOrder ((lastOperand? uses "--workspace").getD ".") (words.getD 0 "") uses

/-- That words ask a program for a search: its command reads them as uses that all carry an
argument, and as words for its parameters. -/
structure Asks (entry : Entry) (words : List String) (uses : List Use) (given : List String) :
    Prop where
  read : entry.command.read words = .ok ⟨uses, given⟩
  fits : ∀ u ∈ uses, u.Fits entry.command.switches
  purpose : ∀ u ∈ uses, u.switch.purpose = .argument
  length : given.length = entry.command.parameters.length

/-- Whichever program is called, the command that it leads to has the switches of a search. -/
theorem searches_command (entry : Entry) : entry.command.Searches :=
  match entry with
  | .main => searches_searchCommand
  | .findType => searches_findTypeCommand

/-- Words that ask for something are read as these uses and these arguments. -/
theorem Asks.wish_eq {entry : Entry} {words : List String} {uses : List Use}
    {given : List String} (h : entry.Asks words uses given) :
    entry.command.wish words = .ok (.run (Arguments.ofUses uses given)) :=
  wish_of_read entry.searches_command.isRegular h.read h.fits h.purpose h.length

/-- **What a program answers words that ask for a search.** -/
theorem Asks.run_line {entry : Entry} {words : List String} {uses : List Use}
    {given : List String} (h : entry.Asks words uses given) (env : Environment) (tree : Tree)
    (canServe : Bool) :
    run entry env tree canServe (entry.line words) =
      .ok ((entry.order uses given).run env tree).plain := by
  have hc := entry.searches_command
  cases entry with
  | main =>
    have hwish : searchCommand.wish words = _ := h.wish_eq
    have hanswer : runGroup env tree canServe ("search" :: words) =
        .ok ((order .main uses given).run env tree) := by
      change answerFor searchCommand _ _ = _
      rw [answerFor, hwish]
      dsimp only
      rw [ofArguments_ofUses hc h.fits]
      rfl
    rw [run, line, hanswer]
    rfl
  | findType =>
    have hwish : findTypeCommand.wish words = _ := h.wish_eq
    have hworkspace : workspaceSwitch ∈ findTypeCommand.switches := List.mem_cons_self
    have htext : (Arguments.ofUses uses given).text? "--workspace" =
        lastOperand? uses "--workspace" :=
      Arguments.text?_ofUses hc.isRegular h.fits given hworkspace rfl rfl
    have hanswer : runFindType env tree words =
        .ok ((order .findType uses given).run env tree) := by
      rw [runFindType, answerFor, hwish]
      dsimp only
      rw [htext, ofArguments_ofUses hc h.fits]
      rfl
    rw [run, line, hanswer]
    rfl

end Entry

section Words

variable {c : Command} (hc : c.Searches)
  {front uses : List Use} (hfront : ∀ u ∈ front, u.Fits c.switches ∧ u.switch = workspaceSwitch)
  (huses : ∀ u ∈ uses, u.Fits searchSwitches)

include hfront huses

include hc in
/-- All uses in a call fit the switches of its command. -/
theorem fits_all : ∀ u ∈ front ++ uses ++ [formatUse], u.Fits c.switches := by
  simp only [List.forall_mem_append, List.forall_mem_singleton]
  exact ⟨⟨fun u hu => (hfront u hu).1, fun u hu => (huses u hu).mono hc.hasSwitches⟩,
    fits_formatUse.mono hc.hasSwitches⟩

/-- No use in a call asks for help or for the version. -/
theorem purpose_all : ∀ u ∈ front ++ uses ++ [formatUse], u.switch.purpose = .argument := by
  have hsearch : ∀ s ∈ searchSwitches, s.purpose = .argument := by decide
  simp only [List.forall_mem_append, List.forall_mem_singleton]
  refine ⟨⟨fun u hu => ?_, fun u hu => hsearch _ (huses u hu).known⟩, rfl⟩
  rw [(hfront u hu).2]
  rfl

omit huses in
/-- The workspace and the wish for JSON make no difference to the rest of the order. -/
theorem jsonOrder_surrounded (workspace query : String) :
    jsonOrder workspace query (front ++ uses ++ [formatUse]) = jsonOrder workspace query uses := by
  have hoperands (key : String) (hworkspace : workspaceSwitch.key ≠ key)
      (hformat : formatSwitch.key ≠ key) :
      operands (front ++ uses ++ [formatUse]) key = operands uses key := by
    have hfrontNil : operands front key = [] :=
      operands_eq_nil fun u hu => by rwa [(hfront u hu).2]
    have hformatNil : operands [formatUse] key = [] :=
      operands_eq_nil (List.forall_mem_singleton.2 hformat)
    rw [operands_append, operands_append, hfrontNil, hformatNil, List.nil_append, List.append_nil]
  have hused (key : String) (hworkspace : workspaceSwitch.key ≠ key)
      (hformat : formatSwitch.key ≠ key) :
      isUsed (front ++ uses ++ [formatUse]) key = isUsed uses key := by
    have hfrontNone : isUsed front key = false :=
      isUsed_eq_false fun u hu => by rwa [(hfront u hu).2]
    have hformatNone : isUsed [formatUse] key = false :=
      isUsed_eq_false (List.forall_mem_singleton.2 hformat)
    rw [isUsed_append, isUsed_append, hfrontNone, hformatNone, Bool.false_or, Bool.or_false]
  unfold jsonOrder searchArguments
  simp only [lastOperand?, hoperands "--file-types" (by decide) (by decide),
    hoperands "--structured" (by decide) (by decide), hoperands "--workers" (by decide) (by decide),
    hoperands "--exclude-dir" (by decide) (by decide),
    hoperands "--max-results" (by decide) (by decide),
    hused "--exact-match" (by decide) (by decide), hused "--case-sensitive" (by decide) (by decide),
    hused "--include-references" (by decide) (by decide),
    hused "--progress" (by decide) (by decide)]

omit huses in
/-- **The order of a search whose report is to be JSON** is the one that its options make, wherever
its workspace comes from. -/
theorem searchOrder_surrounded (workspace query : String) :
    searchOrder workspace query (front ++ uses ++ [formatUse]) =
      jsonOrder workspace query uses := by
  have hlast : lastOperand? (front ++ uses ++ [formatUse]) "--format" = some "json" := by
    have hjson : operands [formatUse] "--format" = ["json"] := by decide
    rw [lastOperand?, operands_append, hjson, List.getLast?_concat]
  rw [searchOrder, hlast, jsonOrder_surrounded hfront]
  rfl

end Words

variable (env : Environment) (tree : Tree) (canServe : Bool) {workspace query : String}
  {uses : List Use} (huses : ∀ u ∈ uses, u.Fits searchSwitches)

include huses

/-- **What the group of commands answers a search.** -/
theorem run_main_search (hworkspace : Reading.isSwitchWord workspace = false)
    (hquery : Reading.isSwitchWord query = false) :
    run .main env tree canServe
        ("search" :: workspace :: query :: (uses.flatMap Use.words ++ ["-f", "json"])) =
      .ok ((jsonOrder workspace query uses).run env tree).plain := by
  have hfront : ∀ u ∈ ([] : List Use), u.Fits searchCommand.switches ∧ u.switch = workspaceSwitch :=
    List.forall_mem_nil _
  have hc := searches_searchCommand
  have hread : searchCommand.read
      (workspace :: query :: (uses.flatMap Use.words ++ ["-f", "json"])) =
        .ok ⟨[] ++ uses ++ [formatUse], [workspace, query]⟩ := by
    rw [Command.read, Reading.readOnto_word rfl hworkspace, Reading.readOnto_word rfl hquery,
      read_search hc huses]
    rfl
  have hasks : Entry.main.Asks (workspace :: query :: (uses.flatMap Use.words ++ ["-f", "json"]))
      ([] ++ uses ++ [formatUse]) [workspace, query] :=
    ⟨hread, fits_all hc hfront huses, purpose_all hfront huses, rfl⟩
  have horder : Entry.main.order ([] ++ uses ++ [formatUse]) [workspace, query] =
      jsonOrder workspace query uses :=
    searchOrder_surrounded hfront workspace query
  rw [← horder]
  exact hasks.run_line env tree canServe

/-- **What the short program answers a search.** -/
theorem run_findType_search (hquery : Reading.isSwitchWord query = false) :
    run .findType env tree canServe
        (query :: "--workspace" :: workspace :: (uses.flatMap Use.words ++ ["-f", "json"])) =
      .ok ((jsonOrder workspace query uses).run env tree).plain := by
  have hfront : ∀ u ∈ [workspaceUse workspace],
      u.Fits findTypeCommand.switches ∧ u.switch = workspaceSwitch :=
    List.forall_mem_singleton.2 ⟨fits_workspaceUse workspace, rfl⟩
  have hc := searches_findTypeCommand
  have hread : findTypeCommand.read
      (query :: "--workspace" :: workspace :: (uses.flatMap Use.words ++ ["-f", "json"])) =
        .ok ⟨[workspaceUse workspace] ++ uses ++ [formatUse], [query]⟩ := by
    have hfirst := Reading.readOnto_use hc.isRegular (fits_workspaceUse workspace) ⟨[], [query]⟩
      (uses.flatMap Use.words ++ ["-f", "json"])
    rw [Command.read, Reading.readOnto_word rfl hquery]
    change Reading.readOnto findTypeCommand ⟨[], [query]⟩
      ((workspaceUse workspace).words ++ (uses.flatMap Use.words ++ ["-f", "json"])) = _
    rw [hfirst, read_search hc huses]
    rfl
  have hasks : Entry.findType.Asks
      (query :: "--workspace" :: workspace :: (uses.flatMap Use.words ++ ["-f", "json"]))
      ([workspaceUse workspace] ++ uses ++ [formatUse]) [query] :=
    ⟨hread, fits_all hc hfront huses, purpose_all hfront huses, rfl⟩
  -- None of the options of a search names a workspace, so the first use is the last one that does.
  have hlast : lastOperand? ([workspaceUse workspace] ++ uses ++ [formatUse]) "--workspace" =
      some workspace := by
    have hothers : ∀ s ∈ searchSwitches, s.key ≠ "--workspace" := by decide
    have hnone : operands uses "--workspace" = [] :=
      operands_eq_nil fun u hu => hothers _ (huses u hu).known
    have hformat : operands [formatUse] "--workspace" = [] := by decide
    rw [lastOperand?, operands_append, operands_append, hnone, hformat]
    rfl
  have horder : Entry.findType.order ([workspaceUse workspace] ++ uses ++ [formatUse]) [query] =
      jsonOrder workspace query uses := by
    rw [Entry.order, hlast]
    exact searchOrder_surrounded hfront workspace query
  rw [← horder]
  exact hasks.run_line env tree canServe

omit huses

/-- The client that an order is given to has the effective settings. -/
theorem client_jsonOrder :
    (jsonOrder workspace query uses).client env = (do
      let settings ← effectiveSettings env uses
      let backend ← BuiltIn.choose none settings
      Client.build settings backend Sink.collecting) := by
  unfold SearchOrder.client effectiveSettings
  rcases Settings.ofEnvironment env with e | base
  · rfl
  · change (do
      (settingsOf uses base).check
      let backend ← BuiltIn.choose none (settingsOf uses base)
      Client.build (settingsOf uses base) backend Sink.collecting) = _
    rcases hcheck : (settingsOf uses base).check with e | _
    · simp [hcheck, bind, Except.bind]
    · simp [hcheck, bind, Except.bind, pure, Except.pure]

/-- **What an order for JSON is answered by**: what a client finds that has its settings, whatever
the client's sink. The order goes to a client of its own, which has the same settings and the same
backend; and the extensions that the command line has brought to their normal form are not changed
by the client, which does this once more. -/
theorem run_jsonOrder (env : Environment) (tree : Tree) (workspace query : String)
    {uses : List Use} (client : Client Python.Project Symbol σ)
    (hsettings : effectiveSettings env uses = .ok client.settings)
    (hbackend : BuiltIn.choose none client.settings = .ok client.backend)
    (hsink : client.sink.TakesAll) (state : σ) :
    (jsonOrder workspace query uses).run env tree =
      match ((client.search tree (searchArguments workspace query uses)).start state).1 with
      | .ok outcome => .saying (Report.json outcome)
      | .error e => .failing [] e.message := by
  -- The order is given to a client that differs from this one in its sink alone.
  let own : Client Python.Project Symbol (List String) :=
    ⟨⟨client.settings, client.backend, Sink.collecting⟩, client.settings_checked⟩
  have hclient : (jsonOrder workspace query uses).client env = .ok own := by
    rw [client_jsonOrder, hsettings]
    change (do
      let backend ← BuiltIn.choose none client.settings
      Client.build client.settings backend Sink.collecting) = _
    rw [hbackend]
    exact Client.build_eq_ok client.settings_checked _ _
  have hrequest : own.request (jsonOrder workspace query uses).arguments =
      own.request (searchArguments workspace query uses) := by
    -- The extensions of the order are in normal form already, and some stay if some are given.
    refine own.request_congr (searchArguments workspace query uses) ?_
    dsimp only [searchArguments]
    split
    · rfl
    · rfl
    · next csv _ _ =>
      have hcsv : Extension.ofCsv csv ≠ [] := Extension.normalize_ne_nil _
      rw [Client.extensionsFor, Client.extensionsFor, List.isEmpty_eq_false_iff.2 hcsv,
        List.isEmpty_eq_false_iff.2 (Text.cut_ne_nil ',' csv)]
      exact Extension.normalize_normalize _
  have hsearch : own.search tree (jsonOrder workspace query uses).arguments =
      own.search tree (searchArguments workspace query uses) := by
    unfold Client.search
    rw [hrequest]
  have hsame : Searcher.SameButSink own.toSearcher client.toSearcher :=
    ⟨rfl, rfl, fun _ _ => rfl, hsink⟩
  have hresult := Client.start_search_eq hsame tree (searchArguments workspace query uses) [] state
  unfold SearchOrder.run
  rw [hclient]
  dsimp only
  rw [hsearch]
  rcases hown : (own.search tree (searchArguments workspace query uses)).start []
    with ⟨result, after⟩
  rw [hown] at hresult
  rw [← hresult]
  cases result <;> rfl

/-- An answer that reports an outcome is plain. -/
theorem plain_saying_json (o : Outcome) :
    (Answer.saying (Report.json o)).plain = { out := Report.json o ++ "\n" } := by
  have hline := @Text.plain_line "" (by decide) (Report.json o)
  have hjson : Text.plain (Report.json o) = Report.json o := Text.Json.plain_render _
  rw [hjson, String.empty_append] at hline
  have herr : Text.plain "" = "" := Text.plain_of_notMem (by decide)
  rw [Answer.saying, Answer.plain, hline, herr]

/-- An answer that reports a failure is plain but for the message. -/
theorem plain_failing (message : String) :
    (Answer.failing [] message).plain =
      { exitCode := 1, out := "Error: " ++ Text.plain message ++ "\n" } := by
  have hline := @Text.plain_line "Error: " (by decide) message
  have herr : Text.plain "" = "" := Text.plain_of_notMem (by decide)
  rw [Answer.failing, Answer.plain, List.map_nil, String.join_nil, String.empty_append, hline, herr]

end CommandLine

open CommandLine

/-- **Both commands refuse settings alike.**  Where no client can be built, because the settings
cannot be used or name no backend, both commands print why, without control sequences, and answer
with exit code 1. -/
theorem commands_refuse_settings (env : Environment) (tree : Tree) (canServe : Bool)
    {workspace query : String} {uses : List Use}
    (hworkspace : Reading.isSwitchWord workspace = false)
    (hquery : Reading.isSwitchWord query = false) (huses : ∀ u ∈ uses, u.Fits searchSwitches)
    {e : SettingsError} (h : (effectiveSettings env uses >>= BuiltIn.choose none) = .error e) :
    run .main env tree canServe
        ("search" :: workspace :: query :: (uses.flatMap Use.words ++ ["-f", "json"])) =
      .ok { exitCode := 1, out := "Error: " ++ Text.plain e.message ++ "\n", err := "" } ∧
    run .findType env tree canServe
        (query :: "--workspace" :: workspace :: (uses.flatMap Use.words ++ ["-f", "json"])) =
      .ok { exitCode := 1, out := "Error: " ++ Text.plain e.message ++ "\n", err := "" } := by
  have hclient : (jsonOrder workspace query uses).client env = .error e := by
    rw [client_jsonOrder]
    rcases hsettings : effectiveSettings env uses with e' | settings
    · rw [hsettings] at h
      exact congrArg _ (Except.error.inj h)
    · rw [hsettings] at h
      change BuiltIn.choose none settings = .error e at h
      change (do
        let backend ← BuiltIn.choose none settings
        Client.build settings backend Sink.collecting) = _
      rw [h]
      rfl
  have hrun : (jsonOrder workspace query uses).run env tree = .failing [] e.message := by
    rw [SearchOrder.run, hclient]
  rw [run_main_search env tree canServe huses hworkspace hquery,
    run_findType_search env tree canServe huses hquery, hrun, plain_failing]
  exact ⟨rfl, rfl⟩

/-- **The front ends agree.**  Whatever workspace, query and options the command lines give, take a
client with the effective settings and an agent's client with the same ones, and any two sinks that
take every warning.  Where the client finds an outcome, both commands print it as JSON and nothing
else and answer with exit code 0, and the tool answers just this text.  Where it fails, both
commands print its failure and nothing else, without control sequences, and answer with exit code 1,
and the tool answers with the failure in place of results. -/
theorem front_ends_agree (env : Environment) (tree : Tree) (canServe : Bool)
    {workspace query path : String} {uses : List Use}
    (hworkspace : Reading.isSwitchWord workspace = false)
    (hquery : Reading.isSwitchWord query = false) (huses : ∀ u ∈ uses, u.Fits searchSwitches)
    (hpath : Tool.resolvePath env path = workspace)
    (client : Client Python.Project Symbol σ) (server : Client Python.Project Symbol τ)
    (hsettings : effectiveSettings env uses = .ok client.settings)
    (hbackend : BuiltIn.choose none client.settings = .ok client.backend)
    (hserver : Searcher.SameButSink client.toSearcher server.toSearcher) (state : σ) (state' : τ) :
    (∀ outcome, ((client.search tree (searchArguments workspace query uses)).start state).1 =
        .ok outcome →
      run .main env tree canServe
          ("search" :: workspace :: query :: (uses.flatMap Use.words ++ ["-f", "json"])) =
        .ok { exitCode := 0, out := Report.json outcome ++ "\n", err := "" } ∧
      run .findType env tree canServe
          (query :: "--workspace" :: workspace :: (uses.flatMap Use.words ++ ["-f", "json"])) =
        .ok { exitCode := 0, out := Report.json outcome ++ "\n", err := "" } ∧
      Tool.answer server env tree state' (searchArguments path query uses) =
        Report.json outcome) ∧
    (∀ e, ((client.search tree (searchArguments workspace query uses)).start state).1 = .error e →
      run .main env tree canServe
          ("search" :: workspace :: query :: (uses.flatMap Use.words ++ ["-f", "json"])) =
        .ok { exitCode := 1, out := "Error: " ++ Text.plain e.message ++ "\n", err := "" } ∧
      run .findType env tree canServe
          (query :: "--workspace" :: workspace :: (uses.flatMap Use.words ++ ["-f", "json"])) =
        .ok { exitCode := 1, out := "Error: " ++ Text.plain e.message ++ "\n", err := "" } ∧
      Tool.answer server env tree state' (searchArguments path query uses) =
        (Text.Json.object [("error", .text e.message), ("results", .array [])]).renderLine) := by
  have hmain := run_main_search env tree canServe huses hworkspace hquery
  have hfindType := @run_findType_search env tree canServe workspace query uses huses hquery
  rw [run_jsonOrder env tree workspace query client hsettings hbackend hserver.takes state]
    at hmain hfindType
  -- The tool asks a client of its own, which differs from the other one in its sink alone.
  have htool : Tool.answer server env tree state' (searchArguments path query uses) =
      match ((client.search tree (searchArguments workspace query uses)).start state).1 with
      | .ok outcome => Report.json outcome
      | .error e => Tool.failureText e := by
    have harguments : { searchArguments path query uses with
        workspace := Tool.resolvePath env path } = searchArguments workspace query uses := by
      rw [hpath]
      rfl
    rw [Client.start_search_eq hserver tree _ state state', Tool.answer, ← harguments]
    rfl
  refine ⟨fun outcome h => ?_, fun e h => ?_⟩
  · rw [h] at hmain hfindType htool
    rw [hmain, hfindType, htool, plain_saying_json]
    exact ⟨rfl, rfl, rfl⟩
  · rw [h] at hmain hfindType htool
    rw [hmain, hfindType, htool, plain_failing]
    exact ⟨rfl, rfl, rfl⟩

/-- The options `--structured none --exclude-dir out --max-results 3`. -/
def threeOptions : List Use :=
  [("--structured", "none"), ("--exclude-dir", "out"), ("--max-results", "3")].filterMap
    fun (key, operand) => (searchCommand.long? key).map fun s => ⟨s, some operand⟩

/-- A client for workspaces without projects that does not enter folders of the name `out`. -/
def textClient : Client Python.Project Symbol (List String) where
  settings := { backend := "none", excludedDirs := ["out"] }
  backend := Backend.none ["out"]
  sink := Sink.collecting
  settings_checked := by decide +kernel

/-- The hypotheses of `front_ends_agree` are satisfiable: a search of one file for a letter, with
three options, finds one match. -/
theorem front_ends_agree_oneLine :
    threeOptions.flatMap Use.words =
      ["--structured", "none", "--exclude-dir", "out", "--max-results", "3"] ∧
    (∀ u ∈ threeOptions, u.Fits searchSwitches) ∧
    effectiveSettings [] threeOptions = .ok textClient.settings ∧ ∃ outcome,
      outcome.results = [⟨"x.py", 1, "a", .reference, ">>> a"⟩] ∧
      run .main [] Searcher.oneLineTree false ["search", ".", "a", "--structured", "none",
        "--exclude-dir", "out", "--max-results", "3", "-f", "json"] =
          .ok { out := Report.json outcome ++ "\n" } ∧
      Tool.answer textClient [] Searcher.oneLineTree [] (searchArguments "." "a" threeOptions) =
        Report.json outcome := by
  have hwords : threeOptions.flatMap Use.words =
      ["--structured", "none", "--exclude-dir", "out", "--max-results", "3"] := by decide +kernel
  have huses : ∀ u ∈ threeOptions, u.Fits searchSwitches := by decide +kernel
  have hsettings : effectiveSettings [] threeOptions = .ok textClient.settings := by decide +kernel
  have hbackend : BuiltIn.choose none textClient.settings = .ok textClient.backend := by
    have hname : BuiltIn.ofName? (Text.lower textClient.settings.backend) = some .nothing := by
      decide +kernel
    rw [BuiltIn.choose_eq_ok hname]
    rfl
  have hserver : Searcher.SameButSink textClient.toSearcher textClient.toSearcher :=
    ⟨rfl, rfl, fun _ _ => rfl, fun _ _ => rfl⟩
  have hresults : (((textClient.search Searcher.oneLineTree
      (searchArguments "." "a" threeOptions)).start []).1.map Outcome.results) =
        .ok [⟨"x.py", 1, "a", .reference, ">>> a"⟩] := by decide +kernel
  have hagree := (@front_ends_agree (List String) (List String) [] Searcher.oneLineTree false
    "." "a" "." threeOptions (by decide) (by decide) huses (by decide) textClient textClient
    hsettings hbackend hserver [] []).1
  rcases hfound : ((textClient.search Searcher.oneLineTree
      (searchArguments "." "a" threeOptions)).start []).1 with e | outcome
  · rw [hfound] at hresults
    exact nomatch hresults
  · rw [hfound] at hresults
    obtain ⟨hmain, -, htool⟩ := hagree outcome hfound
    rw [hwords] at hmain
    exact ⟨hwords, huses, hsettings, outcome, Except.ok.inj hresults, hmain, htool⟩

/-- A client with the settings that a command line without options makes. -/
def defaultClient : Client Python.Project Symbol (List String) where
  settings := {}
  backend := Python.backend []
  sink := Sink.collecting
  settings_checked := by decide +kernel

/-- The name of a workspace that starts with a control sequence stands as it is in the message of
the client that does not find it, and without the sequence in what the command prints. -/
theorem escape_is_left_out_of_message :
    effectiveSettings [] [] = .ok defaultClient.settings ∧
    BuiltIn.choose none defaultClient.settings = .ok defaultClient.backend ∧ ∃ e,
      ((defaultClient.search .empty (searchArguments "\x1b[0mws2" "Foo" [])).start []).1 =
        .error e ∧
      e.message = "Workspace path '\x1b[0mws2' does not exist." ∧
      run .main [] .empty false ["search", "\x1b[0mws2", "Foo", "-f", "json"] =
        .ok { exitCode := 1, out := "Error: Workspace path 'ws2' does not exist.\n" } ∧
      "Error: Workspace path 'ws2' does not exist.\n" ≠ "Error: " ++ e.message ++ "\n" := by
  have hsettings : effectiveSettings [] [] = .ok defaultClient.settings := by decide
  have hbackend : BuiltIn.choose none defaultClient.settings = .ok defaultClient.backend := by
    have hname : BuiltIn.ofName? (Text.lower defaultClient.settings.backend) = some .projects := by
      decide
    rw [BuiltIn.choose_eq_ok hname]
    rfl
  have hfails : ((defaultClient.search .empty
      (searchArguments "\x1b[0mws2" "Foo" [])).start []).1.mapError Failure.message =
        .error "Workspace path '\x1b[0mws2' does not exist." := by decide
  have hmain := @run_main_search [] .empty false "\x1b[0mws2" "Foo" [] (List.forall_mem_nil _)
    (by decide) (by decide)
  have hjson := run_jsonOrder [] .empty "\x1b[0mws2" "Foo" defaultClient hsettings hbackend
    (fun _ _ => rfl) []
  have hplain : Text.plain "Workspace path '\x1b[0mws2' does not exist." =
      "Workspace path 'ws2' does not exist." :=
    @Text.plain_of_sequence "Workspace path '" "\x1b[0m" "ws2' does not exist." (by decide)
      (by decide) (by decide)
  rcases hfound : ((defaultClient.search .empty
      (searchArguments "\x1b[0mws2" "Foo" [])).start []).1 with e | outcome
  · rw [hfound] at hfails hjson
    have hmessage : e.message = _ := Except.error.inj hfails
    rw [hjson] at hmain
    dsimp only at hmain
    rw [plain_failing, hmessage, hplain] at hmain
    refine ⟨hsettings, hbackend, e, rfl, hmessage, hmain, ?_⟩
    rw [hmessage]
    decide
  · rw [hfound] at hfails
    exact nomatch hfails

end DeclSearch

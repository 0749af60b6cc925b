/-
# When a search is refused

A client refuses arguments whose query is blank or that ask for no results, and it refuses a
workspace that is no folder.  Both are found out before anything else is done, so nothing is noted
and the sink is told nothing (`Client.start_search_of_invalid`,
`Searcher.start_search_of_noFolder`).

With a backend that comes with the program there is one more end that a search may come to, as long
as the sink takes its warnings: it fails where the workspace cannot be looked up, because its path
goes through a folder without rights or to a name that is too long
(`Client.search_fails_iff_refused`). What cannot be read or parsed costs a unit a module, a level a
unit or the text a file, and the last two are warned about.
-/

import DeclSearch.Backend.BuiltIn
import DeclSearch.Proofs.FrontEnds
import DeclSearch.Proofs.Faults
import DeclSearch.Proofs.Policy
import DeclSearch.Proofs.Projects

namespace DeclSearch

open Workspace (Path Tree Quest)

variable {H S σ : Type}

namespace Workspace.Tree

variable {t : Tree} {p : Path}

/-- A path leads to a folder if that can be said and is so. -/
theorem isFolder_eq_ok_true_iff :
    t.isFolder p = .ok true ↔ ∃ names entries, t.resolve p = .ok ⟨names, .folder entries⟩ := by
  unfold isFolder
  split
  · next names entries h => simp [h]
  · next h => simp [h]
  · next h => simp [h]
  · next hfolder _ _ =>
    refine iff_of_false (by simp) ?_
    rintro ⟨names, entries, h⟩
    exact hfolder names entries h

/-- Whether a path leads to a folder cannot be said if the path cannot be looked up. -/
theorem exists_isFolder_eq_error_iff :
    (∃ e, t.isFolder p = .error e) ↔
      t.resolve p = .error .nameTooLong ∨ t.resolve p = .error .refused := by
  unfold isFolder
  split
  · next h => simp [h]
  · next h => simp [h]
  · next h => simp [h]
  · next hlong hrefused => exact iff_of_false (by simp) (not_or.2 ⟨hlong, hrefused⟩)

end Workspace.Tree

namespace Searcher

variable {searcher : Searcher H S σ} {tree : Tree} {r : Request}

/-- A search below something that is no folder fails for its workspace, and nothing is done. -/
theorem start_search_of_noFolder (h : tree.isFolder r.root = .ok false) (state : σ) :
    (searcher.search tree r).start state = (.error (.noWorkspace r.root), ⟨[], [], state⟩) := by
  rw [Run.start_eq_result, search, h, Failure.ofAccess,
    Run.result_bind_of_ok (Run.result_lift _ _)]
  rfl

/-- A search whose workspace cannot be looked up fails for that access, and nothing is done. -/
theorem start_search_of_accessError {e : Workspace.AccessError}
    (h : tree.isFolder r.root = .error e) (state : σ) :
    (searcher.search tree r).start state = (.error (.access e), ⟨[], [], state⟩) := by
  rw [Run.start_eq_result, search, h, Failure.ofAccess]
  exact Run.result_bind_of_error (Run.result_lift _ _)

/-- The outcome of a search through these units, if the levels are covered: the first level whose
units have matches answers, and the text if there is none.  Units that fail and files that are
faulty cost it their matches, and add a warning each. -/
def tieredOutcome (searcher : Searcher H S σ) (tree : Tree) (r : Request) (covered : Bool)
    (units : Level → List Path) : Outcome :=
  let levels := if covered then [Level.solution, Level.project] else []
  let found (level : Level) := (units level).flatMap (searcher.unitMatches tree r)
  let failures := (searcher.triedLevels tree r units levels).flatMap fun level =>
    (units level).flatMap (searcher.failureWarnings tree r)
  let files := TextSearch.candidates searcher.settings tree r
  match levels.find? fun level => found level ≠ [] with
  | some level => ⟨r, firstReports (found level), level.name, failures⟩
  | none =>
    ⟨r, (files.filter fun file => !TextSearch.isFaulty searcher.settings tree file).flatMap
        fun file => Scan.scanLines r file.render (tree.linesOf file),
      "text",
      failures ++ (files.filter (TextSearch.isFaulty searcher.settings tree)).map fun file =>
        "Could not search file " ++ file.render ++ ": " ++
          TextSearch.reason searcher.settings tree file⟩

/-- **What a search below a folder comes to where only units fail.** -/
theorem start_search_of_contained {covered : Bool} {units : Level → List Path}
    (hroot : tree.isFolder r.root = .ok true)
    (hcovers : searcher.backend.covers r.extensions = .ok covered)
    (hdiscover : ∀ level, searcher.backend.discover tree r.root level = .ok (units level))
    (hcontained : ∀ level, ∀ unit ∈ units level, searcher.Contained tree r unit)
    (hworkers : 0 < searcher.settings.maxWorkers) (hsink : searcher.sink.TakesAll) (state : σ) :
    ((searcher.search tree r).start state).1 =
      .ok (searcher.tieredOutcome tree r covered units) := by
  have hnul := Path.checkNul_of_isFolder hroot
  rw [Run.start_eq_result, result_search hroot hcovers]
  let levels := if covered then [Level.solution, Level.project] else []
  have htried : ∀ level ∈ searcher.triedLevels tree r units levels, ∀ unit ∈ units level,
      searcher.Contained tree r unit := fun level _ => hcontained level
  have hanswer := (result_searchLevels hdiscover hnul hsink htried state ⟨[], [], state⟩).2
  rw [(start_searchText hnul hsink state hworkers).1, textMatches_eq, textWarnings_eq] at hanswer
  unfold tieredOutcome
  dsimp only
  split at hanswer
  · next level hlevel =>
    rw [hlevel]
    exact hanswer.1
  · next hnone =>
    rw [hnone]
    exact hanswer

end Searcher

namespace Client

variable (client : Client H S σ) {tree : Tree} {a : SearchArguments}

/-- The settings of a client show a positive number of results and have workers. -/
theorem settings_pos : 0 < client.settings.maxResults ∧ 0 < client.settings.maxWorkers := by
  have h := client.settings_checked
  unfold Settings.check at h
  split at h
  · exact nomatch h
  split at h
  · exact nomatch h
  · next hresults hworkers => exact ⟨Int.not_le.1 hresults, Int.not_le.1 hworkers⟩

/-- **Which arguments make no request**: those with a blank query, and those that ask for no
results.  The number that the settings give is never at fault. -/
theorem exists_request_eq_error_iff :
    (∃ e, client.request a = .error e) ↔
      Text.allBlank a.query = true ∨ ∃ n, a.maxResults = some n ∧ n ≤ 0 := by
  have hdefault := client.settings_pos.1
  have hshown : a.maxResults.getD client.settings.maxResults ≤ 0 ↔
      ∃ n, a.maxResults = some n ∧ n ≤ 0 := by
    rcases a.maxResults with _ | n
    · simpa using hdefault
    · simp
  unfold request Request.build
  rw [← hshown]
  split
  · next hquery =>
    split
    · next hn => simp [hquery, hn]
    · next hn => simp [hquery, Int.not_lt.1 hn]
  · next hquery => simp [eq_true_of_ne_false hquery]

/-- A request is about the workspace that the arguments name. -/
theorem root_of_request {r : Request} (h : client.request a = .ok r) :
    r.root = Path.ofString a.workspace :=
  (eq_of_request h).1

end Client

namespace BuiltIn

variable {searcher : Searcher Python.Project Symbol σ} {tree : Tree} {r : Request}
  {built : BuiltIn} {excludedDirs : List String}

/-- A backend that comes with the program covers what its profile says. -/
theorem covers_eq (extensions : List String) :
    (built.backend excludedDirs).covers extensions =
      .ok ((built.backend excludedDirs).profile.covers extensions) := by
  cases built <;> rfl

/-- A backend that comes with the program finds its units below every folder. -/
theorem discover_eq {root : Path} (hroot : root.checkNul = .ok ()) (level : Level) :
    (built.backend excludedDirs).discover tree root level =
      .ok ((built.backend excludedDirs).profile.discover tree root level) := by
  have hdefault (b : Backend Python.Project Symbol) :
      (do
        if b.profile.descriptors level ≠ [] then Failure.ofAccess root.checkNul
        return b.profile.discover tree root level) =
          (.ok (b.profile.discover tree root level) : Except Failure (List Path)) := by
    rw [hroot]
    split <;> rfl
  cases built with
  | projects => exact hdefault (Python.backend excludedDirs)
  | nothing => exact hdefault (Backend.none excludedDirs)

/-- The backend for workspaces without projects finds no units. -/
theorem discover_nothing (tree : Tree) (root : Path) (level : Level) :
    (nothing.backend excludedDirs).profile.discover tree root level = [] := by
  cases level <;> exact List.filter_eq_nil_iff.2 fun _ _ => Bool.false_ne_true

/-- **With a backend that comes with the program the failure of a unit stays inside its run.** -/
theorem contained (hbackend : searcher.backend = built.backend excludedDirs) (unit : Path) :
    searcher.Contained tree r unit := by
  obtain ⟨settings, backend, sink⟩ := searcher
  obtain rfl : backend = built.backend excludedDirs := hbackend
  cases built with
  | projects => exact Python.contained unit
  | nothing =>
    refine ⟨fun _ h => (nomatch h), ?_⟩
    rintro _ ⟨⟩
    exact ⟨_, rfl⟩

/-- Of the backends that come with the program only the one for projects compiles anything. -/
theorem skipped_of_compile {unit : Path} {p : Python.Project}
    (h : (built.backend excludedDirs).compile tree unit = .ok p) :
    let sources := tree.walk unit.parent
      (Quest.of [".py"] (Python.profile excludedDirs).excludedDirs)
    p.skipped = sources.filter (Python.isMalformed tree) ∧
      p.modules.map Python.Module.path =
        sources.filter fun file => !Python.isMalformed tree file := by
  cases built with
  | projects => exact Python.skipped_of_compile h
  | nothing => exact nomatch h

end BuiltIn

namespace Client

/-- **What a search comes to with a backend that comes with the program**, if its sink takes every
warning. Such a backend covers, discovers and releases without failing, and whatever fails about one
of its units stays inside; so nothing is left to go wrong behind the question for the workspace. -/
theorem answer_of_builtIn {client : Client Python.Project Symbol σ} {built : BuiltIn}
    {excludedDirs : List String} (hbackend : client.backend = built.backend excludedDirs)
    (hsink : client.sink.TakesAll) (tree : Tree) (a : SearchArguments) (state : σ) :
    ((client.search tree a).start state).1 =
      match client.request a with
      | .error e => .error (.settings e)
      | .ok r =>
        match tree.isFolder r.root with
        | .error e => .error (.access e)
        | .ok false => .error (.noWorkspace r.root)
        | .ok true => .ok (client.tieredOutcome tree r (client.backend.profile.covers r.extensions)
            (client.backend.profile.discover tree r.root)) := by
  rcases hrequest : client.request a with e | r
  · rw [start_search_of_invalid hrequest]
  rw [search_of_request hrequest]
  dsimp only
  rcases hroot : tree.isFolder r.root with e | _ | _
  · rw [Searcher.start_search_of_accessError hroot]
  · rw [Searcher.start_search_of_noFolder hroot]
  · exact Searcher.start_search_of_contained hroot (hbackend ▸ BuiltIn.covers_eq r.extensions)
      (fun level => hbackend ▸ BuiltIn.discover_eq (Path.checkNul_of_isFolder hroot) level)
      (fun level unit _ => BuiltIn.contained hbackend unit) client.settings_pos.2 hsink state

/-- **Exactly what is refused ends a search.**  The client has a backend that comes with the program
and a sink that takes every warning; the tree is any.  The search fails for its arguments if and
only if the query is blank or the number of results that they ask for is not positive.  Otherwise it
fails for an access if and only if the path of the workspace cannot be looked up, it fails for its
workspace if and only if that can be looked up and does not lead to a folder, through links or not,
and otherwise it has an outcome.

A unit that fails and a candidate file that is faulty cost the outcome their matches and add one
warning each, and there are no other warnings.  Malformed source files of a unit that is compiled
are among the files that it skips, and its modules are all the others. -/
theorem search_fails_iff_refused {client : Client Python.Project Symbol σ} {built : BuiltIn}
    {excludedDirs : List String} (hbackend : client.backend = built.backend excludedDirs)
    (hsink : client.sink.TakesAll) (tree : Tree) (a : SearchArguments) (state : σ) :
    let run := (client.search tree a).start state
    let invalid := Text.allBlank a.query = true ∨ ∃ n, a.maxResults = some n ∧ n ≤ 0
    let place := tree.resolve (Path.ofString a.workspace)
    let folder := ∃ names entries, place = .ok ⟨names, .folder entries⟩
    let hidden := place = .error .nameTooLong ∨ place = .error .refused
    ((∃ e, run.1 = .error (.settings e)) ↔ invalid) ∧
    (¬ invalid → ((∃ e, run.1 = .error (.access e)) ↔ hidden)) ∧
    (¬ invalid → ((∃ path, run.1 = .error (.noWorkspace path)) ↔ ¬ folder ∧ ¬ hidden)) ∧
    (¬ invalid → folder → ∃ r, client.request a = .ok r ∧
      run.1 = .ok (client.tieredOutcome tree r (client.backend.profile.covers r.extensions)
        (client.backend.profile.discover tree r.root))) ∧
    ∀ unit p, client.backend.compile tree unit = .ok p →
      let sources := tree.walk unit.parent
        (Quest.of [".py"] (Python.profile excludedDirs).excludedDirs)
      p.skipped = sources.filter (Python.isMalformed tree) ∧
        p.modules.map Python.Module.path =
          sources.filter fun file => !Python.isMalformed tree file := by
  intro run invalid place folder hidden
  have hskipped (unit : Path) (p : Python.Project) (h : client.backend.compile tree unit = .ok p) :=
    BuiltIn.skipped_of_compile (hbackend ▸ h)
  have hrun : run.1 = _ := answer_of_builtIn hbackend hsink tree a state
  rcases hrequest : client.request a with e | r <;> rw [hrequest] at hrun
  · have hinvalid : invalid := client.exists_request_eq_error_iff.1 ⟨e, hrequest⟩
    exact ⟨iff_of_true ⟨e, hrun⟩ hinvalid, fun h => absurd hinvalid h, fun h => absurd hinvalid h,
      fun h => absurd hinvalid h, hskipped⟩
  have hvalid : ¬ invalid := fun h => by
    obtain ⟨e, he⟩ := client.exists_request_eq_error_iff.2 h
    exact nomatch hrequest.symm.trans he
  have hfolder : folder ↔ tree.isFolder r.root = .ok true := by
    rw [client.root_of_request hrequest]
    exact Tree.isFolder_eq_ok_true_iff.symm
  have hhidden : hidden ↔ ∃ e, tree.isFolder r.root = .error e := by
    rw [client.root_of_request hrequest]
    exact Tree.exists_isFolder_eq_error_iff.symm
  rw [hfolder, hhidden]
  -- The three answers to the question whether the workspace is a folder.
  rcases hroot : tree.isFolder r.root with e | _ | _ <;> simp only [hroot] at hrun <;> rw [hrun]
  · exact ⟨by simpa using hvalid, by simp, by simp, by simp, hskipped⟩
  · exact ⟨by simpa using hvalid, by simp, by simp, by simp, hskipped⟩
  · exact ⟨by simpa using hvalid, by simp, by simp, fun _ _ => ⟨r, rfl, rfl⟩, hskipped⟩

/-- The hypotheses of `search_fails_iff_refused` are satisfiable: of three files the first has a
match, and there is one warning for each of the others, while a blank query and a missing workspace
are refused. -/
theorem search_fails_iff_refused_mixed :
    let client := { defaultClient with backend := Backend.none [] }
    let find (workspace query : String) := ((client.search Searcher.mixedTree
      ⟨workspace, query, false, true, [".py"], some 5, false⟩).start []).1
    client.backend = BuiltIn.nothing.backend [] ∧ client.sink.TakesAll ∧
    (∃ e, find "." " " = .error (.settings e)) ∧
    (∃ path, find "b" "a" = .error (.noWorkspace path)) ∧
    find "." "a" = .ok ⟨Searcher.requestForLetter, [⟨"a.py", 1, "a", .reference, ">>> a"⟩], "text",
      ["Could not search file b.py: binary content",
        "Could not search file c.py: [Errno 13] Permission denied: 'c.py'"]⟩ := by
  intro client find
  have hsink : client.sink.TakesAll := fun _ _ => rfl
  have hends (workspace query : String) :=
    @search_fails_iff_refused _ client .nothing [] rfl hsink Searcher.mixedTree
      ⟨workspace, query, false, true, [".py"], some 5, false⟩ []
  have hhere : Searcher.mixedTree.resolve (Path.ofString ".") =
      .ok ⟨[], .folder Searcher.mixedTree.top⟩ := rfl
  have hmissing : Searcher.mixedTree.resolve (Path.ofString "b") = .error .notFound := rfl
  refine ⟨rfl, hsink, ?_, ?_, ?_⟩
  · exact (hends "." " ").1.2 (.inl (by decide))
  · exact ((hends "b" "a").2.2.1 (by decide)).2 (by simp [hmissing])
  · obtain ⟨-, -, -, houtcome, -⟩ := hends "." "a"
    obtain ⟨r, hr, hanswer⟩ := houtcome (by decide) ⟨_, _, hhere⟩
    obtain rfl : Searcher.requestForLetter = r := by
      refine Except.ok.inj (Eq.trans ?_ hr)
      decide
    have hunits : client.backend.profile.discover Searcher.mixedTree
        Searcher.requestForLetter.root = fun _ => [] :=
      funext fun level => BuiltIn.discover_nothing _ _ level
    have hcandidates : TextSearch.candidates client.settings Searcher.mixedTree
        Searcher.requestForLetter = _ := Searcher.candidates_mixed
    refine hanswer.trans (congrArg Except.ok ?_)
    simp only [Searcher.tieredOutcome, hunits, hcandidates]
    decide +kernel

/-- A folder without rights that holds another folder, and a link to a name that is too long. -/
def sealedTree : Tree where
  top := [("d", .folder [("ws", .folder [])]),
    ("ws", .link (String.ofList (List.replicate 300 'n')))]
  locked := [["d"]]
  regular := by decide +kernel

/-- **A workspace that cannot be looked up** is neither found nor missing: the search fails for the
access to it, though the arguments are valid, be there a folder or be there none. -/
theorem search_fails_on_sealed_workspace :
    let find (workspace : String) :=
      ((defaultClient.search sealedTree
        (CommandLine.searchArguments workspace "Foo" [])).start []).1
    sealedTree.at? ["d", "ws"] = some (.folder []) ∧
      find "d/ws" = .error (.access ⟨.refused, "d/ws"⟩) ∧
      find "ws" = .error (.access ⟨.nameTooLong, "ws"⟩) ∧
      (Failure.access ⟨.refused, "d/ws"⟩).message = "[Errno 13] Permission denied: 'd/ws'" ∧
      (Failure.access ⟨.nameTooLong, "ws"⟩).message = "[Errno 36] File name too long: 'ws'" := by
  refine ⟨rfl, ?_, ?_, ?_, ?_⟩ <;> decide +kernel

end Client

end DeclSearch

/-
# Searches one after another

A client can be asked again and again while the tree changes under it.  The state of its sink is all
that goes from one search to the next, and no search depends on that state
(`Client.searchEach_eq`).  So each search answers as the first one of a new client would, and a sink
that collects holds in the end what the searches have warned of, in order
(`Client.warnings_are_per_run`).

What a search has given to the sink is what its outcome lists, if it has one.  A search that is
refused has given nothing.
-/

import DeclSearch.Proofs.Refusals
import DeclSearch.Proofs.Traces

namespace DeclSearch

open Workspace (Path Tree)

variable {H S σ τ : Type}

/-- A sink that collects holds what it was given. -/
theorem Sink.feed_collecting (messages kept : List String) :
    Sink.collecting.feed messages kept = kept ++ messages := by
  induction messages generalizing kept with
  | nil => simp [feed]
  | cons message messages ih =>
    rw [feed, List.foldl_cons]
    exact (ih (kept ++ [message])).trans (by simp)

/-- The warnings that an answer lists: those of the outcome, if it is one. -/
def reported : Except Failure Outcome → List String
  | .ok o => o.warnings
  | .error _ => []

/-- The warnings of an outcome are those of the record behind the search. -/
theorem Searcher.Completes.warnings_eq {searcher : Searcher H S σ} {tree : Tree} {r : Request}
    {levels : List Level} {record after : Record H σ} {o : Outcome}
    (h : searcher.Completes tree r levels record o after) : o.warnings = after.warnings := by
  induction h with
  | text => exact (warnings_textRecord _).symm
  | answered _ _ _ => rfl
  | passed _ _ _ _ ih => exact ih

namespace Client

/-- The answers to some searches one after another, each on the tree as it is by then, and the state
of the sink behind them. -/
def searchEach (client : Client H S σ) :
    List (Tree × SearchArguments) → σ → List (Except Failure Outcome) × σ
  | [], state => ([], state)
  | (tree, a) :: calls, state =>
    let run := (client.search tree a).start state
    let others := client.searchEach calls run.2.sink
    (run.1 :: others.1, others.2)

variable {client : Client H S σ} {tree : Tree} {a : SearchArguments}

/-- A client that is built has what it is built with. -/
theorem eq_of_build {settings : Settings} {backend : Backend H S} {sink : Sink σ}
    (h : build settings backend sink = .ok client) :
    client.settings = settings ∧ client.backend = backend ∧ client.sink = sink := by
  unfold build at h
  split at h
  · rw [← Except.ok.inj h]
    exact ⟨rfl, rfl, rfl⟩
  · exact nomatch h

/-- The sink is given the warnings of a search and nothing else, however the search ends. -/
theorem sink_start_search (client : Client H S σ) (tree : Tree) (a : SearchArguments) (state : σ) :
    ((client.search tree a).start state).2.sink =
      client.sink.feed ((client.search tree a).start state).2.warnings state := by
  rcases hrequest : client.request a with e | r
  · rw [start_search_of_invalid hrequest]
    rfl
  · obtain ⟨events, -, hafter⟩ := client.toSearcher.tells_search tree r ⟨[], [], state⟩
    rw [search_of_request hrequest, Run.start_eq_result, hafter]
    simp [Record.after]

/-- A search lists in its outcome what it has warned of. -/
theorem warnings_of_start_search {state : σ} {o : Outcome}
    (h : ((client.search tree a).start state).1 = .ok o) :
    ((client.search tree a).start state).2.warnings = o.warnings := by
  rcases hrequest : client.request a with e | r
  · rw [start_search_of_invalid hrequest] at h
    exact nomatch h
  · rw [search_of_request hrequest] at h ⊢
    obtain ⟨levels, hcompletes⟩ := Searcher.completes_of_result_search (Prod.ext h rfl)
    exact hcompletes.warnings_eq.symm

/-- **Nothing is carried from one search to the next.**  Each answer is that of a first search, and
the sink is given the warnings of these, in order. -/
theorem searchEach_eq (hsink : client.sink.TakesAll) (calls : List (Tree × SearchArguments))
    (state fresh : σ) :
    client.searchEach calls state =
      (calls.map fun call => ((client.search call.1 call.2).start fresh).1,
        client.sink.feed (calls.flatMap fun call =>
          ((client.search call.1 call.2).start fresh).2.warnings) state) := by
  induction calls generalizing state with
  | nil => rfl
  | cons call calls ih =>
    obtain ⟨hanswer, hrecord⟩ := search_agrees ⟨rfl, rfl, hsink, hsink⟩ call.1 call.2
      ⟨[], [], state⟩ ⟨[], [], fresh⟩ ⟨rfl, rfl⟩
    have hwarnings : ((client.search call.1 call.2).start state).2.warnings =
        ((client.search call.1 call.2).start fresh).2.warnings := hrecord.warnings
    rw [Except.map_id] at hanswer
    rw [searchEach, ih, sink_start_search, hwarnings, List.map_cons, List.flatMap_cons]
    refine Prod.ext (congrArg (· :: _) hanswer) ?_
    exact (List.foldl_append ..).symm

/-- Whether a search is refused: its arguments make no request, or its workspace is no folder. -/
def Refuses (client : Client H S σ) (tree : Tree) (a : SearchArguments) : Prop :=
  (∃ e, client.request a = .error e) ∨
    ∃ r, client.request a = .ok r ∧ tree.isFolder r.root = .ok false

/-- A search that is refused fails for its arguments or for its workspace, and warns of nothing. -/
theorem start_search_of_refuses (h : client.Refuses tree a) (state : σ) :
    ∃ f, (client.search tree a).start state = (.error f, ⟨[], [], state⟩) ∧
      ((∃ e, f = .settings e) ∨ ∃ root, f = .noWorkspace root) := by
  rcases h with ⟨e, he⟩ | ⟨r, hr, hroot⟩
  · exact ⟨_, start_search_of_invalid he state, .inl ⟨e, rfl⟩⟩
  · rw [search_of_request hr]
    exact ⟨_, Searcher.start_search_of_noFolder hroot state, .inr ⟨r.root, rfl⟩⟩

/-- Where every search has an outcome or warns of nothing, they have warned of what their outcomes
list. -/
theorem flatMap_warnings_eq {calls : List (Tree × SearchArguments)} {state : σ}
    (h : ∀ call ∈ calls, (∃ o, ((client.search call.1 call.2).start state).1 = .ok o) ∨
      ((client.search call.1 call.2).start state).2.warnings = []) :
    (calls.flatMap fun call => ((client.search call.1 call.2).start state).2.warnings) =
      (calls.map fun call => ((client.search call.1 call.2).start state).1).flatMap reported := by
  rw [List.flatMap_map]
  refine List.flatMap_congr fun call hcall => ?_
  rcases hanswer : ((client.search call.1 call.2).start state).1 with f | o
  · obtain ⟨o, ho⟩ | hnone := h call hcall
    · exact nomatch hanswer.symm.trans ho
    · exact hnone
  · exact warnings_of_start_search hanswer

/-- **How a search ends where only units fail, in words**: with an outcome, unless it is refused or
nothing can be said about its workspace. -/
theorem start_search_of_worded
    (hcovers : ∀ extensions, ∃ covered, client.backend.covers extensions = .ok covered)
    (hdiscover : ∀ tree root level, ∃ units, client.backend.discover tree root level = .ok units)
    (hrelease : ∀ handle, ∃ left, client.backend.release handle = .ok left)
    (hworded : ∀ tree r unit, Except.OnlyFails Failure.Worded (client.unitAnswer tree r unit))
    (hsink : client.sink.TakesAll) (tree : Tree) (a : SearchArguments) (state : σ) :
    (∃ o, ((client.search tree a).start state).1 = .ok o) ∨ client.Refuses tree a ∨
      ∃ e, (client.search tree a).start state = (.error (.access e), ⟨[], [], state⟩) := by
  rcases hrequest : client.request a with e | r
  · exact .inr (.inl (.inl ⟨e, hrequest⟩))
  rw [search_of_request hrequest]
  rcases hroot : tree.isFolder r.root with e | _ | _
  · exact .inr (.inr ⟨e, Searcher.start_search_of_accessError hroot state⟩)
  · exact .inr (.inl (.inr ⟨r, hrequest, hroot⟩))
  · obtain ⟨covered, hcovered⟩ := hcovers r.extensions
    choose units hunits using hdiscover tree r.root
    exact .inl ⟨_, Searcher.start_search_of_contained hroot hcovered hunits
      (fun level unit _ => ⟨fun handle _ => hrelease handle, hworded tree r unit⟩)
      client.settings_pos.2 hsink state⟩

/-- **Warnings are per run, and nothing is carried between runs.**  A client is built with a sink
that collects, and searches are made one after another, each on a tree of its own.

Each answer is that of a client that was just built with the same settings and backend.  The sink
holds what it held before and behind that what each search has warned of: that is what its outcome
lists, if it has one, and nothing if it is refused.  So if no search fails but those that are
refused, then the sink holds the warnings of the outcomes, in order.  This is so for every backend
that covers, discovers and releases without failing and whose units fail in words. -/
theorem warnings_are_per_run {settings : Settings} {backend : Backend H S}
    {client : Client H S (List String)}
    (hclient : build settings backend Sink.collecting = .ok client)
    (calls : List (Tree × SearchArguments)) (kept : List String) :
    let session := client.searchEach calls kept
    let answer (call : Tree × SearchArguments) := ((client.search call.1 call.2).start []).1
    let sent (call : Tree × SearchArguments) := ((client.search call.1 call.2).start []).2.warnings
    (∀ (sink : Sink τ) (fresh : Client H S τ) (state : τ), sink.TakesAll →
      build settings backend sink = .ok fresh →
        session.1 = calls.map fun call => ((fresh.search call.1 call.2).start state).1) ∧
    session.2 = kept ++ calls.flatMap sent ∧
    (∀ call o, answer call = .ok o → sent call = o.warnings) ∧
    (∀ call, client.Refuses call.1 call.2 → sent call = [] ∧
      ((∃ e, answer call = .error (.settings e)) ∨
        ∃ root, answer call = .error (.noWorkspace root))) ∧
    ((∀ call ∈ calls, ∀ f, answer call = .error f → client.Refuses call.1 call.2) →
      session.2 = kept ++ session.1.flatMap reported) ∧
    ((∀ extensions, ∃ covered, backend.covers extensions = .ok covered) →
      (∀ tree root level, ∃ units, backend.discover tree root level = .ok units) →
      (∀ handle, ∃ left, backend.release handle = .ok left) →
      (∀ tree r unit, Except.OnlyFails Failure.Worded (client.unitAnswer tree r unit)) →
        session.2 = kept ++ session.1.flatMap reported ∧
        ∀ call ∈ calls, (∃ o, answer call = .ok o) ∨ client.Refuses call.1 call.2 ∨
          ∃ e, answer call = .error (.access e)) := by
  intro session answer sent
  obtain ⟨rfl, rfl, hcollecting⟩ := eq_of_build hclient
  have hsink : client.sink.TakesAll := by
    rw [hcollecting]
    exact fun _ _ => rfl
  have hsession : session = (calls.map answer, kept ++ calls.flatMap sent) := by
    rw [← Sink.feed_collecting, ← hcollecting]
    exact searchEach_eq hsink calls kept []
  -- A call that has sent nothing adds nothing, and one with an outcome adds the warnings in it.
  have hconcat (h : ∀ call ∈ calls, (∃ o, answer call = .ok o) ∨ sent call = []) :
      session.2 = kept ++ session.1.flatMap reported := by
    rw [hsession]
    exact congrArg (kept ++ ·) (flatMap_warnings_eq h)
  have hrefused (call : Tree × SearchArguments) (h : client.Refuses call.1 call.2) :
      sent call = [] ∧ ((∃ e, answer call = .error (.settings e)) ∨
        ∃ root, answer call = .error (.noWorkspace root)) := by
    obtain ⟨f, hrun, hf⟩ := start_search_of_refuses h []
    simp only [answer, sent, hrun, Except.error.injEq]
    exact ⟨trivial, hf⟩
  refine ⟨fun sink fresh state hfresh hbuild => ?_, congrArg Prod.snd hsession,
    fun _ _ => warnings_of_start_search, hrefused, fun h => hconcat fun call hcall => ?_,
    fun hcovers hdiscover hrelease hworded => ?_⟩
  · obtain ⟨hsettings, hbackend, rfl⟩ := eq_of_build hbuild
    have hsame : Searcher.SameButSink client.toSearcher fresh.toSearcher :=
      ⟨hsettings.symm, hbackend.symm, hsink, hfresh⟩
    rw [hsession]
    exact List.map_congr_left fun call _ => start_search_eq hsame call.1 call.2 [] state
  · rcases hanswer : answer call with f | o
    · exact .inr (hrefused call (h call hcall f hanswer)).1
    · exact .inl ⟨o, rfl⟩
  · have hends (call : Tree × SearchArguments) :=
      start_search_of_worded hcovers hdiscover hrelease hworded hsink call.1 call.2 []
    refine ⟨hconcat fun call _ => ?_, fun call _ => ?_⟩
    · obtain h | h | ⟨e, h⟩ := hends call
      · exact .inl h
      · exact .inr (hrefused call h).1
      · exact .inr (congrArg (fun run => run.2.warnings) h)
    · exact (hends call).imp_right (Or.imp_right fun ⟨e, h⟩ => ⟨e, congrArg Prod.fst h⟩)

/-- A client for the units `bad` and `good`. -/
def halfBrokenClient : Client String PreparedSymbol (List String) :=
  ⟨Searcher.halfBroken, by decide +kernel⟩

/-- The hypothesis of `warnings_are_per_run` is satisfiable: of four searches the second and the
third are refused, one for its query and one for its workspace, and the others have the same
outcome. -/
theorem warnings_are_per_run_halfBroken :
    let find (workspace query : String) : Tree × SearchArguments :=
      (Searcher.oneLineTree, ⟨workspace, query, true, true, [".py"], some 5, false⟩)
    let calls := [find "." "A", find "." " ", find "gone" "A", find "." "A"]
    build {} Searcher.halfBroken.backend Sink.collecting = .ok halfBrokenClient ∧
    (∀ call ∈ calls, ∀ f, ((halfBrokenClient.search call.1 call.2).start []).1 = .error f →
      halfBrokenClient.Refuses call.1 call.2) ∧
    (halfBrokenClient.searchEach calls []).2 =
      ["Could not analyze bad: target_index 6 out of range for 1 lines",
        "Could not analyze bad: target_index 6 out of range for 1 lines"] := by
  intro find calls
  have hclient : build {} Searcher.halfBroken.backend Sink.collecting = .ok halfBrokenClient :=
    build_eq_ok halfBrokenClient.settings_checked _ _
  have hfound : ((halfBrokenClient.search (find "." "A").1 (find "." "A").2).start []).1 =
      .ok ⟨Searcher.requestForA, [⟨"x.py", 1, "m.A", .classDecl, ">>> a"⟩], "solution",
        ["Could not analyze bad: target_index 6 out of range for 1 lines"]⟩ := by decide +kernel
  have hblank : halfBrokenClient.request (find "." " ").2 = .error .blankQuery := by decide
  have hgone : halfBrokenClient.request (find "gone" "A").2 =
      .ok { Searcher.requestForA with root := Path.ofString "gone" } := by decide
  have hmissing : Searcher.oneLineTree.isFolder (Path.ofString "gone") = .ok false := by decide
  have hcalls : ∀ call ∈ calls, ∀ f,
      ((halfBrokenClient.search call.1 call.2).start []).1 = .error f →
        halfBrokenClient.Refuses call.1 call.2 := by
    intro call hcall f hf
    simp only [calls, List.mem_cons, List.not_mem_nil, or_false] at hcall
    obtain rfl | rfl | rfl | rfl := hcall
    · cases hfound.symm.trans hf
    · exact .inl ⟨_, hblank⟩
    · exact .inr ⟨_, hgone, hmissing⟩
    · cases hfound.symm.trans hf
  obtain ⟨hfresh, -, -, -, hkept, -⟩ :=
    @warnings_are_per_run _ _ (List String) _ _ _ hclient calls []
  refine ⟨hclient, hcalls, ?_⟩
  rw [hkept hcalls, hfresh Sink.collecting halfBrokenClient [] (fun _ _ => rfl) hclient]
  simp only [calls, List.map_cons, List.map_nil, hfound]
  rw [start_search_of_invalid hblank, search_of_request hgone,
    Searcher.start_search_of_noFolder hmissing]
  rfl

end Client
end DeclSearch

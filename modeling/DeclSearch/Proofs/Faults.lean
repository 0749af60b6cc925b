/-
# A text search contains the faults of its files

A candidate file is faulty if it is larger than the settings allow, cannot be read, or holds a NUL
byte (`TextSearch.isFaulty`).  A faulty file costs one warning and no other file anything: the
results of a text search are those of the other files, one file after another in walking order, and
the warnings are those about the faulty ones (`Searcher.text_search_contains_faults`).

Whether a file is faulty, why, and which lines it has is decided by what its path leads to.  Other
contents in the place of one file change it for the paths that lead there and for no others, and
which files are candidates they do not change at all (`TextSearch.isFaulty_withContent`,
`TextSearch.candidates_withContent`).
-/

import DeclSearch.Proofs.Faithful
import DeclSearch.Proofs.Outlines

namespace DeclSearch

open Workspace (Path Tree AccessError SourceError)

variable {H S σ : Type}

/-- What is done with the items that pass a test, in order. -/
theorem flatMap_ite_eq_flatMap_filter {α β : Type} (p : α → Bool) (f : α → List β) (l : List α) :
    (l.flatMap fun a => if p a then f a else []) = (l.filter p).flatMap f := by
  induction l with
  | nil => rfl
  | cons a l ih =>
    rw [List.flatMap_cons, ih, List.filter_cons]
    split <;> rfl

/-- The lines of the file that a path leads to, none when it cannot be read as text. -/
def Workspace.Tree.linesOf (t : Tree) (p : Path) : List String := (t.readLines p).toOption.getD []

namespace TextSearch

variable (settings : Settings) (tree : Tree) (file : Path)

/-- Whether a file is larger than the settings allow. -/
def isTooLarge : Bool :=
  settings.maxFileSizeBytes ≠ 0 &&
    match tree.size file with
    | .ok size => settings.maxFileSizeBytes < size
    | .error _ => false

/-- Whether a file is not to be scanned: it is too large, cannot be read or holds a NUL byte. -/
def isFaulty : Bool :=
  isTooLarge settings tree file ||
    match tree.read file with
    | .ok content => content.contains 0
    | .error _ => true

/-- The size of a file, if it is limited. -/
def measured : Except AccessError Nat :=
  if settings.maxFileSizeBytes = 0 then .ok 0 else tree.size file

/-- The first access to a file that fails: asking for its size, if that is limited, or reading
it. -/
def accessError? : Option AccessError :=
  match measured settings tree file, tree.read file with
  | .error e, _ => some e
  | .ok _, .error e => some e
  | .ok _, .ok _ => none

/-- Why a file is not to be scanned. -/
def reason : String :=
  if isTooLarge settings tree file then "larger than " ++ toString settings.maxFileSizeMb ++ "MB"
  else match accessError? settings tree file with
    | some e => e.message
    | none => "binary content"

variable {settings tree file}

/-- A file that can be read has a size. -/
theorem size_of_read {content : Text.Bytes} (h : tree.read file = .ok content) :
    tree.size file = .ok content.length := by
  obtain ⟨-, names, hresolve, -⟩ := Tree.exists_of_read h
  rw [Tree.size, hresolve]

/-- A file whose size is limited and cannot be told is not too large. -/
theorem isTooLarge_eq_false_of_measured {e : AccessError}
    (h : measured settings tree file = .error e) : isTooLarge settings tree file = false := by
  unfold measured at h
  unfold isTooLarge
  split at h
  · exact nomatch h
  · rw [h, Bool.and_false]

/-- Whether a file is too large can be said if it can be measured, and is so by its size. -/
theorem tooLarge_eq :
    tooLarge settings tree file =
      (measured settings tree file).map fun _ => isTooLarge settings tree file := by
  unfold tooLarge measured isTooLarge
  split
  · next hzero => simp [hzero, Except.map]
  · next hlimit => rcases tree.size file with e | size <;> simp [hlimit, Except.map]

/-- A file that can be read can be measured. -/
theorem exists_measured_of_read {content : Text.Bytes} (h : tree.read file = .ok content) :
    ∃ size, measured settings tree file = .ok size := by
  unfold measured
  split
  · exact ⟨0, rfl⟩
  · exact ⟨_, size_of_read h⟩

/-- **A faulty file is not scanned**, for the reason that is given. -/
theorem exists_fault_of_isFaulty (h : isFaulty settings tree file = true) :
    ∃ fault, candidateLines settings tree file = .error fault ∧
      fault.message = reason settings tree file := by
  unfold candidateLines reason accessError?
  rw [tooLarge_eq]
  rcases hmeasured : measured settings tree file with e | size
  · rw [isTooLarge_eq_false_of_measured hmeasured]
    exact ⟨_, rfl, rfl⟩
  · cases hlarge : isTooLarge settings tree file with
    | true => exact ⟨_, rfl, rfl⟩
    | false =>
      unfold isFaulty at h
      unfold Tree.readLines
      rcases hread : tree.read file with e | content
      · exact ⟨_, rfl, rfl⟩
      · have hnul : content.contains 0 = true := by simpa [hlarge, hread] using h
        refine ⟨.source .binary, ?_, rfl⟩
        dsimp only [Except.map]
        rw [if_pos hnul]

/-- **A file that is not faulty is scanned.** -/
theorem candidateLines_of_not_isFaulty (h : isFaulty settings tree file = false) :
    candidateLines settings tree file = .ok (tree.linesOf file) := by
  obtain ⟨hlarge, hrest⟩ := Bool.or_eq_false_iff.1 h
  rcases hread : tree.read file with e | content
  · rw [hread] at hrest
    exact nomatch hrest
  · rw [hread] at hrest
    obtain ⟨size, hmeasured⟩ : ∃ size, measured settings tree file = .ok size :=
      exists_measured_of_read hread
    unfold candidateLines Tree.linesOf Tree.readLines
    rw [tooLarge_eq, hmeasured, hlarge, hread]
    dsimp only at hrest ⊢
    rw [hrest]
    rfl

section WithContent

variable {names : List String} {old : Text.Bytes}

/-- The candidates do not depend on contents. -/
theorem candidates_withContent (h : tree.at? names = some (.file old)) (content : Text.Bytes)
    (r : Request) :
    candidates settings (tree.withContent names content) r = candidates settings tree r :=
  Tree.walk_withContent h content r.root _

/-- **Other contents concern nothing but the paths that lead to them.** -/
theorem isFaulty_withContent (h : tree.at? names = some (.file old)) (content : Text.Bytes)
    (hfile : ∀ e, tree.resolve file ≠ .ok ⟨names, e⟩) :
    isFaulty settings (tree.withContent names content) file = isFaulty settings tree file ∧
      reason settings (tree.withContent names content) file = reason settings tree file ∧
      (tree.withContent names content).linesOf file = tree.linesOf file := by
  have hread := Tree.read_withContent_of_ne h content hfile
  have hsize := Tree.size_withContent_of_ne h content hfile
  have hlarge : isTooLarge settings (tree.withContent names content) file =
      isTooLarge settings tree file := by
    unfold isTooLarge
    rw [hsize]
  refine ⟨?_, ?_, ?_⟩
  · unfold isFaulty
    rw [hlarge, hread]
  · unfold reason accessError? measured
    rw [hlarge, hread, hsize]
  · unfold Tree.linesOf Tree.readLines
    rw [hread]

end WithContent

end TextSearch

namespace Searcher

variable {searcher : Searcher H S σ} {tree : Tree} {r : Request}

/-- The matches in a candidate file are those in its lines, unless it is faulty. -/
theorem fileMatches_eq (file : Path) :
    searcher.fileMatches tree r file =
      if !TextSearch.isFaulty searcher.settings tree file then
        Scan.scanLines r file.render (tree.linesOf file)
      else [] := by
  unfold fileMatches TextSearch.scanFile
  cases hfaulty : TextSearch.isFaulty searcher.settings tree file with
  | true =>
    obtain ⟨fault, hfault, -⟩ := TextSearch.exists_fault_of_isFaulty hfaulty
    rw [hfault]
    rfl
  | false =>
    rw [TextSearch.candidateLines_of_not_isFaulty hfaulty]
    rfl

/-- A faulty file costs one warning, and no other file does. -/
theorem fileWarnings_eq (file : Path) :
    searcher.fileWarnings tree r file =
      if TextSearch.isFaulty searcher.settings tree file then
        ["Could not search file " ++ file.render ++ ": " ++
          TextSearch.reason searcher.settings tree file]
      else [] := by
  unfold fileWarnings TextSearch.scanFile
  cases hfaulty : TextSearch.isFaulty searcher.settings tree file with
  | true =>
    obtain ⟨fault, hfault, hreason⟩ := TextSearch.exists_fault_of_isFaulty hfaulty
    rw [hfault, ← hreason]
    rfl
  | false =>
    rw [TextSearch.candidateLines_of_not_isFaulty hfaulty]
    rfl

/-- The results of a text search are those of the files that are not faulty, in walking order. -/
theorem textMatches_eq (searcher : Searcher H S σ) (tree : Tree) (r : Request) :
    searcher.textMatches tree r =
      ((TextSearch.candidates searcher.settings tree r).filter fun file =>
        !TextSearch.isFaulty searcher.settings tree file).flatMap fun file =>
          Scan.scanLines r file.render (tree.linesOf file) := by
  rw [← flatMap_ite_eq_flatMap_filter, textMatches]
  exact List.flatMap_congr fun file _ => fileMatches_eq file

/-- The warnings of a text search are those about the faulty files, in walking order. -/
theorem textWarnings_eq (searcher : Searcher H S σ) (tree : Tree) (r : Request) :
    searcher.textWarnings tree r =
      ((TextSearch.candidates searcher.settings tree r).filter
        (TextSearch.isFaulty searcher.settings tree)).map fun file =>
          "Could not search file " ++ file.render ++ ": " ++
            TextSearch.reason searcher.settings tree file := by
  rw [List.map_eq_flatMap, ← flatMap_ite_eq_flatMap_filter, textWarnings]
  exact List.flatMap_congr fun file _ => fileWarnings_eq file

/-- **A text search contains the faults of its files.**  Without workers it fails before the first
file, and so it does below a root that holds a NUL.  Otherwise its results are those in the lines of
the candidates that are not faulty, one after another in walking order, and there is one warning for
each faulty candidate, in the same order, and no other.  In each file the results go through the
lines from the first to the last.  Other contents in the place of one file leave the candidates what
they are, and of those whose paths do not lead to that place also whether and why they are faulty
and which lines they have. -/
theorem text_search_contains_faults (hsink : searcher.sink.TakesAll) (state : σ) :
    (searcher.settings.maxWorkers ≤ 0 →
      (searcher.searchText tree r).start state = (.error .noWorkers, ⟨[], [], state⟩)) ∧
    (0 < searcher.settings.maxWorkers → ∀ e, r.root.checkNul = .error e →
      (searcher.searchText tree r).start state = (.error (.access e), ⟨[], [], state⟩)) ∧
    (0 < searcher.settings.maxWorkers → r.root.checkNul = .ok () → ∃ results after,
      (searcher.searchText tree r).start state = (.ok results, after) ∧
      results = ((TextSearch.candidates searcher.settings tree r).filter fun file =>
        !TextSearch.isFaulty searcher.settings tree file).flatMap (fun file =>
          Scan.scanLines r file.render (tree.linesOf file)) ∧
      after.warnings = ((TextSearch.candidates searcher.settings tree r).filter
        (TextSearch.isFaulty searcher.settings tree)).map (fun file =>
          "Could not search file " ++ file.render ++ ": " ++
            TextSearch.reason searcher.settings tree file) ∧
      after.sink = searcher.sink.feed after.warnings state ∧
      (r.root.Proper →
        results.Pairwise fun m n => m.file = n.file → m.line < n.line)) ∧
    ∀ names old content, tree.at? names = some (.file old) →
      TextSearch.candidates searcher.settings (tree.withContent names content) r =
        TextSearch.candidates searcher.settings tree r ∧
      ∀ file, (∀ e, tree.resolve file ≠ .ok ⟨names, e⟩) →
        TextSearch.isFaulty searcher.settings (tree.withContent names content) file =
          TextSearch.isFaulty searcher.settings tree file ∧
        TextSearch.reason searcher.settings (tree.withContent names content) file =
          TextSearch.reason searcher.settings tree file ∧
        (tree.withContent names content).linesOf file = tree.linesOf file := by
  refine ⟨fun hworkers => ?_, fun hworkers e hroot => ?_, fun hworkers hroot => ?_,
    fun names old content h => ⟨TextSearch.candidates_withContent h content r, fun file hfile =>
      TextSearch.isFaulty_withContent h content hfile⟩⟩
  · rw [Run.start_eq_result, searchText, if_pos hworkers,
      Run.result_bind_of_error (Run.result_throw _ _)]
  · rw [Run.start_eq_result, searchText, if_neg (Int.not_le.2 hworkers), hroot, Failure.ofAccess]
    exact Run.result_bind_of_error (Run.result_lift _ _)
  · rw [Run.start_eq_result, result_searchText hroot hsink, if_pos hworkers]
    refine ⟨_, _, rfl, textMatches_eq searcher tree r, ?_, ?_, pairwise_line_textMatches⟩
    · rw [warnings_textRecord]
      exact textWarnings_eq searcher tree r
    · rw [warnings_textRecord]
      exact sink_foldl_fileRecord _ _

/-- Three files with an `a`: the first is in order, the second holds a NUL byte too, and access to
the third is refused. -/
def mixedTree : Tree where
  top := [("a.py", .file [97]), ("b.py", .file [97, 0]), ("c.py", .file [97])]
  refused := [⟨.relative, ["c.py"]⟩]
  regular := by decide +kernel

/-- A search for an `a` anywhere. -/
def requestForLetter : Request := requestFor "a" false rfl

/-- The candidates among the files are all three, in the order of their names. -/
theorem candidates_mixed :
    TextSearch.candidates halfBroken.settings mixedTree requestForLetter =
      [⟨.relative, ["a.py"]⟩, ⟨.relative, ["b.py"]⟩, ⟨.relative, ["c.py"]⟩] := by
  have hlist : mixedTree.list requestForLetter.root = .ok ([], mixedTree.top) := rfl
  have hsorted (q : Workspace.Quest) :
      (mixedTree.branches q (Tree.walkLimit requestForLetter.root) requestForLetter.root
        mixedTree.top).Pairwise
        fun a b => decide (a.name ≤ b.name) := by
    simp [mixedTree, Tree.branches, Tree.branch]
  rw [TextSearch.candidates, Tree.walk, hlist]
  dsimp only
  rw [Workspace.arrange, List.mergeSort_of_pairwise (hsorted _)]
  decide

/-- The hypothesis of `text_search_contains_faults` is satisfiable: of three files the first has a
match, and there is one warning for each of the others. -/
theorem text_search_contains_faults_mixed :
    halfBroken.sink.TakesAll ∧ 0 < halfBroken.settings.maxWorkers ∧ ∃ results after,
      (halfBroken.searchText mixedTree requestForLetter).start [] = (.ok results, after) ∧
      results = [⟨"a.py", 1, "a", .reference, ">>> a"⟩] ∧
      after.warnings = ["Could not search file b.py: binary content",
        "Could not search file c.py: [Errno 13] Permission denied: 'c.py'"] := by
  have hsink : halfBroken.sink.TakesAll := fun _ _ => rfl
  have hworkers : 0 < halfBroken.settings.maxWorkers := by decide
  obtain ⟨-, -, hcompletes, -⟩ :=
    @text_search_contains_faults _ _ _ halfBroken mixedTree requestForLetter hsink []
  obtain ⟨results, after, hrun, hresults, hwarnings, -⟩ := hcompletes hworkers (by decide)
  refine ⟨hsink, hworkers, results, after, hrun, ?_, ?_⟩
  · rw [hresults, candidates_mixed]
    decide
  · rw [hwarnings, candidates_mixed]
    decide

/-- **A text search without workers fails**, though a file has a match and no file is faulty. -/
theorem text_search_fails_without_workers :
    let idle := { halfBroken with settings := { maxWorkers := 0 } }
    ((idle.searchText oneLineTree requestForLetter).start []).1 = .error .noWorkers ∧
      TextSearch.candidates idle.settings oneLineTree requestForLetter = [⟨.relative, ["x.py"]⟩] ∧
      TextSearch.isFaulty idle.settings oneLineTree ⟨.relative, ["x.py"]⟩ = false ∧
      Scan.scanLines requestForLetter "x.py" (oneLineTree.linesOf ⟨.relative, ["x.py"]⟩) =
        [⟨"x.py", 1, "a", .reference, ">>> a"⟩] := by
  decide +kernel

end Searcher
end DeclSearch

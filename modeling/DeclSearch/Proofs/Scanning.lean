/-
# What a text search comes to

A text search scans its candidate files one after another, in walking order.  A file has its
matches or costs a warning (`Searcher.fileMatches`, `Searcher.fileWarnings`), and which of the
two does not depend on the files before it.  So a text search that ends well comes to the
matches of its files and adds their warnings to the record (`eq_of_result_searchText`), and it
ends well where there are workers to run it and the sink takes what it is given
(`result_searchText`).
-/

import DeclSearch.Proofs.Tier

namespace DeclSearch

open Workspace (Path Tree)

variable {H S σ : Type}

namespace Searcher

variable (searcher : Searcher H S σ) (tree : Tree) (r : Request)

/-- The matches in a candidate file, none when it was not scanned. -/
def fileMatches (file : Path) : List Match :=
  (TextSearch.scanFile searcher.settings tree r file).toOption.getD []

/-- The warnings that a candidate file calls for: one when it was not scanned. -/
def fileWarnings (file : Path) : List String :=
  match TextSearch.scanFile searcher.settings tree r file with
  | .ok _ => []
  | .error fault => [TextSearch.warning file fault]

/-- The record behind a candidate file. -/
def fileRecord (record : Record H σ) (file : Path) : Record H σ :=
  (record.noting (.scanned file)).warnedAll searcher.sink (searcher.fileWarnings tree r file)

/-- The matches in the candidate files of a text search. -/
def textMatches : List Match :=
  (TextSearch.candidates searcher.settings tree r).flatMap (searcher.fileMatches tree r)

/-- The warnings about the candidate files of a text search. -/
def textWarnings : List String :=
  (TextSearch.candidates searcher.settings tree r).flatMap (searcher.fileWarnings tree r)

/-- The record behind a text search. -/
def textRecord (record : Record H σ) : Record H σ :=
  (TextSearch.candidates searcher.settings tree r).foldl (searcher.fileRecord tree r) record

variable {searcher tree r}

/-- The warnings of files are kept one after another. -/
theorem warnings_foldl_fileRecord (files : List Path) (record : Record H σ) :
    (files.foldl (searcher.fileRecord tree r) record).warnings =
      record.warnings ++ files.flatMap (searcher.fileWarnings tree r) := by
  induction files generalizing record with
  | nil => simp
  | cons file files ih => simp [ih, fileRecord, Record.warnedAll, Record.noting]

/-- The events of files are noted one after another: each file is scanned, and then its warnings are
given. -/
theorem events_foldl_fileRecord (files : List Path) (record : Record H σ) :
    (files.foldl (searcher.fileRecord tree r) record).events =
      record.events ++ files.flatMap fun file =>
        .scanned file :: (searcher.fileWarnings tree r file).map .warned := by
  induction files generalizing record with
  | nil => simp
  | cons file files ih => simp [ih, fileRecord, Record.warnedAll, Record.noting]

/-- The sink is fed the warnings of the files, one after another. -/
theorem sink_foldl_fileRecord (files : List Path) (record : Record H σ) :
    (files.foldl (searcher.fileRecord tree r) record).sink =
      searcher.sink.feed (files.flatMap (searcher.fileWarnings tree r)) record.sink := by
  induction files generalizing record with
  | nil => rfl
  | cons file files ih =>
    simp [ih, fileRecord, Record.warnedAll, Record.noting, Sink.feed, List.foldl_append]

/-- The warnings of a text search come behind those that were there. -/
theorem warnings_textRecord (record : Record H σ) :
    (searcher.textRecord tree r record).warnings =
      record.warnings ++ searcher.textWarnings tree r :=
  warnings_foldl_fileRecord _ record

/-- What scanning a file comes to, if the sink takes the warning about it. -/
theorem eq_of_result_scanned {file : Path} {record after : Record H σ} {batch : List Match}
    (h : (searcher.scanned tree r file).result record = (.ok batch, after)) :
    batch = searcher.fileMatches tree r file ∧ after = searcher.fileRecord tree r record file := by
  unfold scanned at h
  unfold fileMatches fileRecord fileWarnings
  rw [Run.result_bind_of_ok (Run.result_note _ _)] at h
  rcases hscan : TextSearch.scanFile searcher.settings tree r file with fault | found <;>
    rw [hscan] at h
  · obtain ⟨_, next, hwarn, h⟩ := Run.result_bind_eq_ok_iff.1 h
    rw [Run.result_warn] at hwarn
    obtain ⟨-, rfl⟩ := Prod.mk.inj hwarn
    obtain ⟨rfl, rfl⟩ := Run.result_pure_eq_ok_iff.1 h
    exact ⟨rfl, rfl⟩
  · obtain ⟨rfl, rfl⟩ := Run.result_pure_eq_ok_iff.1 h
    exact ⟨rfl, by simp [Record.warnedAll, Sink.feed]⟩

/-- Scanning a file ends well when the sink takes the warning about it. -/
theorem exists_result_scanned (hsink : searcher.sink.TakesAll) (file : Path)
    (record : Record H σ) :
    ∃ batch after, (searcher.scanned tree r file).result record = (.ok batch, after) := by
  unfold scanned
  rw [Run.result_bind_of_ok (Run.result_note _ _)]
  rcases TextSearch.scanFile searcher.settings tree r file with fault | batch
  · have hwarn := Run.result_warn searcher.sink (TextSearch.warning file fault)
      (record.noting (.scanned file))
    rw [hsink] at hwarn
    dsimp only
    rw [Run.result_bind_of_ok hwarn]
    exact ⟨[], _, Run.result_pure _ _⟩
  · exact ⟨batch, _, Run.result_pure _ _⟩

/-- **What a text search that ends well comes to**, whatever the sink does. -/
theorem eq_of_result_searchText {record after : Record H σ} {results : List Match}
    (h : (searcher.searchText tree r).result record = (.ok results, after)) :
    results = searcher.textMatches tree r ∧ after = searcher.textRecord tree r record := by
  unfold searchText at h
  split at h
  · rw [Run.result_bind_of_error (Run.result_throw _ _)] at h
    simp at h
  · obtain ⟨_, -, h⟩ := Run.result_lift_bind_eq_ok_iff.1 h
    obtain ⟨batches, last, hscan, h⟩ := Run.result_bind_eq_ok_iff.1 h
    obtain ⟨rfl, rfl⟩ :=
      Run.eq_of_result_mapM (fun file _ _ _ _ hfile => eq_of_result_scanned hfile) hscan
    obtain ⟨rfl, rfl⟩ := Run.result_pure_eq_ok_iff.1 h
    exact ⟨by rw [textMatches, List.flatMap_def], rfl⟩

/-- **A text search ends well** where there are workers to run it and its root holds no
NUL. -/
theorem exists_result_searchText (hworkers : 0 < searcher.settings.maxWorkers)
    (hroot : r.root.checkNul = .ok ()) (hsink : searcher.sink.TakesAll) (record : Record H σ) :
    ∃ results after, (searcher.searchText tree r).result record = (.ok results, after) := by
  unfold searchText
  rw [if_neg (by omega), hroot, Failure.ofAccess]
  dsimp only
  rw [Run.result_bind_of_ok (Run.result_lift _ _)]
  obtain ⟨batches, after, hscan⟩ := Run.exists_result_mapM (searcher.scanned tree r)
    (TextSearch.candidates searcher.settings tree r)
    (fun file _ record => exists_result_scanned hsink file record) record
  rw [Run.result_bind_of_ok hscan]
  exact ⟨_, _, Run.result_pure _ _⟩

/-- **What a text search comes to.** Without workers it fails before the first file; with them it
ends well, since a file that cannot be searched costs a warning only, and the sink takes that. -/
theorem result_searchText (hroot : r.root.checkNul = .ok ()) (hsink : searcher.sink.TakesAll)
    (record : Record H σ) :
    (searcher.searchText tree r).result record =
      if 0 < searcher.settings.maxWorkers then
        (.ok (searcher.textMatches tree r), searcher.textRecord tree r record)
      else (.error .noWorkers, record) := by
  split
  · next hworkers =>
    obtain ⟨results, after, h⟩ := exists_result_searchText hworkers hroot hsink record
    obtain ⟨rfl, rfl⟩ := eq_of_result_searchText h
    exact h
  · next hworkers =>
    unfold searchText
    rw [if_pos (by omega), Run.result_bind_of_error (Run.result_throw _ _)]

end Searcher
end DeclSearch

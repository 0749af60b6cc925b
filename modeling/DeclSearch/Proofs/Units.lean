/-
# One unit of a tier

A unit is compiled and queried, and both may fail: `Searcher.unitAnswer` is what comes of the two
together.  What a query comes to does not depend on how many questions it puts
(`Query.answer_bind`), and it puts at least one (`Searcher.exists_questions_eq`).  A query succeeds
when nothing it asks for fails, which is a condition on the backend's answers and, for every
location among them, on the file it points into (`queryUnit_isOk_iff`).  A location is shown when
its file can be read and has such a line (`Location.Shown`).

Running a unit adds the same events to every record, whatever the record holds
(`result_runUnit`).  The failure of a unit stays inside its run when its handle can be
released and the failure can be reported (`Contained`), and then running the unit comes to
its answer, with the failure in words (`unitResult_of_contained`).
-/

import DeclSearch.Proofs.Attempts
import DeclSearch.Proofs.Runs

namespace DeclSearch

open Workspace (Path Tree)

namespace Query

variable {α β : Type}

instance : LawfulMonad Query := by
  refine LawfulMonad.mk' Query ?_ ?_ ?_
  · rintro _ ⟨_ | _, _⟩ <;> rfl
  · simp [pure, bind]
  · rintro _ _ _ ⟨_ | a, _⟩ next last
    · rfl
    · simp only [bind]
      rcases (next a).answer with _ | _
      · rfl
      · simp [Nat.add_assoc]

/-- A query that only gives a result answers with it. -/
@[simp]
theorem answer_pure (a : α) : (pure a : Query α).answer = .ok a := rfl

/-- A question answers with what it is told. -/
@[simp]
theorem answer_ask (answer : Except Failure α) : (ask answer).answer = answer := rfl

/-- An attempt in a query answers with how it ends. -/
@[simp]
theorem answer_lift (answer : Except Failure α) : (liftM answer : Query α).answer = answer := rfl

/-- What a query comes to is not decided by the number of its questions. -/
@[simp]
theorem answer_bind (query : Query α) (next : α → Query β) :
    (query >>= next).answer = query.answer >>= fun a => (next a).answer := by
  obtain ⟨_ | _, _⟩ := query <;> rfl

/-- Queries for the items of a list answer as their answers do one by one. -/
@[simp]
theorem answer_mapM (step : α → Query β) (l : List α) :
    (l.mapM step).answer = l.mapM fun a => (step a).answer := by
  induction l with
  | nil => rfl
  | cons a l ih => simp only [List.mapM_cons, answer_bind, ih, answer_pure]; rfl

/-- A query goes on asking behind its first part. -/
theorem questions_le_bind (query : Query α) (next : α → Query β) :
    query.questions ≤ (query >>= next).questions := by
  obtain ⟨_ | _, _⟩ := query
  · exact Nat.le_refl _
  · exact Nat.le_add_right _ _

end Query

/-- Whether a failure can be put into words. -/
def Failure.Worded (f : Failure) : Prop := ∃ text, f.report = .ok text

/-- A failure has a wording unless asking for it fails. -/
theorem Failure.worded_iff {f : Failure} : f.Worded ↔ ∀ name why, f ≠ .wordless name why := by
  cases f <;> simp [Worded, Failure.report]

/-- Whether a location can be shown: its file can be read and has its line. -/
def Location.Shown (tree : Tree) (l : Location) : Prop :=
  ∃ lines, tree.readLines (Path.ofString l.file) = .ok lines ∧ 1 ≤ l.line ∧ l.line ≤ lines.length

namespace Searcher

variable {H S σ : Type} (searcher : Searcher H S σ) (tree : Tree) (r : Request)

/-- A match can be made at a location exactly if that can be shown. -/
theorem exists_matchAt_eq_ok_iff (name : String) (kind : Kind) (l : Location) :
    (∃ m, matchAt tree name kind l = .ok m) ↔ l.Shown tree := by
  unfold matchAt Location.Shown
  rcases tree.readLines (Path.ofString l.file) with e | lines
  · simp
  · have hextract : (∃ text, Preview.extract lines (l.line - 1) = .ok text) ↔
        1 ≤ l.line ∧ l.line ≤ lines.length := by
      unfold Preview.extract
      split
      · simp; omega
      · simp; omega
    simp [Except.exists_bind_eq_ok_iff, hextract, pure, Except.pure]

/-- Showing a location fails in words. -/
theorem worded_matchAt (name : String) (kind : Kind) (l : Location) :
    Except.OnlyFails Failure.Worded (matchAt tree name kind l) := by
  unfold matchAt
  split
  · next e _ => cases e <;> rintro _ ⟨⟩ <;> exact ⟨_, rfl⟩
  · refine .bind ?_ fun _ _ => .ok _
    unfold Preview.extract
    split <;> rintro _ ⟨⟩
    exact ⟨_, rfl⟩

/-- What has to go well for a symbol: its kind and its declarations are known and shown,
and so are its references if the request asks for them. -/
def Answerable (handle : H) (s : S) : Prop :=
  (∃ kind, searcher.backend.kindOf s = .ok kind) ∧
  (∃ declared, searcher.backend.declarations s = .ok declared ∧ ∀ l ∈ declared, l.Shown tree) ∧
  (r.references = true →
    ∃ used, searcher.backend.references s handle = .ok used ∧ ∀ l ∈ used, l.Shown tree)

/-- What is reported for a symbol, where the questions are left aside. -/
theorem answer_matchesOf (handle : H) (s : S) :
    (searcher.matchesOf tree r handle s).answer = (do
      let name := (searcher.backend.symbol s).qualifiedName
      let kind ← searcher.backend.kindOf s
      let declared ← (← searcher.backend.declarations s).mapM (matchAt tree name kind)
      if r.references then
        let used ← (← searcher.backend.references s handle).mapM (matchAt tree name .reference)
        return declared ++ used
      else return declared) := by
  unfold matchesOf
  simp only [Query.answer_bind, Query.answer_lift]
  cases r.references <;> simp [pure, Except.pure]

/-- What a unit answers, where the questions are left aside. -/
theorem answer_queryUnit (handle : H) :
    (searcher.queryUnit tree r handle).answer = (do
      let symbols ← searcher.backend.find handle r.nameTest
      return (← symbols.mapM fun s => (searcher.matchesOf tree r handle s).answer).flatten) := by
  unfold queryUnit
  simp only [Query.answer_bind, Query.answer_ask, Query.answer_mapM]
  rfl

/-- A query puts at least one question: the one for the symbols. -/
theorem exists_questions_eq (handle : H) :
    ∃ more, (searcher.queryUnit tree r handle).questions = more + 1 :=
  ⟨_, (Nat.sub_add_cancel (Query.questions_le_bind (.ask _) _)).symm⟩

/-- The matches of a symbol can be made exactly if the symbol is answerable. -/
theorem exists_matchesOf_eq_ok_iff (handle : H) (s : S) :
    (∃ batch, (searcher.matchesOf tree r handle s).answer = .ok batch) ↔
      searcher.Answerable tree r handle s := by
  rw [answer_matchesOf]
  unfold Answerable
  cases r.references with
  | false => simp [Except.exists_bind_eq_ok_iff, Except.exists_mapM_eq_ok_iff,
      exists_matchAt_eq_ok_iff, pure, Except.pure]
  | true =>
    simp only [Except.exists_bind_eq_ok_iff, Except.exists_mapM_eq_ok_iff,
      exists_matchAt_eq_ok_iff, pure, Except.pure, if_true, Except.ok.injEq, exists_eq', and_true,
      exists_and_right,
      forall_const]
    refine and_congr_right fun _ => ?_
    constructor
    · rintro ⟨d, hd, hl, hu⟩
      exact ⟨⟨d, hd, hl⟩, hu⟩
    · rintro ⟨⟨d, hd, hl⟩, hu⟩
      exact ⟨d, hd, hl, hu⟩

/-- **A query succeeds when nothing it asks for fails**: the symbols are found, and of each of them
the kind, the declarations and, if they are asked for, the references are known and can be shown. -/
theorem queryUnit_isOk_iff (handle : H) :
    (∃ batch, (searcher.queryUnit tree r handle).answer = .ok batch) ↔
      ∃ symbols, searcher.backend.find handle r.nameTest = .ok symbols ∧
        ∀ s ∈ symbols, searcher.Answerable tree r handle s := by
  rw [answer_queryUnit]
  simp [Except.exists_bind_eq_ok_iff, Except.exists_mapM_eq_ok_iff, exists_matchesOf_eq_ok_iff,
    pure, Except.pure]

/-- The answer of a unit, from its descriptor on: it is compiled and then queried. -/
def unitAnswer (unit : Path) : Except Failure (List Match) := do
  (searcher.queryUnit tree r (← searcher.backend.compile tree unit)).answer

/-- The events of releasing a handle. -/
def closing (unit : Path) (handle : H) : List (Event H) :=
  match searcher.backend.release handle with
  | .error _ => []
  | .ok left => [.released unit handle left]

/-- The events of the questions to a handle. -/
def asking (unit : Path) (handle : H) : List (Event H) :=
  List.replicate (searcher.queryUnit tree r handle).questions (.queried unit handle)

/-- The events of running a unit. -/
def unitEvents (unit : Path) : List (Event H) :=
  .compiling unit ::
    match searcher.backend.compile tree unit with
    | .error _ => []
    | .ok handle =>
      .compiled unit handle :: (searcher.asking tree r unit handle ++ searcher.closing unit handle)

section

variable {searcher tree r} {unit : Path} {handle : H}

/-- A handle that can be released is closed by its release alone. -/
theorem closing_of_released {left : H} (h : searcher.backend.release handle = .ok left) :
    searcher.closing unit handle = [.released unit handle left] := by
  simp [closing, h]

/-- The events of a unit that is compiled. -/
theorem unitEvents_of_compiled (h : searcher.backend.compile tree unit = .ok handle) :
    searcher.unitEvents tree r unit = .compiling unit :: .compiled unit handle ::
      (searcher.asking tree r unit handle ++ searcher.closing unit handle) := by
  simp only [unitEvents, h]

/-- The events of a unit that is not. -/
theorem unitEvents_of_failed {f : Failure} (h : searcher.backend.compile tree unit = .error f) :
    searcher.unitEvents tree r unit = [.compiling unit] := by
  simp only [unitEvents, h]

end

/-- What running a unit comes to: the report of its answer, unless the release of its handle
fails or there is no such report. -/
def unitResult (unit : Path) : Except Failure (Except String (List Match)) :=
  match searcher.backend.compile tree unit with
  | .error f => Failure.settle (.error f)
  | .ok handle => do
    let _ ← searcher.backend.release handle
    Failure.settle (searcher.queryUnit tree r handle).answer

/-- **Running a unit does the same to every record.** -/
theorem result_runUnit (unit : Path) (record : Record H σ) :
    (searcher.runUnit tree r unit).result record =
      (searcher.unitResult tree r unit, record.notingAll (searcher.unitEvents tree r unit)) := by
  unfold runUnit unitResult unitEvents asking closing
  rw [Run.result_bind_of_ok (Run.result_note _ _)]
  rcases hc : searcher.backend.compile tree unit with f | handle
  · exact Run.result_lift _ _
  · dsimp only
    rw [Run.result_bind_of_ok (Run.result_note _ _),
      Run.result_bind_of_ok (Run.result_noteAll _ _)]
    rcases hr : searcher.backend.release handle with f | left
    · rw [Run.result_bind_of_error (Run.result_lift _ _)]
      simp [Record.noting, Record.notingAll, bind, Except.bind]
    · rw [Run.result_bind_of_ok (Run.result_lift _ _), Run.result_bind_of_ok (Run.result_note _ _),
        Run.result_lift]
      simp [Record.noting, Record.notingAll, bind, Except.bind]

/-- The failure of a unit stays inside its run: a handle that was compiled can be released,
and a failure can be reported. -/
structure Contained (unit : Path) : Prop where
  released : ∀ handle, searcher.backend.compile tree unit = .ok handle →
    ∃ left, searcher.backend.release handle = .ok left
  worded : Except.OnlyFails Failure.Worded (searcher.unitAnswer tree r unit)

end Searcher

/-- A failure that can be reported is reported by its wording, or by its name. -/
theorem Failure.eq_shown_of_report {f : Failure} {text : String} (h : f.report = .ok text) :
    text = f.shown := by
  cases f <;> simp_all [Failure.report]

namespace Searcher

variable {H S σ : Type} {searcher : Searcher H S σ} {tree : Tree} {r : Request} {unit : Path}

/-- **Running a unit comes to its answer, if its failure stays inside.** -/
theorem unitResult_of_contained (h : searcher.Contained tree r unit) :
    searcher.unitResult tree r unit =
      .ok ((searcher.unitAnswer tree r unit).mapError Failure.shown) := by
  obtain ⟨hreleased, hworded⟩ := h
  unfold unitResult
  unfold unitAnswer at hworded ⊢
  have hsettle : ∀ answer : Except Failure (List Match),
      (∀ f, answer = .error f → ∃ text, f.report = .ok text) →
        Failure.settle answer = .ok (answer.mapError Failure.shown) := by
    rintro (f | batch) hf
    · obtain ⟨text, ht⟩ := hf f rfl
      rw [Failure.settle, ht, Failure.eq_shown_of_report ht]
      rfl
    · rfl
  rcases hc : searcher.backend.compile tree unit with f | handle
  · rw [hc] at hworded
    exact hsettle _ hworded
  · obtain ⟨left, hleft⟩ := hreleased handle hc
    rw [hc] at hworded
    simpa [bind, Except.bind, hleft] using hsettle _ hworded

/-- **The run of a unit fails unless the unit's failure stays inside.** There are two ways out of
it: the release of a handle that was compiled, and a report that cannot be put into words. -/
theorem exists_unitResult_eq_ok_iff :
    (∃ answer, searcher.unitResult tree r unit = .ok answer) ↔ searcher.Contained tree r unit := by
  refine ⟨?_, fun h => ⟨_, unitResult_of_contained h⟩⟩
  rintro ⟨answer, h⟩
  unfold unitResult at h
  have hsettle : ∀ {a : Except Failure (List Match)}, Failure.settle a = .ok answer →
      ∀ f, a = .error f → ∃ text, f.report = .ok text := by
    rintro _ ha f rfl
    rcases ht : f.report with why | text
    · simp [Failure.settle, ht, Except.map] at ha
    · exact ⟨text, rfl⟩
  rcases hc : searcher.backend.compile tree unit with f | handle
  · rw [hc] at h
    refine ⟨fun handle hh => by simp [hc] at hh, fun g hg => ?_⟩
    simp only [unitAnswer, hc, bind, Except.bind] at hg
    exact hsettle h g hg
  · rw [hc] at h
    rcases hleft : searcher.backend.release handle with f | left
    · simp [hleft, bind, Except.bind] at h
    · simp only [hleft, bind, Except.bind] at h
      refine ⟨fun other hh => ?_, fun g hg => ?_⟩
      · obtain rfl := Except.ok.inj (hc.symm.trans hh)
        exact ⟨left, hleft⟩
      · simp only [unitAnswer, hc, bind, Except.bind] at hg
        exact hsettle h g hg

end Searcher
end DeclSearch

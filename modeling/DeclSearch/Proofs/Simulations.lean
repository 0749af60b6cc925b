/-
# Searches that go the same way

Two searches may differ in what they ask of a unit, or in the sink that they tell of its failures,
and still go the same way: from related records they go on to related records, and what one of them
comes to is what the other one comes to, passed on through a function (`Run.Follows`).

The relation is passed on by every way in which runs are put together.  What is left to be proved of
two searchers is that their warnings do so (`Searcher.Alike`) and that their units do
(`Searcher.UnitsFollow`); then so do the tiers and the searches (`Searcher.UnitsFollow.search`).
The function takes some matches out, and it does not matter whether it does so before or behind the
merging (`Searcher.Sifts`).
-/

import DeclSearch.Proofs.Tier

namespace DeclSearch

open Workspace (Path Tree)

variable {H S σ τ α β γ δ : Type} {related : Record H σ → Record H τ → Prop}

/-- Whether a run comes to what another one comes to, passed on through a function, and leaves a
record that is related to the one that the other leaves, where their first records are related. -/
def Run.Follows (related : Record H σ → Record H τ → Prop) (g : β → α) (run : Run H σ α)
    (other : Run H τ β) : Prop :=
  ∀ record before, related record before →
    (run.result record).1 = (other.result before).1.map g ∧
      related (run.result record).2 (other.result before).2

namespace Run.Follows

/-- Results that go together leave related records related. -/
theorem pure {g : β → α} (b : β) :
    Run.Follows related g (pure (g b) : Run H σ α) (pure b : Run H τ β) :=
  fun _ _ h => ⟨rfl, h⟩

/-- Runs that fail alike leave related records related. -/
theorem throw {g : β → α} (f : Failure) :
    Run.Follows related g (throw f : Run H σ α) (throw f : Run H τ β) :=
  fun _ _ h => ⟨rfl, h⟩

/-- An attempt leaves the record alone, so it may be passed on as a whole. -/
theorem lift {g : β → α} (e : Except Failure β) :
    Run.Follows related g (liftM (e.map g) : Run H σ α) (liftM e : Run H τ β) := by
  intro record before h
  rw [result_lift, result_lift]
  exact ⟨rfl, h⟩

/-- An attempt as it is. -/
theorem same (e : Except Failure α) :
    Run.Follows related id (liftM e : Run H σ α) (liftM e : Run H τ α) := by
  intro record before h
  rw [result_lift, result_lift]
  exact ⟨by rw [Except.map_id]; rfl, h⟩

/-- **Runs of two parts.**  The second parts matter only for what the first part comes to. -/
theorem bind {g : β → α} {k : δ → γ} {run : Run H σ α} {other : Run H τ β} {next : α → Run H σ γ}
    {next' : β → Run H τ δ} (hrun : Run.Follows related g run other)
    (hnext : ∀ b, (∃ before after, other.result before = (.ok b, after)) →
      Run.Follows related k (next (g b)) (next' b)) :
    Run.Follows related k (run >>= next) (other >>= next') := by
  intro record before h
  obtain ⟨hresult, hafter⟩ := hrun record before h
  rw [result_bind, result_bind]
  rcases hfirst : run.result record with ⟨_ | a, after⟩ <;>
    rcases hsecond : other.result before with ⟨_ | b, after'⟩ <;>
    rw [hfirst, hsecond] at hresult hafter
  · exact ⟨congrArg _ (Except.error.inj hresult), hafter⟩
  · exact nomatch hresult
  · exact nomatch hresult
  · obtain rfl := Except.ok.inj hresult
    exact hnext b ⟨before, after', hsecond⟩ after after' hafter

/-- Runs for the items of a list follow each other if the runs for each item do.  The induction is
on the list. -/
theorem mapM {ι : Type} {g : β → α} {step : ι → Run H σ α} {step' : ι → Run H τ β} (l : List ι)
    (h : ∀ i ∈ l, Run.Follows related g (step i) (step' i)) :
    Run.Follows related (List.map g) (l.mapM step) (l.mapM step') := by
  induction l with
  | nil => exact pure []
  | cons i l ih =>
    rw [List.mapM_cons, List.mapM_cons]
    refine bind (h i List.mem_cons_self) fun b _ => ?_
    exact bind (ih fun j hj => h j (List.mem_cons_of_mem _ hj)) fun bs _ => pure (b :: bs)

end Run.Follows

namespace Searcher

/-- Whether the warnings of two searchers go the same way: they have the same settings and the same
backend, and whatever they record or warn of keeps their records related. -/
structure Alike (related : Record H σ → Record H τ → Prop) (searcher : Searcher H S σ)
    (other : Searcher H S τ) : Prop where
  settings : searcher.settings = other.settings
  backend : searcher.backend = other.backend
  warnings : ∀ record before, related record before → record.warnings = before.warnings
  noteAll : ∀ events, Run.Follows related id (Run.noteAll events) (Run.noteAll events)
  warn : ∀ message,
    Run.Follows related id (Run.warn searcher.sink message) (Run.warn other.sink message)

/-- Whether a function takes matches out of a list, where it does not matter if that is done before
batches are put together, or sites are merged, or behind it. -/
structure Sifts (g : List Match → List Match) : Prop where
  flatten : ∀ batches : List (List Match), g batches.flatten = (batches.map g).flatten
  distinctSites : ∀ l, g (distinctSites [] l) = distinctSites [] (g l)

/-- Nothing is left of no matches. -/
theorem Sifts.nil {g : List Match → List Match} (hg : Sifts g) : g [] = [] := hg.flatten []

/-- Leaving all matches as they are is one way to sift them. -/
theorem Sifts.id : Sifts id := ⟨fun batches => by rw [List.map_id]; rfl, fun _ => rfl⟩

variable {searcher : Searcher H S σ} {other : Searcher H S τ} {tree : Tree} {r : Request}

namespace Alike

variable (h : Alike related searcher other)

include h

/-- Noting the same event leaves related records related. -/
theorem note (e : Event H) : Run.Follows related id (Run.note e) (Run.note e) := h.noteAll [e]

/-- What a unit contributes, from an answer that some matches are taken out of. -/
theorem contribution {g : List Match → List Match} (hg : Sifts g) (unit : Path)
    (answer : Except String (List Match)) :
    Run.Follows related g (searcher.contribution unit (answer.map g))
      (other.contribution unit answer) := by
  rcases answer with report | batch
  · refine (h.warn (unitWarning unit report)).bind fun _ _ => ?_
    have hnone : Run.Follows related g (pure (g [])) (pure []) := .pure []
    rwa [hg.nil] at hnone
  · exact .pure batch

/-- The text is searched in the same way. -/
theorem searchText :
    Run.Follows related id (searcher.searchText tree r) (other.searchText tree r) := by
  have hscanned (file : Path) :
      Run.Follows related id (searcher.scanned tree r file) (other.scanned tree r file) := by
    unfold scanned
    rw [h.settings]
    refine (h.note _).bind fun _ _ => ?_
    split
    · exact .pure _
    · exact (h.warn _).bind fun _ _ => .pure []
  have hfiles (files : List Path) : Run.Follows related id
      (do return (← files.mapM (searcher.scanned tree r)).flatten)
      (do return (← files.mapM (other.scanned tree r)).flatten) := by
    refine (Run.Follows.mapM files fun file _ => hscanned file).bind fun batches _ => ?_
    rw [List.map_id]
    exact .pure _
  unfold Searcher.searchText
  rw [h.settings]
  split
  · exact (Run.Follows.throw (g := id) _).bind fun _ _ => (Run.Follows.same _).bind fun _ _ =>
      hfiles _
  · exact (Run.Follows.same _).bind fun _ _ => hfiles _

/-- **A tier goes the same way** where its units do. The units are run one after another, their
answers are sifted one by one, and it makes no difference whether the answers are merged before they
are sifted or after. -/
theorem searchUnits {g : List Match → List Match} (hg : Sifts g) {r' : Request} {units : List Path}
    (hunits : ∀ unit ∈ units, Run.Follows related (Except.map g) (searcher.runUnit tree r unit)
      (other.runUnit tree r' unit)) :
    Run.Follows related g (searcher.searchUnits tree r units)
      (other.searchUnits tree r' units) := by
  refine (Run.Follows.mapM units hunits).bind fun answers _ => ?_
  rw [List.zip_map_right, List.mapM_map]
  refine (Run.Follows.mapM _ fun entry _ => h.contribution hg entry.1 entry.2).bind
    fun batches _ => ?_
  rw [← hg.flatten, ← hg.distinctSites]
  exact .pure _

end Alike

/-- An outcome for another request, with some matches taken out where units have answered. -/
def sifted (r : Request) (g : List Match → List Match) (o : Outcome) : Outcome where
  request := r
  results := if o.strategy = "text" then o.results else g o.results
  strategy := o.strategy
  warnings := o.warnings

/-- Whether the units of two searches go the same way, of which one may ask for references and the
other may not: so does the run of every unit that is discovered, and no tier loses all of its
results. -/
structure UnitsFollow (related : Record H σ → Record H τ → Prop) (g : List Match → List Match)
    (searcher : Searcher H S σ) (other : Searcher H S τ) (tree : Tree) (r r' : Request) : Prop where
  sifts : Sifts g
  unit : ∀ level units, other.backend.discover tree r'.root level = .ok units → ∀ unit ∈ units,
    Run.Follows related (Except.map g) (searcher.runUnit tree r unit) (other.runUnit tree r' unit)
  isEmpty : ∀ units merged, (∃ before after,
    (other.searchUnits tree r' units).result before = (.ok merged, after)) →
      (g merged).isEmpty = merged.isEmpty

namespace UnitsFollow

variable {g : List Match → List Match} {asked asked' : Bool}

/-- **The tiers of a search go the same way** where its units do. -/
theorem searchLevels (h : Alike related searcher other)
    (hunits : UnitsFollow related g searcher other tree { r with references := asked }
      { r with references := asked' }) (levels : List Level) :
    Run.Follows related (sifted { r with references := asked } g)
      (searcher.searchLevels tree { r with references := asked } levels)
      (other.searchLevels tree { r with references := asked' } levels) := by
  have houtcome (results : List Match) (strategy : String) (record : Record H σ)
      (before : Record H τ) (hrelated : related record before) :
      (Except.ok ⟨{ r with references := asked }, if strategy = "text" then results else g results,
          strategy, record.warnings⟩ : Except Failure Outcome) =
        (Except.ok ⟨{ r with references := asked' }, results, strategy, before.warnings⟩).map
          (sifted { r with references := asked } g) := by
    rw [h.warnings record before hrelated]
    rfl
  induction levels with
  | nil =>
    refine h.searchText.bind fun results _ record before hrelated => ⟨?_, hrelated⟩
    exact houtcome results "text" record before hrelated
  | cons level rest ih =>
    rw [Searcher.searchLevels, Searcher.searchLevels, h.backend]
    refine (Run.Follows.same _).bind fun units hdiscover => ?_
    obtain ⟨before, after, hdiscover⟩ := hdiscover
    rw [Run.result_lift] at hdiscover
    have hunit := hunits.unit level units (Prod.mk.inj hdiscover).1
    refine (h.searchUnits hunits.sifts hunit).bind fun merged hmerged => ?_
    -- Sifting leaves some match where there is one, so both go on to the next level or neither.
    rw [hunits.isEmpty units merged hmerged]
    split
    · exact ih
    · refine fun record before hrelated => ⟨?_, hrelated⟩
      have hname : level.name ≠ "text" := by cases level <;> decide
      have hsame := houtcome merged level.name record before hrelated
      rwa [if_neg hname] at hsame

/-- **A search goes the same way** where its units do. Whether the root is a folder and whether the
backend covers the extensions is asked in the same words, and then the levels are tried alike
(`UnitsFollow.searchLevels`). -/
theorem search (h : Alike related searcher other)
    (hunits : UnitsFollow related g searcher other tree { r with references := asked }
      { r with references := asked' }) :
    Run.Follows related (sifted { r with references := asked } g)
      (searcher.search tree { r with references := asked })
      (other.search tree { r with references := asked' }) := by
  have hlevels (levels : Bool → List Level) : Run.Follows related
      (sifted { r with references := asked } g)
      ((liftM (searcher.backend.covers r.extensions) : Run H σ Bool) >>= fun covered =>
        searcher.searchLevels tree { r with references := asked } (levels covered))
      ((liftM (other.backend.covers r.extensions) : Run H τ Bool) >>= fun covered =>
        other.searchLevels tree { r with references := asked' } (levels covered)) := by
    rw [h.backend]
    exact (Run.Follows.same _).bind fun covered _ => hunits.searchLevels h _
  unfold Searcher.search
  refine (Run.Follows.same _).bind fun isFolder _ => ?_
  cases isFolder with
  | false => exact (Run.Follows.throw (g := id) _).bind fun _ _ => hlevels _
  | true => exact hlevels _

end UnitsFollow
end Searcher
end DeclSearch

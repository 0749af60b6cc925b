/-
# What comes of a run

A run starts with a record and ends with a result and another record.  `Run.result` gives
both, and the lemmas here say what it gives for each way in which runs are put together, so
that a proof about a search never opens the monad.  A run of two parts ends well if both of them do
(`result_bind_eq_ok_iff`).

Going through a list is the only loop of a search: where every step has a result that the
record does not change, the results are those of the steps one by one, and the record is
the one that the steps leave in turn (`result_mapM_of_ok`, `eq_of_result_mapM`); where the loop
ends well, so did every step (`ok_of_result_mapM`).
-/

import DeclSearch.Search

namespace DeclSearch

variable {H S σ α β : Type}

namespace Run

/-- What comes of a run that starts with a record. -/
def result (run : Run H σ α) (record : Record H σ) : Except Failure α × Record H σ :=
  StateT.run (ExceptT.run run) record

/-- A run starts on an empty record with the sink as it is. -/
theorem start_eq_result (run : Run H σ α) (sink : σ) : run.start sink = run.result ⟨[], [], sink⟩ :=
  rfl

/-- A run that only gives a result leaves the record as it is. -/
@[simp]
theorem result_pure (a : α) (record : Record H σ) :
    (pure a : Run H σ α).result record = (.ok a, record) := rfl

/-- A run that only fails leaves the record as it is. -/
@[simp]
theorem result_throw (f : Failure) (record : Record H σ) :
    (throw f : Run H σ α).result record = (.error f, record) := rfl

/-- A run may look at the record. -/
@[simp]
theorem result_get (record : Record H σ) :
    (get : Run H σ (Record H σ)).result record = (.ok record, record) := rfl

/-- An attempt ends as it ends by itself, and leaves the record as it is. -/
@[simp]
theorem result_lift (e : Except Failure α) (record : Record H σ) :
    (liftM e : Run H σ α).result record = (e, record) := by
  cases e <;> rfl

/-- A run may change the record. -/
@[simp]
theorem result_modify (f : Record H σ → Record H σ) (record : Record H σ) :
    (modify f : Run H σ Unit).result record = (.ok (), f record) := rfl

/-- A run may put another record in the place of the record. -/
@[simp]
theorem result_set (next record : Record H σ) :
    (set next : Run H σ Unit).result record = (.ok (), next) := rfl

/-- A run goes on from where its first part ended, unless that failed. -/
theorem result_bind (run : Run H σ α) (next : α → Run H σ β) (record : Record H σ) :
    (run >>= next).result record =
      match run.result record with
      | (.ok a, after) => (next a).result after
      | (.error f, after) => (.error f, after) := by
  unfold result ExceptT.run StateT.run
  simp only [bind, ExceptT.bind, ExceptT.mk, StateT.bind, ExceptT.bindCont]
  rcases run record with ⟨_ | _, _⟩ <;> rfl

/-- Behind a run that ends well the next one goes on, with the record that was left. -/
theorem result_bind_of_ok {run : Run H σ α} {next : α → Run H σ β} {record after : Record H σ}
    {a : α} (h : run.result record = (.ok a, after)) :
    (run >>= next).result record = (next a).result after := by
  rw [result_bind, h]

/-- Behind a run that fails nothing else is done. -/
theorem result_bind_of_error {run : Run H σ α} {next : α → Run H σ β} {record after : Record H σ}
    {f : Failure} (h : run.result record = (.error f, after)) :
    (run >>= next).result record = (.error f, after) := by
  rw [result_bind, h]

/-- **A run of two parts ends well if both of them do.** -/
theorem result_bind_eq_ok_iff {run : Run H σ α} {next : α → Run H σ β} {record last : Record H σ}
    {b : β} : (run >>= next).result record = (.ok b, last) ↔
      ∃ a after, run.result record = (.ok a, after) ∧ (next a).result after = (.ok b, last) := by
  rw [result_bind]
  constructor
  · intro h
    split at h
    · next a after hrun => exact ⟨a, after, hrun, h⟩
    · simp at h
  · rintro ⟨a, after, hrun, hnext⟩
    rw [hrun]
    exact hnext

/-- A run behind an attempt ends well if the attempt does and then the run does. -/
theorem result_lift_bind_eq_ok_iff {e : Except Failure α} {next : α → Run H σ β}
    {record last : Record H σ} {b : β} :
    ((liftM e : Run H σ α) >>= next).result record = (.ok b, last) ↔
      ∃ a, e = .ok a ∧ (next a).result record = (.ok b, last) := by
  rw [result_bind_eq_ok_iff]
  simp only [result_lift, Prod.mk.injEq]
  constructor
  · rintro ⟨a, _, ⟨ha, rfl⟩, h⟩
    exact ⟨a, ha, h⟩
  · rintro ⟨a, ha, h⟩
    exact ⟨a, record, ⟨ha, rfl⟩, h⟩

/-- A run that only gives a result ends well with that result and with the record as it was. -/
theorem result_pure_eq_ok_iff {a b : α} {record last : Record H σ} :
    (pure a : Run H σ α).result record = (.ok b, last) ↔ a = b ∧ record = last := by
  rw [result_pure, Prod.mk.injEq, Except.ok.injEq]

/-- Runs that do the same to every record are the same. -/
theorem ext {run other : Run H σ α} (h : ∀ record, run.result record = other.result record) :
    run = other :=
  funext h

end Run

/-- A loop of steps that differ from other steps by what they pass their results through. -/
theorem mapM_eq_map_mapM {m : Type → Type} [Monad m] [LawfulMonad m] {α β γ : Type}
    {step : α → m γ} {other : α → m β} {g : β → γ} {l : List α}
    (h : ∀ a ∈ l, step a = g <$> other a) : l.mapM step = List.map g <$> l.mapM other := by
  induction l with
  | nil => simp
  | cons a l ih =>
    simp [h a List.mem_cons_self, ih fun b hb => h b (List.mem_cons_of_mem _ hb)]

/-- The record with another event. -/
def Record.noting (record : Record H σ) (e : Event H) : Record H σ :=
  { record with events := record.events ++ [e] }

/-- The record with more events. -/
def Record.notingAll (record : Record H σ) (events : List (Event H)) : Record H σ :=
  { record with events := record.events ++ events }

/-- The record behind a warning, whether or not the sink took it. -/
def Record.warned (record : Record H σ) (sink : Sink σ) (message : String) : Record H σ where
  events := record.events ++ [.warned message]
  warnings := record.warnings ++ [message]
  sink := (sink.warn message record.sink).1

namespace Run

/-- Noting an event ends well, with the event on the record. -/
@[simp]
theorem result_note (e : Event H) (record : Record H σ) :
    (note e).result record = (.ok (), record.noting e) := rfl

/-- Noting events ends well, with the events on the record. -/
@[simp]
theorem result_noteAll (events : List (Event H)) (record : Record H σ) :
    (noteAll events).result record = (.ok (), record.notingAll events) := rfl

/-- A warning is on the record whatever the sink makes of it, and ends as the sink ends. -/
@[simp]
theorem result_warn (sink : Sink σ) (message : String) (record : Record H σ) :
    (warn sink message).result record =
      ((sink.warn message record.sink).2, record.warned sink message) := by
  unfold warn
  rw [result_bind_of_ok (result_note _ _), result_bind_of_ok (result_modify _ _),
    result_bind_of_ok (result_get _)]
  rw [result_bind_of_ok (result_set _ _)]
  exact result_lift _ _

/-- **A loop of steps that always end well.**  The results are those of the steps, and the
record goes from one step to the next. -/
theorem result_mapM_of_ok (step : α → Run H σ β) (value : α → β)
    (next : Record H σ → α → Record H σ) (l : List α)
    (h : ∀ a ∈ l, ∀ record, (step a).result record = (.ok (value a), next record a))
    (record : Record H σ) :
    (l.mapM step).result record = (.ok (l.map value), l.foldl next record) := by
  induction l generalizing record with
  | nil => simp
  | cons a l ih =>
    have ha := h a List.mem_cons_self record
    have hl := ih (fun b hb => h b (List.mem_cons_of_mem _ hb)) (next record a)
    rw [List.mapM_cons, result_bind_of_ok ha, result_bind_of_ok hl, result_pure]
    rfl

/-- A loop of steps that always end well ends well. -/
theorem exists_result_mapM (step : α → Run H σ β) (l : List α)
    (h : ∀ a ∈ l, ∀ record, ∃ value after, (step a).result record = (.ok value, after))
    (record : Record H σ) : ∃ values after, (l.mapM step).result record = (.ok values, after) := by
  induction l generalizing record with
  | nil => exact ⟨[], record, by simp⟩
  | cons a l ih =>
    obtain ⟨value, next, ha⟩ := h a List.mem_cons_self record
    obtain ⟨values, after, hl⟩ := ih (fun b hb => h b (List.mem_cons_of_mem _ hb)) next
    refine ⟨value :: values, after, ?_⟩
    rw [List.mapM_cons, result_bind_of_ok ha, result_bind_of_ok hl, result_pure]

/-- **A loop that ends well went well at every step.** -/
theorem ok_of_result_mapM {step : α → Run H σ β} {l : List α} {record after : Record H σ}
    {values : List β} (h : (l.mapM step).result record = (.ok values, after)) :
    ∀ a ∈ l, ∃ before next value, (step a).result before = (.ok value, next) := by
  induction l generalizing record after values with
  | nil => simp
  | cons a l ih =>
    rw [List.mapM_cons] at h
    obtain ⟨value, next, ha, h⟩ := result_bind_eq_ok_iff.1 h
    obtain ⟨values, last, hl, -⟩ := result_bind_eq_ok_iff.1 h
    exact List.forall_mem_cons.2 ⟨⟨record, next, value, ha⟩, ih hl⟩

/-- **What a loop that ends well comes to**, where a step that ends well has one result and
does one thing to the record. -/
theorem eq_of_result_mapM {step : α → Run H σ β} {value : α → β}
    {next : Record H σ → α → Record H σ} {l : List α}
    (h : ∀ a ∈ l, ∀ before b after, (step a).result before = (.ok b, after) →
      b = value a ∧ after = next before a)
    {record after : Record H σ} {values : List β}
    (hrun : (l.mapM step).result record = (.ok values, after)) :
    values = l.map value ∧ after = l.foldl next record := by
  induction l generalizing record after values with
  | nil =>
    obtain ⟨rfl, rfl⟩ := result_pure_eq_ok_iff.1 hrun
    exact ⟨rfl, rfl⟩
  | cons a l ih =>
    rw [List.mapM_cons] at hrun
    obtain ⟨b, mid, ha, hrun⟩ := result_bind_eq_ok_iff.1 hrun
    obtain ⟨others, last, hl, hrun⟩ := result_bind_eq_ok_iff.1 hrun
    obtain ⟨rfl, rfl⟩ := h a List.mem_cons_self _ _ _ ha
    obtain ⟨rfl, rfl⟩ := ih (fun b hb => h b (List.mem_cons_of_mem _ hb)) hl
    obtain ⟨rfl, rfl⟩ := result_pure_eq_ok_iff.1 hrun
    exact ⟨rfl, rfl⟩

end Run
end DeclSearch

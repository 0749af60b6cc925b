/-
# Attempts that may fail

What comes of attempts that are made one behind the other: each of them has to succeed, and the
first failure is the failure of all.
-/

import Mathlib.Data.List.Forall2

namespace DeclSearch

namespace Except

variable {ε α β : Type}

/-- **A list of attempts succeeds when every one of them does.** -/
theorem exists_mapM_eq_ok_iff (f : α → Except ε β) (l : List α) :
    (∃ values, l.mapM f = .ok values) ↔ ∀ a ∈ l, ∃ value, f a = .ok value := by
  induction l with
  | nil => simp [pure, Except.pure]
  | cons a l ih =>
    rw [List.mapM_cons, List.forall_mem_cons, ← ih]
    rcases f a with e | value
    · simp [bind, Except.bind]
    · rcases l.mapM f with e | values <;> simp [bind, Except.bind, pure, Except.pure]

/-- An attempt that builds on another one succeeds when both do. -/
theorem exists_bind_eq_ok_iff (x : Except ε α) (f : α → Except ε β) :
    (∃ value, (x >>= f) = .ok value) ↔ ∃ a, x = .ok a ∧ ∃ value, f a = .ok value := by
  rcases x with e | a <;> simp [bind, Except.bind]

/-- What comes of an attempt that builds on another one. -/
theorem bind_eq_ok_iff {x : Except ε α} {f : α → Except ε β} {b : β} :
    (x >>= f) = .ok b ↔ ∃ a, x = .ok a ∧ f a = .ok b := by
  rcases x with e | a <;> simp [bind, Except.bind]

/-- What comes of a list of attempts: what came of each of them. -/
theorem mapM_eq_ok_iff {f : α → Except ε β} {l : List α} {values : List β} :
    l.mapM f = .ok values ↔ l.map f = values.map .ok := by
  induction l generalizing values with
  | nil => cases values <;> simp [pure, Except.pure]
  | cons a l ih =>
    simp only [List.mapM_cons, bind_eq_ok_iff, ih]
    constructor
    · rintro ⟨b, hb, others, hothers, h⟩
      rw [← Except.ok.inj h, List.map_cons, List.map_cons, hb, hothers]
    · intro h
      rcases values with _ | ⟨b, others⟩
      · simp at h
      · obtain ⟨hb, hothers⟩ := List.cons.inj h
        exact ⟨b, hb, others, hothers, rfl⟩

/-- Attempts that all fail alike, if they fail, come to that failure or to what each of them comes
to. -/
theorem mapM_eq_ite {f : α → Except ε β} {fails : α → Bool} {e : ε} {value : α → β} {l : List α}
    (h : ∀ a ∈ l, f a = if fails a then .error e else .ok (value a)) :
    l.mapM f = if l.any fails then .error e else .ok (l.map value) := by
  induction l with
  | nil => rfl
  | cons a l ih =>
    obtain ⟨ha, hl⟩ := List.forall_mem_cons.1 h
    rw [List.mapM_cons, ha, ih hl, List.any_cons]
    cases fails a
    · cases l.any fails <;> rfl
    · rfl

/-- What is among the results of a list of attempts came of one of them. -/
theorem exists_of_mem_mapM {f : α → Except ε β} {l : List α} {values : List β}
    (h : l.mapM f = .ok values) {b : β} (hb : b ∈ values) : ∃ a ∈ l, f a = .ok b := by
  have hok : (Except.ok b : Except ε β) ∈ values.map .ok := List.mem_map_of_mem hb
  rw [← mapM_eq_ok_iff.1 h] at hok
  exact List.mem_map.1 hok

/-- Whether all that can come of an attempt, apart from success, are failures of a kind. -/
def OnlyFails (P : ε → Prop) (x : Except ε α) : Prop := ∀ e, x = .error e → P e

/-- What ends well does not fail in any way. -/
theorem OnlyFails.ok {P : ε → Prop} (a : α) : OnlyFails P (.ok a : Except ε α) := by
  intro e h
  simp at h

/-- One attempt behind another fails only as allowed if each of them does. -/
theorem OnlyFails.bind {P : ε → Prop} {x : Except ε α} {f : α → Except ε β}
    (hx : OnlyFails P x) (hf : ∀ a, x = .ok a → OnlyFails P (f a)) : OnlyFails P (x >>= f) := by
  rcases x with e | a
  · exact fun e he => hx e (congrArg Except.error (Except.error.inj he))
  · exact hf a rfl

/-- Attempts for the items of a list fail only as allowed if each of them does. -/
theorem OnlyFails.mapM {P : ε → Prop} {f : α → Except ε β} {l : List α}
    (h : ∀ a ∈ l, OnlyFails P (f a)) : OnlyFails P (l.mapM f) := by
  induction l with
  | nil => exact .ok []
  | cons a l ih =>
    rw [List.mapM_cons]
    refine (h a List.mem_cons_self).bind fun b _ => ?_
    exact (ih fun c hc => h c (List.mem_cons_of_mem _ hc)).bind fun _ _ => .ok _

end Except

end DeclSearch

/-
# Sinks for warnings

A sink takes warnings one by one; it has a state that each warning changes, and it may
fail at a warning.  Sinks can be put in front of one another: `Sink.keeping` keeps every
warning before it hands it on, so a warning is kept even where the next sink fails.
-/

import DeclSearch.Failure

namespace DeclSearch

/-- A channel for warnings with a state. -/
structure Sink (σ : Type) where
  warn : String → σ → σ × Except Failure Unit

namespace Sink

/-- A sink that cannot take warnings. -/
def abstract : Sink Unit := ⟨fun _ s => (s, .error .unsupported)⟩

/-- A sink that keeps every warning, in order. -/
def collecting : Sink (List String) := ⟨fun message kept => (kept ++ [message], .ok ())⟩

/-- A sink that keeps every warning and then hands it to another sink. -/
def keeping {σ : Type} (next : Sink σ) : Sink (List String × σ) :=
  ⟨fun message (kept, s) =>
    let (s, answer) := next.warn message s
    ((kept ++ [message], s), answer)⟩

/-- A sink that keeps every warning but the ones that `refuses` names a failure for. -/
def calling (refuses : String → Option Failure) : Sink (List String) :=
  ⟨fun message received =>
    match refuses message with
    | some failure => (received, .error failure)
    | none => (received ++ [message], .ok ())⟩

/-- A sink that turns every warning into a record of a log. -/
def logging : Sink (List String) :=
  ⟨fun message records => (records ++ ["WARNING:" ++ message], .ok ())⟩

/-- A sink that shows every warning at once, as a line of its own. -/
def echoing : Sink (List String) :=
  ⟨fun message shown => (shown ++ ["Warning: " ++ message], .ok ())⟩

end Sink
end DeclSearch

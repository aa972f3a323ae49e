import DiagnosticGateway.Log.Event

/-!
# Results with a log

An operation that logs returns its result together with the events, oldest first. Running
one operation after another appends their events. The laws let a statement about results
forget the log altogether.
-/

namespace DiagnosticGateway

/-- A result and the events that were logged on the way to it. -/
structure Logged (result : Type) where
  value : result
  events : List Log.Event

namespace Logged

variable {first second : Type}

instance : Monad Logged where
  pure value := ⟨value, []⟩
  bind step next :=
    let following := next step.value
    ⟨following.value, step.events ++ following.events⟩

@[simp] theorem value_pure (value : first) : (pure value : Logged first).value = value := rfl

@[simp] theorem events_pure (value : first) : (pure value : Logged first).events = [] := rfl

@[simp] theorem value_bind (step : Logged first) (next : first → Logged second) :
    (step >>= next).value = (next step.value).value := rfl

@[simp] theorem events_bind (step : Logged first) (next : first → Logged second) :
    (step >>= next).events = step.events ++ (next step.value).events := rfl

@[simp] theorem value_map (change : first → second) (step : Logged first) :
    (change <$> step).value = change step.value := rfl

@[simp] theorem events_map (change : first → second) (step : Logged first) :
    (change <$> step).events = step.events := by
  show step.events ++ [] = step.events
  simp

instance : LawfulMonad Logged := LawfulMonad.mk' Logged
  (fun step => by
    show Logged.mk _ (_ ++ []) = _
    rw [List.append_nil]
    rfl)
  (fun _ _ => rfl)
  (fun _ _ _ => congrArg (Logged.mk _) (List.append_assoc _ _ _))

/-- Log one event. -/
def log (event : Log.Event) : Logged Unit :=
  ⟨(), [event]⟩

@[simp] theorem events_log (event : Log.Event) : (log event).events = [event] := rfl

end Logged

end DiagnosticGateway

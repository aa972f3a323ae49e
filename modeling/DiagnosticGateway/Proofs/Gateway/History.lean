import Mathlib.Data.List.Induction
import DiagnosticGateway.Gateway.Run

/-!
# Histories of a station

A history is everything that happened to a gateway on its network: what was done to it from
outside, and the steps of its tasks, each at its moment, oldest first. Nothing orders the tasks
among each other. A history is possible if every task that takes a step is enabled at its moment.
-/

namespace DiagnosticGateway.Station

/-- Something that happens to a station: an event, or a step of a task. -/
inductive Action where
  | event (event : Event)
  | task (task : Task)

/-- An action at its moment. -/
structure Occurrence where
  moment : Milliseconds
  action : Action

/-- What has happened, oldest first. -/
abbrev History := List Occurrence

/-- The station after one more occurrence. -/
def act (occurrence : Occurrence) (station : Station) : Station :=
  match occurrence.action with
  | .event event => (station.apply occurrence.moment event).value
  | .task task => (station.step occurrence.moment task).value

/-- The station after a history. -/
def replay (history : History) (station : Station) : Station :=
  history.foldl (fun current occurrence => current.act occurrence) station

/-- A task that takes a step is enabled. -/
def CanHappen (station : Station) (occurrence : Occurrence) : Prop :=
  match occurrence.action with
  | .event _ => True
  | .task task => task ∈ station.gateway.enabled occurrence.moment

/-- Every occurrence of a history could happen when it did. -/
def Possible (station : Station) : History → Prop
  | [] => True
  | occurrence :: rest => station.CanHappen occurrence ∧ (station.act occurrence).Possible rest

instance CanHappen.decidable (station : Station) :
    (occurrence : Occurrence) → Decidable (station.CanHappen occurrence)
  | ⟨_, .event _⟩ => .isTrue trivial
  | ⟨moment, .task task⟩ => inferInstanceAs (Decidable (task ∈ station.gateway.enabled moment))

instance Possible.decidable (station : Station) :
    (history : History) → Decidable (station.Possible history)
  | [] => .isTrue trivial
  | occurrence :: rest =>
    have _ := Possible.decidable (station.act occurrence) rest
    inferInstanceAs (Decidable (station.CanHappen occurrence ∧
      (station.act occurrence).Possible rest))

variable {station : Station} {occurrence : Occurrence} {history : History}

/-- Where nothing occurs, the station stays as it is. -/
@[simp] theorem replay_nil : station.replay [] = station := rfl

/-- The first occurrence acts first. -/
@[simp] theorem replay_cons :
    station.replay (occurrence :: history) = (station.act occurrence).replay history := rfl

/-- A history that is replayed in two parts is replayed as one. -/
theorem replay_append (later : History) :
    station.replay (history ++ later) = (station.replay history).replay later := by
  simp [replay]

/-- A possible history is possible up to any point, and from there on. -/
theorem Possible.append {later : History} (possible : station.Possible (history ++ later)) :
    station.Possible history ∧ (station.replay history).Possible later := by
  induction history generalizing station with
  | nil => exact ⟨trivial, possible⟩
  | cons first rest inductionHypothesis =>
    obtain ⟨able, rest⟩ := possible
    obtain ⟨front, back⟩ := inductionHypothesis rest
    exact ⟨⟨able, front⟩, back⟩

/-- What holds at the start and is kept by everything that can happen holds after every possible
history. -/
theorem Possible.keeps {motive : Station → Prop} (possible : station.Possible history)
    (start : motive station)
    (step : ∀ station occurrence, motive station → CanHappen station occurrence →
      motive (station.act occurrence)) : motive (station.replay history) := by
  induction history generalizing station with
  | nil => exact start
  | cons first rest inductionHypothesis =>
    exact inductionHypothesis possible.2 (step station first start possible.1)

/-! ## What holds at every occurrence of a history -/

/-- A relation holds between every occurrence of a history and its past. -/
def Throughout (history : History) (holds : History → Occurrence → Prop) : Prop :=
  ∀ past next future, history = past ++ next :: future → holds past next

variable {holds : History → Occurrence → Prop}

/-- A history can be checked position by position. -/
theorem throughout_iff_positions :
    Throughout history holds ↔
      ∀ position : Fin history.length, holds (history.take position) history[position] := by
  constructor
  · intro all position
    apply all _ _ (history.drop (position + 1))
    simp
  · rintro all past next future rfl
    simpa using all ⟨past.length, by simp⟩

instance Throughout.decidable [∀ past next, Decidable (holds past next)] :
    Decidable (Throughout history holds) :=
  decidable_of_iff _ throughout_iff_positions.symm

/-- What holds throughout a history holds throughout its beginning. -/
theorem Throughout.front {later : History} (all : Throughout (history ++ later) holds) :
    Throughout history holds := by
  rintro past next future rfl
  exact all past next (future ++ later) (by simp)

/-- The last occurrence has everything before it as its past. -/
theorem Throughout.last (all : Throughout (history ++ [occurrence]) holds) :
    holds history occurrence :=
  all history occurrence [] rfl

end DiagnosticGateway.Station

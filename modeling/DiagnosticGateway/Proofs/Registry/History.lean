import Mathlib.Data.List.Induction
import Mathlib.Data.List.TakeWhile
import DiagnosticGateway.Registry.Run

/-!
# Histories of a registry

A history is everything that happened to a registry since it was empty: events from outside
and steps of its tasks, each at its moment, oldest first. Any number of requests may be under
way at once, and nothing orders their steps against those of timers or against the events. The
state that a history leads to is computed, so each reachable state is named by a history.

Two conditions restrict histories where a statement needs them. In an orderly history a
connection exists when it is added, is added before its first request, and is not added again
after it was removed; whoever serves a connection keeps to that. In a possible history a task
takes a step only when it is enabled: timers do not expire before their time.
-/

namespace DiagnosticGateway.Registry

/-- Something that happens to a registry: an event, or a step of a task. -/
inductive Action where
  | event (event : Event)
  | task (task : Task)
  deriving DecidableEq

/-- An action at its moment. -/
structure Occurrence where
  moment : Milliseconds
  action : Action
  deriving DecidableEq

/-- What has happened, oldest first. -/
abbrev History := List Occurrence

/-- The registry after one more occurrence. -/
def act (occurrence : Occurrence) (registry : Registry) : Registry :=
  match occurrence.action with
  | .event event => (registry.apply occurrence.moment event).value
  | .task task => (registry.step occurrence.moment task).value

/-- The registry after a course of occurrences. -/
def replay (course : History) (registry : Registry) : Registry :=
  course.foldl (fun current occurrence => current.act occurrence) registry

/-- The registry that a history leads to. -/
def after (limit : Nat) (history : History) : Registry :=
  (new limit).replay history

variable {limit : Nat} {history course : History} {occurrence : Occurrence}

/-- Where nothing occurs, the registry stays as it is. -/
@[simp] theorem replay_nil (registry : Registry) : registry.replay [] = registry := rfl

/-- The first occurrence acts first. -/
@[simp] theorem replay_cons (registry : Registry) :
    registry.replay (occurrence :: course) = (registry.act occurrence).replay course := rfl

/-- A longer history goes on from where the shorter one has led. -/
theorem after_append : after limit (history ++ course) = (after limit history).replay course := by
  simp [after, replay, List.foldl_append]

/-- The last occurrence acts on the registry that the others have led to. -/
@[simp] theorem after_concat :
    after limit (history ++ [occurrence]) = (after limit history).act occurrence := by
  simp [after_append]

/-! ## What holds at every occurrence of a history -/

/-- A relation holds between every occurrence of a history and its past. -/
def Throughout (history : History) (holds : History → Occurrence → Prop) : Prop :=
  ∀ past occurrence rest, history = past ++ occurrence :: rest → holds past occurrence

variable {holds : History → Occurrence → Prop}

/-- In a history without occurrences, everything holds throughout. -/
theorem throughout_nil : Throughout [] holds := by
  intro past occurrence rest split
  simp at split

/-- It suffices to look at the last occurrence and at what came before. This is how the inductions
on histories take their step. -/
theorem throughout_concat :
    Throughout (history ++ [occurrence]) holds ↔
      Throughout history holds ∧ holds history occurrence := by
  constructor
  · intro all
    refine ⟨?_, all history occurrence [] rfl⟩
    intro past earlier rest split
    exact all past earlier (rest ++ [occurrence]) (by simp [split])
  · rintro ⟨before, last⟩ past earlier rest split
    induction rest using List.reverseRecOn with
    | nil =>
      obtain ⟨rfl, same⟩ := List.append_inj' split rfl
      obtain rfl := List.singleton_inj.mp same
      exact last
    | append_singleton rest final _ =>
      rw [← List.cons_append, ← List.append_assoc] at split
      exact before past earlier rest (List.append_inj' split rfl).1

/-- What holds throughout a history holds throughout its beginning. -/
theorem Throughout.take (all : Throughout (history ++ course) holds) :
    Throughout history holds := by
  intro past occurrence rest split
  exact all past occurrence (rest ++ course) (by simp [split])

/-- A history can be checked position by position. -/
theorem throughout_iff_positions :
    Throughout history holds ↔
      ∀ position : Fin history.length, holds (history.take position) history[position] := by
  constructor
  · intro all position
    apply all _ _ (history.drop (position + 1))
    simp
  · intro all past occurrence rest split
    subst split
    simpa using all ⟨past.length, by simp⟩

instance [∀ past occurrence, Decidable (holds past occurrence)] :
    Decidable (Throughout history holds) :=
  decidable_of_iff _ throughout_iff_positions.symm

/-! ## Orderly and possible histories -/

/-- The connection has been added to the table at some time. -/
def Added (connection : ConnectionId) (history : History) : Prop :=
  ∃ occurrence ∈ history, occurrence.action = .event (.add connection)

/-- The connection has been removed since it was first added. -/
def Removed (connection : ConnectionId) (history : History) : Prop :=
  ∃ occurrence ∈ history.dropWhile fun occurrence => occurrence.action ≠ .event (.add connection),
    occurrence.action = .event (.remove connection)

instance (connection : ConnectionId) (history : History) : Decidable (Added connection history) :=
  inferInstanceAs (Decidable (∃ occurrence ∈ history, _))

instance (connection : ConnectionId) (history : History) : Decidable (Removed connection history) :=
  inferInstanceAs (Decidable (∃ occurrence ∈ history.dropWhile _, _))

/-- What whoever serves connections keeps to: a connection that is added exists and was not
removed before, and a connection that asks has been added. -/
def Admissible (past : History) (registry : Registry) : Action → Prop
  | .event (.add connection) =>
    (registry.pool.get? connection).isSome = true ∧ ¬ Removed connection past
  | .event (.request connection _) => Added connection past
  | _ => True

instance (past : History) (registry : Registry) : (action : Action) →
    Decidable (Admissible past registry action)
  | .event (.add _) => inferInstanceAs (Decidable (_ ∧ _))
  | .event (.request connection _) => inferInstanceAs (Decidable (Added connection past))
  | .event (.openConnection _) | .event (.start _) | .event (.aliveResponse _ _)
  | .event (.dataReceived _) | .event (.send _ _) | .event (.stop _) | .event (.remove _)
  | .event .stopAll | .task _ => inferInstanceAs (Decidable True)

/-- Every occurrence of the history is admissible. -/
abbrev Orderly (limit : Nat) (history : History) : Prop :=
  Throughout history fun past occurrence => Admissible past (after limit past) occurrence.action

/-- A task that takes a step at this moment is enabled. -/
def CanHappen (registry : Registry) (occurrence : Occurrence) : Prop :=
  match occurrence.action with
  | .event _ => True
  | .task task => task ∈ registry.enabled occurrence.moment

instance (registry : Registry) : (occurrence : Occurrence) →
    Decidable (registry.CanHappen occurrence)
  | ⟨_, .event _⟩ => inferInstanceAs (Decidable True)
  | ⟨moment, .task task⟩ => inferInstanceAs (Decidable (task ∈ registry.enabled moment))

/-- Every occurrence of the history could happen when it did. -/
abbrev Possible (limit : Nat) (history : History) : Prop :=
  Throughout history fun past occurrence => (after limit past).CanHappen occurrence

variable {connection : ConnectionId}

/-- What has been added stays added. -/
theorem Added.concat (added : Added connection history) :
    Added connection (history ++ [occurrence]) := by
  obtain ⟨earlier, member, adds⟩ := added
  exact ⟨earlier, List.mem_append_left _ member, adds⟩

/-- A connection was added before, or by the last occurrence. -/
theorem added_concat_iff : Added connection (history ++ [occurrence]) ↔
    Added connection history ∨ occurrence.action = .event (.add connection) := by
  simp [Added, or_and_right, exists_or]

/-- Since when a connection was added, the rest of the history counts. The induction is on the
history, up to the occurrence that adds it. -/
theorem dropWhile_concat (added : Added connection history) :
    (history ++ [occurrence]).dropWhile
        (fun occurrence => occurrence.action ≠ .event (.add connection)) =
      history.dropWhile (fun occurrence => occurrence.action ≠ .event (.add connection)) ++
        [occurrence] := by
  obtain ⟨earlier, member, adds⟩ := added
  induction history with
  | nil => exact absurd member List.not_mem_nil
  | cons first rest inductionHypothesis =>
    by_cases here : first.action = .event (.add connection)
    · simp [here]
    · have later : earlier ∈ rest :=
        (List.mem_cons.mp member).resolve_left fun same => here (same ▸ adds)
      have inner := inductionHypothesis later
      simp only [List.cons_append, List.dropWhile_cons]
      simpa [here] using inner

/-- What has been removed stays removed. A connection is added once in an orderly history, so what
comes later cannot add it again. -/
theorem Removed.concat (removed : Removed connection history) :
    Removed connection (history ++ [occurrence]) := by
  obtain ⟨earlier, member, removes⟩ := removed
  have added : Added connection history := by
    by_contra never
    have nothing : history.dropWhile
        (fun occurrence => occurrence.action ≠ .event (.add connection)) = [] := by
      apply List.dropWhile_eq_nil_iff.mpr
      intro occurrence inside
      have other : occurrence.action ≠ .event (.add connection) := fun adds =>
        never ⟨occurrence, inside, adds⟩
      simpa using other
    rw [nothing] at member
    exact List.not_mem_nil member
  refine ⟨earlier, ?_, removes⟩
  rw [dropWhile_concat added]
  exact List.mem_append_left _ member

/-- Removing what has been added removes it. -/
theorem removed_of_remove (added : Added connection history)
    (removes : occurrence.action = .event (.remove connection)) :
    Removed connection (history ++ [occurrence]) := by
  refine ⟨occurrence, ?_, removes⟩
  rw [dropWhile_concat added]
  exact List.mem_append_right _ List.mem_cons_self

end DiagnosticGateway.Registry

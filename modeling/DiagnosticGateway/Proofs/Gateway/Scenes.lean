import DiagnosticGateway.Proofs.Gateway.History

/-!
# Scenes of a history

A history is played scene by scene. A scene is an occurrence together with the station at which it
happens, so it knows what came of it and what was logged. What is said of every scene holds at every
moment of the history, and what a history logs is what its scenes log, one after the other.
-/

namespace DiagnosticGateway.Station

/-- The station after one more occurrence, with everything that was logged on the way. -/
def logged (occurrence : Occurrence) (station : Station) : Logged Station :=
  match occurrence.action with
  | .event event => station.apply occurrence.moment event
  | .task task => station.step occurrence.moment task

/-- An occurrence with the station at which it happens. -/
structure Scene where
  before : Station
  occurrence : Occurrence

namespace Scene

/-- The station that a scene leaves behind. -/
def after (scene : Scene) : Station :=
  scene.before.act scene.occurrence

/-- What is logged in a scene. -/
def log (scene : Scene) : List Log.Event :=
  (scene.before.logged scene.occurrence).events

end Scene

/-- The scenes of a history, oldest first. -/
def scenes : History → Station → List Scene
  | [], _ => []
  | occurrence :: rest, station => ⟨station, occurrence⟩ :: scenes rest (station.act occurrence)

/-- What a history logs. -/
def log (history : History) (station : Station) : List Log.Event :=
  (station.scenes history).flatMap Scene.log

variable {station : Station} {occurrence : Occurrence} {history : History} {scene : Scene}

/-- What is logged of an occurrence comes with what the occurrence does. -/
theorem value_logged (occurrence : Occurrence) (station : Station) :
    (station.logged occurrence).value = station.act occurrence := by
  obtain ⟨moment, action⟩ := occurrence
  cases action <;> rfl

/-- The scenes of two stretches of history follow one another. -/
theorem scenes_append (history later : History) (station : Station) :
    station.scenes (history ++ later) =
      station.scenes history ++ (station.replay history).scenes later := by
  induction history generalizing station with
  | nil => rfl
  | cons first rest inductionHypothesis =>
    exact congrArg (List.cons _) (inductionHypothesis (station.act first))

/-- The last scene shows what the rest of the history has led to. -/
theorem scenes_concat (history : History) (occurrence : Occurrence) (station : Station) :
    station.scenes (history ++ [occurrence]) =
      station.scenes history ++ [⟨station.replay history, occurrence⟩] :=
  scenes_append history [occurrence] station

/-- The last occurrence acts on what the rest of the history has led to. -/
theorem replay_concat (history : History) (occurrence : Occurrence) (station : Station) :
    station.replay (history ++ [occurrence]) = (station.replay history).act occurrence :=
  replay_append [occurrence]

/-- The log begins with what the first occurrence logs. -/
theorem log_cons (occurrence : Occurrence) (history : History) (station : Station) :
    station.log (occurrence :: history) =
      (station.logged occurrence).events ++ (station.act occurrence).log history :=
  rfl

/-- The logs of two stretches of history follow one another. -/
theorem log_append (history later : History) (station : Station) :
    station.log (history ++ later) = station.log history ++ (station.replay history).log later := by
  rw [log, scenes_append, List.flatMap_append]
  rfl

/-- The log ends with what the last occurrence logs. -/
theorem log_concat (history : History) (occurrence : Occurrence) (station : Station) :
    station.log (history ++ [occurrence]) =
      station.log history ++ ((station.replay history).logged occurrence).events := by
  rw [log_append, log_cons]
  exact congrArg _ (List.append_nil _)

/-- Each scene is played by what the scenes before it have left behind. So a property of scenes can
be proved at the moment at which the scene is played. -/
theorem mem_scenes_iff :
    scene ∈ station.scenes history ↔
      ∃ past future, history = past ++ scene.occurrence :: future ∧
        scene.before = station.replay past := by
  constructor
  · intro member
    induction history generalizing station with
    | nil => cases member
    | cons first rest inductionHypothesis =>
      rcases List.mem_cons.mp member with rfl | later
      · exact ⟨[], rest, rfl, rfl⟩
      · obtain ⟨past, future, split, before⟩ := inductionHypothesis later
        exact ⟨first :: past, future, by rw [split]; rfl, before⟩
  · rintro ⟨past, future, rfl, before⟩
    rw [scenes_append]
    refine List.mem_append_right _ ?_
    rw [← before]
    exact List.mem_cons_self

/-- The last occurrence is played by what the history before it has left behind. -/
theorem mem_scenes_concat (history : History) (occurrence : Occurrence) (station : Station) :
    ⟨station.replay history, occurrence⟩ ∈ station.scenes (history ++ [occurrence]) := by
  rw [scenes_concat]
  exact List.mem_append_right _ (List.mem_singleton_self _)

/-! ## Possible histories, occurrence by occurrence -/

/-- A history is possible in two parts, the second from where the first has led. -/
theorem possible_append {later : History} :
    station.Possible (history ++ later) ↔
      station.Possible history ∧ (station.replay history).Possible later := by
  refine ⟨Possible.append, ?_⟩
  induction history generalizing station with
  | nil => exact And.right
  | cons first rest inductionHypothesis =>
    rintro ⟨⟨able, front⟩, back⟩
    exact ⟨able, inductionHypothesis ⟨front, back⟩⟩

/-- A possible history goes on with an occurrence that can happen then. -/
theorem possible_concat :
    station.Possible (history ++ [occurrence]) ↔
      station.Possible history ∧ (station.replay history).CanHappen occurrence :=
  possible_append.trans (and_congr_right' (and_iff_left trivial))

/-- A scene of a possible history could happen after what came before it. -/
theorem Possible.of_mem_scenes (possible : station.Possible history)
    (member : scene ∈ station.scenes history) :
    ∃ past, station.Possible past ∧ scene.before = station.replay past ∧
      scene.before.CanHappen scene.occurrence := by
  obtain ⟨past, future, rfl, before⟩ := mem_scenes_iff.mp member
  obtain ⟨front, back⟩ := possible.append
  exact ⟨past, front, before, before ▸ back.1⟩

/-- What holds of no history yet and is passed on by everything that can happen holds of every
possible history. -/
@[elab_as_elim]
theorem Possible.byOccurrence {motive : History → Prop} (possible : station.Possible history)
    (start : motive [])
    (step : ∀ past occurrence, station.Possible past →
      (station.replay past).CanHappen occurrence → motive past →
        motive (past ++ [occurrence])) : motive history := by
  induction history using List.reverseRecOn with
  | nil => exact start
  | append_singleton past occurrence inductionHypothesis =>
    obtain ⟨front, able⟩ := possible_concat.mp possible
    exact step past occurrence front able (inductionHypothesis front)

end DiagnosticGateway.Station

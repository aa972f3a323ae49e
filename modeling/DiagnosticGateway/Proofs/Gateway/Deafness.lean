import DiagnosticGateway.Proofs.Gateway.Hush
import DiagnosticGateway.Proofs.Gateway.Scenes

/-!
# Readers that have finished

Once the reader of a socket has finished it stays so, and the bytes that the tester goes on sending
are read by nobody. A history with them and the same one without them go the same way: the same
occurrences are possible, the same is logged, and the stations are alike but for the bytes that wait
at the socket.
-/

namespace DiagnosticGateway

namespace Gateway

/-- Nobody reads from a socket any more, and nobody will. -/
structure Deaf (id : SocketId) (gateway : Gateway) : Prop where
  finished : ∃ socket, gateway.sockets[id]? = some socket ∧ socket.reader = .finished
  unlisted : id ∉ gateway.unaccepted

variable {gateway after : Gateway} {id other : SocketId} {socket later : Socket}
  {action : Station.Action} {now : Milliseconds}

/-- A reader that has finished does not begin again, unless its socket is accepted. A socket that is
listed still waits to be accepted, and one that has finished was accepted long before. -/
theorem Becomes.finished (becomes : gateway.Becomes id after socket action later)
    (finished : socket.reader = .finished) (unlisted : id ∉ gateway.unaccepted) :
    later.reader = .finished := by
  cases becomes with
  | rests reader => exact reader.trans finished
  | admitted first => exact absurd (first ▸ List.mem_cons_self) unlisted
  | refused => rfl
  | abandoned => rfl
  | served accepted =>
    rw [finished] at accepted
    cases accepted
  | read serves =>
    rw [finished] at serves
    exact serves.elim
  | left => rfl
  | wrote => exact finished
  | silenced => exact finished

/-- What does not depend on the bytes of a socket holds of it without them. The reader and the
writer of a socket are such properties, and its bytes are not. -/
theorem exists_hush_iff {holds : Socket → Bool}
    (same : ∀ (socket : Socket) bytes, holds { socket with incoming := bytes } = holds socket) :
    (∃ socket, (gateway.hush id).sockets[other]? = some socket ∧ holds socket = true) ↔
      ∃ socket, gateway.sockets[other]? = some socket ∧ holds socket = true := by
  rw [getElem?_hush]
  cases gateway.sockets[other]? with
  | none => rfl
  | some socket =>
    simp only [Option.map_some, Option.some.injEq, exists_eq_left']
    split
    · exact Eq.congr_left (same socket [])
    · rfl

/-- The same tasks can take a step. The reader of the deaf socket has finished, and no other task
looks at what has come in there. -/
theorem Deaf.able_hush_iff (deaf : gateway.Deaf id) (task : Station.Task) :
    (gateway.hush id).Able now task ↔ gateway.Able now task := by
  cases task with
  | read other =>
    by_cases here : other = id
    · subst here
      obtain ⟨socket, found, finished⟩ := deaf.finished
      obtain ⟨bytes, foundHush⟩ := found_hush other found
      simp [Able, found, foundHush, canRead, finished]
    · simp only [Able, getElem?_hush_apart here]
      rfl
  | leave other => exact exists_hush_iff fun _ _ => rfl
  | write other => exact exists_hush_iff fun _ _ => rfl
  | _ => exact Iff.rfl

end Gateway

namespace Station

open Gateway

variable {station : Station} {id : SocketId} {history : History} {occurrence : Occurrence}

/-- Whether bytes arrive on a socket. -/
def Action.feeds (id : SocketId) : Action → Bool
  | .event (.deliver other _) => other == id
  | _ => false

/-- What happens but for the bytes that arrive on a socket. -/
def unfed (id : SocketId) (history : History) : History :=
  history.filter fun occurrence => !occurrence.action.feeds id

/-- A socket is fed by bytes that are delivered to it. -/
theorem feeds_iff {action : Action} :
    action.feeds id = true ↔ ∃ bytes, action = .event (.deliver id bytes) := by
  unfold Action.feeds
  split
  · simp
  · rename_i other
    simp only [Bool.false_eq_true, false_iff, not_exists]
    exact fun bytes same => other id bytes same

/-- Nobody begins to read from a socket again. A socket that has just arrived has another number. -/
theorem deaf_act (deaf : station.gateway.Deaf id) (occurrence : Occurrence) :
    (station.act occurrence).gateway.Deaf id := by
  obtain ⟨socket, found, finished⟩ := deaf.finished
  obtain ⟨later, foundLater, becomes⟩ := becomes_act found occurrence
  refine ⟨⟨later, foundLater, becomes.finished finished deaf.unlisted⟩, fun member => ?_⟩
  rcases passes_act occurrence station with passes | ⟨peer, fault, -, -, unaccepted⟩
  · exact deaf.unlisted (passes.unaccepted.subset member)
  · obtain ⟨within, -⟩ := List.getElem?_eq_some_iff.mp found
    rw [unaccepted] at member
    rcases List.mem_append.mp member with old | last
    · exact deaf.unlisted old
    · obtain rfl := List.mem_singleton.mp last
      exact Nat.lt_irrefl _ within

/-- The same happens without the bytes that wait at a socket, as far as no more arrive there. Only
its own reader looks at the bytes of a socket, and that one has finished. -/
theorem hush_logged (deaf : station.gateway.Deaf id) (unfed : occurrence.action.feeds id = false) :
    (station.hush id).logged occurrence = hush id <$> station.logged occurrence := by
  obtain ⟨moment, action⟩ := occurrence
  cases action with
  | event event =>
    refine hush_apply (fun bytes same => ?_) station
    rw [feeds_iff.mpr ⟨bytes, congrArg Action.event same⟩] at unfed
    cases unfed
  | task task =>
    obtain ⟨socket, found, finished⟩ := deaf.finished
    refine hush_step fun same foundSame => ?_
    obtain rfl := Option.some.inj (foundSame.symm.trans found)
    exact finished

/-- Bytes that arrive are left out together with those that wait. Nothing else happens in such an
occurrence, and nothing is logged. -/
theorem logged_of_feeds (feeds : occurrence.action.feeds id = true) (station : Station) :
    hush id <$> station.logged occurrence = pure (station.hush id) := by
  obtain ⟨bytes, action⟩ := feeds_iff.mp feeds
  have delivered : station.logged occurrence =
      station.onGateway fun gateway => return gateway.updateSocket id (Socket.deliver bytes) := by
    simp only [logged, action]
    rfl
  simp only [delivered, onGateway, map_pure, pure_bind]
  exact congrArg (fun gateway => pure (Station.mk gateway station.network))
    (hush_deliver bytes station.gateway)

/-- To a deaf socket it makes no difference what has been delivered: the same can happen. -/
theorem canHappen_hush_iff (deaf : station.gateway.Deaf id) (occurrence : Occurrence) :
    (station.hush id).CanHappen occurrence ↔ station.CanHappen occurrence := by
  obtain ⟨moment, action⟩ := occurrence
  cases action with
  | event event => exact Iff.rfl
  | task task => exact mem_enabled.trans ((deaf.able_hush_iff task).trans mem_enabled.symm)

/-- After the reader has finished everything goes the same way without the bytes that arrive and
those that wait. -/
theorem hush_follow (deaf : station.gateway.Deaf id) (later : History) :
    (station.hush id).replay (unfed id later) = (station.replay later).hush id ∧
      (station.hush id).log (unfed id later) = station.log later ∧
        ((station.hush id).Possible (unfed id later) ↔ station.Possible later) := by
  induction later generalizing station with
  | nil => exact ⟨rfl, rfl, Iff.rfl⟩
  | cons occurrence rest inductionHypothesis =>
    obtain ⟨left, log, possible⟩ := inductionHypothesis (deaf_act deaf occurrence)
    rw [replay_cons, log_cons, ← left, ← log, Possible, ← possible]
    cases feeds : occurrence.action.feeds id with
    | true =>
      have hushed := logged_of_feeds feeds station
      have same : (station.act occurrence).hush id = station.hush id := by
        rw [← value_logged]
        exact congrArg Logged.value hushed
      have silent : (station.logged occurrence).events = [] := by
        have events := congrArg Logged.events hushed
        rwa [Logged.events_map] at events
      have arrives : station.CanHappen occurrence := by
        obtain ⟨bytes, action⟩ := feeds_iff.mp feeds
        rw [CanHappen, action]
        trivial
      have skipped : unfed id (occurrence :: rest) = unfed id rest :=
        List.filter_cons_of_neg (by simp [feeds])
      rw [same, silent, skipped]
      exact ⟨rfl, rfl, (and_iff_right arrives).symm⟩
    | false =>
      have hushed := hush_logged deaf feeds
      have same : (station.hush id).act occurrence = (station.act occurrence).hush id := by
        rw [← value_logged, ← value_logged, hushed]
        rfl
      have told : ((station.hush id).logged occurrence).events =
          (station.logged occurrence).events := by
        rw [hushed, Logged.events_map]
      have kept : unfed id (occurrence :: rest) = occurrence :: unfed id rest :=
        List.filter_cons_of_pos (by simp [feeds])
      rw [kept, replay_cons, log_cons, Possible, same, told]
      exact ⟨rfl, rfl, and_congr_left' (canHappen_hush_iff deaf occurrence)⟩

/-- What arrives on a socket after a history is as good as nothing: the same can happen without it,
the same is logged, and it leaves the station the same but for the bytes that wait at the socket. -/
structure Unheard (id : SocketId) (history later : History) (station : Station) : Prop where
  possible : station.Possible (history ++ unfed id later) ↔ station.Possible (history ++ later)
  log : station.log (history ++ unfed id later) = station.log (history ++ later)
  left : (station.replay (history ++ unfed id later)).hush id =
    (station.replay (history ++ later)).hush id

/-- What is not fed is not fed, however often this is done. -/
theorem unfed_unfed (id : SocketId) (history : History) :
    unfed id (unfed id history) = unfed id history := by
  simp [unfed, List.filter_filter]

/-- Nothing that arrives on a socket is heard when its reader has finished. -/
theorem unheard_of_deaf (deaf : (station.replay history).gateway.Deaf id) (later : History) :
    station.Unheard id history later := by
  obtain ⟨left, log, possible⟩ := hush_follow deaf later
  obtain ⟨leftUnfed, logUnfed, possibleUnfed⟩ := hush_follow deaf (unfed id later)
  rw [unfed_unfed] at leftUnfed logUnfed possibleUnfed
  refine ⟨?_, ?_, ?_⟩
  · rw [possible_append, possible_append, ← possible, ← possibleUnfed]
  · rw [log_append, log_append, ← log, ← logUnfed]
  · rw [replay_append, replay_append, ← left, ← leftUnfed]

end Station

end DiagnosticGateway

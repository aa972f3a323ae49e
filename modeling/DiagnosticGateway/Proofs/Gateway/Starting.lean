import DiagnosticGateway.Proofs.Gateway.Provenance
import DiagnosticGateway.Proofs.Gateway.Requests

/-!
# What a failed start leaves behind

A start makes one call of the system after the other, and each of them can fail. Whatever was bound
by then is released, in the opposite order, so the network has the sockets that it had before. The
gateway takes no part until all calls have succeeded: a failed start does not touch it. What remains
different is how the system will decide about coming calls, which is its own affair; the next free
port is one of these decisions.

A start that succeeds ends the time in which the gateway can be started, and that time does not come
back.
-/

namespace DiagnosticGateway

namespace Net.Network

/-- What the system will decide about coming calls: the free port that it gives out next, and which
calls fail. -/
structure Decisions where
  nextPort : Nat
  bindOutcomes : Outcomes
  broadcastOutcomes : Outcomes
  joinOutcomes : Outcomes
  addressOutcomes : Outcomes
  sendOutcomes : Outcomes

/-- The network, were the system to decide like this from now on. What is bound is left as it is, so
that networks can be compared which fail at different calls. -/
def deciding (decisions : Decisions) (network : Network) : Network where
  bound := network.bound
  nextPort := decisions.nextPort
  sent := network.sent
  bindOutcomes := decisions.bindOutcomes
  broadcastOutcomes := decisions.broadcastOutcomes
  joinOutcomes := decisions.joinOutcomes
  addressOutcomes := decisions.addressOutcomes
  sendOutcomes := decisions.sendOutcomes

/-- The same sockets are bound, and the same datagrams were sent. Where no port had to be chosen,
the free ones are left alone. -/
structure Keeps (asked : Prop) (before after : Network) : Prop where
  bound : after.bound = before.bound
  sent : after.sent = before.sent
  nextPort : asked → after.nextPort = before.nextPort

variable {before after network later : Network} {protocol : Protocol} {endpoint chosen : Endpoint}
  {fault : SystemFault} {asked : Prop}

/-- A network that keeps what it had in two calls keeps it in both together. -/
theorem Keeps.trans (first : before.Keeps asked network) (second : network.Keeps asked after) :
    before.Keeps asked after :=
  ⟨second.bound.trans first.bound, second.sent.trans first.sent,
    fun given => (second.nextPort given).trans (first.nextPort given)⟩

/-- Networks with the same sockets are the same if the system decides alike. -/
theorem Keeps.deciding (keeps : before.Keeps asked after) (decisions : Decisions) :
    after.deciding decisions = before.deciding decisions := by
  simp only [Network.deciding, keeps.bound, keeps.sent]

/-- Allowing broadcasts binds nothing and leaves nothing. -/
theorem keeps_allowBroadcast (network : Network) : network.Keeps asked network.allowBroadcast.2 :=
  ⟨rfl, rfl, fun _ => rfl⟩

/-- Asking for the address of the host binds nothing and leaves nothing. -/
theorem keeps_address (network : Network) : network.Keeps asked network.address.2 :=
  ⟨rfl, rfl, fun _ => rfl⟩

/-- Joining a group adds to the memberships and keeps the others. -/
theorem keeps_join (group : Ipv4) (network : Network) :
    network.Keeps asked (network.join group).2 := by
  unfold join
  simp only
  split <;> exact ⟨rfl, rfl, fun _ => rfl⟩

/-- Choosing a port for an endpoint keeps what is bound. -/
theorem keeps_choosePort (endpoint : Endpoint) (network : Network) :
    network.Keeps (endpoint.port ≠ 0) (network.choosePort endpoint).2 := by
  unfold choosePort
  split
  · rename_i unasked
    exact ⟨rfl, rfl, fun given => absurd unasked given⟩
  · exact ⟨rfl, rfl, fun _ => rfl⟩

/-- Whatever is bound is occupied. -/
theorem isBound_of_mem (member : ⟨protocol, endpoint⟩ ∈ network.bound) :
    network.isBound protocol endpoint = true := by
  refine List.any_eq_true.mpr ⟨_, member, ?_⟩
  simp [overlap]

/-- A call that binds fails, or binds one socket that was not there. The fault may come from
outside, or the endpoint is taken already, or no port is left to be chosen. -/
theorem bind_cases (protocol : Protocol) (endpoint : Endpoint) (network : Network) :
    (∃ fault later, network.bind protocol endpoint = (.error fault, later) ∧
        network.Keeps (endpoint.port ≠ 0) later) ∨
      ∃ chosen later middle, network.bind protocol endpoint = (.ok chosen, later) ∧
        later = { middle with bound := network.bound ++ [⟨protocol, chosen⟩] } ∧
        ⟨protocol, chosen⟩ ∉ network.bound ∧ network.Keeps (endpoint.port ≠ 0) middle := by
  have taken : network.Keeps (endpoint.port ≠ 0)
      { network with bindOutcomes := network.bindOutcomes.tail } := ⟨rfl, rfl, fun _ => rfl⟩
  unfold bind
  simp only
  split
  · exact Or.inl ⟨_, _, rfl, taken⟩
  · have keeps := taken.trans (keeps_choosePort endpoint
      { network with bindOutcomes := network.bindOutcomes.tail })
    split
    · exact Or.inl ⟨_, _, rfl, keeps⟩
    · rename_i free
      refine Or.inr ⟨_, _, _, rfl, ?_, fun member => free ?_, keeps⟩
      · rw [keeps.bound]
      · refine isBound_of_mem ?_
        rw [keeps.bound]
        exact member

/-- A call that fails to bind has bound nothing. -/
theorem keeps_bind (failed : network.bind protocol endpoint = (.error fault, later)) :
    network.Keeps (endpoint.port ≠ 0) later := by
  rcases bind_cases protocol endpoint network with ⟨other, after, fails, keeps⟩ |
    ⟨chosen, after, middle, binds, -⟩
  · obtain ⟨-, rfl⟩ := Prod.mk.inj (fails.symm.trans failed)
    exact keeps
  · cases binds.symm.trans failed

/-- Releasing what was bound undoes the binding, whatever else was called in between. The binding
stands at the end of the list, and nothing before it is the same. -/
theorem keeps_release (binds : network.bind protocol endpoint = (.ok chosen, later))
    (keeps : later.Keeps (endpoint.port ≠ 0) after) :
    network.Keeps (endpoint.port ≠ 0) (after.release protocol chosen) := by
  rcases bind_cases protocol endpoint network with ⟨other, bound, fails, -⟩ |
    ⟨other, bound, middle, same, appended, fresh, before⟩
  · cases fails.symm.trans binds
  · obtain ⟨first, rfl⟩ := Prod.mk.inj (same.symm.trans binds)
    obtain rfl := Except.ok.inj first
    subst appended
    refine ⟨?_, keeps.sent.trans before.sent,
      fun given => (keeps.nextPort given).trans (before.nextPort given)⟩
    show after.bound.erase _ = network.bound
    rw [keeps.bound, List.erase_append_right _ fresh, List.erase_cons_head, List.append_nil]

end Net.Network

namespace Sockets

open Net.Network

variable {network : Net.Network} {config : GatewayConfig} {fault : Net.SystemFault}
  {asked : Prop}

/-- If calls fail that are made while a socket is bound, the network keeps the sockets that it had
before the socket was bound. -/
theorem keeps_holding {result : Type} {protocol : Net.Protocol} {endpoint chosen : Net.Endpoint}
    {later : Net.Network} {calls : Logged (Called result)}
    (binds : network.bind protocol endpoint = (.ok chosen, later))
    (keeps : ∀ fault, calls.value.1 = .error fault →
      later.Keeps (endpoint.port ≠ 0) calls.value.2)
    (failed : (holding protocol chosen calls).value.1 = .error fault) :
    network.Keeps (endpoint.port ≠ 0) (holding protocol chosen calls).value.2 := by
  obtain ⟨⟨reason | found, network⟩, events⟩ := calls
  · exact keeps_release binds (keeps reason rfl)
  · cases failed

/-- Joining the discovery groups, or failing to, keeps what is bound. -/
theorem keeps_join (config : GatewayConfig) (network : Net.Network) :
    network.Keeps asked (join config network).value.2 := by
  unfold join
  cases config.multicastAddress with
  | none => exact ⟨rfl, rfl, fun _ => rfl⟩
  | some group =>
    have keeps : network.Keeps asked (network.join group).2 := Net.Network.keeps_join group network
    simp only
    split <;> rename_i joins <;> rw [joins] at keeps <;> exact keeps

/-- To prepare sockets binds none and releases none. It allows broadcasts, asks for an address and
joins groups; what it fails with is left to its caller, who holds the sockets. -/
theorem keeps_prepare (config : GatewayConfig) (tcp udp : Net.Endpoint) (network : Net.Network) :
    network.Keeps asked (prepare config tcp udp network).value.2 := by
  have broadcast : network.Keeps asked network.allowBroadcast.2 := keeps_allowBroadcast network
  unfold prepare
  split
  · rename_i refused
    rw [refused] at broadcast
    exact broadcast
  rename_i second allowed
  rw [allowed] at broadcast
  refine broadcast.trans ?_
  have joins : second.Keeps asked (join config second).value.2 := keeps_join config second
  simp only [Logged.value_bind]
  split
  · rename_i failed
    rw [failed] at joins
    exact joins
  rename_i third joined
  rw [joined] at joins
  refine joins.trans ?_
  -- What is left are the questions for both addresses.
  have first : third.Keeps asked third.address.2 := keeps_address third
  split
  · rename_i unknown
    rw [unknown] at first
    exact first
  rename_i fourth known
  rw [known] at first
  refine first.trans ?_
  have last : fourth.Keeps asked fourth.address.2 := keeps_address fourth
  split <;> rename_i answered <;> rw [answered] at last <;> exact last

/-- When the sockets cannot be opened, the network keeps those that it had. The cases are the calls
at which it may fail: the first binding, the second one, and what follows both. -/
theorem keeps_opened (failed : (opened config network).value.1 = .error fault) :
    network.Keeps (config.localPort ≠ 0) (opened config network).value.2 := by
  unfold opened at failed ⊢
  split at failed
  · rename_i refused
    exact keeps_bind refused
  · rename_i tcp later binds
    refine keeps_holding binds (fun reason fails => ?_) failed
    split at fails
    · rename_i refused
      exact keeps_bind refused
    · rename_i udp last bindsLater
      exact keeps_holding bindsLater (fun _ _ => keeps_prepare config tcp udp last) fails

end Sockets

namespace Gateway

open Station

variable {library : Pattern.Library} {original gateway : Gateway} {config : GatewayConfig}
  {ecus : List Ecu}

/-- The gateway is as it was made, but for its ECUs. -/
def Untouched (original gateway : Gateway) : Prop :=
  ∃ ecus, gateway = { original with ecus := ecus }

/-- What others do to an ECU before the start leaves a gateway untouched. -/
theorem untouched_changeEcu (made : withEcus library config ecus = .ok original)
    (untouched : original.Untouched gateway) (index : Nat) (event : Ecu.Event) :
    original.Untouched (gateway.changeEcu index event).value := by
  obtain ⟨others, rfl⟩ := untouched
  rw [changeEcu_value, eq_of_withEcus made]
  exact ⟨_, rfl⟩

/-- Only an ECU that somebody else has started can have something to do before the gateway is
started. -/
theorem work_of_able (made : withEcus library config ecus = .ok original)
    (untouched : original.Untouched gateway) {now : Milliseconds} {task : Task}
    (able : gateway.Able now task) : ∃ index, task = .work index := by
  obtain ⟨others, rfl⟩ := untouched
  rw [eq_of_withEcus made] at able
  cases task with
  | work index => exact ⟨index, rfl⟩
  | read id | leave id | write id =>
    obtain ⟨socket, found, -⟩ := able
    cases found
  | _ => cases able

/-- Where there are no sockets, none can be changed. -/
theorem updateSocket_of_unconnected (unconnected : gateway.sockets = []) (id : SocketId)
    (step : Socket → Socket) : gateway.updateSocket id step = gateway := by
  rw [updateSocket, unconnected, List.modify_nil, ← unconnected]

/-- Before the gateway is started only its ECUs can change. Tasks have nothing to do before the
start, and the other events from outside find no sockets and no network. -/
theorem untouched_act {station : Station} {occurrence : Occurrence}
    (made : withEcus library config ecus = .ok original)
    (untouched : original.Untouched station.gateway) (able : station.CanHappen occurrence)
    (created : (station.act occurrence).gateway.phase = .created) :
    original.Untouched (station.act occurrence).gateway := by
  obtain ⟨moment, action⟩ := occurrence
  cases action with
  | event event =>
    cases event with
    | start =>
      have acts : (station.act ⟨moment, .event .start⟩).gateway =
        (station.start moment).value.1.gateway := rfl
      rcases start_cases moment station with same | ⟨-, sockets, starts⟩
      · rw [acts, same]
        exact untouched
      · have running := (run_routes moment sockets station.gateway).1
        rw [← starts, ← acts, running?, created] at running
        cases running
    | ecu index event => exact untouched_changeEcu made untouched index event
    | deliver id _ | finish id _ | failWriting id _ =>
      obtain ⟨others, unchanged⟩ := untouched
      have unconnected : station.gateway.sockets = [] := by
        rw [unchanged, eq_of_withEcus made]
      exact ⟨others, (updateSocket_of_unconnected unconnected id _).trans unchanged⟩
    | _ =>
      obtain ⟨others, unchanged⟩ := untouched
      obtain ⟨gateway, network⟩ := station
      obtain rfl : gateway = _ := unchanged
      rw [eq_of_withEcus made]
      exact ⟨others, rfl⟩
  | task task =>
    obtain ⟨index, rfl⟩ := work_of_able made untouched (mem_enabled.mp able)
    exact untouched_changeEcu made untouched index .work

end Gateway

namespace Station

open Gateway

variable {library : Pattern.Library} {station : Station} {original : Gateway}
  {config : GatewayConfig} {ecus : List Ecu} {network : Net.Network} {history : History}
  {now : Milliseconds}

/-- A gateway that can be started could be started before, whatever has happened. -/
theorem created_of_act {occurrence : Occurrence} (served : station.gateway.registry.Served)
    (able : station.CanHappen occurrence)
    (created : (station.act occurrence).gateway.phase = .created) :
    station.gateway.phase = .created := by
  cases bears served able with
  | starts earlier => exact earlier
  | stops untaken brings stopped => cases stopped.symm.trans created
  | goesOn brings phase => exact phase.symm.trans created

/-- As long as a gateway can be started it is as it was made, but for its ECUs. -/
theorem Possible.untouched (made : withEcus library config ecus = .ok original)
    (possible : (Station.mk original network).Possible history) :
    ((Station.mk original network).replay history).gateway.phase = .created →
      original.Untouched ((Station.mk original network).replay history).gateway := by
  have served : original.registry.Served := (unvisited_withEcus made).served
  refine possible.byOccurrence (fun _ => ⟨original.ecus, rfl⟩) ?_
  intro past occurrence front able inductionHypothesis created
  rw [replay_concat] at created ⊢
  exact untouched_act made
    (inductionHypothesis (created_of_act (front.served served) able created)) able created

/-- In a scene the gateway is started, and the start succeeds. -/
def Scene.starts (scene : Scene) : Bool :=
  match scene.occurrence.action with
  | .event .start => (scene.before.start scene.occurrence.moment).value.2.isOk
  | _ => false

/-- A start that succeeds is the start of a gateway that can be started, and afterwards the gateway
runs. -/
theorem Scene.created_of_starts {scene : Scene} (starts : scene.starts = true) :
    scene.before.gateway.phase = .created ∧ scene.after.gateway.phase ≠ .created := by
  obtain ⟨before, moment, action⟩ := scene
  unfold Scene.starts at starts
  split at starts
  · rename_i same
    obtain rfl : action = .event .start := same
    have acts : Scene.after ⟨before, moment, .event .start⟩ = (before.start moment).value.1 := rfl
    simp only at starts
    cases phase : before.gateway.phase with
    | created =>
      refine ⟨rfl, fun created => ?_⟩
      rcases start_outcomes moment phase with ⟨fault, network, fails⟩ | ⟨sockets, network, runs⟩
      · rw [fails] at starts
        cases starts
      · have running := (run_routes moment sockets before.gateway).1
        rw [acts, runs] at created
        rw [running?, created] at running
        cases running
    | _ =>
      simp only [start, phase, Logged.value_pure] at starts
      cases starts
  · cases starts

/-- Of all starts at most one succeeds, and as long as the gateway can be started none has. The
induction is on the history, with the phase as the measure: a start that succeeds leaves the phase
in which there can be one. -/
theorem Possible.starts_le (served : station.gateway.registry.Served)
    (possible : station.Possible history) :
    (station.scenes history).countP Scene.starts ≤
      if (station.replay history).gateway.phase = .created then 0 else 1 := by
  refine possible.byOccurrence (Nat.zero_le _) ?_
  intro past occurrence front able inductionHypothesis
  have later : station.replay (past ++ [occurrence]) =
      Scene.after ⟨station.replay past, occurrence⟩ := replay_concat past occurrence station
  rw [scenes_concat, List.countP_append, List.countP_singleton, later]
  cases starts : Scene.starts ⟨station.replay past, occurrence⟩ with
  | true =>
    obtain ⟨before, after⟩ := Scene.created_of_starts starts
    rw [if_pos before] at inductionHypothesis
    rw [if_neg after]
    exact Nat.add_le_add_right inductionHypothesis 1
  | false =>
    refine inductionHypothesis.trans ?_
    split
    · exact Nat.zero_le _
    · rename_i unready
      have unreadyLater :
          (Scene.after ⟨station.replay past, occurrence⟩).gateway.phase ≠ .created :=
        fun created => unready (created_of_act (front.served served) able created)
      rw [if_neg unreadyLater]

/-- A start that fails at `now` leaves nothing behind. This is stated of the gateway, the network
and the tasks, so that a failed start cannot be told from one that was never tried. -/
structure Traceless (now : Milliseconds) (station : Station) : Prop where
  /-- The gateway is what it was, with its ECUs and their listeners. -/
  gateway : (station.start now).value.1.gateway = station.gateway
  /-- It can still be started. -/
  created : (station.start now).value.1.gateway.phase = .created
  /-- It reports no address. -/
  unbound : (station.start now).value.1.gateway.running? = none
  /-- None of its tasks can take a step at any time: only an ECU that somebody else has started may
  have something to do. -/
  idle : ∀ moment, ∀ task ∈ (station.start now).value.1.gateway.enabled moment,
    ∃ index, task = .work index
  /-- None of its tasks waits for a moment to come. -/
  unawaited : (station.start now).value.1.gateway.deadlines = []
  /-- Every socket that was opened on the way is released. -/
  released : station.network.Keeps (station.gateway.config.localPort ≠ 0)
    (station.start now).value.1.network
  /-- If the system decides alike, a later start of this gateway or of any other on the network
  turns out as if this one had not been tried, and so does everything that happens later. -/
  forgotten : ∀ decisions other moment later,
    (Station.mk other ((station.start now).value.1.network.deciding decisions)).start moment =
        (Station.mk other (station.network.deciding decisions)).start moment ∧
      (Station.mk other ((station.start now).value.1.network.deciding decisions)).replay later =
        (Station.mk other (station.network.deciding decisions)).replay later

/-- Only the start of a gateway that can be started fails by a call of the system. In every other
phase a start is refused by the gateway itself, and no call is made. -/
theorem start_failed {fault : Net.SystemFault}
    (failed : (station.start now).value.2 = .error (.system fault)) :
    station.gateway.phase = .created ∧
      (station.start now).value.1.gateway = station.gateway ∧
      station.network.Keeps (station.gateway.config.localPort ≠ 0)
        (station.start now).value.1.network := by
  cases phase : station.gateway.phase with
  | created =>
    refine ⟨rfl, ?_⟩
    have keeps : ∀ reason,
        (Sockets.opened station.gateway.config station.network).value.1 = .error reason →
          _ := fun _ => Sockets.keeps_opened
    simp only [start, phase, Logged.value_bind] at failed ⊢
    revert keeps failed
    obtain ⟨reason | sockets, later⟩ :=
      (Sockets.opened station.gateway.config station.network).value
    · exact fun keeps _ => ⟨rfl, keeps reason rfl⟩
    · intro _ failed
      cases failed
  | _ =>
    simp only [start, phase, Logged.value_pure] at failed
    cases Except.error.inj failed

/-- How a gateway is started. The clauses cover the three phases: before the start, while the
gateway runs and after the stop. -/
structure StartsOnce (history : History) (station : Station) : Prop where
  /-- Whatever the network has come to: when one of the calls of the system fails, the start leaves
  nothing behind. -/
  traceless : ∀ network now fault,
    ((Station.mk (station.replay history).gateway network).start now).value.2 =
        .error (.system fault) →
      (Station.mk (station.replay history).gateway network).Traceless now
  /-- A gateway that runs or was stopped refuses to be started, and nothing changes. -/
  refused : (station.replay history).gateway.phase ≠ .created → ∀ network now,
    (Station.mk (station.replay history).gateway network).start now =
      return (⟨(station.replay history).gateway, network⟩, .error .alreadyStarted)
  /-- Of all starts at most one has succeeded. -/
  once : (station.scenes history).countP Scene.starts ≤ 1

end Station

namespace Gateway

open Station

/-- However a gateway has been used, a start that fails because of a call of the system leaves
nothing behind, and of all starts at most one succeeds. -/
theorem starts_once {library : Pattern.Library} {config : GatewayConfig} {ecus : List Ecu}
    {gateway : Gateway} {network : Net.Network} {history : History}
    (made : withEcus library config ecus = .ok gateway)
    (possible : (Station.mk gateway network).Possible history) :
    (Station.mk gateway network).StartsOnce history := by
  have served : gateway.registry.Served := (unvisited_withEcus made).served
  refine ⟨fun current now fault failed => ?_, fun unready current now => ?_, ?_⟩
  · obtain ⟨created, same, keeps⟩ := start_failed failed
    have untouched := possible.untouched made created
    refine ⟨same, (congrArg Gateway.phase same).trans created, ?_, fun moment task member => ?_,
      ?_, keeps, fun decisions other moment later => ?_⟩
    · rw [same, running?, created]
    · rw [same] at member
      exact work_of_able made untouched (mem_enabled.mp member)
    · obtain ⟨others, unchanged⟩ := untouched
      rw [same]
      show Gateway.deadlines ((Station.mk gateway network).replay history).gateway = []
      rw [unchanged, eq_of_withEcus made]
      rfl
    · rw [keeps.deciding decisions]
      exact ⟨rfl, rfl⟩
  · unfold Station.start
    split
    · rename_i created
      exact absurd created unready
    · rfl
  · refine (possible.starts_le served).trans ?_
    split
    · exact Nat.zero_le _
    · exact Nat.le_refl _

/-- A gateway whose datagram socket joins a group, so that a start makes all calls that there
are. -/
def sociable : Gateway :=
  { demonstration with
    config := { demonstration.config with multicastAddress := some ⟨224, 0, 0, 2⟩ } }

/-- The descriptors of the process are used up. -/
def exhausted : Net.SystemFault := ⟨24⟩

/-- A network on which the first call to join a group fails. -/
def unwelcoming : Net.Network :=
  { Net.Network.new with joinOutcomes := [some exhausted] }

/-- Networks on which one call after the other is the first to fail: to bind for connections and for
datagrams, to allow broadcasts, to join the group, and to ask for either address. On the last two
another gateway has taken the port. -/
def adverse : List Net.Network :=
  [{ Net.Network.new with bindOutcomes := [some exhausted] },
    { Net.Network.new with bindOutcomes := [none, some exhausted] },
    { Net.Network.new with broadcastOutcomes := [some exhausted] },
    unwelcoming,
    { Net.Network.new with addressOutcomes := [some exhausted] },
    { Net.Network.new with addressOutcomes := [none, some exhausted] },
    { Net.Network.new with bound := [⟨.tcp, sociable.config.endpoint⟩] },
    { Net.Network.new with bound := [⟨.udp, sociable.config.endpoint⟩] }]

/-- A gateway is started until it runs, and once more; then it is stopped and started again. -/
def insisting : History :=
  [⟨0, .event .start⟩, ⟨1, .event .start⟩, ⟨2, .event .start⟩, ⟨3, .event .stop⟩,
    ⟨4, .event .start⟩]

/-- On each of these networks a start leaves nothing behind. When the group cannot be joined at
first, the second start succeeds, and no other one does. -/
theorem starts_once_insisting :
    (∀ network ∈ adverse, (Station.mk sociable network).Traceless 0) ∧
      ((Station.mk sociable unwelcoming).scenes insisting).map Scene.starts =
        [false, true, false, false, false] ∧
      ((Station.mk sociable unwelcoming).scenes insisting).countP Scene.starts ≤ 1 ∧
      (Station.mk ((Station.mk sociable unwelcoming).replay insisting).gateway .new).start 5 =
        return (⟨((Station.mk sociable unwelcoming).replay insisting).gateway, .new⟩,
          .error .alreadyStarted) := by
  have made : withEcus Pattern.Plain.library sociable.config [holdingEcu] = .ok sociable := by
    have valid : sociable.config.validate Pattern.Plain.library = .ok () := by decide +kernel
    have identity : sociable.config.identity = .ok sociable.identity := by decide +kernel
    simp only [withEcus, valid, identity]
    rfl
  refine ⟨fun network member => ?_, by decide +kernel, ?_⟩
  · have fails : ∀ network ∈ adverse,
        ((Station.mk sociable network).start 0).value.2 = .error (.system exhausted) ∨
          ((Station.mk sociable network).start 0).value.2 = .error (.system .addressInUse) := by
      decide +kernel
    have once := starts_once made (show (Station.mk sociable network).Possible [] from trivial)
    exact (fails network member).elim (once.traceless network 0 _) (once.traceless network 0 _)
  · have possible : (Station.mk sociable unwelcoming).Possible insisting := by decide +kernel
    have once := starts_once made possible
    have unready :
        ((Station.mk sociable unwelcoming).replay insisting).gateway.phase ≠ .created := by
      decide +kernel
    exact ⟨once.once, once.refused unready .new 5⟩

end Gateway

end DiagnosticGateway

import DiagnosticGateway.Proofs.Gateway.Requests

/-!
# Answers to testers

A reader answers every frame on its own connection: an invalid one is refused, a routing activation
request gets its decision, a diagnostic message is acknowledged or refused, and nothing else is
answered. What it does about the frame queues nothing else there. The decision about a routing
activation request may have to wait, and then the reader waits for it.
-/

namespace DiagnosticGateway

open Log

namespace Gateway

/-- The answer to a diagnostic message that arrives on a connection. -/
def acknowledgement (connection : ConnectionId) (body : Wire.Diagnostic) (gateway : Gateway) :
    Wire.Message :=
  if gateway.registry.pool.sourceAddress connection = some body.sourceAddress then
    if (gateway.targets body.targetAddress).isEmpty then
      .diagnosticNack body.targetAddress body.sourceAddress .unknownTargetAddress
    else .diagnosticAck body.targetAddress body.sourceAddress
  else .diagnosticNack body.targetAddress body.sourceAddress .invalidSourceAddress

/-- The answer to a routing activation request that was decided. -/
def activationAnswer (source : UInt16) (code : Wire.ActivationCode) (gateway : Gateway) :
    Wire.Message :=
  .activationResponse source gateway.identity.logicalAddress code

/-- The messages that answer what a frame holds. -/
def Answers (connection : ConnectionId) (content : Except Wire.Fault Wire.Message)
    (gateway : Gateway) (answers : List Wire.Message) : Prop :=
  match content with
  | .error fault => answers = [.genericNack fault.nackCode]
  | .ok (.routingActivationRequest body) =>
    ∃ code, answers = [gateway.activationAnswer body.sourceAddress code]
  | .ok (.diagnosticMessage body) => answers = [gateway.acknowledgement connection body]
  | .ok _ => answers = []

/-- Whether a frame that has got some answers costs its socket. Only a denial of some codes, a
foreign source address and some faults cost a socket. -/
def Closes (connection : ConnectionId) (content : Except Wire.Fault Wire.Message)
    (gateway : Gateway) (answers : List Wire.Message) : Prop :=
  match content with
  | .error fault => fault.closesSocket = true
  | .ok (.routingActivationRequest body) =>
    ∃ code, answers = [gateway.activationAnswer body.sourceAddress code] ∧
      code.keepsSocketOpen = false
  | .ok (.diagnosticMessage body) =>
    gateway.registry.pool.sourceAddress connection ≠ some body.sourceAddress
  | .ok _ => False

variable {gateway before after : Gateway} {connection : ConnectionId} {now : Milliseconds}
  {id : SocketId} {source : UInt16} {code : Wire.ActivationCode} {body : Wire.Diagnostic}

/-! ## What is queued about a message -/

/-- A message is queued on an open connection, and it is the only thing that is queued. -/
theorem posts_send (consistent : gateway.registry.pool.Consistent) (connection : ConnectionId)
    (message : Wire.Message) :
    posts (gateway.send connection message).events =
      if gateway.registry.pool.isOpen connection then [(connection, message)] else [] := by
  have sends : posts (gateway.registry.pool.send connection message).events = _ :=
    Pool.posts_send consistent message
  have same : posts (gateway.send connection message).events =
      posts (gateway.registry.pool.send connection message).events := by
    simp [send, Registry.send]
  rw [same, sends]

/-- Sending neither opens nor closes anything. A message goes into the queue of its connection and
changes no phase. -/
theorem isOpen_send (message : Wire.Message) (other : ConnectionId) :
    (gateway.send connection message).value.registry.pool.isOpen other =
      gateway.registry.pool.isOpen other := by
  have sent : (gateway.send connection message).value.registry.pool.get? other =
      (gateway.registry.pool.get? other).map fun found =>
        if other = connection then (found.send message).value.1 else found :=
    Pool.get?_change connection other _ (Connection.id_next 0 (.send message)) gateway.registry.pool
  unfold Pool.isOpen
  rw [sent]
  cases gateway.registry.pool.get? other with
  | none => rfl
  | some found =>
    rw [Option.map_some, Option.any_some, Option.any_some, Connection.send_value]
    split
    · split <;> rfl
    · rfl

/-- The answer to an activation is queued on the connection it is for, as long as that connection is
open. -/
theorem posts_answerActivation (consistent : gateway.registry.pool.Consistent) :
    posts (gateway.answerActivation connection source code).events =
      if gateway.registry.pool.isOpen connection then
        [(connection, gateway.activationAnswer source code)] else [] := by
  have sends := posts_send consistent connection (gateway.activationAnswer source code)
  rw [activationAnswer] at sends
  unfold answerActivation
  simp only [Logged.events_bind, posts_append, sends, activationAnswer]
  cases code.keepsSocketOpen <;> simp [Log.Event.post?]

/-- The code of the answer decides whether the socket stays open. -/
theorem answerActivation_value (connection : ConnectionId) (source : UInt16)
    (code : Wire.ActivationCode) (gateway : Gateway) :
    (gateway.answerActivation connection source code).value =
      ((gateway.send connection (gateway.activationAnswer source code)).value,
        if code.keepsSocketOpen then .proceed else .close) := by
  unfold answerActivation
  simp only [Logged.value_bind]
  split <;> rfl

/-- A fault in a frame is answered with the code that the fault has. -/
theorem posts_onInvalidFrame (consistent : gateway.registry.pool.Consistent) (fault : Wire.Fault) :
    posts (gateway.onInvalidFrame connection fault).events =
      if gateway.registry.pool.isOpen connection then
        [(connection, .genericNack fault.nackCode)] else [] := by
  have sends := posts_send consistent connection (.genericNack fault.nackCode)
  unfold onInvalidFrame
  simp [sends, Log.Event.post?]

/-- A diagnostic message is acknowledged or refused. Which of the two depends on the registered
address and the targets, and the handing over queues nothing. -/
theorem posts_onDiagnostic (consistent : gateway.registry.pool.Consistent)
    (body : Wire.Diagnostic) :
    posts (gateway.onDiagnostic connection body).events =
      if gateway.registry.pool.isOpen connection then
        [(connection, gateway.acknowledgement connection body)] else [] := by
  have sends := fun message => posts_send consistent connection message
  unfold onDiagnostic acknowledgement
  simp only [Logged.events_bind, posts_append]
  split
  · cases reached : gateway.targets body.targetAddress with
    | nil => simp [sends, Log.Event.post?]
    | cons first rest => simp [sends, Log.Event.post?]
  · simp [sends, Log.Event.post?]

/-- A diagnostic message from an address that is not the tester's own closes the connection, after
the refusal has been queued. -/
theorem onDiagnostic_value (connection : ConnectionId) (body : Wire.Diagnostic)
    (gateway : Gateway) :
    ((gateway.onDiagnostic connection body).value.2 =
        if gateway.registry.pool.sourceAddress connection = some body.sourceAddress then .proceed
        else .close) ∧
      (gateway.onDiagnostic connection body).value.1.registry =
        (gateway.send connection (gateway.acknowledgement connection body)).value.registry := by
  unfold onDiagnostic acknowledgement
  simp only [Logged.value_bind]
  split
  · cases reached : gateway.targets body.targetAddress with
    | nil => exact ⟨rfl, rfl⟩
    | cons first rest =>
      simp only [Logged.value_bind, forward_value]
      refine ⟨rfl, ?_⟩
      show (undergo _ _).registry = _
      rw [undergo_value]
      rfl
  · exact ⟨rfl, rfl⟩

/-- Data on a connection shows that the tester is there, and changes nothing that answers depend
on. -/
theorem dataReceived_same (connection other : ConnectionId) (now : Milliseconds)
    (registry : Registry) :
    (registry.dataReceived now connection).pool.sourceAddress other =
        registry.pool.sourceAddress other ∧
      (registry.dataReceived now connection).pool.isOpen other = registry.pool.isOpen other := by
  have found : (registry.dataReceived now connection).pool.get? other =
      (registry.pool.get? other).map fun found =>
        if other = connection then found.dataReceived now else found :=
    Pool.get?_update connection other _ (Connection.id_next now .dataReceived) _
  have same : ∀ connection : Connection,
      (connection.dataReceived now).sourceAddress = connection.sourceAddress ∧
        (connection.dataReceived now).isClosed = connection.isClosed := by
    intro connection
    unfold Connection.dataReceived
    split <;> exact ⟨rfl, rfl⟩
  unfold Pool.sourceAddress Pool.isOpen
  rw [found]
  cases registry.pool.get? other with
  | none => exact ⟨rfl, rfl⟩
  | some connection =>
    simp only [Option.map_some, Option.bind_some, Option.any_some]
    split
    · rw [(same connection).1, (same connection).2]
      exact ⟨rfl, rfl⟩
    · exact ⟨rfl, rfl⟩

/-! ## Decisions -/

end Gateway

namespace Registry

/-- A connection waits for the decision of a request. -/
def Awaits (number : RequestId) (connection : ConnectionId) (source : UInt16)
    (registry : Registry) : Prop :=
  ∃ request, registry.request? number = some request ∧ request.connection = connection ∧
    request.source = source ∧ registry.answer? number = none

/-- A request that is made is found under its number, undecided. The number it gets is the number of
requests so far, and nobody else has that. -/
theorem awaits_request {registry : Registry} (sound : registry.Sound) (connection : ConnectionId)
    (source : UInt16) :
    (registry.request connection source).1.Awaits registry.requests.length connection source := by
  have missing : registry.request? registry.requests.length = none := by
    cases found : registry.request? registry.requests.length with
    | none => rfl
    | some request => exact absurd (sound.numbered _ request found) (Nat.lt_irrefl _)
  have made : (registry.request connection source).1.request? registry.requests.length =
      some ⟨registry.requests.length, connection, source, .asked⟩ := by
    have outside : Action.IsOutside (.event (.request connection source)) := trivial
    have found : (registry.act ⟨0, .event (.request connection source)⟩).request?
        registry.requests.length = _ := request?_outside outside registry.requests.length
    rw [missing] at found
    refine found.trans ?_
    simp [Registry.made]
  refine ⟨_, made, rfl, rfl, ?_⟩
  rw [answer?, made]
  rfl

end Registry

namespace Gateway

variable {gateway : Gateway} {connection : ConnectionId} {now : Milliseconds}
  {number : RequestId} {source : UInt16}

/-- Whoever waits for a decision gets the answer on the connection, or waits on. The step asks
nothing of the connection itself and does not close it. -/
theorem pursueActivation_cases (now : Milliseconds) (sound : gateway.registry.Sound)
    (impartial : gateway.registry.Impartial)
    (awaits : gateway.registry.Awaits number connection source)
    (opened : gateway.registry.pool.isOpen connection = true) :
    let outcome := gateway.pursueActivation now connection number source
    outcome.value.1.registry.pool.isOpen connection = true ∧
      ((∃ code : Wire.ActivationCode,
          postedOn connection outcome.events = [gateway.activationAnswer source code] ∧
          outcome.value.2 = if code.keepsSocketOpen then .proceed else .close) ∨
        postedOn connection outcome.events = [] ∧ outcome.value.2 = .wait number source ∧
          outcome.value.1.registry.Awaits number connection source) := by
  intro outcome
  obtain ⟨request, found, rfl, rfl, -⟩ := awaits
  let advanced := { gateway with registry := (gateway.registry.advance now number).value }
  have advancedSound : advanced.registry.Sound :=
    Registry.sound_act ⟨now, .task (.request number)⟩ sound
  have stillOpen : advanced.registry.pool.isOpen request.connection = true :=
    Registry.isOpen_advance impartial found opened now
  have spared : postedOn request.connection (gateway.registry.advance now number).events = [] :=
    (Registry.spares_advance sound.consistent found).postedOn
  cases answered : (gateway.registry.advance now number).value.answer? number with
  | some code =>
    have value : outcome.value =
        (advanced.answerActivation request.connection request.source code).value := by
      simp only [outcome, pursueActivation, Logged.value_bind, answered, advanced]
    have events : outcome.events = (gateway.registry.advance now number).events ++
        (advanced.answerActivation request.connection request.source code).events := by
      simp only [outcome, pursueActivation, Logged.events_bind, answered, advanced]
    have posted : postedOn request.connection
        (advanced.answerActivation request.connection request.source code).events =
          [gateway.activationAnswer request.source code] := by
      rw [postedOn, posts_answerActivation advancedSound.consistent, if_pos stillOpen]
      simp
      rfl
    rw [value, events, answerActivation_value, postedOn_append, spared, posted]
    exact ⟨(isOpen_send _ _).trans stillOpen, Or.inl ⟨code, rfl, rfl⟩⟩
  | none =>
    have value : outcome.value = (advanced, .wait number request.source) := by
      simp only [outcome, pursueActivation, Logged.value_bind, answered, advanced]
      rfl
    have events : outcome.events = (gateway.registry.advance now number).events := by
      simp only [outcome, pursueActivation, Logged.events_bind, answered]
      exact List.append_nil _
    obtain ⟨stage, foundLater⟩ := Registry.request?_advance found now
    rw [value, events]
    exact ⟨stillOpen, Or.inr ⟨spared, rfl, _, foundLater, rfl, rfl, answered⟩⟩

/-! ## What comes of a frame -/

/-- How a reader goes on after it has given some answers to a frame. -/
inductive Reacts (connection : ConnectionId) (content : Except Wire.Fault Wire.Message)
    (gateway : Gateway) (answers : List Wire.Message) (registry : Registry) : Flow → Prop
  /-- The frame is answered, and the socket survives it. -/
  | proceeds (answered : gateway.Answers connection content answers)
      (survives : ¬ gateway.Closes connection content answers) :
      Reacts connection content gateway answers registry .proceed
  /-- The frame is answered, and it costs the socket. -/
  | closes (answered : gateway.Answers connection content answers)
      (closes : gateway.Closes connection content answers) :
      Reacts connection content gateway answers registry .close
  /-- It is a routing activation request, and its decision has to wait. -/
  | waits {body : Wire.ActivationRequest} {number : RequestId}
      (activation : content = .ok (.routingActivationRequest body)) (unanswered : answers = [])
      (awaits : registry.Awaits number connection body.sourceAddress) :
      Reacts connection content gateway answers registry (.wait number body.sourceAddress)

/-- Whether a diagnostic message is acknowledged depends on the ECUs and on the address that is
registered on the connection. -/
theorem acknowledgement_congr {other : Gateway} (ecus : other.ecus = gateway.ecus)
    (address : other.registry.pool.sourceAddress connection =
      gateway.registry.pool.sourceAddress connection) (body : Wire.Diagnostic) :
    other.acknowledgement connection body = gateway.acknowledgement connection body := by
  unfold acknowledgement targets
  rw [address, ecus]

/-- Answers and their costs depend on the identity of the gateway, its ECUs and the address that is
registered on the connection. -/
theorem Reacts.congr {other : Gateway} {content : Except Wire.Fault Wire.Message}
    {answers : List Wire.Message} {registry : Registry} {flow : Flow}
    (reacts : Reacts connection content other answers registry flow)
    (identity : other.identity = gateway.identity) (ecus : other.ecus = gateway.ecus)
    (address : other.registry.pool.sourceAddress connection =
      gateway.registry.pool.sourceAddress connection) :
    Reacts connection content gateway answers registry flow := by
  have acknowledgement := acknowledgement_congr ecus address
  have activation : ∀ source code, other.activationAnswer source code =
      gateway.activationAnswer source code := by
    intro source code
    simp only [activationAnswer, identity]
  have answered : other.Answers connection content answers →
      gateway.Answers connection content answers := by
    unfold Answers
    simp only [acknowledgement, activation]
    exact id
  have closes : other.Closes connection content answers ↔
      gateway.Closes connection content answers := by
    unfold Closes
    simp only [activation, address]
  cases reacts with
  | proceeds given survives => exact .proceeds (answered given) fun costs => survives (closes.mpr costs)
  | closes given costs => exact .closes (answered given) (closes.mp costs)
  | waits activation unanswered awaits => exact .waits activation unanswered awaits

/-- A routing activation request that is decided is answered, and its code says whether the socket
survives. -/
theorem reacts_of_code (registry : Registry) (gateway : Gateway) (connection : ConnectionId)
    (body : Wire.ActivationRequest) (code : Wire.ActivationCode) :
    Reacts connection (.ok (.routingActivationRequest body)) gateway
      [gateway.activationAnswer body.sourceAddress code] registry
      (if code.keepsSocketOpen then .proceed else .close) := by
  have answered : gateway.Answers connection (.ok (.routingActivationRequest body))
      [gateway.activationAnswer body.sourceAddress code] := ⟨code, rfl⟩
  cases keeps : code.keepsSocketOpen with
  | true =>
    refine .proceeds answered ?_
    rintro ⟨other, same, closes⟩
    obtain rfl : code = other := by
      simpa [activationAnswer, Wire.Message.activationResponse] using same
    rw [keeps] at closes
    cases closes
  | false => exact .closes answered ⟨code, rfl, keeps⟩

/-- An activation request on an open connection is answered with a code or waits for one, and does
nothing else to the connection. -/
theorem onActivation_reacts (sound : gateway.registry.Sound)
    (impartial : gateway.registry.Impartial)
    (opened : gateway.registry.pool.isOpen connection = true) (body : Wire.ActivationRequest) :
    let outcome := gateway.onActivation now connection body
    outcome.value.1.registry.pool.isOpen connection = true ∧
      Reacts connection (.ok (.routingActivationRequest body)) gateway
        (postedOn connection outcome.events) outcome.value.1.registry outcome.value.2 := by
  intro outcome
  by_cases supported : body.activationType.isSupported = true
  · let asked : Registry.Occurrence := ⟨now, .event (.request connection body.sourceAddress)⟩
    let made := { gateway with registry := (gateway.registry.request connection
      body.sourceAddress).1 }
    have madeSound : made.registry.Sound := Registry.sound_act asked sound
    have madeImpartial : made.registry.Impartial := impartial.act sound.consistent asked
    obtain ⟨stays, cases⟩ := pursueActivation_cases now madeSound madeImpartial
      (Registry.awaits_request sound connection body.sourceAddress) opened
    have step : outcome = made.pursueActivation now connection gateway.registry.requests.length
        body.sourceAddress := by
      simp only [outcome, onActivation, if_pos supported]
      rfl
    rw [step]
    refine ⟨stays, ?_⟩
    rcases cases with ⟨code, answers, flow⟩ | ⟨answers, flow, awaits⟩
    · rw [answers, flow]
      exact reacts_of_code _ gateway connection body code
    · rw [answers, flow]
      exact .waits rfl rfl awaits
  · have step : outcome = (do
        Logged.log (.unsupportedActivation connection body.activationType)
        gateway.answerActivation connection body.sourceAddress
          .deniedUnsupportedActivationType) := by
      simp only [outcome, onActivation, if_neg supported]
    have answers : postedOn connection outcome.events =
        [gateway.activationAnswer body.sourceAddress .deniedUnsupportedActivationType] := by
      rw [step, postedOn]
      simp [posts_answerActivation sound.consistent, opened, Log.Event.post?]
    rw [answers, step, Logged.value_bind, answerActivation_value]
    exact ⟨(isOpen_send _ _).trans opened, reacts_of_code _ gateway connection body _⟩

/-- A diagnostic message on an open connection is acknowledged, positively or negatively, by the one
message that is queued. -/
theorem onDiagnostic_reacts (consistent : gateway.registry.pool.Consistent)
    (opened : gateway.registry.pool.isOpen connection = true) (body : Wire.Diagnostic) :
    let outcome := gateway.onDiagnostic connection body
    outcome.value.1.registry.pool.isOpen connection = true ∧
      Reacts connection (.ok (.diagnosticMessage body)) gateway
        (postedOn connection outcome.events) outcome.value.1.registry outcome.value.2 := by
  intro outcome
  obtain ⟨flow, registry⟩ := onDiagnostic_value connection body gateway
  have answers : postedOn connection outcome.events = [gateway.acknowledgement connection body] := by
    rw [postedOn, posts_onDiagnostic consistent, if_pos opened]
    simp
  rw [answers, flow, registry]
  refine ⟨(isOpen_send _ _).trans opened, ?_⟩
  split
  · rename_i registered
    exact .proceeds rfl fun closes => closes registered
  · rename_i unregistered
    exact .closes rfl unregistered

/-- A frame with a fault is answered with a negative acknowledge on an open connection.
Whether the connection is closed after it depends on the fault: some leave the reader at the
start of the next frame. -/
theorem onInvalidFrame_reacts (consistent : gateway.registry.pool.Consistent)
    (opened : gateway.registry.pool.isOpen connection = true) (fault : Wire.Fault) :
    let outcome := gateway.onInvalidFrame connection fault
    outcome.value.1.registry.pool.isOpen connection = true ∧
      Reacts connection (.error fault) gateway (postedOn connection outcome.events)
        outcome.value.1.registry outcome.value.2 := by
  intro outcome
  have answers : postedOn connection outcome.events = [.genericNack fault.nackCode] := by
    rw [postedOn, posts_onInvalidFrame consistent, if_pos opened]
    simp
  have value : outcome.value = ((gateway.send connection (.genericNack fault.nackCode)).value,
      if fault.closesSocket then .close else .proceed) := rfl
  rw [answers, value]
  refine ⟨(isOpen_send _ _).trans opened, ?_⟩
  cases closes : fault.closesSocket with
  | true => exact .closes rfl closes
  | false =>
    refine .proceeds rfl fun costs => ?_
    have same : fault.closesSocket = true := costs
    rw [closes] at same
    cases same

/-- Whatever message comes in on an open connection, the reaction is one of those described above,
and the connection is still open when the reader goes on. -/
theorem onMessage_reacts (now : Milliseconds) (sound : gateway.registry.Sound)
    (impartial : gateway.registry.Impartial)
    (opened : gateway.registry.pool.isOpen connection = true) (message : Wire.Message) :
    let outcome := gateway.onMessage now connection message
    outcome.value.1.registry.pool.isOpen connection = true ∧
      Reacts connection (.ok message) gateway (postedOn connection outcome.events)
        outcome.value.1.registry outcome.value.2 := by
  cases message with
  | routingActivationRequest body => exact onActivation_reacts sound impartial opened body
  | diagnosticMessage body => exact onDiagnostic_reacts sound.consistent opened body
  | aliveCheckResponse source =>
    intro outcome
    have silent : postedOn connection outcome.events = [] :=
      postedOn_of_silent (by simp [outcome, onMessage, Registry.aliveResponse])
    rw [silent]
    exact ⟨opened, .proceeds rfl id⟩
  | _ => exact ⟨opened, .proceeds rfl id⟩

/-- A frame on an open connection is answered or waits, and the connection stays open meanwhile. The
frame counts as data first, which restarts the timer of a registered connection; the answer comes
after that. -/
theorem onFrame_reacts (now : Milliseconds) (sound : gateway.registry.Sound)
    (impartial : gateway.registry.Impartial)
    (opened : gateway.registry.pool.isOpen connection = true)
    (content : Except Wire.Fault Wire.Message) :
    let outcome := gateway.onFrame now connection content
    outcome.value.1.registry.pool.isOpen connection = true ∧
      Reacts connection content gateway (postedOn connection outcome.events)
        outcome.value.1.registry outcome.value.2 := by
  let received : Registry.Occurrence := ⟨now, .event (.dataReceived connection)⟩
  let active := { gateway with registry := gateway.registry.dataReceived now connection }
  have activeSound : active.registry.Sound := Registry.sound_act received sound
  have activeImpartial : active.registry.Impartial := impartial.act sound.consistent received
  obtain ⟨address, same⟩ := dataReceived_same connection connection now gateway.registry
  have activeOpen : active.registry.pool.isOpen connection = true := same.trans opened
  cases content with
  | ok message =>
    obtain ⟨stays, given⟩ := onMessage_reacts now activeSound activeImpartial activeOpen
      message
    exact ⟨stays, given.congr rfl rfl address⟩
  | error fault =>
    obtain ⟨stays, given⟩ := onInvalidFrame_reacts activeSound.consistent activeOpen fault
    exact ⟨stays, given.congr rfl rfl address⟩

end Gateway

end DiagnosticGateway

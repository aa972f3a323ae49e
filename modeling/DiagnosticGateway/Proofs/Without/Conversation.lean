import DiagnosticGateway.Proofs.Gateway.Attendance
import DiagnosticGateway.Proofs.Without.Gateway

/-!
# Messages without strangers

What a gateway answers to a message, and which ECUs it hands a request to, is decided by the
registered addresses. A stranger has none: it may be refused, but its messages reach no ECU, and
the image of the gateway does not change. The message of another tester is answered in the image as
it is in the gateway.
-/

namespace DiagnosticGateway

/-- The payload asks for routing to be activated, and in a way that is supported. -/
def Wire.Message.isSupportedActivation : Wire.Message → Bool
  | .routingActivationRequest body => body.activationType.isSupported
  | _ => false

namespace Gateway

/-- A message is answered in the same way in the image, and reading goes on as it does there. -/
def AnswersLike (strangers : Strangers) (outcome image : Gateway × Flow) : Prop :=
  outcome.1.LooksLike strangers image.1 ∧ image.2 = outcome.2

/-- Nothing is seen of an answer, and no decision is waited for. -/
def AnswersUnseen (strangers : Strangers) (outcome : Gateway × Flow) (image : Gateway) : Prop :=
  outcome.1.LooksLike strangers image ∧ ∀ request source, outcome.2 ≠ .wait request source

variable {strangers : Strangers} {gateway image : Gateway} {connection : ConnectionId}

/-- The image goes by the same identity, whose VIN and addresses are in the answers. -/
theorem LooksLike.identity (alike : gateway.LooksLike strangers image) :
    image.identity = gateway.identity := by
  rw [alike.image]
  rfl

/-- The image has the ECUs of the gateway, in the states they are in. -/
theorem LooksLike.ecus (alike : gateway.LooksLike strangers image) : image.ecus = gateway.ecus := by
  rw [alike.image]
  rfl

/-- The image has the configuration of the gateway, and so the same limits. -/
theorem LooksLike.config (alike : gateway.LooksLike strangers image) :
    image.config = gateway.config := by
  rw [alike.image]
  rfl

/-- A tester that is no stranger is registered in the image under the address it has. -/
theorem LooksLike.sourceAddress (alike : gateway.LooksLike strangers image)
    (known : strangers.connections connection = false) :
    image.registry.pool.sourceAddress (place strangers.connections connection) =
      gateway.registry.pool.sourceAddress connection := by
  rw [alike.image]
  exact Pool.sourceAddress_without known gateway.registry.pool

/-! ## ECUs -/

/-- The ECUs know nothing of connections. -/
theorem LooksLike.changeEcu (alike : gateway.LooksLike strangers image) (index : Nat)
    (event : Ecu.Event) :
    (gateway.changeEcu index event).value.LooksLike strangers
      (image.changeEcu index event).value := by
  obtain ⟨overlooks, fits, rfl⟩ := alike
  rw [changeEcu_value, changeEcu_value]
  exact ⟨overlooks, fits, rfl⟩

/-- What the ECUs go through they go through in the image as well. -/
theorem LooksLike.undergo (alike : gateway.LooksLike strangers image)
    (events : List (Nat × Ecu.Event)) :
    (gateway.undergo events).LooksLike strangers (image.undergo events) := by
  induction events generalizing gateway image with
  | nil => exact alike
  | cons entry rest inductionHypothesis =>
    exact inductionHypothesis (alike.changeEcu entry.1 entry.2)

/-! ## Messages of others -/

/-- A message to a tester that is no stranger goes to its place in the image. -/
theorem LooksLike.send (alike : gateway.LooksLike strangers image)
    (known : strangers.connections connection = false) (message : Wire.Message) :
    (gateway.send connection message).value.LooksLike strangers
      (image.send (place strangers.connections connection) message).value := by
  refine alike.act ⟨0, .event (.send connection message)⟩ fun id concerns => ?_
  obtain rfl := Option.some.inj concerns
  exact known

/-- The answer to an activation is the same in the image, and so is whether reading goes on. -/
theorem LooksLike.answerActivation (alike : gateway.LooksLike strangers image)
    (known : strangers.connections connection = false) (source : UInt16)
    (code : Wire.ActivationCode) :
    AnswersLike strangers (gateway.answerActivation connection source code).value
      (image.answerActivation (place strangers.connections connection) source code).value := by
  have answered := alike.send known
    (.activationResponse source gateway.identity.logicalAddress code)
  unfold Gateway.answerActivation
  rw [alike.identity]
  simp only [Logged.value_bind]
  split <;> exact ⟨answered, rfl⟩

/-- A request goes on in the image as it does in the gateway: the same connections are asked, and
they give the same signs of life. -/
theorem LooksLike.pursueActivation (alike : gateway.LooksLike strangers image)
    (known : strangers.connections connection = false) (now : Milliseconds) (request : RequestId)
    (source : UInt16) :
    AnswersLike strangers (gateway.pursueActivation now connection request source).value
      (image.pursueActivation now (place strangers.connections connection) request
        source).value := by
  have advanced := alike.act ⟨now, .task (.request request)⟩ fun id concerns => by cases concerns
  have decided : (image.registry.act ⟨now, .task (.request request)⟩).answer? request =
      (gateway.registry.act ⟨now, .task (.request request)⟩).answer? request := by
    have same := Registry.answer?_without strangers.connections request
      (gateway.registry.act ⟨now, .task (.request request)⟩)
    have registry := congrArg Gateway.registry advanced.image
    exact (congrArg (Registry.answer? request) registry).trans same
  rw [pursueActivation_value, pursueActivation_value, decided]
  cases (gateway.registry.act ⟨now, .task (.request request)⟩).answer? request with
  | none => exact ⟨advanced, rfl⟩
  | some code => exact advanced.answerActivation known source code

/-- An activation request gets the same number in the image, since strangers make no requests. Its
first step is taken there as well, and what it decides is the same. -/
theorem LooksLike.onActivation (alike : gateway.LooksLike strangers image)
    (known : strangers.connections connection = false) (now : Milliseconds)
    (body : Wire.ActivationRequest) :
    AnswersLike strangers (gateway.onActivation now connection body).value
      (image.onActivation now (place strangers.connections connection) body).value := by
  unfold Gateway.onActivation
  split
  · have made := alike.act ⟨now, .event (.request connection body.sourceAddress)⟩
      fun id concerns => by
        obtain rfl := Option.some.inj concerns
        exact known
    have number : image.registry.requests.length = gateway.registry.requests.length := by
      rw [alike.image]
      exact List.length_map _
    have pursued := made.pursueActivation known now gateway.registry.requests.length
      body.sourceAddress
    show AnswersLike strangers _ ({ image with
      registry := (image.registry.request _ body.sourceAddress).1 }.pursueActivation now _
        image.registry.requests.length body.sourceAddress).value
    rw [number]
    exact pursued
  · exact alike.answerActivation known _ _

/-- A diagnostic message is put to the same ECUs and acknowledged in the same way. The address it is
judged by is that of its own connection, and the ECUs are those of the image. -/
theorem LooksLike.onDiagnostic (alike : gateway.LooksLike strangers image)
    (known : strangers.connections connection = false) (body : Wire.Diagnostic) :
    AnswersLike strangers (gateway.onDiagnostic connection body).value
      (image.onDiagnostic (place strangers.connections connection) body).value := by
  have targets : image.targets body.targetAddress = gateway.targets body.targetAddress := by
    rw [Gateway.targets, alike.ecus]
    rfl
  unfold Gateway.onDiagnostic
  simp only [Logged.value_bind, alike.sourceAddress known, targets]
  split
  · cases reached : gateway.targets body.targetAddress with
    | nil => exact ⟨alike.send known _, rfl⟩
    | cons first rest =>
      have sent := alike.send known (.diagnosticAck body.targetAddress body.sourceAddress)
      refine ⟨?_, rfl⟩
      show LooksLike strangers (Gateway.forward body (first :: rest) _).value
        (Gateway.forward body (first :: rest) _).value
      rw [forward_value, forward_value]
      exact sent.undergo _
  · exact ⟨alike.send known _, rfl⟩

/-- Any message of a tester that is no stranger is answered alike. All other messages are only
logged. -/
theorem LooksLike.onMessage (alike : gateway.LooksLike strangers image)
    (known : strangers.connections connection = false) (now : Milliseconds)
    (message : Wire.Message) :
    AnswersLike strangers (gateway.onMessage now connection message).value
      (image.onMessage now (place strangers.connections connection) message).value := by
  cases message with
  | routingActivationRequest body => exact alike.onActivation known now body
  | aliveCheckResponse source =>
    refine ⟨alike.act ⟨now, .event (.aliveResponse connection source)⟩ fun id concerns => ?_, rfl⟩
    obtain rfl := Option.some.inj concerns
    exact known
  | diagnosticMessage body => exact alike.onDiagnostic known body
  | _ => exact ⟨alike, rfl⟩

/-- As `LooksLike.onMessage`, for a frame that may have a fault. -/
theorem LooksLike.onFrame (alike : gateway.LooksLike strangers image)
    (known : strangers.connections connection = false) (now : Milliseconds)
    (content : Except Wire.Fault Wire.Message) :
    AnswersLike strangers (gateway.onFrame now connection content).value
      (image.onFrame now (place strangers.connections connection) content).value := by
  have received := alike.act ⟨now, .event (.dataReceived connection)⟩ fun id concerns => by
    obtain rfl := Option.some.inj concerns
    exact known
  cases content with
  | ok message => exact received.onMessage known now message
  | error fault => exact ⟨received.send known (.genericNack fault.nackCode), rfl⟩

/-! ## Messages of strangers -/

/-- A message to a stranger leaves nothing behind that the image would have. -/
theorem LooksLike.send_of_strange (alike : gateway.LooksLike strangers image)
    (stranger : strangers.connections connection = true) (message : Wire.Message) :
    (gateway.send connection message).value.LooksLike strangers image :=
  alike.act_of_strange ⟨0, .event (.send connection message)⟩ rfl stranger (by simp)

/-- A message of a stranger is no request to be registered, and it hands nothing to an ECU.
Strangers are not registered, so a diagnostic message is refused; the refusal is queued where
nobody looks. -/
theorem LooksLike.onMessage_of_strange (alike : gateway.LooksLike strangers image)
    (stranger : strangers.connections connection = true) (now : Milliseconds)
    {message : Wire.Message} (harmless : message.isSupportedActivation = false) :
    AnswersUnseen strangers (gateway.onMessage now connection message).value image := by
  cases message with
  | routingActivationRequest body =>
    have unsupported : ¬ body.activationType.isSupported = true := by
      simpa [Wire.Message.isSupportedActivation] using harmless
    have answered := alike.send_of_strange stranger (.activationResponse body.sourceAddress
      gateway.identity.logicalAddress .deniedUnsupportedActivationType)
    refine ⟨?_, ?_⟩
    · simp only [Gateway.onMessage, Gateway.onActivation, if_neg unsupported, Logged.value_bind,
        Gateway.answerActivation]
      split <;> exact answered
    · intro request source
      simp only [Gateway.onMessage, Gateway.onActivation, if_neg unsupported, Logged.value_bind,
        Gateway.answerActivation]
      split <;> simp
  | aliveCheckResponse source =>
    refine ⟨?_, by simp [Gateway.onMessage]⟩
    exact alike.act_of_strange ⟨now, .event (.aliveResponse connection source)⟩ rfl stranger
      (by simp)
  | diagnosticMessage body =>
    have unregistered := alike.registry.unregistered connection stranger
    have refused : ¬ gateway.registry.pool.sourceAddress connection = some body.sourceAddress := by
      rw [unregistered]
      simp
    simp only [Gateway.onMessage, Gateway.onDiagnostic, Logged.value_bind, if_neg refused]
    exact ⟨alike.send_of_strange stranger _, by simp⟩
  | _ => exact ⟨alike, by simp [Gateway.onMessage]⟩

/-- A stranger's frame that is no supported activation request goes unseen: its answer is queued for
the stranger, and no request of the registry is made for it. -/
theorem LooksLike.onFrame_of_strange (alike : gateway.LooksLike strangers image)
    (stranger : strangers.connections connection = true) (now : Milliseconds)
    {content : Except Wire.Fault Wire.Message}
    (harmless : ∀ message, content = .ok message → message.isSupportedActivation = false) :
    AnswersUnseen strangers (gateway.onFrame now connection content).value image := by
  have received := alike.act_of_strange ⟨now, .event (.dataReceived connection)⟩ rfl stranger
    (by simp)
  cases content with
  | ok message => exact received.onMessage_of_strange stranger now (harmless message rfl)
  | error fault =>
    refine ⟨received.send_of_strange stranger (.genericNack fault.nackCode), ?_⟩
    intro request source
    show (if fault.closesSocket then Flow.close else Flow.proceed) ≠ .wait request source
    split <;> simp

end Gateway

end DiagnosticGateway

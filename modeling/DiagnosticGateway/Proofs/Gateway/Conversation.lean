import DiagnosticGateway.Proofs.Gateway.Deafness
import DiagnosticGateway.Proofs.Gateway.Dialogue

/-!
# Conversations

What a tester and a gateway say to each other on one connection, as far as nobody else closes it:
the frames of the tester in the order of its stream, each with its direct answer, up to the first
one that costs the socket.
-/

namespace DiagnosticGateway

open Log

namespace Station

open Gateway

/-- What a tester and a gateway have said to each other on the connection of a socket. It is told
from the side of the stream: which frames were taken, what was answered to each, and what is left
unread at the end. -/
structure Conversation (id : SocketId) (connection : ConnectionId) (socket : Socket)
    (history : History) (station : Station) : Prop where
  /-- The frames are taken in the order of the stream. What was not taken waits to be read. -/
  ordered : Wire.Takes station.gateway.config.maxDataSize (station.stream id history)
    ((station.exchanges id history).map Exchange.content) socket.incoming
  /-- What was queued about the frames is all that was queued, but for requests for signs of life
  and responses of ECUs. -/
  answered : (postedOn connection (station.log history)).filter Wire.Message.isReply =
    (station.exchanges id history).flatMap Exchange.answers
  /-- One frame is answered after the other. The first one that costs the socket is the last one,
  its answer is the last message on the connection, and the connection is closed. -/
  standing : Standing connection (station.exchanges id history)
    (postedOn connection (station.log history)) (station.EndsReading id history)
    (station.replay history).gateway.registry socket.reader
  /-- No whole frame waits to be read when no task can take a step, as long as the reader reads. -/
  complete : ∀ now, (station.replay history).gateway.enabled now = [] →
    socket.reader = .reading connection →
      Wire.Frame.read? station.gateway.config.maxDataSize socket.incoming = none
  /-- Once the reader has finished, nothing that the tester sends makes a difference any more. -/
  unheard : socket.reader = .finished → ∀ later, station.Unheard id history later

variable {station : Station} {history : History} {id : SocketId} {connection : ConnectionId}
  {socket : Socket}

/-- A reader that reads and cannot take a step has no whole frame before it. -/
theorem unread_of_quiescent {now : Milliseconds} (quiescent : station.gateway.enabled now = [])
    (found : station.gateway.sockets[id]? = some socket)
    (reads : socket.reader = .reading connection) :
    Wire.Frame.read? station.gateway.config.maxDataSize socket.incoming = none := by
  cases front : Wire.Frame.read? station.gateway.config.maxDataSize socket.incoming with
  | none => rfl
  | some frame =>
    have ready : station.gateway.canRead now socket = true := by
      simp [canRead, reads, Socket.inbound?, front]
    exact absurd ⟨socket, found, ready⟩ (not_able quiescent (.read id))

/-- Nobody begins again to read from a socket whose reader has finished. -/
theorem deaf_of_finished (unvisited : station.gateway.Unvisited)
    (found : (station.replay history).gateway.sockets[id]? = some socket)
    (finished : socket.reader = .finished) : (station.replay history).gateway.Deaf id where
  finished := ⟨socket, found, finished⟩
  unlisted := by
    intro listed
    obtain ⟨same, foundSame, waits⟩ := (assigned_replay unvisited history).waiting id listed
    obtain rfl := Option.some.inj (foundSame.symm.trans found)
    rw [finished] at waits
    cases waits

/-- An action is decided by its task. -/
instance Action.decidableTask (action : Action) (task : Task) : Decidable (action = .task task) :=
  match action with
  | .event _ => .isFalse (by simp)
  | .task other => decidable_of_iff (other = task) (by simp)

instance Unhindered.decidable (id : SocketId) (connection : ConnectionId) (history : History)
    (station : Station) : Decidable (station.Unhindered id connection history) :=
  inferInstanceAs (Decidable (∀ scene ∈ station.scenes history,
    scene.occurrence.action ≠ .task (.read id) →
      scene.before.gateway.registry.pool.isOpen connection = true →
        scene.after.gateway.registry.pool.isOpen connection = true))

end Station

namespace Gateway

open Station

/-- Whatever a tester sends, in whatever pieces it arrives and whatever else happens, as long as
nothing but its own reader closes its connection: the frames of its stream are taken in their order
and one at a time, and each has got exactly its direct answer before the next one is taken. The
first frame that costs the socket is answered and is the last one to be taken; its answer is the
last message that is ever queued on the connection, the connection is closed, and no byte that
follows makes a difference. -/
theorem conversation_in_order {library : Pattern.Library} {config : GatewayConfig} {ecus : List Ecu}
    {gateway : Gateway} {network : Net.Network} {history : History} {id : SocketId}
    {connection : ConnectionId} {socket : Socket}
    (made : withEcus library config ecus = .ok gateway)
    (possible : (Station.mk gateway network).Possible history)
    (owns : (Station.mk gateway network).connectionOf id history = some connection)
    (unhindered : (Station.mk gateway network).Unhindered id connection history)
    (found : ((Station.mk gateway network).replay history).gateway.sockets[id]? = some socket) :
    Conversation id connection socket history (Station.mk gateway network) := by
  let station := Station.mk gateway network
  have unvisited : station.gateway.Unvisited := unvisited_withEcus made
  refine ⟨?_, possible.answers unvisited connection unhindered owns,
    possible.standing unvisited connection socket unhindered owns found, ?_, ?_⟩
  · have takes := takes_replay unvisited id history
    rwa [unread, found] at takes
  · intro now quiescent reads
    have config := config_replay history station
    have empty := unread_of_quiescent quiescent found reads
    rwa [config] at empty
  · intro finished later
    exact unheard_of_deaf (deaf_of_finished unvisited found finished) later

/-- After the exchange the tester sends a header with a broken version pattern, and some more. -/
def farewell : History :=
  exchange ++ [
    ⟨0, .event (.deliver 0 [0x02, 0x02, 0x80, 0x01, 0, 0, 0, 0, 0x02, 0xFD])⟩,
    ⟨0, .task (.read 0)⟩]

/-- The broken header is refused, the connection is closed, and the rest stays unread. Two bytes
stand behind the broken header, and they are still there when nothing is left to be done. -/
theorem conversation_in_order_farewell :
    ∃ socket, ((Station.mk demonstration .new).replay farewell).gateway.sockets[0]? = some socket ∧
      socket.reader = .finished ∧ socket.incoming = [0x02, 0xFD] ∧
      Conversation 0 1 socket farewell (Station.mk demonstration .new) := by
  have possible : (Station.mk demonstration .new).Possible farewell := by decide +kernel
  have owns : (Station.mk demonstration .new).connectionOf 0 farewell = some 1 := by decide +kernel
  have unhindered : (Station.mk demonstration .new).Unhindered 0 1 farewell := by decide +kernel
  obtain ⟨socket, found⟩ : ∃ socket,
      ((Station.mk demonstration .new).replay farewell).gateway.sockets[0]? = some socket :=
    Option.isSome_iff_exists.mp (by decide +kernel)
  have ended : (((Station.mk demonstration .new).replay farewell).gateway.sockets[0]?).map
      (fun socket => (socket.reader, socket.incoming)) = some (.finished, [0x02, 0xFD]) := by
    decide +kernel
  rw [found] at ended
  obtain ⟨reader, incoming⟩ := Prod.mk.inj (Option.some.inj ended)
  exact ⟨socket, found, reader, incoming,
    conversation_in_order demonstration_made possible owns unhindered found⟩

end Gateway

end DiagnosticGateway

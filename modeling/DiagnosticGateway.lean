import DiagnosticGateway.Config.OfToml
import DiagnosticGateway.Connection.Run
import DiagnosticGateway.Log.Line
import DiagnosticGateway.Simulation.AliveCheckBench
import DiagnosticGateway.Simulation.ConnectionBench
import DiagnosticGateway.Simulation.EcuBench
import DiagnosticGateway.Simulation.Engine.Library
import DiagnosticGateway.Simulation.Folder
import DiagnosticGateway.Simulation.GatewayBench
import DiagnosticGateway.Proofs.Connection.Lookup
import DiagnosticGateway.Proofs.Connection.Watched
import DiagnosticGateway.Proofs.Connection.Probing
import DiagnosticGateway.Proofs.AliveCheck.Asking
import DiagnosticGateway.Proofs.Registry.History
import DiagnosticGateway.Proofs.Registry.Outside
import DiagnosticGateway.Proofs.Registry.Move
import DiagnosticGateway.Proofs.Registry.Soundness
import DiagnosticGateway.Proofs.Registry.Session
import DiagnosticGateway.Proofs.Registry.Hearing
import DiagnosticGateway.Proofs.Registry.Placement
import DiagnosticGateway.Proofs.Registry.UniqueAddress
import DiagnosticGateway.Proofs.Registry.Capacity
import DiagnosticGateway.Proofs.Registry.Waiting
import DiagnosticGateway.Proofs.Registry.Ruling
import DiagnosticGateway.Proofs.Registry.ActivationRule
import DiagnosticGateway.Proofs.Registry.Upkeep
import DiagnosticGateway.Proofs.Connection.Renewal
import DiagnosticGateway.Proofs.Registry.ResponsiveTester
import DiagnosticGateway.Proofs.AliveCheck.Course
import DiagnosticGateway.Proofs.AliveCheck.Conduct
import DiagnosticGateway.Proofs.AliveCheck.Outcome
import DiagnosticGateway.Proofs.Ecu.Balance
import DiagnosticGateway.Proofs.Ecu.Service
import DiagnosticGateway.Proofs.Ecu.Response
import DiagnosticGateway.Proofs.Gateway.History
import DiagnosticGateway.Proofs.Registry.Succession
import DiagnosticGateway.Proofs.Gateway.Traffic
import DiagnosticGateway.Proofs.Gateway.Activity
import DiagnosticGateway.Proofs.Gateway.Proceeding
import DiagnosticGateway.Proofs.Gateway.Attendance
import DiagnosticGateway.Proofs.Gateway.Life
import DiagnosticGateway.Proofs.Gateway.Conservation
import DiagnosticGateway.Proofs.Without.Connections
import DiagnosticGateway.Proofs.Without.Checks
import DiagnosticGateway.Proofs.Without.Registry
import DiagnosticGateway.Proofs.Without.Actions
import DiagnosticGateway.Proofs.Without.Gateway
import DiagnosticGateway.Proofs.Without.Conversation
import DiagnosticGateway.Proofs.Without.Reading
import DiagnosticGateway.Proofs.Without.Life
import DiagnosticGateway.Proofs.Without.Station
import DiagnosticGateway.Proofs.Without.Occurrences
import DiagnosticGateway.Proofs.Gateway.Chronicle
import DiagnosticGateway.Proofs.Wire.Stream
import DiagnosticGateway.Proofs.Without.Chronicle
import DiagnosticGateway.Proofs.Gateway.Intake
import DiagnosticGateway.Proofs.Without.Interference
import DiagnosticGateway.Proofs.Without.Turns
import DiagnosticGateway.Proofs.Wire.CodeTable
import DiagnosticGateway.Proofs.Wire.Payload
import DiagnosticGateway.Proofs.Wire.Segment
import DiagnosticGateway.Proofs.Wire.Admission
import DiagnosticGateway.Proofs.Wire.Legible
import DiagnosticGateway.Proofs.Wire.RoundTrip
import DiagnosticGateway.Proofs.Gateway.Reception
import DiagnosticGateway.Proofs.Connection.Deadline
import DiagnosticGateway.Proofs.Connection.Posting
import DiagnosticGateway.Proofs.Registry.Posting
import DiagnosticGateway.Proofs.Gateway.Scenes
import DiagnosticGateway.Proofs.Gateway.Posting
import DiagnosticGateway.Proofs.Gateway.Sockets
import DiagnosticGateway.Proofs.Gateway.Requests
import DiagnosticGateway.Proofs.Gateway.Assignment
import DiagnosticGateway.Proofs.Gateway.Delivery
import DiagnosticGateway.Proofs.Gateway.Answers
import DiagnosticGateway.Proofs.Gateway.Exchanges
import DiagnosticGateway.Proofs.Gateway.Handling
import DiagnosticGateway.Proofs.Gateway.Deciding
import DiagnosticGateway.Proofs.Gateway.Senders
import DiagnosticGateway.Proofs.Gateway.Dialogue
import DiagnosticGateway.Proofs.Gateway.Hush
import DiagnosticGateway.Proofs.Gateway.Deafness
import DiagnosticGateway.Proofs.Gateway.Conversation
import DiagnosticGateway.Proofs.Ecu.Desk
import DiagnosticGateway.Proofs.Gateway.Tidings
import DiagnosticGateway.Proofs.Gateway.Provenance
import DiagnosticGateway.Proofs.Gateway.Isolation
import DiagnosticGateway.Proofs.Registry.Line
import DiagnosticGateway.Proofs.Registry.Serialization
import DiagnosticGateway.Proofs.Registry.Denial
import DiagnosticGateway.Proofs.Gateway.Openings
import DiagnosticGateway.Proofs.Gateway.Ceiling
import DiagnosticGateway.Proofs.Gateway.Stopping
import DiagnosticGateway.Proofs.Gateway.Mailbox
import DiagnosticGateway.Proofs.Gateway.AnswerLaw
import DiagnosticGateway.Proofs.Gateway.Silence
import DiagnosticGateway.Proofs.Ecu.Plain
import DiagnosticGateway.Proofs.Registry.Codes
import DiagnosticGateway.Proofs.Gateway.Legibility
import DiagnosticGateway.Proofs.Gateway.Emission
import DiagnosticGateway.Proofs.Gateway.Roster
import DiagnosticGateway.Proofs.Gateway.Bookkeeping
import DiagnosticGateway.Proofs.Wire.Grammar
import DiagnosticGateway.Proofs.Gateway.Agreement
import DiagnosticGateway.Proofs.Registry.Confinement
import DiagnosticGateway.Proofs.Gateway.Inactivity
import DiagnosticGateway.Proofs.Gateway.Starting
import DiagnosticGateway.Proofs.Gateway.Addressing
import DiagnosticGateway.Proofs.Ecu.InFlight
import DiagnosticGateway.Proofs.Registry.Vacancy
import DiagnosticGateway.Proofs.Connection.Reports
import DiagnosticGateway.Proofs.Pattern.Dialect
import DiagnosticGateway.Proofs.Pattern.Plain
import DiagnosticGateway.Proofs.Ecu.FirstMatch
import DiagnosticGateway.Proofs.Ecu.Containment

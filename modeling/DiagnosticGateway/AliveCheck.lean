import DiagnosticGateway.Connection.Pool

/-!
# Alive checks

An alive check asks a list of connections whether their testers are still there. It
subscribes to each open target and queues one request on it, waits, and then judges each
target by the reports that arrived: an address counts if it is the one that was registered
when the response came. A target without a counting report is closed.

The check is split at its wait. `begin` and `finish` are its two halves; how long the wait
lasts, and what happens on the connections meanwhile, is for the caller.
-/

namespace DiagnosticGateway

/-- An alive check that waits for responses. It knows its targets and subscriptions, and nothing of
the answers before its wait has ended. -/
structure AliveCheck where
  /-- The connections that are asked, in order and perhaps repeatedly. -/
  targets : List ConnectionId
  /-- The subscriptions that were made. -/
  subscriptions : List (ConnectionId × SubscriberId)
  /-- Where the reports are collected. -/
  mailbox : MailboxId
  /-- When the wait ends. -/
  deadline : Milliseconds
  deriving DecidableEq

namespace AliveCheck

/-- How long an alive check waits unless it is told otherwise. -/
def window : Milliseconds := 500

/-- The counting addresses of each target. -/
abbrev Responses := List (ConnectionId × List UInt16)

/-- Ask one target: subscribe to it and queue a request. A target that is closed takes no
subscription, and is not asked. -/
def askTarget (mailbox : MailboxId) (target : ConnectionId) (pool : Pool) :
    Logged (Pool × Option SubscriberId) := do
  let (pool, subscription) ← pool.ask target fun connection =>
    return connection.subscribe mailbox
  match subscription with
  | some (some id) => do
    let pool ← pool.send target .aliveCheckRequest
    Logged.log (.aliveCheckRequestSent target)
    return (pool, some id)
  | _ => do
    Logged.log (.aliveCheckTargetClosed target)
    return (pool, none)

/-- Ask every target in order. -/
def askTargets (mailbox : MailboxId) :
    List ConnectionId → Pool → Logged (Pool × List (ConnectionId × SubscriberId))
  | [], pool => return (pool, [])
  | target :: rest, pool => do
    let (pool, subscription) ← askTarget mailbox target pool
    let (pool, subscriptions) ← askTargets mailbox rest pool
    return (pool, (subscription.map fun id => (target, id)).toList ++ subscriptions)

/-- Start an alive check whose wait ends at `deadline`. -/
def begin (mailbox : MailboxId) (deadline : Milliseconds) (targets : List ConnectionId)
    (pool : Pool) : Logged (Pool × AliveCheck) := do
  let (pool, subscriptions) ← askTargets mailbox targets pool
  return (pool, ⟨targets, subscriptions, mailbox, deadline⟩)

/-- End the subscriptions of an alive check. -/
def unsubscribeAll (subscriptions : List (ConnectionId × SubscriberId)) (pool : Pool) : Pool :=
  subscriptions.foldl (fun pool entry => pool.update entry.1 (Connection.unsubscribe entry.2)) pool

/-- The counting addresses that one connection reported, in the order of their arrival. -/
def counting (reports : List AliveReport) (target : ConnectionId) : List UInt16 :=
  (reports.filter fun report => report.connection == target && report.confirms).map
    AliveReport.reported

/-- The responses of an alive check: one entry for each target. -/
def responses (targets : List ConnectionId) (reports : List AliveReport) : Responses :=
  targets.eraseDups.map fun target => (target, counting reports target)

/-- Log the reports that do not count. -/
def logIgnored : List AliveReport → Logged Unit
  | [] => return ()
  | report :: rest => do
    if !report.confirms then
      Logged.log (.aliveCheckResponseIgnored report.connection report.reported)
    logIgnored rest

/-- Close the targets that have no counting report. The targets are judged in order, each by the
reports that name its connection. -/
def closeSilent (reports : List AliveReport) : List ConnectionId → Pool → Logged Pool
  | [], pool => return pool
  | target :: rest, pool => do
    if (counting reports target).isEmpty then
      Logged.log (.aliveCheckSilent target)
      closeSilent reports rest (← pool.stop target)
    else
      closeSilent reports rest pool

/-- End an alive check with the reports that have arrived in its mailbox. The subscriptions end
first, so that no report can come after those that are judged. -/
def finish (interrupted : Bool) (reports : List AliveReport) (check : AliveCheck) (pool : Pool) :
    Logged (Pool × Responses) := do
  if interrupted then
    Logged.log (.aliveCheckInterrupted check.targets.length)
  let pool := unsubscribeAll check.subscriptions pool
  logIgnored reports
  let pool ← closeSilent reports check.targets pool
  return (pool, responses check.targets reports)

/-- Whether a connection reported an address that counts. -/
def Responses.confirms (responses : Responses) (target : ConnectionId) (source : UInt16) : Bool :=
  responses.any fun entry => entry.1 == target && entry.2.contains source

/-- The number of connections that answered. -/
def Responses.alive (responses : Responses) : Nat :=
  (responses.filter fun entry => !entry.2.isEmpty).length

end AliveCheck

/-- Reports that wait in mailboxes, oldest first. -/
abbrev Mail := List Delivery

/-- The reports in one mailbox. -/
def Mail.reports (mailbox : MailboxId) (mail : Mail) : List AliveReport :=
  (mail.filter fun delivery => delivery.mailbox == mailbox).map Delivery.report

/-- The mail without one mailbox. -/
def Mail.discard (mailbox : MailboxId) (mail : Mail) : Mail :=
  mail.filter fun delivery => delivery.mailbox != mailbox

end DiagnosticGateway

import WisdoverseCell.EventBus.Subscription

/-!
# Event loops on a server that fails

The event loop of a runtime consumes a subscription, calls its handler, publishes the results and sends a failed event
to the dead letters.  Every command may fail, before or after the server has carried it out, and every function keeps
its own error handling.  No step reads the histories of a `Log`.
-/

namespace WisdoverseCell.EventBus

/-! ### Replies and texts -/

/-- What becomes of a command that is sent to the server, or to the store of an outbox. -/
inductive Reply
  | done
  /-- It was carried out, but its caller sees an error. -/
  | lost
  | failed
  /-- An error before the command is sent, outside the error handling of the function that sends it. -/
  | raised
  deriving DecidableEq

def Reply.applied : Reply → Bool
  | .done | .lost => true
  | .failed | .raised => false

def Reply.run (reply : Reply) (command : Redis → Redis) (r : Redis) : Redis :=
  if reply.applied then command r else r

inductive FailureStage
  | handler
  | validation
  deriving DecidableEq

structure DeadLetter where
  originalEventId : Option String
  originalEventType : Option String
  rawEventData : Option (Nat × String)
  failedByAgent : String
  failureStage : FailureStage
  error : String
  deriving DecidableEq

structure Wire extends Bus where
  dumpEvent : Event → String
  dumpLetter : DeadLetter → String
  sha256 : String → String
  validationError : String → String

def cutError (error : String) : String := String.ofList (error.toList.take 2000)

def eventLetter (event : Event) (error agentId : String) : DeadLetter where
  originalEventId := some event.eventId
  originalEventType := some event.eventType
  rawEventData := none
  failedByAgent := agentId
  failureStage := .handler
  error := cutError error

def Wire.rawLetter (wire : Wire) (data agentId : String) : DeadLetter where
  originalEventId := none
  originalEventType := none
  rawEventData := some (data.utf8ByteSize, wire.sha256 data)
  failedByAgent := agentId
  failureStage := .validation
  error := cutError (wire.validationError data)

/-! ### States -/

inductive HandlerOutcome
  | returned (results : List Event)
  | raised (error : String)
  | timedOut

inductive LoopStage
  /-- Validate the message and look for the marker of a processed event. -/
  | check
  | publishRawDlq
  | claim (event : Event)
  | handle (event : Event)
  | publishDlq (event : Event) (error : String)
  /-- Publish, or stage in the outbox, the results that are left. -/
  | publish (event : Event) (results left : List Event)
  /-- The first of the results that are left is in the outbox; hand it to the bus. -/
  | relay (event : Event) (results : List Event) (out : Event) (left : List Event)
  | mark (event : Event)
  | unlock (event : Event)
  | ack

inductive LoopPhase
  | joining (left : List String)
  | claiming (left : List String) (claimed : List Message)
  | reading
  | delivering (message : Message) (stage : LoopStage) (left : List Message)

structure EventLoop where
  agentId : String
  consumer : String
  streams : List String
  outbox : Bool
  phase : LoopPhase

def EventLoop.group (loop : EventLoop) : String := groupName (some loop.agentId)

structure Handled where
  group : String
  event : Event
  results : List Event
  deriving DecidableEq

structure Ack where
  group : String
  message : Message
  deriving DecidableEq

structure Log where
  handled : List Handled
  published : List Event
  staged : List Event
  letters : List DeadLetter
  acks : List Ack
  deriving DecidableEq

def Log.empty : Log := ⟨[], [], [], [], []⟩

structure LoopSys where
  redis : Redis
  clock : Nat
  loops : List EventLoop
  log : Log

structure Answer where
  reply : Reply
  handler : HandlerOutcome
  evicted : Nat

inductive LoopAct
  | tick (ms : Nat)
  | publish (eventType data : String) (evicted : Nat)
  | expire (key : String)
  | start (agentId consumer : String) (eventTypes : List String) (outbox : Bool)
  | advance (i : Nat) (answer : Answer)
  | stop (i : Nat)

/-! ### The commands of a loop -/

structure LoopOutcome where
  redis : Redis
  loop : EventLoop
  log : Log

namespace EventLoop

variable (loop : EventLoop)

def next : List Message → EventLoop
  | [] => { loop with phase := .claiming loop.streams [] }
  | message :: left => { loop with phase := .delivering message .check left }

def claimed (messages : List Message) : EventLoop :=
  if messages = [] then { loop with phase := .reading } else loop.next messages

def retry : EventLoop := loop.next []

def restart : EventLoop := { loop with phase := .joining loop.streams }

end EventLoop

def EventLoop.at (loop : EventLoop) (message : Message) (stage : LoopStage) (left : List Message) : EventLoop :=
  { loop with phase := .delivering message stage left }

def Wire.eventLoop (wire : Wire) (agentId consumer : String) (eventTypes : List String) (outbox : Bool) : EventLoop :=
  let streams := (eventTypes.map wire.streamKey).eraseDups
  ⟨agentId, consumer, streams, outbox, .joining streams⟩

section

variable (wire : Wire) (r : Redis) (log : Log) (loop : EventLoop) (message : Message) (left : List Message)

def Wire.addLetter (letter : DeadLetter) (answer : Answer) : Redis × Log :=
  (answer.reply.run (fun r => r.xadd (wire.streamKey dlqFailed) (wire.dumpLetter letter) dlqMaxLength answer.evicted) r,
    if answer.reply.applied then { log with letters := log.letters ++ [letter] } else log)

def Wire.addEvent (out : Event) (answer : Answer) : Redis × Log :=
  (answer.reply.run (fun r => r.xadd (wire.streamKey out.eventType) (wire.dumpEvent out) wire.queueMaxLength
      answer.evicted) r,
    if answer.reply.applied then { log with published := log.published ++ [out] } else log)

/-- A text that is no event goes to the dead letters.  The lookup of the marker says no if it fails. -/
def Wire.check (answer : Answer) : LoopOutcome :=
  match wire.validateJson message.data with
  | none => ⟨r, loop.at message .publishRawDlq left, log⟩
  | some event =>
    if answer.reply = .done ∧ isProcessed wire.toBus r loop.group event.eventId = true then
      ⟨r, loop.at message .ack left, log⟩
    else ⟨r, loop.at message (.claim event) left, log⟩

/-- A write that fails is logged, and the message is acknowledged. -/
def Wire.publishRawDlq (answer : Answer) : LoopOutcome :=
  if answer.reply = .raised then ⟨r, loop.retry, log⟩
  else
    let (r', log') := wire.addLetter r log (wire.rawLetter message.data loop.group) answer
    ⟨r', loop.at message .ack left, log'⟩

def Wire.claimProcessing (event : Event) (answer : Answer) : LoopOutcome :=
  let key := wire.processingEventKey loop.group event.eventId
  match answer.reply, r.setNx key loop.consumer with
  | .done, none => ⟨r, loop.next left, log⟩
  | .done, some r' | .lost, some r' => ⟨r', loop.at message (.handle event) left, log⟩
  | .lost, none | .failed, _ | .raised, _ => ⟨r, loop.at message (.handle event) left, log⟩

def handleEvent (event : Event) (answer : Answer) : LoopOutcome :=
  match answer.handler with
  | .returned results =>
    ⟨r, loop.at message (.publish event results results) left,
      { log with handled := log.handled ++ [⟨loop.group, event, results⟩] }⟩
  | .raised error => ⟨r, loop.at message (.publishDlq event error) left, log⟩
  | .timedOut => ⟨r, loop.at message (.publishDlq event "TimeoutError: handler exceeded deadline") left, log⟩

/-- `_publish_to_dlq`: it says that the dead letters are not available only if `publish_dlq` raises, and `publish_dlq`
logs a write that fails. -/
def Wire.publishToDlq (event : Event) (error : String) (answer : Answer) : LoopOutcome :=
  if answer.reply = .raised then ⟨r, loop.restart, log⟩
  else
    let (r', log') := wire.addLetter r log (eventLetter event error loop.agentId) answer
    ⟨r', loop.at message (.mark event) left, log'⟩

/-- `_publish_result_event` for the results that are left; an error is logged. -/
def Wire.publishResults (event : Event) (results : List Event) (answer : Answer) : List Event → LoopOutcome
  | [] => ⟨r, loop.at message (.mark event) left, log⟩
  | out :: outs =>
    if loop.outbox then
      let log' := if answer.reply.applied then { log with staged := log.staged ++ [out] } else log
      match answer.reply with
      | .done => ⟨r, loop.at message (.relay event results out outs) left, log'⟩
      | .lost | .failed | .raised => ⟨r, loop.at message (.publish event results outs) left, log'⟩
    else
      let (r', log') := wire.addEvent r log out answer
      ⟨r', loop.at message (.publish event results outs) left, log'⟩

/-- The rest of `publish_event_via_outbox`. -/
def Wire.relayStaged (event : Event) (results : List Event) (out : Event) (outs : List Event) (answer : Answer) :
    LoopOutcome :=
  let (r', log') := wire.addEvent r log out answer
  ⟨r', loop.at message (.publish event results outs) left, log'⟩

/-- The lock is deleted only if the marker was written; an error is logged. -/
def Wire.markProcessed (event : Event) (answer : Answer) : LoopOutcome :=
  let r' := answer.reply.run (fun r => r.set (wire.processedEventKey loop.group event.eventId) "1") r
  if answer.reply = .done then ⟨r', loop.at message (.unlock event) left, log⟩
  else ⟨r', loop.at message .ack left, log⟩

def Wire.unlock (event : Event) (answer : Answer) : LoopOutcome :=
  ⟨answer.reply.run (fun r => r.delete (wire.processingEventKey loop.group event.eventId)) r,
    loop.at message .ack left, log⟩

def acknowledge (answer : Answer) : LoopOutcome :=
  ⟨answer.reply.run (fun r => r.xack message.streamKey loop.group message.id) r,
    if answer.reply = .done then loop.next left else loop.retry,
    if answer.reply.applied then { log with acks := log.acks ++ [⟨loop.group, message⟩] } else log⟩

def Wire.deliver (answer : Answer) : LoopStage → LoopOutcome
  | .check => wire.check r log loop message left answer
  | .publishRawDlq => wire.publishRawDlq r log loop message left answer
  | .claim event => wire.claimProcessing r log loop message left event answer
  | .handle event => handleEvent r log loop message left event answer
  | .publishDlq event error => wire.publishToDlq r log loop message left event error answer
  | .publish event results outs => wire.publishResults r log loop message left event results answer outs
  | .relay event results out outs => wire.relayStaged r log loop message left event results out outs answer
  | .mark event => wire.markProcessed r log loop message left event answer
  | .unlock event => wire.unlock r log loop message left event answer
  | .ack => acknowledge r log loop message left answer

end

/-- The next command of a loop.  A group that cannot be created ends the subscription, a stream that cannot be claimed
is left out, and a failed read ends the round. -/
def Wire.advance (wire : Wire) (r : Redis) (now : Nat) (log : Log) (loop : EventLoop) (answer : Answer) : LoopOutcome :=
  match loop.phase with
  | .joining [] => ⟨r, loop.next [], log⟩
  | .joining (key :: left) =>
    ⟨answer.reply.run (fun r => r.xgroupCreate key loop.group) r,
      if answer.reply = .done then { loop with phase := .joining left } else loop.restart, log⟩
  | .claiming [] messages => ⟨r, loop.claimed messages, log⟩
  | .claiming (key :: left) messages =>
    let (r', entries) := r.xautoclaim now loop.group loop.consumer key wire.claimIdleMs wire.claimCount
    let entries := if answer.reply = .done then entries else []
    ⟨if answer.reply.applied then r' else r,
      { loop with phase := .claiming left (messages ++ messagesOf key entries) }, log⟩
  | .reading =>
    let (r', messages) := readStreams now loop.group loop.consumer r loop.streams
    ⟨if answer.reply.applied then r' else r,
      if answer.reply = .done then loop.next messages else loop.retry, log⟩
  | .delivering message stage left => wire.deliver r log loop message left answer stage

def LoopSys.after (s : LoopSys) (i : Nat) (out : LoopOutcome) : LoopSys :=
  { s with redis := out.redis, loops := s.loops.set i out.loop, log := out.log }

/-- What publishers, the store, the clock and the agents do, one at a time. -/
def loopStep (wire : Wire) (s : LoopSys) : LoopAct → Option LoopSys
  | .tick ms => some { s with clock := s.clock + ms }
  | .publish eventType data evicted =>
    some { s with redis := s.redis.xadd (wire.streamKey eventType) data wire.queueMaxLength evicted }
  | .expire key => some { s with redis := s.redis.delete key }
  | .start agentId consumer eventTypes outbox =>
    if eventTypes = [] then none
    else some { s with loops := s.loops ++ [wire.eventLoop agentId consumer eventTypes outbox] }
  | .advance i answer =>
    s.loops[i]?.map (fun loop => s.after i (wire.advance s.redis s.clock s.log loop answer))
  | .stop i => if i < s.loops.length then some { s with loops := s.loops.eraseIdx i } else none

end WisdoverseCell.EventBus

import WisdoverseCell.EventBus.Redis
import WisdoverseCell.Library.Transition

/-!
# Publishers and subscriptions

Any number of `subscribe` generators, each driven by the event loop of a runtime, work on one Redis server; a step is
one command, and a subscription may stop at any point.  `step_effect` is the only place where the steps are taken
apart.
-/

namespace WisdoverseCell.EventBus

open List Option

variable {i evicted : Nat} {deadLetter : String}

structure Event where
  eventId : String
  eventType : String
  deriving DecidableEq

/-- The settings of the bus.  `validateJson` is the validation of an entry's text as an event. -/
structure Bus where
  queuePrefix : String
  queueMaxLength : Nat
  pendingClaimIdleMs : Nat
  pendingClaimCount : Nat
  handlerTimeoutSeconds : Nat
  validateJson : String → Option Event

namespace Bus

variable (bus : Bus)

def streamKey (eventType : String) : String := bus.queuePrefix ++ ":" ++ eventType

def processedEventKey (group eventId : String) : String :=
  bus.queuePrefix ++ ":processed:" ++ (group ++ ":" ++ eventId)

def processingEventKey (group eventId : String) : String :=
  bus.queuePrefix ++ ":processing:" ++ (group ++ ":" ++ eventId)

def claimIdleMs : Nat := max (max 1 bus.pendingClaimIdleMs) (max 1 bus.handlerTimeoutSeconds * 1000 + 1000)

def claimCount : Nat := max 1 bus.pendingClaimCount

end Bus

def dlqFailed : String := "dlq.failed"

def dlqMaxLength : Nat := 10000

/-! ### States -/

structure Message where
  streamKey : String
  id : Nat
  data : String
  deriving DecidableEq

inductive Stage
  | check
  | claim (event : Event)
  | handling (event : Event)
  | unlock (event : Event)
  | ack

inductive Phase
  | joining (left : List String)
  | claiming (left : List String) (claimed : List Message)
  | reading
  | delivering (message : Message) (stage : Stage) (left : List Message)

structure Subscription where
  group : String
  consumer : String
  streams : List String
  phase : Phase

structure Yield where
  group : String
  eventId : String
  deriving DecidableEq

/-- `yields` is the history of the events that were yielded; no step reads it. -/
structure Sys where
  redis : Redis
  clock : Nat
  subscriptions : List Subscription
  yields : List Yield

inductive Act
  | tick (ms : Nat)
  | publish (eventType data : String) (evicted : Nat)
  | subscribe (consumer : String) (group : Option String) (eventTypes : List String)
  | advance (i : Nat) (deadLetter : String) (evicted : Nat)
  | stop (i : Nat)

/-! ### The commands of a subscription -/

def groupName : Option String → String
  | none => "default"
  | some group => if group = "" then "default" else group

def Bus.subscription (bus : Bus) (consumer : String) (group : Option String) (eventTypes : List String) :
    Subscription :=
  let streams := (eventTypes.map bus.streamKey).eraseDups
  ⟨groupName group, consumer, streams, .joining streams⟩

def Subscription.next (sub : Subscription) : List Message → Subscription
  | [] => { sub with phase := .claiming sub.streams [] }
  | message :: left => { sub with phase := .delivering message .check left }

def Subscription.claimed (sub : Subscription) (messages : List Message) : Subscription :=
  if messages = [] then { sub with phase := .reading } else sub.next messages

def Subscription.at (sub : Subscription) (message : Message) (stage : Stage) (left : List Message) : Subscription :=
  { sub with phase := .delivering message stage left }

def messagesOf (key : String) (entries : List StreamEntry) : List Message :=
  entries.map (fun e => ⟨key, e.id, e.data⟩)

def readStreams (now : Nat) (group consumer : String) : Redis → List String → Redis × List Message
  | r, [] => (r, [])
  | r, key :: keys =>
    let (r, entries) := r.xreadgroup now group consumer key 1
    let (r, messages) := readStreams now group consumer r keys
    (r, messagesOf key entries ++ messages)

structure Outcome where
  redis : Redis
  sub : Subscription
  yielded : Option Event

def isProcessed (bus : Bus) (r : Redis) (group eventId : String) : Bool :=
  (r.get (bus.processedEventKey group eventId)).any (fun value => value ≠ "")

def checkMessage (bus : Bus) (r : Redis) (sub : Subscription) (message : Message) (left : List Message)
    (deadLetter : String) (evicted : Nat) : Outcome :=
  match bus.validateJson message.data with
  | none => ⟨r.xadd (bus.streamKey dlqFailed) deadLetter dlqMaxLength evicted, sub.at message .ack left, none⟩
  | some event =>
    if isProcessed bus r sub.group event.eventId then ⟨r, sub.at message .ack left, none⟩
    else ⟨r, sub.at message (.claim event) left, none⟩

def claimProcessing (bus : Bus) (r : Redis) (sub : Subscription) (message : Message) (event : Event)
    (left : List Message) : Outcome :=
  match r.setNx (bus.processingEventKey sub.group event.eventId) sub.consumer with
  | none => ⟨r, sub.next left, none⟩
  | some r' => ⟨r', sub.at message (.handling event) left, some event⟩

def deliver (bus : Bus) (r : Redis) (sub : Subscription) (message : Message) (left : List Message)
    (deadLetter : String) (evicted : Nat) : Stage → Outcome
  | .check => checkMessage bus r sub message left deadLetter evicted
  | .claim event => claimProcessing bus r sub message event left
  -- the handler has returned and the generator is resumed
  | .handling event =>
    ⟨r.set (bus.processedEventKey sub.group event.eventId) "1", sub.at message (.unlock event) left, none⟩
  | .unlock event =>
    ⟨r.delete (bus.processingEventKey sub.group event.eventId), sub.at message .ack left, none⟩
  | .ack => ⟨r.xack message.streamKey sub.group message.id, sub.next left, none⟩

def advance (bus : Bus) (r : Redis) (now : Nat) (sub : Subscription) (deadLetter : String) (evicted : Nat) : Outcome :=
  match sub.phase with
  | .joining [] => ⟨r, sub.next [], none⟩
  | .joining (key :: left) => ⟨r.xgroupCreate key sub.group, { sub with phase := .joining left }, none⟩
  | .claiming [] messages => ⟨r, sub.claimed messages, none⟩
  | .claiming (key :: left) messages =>
    let (r', entries) := r.xautoclaim now sub.group sub.consumer key bus.claimIdleMs bus.claimCount
    ⟨r', { sub with phase := .claiming left (messages ++ messagesOf key entries) }, none⟩
  | .reading =>
    let (r', messages) := readStreams now sub.group sub.consumer r sub.streams
    ⟨r', sub.next messages, none⟩
  | .delivering message stage left => deliver bus r sub message left deadLetter evicted stage

def Sys.after (s : Sys) (i : Nat) (out : Outcome) : Sys :=
  { s with
    redis := out.redis
    subscriptions := s.subscriptions.set i out.sub
    yields := s.yields ++ out.yielded.toList.map (fun event => ⟨out.sub.group, event.eventId⟩) }

def step (bus : Bus) (s : Sys) : Act → Option Sys
  | .tick ms => some { s with clock := s.clock + ms }
  | .publish eventType data evicted =>
    some { s with redis := s.redis.xadd (bus.streamKey eventType) data bus.queueMaxLength evicted }
  | .subscribe consumer group eventTypes =>
    some { s with subscriptions := s.subscriptions ++ [bus.subscription consumer group eventTypes] }
  | .advance i deadLetter evicted =>
    s.subscriptions[i]?.map (fun sub => s.after i (advance bus s.redis s.clock sub deadLetter evicted))
  | .stop i => if i < s.subscriptions.length then some { s with subscriptions := s.subscriptions.eraseIdx i } else none

/-! ### The effect of a step -/

def Subscription.claims (sub : Subscription) : Option Event :=
  match sub.phase with
  | .delivering _ (.claim event) _ => some event
  | _ => none

def Subscription.unlocks (sub : Subscription) : Option Event :=
  match sub.phase with
  | .delivering _ (.unlock event) _ => some event
  | _ => none

def Sys.mover (s : Sys) : Act → Option Subscription
  | .advance i _ _ => s.subscriptions[i]?
  | .tick _ | .publish _ _ _ | .subscribe _ _ _ | .stop _ => none

/-- The subscriptions of `t` that are about to delete a lock were so in `s`, apart from those of `new`. -/
def UnlocksFrom (s t : Sys) (new : Option (String × Event)) : Prop :=
  ∀ sub ∈ t.subscriptions, ∀ event, sub.unlocks = some event →
    sub ∈ s.subscriptions ∨ new = some (sub.group, event)

inductive Effect (bus : Bus) (s : Sys) (a : Act) (t : Sys) : Prop
  | quiet (hstrings : t.redis.get = s.redis.get) (hyields : t.yields = s.yields) (hsubs : UnlocksFrom s t none)
  | claimed (sub : Subscription) (event : Event) (hmover : s.mover a = some sub) (hclaims : sub.claims = some event)
      (hfree : s.redis.get (bus.processingEventKey sub.group event.eventId) = none)
      (hredis : t.redis = s.redis.set (bus.processingEventKey sub.group event.eventId) sub.consumer)
      (hyields : t.yields = s.yields ++ [⟨sub.group, event.eventId⟩]) (hsubs : UnlocksFrom s t none)
  | marked (group : String) (event : Event)
      (hredis : t.redis = s.redis.set (bus.processedEventKey group event.eventId) "1")
      (hyields : t.yields = s.yields) (hsubs : UnlocksFrom s t (some (group, event)))
  | unlocked (sub : Subscription) (event : Event) (hmem : sub ∈ s.subscriptions) (hunlocks : sub.unlocks = some event)
      (hredis : t.redis = s.redis.delete (bus.processingEventKey sub.group event.eventId))
      (hyields : t.yields = s.yields) (hsubs : UnlocksFrom s t none)

variable {bus : Bus} {s t : Sys} {a : Act} {sub : Subscription}

@[simp] theorem strings_readStreams {now group consumer} (r keys) :
    (readStreams now group consumer r keys).1.strings = r.strings := by
  induction keys generalizing r with
  | nil => rfl
  | cons key keys ih => exact (ih _).trans Redis.strings_xreadgroup

@[simp] theorem Subscription.unlocks_next (messages) : (sub.next messages).unlocks = none := by
  cases messages <;> rfl

@[simp] theorem Subscription.unlocks_claimed (messages) : (sub.claimed messages).unlocks = none := by
  unfold Subscription.claimed
  split
  · rfl
  · exact Subscription.unlocks_next messages

variable {out : Outcome}

private theorem UnlocksFrom.set {new} (h : ∀ event, out.sub.unlocks = some event → new = some (out.sub.group, event)) :
    UnlocksFrom s (s.after i out) new := by
  intro sub' hs' event hu
  rcases mem_or_eq_of_mem_set hs' with ho | rfl
  · exact .inl ho
  · exact .inr (h event hu)

/-- A command that writes no string, yields nothing and does not come to delete a lock. -/
theorem Effect.of_quiet (hs : out.redis.strings = s.redis.strings) (hy : out.yielded = none)
    (hu : out.sub.unlocks = none) : Effect bus s a (s.after i out) := by
  refine .quiet hs ?_ (.set ?_)
  · simp [Sys.after, hy]
  · intro event h
    rw [hu] at h
    cases h

private theorem deliver_effect {message stage left}
    (hs : s.subscriptions[i]? = some sub) (hp : sub.phase = .delivering message stage left)
    (hm : s.mover a = some sub) :
    Effect bus s a (s.after i (deliver bus s.redis sub message left deadLetter evicted stage)) := by
  cases stage with
  | check =>
    simp only [deliver, checkMessage]
    split
    · exact .of_quiet rfl rfl rfl
    · split <;> exact .of_quiet rfl rfl rfl
  | claim event =>
    have hc : sub.claims = some event := by rw [Subscription.claims, hp]
    simp only [deliver, claimProcessing]
    split
    · exact .of_quiet rfl rfl (Subscription.unlocks_next left)
    · rename_i r' hst
      obtain ⟨hf, hr⟩ := Redis.setNx_eq_some hst
      exact .claimed sub event hm hc hf hr rfl (.set (fun _ h => nomatch h))
  | handling event =>
    refine .marked sub.group event rfl (append_nil _) (.set ?_)
    intro event' h
    obtain rfl : event = event' := some.inj h
    rfl
  | unlock event =>
    have hu : sub.unlocks = some event := by rw [Subscription.unlocks, hp]
    exact .unlocked sub event (mem_of_getElem? hs) hu rfl (append_nil _) (.set (fun _ h => nomatch h))
  | ack => exact .of_quiet Redis.strings_xack rfl (Subscription.unlocks_next left)

private theorem advance_effect (hs : s.subscriptions[i]? = some sub) (hm : s.mover a = some sub) :
    Effect bus s a (s.after i (advance bus s.redis s.clock sub deadLetter evicted)) := by
  unfold advance
  split
  · exact .of_quiet rfl rfl (Subscription.unlocks_next [])
  · exact .of_quiet Redis.strings_xgroupCreate rfl rfl
  · exact .of_quiet rfl rfl (Subscription.unlocks_claimed _)
  · exact .of_quiet Redis.strings_xautoclaim rfl rfl
  · exact .of_quiet (strings_readStreams _ _) rfl (Subscription.unlocks_next _)
  · rename_i message stage left hp
    exact deliver_effect hs hp hm

/-- What a step does to Redis and to the subscriptions. -/
theorem step_effect (h : step bus s a = some t) : Effect bus s a t := by
  cases a with
  | tick =>
    cases h
    exact .quiet rfl rfl (fun sub hs _ _ => .inl hs)
  | publish =>
    cases h
    exact .quiet rfl rfl (fun sub hs _ _ => .inl hs)
  | subscribe =>
    cases h
    refine .quiet rfl rfl ?_
    intro sub hs event hu
    rcases mem_concat.1 hs with hs | rfl
    · exact .inl hs
    · cases hu
  | advance =>
    obtain ⟨sub, hs, rfl⟩ := map_eq_some_iff.1 h
    exact advance_effect hs hs
  | stop =>
    obtain ⟨-, h⟩ := ite_none_right_eq_some.1 h
    cases h
    exact .quiet rfl rfl (fun sub hs _ _ => .inl (eraseIdx_subset hs))

end WisdoverseCell.EventBus

import WisdoverseCell.EventBus.EventLoop
import WisdoverseCell.EventBus.HandledOnce

/-!
# No event is lost silently

An acknowledged message should be one that was processed before, one whose handler returned and whose results were
accepted, or one that is in the dead letters (`Justified`).  This holds unless a write of a dead letter or a publication
of a result fails: these errors are only logged.
-/

namespace WisdoverseCell.EventBus

open List

variable {bus : Bus} {reply : Reply} {stage : LoopStage} {results outs : List Event} {out event : Event}
  {r' r₀ r : Redis} {wire : Wire} {log log' : Log} {loop : EventLoop} {message : Message} {left : List Message}
  {answer : Answer} {s t : LoopSys} {a : LoopAct} {group eventId key : String}

/-! ### Justified acknowledgements -/

def Log.Accepted (log : Log) (out : Event) : Prop := out ∈ log.published ∨ out ∈ log.staged

/-- Under the key of a marker: an event was handled and all its results were accepted, or it is in the dead letters. -/
def Settled (wire : Wire) (log : Log) (key : String) : Prop :=
  (∃ h ∈ log.handled, wire.processedEventKey h.group h.event.eventId = key ∧ ∀ out ∈ h.results, log.Accepted out) ∨
  ∃ event error agentId, eventLetter event error agentId ∈ log.letters ∧
    wire.processedEventKey (groupName (some agentId)) event.eventId = key

def EventJustified (wire : Wire) (r₀ : Redis) (log : Log) (group : String) (event : Event) : Prop :=
  isProcessed wire.toBus r₀ group event.eventId = true ∨ Settled wire log (wire.processedEventKey group event.eventId)

def Justified (wire : Wire) (r₀ : Redis) (log : Log) (ack : Ack) : Prop :=
  match wire.validateJson ack.message.data with
  | none => wire.rawLetter ack.message.data ack.group ∈ log.letters
  | some event => EventJustified wire r₀ log ack.group event

structure Log.Extends (log log' : Log) : Prop where
  handled : log.handled ⊆ log'.handled
  published : log.published ⊆ log'.published
  staged : log.staged ⊆ log'.staged
  letters : log.letters ⊆ log'.letters

private theorem Log.Extends.refl : log.Extends log := ⟨Subset.refl _, Subset.refl _, Subset.refl _, Subset.refl _⟩

private theorem Log.Accepted.extend (h : log.Accepted out) (he : log.Extends log') : log'.Accepted out := by
  rcases h with hp | hs
  · exact .inl (he.published hp)
  · exact .inr (he.staged hs)

private theorem Settled.extend (h : Settled wire log key) (he : log.Extends log') : Settled wire log' key := by
  rcases h with ⟨handled, hm, hk, hr⟩ | ⟨event, error, agentId, hm, hk⟩
  · exact .inl ⟨handled, he.handled hm, hk, fun out ho => (hr out ho).extend he⟩
  · exact .inr ⟨event, error, agentId, he.letters hm, hk⟩

private theorem EventJustified.extend (h : EventJustified wire r₀ log group event) (he : log.Extends log') :
    EventJustified wire r₀ log' group event := by
  rcases h with hb | hs
  · exact .inl hb
  · exact .inr (hs.extend he)

private theorem Justified.extend {ack} (h : Justified wire r₀ log ack) (he : log.Extends log') :
    Justified wire r₀ log' ack := by
  unfold Justified at h ⊢
  split at h
  · exact he.letters h
  · exact h.extend he

/-! ### The markers -/

def MarksSound (wire : Wire) (r₀ : Redis) (log : Log) (r : Redis) : Prop :=
  ∀ group eventId, isProcessed wire.toBus r group eventId = true →
    isProcessed wire.toBus r₀ group eventId = true ∨ Settled wire log (wire.processedEventKey group eventId)

private theorem MarksSound.extend (h : MarksSound wire r₀ log r) (he : log.Extends log') :
    MarksSound wire r₀ log' r := by
  intro group eventId hp
  rcases h group eventId hp with hb | hs
  · exact .inl hb
  · exact .inr (hs.extend he)

private theorem MarksSound.of_le (h : MarksSound wire r₀ log r)
    (hle : ∀ group eventId, isProcessed wire.toBus r' group eventId = true →
      isProcessed wire.toBus r group eventId = true) : MarksSound wire r₀ log r' := fun group eventId hp =>
        h group eventId (hle group eventId hp)

private theorem isProcessed_congr (h : r'.strings = r.strings) :
    isProcessed bus r' group eventId = isProcessed bus r group eventId := by
  rw [isProcessed, Redis.get, h, isProcessed, Redis.get]

private theorem isProcessed_of_delete (h : isProcessed bus (r.delete key) group eventId = true) :
    isProcessed bus r group eventId = true := by
  by_cases hk : bus.processedEventKey group eventId = key
  · have hn : (r.delete key).get (bus.processedEventKey group eventId) = none := if_pos hk
    rw [isProcessed, hn] at h
    cases h
  · rw [isProcessed, Redis.get_delete_of_ne hk] at h
    exact h

private theorem MarksSound.of_strings (h : MarksSound wire r₀ log r) (hs : r'.strings = r.strings) :
    MarksSound wire r₀ log r' := h.of_le (fun _ _ hp => (isProcessed_congr hs).symm.trans hp)

private theorem MarksSound.delete (h : MarksSound wire r₀ log r) : MarksSound wire r₀ log (r.delete key) :=
  h.of_le (fun _ _ => isProcessed_of_delete)

private theorem MarksSound.lock {value} (h : MarksSound wire r₀ log r) :
    MarksSound wire r₀ log (r.set (wire.processingEventKey group eventId) value) :=
  h.of_le (fun _ _ hp => isProcessed_set_processing.symm.trans hp)

private theorem MarksSound.mark (h : MarksSound wire r₀ log r) (hs : EventJustified wire r₀ log group event) :
    MarksSound wire r₀ log (r.set (wire.processedEventKey group event.eventId) "1") := by
  intro group' eventId' hp
  by_cases hk : wire.processedEventKey group' eventId' = wire.processedEventKey group event.eventId
  · rw [isProcessed, hk, ← isProcessed]
    exact hs
  · rw [isProcessed, Redis.get_set_of_ne hk] at hp
    exact h group' eventId' hp

private theorem MarksSound.run {command} (h : MarksSound wire r₀ log r)
    (hc : MarksSound wire r₀ log (command r)) : MarksSound wire r₀ log (reply.run command r) := by
  unfold Reply.run
  split
  · exact hc
  · exact h

/-! ### The invariant -/

def ResultsSound (log : Log) (group : String) (event : Event) (results outs : List Event) : Prop :=
  ⟨group, event, results⟩ ∈ log.handled ∧ ∀ out ∈ results, out ∈ outs ∨ log.Accepted out

def StageSound (wire : Wire) (r₀ : Redis) (log : Log) (group : String) (message : Message) : LoopStage → Prop
  | .check => True
  | .publishRawDlq => wire.validateJson message.data = none
  | .claim event | .handle event | .publishDlq event _ => wire.validateJson message.data = some event
  | .publish event results outs | .relay event results _ outs =>
    wire.validateJson message.data = some event ∧ ResultsSound log group event results outs
  | .mark event | .unlock event =>
    wire.validateJson message.data = some event ∧ EventJustified wire r₀ log group event
  | .ack => Justified wire r₀ log ⟨group, message⟩

def EventLoop.Sound (wire : Wire) (r₀ : Redis) (log : Log) (loop : EventLoop) : Prop :=
  match loop.phase with
  | .delivering message stage _ => StageSound wire r₀ log loop.group message stage
  | .joining _ | .claiming _ _ | .reading => True

structure WriteSound (wire : Wire) (r₀ : Redis) (log : Log) (r' : Redis) (log' : Log) : Prop where
  grows : log.Extends log'
  marks : MarksSound wire r₀ log' r'
  acks : ∀ ack ∈ log'.acks, Justified wire r₀ log' ack

structure LoopOutcome.Sound (wire : Wire) (r₀ : Redis) (log : Log) (out : LoopOutcome) : Prop where
  write : WriteSound wire r₀ log out.redis out.log
  loop : out.loop.Sound wire r₀ out.log

structure LossFree (wire : Wire) (r₀ : Redis) (s : LoopSys) : Prop where
  marks : MarksSound wire r₀ s.log s.redis
  acks : ∀ ack ∈ s.log.acks, Justified wire r₀ s.log ack
  loops : ∀ loop ∈ s.loops, loop.Sound wire r₀ s.log

def LoopStage.drops : LoopStage → Reply → Bool
  | .publishRawDlq, .failed | .publishDlq _ _, .failed => true
  | .publish _ _ (_ :: _), .failed | .publish _ _ (_ :: _), .raised => true
  | _, _ => false

def LoopSys.command (s : LoopSys) : LoopAct → Option (LoopStage × Reply)
  | .advance i answer =>
    s.loops[i]?.bind (fun loop => match loop.phase with
      | .delivering _ stage _ => some (stage, answer.reply)
      | .joining _ | .claiming _ _ | .reading => none)
  | .tick _ | .publish _ _ _ | .expire _ | .start _ _ _ _ | .stop _ => none

/-- No write of a dead letter and no publication of a result fails. -/
def Keeps (s : LoopSys) (a : LoopAct) : Prop := ∀ c ∈ s.command a, c.1.drops c.2 = false

instance (s : LoopSys) (a : LoopAct) : Decidable (Keeps s a) :=
  inferInstanceAs (Decidable (∀ c ∈ s.command a, _))

private theorem StageSound.extend (h : StageSound wire r₀ log group message stage) (he : log.Extends log') :
    StageSound wire r₀ log' group message stage := by
  cases stage with
  | check => trivial
  | publishRawDlq => exact h
  | claim => exact h
  | handle => exact h
  | publishDlq => exact h
  | publish =>
    obtain ⟨hv, hh, hr⟩ := h
    exact ⟨hv, he.handled hh, fun out ho => (hr out ho).imp_right (·.extend he)⟩
  | relay event results out =>
    obtain ⟨hv, hh, hr⟩ := h
    exact ⟨hv, he.handled hh, fun out ho => (hr out ho).imp_right (·.extend he)⟩
  | mark => exact ⟨h.1, h.2.extend he⟩
  | unlock => exact ⟨h.1, h.2.extend he⟩
  | ack => exact Justified.extend h he

private theorem EventLoop.Sound.extend (h : loop.Sound wire r₀ log) (he : log.Extends log') :
    loop.Sound wire r₀ log' := by
  unfold EventLoop.Sound at h ⊢
  split
  · rename_i hp
    rw [hp] at h
    exact StageSound.extend h he
  · trivial
  · trivial
  · trivial

private theorem EventLoop.sound_next (messages) : (loop.next messages).Sound wire r₀ log := by
  cases messages <;> trivial

private theorem EventLoop.sound_retry : loop.retry.Sound wire r₀ log := EventLoop.sound_next []

private theorem EventLoop.sound_nextOrRetry {p : Prop} [Decidable p] {messages} :
    (if p then loop.next messages else loop.retry).Sound wire r₀ log := by
  split
  · exact EventLoop.sound_next messages
  · exact EventLoop.sound_retry

private theorem EventLoop.sound_claimed (messages) : (loop.claimed messages).Sound wire r₀ log := by
  unfold EventLoop.claimed
  split
  · trivial
  · exact EventLoop.sound_next messages

private theorem justified_of_valid (hv : wire.validateJson message.data = some event)
    (h : EventJustified wire r₀ log group event) : Justified wire r₀ log ⟨group, message⟩ := by
  simp only [Justified, hv]
  exact h

/-! ### One command -/

private theorem WriteSound.of_grows (hmarks : MarksSound wire r₀ log r')
    (hacks : ∀ ack ∈ log.acks, Justified wire r₀ log ack)
    (hg : log.Extends log') (hs : log'.acks = log.acks) : WriteSound wire r₀ log r' log' := by
  refine ⟨hg, hmarks.extend hg, ?_⟩
  intro ack ha
  rw [hs] at ha
  exact (hacks ack ha).extend hg

private theorem addLetter_grows (letter) : log.Extends (wire.addLetter r log letter answer).2 := by
  simp only [Wire.addLetter]
  split
  · exact ⟨Subset.refl _, Subset.refl _, Subset.refl _, subset_append_left _ _⟩
  · exact .refl

private theorem mem_addLetter {letter} (h : answer.reply.applied = true) :
    letter ∈ (wire.addLetter r log letter answer).2.letters := by
  simp [Wire.addLetter, h]

private theorem addEvent_grows (out) : log.Extends (wire.addEvent r log out answer).2 := by
  simp only [Wire.addEvent]
  split
  · exact ⟨Subset.refl _, subset_append_left _ _, Subset.refl _, Subset.refl _⟩
  · exact .refl

private theorem accepted_addEvent (h : answer.reply.applied = true) :
    (wire.addEvent r log out answer).2.Accepted out := by
  simp [Wire.addEvent, Log.Accepted, h]

private theorem ResultsSound.next (h : ResultsSound log group event results (out :: outs)) (hg : log.Extends log')
    (ha : log'.Accepted out) : ResultsSound log' group event results outs := by
  refine ⟨hg.handled h.1, ?_⟩
  intro out' ho'
  rcases h.2 out' ho' with hl | hd
  · rcases mem_cons.1 hl with rfl | hl
    · exact .inr ha
    · exact .inl hl
  · exact .inr (hd.extend hg)

private theorem applied_of_ne (hf : reply ≠ .failed) (hr : reply ≠ .raised) : reply.applied = true := by
  cases reply with
  | done => rfl
  | lost => rfl
  | failed => exact absurd rfl hf
  | raised => exact absurd rfl hr

section

variable (hmarks : MarksSound wire r₀ log r) (hacks : ∀ ack ∈ log.acks, Justified wire r₀ log ack)

include hmarks hacks

private theorem WriteSound.of_same (hs : r'.strings = r.strings) : WriteSound wire r₀ log r' log :=
  ⟨.refl, hmarks.of_strings hs, hacks⟩

private theorem addLetter_sound (letter : DeadLetter) :
    WriteSound wire r₀ log (wire.addLetter r log letter answer).1 (wire.addLetter r log letter answer).2 := by
  refine .of_grows (hmarks.run (hmarks.of_strings Redis.strings_xadd)) hacks (addLetter_grows letter) ?_
  simp only [Wire.addLetter]
  split <;> rfl

private theorem addEvent_sound (answer out) :
    WriteSound wire r₀ log (wire.addEvent r log out answer).1 (wire.addEvent r log out answer).2 := by
  refine .of_grows (hmarks.run (hmarks.of_strings Redis.strings_xadd)) hacks (addEvent_grows out) ?_
  simp only [Wire.addEvent]
  split <;> rfl

private theorem check_sound : (wire.check r log loop message left answer).Sound wire r₀ log := by
  have hw : WriteSound wire r₀ log r log := .of_same hmarks hacks rfl
  unfold Wire.check
  split
  · rename_i hi
    exact ⟨hw, hi⟩
  · rename_i event hv
    split
    · rename_i hf
      exact ⟨hw, justified_of_valid hv (hmarks _ _ hf.2)⟩
    · exact ⟨hw, hv⟩

private theorem publishRawDlq_sound (hi : wire.validateJson message.data = none) (hr : answer.reply ≠ .failed) :
    (wire.publishRawDlq r log loop message left answer).Sound wire r₀ log := by
  unfold Wire.publishRawDlq
  split
  · exact ⟨.of_same hmarks hacks rfl, EventLoop.sound_retry⟩
  · rename_i hrs
    have ha := applied_of_ne hr hrs
    refine ⟨addLetter_sound hmarks hacks _, ?_⟩
    show Justified wire r₀ _ ⟨loop.group, message⟩
    simp only [Justified, hi]
    exact mem_addLetter ha

private theorem claimProcessing_sound (hv : wire.validateJson message.data = some event) :
    (wire.claimProcessing r log loop message left event answer).Sound wire r₀ log := by
  have hs : WriteSound wire r₀ log r log := .of_same hmarks hacks rfl
  have hl : ∀ r', r.setNx (wire.processingEventKey loop.group event.eventId) loop.consumer = some r' →
      WriteSound wire r₀ log r' log := by
    intro r' hst
    obtain ⟨-, rfl⟩ := Redis.setNx_eq_some hst
    exact ⟨.refl, hmarks.lock, hacks⟩
  simp only [Wire.claimProcessing]
  split
  · exact ⟨hs, EventLoop.sound_next left⟩
  · rename_i hst
    exact ⟨hl _ hst, hv⟩
  · rename_i hst
    exact ⟨hl _ hst, hv⟩
  · exact ⟨hs, hv⟩
  · exact ⟨hs, hv⟩
  · exact ⟨hs, hv⟩

private theorem handleEvent_sound (hv : wire.validateJson message.data = some event) :
    (handleEvent r log loop message left event answer).Sound wire r₀ log := by
  unfold handleEvent
  split
  · rename_i results _
    have hg : log.Extends { log with handled := log.handled ++ [⟨loop.group, event, results⟩] } :=
      ⟨subset_append_left _ _, Subset.refl _, Subset.refl _, Subset.refl _⟩
    refine ⟨.of_grows hmarks hacks hg rfl, hv, ?_, fun out ho => .inl ho⟩
    exact mem_append_right _ (mem_singleton.2 rfl)
  · exact ⟨.of_same hmarks hacks rfl, hv⟩
  · exact ⟨.of_same hmarks hacks rfl, hv⟩

private theorem publishToDlq_sound {error} (hv : wire.validateJson message.data = some event)
    (hr : answer.reply ≠ .failed) :
    (wire.publishToDlq r log loop message left event error answer).Sound wire r₀ log := by
  unfold Wire.publishToDlq
  split
  · exact ⟨.of_same hmarks hacks rfl, trivial⟩
  · rename_i hrs
    have hl : eventLetter event error loop.agentId ∈
        (wire.addLetter r log (eventLetter event error loop.agentId) answer).2.letters :=
      mem_addLetter (applied_of_ne hr hrs)
    exact ⟨addLetter_sound hmarks hacks _, hv, .inr (.inr ⟨event, error, loop.agentId, hl, rfl⟩)⟩

private theorem publishResults_sound (hv : wire.validateJson message.data = some event)
    (hr : ResultsSound log loop.group event results outs)
    (hrp : (LoopStage.publish event results outs).drops answer.reply = false) :
    (wire.publishResults r log loop message left event results answer outs).Sound wire r₀ log := by
  cases outs with
  | nil =>
    -- all results were accepted
    refine ⟨.of_same hmarks hacks rfl, hv, .inr (.inl ⟨_, hr.1, rfl, ?_⟩)⟩
    intro out ho
    exact (hr.2 out ho).resolve_left not_mem_nil
  | cons out =>
    have ha : answer.reply.applied = true := by
      apply applied_of_ne
      · intro hf
        rw [hf] at hrp
        cases hrp
      · intro hrs
        rw [hrs] at hrp
        cases hrp
    simp only [Wire.publishResults]
    split
    · have hg : log.Extends { log with staged := log.staged ++ [out] } :=
        ⟨Subset.refl _, Subset.refl _, subset_append_left _ _, Subset.refl _⟩
      have hs : ({ log with staged := log.staged ++ [out] } : Log).Accepted out :=
        .inr (mem_append_right _ (mem_singleton.2 rfl))
      have hw := WriteSound.of_grows hmarks hacks hg rfl
      have hn := hr.next hg hs
      split <;> exact ⟨hw, hv, hn⟩
    · have hw := addEvent_sound hmarks hacks answer out
      have hac : (wire.addEvent r log out answer).2.Accepted out := accepted_addEvent ha
      exact ⟨hw, hv, hr.next hw.grows hac⟩

private theorem relayStaged_sound (hv : wire.validateJson message.data = some event)
    (hr : ResultsSound log loop.group event results outs) :
    (wire.relayStaged r log loop message left event results out outs answer).Sound wire r₀ log := by
  have hs : StageSound wire r₀ log loop.group message (.publish event results outs) := ⟨hv, hr⟩
  have hw := addEvent_sound hmarks hacks answer out
  exact ⟨hw, hs.extend hw.grows⟩

private theorem markProcessed_sound (hv : wire.validateJson message.data = some event)
    (hj : EventJustified wire r₀ log loop.group event) :
    (wire.markProcessed r log loop message left event answer).Sound wire r₀ log := by
  have hm : MarksSound wire r₀ log (answer.reply.run
      (fun r => r.set (wire.processedEventKey loop.group event.eventId) "1") r) := hmarks.run (hmarks.mark hj)
  unfold Wire.markProcessed
  split
  · exact ⟨⟨.refl, hm, hacks⟩, hv, hj⟩
  · exact ⟨⟨.refl, hm, hacks⟩, justified_of_valid hv hj⟩

private theorem acknowledge_sound (hj : Justified wire r₀ log ⟨loop.group, message⟩) :
    (acknowledge r log loop message left answer).Sound wire r₀ log := by
  have hm' : MarksSound wire r₀ log (acknowledge r log loop message left answer).redis :=
    hmarks.run (hmarks.of_strings Redis.strings_xack)
  refine ⟨?_, EventLoop.sound_nextOrRetry⟩
  simp only [acknowledge] at hm' ⊢
  split
  · have hg : log.Extends { log with acks := log.acks ++ [⟨loop.group, message⟩] } :=
      ⟨Subset.refl _, Subset.refl _, Subset.refl _, Subset.refl _⟩
    refine ⟨hg, hm'.extend hg, ?_⟩
    intro ack ha
    rcases mem_concat.1 ha with ha | rfl
    · exact (hacks ack ha).extend hg
    · exact hj.extend hg
  · exact ⟨.refl, hm', hacks⟩

private theorem deliver_sound (hs : StageSound wire r₀ log loop.group message stage)
    (hr : stage.drops answer.reply = false) :
    (wire.deliver r log loop message left answer stage).Sound wire r₀ log := by
  cases stage with
  | check => exact check_sound hmarks hacks
  | publishRawDlq =>
    have hf : answer.reply ≠ .failed := fun h => by
      rw [h] at hr
      cases hr
    exact publishRawDlq_sound hmarks hacks hs hf
  | claim => exact claimProcessing_sound hmarks hacks hs
  | handle => exact handleEvent_sound hmarks hacks hs
  | publishDlq =>
    have hf : answer.reply ≠ .failed := fun h => by
      rw [h] at hr
      cases hr
    exact publishToDlq_sound hmarks hacks hs hf
  | publish => exact publishResults_sound hmarks hacks hs.1 hs.2 hr
  | relay => exact relayStaged_sound hmarks hacks hs.1 hs.2
  | mark => exact markProcessed_sound hmarks hacks hs.1 hs.2
  | unlock => exact ⟨⟨.refl, hmarks.run hmarks.delete, hacks⟩, justified_of_valid hs.1 hs.2⟩
  | ack => exact acknowledge_sound hmarks hacks hs

end

/-! ### Runs -/

private theorem advance_sound {now} (hmarks : MarksSound wire r₀ log r)
    (hacks : ∀ ack ∈ log.acks, Justified wire r₀ log ack) (hl : loop.Sound wire r₀ log)
    (hk : ∀ message stage left, loop.phase = .delivering message stage left → stage.drops answer.reply = false) :
    (wire.advance r now log loop answer).Sound wire r₀ log := by
  unfold Wire.advance
  split
  · exact ⟨.of_same hmarks hacks rfl, EventLoop.sound_next []⟩
  · refine ⟨⟨.refl, hmarks.run (hmarks.of_strings Redis.strings_xgroupCreate), hacks⟩, ?_⟩
    dsimp only
    split <;> trivial
  · exact ⟨.of_same hmarks hacks rfl, EventLoop.sound_claimed _⟩
  · refine ⟨⟨.refl, ?_, hacks⟩, trivial⟩
    dsimp only
    split
    · exact hmarks.of_strings Redis.strings_xautoclaim
    · exact hmarks
  · refine ⟨⟨.refl, ?_, hacks⟩, EventLoop.sound_nextOrRetry⟩
    dsimp only
    split
    · exact hmarks.of_strings (strings_readStreams _ _)
    · exact hmarks
  · rename_i message stage left hp
    have hs : StageSound wire r₀ log loop.group message stage := by
      rw [EventLoop.Sound, hp] at hl
      exact hl
    exact deliver_sound hmarks hacks hs (hk message stage left hp)

private theorem LossFree.after {i out} (hs : LossFree wire r₀ s) (ho : out.Sound wire r₀ s.log) :
    LossFree wire r₀ (s.after i out) := by
  refine ⟨ho.write.marks, ho.write.acks, ?_⟩
  intro loop hl
  rcases mem_or_eq_of_mem_set hl with hol | rfl
  · exact (hs.loops loop hol).extend ho.write.grows
  · exact ho.loop

private theorem loopStep_lossFree (hs : LossFree wire r₀ s) (hk : Keeps s a) (h : loopStep wire s a = some t) :
    LossFree wire r₀ t := by
  cases a with
  | tick =>
    cases h
    exact ⟨hs.marks, hs.acks, hs.loops⟩
  | publish =>
    cases h
    exact ⟨hs.marks.of_strings Redis.strings_xadd, hs.acks, hs.loops⟩
  | expire =>
    cases h
    exact ⟨hs.marks.delete, hs.acks, hs.loops⟩
  | start =>
    obtain ⟨-, h⟩ := Option.ite_none_left_eq_some.1 h
    cases h
    refine ⟨hs.marks, hs.acks, ?_⟩
    intro loop hl
    rcases mem_concat.1 hl with hl | rfl
    · exact hs.loops loop hl
    · trivial
  | advance i answer =>
    obtain ⟨loop, hl, rfl⟩ := Option.map_eq_some_iff.1 h
    refine hs.after (advance_sound hs.marks hs.acks (hs.loops loop (mem_of_getElem? hl)) ?_)
    intro message stage left hp
    refine hk (stage, answer.reply) ?_
    simp [LoopSys.command, hl, hp]
  | stop =>
    obtain ⟨-, h⟩ := Option.ite_none_right_eq_some.1 h
    cases h
    exact ⟨hs.marks, hs.acks, fun loop hl => hs.loops loop (eraseIdx_subset hl)⟩

/-- No loop runs and nothing was acknowledged; the server and the other histories may hold anything. -/
structure LoopSys.Idle (s : LoopSys) : Prop where
  loops : s.loops = []
  acks : s.log.acks = []

private theorem LoopSys.Idle.lossFree (h : s.Idle) : LossFree wire s.redis s where
  marks _ _ hp := .inl hp
  acks ack ha := by
    rw [h.acks] at ha
    cases ha
  loops loop hl := by
    rw [h.loops] at hl
    cases hl

/-- In every run in which no write of a dead letter and no publication of a result fails, every acknowledged message
was processed before the run, or its event was handled with all results accepted, or it is in the dead letters. -/
theorem acknowledged_only_if_settled {wire : Wire} {s t : LoopSys} (hs : s.Idle)
    (h : Run (Steps (loopStep wire)) Keeps s t) : ∀ ack ∈ t.log.acks, Justified wire s.redis t.log ack := by
  have hf : LossFree wire s.redis t := h.invariant (I := LossFree wire s.redis) hs.lossFree
      (fun _ _ _ hf hk hst => loopStep_lossFree hf hk hst)
  exact hf.acks

/-! ### One loop -/

def plainWire : Wire :=
  { defaultBus with
    dumpEvent := Event.eventId
    dumpLetter := fun _ => "letter"
    sha256 := id
    validationError := fun _ => "Invalid JSON" }

def quietServer : LoopSys := ⟨Redis.empty, 0, [], Log.empty⟩

private theorem quietServer_idle : quietServer.Idle := ⟨rfl, rfl⟩

def command (reply : Reply) (handler : HandlerOutcome) : LoopAct := .advance 0 ⟨reply, handler, 0⟩

def answered (n : Nat) : List LoopAct := replicate n (command .done (.returned []))

def eventRead (outbox : Bool) : List LoopAct :=
  [.publish "task" "evt_1" 0, .start "qa-agent" "host-1" ["task"] outbox] ++ answered 6

/-- The handler raises, the letter is not written, and the message is acknowledged. -/
theorem failed_event_lost : quietServer.Idle ∧ ∃ t, Run (Steps (loopStep plainWire)) Always quietServer t ∧
      ⟨"qa-agent", ⟨"wisdoverse-cell:events:task", 1, "evt_1"⟩⟩ ∈ t.log.acks ∧
      ¬ ∀ ack ∈ t.log.acks, Justified plainWire quietServer.redis t.log ack := by
  refine ⟨quietServer_idle, exists_run_with (eventRead false ++ answered 1 ++
    [command .done (.raised "boom"), command .failed (.returned [])] ++ answered 3)
    (fun t => t.log = { Log.empty with acks := [⟨"qa-agent", ⟨"wisdoverse-cell:events:task", 1, "evt_1"⟩⟩] })
    (by decide +kernel) (fun t _ hl => ⟨by rw [hl]; exact mem_singleton.2 rfl, fun ha => ?_⟩)⟩
  rw [hl] at ha
  rcases ha _ (mem_singleton.2 rfl) with hb | ⟨h, hm, -⟩ | ⟨event, error, agentId, hm, -⟩
  · exact absurd hb (by decide +kernel)
  · cases hm
  · cases hm

/-- The outbox takes the result before the bus refuses it; the marker is not written and the acknowledgement is lost. -/
theorem acknowledged_only_if_settled_faulty : ∃ t, Run (Steps (loopStep plainWire)) Keeps quietServer t ∧
      t.log = ⟨[⟨"qa-agent", ⟨"evt_1", "task"⟩, [⟨"evt_2", "qa.done"⟩]⟩], [], [⟨"evt_2", "qa.done"⟩], [],
        [⟨"qa-agent", ⟨"wisdoverse-cell:events:task", 1, "evt_1"⟩⟩]⟩ ∧
      ∀ ack ∈ t.log.acks, Justified plainWire quietServer.redis t.log ack :=
  exists_run_and (eventRead true ++
    [command .failed (.returned []), command .done (.returned [⟨"evt_2", "qa.done"⟩])] ++
      answered 1 ++ [command .failed (.returned [])] ++ answered 1 ++
      [command .failed (.returned []), command .lost (.returned [])])
    (by decide +kernel) (fun _ hr => acknowledged_only_if_settled quietServer_idle hr)

end WisdoverseCell.EventBus

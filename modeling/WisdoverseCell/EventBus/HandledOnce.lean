import Mathlib.Data.List.Nodup
import WisdoverseCell.EventBus.Subscription

/-!
# Every event is handled once

A consumer looks for the marker of a processed event and then takes the processing lock, which is deleted once the
marker is written.  An event is yielded at most once to a group as long as no consumer takes the lock of an event whose
marker is there, which nothing in the code prevents.
-/

namespace WisdoverseCell.EventBus

open List

variable {r : Redis} {y : Yield} {bus : Bus} {s t : Sys} {a : Act} {group group' eventId eventId' : String}

private theorem processed_ne_processing :
    bus.processedEventKey group eventId ≠ bus.processingEventKey group' eventId' := by
  intro h
  have hl := congrArg String.toList h
  simp only [Bus.processedEventKey, Bus.processingEventKey, String.toList_append, append_assoc,
    append_cancel_left_eq] at hl
  cases hl

private theorem processed_eq_of_processing_eq
    (h : bus.processingEventKey group eventId = bus.processingEventKey group' eventId') :
    bus.processedEventKey group eventId = bus.processedEventKey group' eventId' := by
  have hl := congrArg String.toList h
  simp only [Bus.processingEventKey, String.toList_append, append_assoc, append_cancel_left_eq] at hl
  apply String.toList_injective
  simp only [Bus.processedEventKey, String.toList_append, append_assoc, hl]

/-! ### The marker -/

section

variable {r : Redis} {value : String}

theorem isProcessed_set_processing :
    isProcessed bus (r.set (bus.processingEventKey group' eventId') value) group eventId =
      isProcessed bus r group eventId := by
  rw [isProcessed, Redis.get_set_of_ne processed_ne_processing, isProcessed]

private theorem isProcessed_delete_processing :
    isProcessed bus (r.delete (bus.processingEventKey group' eventId')) group eventId =
      isProcessed bus r group eventId := by
  rw [isProcessed, Redis.get_delete_of_ne processed_ne_processing, isProcessed]

private theorem isProcessed_marked :
    isProcessed bus (r.set (bus.processedEventKey group eventId) "1") group eventId = true := by
  rw [isProcessed, Redis.get_set_self]
  rfl

private theorem isProcessed_set_processed (h : isProcessed bus r group eventId = true) :
    isProcessed bus (r.set (bus.processedEventKey group' eventId') "1") group eventId = true := by
  rw [isProcessed, Redis.get_set]
  split
  · rfl
  · exact h

end

/-! ### The invariant -/

def Guarded (bus : Bus) (r : Redis) (y : Yield) : Prop :=
  isProcessed bus r y.group y.eventId = true ∨ (r.get (bus.processingEventKey y.group y.eventId)).isSome

structure DeliverySound (bus : Bus) (s : Sys) : Prop where
  guarded : ∀ y ∈ s.yields, Guarded bus s.redis y
  /-- A lock is deleted after the marker was written. -/
  unlocking : ∀ sub ∈ s.subscriptions, ∀ event, sub.unlocks = some event →
    isProcessed bus s.redis sub.group event.eventId = true
  once : s.yields.Nodup

/-- A consumer that is about to take a lock does so while the event is not marked as processed. -/
def Unprocessed (bus : Bus) (s : Sys) (a : Act) : Prop :=
  ∀ sub ∈ s.mover a, ∀ event ∈ sub.claims, isProcessed bus s.redis sub.group event.eventId = false

instance (s : Sys) (a : Act) : Decidable (Unprocessed bus s a) :=
  inferInstanceAs (Decidable (∀ sub ∈ s.mover a, ∀ event ∈ sub.claims, _))

private theorem Guarded.set_processing {value} (h : Guarded bus r y) :
    Guarded bus (r.set (bus.processingEventKey group eventId) value) y := by
  rcases h with hm | hl
  · exact .inl (isProcessed_set_processing.trans hm)
  · exact .inr (Redis.isSome_get_set hl)

private theorem Guarded.set_processed (h : Guarded bus r y) :
    Guarded bus (r.set (bus.processedEventKey group eventId) "1") y := by
  rcases h with hm | hl
  · exact .inl (isProcessed_set_processed hm)
  · exact .inr (Redis.isSome_get_set hl)

private theorem Guarded.delete_processing (h : Guarded bus r y) (hm : isProcessed bus r group eventId = true) :
    Guarded bus (r.delete (bus.processingEventKey group eventId)) y := by
  by_cases hk : bus.processingEventKey y.group y.eventId = bus.processingEventKey group eventId
  · refine .inl (isProcessed_delete_processing.trans ?_)
    rw [isProcessed, processed_eq_of_processing_eq hk]
    exact hm
  · rcases h with hd | hl
    · exact .inl (isProcessed_delete_processing.trans hd)
    · refine .inr ?_
      rw [Redis.get_delete_of_ne hk]
      exact hl

private theorem effect_deliverySound (hs : DeliverySound bus s) (hok : Unprocessed bus s a) (h : Effect bus s a t) :
    DeliverySound bus t := by
  cases h with
  | quiet hst hyl hsb =>
    have hp : ∀ group eventId, isProcessed bus t.redis group eventId = isProcessed bus s.redis group eventId := by
      intro group eventId
      rw [isProcessed, hst, isProcessed]
    refine ⟨fun y hy => ?_, fun sub hsu event hu => ?_, hyl ▸ hs.once⟩
    · rw [Guarded, hp, hst]
      exact hs.guarded y (hyl ▸ hy)
    · rw [hp]
      rcases hsb sub hsu event hu with ho | hn
      · exact hs.unlocking sub ho event hu
      · cases hn
  | claimed sub event hm hc hf hr hyl hsb =>
    -- an earlier yield of the event would be marked, or locked
    have hn : (⟨sub.group, event.eventId⟩ : Yield) ∉ s.yields := by
      intro hy
      rcases hs.guarded _ hy with hmr | hl
      · exact absurd hmr (by rw [hok sub hm event hc]; decide)
      · exact absurd hl (by rw [hf]; decide)
    refine ⟨fun y hy => ?_, fun sub' hs' event' hu => ?_, ?_⟩
    · rw [hr]
      rcases mem_concat.1 (hyl ▸ hy) with ho | rfl
      · exact (hs.guarded y ho).set_processing
      · exact .inr (by rw [Redis.get_set_self]; rfl)
    · rw [hr, isProcessed_set_processing]
      rcases hsb sub' hs' event' hu with ho | hn
      · exact hs.unlocking sub' ho event' hu
      · cases hn
    · rw [hyl, ← concat_eq_append]
      exact hs.once.concat hn
  | marked group event hr hyl hsb =>
    refine ⟨fun y hy => ?_, fun sub hsu event' hu => ?_, hyl ▸ hs.once⟩
    · rw [hr]
      exact (hs.guarded y (hyl ▸ hy)).set_processed
    · rw [hr]
      rcases hsb sub hsu event' hu with ho | hn
      · exact isProcessed_set_processed (hs.unlocking sub ho event' hu)
      · cases hn
        exact isProcessed_marked
  | unlocked sub event hmm hu hr hyl hsb =>
    have hmr := hs.unlocking sub hmm event hu
    refine ⟨fun y hy => ?_, fun sub' hs' event' hu' => ?_, hyl ▸ hs.once⟩
    · rw [hr]
      exact (hs.guarded y (hyl ▸ hy)).delete_processing hmr
    · rw [hr, isProcessed_delete_processing]
      rcases hsb sub' hs' event' hu' with ho | hn
      · exact hs.unlocking sub' ho event' hu'
      · cases hn

/-! ### Runs -/

/-- No subscription is open and nothing was yielded; the server may hold anything. -/
structure Sys.Idle (s : Sys) : Prop where
  subscriptions : s.subscriptions = []
  yields : s.yields = []

private theorem Sys.Idle.deliverySound (h : s.Idle) : DeliverySound bus s where
  guarded y hy := by
    rw [h.yields] at hy
    cases hy
  unlocking sub hs := by
    rw [h.subscriptions] at hs
    cases hs
  once := by
    rw [h.yields]
    exact nodup_nil

/-- In every run in which no consumer takes the lock of an event that is marked as processed, every event is yielded
at most once to a consumer group. -/
theorem event_yielded_once {bus : Bus} {s t : Sys} (hs : s.Idle) (h : Run (Steps (step bus)) (Unprocessed bus) s t)
    (group eventId : String) : t.yields.count ⟨group, eventId⟩ ≤ 1 := by
  have hsn : DeliverySound bus t := h.invariant (I := DeliverySound bus) hs.deliverySound
      (fun _ _ _ hsn hok hst => effect_deliverySound hsn hok (step_effect hst))
  exact nodup_iff_count_le_one.1 hsn.once _

/-! ### Two consumers -/

def defaultBus : Bus where
  queuePrefix := "wisdoverse-cell:events"
  queueMaxLength := 10000
  pendingClaimIdleMs := 360000
  pendingClaimCount := 10
  handlerTimeoutSeconds := 300
  validateJson data := if data = "" then none else some ⟨data, "task"⟩

def quietBus : Sys := ⟨Redis.empty, 0, [], []⟩

private theorem quietBus_idle : quietBus.Idle := ⟨rfl, rfl⟩

def commands (i n : Nat) : List Act := replicate n (.advance i "" 0)

/-- By the time the first consumer looks for the marker of the third event, that one is idle for 400 seconds, and the
second consumer has claimed it. -/
def thirdEventClaimed : List Act :=
  [.publish "a" "evt_1" 0, .publish "b" "evt_2" 0, .publish "c" "evt_3" 0,
    .subscribe "first" (some "qa-agent") ["a", "b", "c"], .subscribe "second" (some "qa-agent") ["a", "b", "c"]] ++
  commands 0 9 ++ commands 0 2 ++ [.tick 200000] ++ commands 0 5 ++ [.tick 200000] ++ commands 0 4 ++
  commands 1 8 ++ commands 1 1

/-- The first consumer handles the third event before the second one tries to take its lock. -/
theorem yielded_twice : quietBus.Idle ∧ ∃ t, Run (Steps (step defaultBus)) Always quietBus t ∧
      t.yields.count ⟨"qa-agent", "evt_3"⟩ = 2 :=
  ⟨quietBus_idle, exists_run_exec (thirdEventClaimed ++ commands 0 4 ++ commands 1 1) (by decide +kernel)⟩

/-- The second consumer tries to take the lock while the first one handles the event. -/
theorem event_yielded_once_contended : ∃ t, Run (Steps (step defaultBus)) (Unprocessed defaultBus) quietBus t ∧
      t.yields = [⟨"qa-agent", "evt_1"⟩, ⟨"qa-agent", "evt_2"⟩, ⟨"qa-agent", "evt_3"⟩] ∧
      t.yields.count ⟨"qa-agent", "evt_3"⟩ ≤ 1 :=
  exists_run_and (thirdEventClaimed ++ commands 0 1 ++ commands 1 1 ++ commands 0 3) (by decide +kernel)
    (fun _ hr => event_yielded_once quietBus_idle hr _ _)

end WisdoverseCell.EventBus

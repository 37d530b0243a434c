import Mathlib.Data.List.TakeDrop
import WisdoverseCell.Library.Transition

/-!
# The message history of a chat session

`add_message` gets the session from the store, or sets a new one, and sets it again with one message more.  Nothing
keeps another call out in between: the history is complete if every set finds the history that its call has got
(`history_complete`), and a message is lost if it does not.
-/

namespace WisdoverseCell.Gateway

open List Option

structure SessionMessage where
  role : String
  content : String
  timestamp : Nat
  deriving DecidableEq

/-- A session without the fields that the calls of `add_message` only carry along. -/
structure Session where
  id : String
  lastActive : Nat
  createdAt : Nat
  messageHistory : List SessionMessage

def maxMessageHistory : Nat := 10

def clip (history : List SessionMessage) : List SessionMessage := history.drop (history.length - maxMessageHistory)

inductive AddPhase
  | getting
  | creating
  | adding (session : Session)
  | returned (message : SessionMessage)

structure AddMessage where
  role : String
  content : String
  phase : AddPhase

structure Chat where
  key : String
  stored : Option Session
  calls : List AddMessage

/-- A call starts, or the `i`-th call makes its next get or set; `now` and `saved` are what `now_millis` returns on the
way, before and in `save_session`. -/
inductive ChatAct
  | start (role content : String)
  | next (i now saved : Nat)

/-- `add_message` up to its next command to the store. -/
def AddMessage.next (key : String) (stored : Option Session) (c : AddMessage) (now saved : Nat) :
    Option (Option Session × AddMessage) :=
  match c.phase with
  | .getting => some (stored, { c with phase := match stored with
      | some session => .adding session
      | none => .creating })
  | .creating =>
    let session : Session := ⟨key, now, now, []⟩
    some (some { session with lastActive := saved }, { c with phase := .adding session })
  | .adding session =>
    let message : SessionMessage := ⟨c.role, c.content, now⟩
    some (some { session with messageHistory := clip (session.messageHistory ++ [message]), lastActive := saved },
      { c with phase := .returned message })
  | .returned _ => none

def Chat.step (s : Chat) : ChatAct → Option Chat
  | .start role content => some { s with calls := s.calls ++ [⟨role, content, .getting⟩] }
  | .next i now saved => do
    let c ← s.calls[i]?
    let r ← c.next s.key s.stored now saved
    return { s with stored := r.1, calls := s.calls.set i r.2 }

def historyOf (stored : Option Session) : List SessionMessage := (stored.map Session.messageHistory).getD []

def AddMessage.added (c : AddMessage) : List SessionMessage :=
  match c.phase with
  | .returned message => [message]
  | _ => []

def Chat.added (s : Chat) : List SessionMessage := s.calls.flatMap AddMessage.added

/-- The history that a call has got from the store, until it has set its own. -/
def AddMessage.got (c : AddMessage) : Option (List SessionMessage) :=
  match c.phase with
  | .creating => some []
  | .adding session => some session.messageHistory
  | .getting | .returned _ => none

def Undisturbed (s : Chat) : ChatAct → Prop
  | .next i _ _ => ∀ c ∈ s.calls[i]?, ∀ history ∈ c.got, historyOf s.stored = history
  | .start _ _ => True

instance (s : Chat) (a : ChatAct) : Decidable (Undisturbed s a) := by
  unfold Undisturbed
  split <;> infer_instance

/-! ### Complete histories -/

private theorem clip_clip_append (history message) :
    clip (clip history ++ [message]) = clip (history ++ [message]) := by
  unfold clip maxMessageHistory
  rw [← drop_append_of_le_length (by omega), drop_drop]
  congr 1
  simp only [length_drop, length_append, length_singleton]
  omega

private theorem added_set {calls : List AddMessage} {i : Nat} {c} (c') (h : calls[i]? = some c)
    (hc : c.added = []) :
      ((calls.set i c').flatMap AddMessage.added).Perm (calls.flatMap AddMessage.added ++ c'.added) := by
  induction calls generalizing i with
  | nil => cases h
  | cons d calls ih =>
    cases i with
    | zero =>
      cases h
      rw [set_cons_zero, flatMap_cons, flatMap_cons, hc]
      exact perm_append_comm
    | succ =>
      rw [set_cons_succ, flatMap_cons, flatMap_cons, append_assoc]
      exact (ih h).append_left _

def Chat.Complete (initial : List SessionMessage) (s : Chat) : Prop :=
  ∃ order, order.Perm s.added ∧ historyOf s.stored = if order = [] then initial else clip (initial ++ order)

private theorem AddMessage.next_spec {key : String} {stored : Option Session} {c : AddMessage} {now saved r}
    (hf : ∀ history ∈ c.got, historyOf stored = history)
    (h : c.next key stored now saved = some r) :
    c.added = [] ∧ (r.2.added = [] ∧ historyOf r.1 = historyOf stored ∨
      ∃ message, r.2.added = [message] ∧ historyOf r.1 = clip (historyOf stored ++ [message])) := by
  unfold AddMessage.next at h
  unfold AddMessage.got at hf
  cases hp : c.phase with
  | getting =>
    simp only [hp] at h
    cases h
    refine ⟨by rw [AddMessage.added, hp], .inl ⟨?_, rfl⟩⟩
    cases stored <;> rfl
  | creating =>
    simp only [hp] at h hf
    cases h
    exact ⟨by rw [AddMessage.added, hp], .inl ⟨rfl, (hf [] rfl).symm⟩⟩
  | adding session =>
    simp only [hp] at h hf
    cases h
    refine ⟨by rw [AddMessage.added, hp], .inr ⟨_, rfl, ?_⟩⟩
    rw [hf session.messageHistory rfl]
    rfl
  | returned =>
    rw [hp] at h
    cases h

private theorem Chat.Complete.step {initial : List SessionMessage} {s t : Chat} {a} (h : s.Complete initial)
    (hok : Undisturbed s a) (hs : s.step a = some t) : t.Complete initial := by
  obtain ⟨order, hp, hh⟩ := h
  cases a with
  | start =>
    cases hs
    refine ⟨order, ?_, hh⟩
    simpa [Chat.added, AddMessage.added] using hp
  | next =>
    obtain ⟨c, hc, hs⟩ := bind_eq_some_iff.1 hs
    obtain ⟨r, hn, hs⟩ := bind_eq_some_iff.1 hs
    cases hs
    obtain ⟨hnw, ⟨ha, hsm⟩ | ⟨message, ha, hm⟩⟩ := AddMessage.next_spec (hok c hc) hn
    · refine ⟨order, hp.trans ?_, hsm.trans hh⟩
      have hst := added_set r.2 hc hnw
      rw [ha, append_nil] at hst
      exact hst.symm
    · refine ⟨order ++ [message], ?_, ?_⟩
      · have hst := added_set r.2 hc hnw
        rw [ha] at hst
        exact (hp.append_right _).trans hst.symm
      · rw [if_neg (by simp), hm, hh]
        split
        · rename_i hnl
          rw [hnl, nil_append]
        · rw [clip_clip_append, append_assoc]

/-- In every interleaving in which each set finds the history that its call has got, the messages that were added follow
the initial history in some order, up to the last ten. -/
theorem history_complete {s t : Chat} (hcalls : s.calls = []) (hrun : Run (Steps Chat.step) Undisturbed s t) :
    ∃ order, order.Perm t.added ∧
      historyOf t.stored = if order = [] then historyOf s.stored else clip (historyOf s.stored ++ order) := by
  refine hrun.invariant (I := Chat.Complete (historyOf s.stored)) ⟨[], ?_, rfl⟩ (fun _ _ _ h hok hs => h.step hok hs)
  rw [Chat.added, hcalls]
  exact Perm.nil

def noSession : Chat := ⟨"chat:user", none, []⟩

/-- Two messages one after the other. -/
theorem history_complete_in_turn :
    ∃ t, Run (Steps Chat.step) Undisturbed noSession t ∧ t.added.length = 2 ∧ (∀ c ∈ t.calls, c.added ≠ []) ∧
      ∃ order, order.Perm t.added ∧ historyOf t.stored =
        if order = [] then historyOf noSession.stored else clip (historyOf noSession.stored ++ order) :=
  exists_run_with [.start "user" "a", .next 0 1 1, .next 0 2 2, .next 0 3 3, .start "user" "b", .next 1 4 4,
    .next 1 5 5]
    (fun t => t.added.length = 2 ∧ ∀ c ∈ t.calls, c.added ≠ []) (by decide)
    (fun _ hrn ⟨ha, hr⟩ => ⟨ha, hr, history_complete rfl hrn⟩)

/-- Both calls find no session, and each sets one: the message that was added first is gone. -/
theorem first_message_lost : ∃ t, Run (Steps Chat.step) Always noSession t ∧ (∀ c ∈ t.calls, c.added ≠ []) ∧
      ¬∃ order, order.Perm t.added ∧ historyOf t.stored =
        if order = [] then historyOf noSession.stored else clip (historyOf noSession.stored ++ order) := by
  refine exists_run_with [.start "user" "a", .start "user" "b", .next 0 1 1, .next 1 1 1, .next 0 2 2, .next 0 3 3,
    .next 1 4 4, .next 1 5 5]
    (fun t => (∀ c ∈ t.calls, c.added ≠ []) ∧ t.added.length = 2 ∧ (historyOf t.stored).length = 1) (by decide)
    (fun t _ ⟨hr, ha, hs⟩ => ⟨hr, fun ⟨order, hp, hh⟩ => ?_⟩)
  have hl := hp.length_eq.trans ha
  rw [hh, if_neg (by rintro rfl; cases hl)] at hs
  simp [noSession, historyOf, clip, maxMessageHistory, hl] at hs

end WisdoverseCell.Gateway

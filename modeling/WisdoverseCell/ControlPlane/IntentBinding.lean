import Mathlib.Logic.Equiv.List
import WisdoverseCell.ControlPlane.ExecutionEffects
import WisdoverseCell.Library.JsonText

/-!
# What a claim binds

The inner digest of a claim is taken over canonical JSON and determines what was bound.  The bound digest and the
execution id are taken over texts joined by colons, which determine their parts unless a piece of one part has moved
to the other (`intent_binding_injective_iff`).
-/

namespace WisdoverseCell.ControlPlane

open List Function Json

/-! ### Texts joined by colons -/

/-- A piece at the end of one of the first texts stands at the beginning of the other second text, with a colon to
it. -/
def Shifted (a b a' b' : String) : Prop :=
  ∃ piece, (a' = a ++ ":" ++ piece ∧ b = piece ++ ":" ++ b') ∨ (a = a' ++ ":" ++ piece ∧ b' = piece ++ ":" ++ b)

private theorem toList_joined (a b) : (a ++ ":" ++ b).toList = a.toList ++ ':' :: b.toList := by
  rw [String.toList_append, String.toList_append, append_assoc]
  rfl

/-- The first text is a beginning of the other one, and what that has more begins with the colon. -/
private theorem joined_cases {a b a' b' : String} {piece} (ha : a'.toList = a.toList ++ piece)
    (hb : ':' :: b.toList = piece ++ ':' :: b'.toList) :
    (a = a' ∧ b = b') ∨ ∃ piece, a' = a ++ ":" ++ piece ∧ b = piece ++ ":" ++ b' := by
  cases piece with
  | nil =>
    rw [append_nil] at ha
    exact .inl ⟨(String.toList_injective ha).symm, String.toList_injective (cons.inj hb).2⟩
  | cons c piece =>
    obtain ⟨rfl, hp⟩ := cons.inj hb
    refine .inr ⟨String.ofList piece, String.toList_injective ?_, String.toList_injective ?_⟩
    · rw [toList_joined, String.toList_ofList, ha]
    · rw [toList_joined, String.toList_ofList]
      exact hp

/-- Joined texts are the same exactly if their parts are, or a piece has moved. -/
private theorem joined_eq_iff {a b a' b'} :
    a ++ ":" ++ b = a' ++ ":" ++ b' ↔ (a = a' ∧ b = b') ∨ Shifted a b a' b' := by
  constructor
  · intro h
    have ht := congrArg String.toList h
    rw [toList_joined, toList_joined] at ht
    rcases append_eq_append_iff.1 ht with ⟨piece, ha, hb⟩ | ⟨piece, ha, hb⟩
    · exact (joined_cases ha hb).imp_right (fun ⟨piece, h⟩ => ⟨piece, .inl h⟩)
    · exact (joined_cases ha hb).imp (fun h => ⟨h.1.symm, h.2.symm⟩) (fun ⟨piece, h⟩ => ⟨piece, .inr h⟩)
  · rintro (⟨rfl, rfl⟩ | ⟨piece, ⟨rfl, rfl⟩ | ⟨rfl, rfl⟩⟩)
    · rfl
    · simp only [String.append_assoc]
    · simp only [String.append_assoc]

private theorem Shifted.ne {a b a' b'} (h : Shifted a b a' b') : a ≠ a' := by
  rintro rfl
  obtain ⟨piece, ⟨h, -⟩ | ⟨h, -⟩⟩ := h <;>
  · have hl := congrArg (fun s : String => s.toList.length) h
    simp only [toList_joined, length_append, length_cons] at hl
    omega

private theorem colon_mem (a b) : ':' ∈ (a ++ ":" ++ b).toList := by
  rw [toList_joined]
  exact mem_append_right _ mem_cons_self

/-- Nothing moves between texts if the second ones have no colon, or the first ones. -/
private theorem not_shifted {a b a' b'} (h : ':' ∉ b.toList) (h' : ':' ∉ b'.toList) : ¬Shifted a b a' b' := by
  rintro ⟨piece, ⟨-, rfl⟩ | ⟨-, rfl⟩⟩
  · exact h (colon_mem _ _)
  · exact h' (colon_mem _ _)

private theorem not_shifted_left {a b a' b'} (h : ':' ∉ a.toList) (h' : ':' ∉ a'.toList) : ¬Shifted a b a' b' := by
  rintro ⟨piece, ⟨rfl, -⟩ | ⟨rfl, -⟩⟩
  · exact h' (colon_mem _ _)
  · exact h (colon_mem _ _)

/-! ### The intent -/

/-- Two roles that make no difference to a dispatch, up to the order of members and permissions. -/
structure AgentRole.SameConfiguration (a b : AgentRole) : Prop where
  companyId : a.companyId = b.companyId
  agentId : a.agentId = b.agentId
  adapterType : a.adapterType = b.adapterType
  adapterConfig : (obj a.adapterConfig).sortKeys = (obj b.adapterConfig).sortKeys
  permissions : a.permissions.Perm b.permissions
  budgetPolicyId : a.budgetPolicyId = b.budgetPolicyId
  escalationPolicy : (obj a.escalationPolicy).sortKeys = (obj b.escalationPolicy).sortKeys

/-- Two intents that differ at most in the order of members and permissions. -/
structure SameIntent (agent agent' : AgentRole) (payload payload' : JsonObj) (workItemId workItemId' : Option String) :
    Prop where
  agent : agent.SameConfiguration agent'
  payload : (obj payload).sortKeys = (obj payload').sortKeys
  workItem : workItemId = workItemId'

private theorem compactStyle_plain : compactStyle.Plain := ⟨⟨[], rfl⟩⟩

theorem optionalText_inj {a b} (h : optionalText a = optionalText b) : a = b := by
  cases a <;> cases b <;> simp_all [optionalText]

section

variable {rt : Runtime} {agent agent' : AgentRole} {payload payload' : JsonObj} {workItemId workItemId' : Option String}

private theorem sortKeysList_strings (ss : List String) : sortKeysList (ss.map .str) = ss.map .str := by
  induction ss with
  | nil => rfl
  | cons s ss ih => rw [map_cons, sortKeysList, sortKeys, ih]

theorem sortKeys_optionalText (a) : (optionalText a).sortKeys = optionalText a := by
  cases a <;> rfl

private theorem intent_of_sortKeys (h : (intentValue agent payload workItemId).sortKeys =
      (intentValue agent' payload' workItemId').sortKeys) :
    SameIntent agent agent' payload payload' workItemId workItemId' := by
  have hm (k : String) := lookup_of_sortKeys_eq h k
  have hp : agent.permissions.insertionSort (· ≤ ·) = agent'.permissions.insertionSort (· ≤ ·) := by
    have ha : sortKeysList ((agent.permissions.insertionSort (· ≤ ·)).map .str) =
        sortKeysList ((agent'.permissions.insertionSort (· ≤ ·)).map .str) := by
      simpa [lookup_cons, sortKeys] using hm "permissions"
    rw [sortKeysList_strings, sortKeysList_strings] at ha
    exact map_injective_iff.2 (fun _ _ => str.inj) ha
  have hb : optionalText agent.budgetPolicyId = optionalText agent'.budgetPolicyId := by
    simpa [lookup_cons, sortKeys_optionalText] using hm "budget_policy_id"
  have hw : optionalText workItemId = optionalText workItemId' := by
    simpa [lookup_cons, sortKeys_optionalText] using hm "work_item_id"
  refine ⟨⟨?_, ?_, ?_, ?_, ?_, optionalText_inj hb, ?_⟩, ?_, optionalText_inj hw⟩
  · simpa [lookup_cons, sortKeys] using hm "company_id"
  · simpa [lookup_cons, sortKeys] using hm "agent_id"
  · simpa [lookup_cons, sortKeys] using hm "adapter_type"
  · simpa [lookup_cons] using hm "adapter_config"
  · have hs := perm_insertionSort (· ≤ ·) agent'.permissions
    rw [← hp] at hs
    exact (perm_insertionSort (· ≤ ·) agent.permissions).symm.trans hs
  · simpa [lookup_cons] using hm "escalation_policy"
  · simpa [lookup_cons] using hm "input"

/-- The digest determines the intent, up to the order of its members. -/
theorem intent_of_intentHash (hs : Injective rt.sha256) (hf : FloatText rt.floatText) {digest}
    (h : intentHash rt agent payload workItemId = .ok digest)
    (h' : intentHash rt agent' payload' workItemId' = .ok digest) :
    SameIntent agent agent' payload payload' workItemId workItemId' := by
  unfold intentHash at h h'
  split at h
  · rename_i text ht
    split at h'
    · rename_i text' ht'
      obtain rfl : text = text' := hs ((Except.ok.inj h).trans (Except.ok.inj h').symm)
      exact intent_of_sortKeys (dumps_inj compactStyle_plain rfl hf ht ht')
    · cases h'
  · cases h

private theorem intentHash_eq_sha256 {digest} (h : intentHash rt agent payload workItemId = .ok digest) :
    digest = rt.sha256 (String.ofList
      (text compactStyle rt.floatText (intentValue agent payload workItemId).sortKeys)) := by
  unfold intentHash at h
  split at h
  · next ht =>
    obtain ⟨-, ht⟩ := Option.ite_none_right_eq_some.1 ht
    rw [← Except.ok.inj h, ← Option.some.inj ht]
  · cases h

private theorem sortKeys_of_intent (h : SameIntent agent agent' payload payload' workItemId workItemId') :
    (intentValue agent payload workItemId).sortKeys = (intentValue agent' payload' workItemId').sortKeys := by
  obtain ⟨⟨hc, ha, ht, hcf, hp, hb, he⟩, hpl, hw⟩ := h
  have hs : agent.permissions.insertionSort (· ≤ ·) = agent'.permissions.insertionSort (· ≤ ·) := by
    have : Std.Total (fun a b : String => a ≤ b) := ⟨String.le_total⟩
    have : IsTrans String (fun a b => a ≤ b) := ⟨fun _ _ _ => String.le_trans⟩
    refine Perm.eq_of_pairwise (fun _ _ _ _ => String.le_antisymm) (pairwise_insertionSort _ _)
      (pairwise_insertionSort _ _) ?_
    exact (perm_insertionSort _ _).trans (hp.trans (perm_insertionSort _ _).symm)
  rw [intentValue, intentValue, sortKeys, sortKeys]
  simp only [sortKeysObj, hcf, he, hpl, hc, ha, ht, hs, hb, hw]

/-- Digests of the same intent are the same, and only those. -/
private theorem intentHash_eq_iff (hs : Injective rt.sha256) (hf : FloatText rt.floatText) {digest digest'}
    (h : intentHash rt agent payload workItemId = .ok digest)
    (h' : intentHash rt agent' payload' workItemId' = .ok digest') :
    digest = digest' ↔ SameIntent agent agent' payload payload' workItemId workItemId' := by
  constructor
  · rintro rfl
    exact intent_of_intentHash hs hf h h'
  · intro hi
    rw [intentHash_eq_sha256 h, intentHash_eq_sha256 h', sortKeys_of_intent hi]

private theorem boundDigest_eq_iff (hs : Injective rt.sha256) {d d' key key' actorId actorId'}
    (hd : ':' ∉ d.toList) (hd' : ':' ∉ d'.toList) : boundDigest rt d key actorId = boundDigest rt d' key' actorId' ↔
      d = d' ∧ ((key = key' ∧ actorId = actorId') ∨ Shifted key actorId key' actorId') := by
  unfold boundDigest
  rw [hs.eq_iff, ← joined_eq_iff]
  have ha (d key actorId : String) : d ++ ":" ++ key ++ ":" ++ actorId = d ++ ":" ++ (key ++ ":" ++ actorId) := by
    simp only [String.append_assoc]
  rw [ha, ha, joined_eq_iff, or_iff_left (not_shifted_left hd hd')]

private theorem executionIdOf_eq_iff (hs : Injective rt.sha256) {company company' key key'} :
    executionIdOf rt company key = executionIdOf rt company' key' ↔
      (company = company' ∧ key = key') ∨ Shifted company key company' key' := by
  unfold executionIdOf
  rw [hs.eq_iff, joined_eq_iff]

end

/-- The bound digest of two claims determines what they bind, and the execution id the company and the key, if and
only if no piece has moved between the key and the actor of claims of one intent, or between the company and the
key. -/
theorem intent_binding_injective_iff {rt : Runtime} (hsha : Injective rt.sha256)
    (hhex : ∀ text, ':' ∉ (rt.sha256 text).toList) (hfloat : FloatText rt.floatText) {db db' : Db}
    {agent agent' : AgentRole} {req req' : ClaimRequest} {intent intent' : BoundIntent}
    (h : bindIntent rt db agent req = .ok intent) (h' : bindIntent rt db' agent' req' = .ok intent') :
    ((intent.digest = intent'.digest →
        SameIntent intent.current intent'.current req.payload req'.payload req.workItemId req'.workItemId ∧
          req.idempotencyKey = req'.idempotencyKey ∧ req.actorId = req'.actorId) ∧
      (intent.executionId = intent'.executionId → agent.companyId = agent'.companyId ∧
        req.idempotencyKey = req'.idempotencyKey)) ↔
    (¬(SameIntent intent.current intent'.current req.payload req'.payload req.workItemId req'.workItemId ∧
        Shifted req.idempotencyKey req.actorId req'.idempotencyKey req'.actorId) ∧
      ¬Shifted agent.companyId req.idempotencyKey agent'.companyId req'.idempotencyKey) := by
  obtain ⟨-, -, -, ⟨digest, hd, -, hb⟩, he, -⟩ := bindIntent_eq_ok h
  obtain ⟨-, -, -, ⟨digest', hd', -, hb'⟩, he', -⟩ := bindIntent_eq_ok h'
  have hc : ':' ∉ digest.toList := intentHash_eq_sha256 hd ▸ hhex _
  have hc' : ':' ∉ digest'.toList := intentHash_eq_sha256 hd' ▸ hhex _
  rw [hb, hb', he, he', boundDigest_eq_iff hsha hc hc', executionIdOf_eq_iff hsha, intentHash_eq_iff hsha hfloat hd hd']
  refine and_congr ⟨fun hinj => ?_, fun hn => ?_⟩ ⟨fun hinj => ?_, fun hn => ?_⟩
  · rintro ⟨hi, hsh⟩
    exact hsh.ne (hinj ⟨hi, .inr hsh⟩).2.1
  · rintro ⟨hi, hk | hsh⟩
    · exact ⟨hi, hk⟩
    · exact absurd ⟨hi, hsh⟩ hn
  · intro hsh
    exact hsh.ne (hinj (.inr hsh)).1
  · rintro (hk | hsh)
    · exact hk
    · exact absurd hsh hn

/-! ### Two companies -/

def builtinAgent (companyId : String) : AgentRole where
  companyId := companyId
  agentId := "recorder"
  adapterType := "builtin"
  adapterConfig := []
  permissions := []
  budgetPolicyId := none
  escalationPolicy := []
  status := "active"

private theorem companies_nodup : (["acme", "acme:eu"].map (id : String → String)).Nodup := by decide

private theorem recorders_nodup :
    ([builtinAgent "acme", builtinAgent "acme:eu"].map (fun r : AgentRole => (r.companyId, r.agentId))).Nodup := by
      decide

def twoCompaniesDb : Db :=
  { Db.empty with
    companies := ⟨["acme", "acme:eu"], companies_nodup⟩
    agentRoles := ⟨[builtinAgent "acme", builtinAgent "acme:eu"], recorders_nodup⟩ }

def dispatchRequest (runId key actorId : String) : ClaimRequest where
  runId := runId
  payload := []
  workItemId := none
  goalId := none
  actorId := actorId
  idempotencyKey := key
  ownerId := "owner-" ++ runId
  approvalId := "approval-" ++ runId

def recorderText (rt : Runtime) (companyId : String) : String :=
  String.ofList (text compactStyle rt.floatText (intentValue (builtinAgent companyId) [] none).sortKeys)

private theorem bindIntent_recorder (rt) {companyId} (hc : companyId = "acme" ∨ companyId = "acme:eu")
    (runId key actorId) :
    bindIntent rt twoCompaniesDb (builtinAgent companyId) (dispatchRequest runId key actorId) = .ok
      { current := builtinAgent companyId
        ceilingUsd := 0
        digest := boundDigest rt (rt.sha256 (recorderText rt companyId)) key actorId
        executionId := executionIdOf rt companyId key
        resource := agentResource "recorder" } := by
  have hh : intentHash rt (builtinAgent companyId) [] none = .ok (rt.sha256 (recorderText rt companyId)) := rfl
  have hcm : twoCompaniesDb.companies.get companyId = some companyId := by
    rcases hc with rfl | rfl <;> decide
  have hr : twoCompaniesDb.agentRoles.get (companyId, "recorder") = some (builtinAgent companyId) := by
    rcases hc with rfl | rfl <;> decide
  simp only [bindIntent, eq_ok]
  exact ⟨companyId, hcm, builtinAgent companyId, hr, 0, rfl, _, hh, _, hh, (), rfl, rfl⟩

def digitRuntime : Runtime where
  sha256 text := String.ofList (Nat.toDigits 10 (Encodable.encode (text.toList.map Char.toNat)))
  floatText := fractionText
  reprText _ := ""
  parseDecimal _ := none
  parseInt _ := none

private theorem digitRuntime_injective : Injective digitRuntime.sha256 := by
  intro s s' h
  have hd := String.ofList_injective h
  have hc := Encodable.encode_injective (toDigits_inj hd)
  exact String.toList_injective (map_injective_iff.2 (fun _ _ => Char.toNat_inj.1) hc)

private theorem colon_notMem_digitRuntime (text) : ':' ∉ (digitRuntime.sha256 text).toList := by
  intro hm
  rw [show (digitRuntime.sha256 text).toList = _ from String.toList_ofList] at hm
  exact absurd (isDigit_of_mem_toDigits hm) (by decide)

/-- Keys without colons never collide. -/
theorem intent_binding_injective_iff_digits :
    Injective digitRuntime.sha256 ∧ (∀ text, ':' ∉ (digitRuntime.sha256 text).toList) ∧
      ∀ key key', ':' ∉ key.toList → ':' ∉ key'.toList →
        executionIdOf digitRuntime "acme" key = executionIdOf digitRuntime "acme:eu" key' → "acme" = "acme:eu" := by
  refine ⟨digitRuntime_injective, colon_notMem_digitRuntime, fun key key' hk hk' heq => ?_⟩
  have h := bindIntent_recorder digitRuntime (.inl rfl) "run-1" key "ops"
  have h' := bindIntent_recorder digitRuntime (.inr rfl) "run-2" key' "ops"
  have hops : ':' ∉ "ops".toList := by decide
  exact (((intent_binding_injective_iff digitRuntime_injective colon_notMem_digitRuntime floatText_fractionText h h').2
    ⟨fun hs => not_shifted hops hops hs.2, not_shifted hk hk'⟩).2 heq).1

/-- Whatever the hash, the key `job` of the actor `ops:night` binds the same digest as the key `job:ops` of `night`, and
the key `eu:job` in the company `acme` the same execution id as the key `job` in `acme:eu`. -/
theorem colons_collide : ("job" ≠ "job:ops" ∧ "ops:night" ≠ "night" ∧ "acme" ≠ "acme:eu" ∧ "eu:job" ≠ "job") ∧
      (∀ rt, ∃ intent intent',
        bindIntent rt twoCompaniesDb (builtinAgent "acme") (dispatchRequest "run-1" "job" "ops:night") = .ok intent ∧
        bindIntent rt twoCompaniesDb (builtinAgent "acme") (dispatchRequest "run-2" "job:ops" "night") = .ok intent' ∧
        intent.digest = intent'.digest) ∧
      ∀ rt, ∃ intent intent',
        bindIntent rt twoCompaniesDb (builtinAgent "acme") (dispatchRequest "run-1" "eu:job" "ops") = .ok intent ∧
        bindIntent rt twoCompaniesDb (builtinAgent "acme:eu") (dispatchRequest "run-2" "job" "ops") = .ok intent' ∧
        intent.executionId = intent'.executionId := by
  refine ⟨by decide, fun rt => ?_, fun rt => ?_⟩
  · refine ⟨_, _, bindIntent_recorder rt (.inl rfl) _ _ _, bindIntent_recorder rt (.inl rfl) _ _ _, ?_⟩
    refine congrArg rt.sha256 ?_
    simp only [String.append_assoc]
    rfl
  · exact ⟨_, _, bindIntent_recorder rt (.inl rfl) _ _ _, bindIntent_recorder rt (.inr rfl) _ _ _, rfl⟩

end WisdoverseCell.ControlPlane

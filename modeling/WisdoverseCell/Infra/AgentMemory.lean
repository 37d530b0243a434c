import Mathlib.Data.List.Induction
import WisdoverseCell.Library.Checked

/-!
# Agent memory

`AgentMemory.save` decides on the scope and then joins the key to it, so a key that climbs, or an absolute one, leaves
the directory of the scope.  What is written stays in the directory of the agent, or of the workflow, exactly if the
path `scope/key` by itself leads there (`save_confined_iff`).
-/

namespace WisdoverseCell.Infra

open List

structure PurePath where
  absolute : Bool
  parts : List (List Char)
  deriving DecidableEq

namespace PurePath

variable {s w : String} {base : PurePath} {parts : List (List Char)}

def ofString (s : String) : PurePath :=
  ⟨s.toList.head? = some '/', (s.toList.splitOn '/').filter (· ∉ [[], ['.']])⟩

def join (p : PurePath) (s : String) : PurePath :=
  if (ofString s).absolute then ofString s else ⟨p.absolute, p.parts ++ (ofString s).parts⟩

/-- A step of the lexical normalisation, on the parts so far, the last one first. -/
def climb (absolute : Bool) (above : List (List Char)) (part : List Char) : List (List Char) :=
  if part = ['.', '.'] then
    match above with
    | [] => if absolute then [] else [part]
    | parent :: rest => if parent = part then part :: above else rest
  else part :: above

def normalise (p : PurePath) : PurePath := ⟨p.absolute, (p.parts.foldl (climb p.absolute) []).reverse⟩

/-- A name without separators that denotes neither the directory nor the one above. -/
def Plain (s : String) : Prop := '/' ∉ s.toList ∧ s.toList ∉ [[], ['.']] ∧ ['.', '.'] ∉ [s.toList]

private theorem Plain.kept (h : Plain s) : [s.toList].filter (· ∉ [[], ['.']]) = [s.toList] :=
  filter_cons_of_pos (decide_eq_true h.2.1)

private theorem ofString_plain (h : Plain s) : ofString s = ⟨false, [s.toList]⟩ := by
  have hh : s.toList.head? ≠ some '/' := fun hh => h.1 (mem_of_mem_head? hh)
  simp only [ofString, hh, splitOn_eq_singleton h.1, h.kept, decide_false]

/-- In a normal form only the first parts climb. -/
private theorem foldl_climb_eq (parts : List (List Char)) :
    ∃ names n, parts.foldl (climb false) [] = names ++ replicate n ['.', '.'] ∧
    ['.', '.'] ∉ names := by
  induction parts using reverseRecOn with
  | nil => exact ⟨[], 0, rfl, not_mem_nil⟩
  | append_singleton parts part ih =>
    obtain ⟨names, n, hf, hn⟩ := ih
    rw [foldl_append, hf, foldl_cons, foldl_nil]
    by_cases hp : part = ['.', '.']
    · cases names with
      | nil =>
        refine ⟨[], n + 1, ?_, not_mem_nil⟩
        cases n <;> simp [climb, hp, replicate_succ]
      | cons name names =>
        obtain ⟨hne, hn⟩ := not_or.1 (mt mem_cons.2 hn)
        refine ⟨names, n, ?_, hn⟩
        simp [climb, hp, Ne.symm hne]
    · refine ⟨part :: names, n, if_neg hp, ?_⟩
      exact fun hm => (mem_cons.1 hm).elim (fun h => hp h.symm) hn

/-- A path that does not climb in its normal form leads there from every directory. -/
private theorem foldl_climb_append (absolute above) (h : ['.', '.'] ∉ parts.foldl (climb false) []) :
    parts.foldl (climb absolute) above = parts.foldl (climb false) [] ++ above := by
  induction parts using reverseRecOn with
  | nil => rfl
  | append_singleton parts part ih =>
    simp only [foldl_append, foldl_cons, foldl_nil] at h ⊢
    by_cases hp : part = ['.', '.']
    · cases hN : parts.foldl (climb false) [] with
      | nil => simp [hN, climb, hp] at h
      | cons name names =>
        rw [hN] at h ih
        by_cases hname : name = part
        · simp [climb, hname, hp] at h
        · have hc {absolute above} : climb absolute (name :: above) part = above := by simp [climb, hp, hp ▸ hname]
          rw [hc] at h ⊢
          rw [ih (by simp [h, Ne.symm (hp ▸ hname : name ≠ ['.', '.'])]), cons_append, hc]
    · have hc {absolute above} : climb absolute above part = part :: above := if_neg hp
      rw [hc] at h ⊢
      rw [ih (fun hm => h (mem_cons_of_mem _ hm)), hc, cons_append]

private theorem normalise_append (h : ['.', '.'] ∉ (normalise ⟨false, parts⟩).parts) :
    normalise ⟨base.absolute, base.parts ++ parts⟩ =
      ⟨base.absolute, base.normalise.parts ++ (normalise ⟨false, parts⟩).parts⟩ := by
  have hf := foldl_climb_append base.absolute (base.parts.foldl (climb base.absolute) []) (mt mem_reverse.2 h)
  simp only [normalise, foldl_append, hf, reverse_append]

/-- A normal form whose first part is a name has only names. -/
private theorem not_climbs {name rest} (h : (normalise ⟨false, parts⟩).parts = name :: rest) (hn : name ≠ ['.', '.']) :
    ['.', '.'] ∉ (normalise ⟨false, parts⟩).parts := by
  obtain ⟨names, n, hf, hnm⟩ := foldl_climb_eq parts
  simp only [normalise, hf, reverse_append, reverse_replicate] at h ⊢
  cases n with
  | zero => simpa using hnm
  | succ n =>
    rw [replicate_succ, cons_append] at h
    exact absurd (cons.inj h).1.symm hn

end PurePath

open PurePath

structure AgentMemory where
  agentId : String
  base : PurePath
  isCoordinator : Bool

namespace AgentMemory

def checkPermission (m : AgentMemory) (scope : String) (workflowId : Option String) : Except String Unit :=
  ensure (m.isCoordinator = true ∨
      scope ∈ m.agentId :: ((workflowId.filter (· ≠ "")).map ("workflows/" ++ ·)).toList)
    ("Agent " ++ m.agentId ++ " cannot write to scope '" ++ scope ++ "'")

/-- The file that is written, by its normal form, and its content. -/
def save (m : AgentMemory) (scope key content : String) (workflowId : Option String) :
    Except String (PurePath × String) := do
  m.checkPermission scope workflowId
  pure (((m.base.join scope).join key).normalise, content)

/-- The files of a scope, which `load_context` reads. -/
def ReadScope (m : AgentMemory) (scope : String) (path : PurePath) : Prop :=
  ∃ name, ['.', 'm', 'd'] <:+ name ∧
    path = ⟨(m.base.join scope).normalise.absolute, (m.base.join scope).normalise.parts ++ [name]⟩

/-- The path lies in that directory below the base. -/
def Inside (m : AgentMemory) (dir : List String) (path : PurePath) : Prop :=
  path.absolute = m.base.absolute ∧ ∃ rest ≠ [], path.parts = m.base.normalise.parts ++ dir.map String.toList ++ rest

variable {m other : AgentMemory} {scope key : String} {path : PurePath} {dir : List String}

private theorem normalise_plain (hs : Plain scope) :
    (m.base.join scope).normalise = ⟨m.base.absolute, m.base.normalise.parts ++ [scope.toList]⟩ := by
  have hne : scope.toList ≠ ['.', '.'] := fun he => hs.2.2 (he ▸ mem_singleton_self _)
  have hc : (normalise ⟨false, [scope.toList]⟩).parts = [scope.toList] := by simp [normalise, climb, hne]
  have hj : m.base.join scope = ⟨m.base.absolute, m.base.parts ++ [scope.toList]⟩ := by simp [join, ofString_plain hs]
  rw [hj, normalise_append (hc.symm ▸ hs.2.2), hc]

/-- The path `scope/key` by itself leads below this directory. -/
def LeadsBelow (scope key : String) (dir : List String) : Prop :=
  ((ofString scope).join key).normalise.absolute = false ∧
    ∃ rest ≠ [], ((ofString scope).join key).normalise.parts = dir.map String.toList ++ rest

/-- Where the path leads by itself, it leads from every base. -/
private theorem LeadsBelow.inside {first : String} (h : LeadsBelow scope key (first :: dir))
    (hs : (ofString scope).absolute = false) (hf : first.toList ≠ ['.', '.']) :
    m.Inside (first :: dir) ((m.base.join scope).join key).normalise := by
  obtain ⟨habs, rest, hne, hp⟩ := h
  have hk : (ofString key).absolute = false := by
    by_contra hk
    rw [Bool.not_eq_false] at hk
    simp [join, normalise, hk] at habs
  have hj : (ofString scope).join key =
    ⟨false, (ofString scope).parts ++ (ofString key).parts⟩ := by simp [join, hs, hk]
  have hj' : (m.base.join scope).join key =
      ⟨m.base.absolute, m.base.parts ++ ((ofString scope).parts ++ (ofString key).parts)⟩ := by
    simp [join, hs, hk]
  rw [hj] at hp
  rw [hj', normalise_append (not_climbs hp hf), hp]
  exact ⟨rfl, rest, hne, (append_assoc _ _ _).symm⟩

private theorem Inside.leadsBelow (h : (mk m.agentId ⟨false, []⟩ m.isCoordinator).Inside dir
    (((PurePath.mk false []).join scope).join key).normalise) : LeadsBelow scope key dir := by
  have hj : (PurePath.mk false []).join scope = ofString scope := by
    unfold join
    split
    · rfl
    · next hs => rw [nil_append, ← eq_false_of_ne_true hs]
  rw [hj] at h
  exact h

/-- What lies in a directory of the base is not read as the scope of another name. -/
private theorem Inside.not_read {first : String} (h : m.Inside (first :: dir) path) (hb : other.base = m.base)
    (hs : Plain scope) (hne : first ≠ scope ∨ dir ≠ []) : ¬other.ReadScope scope path := by
  rintro ⟨name, -, rfl⟩
  obtain ⟨-, rest, hr, hp⟩ := h
  rw [normalise_plain hs, hb, append_assoc, append_assoc, append_cancel_left_eq] at hp
  obtain ⟨hf, hp⟩ := cons.inj hp
  obtain rfl := String.toList_inj.1 hf
  rcases hne with hne | hne
  · exact hne rfl
  · cases dir <;> cases rest <;> simp_all

private theorem save_eq_ok {content workflowId file} : m.save scope key content workflowId = .ok file ↔
    m.checkPermission scope workflowId = .ok () ∧ (((m.base.join scope).join key).normalise, content) = file := by
  simp only [save, eq_ok]
  exact ⟨fun ⟨_, h⟩ => h, fun h => ⟨(), h⟩⟩

private theorem scope_relative {workflowId} (ha : Plain m.agentId) (hm : m.isCoordinator = false)
    (h : m.checkPermission scope workflowId = .ok ()) : (ofString scope).absolute = false := by
  have hs := ensure_eq_ok.1 h
  simp only [hm, Bool.false_eq_true, false_or, mem_cons] at hs
  rcases hs with rfl | hs
  · rw [ofString_plain ha]
  · obtain ⟨w, -, rfl⟩ := Option.map_eq_some_iff.1 (Option.mem_toList.1 hs)
    simp [ofString, String.toList_append]

/-- The file is in the directory of the agent or of the workflow, if that is a plain name, and no other agent reads it
as global or as its own. -/
def Confined (m : AgentMemory) (workflowId : Option String) (path : PurePath) : Prop :=
  (m.Inside [m.agentId] path ∨ ∃ w ∈ workflowId, Plain w ∧ m.Inside ["workflows", w] path) ∧
    ∀ other : AgentMemory, other.base = m.base → Plain other.agentId → other.agentId ≠ m.agentId →
      ¬other.ReadScope "global" path ∧ ¬other.ReadScope other.agentId path

/-- What a `save` that is permitted writes is confined, under every base directory, if and only if the path
`scope/key` by itself leads below the directory of the agent, or below that of the workflow and its id is a plain
name. -/
theorem save_confined_iff (m : AgentMemory) (hm : m.isCoordinator = false) (ha : Plain m.agentId)
    (hag : m.agentId ≠ "global") (scope key content : String) (workflowId : Option String)
    (hp : m.checkPermission scope workflowId = .ok ()) :
    (∀ base, ∃ file, { m with base := base }.save scope key content workflowId = .ok file ∧
      { m with base := base }.Confined workflowId file.1) ↔
    (LeadsBelow scope key [m.agentId] ∨ ∃ w ∈ workflowId, Plain w ∧ LeadsBelow scope key ["workflows", w]) := by
  constructor
  · intro h
    obtain ⟨file, hf, hi, -⟩ := h ⟨false, []⟩
    obtain ⟨-, rfl⟩ := save_eq_ok.1 hf
    rcases hi with hi | ⟨w, hw, hpl, hi⟩
    · exact .inl hi.leadsBelow
    · exact .inr ⟨w, hw, hpl, hi.leadsBelow⟩
  · intro h base
    refine ⟨_, save_eq_ok.2 ⟨hp, rfl⟩, ?_⟩
    have hs := scope_relative ha hm hp
    have hg : Plain "global" := ⟨by decide, by decide, by decide⟩
    rcases h with h | ⟨w, hw, hpl, h⟩
    · have hi := h.inside (m := { m with base := base }) hs (fun he => ha.2.2 (he ▸ mem_singleton_self _))
      exact ⟨.inl hi, fun other hb ho hne => ⟨hi.not_read hb hg (.inl hag), hi.not_read hb ho (.inl (Ne.symm hne))⟩⟩
    · have hi := h.inside (m := { m with base := base }) hs (by decide)
      exact ⟨.inr ⟨w, hw, hpl, hi⟩, fun other hb ho _ =>
        ⟨hi.not_read hb hg (.inr (cons_ne_nil _ _)), hi.not_read hb ho (.inr (cons_ne_nil _ _))⟩⟩

def memoryOf (agentId : String) : AgentMemory := ⟨agentId, ofString "data/agent-memory", false⟩

/-- A key may climb as long as it stays below the directory. -/
theorem save_confined_iff_sub : Plain (memoryOf "qa-agent").agentId ∧ ∀ base, ∃ file,
    { memoryOf "qa-agent" with base := base }.save "qa-agent" "sub/../notes.md" "" none = .ok file ∧
      { memoryOf "qa-agent" with base := base }.Confined none file.1 := by
  have hp : Plain (memoryOf "qa-agent").agentId := ⟨by decide +kernel, by decide +kernel, by decide +kernel⟩
  refine
    ⟨hp, (save_confined_iff (memoryOf "qa-agent") rfl hp (by decide) "qa-agent" "sub/../notes.md" "" none rfl).2 ?_⟩
  exact .inl ⟨by decide +kernel, ["notes.md".toList], by decide, by decide +kernel⟩

/-- A key that climbs out of the directory of the agent writes what every agent reads. -/
theorem climbing_key_read_as_global :
    Plain (memoryOf "qa-agent").agentId ∧
      ∃ file, (memoryOf "qa-agent").save "qa-agent" "../global/all.md" "" none = .ok file ∧
        (memoryOf "dev-agent").ReadScope "global" file.1 :=
  ⟨⟨by decide +kernel, by decide +kernel, by decide +kernel⟩, _, rfl,
    "all.md".toList, by decide +kernel, by decide +kernel⟩

end AgentMemory

end WisdoverseCell.Infra

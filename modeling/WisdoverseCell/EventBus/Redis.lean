import Mathlib.Data.List.Basic

/-!
# The Redis commands of the event bus

Strings and streams are two maps of one server.  A consumer group remembers the last entry it handed out and, in its
pending list, who holds each entry that was not acknowledged and since when.  Every command is one function.
-/

namespace WisdoverseCell.EventBus

variable {group consumer : String} {count now : Nat}

structure StreamEntry where
  id : Nat
  data : String

structure PendingEntry where
  id : Nat
  consumer : String
  deliveredAt : Nat
  deriving DecidableEq

structure ConsumerGroup where
  lastDelivered : Nat
  pending : List PendingEntry

structure Stream where
  lastId : Nat
  entries : List StreamEntry
  groups : String → Option ConsumerGroup

def Stream.empty : Stream := ⟨0, [], fun _ => none⟩

structure Redis where
  strings : String → Option String
  streams : String → Stream

def Redis.empty : Redis := ⟨fun _ => none, fun _ => Stream.empty⟩

namespace Redis

/-! ### Strings -/

def get (r : Redis) (key : String) : Option String := r.strings key

def set (r : Redis) (key value : String) : Redis :=
  { r with strings := fun k => if k = key then some value else r.strings k }

/-- `SET … NX`: the new server, or `none` if the key is there. -/
def setNx (r : Redis) (key value : String) : Option Redis :=
  match r.get key with
  | some _ => none
  | none => some (r.set key value)

def delete (r : Redis) (key : String) : Redis :=
  { r with strings := fun k => if k = key then none else r.strings k }

variable {r r' : Redis} {key key' value : String}

theorem get_set : (r.set key value).get key' = if key' = key then some value else r.get key' := rfl

theorem get_set_self : (r.set key value).get key = some value := if_pos rfl

theorem get_set_of_ne (h : key' ≠ key) : (r.set key value).get key' = r.get key' := if_neg h

theorem get_delete_of_ne (h : key' ≠ key) : (r.delete key).get key' = r.get key' := if_neg h

theorem isSome_get_set (h : (r.get key').isSome) : ((r.set key value).get key').isSome := by
  rw [get_set]
  split
  · rfl
  · exact h

theorem setNx_eq_some (h : r.setNx key value = some r') : r.get key = none ∧ r' = r.set key value := by
  unfold setNx at h
  split at h
  · cases h
  · rename_i hf
    exact ⟨hf, (Option.some.inj h).symm⟩

/-! ### Streams -/

def setStream (r : Redis) (key : String) (stream : Stream) : Redis :=
  { r with streams := fun k => if k = key then stream else r.streams k }

def setGroup (r : Redis) (key group : String) (g : ConsumerGroup) : Redis :=
  r.setStream key { r.streams key with
    groups := fun name => if name = group then some g else (r.streams key).groups name }

/-- `XGROUP CREATE … 0 MKSTREAM`; a group that is there is left as it is. -/
def xgroupCreate (r : Redis) (key group : String) : Redis :=
  match (r.streams key).groups group with
  | some _ => r
  | none => r.setGroup key group ⟨0, []⟩

/-- `XADD … MAXLEN ~ maxlen`: the server may evict entries from the front, but keeps `maxlen` of them. -/
def xadd (r : Redis) (key data : String) (maxlen evicted : Nat) : Redis :=
  let stream := r.streams key
  let entries := stream.entries ++ [⟨stream.lastId + 1, data⟩]
  r.setStream key { stream with
    lastId := stream.lastId + 1
    entries := entries.drop (min evicted (entries.length - maxlen)) }

def xreadgroup (r : Redis) (now : Nat) (group consumer key : String) (count : Nat) : Redis × List StreamEntry :=
  match (r.streams key).groups group with
  | none => (r, [])
  | some g =>
    let fresh := ((r.streams key).entries.filter (fun e => g.lastDelivered < e.id)).take count
    (r.setGroup key group
      ⟨(fresh.getLast?.map StreamEntry.id).getD g.lastDelivered,
        g.pending ++ fresh.map (fun e => ⟨e.id, consumer, now⟩)⟩, fresh)

/-- The pending entries that `XAUTOCLAIM` from the start of the list takes: it looks at ten times as many as it may
claim. -/
def claimable (g : ConsumerGroup) (now minIdle count : Nat) : List PendingEntry :=
  ((g.pending.take (10 * count)).filter (fun p => p.deliveredAt + minIdle ≤ now)).take count

/-- `XAUTOCLAIM key group consumer minIdle 0-0 COUNT count`.  A claimed entry that was evicted from the stream is
dropped from the pending list. -/
def xautoclaim (r : Redis) (now : Nat) (group consumer key : String) (minIdle count : Nat) : Redis × List StreamEntry :=
  match (r.streams key).groups group with
  | none => (r, [])
  | some g =>
    let claimed := claimable g now minIdle count
    let entry (p : PendingEntry) := (r.streams key).entries.find? (fun e => e.id = p.id)
    (r.setGroup key group { g with
      pending := g.pending.filterMap (fun p =>
        if p ∈ claimed then (entry p).map (fun e => ⟨e.id, consumer, now⟩) else some p) },
      claimed.filterMap entry)

def xack (r : Redis) (key group : String) (id : Nat) : Redis :=
  match (r.streams key).groups group with
  | none => r
  | some g => r.setGroup key group { g with pending := g.pending.filter (fun p => p.id ≠ id) }

/-! No stream command writes a string. -/

@[simp] theorem strings_xadd {data maxlen evicted} :
    (r.xadd key data maxlen evicted).strings = r.strings := rfl

@[simp] theorem strings_xgroupCreate : (r.xgroupCreate key group).strings = r.strings := by
  unfold xgroupCreate
  split <;> rfl

@[simp] theorem strings_xreadgroup : (r.xreadgroup now group consumer key count).1.strings = r.strings := by
  unfold xreadgroup
  split <;> rfl

@[simp] theorem strings_xautoclaim {minIdle} :
    (r.xautoclaim now group consumer key minIdle count).1.strings = r.strings := by
  unfold xautoclaim
  split <;> rfl

@[simp] theorem strings_xack {id} : (r.xack key group id).strings = r.strings := by
  unfold xack
  split <;> rfl

end Redis

end WisdoverseCell.EventBus

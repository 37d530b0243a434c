import WisdoverseCell.DevAgent.RowMonitor
import WisdoverseCell.Library.Changes

/-!
# Programs that are alone with the database

If transactions do not overlap, every program changes the database as if nobody else were there.  A function that is
made of parts makes the change that each of them makes (`MadeOf.makes`), and a loop over the rows of a query handles
each row as it was read.
-/

namespace WisdoverseCell.DevAgent.Transactions

open Prog List

variable {change : TaskChange} {db : DevDb} {row : TaskRow} {taskId : String}

theorem countP_setTask_le {id p} (h : db.tasks.get id = some row) (hp : p (change.write row) = true → p row = true) :
    (db.apply (.setTask id change)).tasks.rows.countP p ≤ db.tasks.rows.countP p := by
  have hc : (db.apply (.setTask id change)).tasks.rows.countP p + _ = db.tasks.rows.countP p + _ :=
    Table.countP_modify change.write_id h p
  cases ha : p (change.write row) with
  | false =>
    simp only [ha] at hc
    split at hc <;> simp at hc <;> omega
  | true =>
    simp only [ha, hp ha] at hc
    omega

def Part.changes (C : Change DevDb) : Part → Prop
  | .call _ => True
  | .log entry => ∀ db, C.rel db (db.apply (.addLog entry))
  | .event e => ∀ db, C.rel db (db.apply (.addEvent e))
  | .polled taskId => ∀ db row change, db.tasks.get taskId = some row → change.status = none →
      change.retryCount = none →
      change.mrIid = none → C.rel db (db.apply (.setTask taskId change))
  | .update taskId status mrIid => ∀ db row change, db.tasks.get taskId = some row →
      canTransition row.status status = true → change.status = some status → change.retryCount = none →
      change.mrIid = mrIid → C.rel db (db.apply (.setTask taskId change))

section

variable {cfg : Settings} {A : (c : Call) → c.Reply → Prop} {I : DevDb → Prop} {C : Change DevDb} {α : Type}

/-- The rule for `update_status` in a transaction that is alone. -/
theorem whole_updateStatus {status Q}
    (hr : (∀ row, db.tasks.get taskId = some row → canTransition row.status status = false) → Q (.ok false) db)
    (hw : ∀ row, db.tasks.get taskId = some row → canTransition row.status status = true →
      Q (.ok true) (db.apply (.setTask taskId { change with status := some status }))) :
    (updateStatus taskId status change).Guarded ((devAgent cfg).whole A I) db Q := by
  refine guarded_whole_get ?_
  cases hrw : db.tasks.get taskId with
  | none => exact hr (fun row hs => by rw [hrw] at hs; cases hs)
  | some row =>
    dsimp only
    split
    · rename_i hc
      exact Guarded.bind (guarded_update trivial (hw row hrw hc))
    · rename_i hc
      refine hr (fun row' hr' => ?_)
      rw [hrw] at hr'
      cases hr'
      exact Bool.not_eq_true _ ▸ hc

theorem whole_getByTaskId {Q} (hQ : ∀ r, Q r db) : (getByTaskId taskId).Guarded ((devAgent cfg).whole A I) db Q := by
  refine guarded_whole_get ?_
  split
  · exact hQ _
  · exact hQ _
  · exact hQ _

/-- A program changes the database as its parts do. -/
theorem MadeOf.makes {P : Part → Prop} {p : Dev α} (h : MadeOf P p) (hP : ∀ part, P part → part.changes C) :
    (devAgent cfg).Makes A I C p := by
  induction h with
  | done a => exact makes_done a
  | raise e => exact makes_raise e
  | read _ ih => exact makes_read ih
  | call _ _ ih => exact makes_call ih
  | log hp _ ih => exact makes_bind (makes_update (hP _ hp)) ih
  | event hp _ ih => exact makes_bind (makes_update (hP _ hp)) ih
  | @polled taskId polledAt k hp _ ih =>
    refine makes_bind (fun db => guarded_whole_get ?_) ih
    cases hrw : db.tasks.get taskId with
    | none => exact C.refl db
    | some row => exact guarded_update trivial (hP _ hp db row _ hrw rfl rfl rfl)
  | @update taskId status change k hp hr _ ih =>
    refine makes_bind (fun db => ?_) ih
    exact whole_updateStatus (fun _ => C.refl db) (fun row hrw hc => hP _ hp db row _ hrw hc rfl hr rfl)

/-- The rule for the insertion of a task. -/
theorem whole_createTask {Q} (he : Q (.ok none) db)
    (hc : Q (.error .other) db) (hn : db.hasWorkPackage row.wpId = false → db.tasks.get row.id = none →
      Q (.ok (some row)) (db.apply (.insertTask row))) : (createTask row).Guarded ((devAgent cfg).whole A I) db Q := by
  intro db' heq
  obtain rfl : db' = db := heq
  cases hwp : db'.hasWorkPackage row.wpId with
  | true => simpa [hwp, Prog.Guarded] using he
  | false =>
    cases hr : db'.tasks.get row.id with
    | some => simpa [hwp, hr, Prog.Guarded] using hc
    | none => simpa [hwp, hr] using ⟨trivial, hn hwp hr⟩

theorem whole_ask {c} (h : c.Reply = Except Fault α) {Q}
    (hQ : ∀ r, A c r → Q (cast h r) db) : (ask c h).Guarded ((devAgent cfg).whole A I) db Q :=
  ⟨trivial, fun r hr => guarded_ofExcept (hQ r hr)⟩

theorem whole_stage (events) {Q} (hQ : Q (.ok ()) ((events.map Update.addEvent).foldl DevDb.apply db)) :
    (stage events).Guarded ((devAgent cfg).whole A I) db Q := by
  induction events generalizing db with
  | nil => exact hQ
  | cons event events ih => exact Guarded.bind (guarded_update trivial (ih hQ))

/-- The rule for a loop over different rows, each of which is changed by its own round only. -/
theorem whole_forEach_rows {f rows} (hn : (rows.map TaskRow.id).Nodup)
    (hc : ∀ row, Concerns row.id (f row)) (hf : ∀ row ∈ rows, ∀ db', db'.tasks.get row.id = some row →
      (f row).Guarded ((devAgent cfg).whole A I) db' (fun _ db'' => C.rel db' db''))
    (hrw : ∀ row ∈ rows, db.tasks.get row.id = some row) :
    (forEach f rows).Guarded ((devAgent cfg).whole A I) db (fun _ db' => C.rel db db') := by
  refine guarded_forEach (I := fun rest db' => C.rel db db' ∧ rest ⊆ rows ∧ (rest.map TaskRow.id).Nodup ∧
    ∀ row ∈ rest, db'.tasks.get row.id = some row) ?_ (fun _ hi => hi.1) ⟨C.refl db, Subset.refl _, hn, hrw⟩
  rintro row rest db' ⟨hrl, hsb, hd, hrd⟩
  rw [map_cons, nodup_cons] at hd
  obtain ⟨hnt, hd⟩ := hd
  have hs := hf row (hsb mem_cons_self) db' (hrd row mem_cons_self)
  -- the other rows are as they were
  refine (hs.frame (J := fun db'' => ∀ k, k ≠ row.id → db''.tasks.get k = db'.tasks.get k) (hc row)
    (fun _ _ => rfl) (fun db'' u hu hsm k hk => ?_) (fun _ _ _ _ hsm => hsm)).mono (fun r db'' hr => ?_)
  · refine Eq.trans ?_ (hsm k hk)
    change (db''.apply u).tasks.get k = _
    rw [db''.get_apply]
    cases u with
    | insertTask => exact if_neg (fun heq => hk (heq.symm.trans hu))
    | setTask => exact if_neg (fun heq => hk (heq.symm.trans hu))
    | addLog => rfl
    | addEvent => rfl
  · obtain ⟨hr', hsm⟩ := hr
    cases r with
    | error => exact C.trans _ _ _ hrl hr'
    | ok =>
      refine ⟨C.trans _ _ _ hrl hr', fun r hr => hsb (mem_cons_of_mem _ hr), hd, fun other ho => ?_⟩
      have hne : other.id ≠ row.id := fun heq => hnt (mem_map.2 ⟨other, ho, heq⟩)
      rw [hsm other.id hne]
      exact hrd other (mem_cons_of_mem _ ho)

end

end WisdoverseCell.DevAgent.Transactions

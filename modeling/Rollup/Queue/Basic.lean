import Rollup.Keyed
import Rollup.Report.Id
import Rollup.Report.Status

/-!
# The queue of materializations

Asking for the rows of a report makes a **job**. The jobs of a report are counted, and only the latest
counts: a job is stale as soon as a later one was asked for. What is known of the jobs of a report is its
**slot**.

A report that is removed gives up its slot. Should a report be created again under the same id, it gets a
new slot and counts from the beginning; the jobs of the removed one still refer to the old slot, in which
they are stale. Slots are therefore never reused: the queue keeps all of them and notes which one each
report has.
-/

namespace Rollup

/-- **What is known of the materializations of a report.** -/
structure Slot where
  /-- The latest generation asked for. -/
  latest : Nat := 0
  /-- Where the latest materialization stands. -/
  status : MaterializationStatus := {}
  deriving DecidableEq

/-- **A wish for the rows of a report.** -/
structure Job where
  /-- The report. -/
  reportId : ReportId
  /-- Its number among the jobs of the slot. -/
  generation : Nat
  /-- The slot that the report had when the wish was made. -/
  slot : Nat
  deriving DecidableEq

/-- **Jobs and slots.** -/
structure Queue where
  /-- All slots there ever were. -/
  slots : List Slot := []
  /-- The slot of each report that has one. -/
  assigned : Keyed Nat := []
  /-- The jobs that wait for a worker, in order. -/
  jobs : List Job := []
  deriving DecidableEq

namespace Queue

/-- A slot by its number. -/
def slot (n : Nat) (q : Queue) : Slot := (q.slots[n]?).getD {}

/-- Changes a slot. -/
def modifySlot (n : Nat) (change : Slot → Slot) (q : Queue) : Queue :=
  { q with slots := q.slots.modify n change }

/-- Gives a report a slot, if it has none, and tells the number of its slot. -/
def assign (id : ReportId) (q : Queue) : Nat × Queue :=
  match Keyed.get? id.text q.assigned with
  | some n => (n, q)
  | none =>
    let n := q.slots.length
    (n, { q with slots := q.slots ++ [{}], assigned := Keyed.insert id.text n q.assigned })

/-- **Whether a later job was asked for**, or the report was removed. -/
def isStale (job : Job) (q : Queue) : Bool :=
  decide (job.generation < (q.slot job.slot).latest)

/-- A slot after one more job was asked for. -/
def scheduleSlot (s : Slot) : Slot where
  latest := s.latest + 1
  status := s.status.schedule (UInt64.ofNat (s.latest + 1))

/-- **Makes a new job**, which makes the earlier ones of the report stale. -/
def issue (id : ReportId) (q : Queue) : Job × Queue :=
  let (n, q) := q.assign id
  ({ reportId := id, generation := (q.slot n).latest + 1, slot := n }, q.modifySlot n scheduleSlot)

/-- **Makes a new job and lets it wait for a worker.** -/
def submit (id : ReportId) (q : Queue) : Job × Queue :=
  let (job, q) := q.issue id
  (job, { q with jobs := q.jobs ++ [job] })

/-- **Takes the slot away from a report**, having made all its jobs stale. -/
def retire (id : ReportId) (q : Queue) : Queue :=
  let (n, q) := q.assign id
  let q := q.modifySlot n fun s => { s with latest := s.latest + 1 }
  { q with assigned := Keyed.erase id.text q.assigned }

/-- **Where the latest materialization of a report stands**; unknown for a report without a slot. -/
def status? (id : ReportId) (q : Queue) : Option MaterializationStatus :=
  (Keyed.get? id.text q.assigned).map fun n => (q.slot n).status

/-- Notes where the materialization of a slot stands. -/
def setStatus (n : Nat) (status : MaterializationStatus) (q : Queue) : Queue :=
  q.modifySlot n fun s => { s with status }

end Queue

end Rollup

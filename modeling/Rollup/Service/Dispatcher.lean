import Rollup.Service.Reports

/-!
# Dispatching jobs to workers

Jobs are given to workers in the order in which they were submitted, and there are only so many workers.
A job whose report has another run going keeps its worker and waits for that run to finish. Runs can be
**held**: each one that reads a definition then stops behind the reading, and goes on once the runs are
released.

What can go on does so in turns. A run that finishes gives its report to the job that waited longest for
it and its worker to the jobs of the queue; both take their turn behind all others.
-/

namespace Rollup

/-- **A service and its workers.** -/
structure Dispatcher where
  /-- The service. -/
  service : Service
  /-- Whether runs stop behind reading their definition. -/
  isHeld : Bool := false
  /-- The runs that stopped, in the order in which they began. -/
  stopped : List Run := []
  /-- The jobs that have a worker and wait for another run of their report. -/
  blocked : List Job := []

/-- **Something that can go on.** -/
inductive Turn where
  /-- A run that had stopped. -/
  | resume (run : Run)
  /-- A job whose report was given to it. -/
  | start (job : Job)
  /-- A job that was just given a worker. -/
  | arrive (job : Job)
  /-- Giving workers to the jobs of the queue. -/
  | dispatch

namespace Turn

/-- Whether the turn needs a worker. -/
def isWork : Turn → Bool
  | .dispatch => false
  | _ => true

/-- Whether the turn has a slot to itself. -/
def owns (slot : Nat) : Turn → Bool
  | .resume run => run.job.slot == slot
  | .start job => job.slot == slot
  | _ => false

end Turn

namespace Dispatcher

/-- Runs an operation of the service. -/
def act {α : Type} (operation : StateM Service α) (d : Dispatcher) : α × Dispatcher :=
  let (a, service) := operation d.service
  (a, { d with service })

/-- How many workers are free, given the turns that are due. -/
def freeWorkers (due : List Turn) (d : Dispatcher) : Nat :=
  max d.service.tenant.config.materializeWorkers.toNat 1
    - (d.stopped.length + d.blocked.length + (due.filter Turn.isWork).length)

/-- Whether another run has the slot. -/
def isTaken (slot : Nat) (due : List Turn) (d : Dispatcher) : Bool :=
  d.stopped.any (fun run => run.job.slot == slot) || due.any (Turn.owns slot)
    || d.blocked.any fun job => job.slot == slot

/-- What becomes due when a run of a slot is over: the job that waited longest for the slot, and giving
the free worker to the jobs of the queue. -/
def leave (slot : Nat) (due : List Turn) (d : Dispatcher) : List Turn × Dispatcher :=
  let next := d.blocked.find? fun job => job.slot == slot
  let due := due ++ (next.map Turn.start).toList
  let isDispatching := due.any fun turn => !turn.isWork
  let due := if d.service.queue.jobs.isEmpty || isDispatching then due else due ++ [.dispatch]
  (due, { d with blocked := d.blocked.eraseP fun job => job.slot == slot })

/-- Starts a job that has its slot to itself: it is superseded, stops behind reading the definition, or
runs to its end. -/
def start (job : Job) (due : List Turn) (d : Dispatcher) : List Turn × Dispatcher :=
  if d.service.queue.isStale job then leave job.slot due (d.act (Service.supersede job)).2
  else
    let (run, d) := d.act (Service.begin job)
    if d.isHeld && run.hasDefinition then (due, { d with stopped := d.stopped ++ [run] })
    else leave job.slot due (d.act (Service.finish run)).2

/-- Gives workers to the jobs of the queue. -/
def dispatch (due : List Turn) (d : Dispatcher) : List Turn × Dispatcher :=
  let free := d.freeWorkers due
  let jobs := d.service.queue.jobs
  let queue := { d.service.queue with jobs := jobs.drop free }
  (due ++ (jobs.take free).map Turn.arrive, { d with service := { d.service with queue } })

/-- **Takes a turn**, and gives the turns that are due after it. -/
def take (turn : Turn) (due : List Turn) (d : Dispatcher) : List Turn × Dispatcher :=
  match turn with
  | .resume run => leave run.job.slot due (d.act (Service.finish run)).2
  | .start job => d.start job due
  | .arrive job =>
    if d.isTaken job.slot due then (due, { d with blocked := d.blocked ++ [job] })
    else d.start job due
  | .dispatch => d.dispatch due

/-- Takes turns until none is due. -/
def takeTurns : Nat → List Turn → Dispatcher → Dispatcher
  | 0, _, d => d
  | _ + 1, [], d => d
  | fuel + 1, turn :: due, d =>
    let (due, d) := d.take turn due
    takeTurns fuel due d

/-- A bound on the turns there can be: each run has one and each job at most two, and after each of them
there may be one in which workers are given. -/
def turnBound (d : Dispatcher) : Nat :=
  4 * (d.stopped.length + d.blocked.length + d.service.queue.jobs.length) + 1

/-- The turns that are due when nothing happened yet: the runs that stopped and are no longer held, and
giving the free workers to the jobs of the queue. -/
def dueTurns (d : Dispatcher) : List Turn × Dispatcher :=
  let (due, d) := if d.isHeld then ([], d)
    else (d.stopped.map Turn.resume, { d with stopped := [] })
  (if d.freeWorkers due = 0 then due else due ++ [.dispatch], d)

/-- **Runs jobs until nothing more can happen.** -/
def settle (d : Dispatcher) : Dispatcher :=
  let (due, started) := d.dueTurns
  takeTurns d.turnBound due started

/-- **Asks for the rows of a report and waits for them.** The job is the last one in the queue, so that
whatever is due before it happens before. -/
def materialize (reportId : String) (d : Dispatcher) :
    Except ReportError MaterializationStatus × Dispatcher :=
  match d.act (Service.generate reportId).run with
  | (.error e, d) => (.error e, d)
  | (.ok _, d) => d.settle.act (Service.status reportId).run

/-- **Holds runs** behind reading their definition. -/
def hold (d : Dispatcher) : Dispatcher := { d with isHeld := true }

/-- **Releases the runs**: those that stopped go on when the service settles. -/
def release (d : Dispatcher) : Dispatcher := { d with isHeld := false }

end Dispatcher

end Rollup

import ClusterTick.Tick.Schedule

/-!
# A tick on many workers

The groups of the training pass are matched by workers of their own, all at
once, and their outcomes are collected as they come in.  Which worker is done
next is up to the executor, and so is whether it fails; a tick that loses a
worker comes to nothing.
-/

namespace ClusterTick

/-- Why a worker came to no result. -/
structure WorkerFault where
  reason : String
  deriving DecidableEq, Repr

/-- What workers run on.  A worker that fails raises a fault of `m`. -/
structure Executor (m : Type → Type) where
  /-- Waits for the worker that prepares the working set and runs the validation
  pass. -/
  prepared : m Unit
  /-- Waits for one of the running workers, of which there are that many others;
  which of them is done. -/
  next : (others : Nat) → m (Fin (others + 1))

namespace WorkerFault

def message (fault : WorkerFault) : String :=
  "matcher worker failed: " ++ fault.reason

end WorkerFault

/-- Workers that never fail and are done in the order in which they start. -/
def Executor.inOrder {m : Type → Type} [Monad m] : Executor m where
  prepared := return ()
  next _ := return 0

namespace Tick

variable {m : Type → Type} [Monad m]

/-- The outcomes of the running workers, as they are done. -/
def collect (executor : Executor m) :
    (count : Nat) → Vector Partition count → m (List GroupOutcome)
  | 0, _ => return []
  | others + 1, running => do
    let finished ← executor.next others
    let outcomes ←
      collect executor others (running.eraseIdx finished finished.isLt)
    return trainingOutcome (running.get finished) :: outcomes

/-- A tick whose training groups are matched by workers of their own. -/
def runTick (executor : Executor m) (snapshot : Snapshot)
    (config : EngineConfig) (decidedAt : Instant) : m TickOutput := do
  executor.prepared
  let prepared := prepare snapshot config
  let phase := validationPhase prepared
  let running := (trainingPartitions prepared phase).toArray.toVector
  let training ← collect executor _ running
  return ⟨assemble prepared.workingSet phase training decidedAt,
    prepared.workingSet.stats⟩

end Tick

end ClusterTick

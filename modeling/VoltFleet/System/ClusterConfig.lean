import Mathlib.Data.List.Nodup
import Mathlib.Data.List.Range

/-!
# `ClusterConfig`

Outside development the primary process forks one worker for every CPU, and the
workers listen; in development there is one process.
-/

namespace VoltFleet

namespace ClusterConfig

/-- What `set` does in a process that starts. -/
structure Startup where
  forks : Nat
  listens : Bool
  deriving DecidableEq

/-- Forks workers, or listens, by the environment and the kind of process. -/
def set (nodeEnv : Option String) (numCPUs : Nat) (isPrimary : Bool) : Startup :=
  if nodeEnv ≠ some "development" then
    if isPrimary then ⟨numCPUs, false⟩ else ⟨0, true⟩
  else ⟨0, true⟩

/-- The number of processes that listen once the primary and its workers have started. -/
def servers (nodeEnv : Option String) (numCPUs : Nat) : Nat :=
  (if (set nodeEnv numCPUs true).listens then 1 else 0) +
    if (set nodeEnv numCPUs false).listens then (set nodeEnv numCPUs true).forks else 0

@[simp] theorem servers_development (numCPUs : Nat) : servers (some "development") numCPUs = 1 :=
  rfl

theorem servers_eq {nodeEnv : Option String} (h : nodeEnv ≠ some "development") (numCPUs : Nat) :
    servers nodeEnv numCPUs = numCPUs := by
  simp [servers, set, h]

/-! ## The worker pool -/

/-- The `exit` event of a worker. -/
structure Exit where
  pid : Nat
  code : Option Int
  signal : Option String
  deriving DecidableEq

/-- The primary process: the workers that live, the number of processes it has forked, and
what it has logged, latest first. -/
structure Primary where
  workers : List Nat
  forked : Nat
  logged : List (String × String)
  deriving DecidableEq

namespace Primary

/-- `cluster.fork()`; the pid is one that has not been used. -/
def fork (p : Primary) : Primary :=
  { p with workers := p.forked :: p.workers, forked := p.forked + 1 }

/-- Adds a line to the log. -/
def log (level message : String) (p : Primary) : Primary :=
  { p with logged := (level, message) :: p.logged }

/-- The text of a value in a template literal. -/
def textOf {α : Type} (undefined : String) (toText : α → String) : Option α → String
  | none => undefined
  | some a => toText a

/-- The handler of the `exit` event. -/
def onExit (e : Exit) (p : Primary) : Primary :=
  (p.log "warn" ("Worker " ++ toString e.pid ++ " died with code: " ++
    textOf "null" toString e.code ++ ", and signal: " ++ textOf "null" id e.signal)).log
    "info" "Starting a new worker"

/-- The primary once `set` has run. -/
def start (nodeEnv : Option String) (numCPUs : Nat) : Primary :=
  ((List.range (set nodeEnv numCPUs true).forks).foldl (fun p _ => p.fork) ⟨[], 0, []⟩)

/-- A worker exits and the primary handles the event. -/
def exit (p : Primary) (e : Exit) : Primary :=
  { p with workers := p.workers.erase e.pid }.onExit e

/-- The primary after a list of exits. -/
def run (p : Primary) (exits : List Exit) : Primary := exits.foldl exit p

/-- Each of the events is that of a worker that lives then. -/
def Possible : Primary → List Exit → Prop
  | _, [] => True
  | p, e :: exits => e.pid ∈ p.workers ∧ Possible (p.exit e) exits

instance instDecidablePossible : ∀ p exits, Decidable (Possible p exits)
  | _, [] => .isTrue trivial
  | p, e :: exits =>
      @instDecidableAnd _ _ (inferInstanceAs (Decidable (e.pid ∈ p.workers)))
        (instDecidablePossible (p.exit e) exits)

@[simp] theorem run_cons (p : Primary) (e : Exit) (exits : List Exit) :
    p.run (e :: exits) = (p.exit e).run exits := rfl

@[simp] theorem workers_onExit (e : Exit) (p : Primary) : (p.onExit e).workers = p.workers := rfl

theorem length_fork_foldl (p : Primary) (l : List Nat) :
    (l.foldl (fun p _ => p.fork) p).workers.length = p.workers.length + l.length := by
  induction l generalizing p with
  | nil => rfl
  | cons _ l ih =>
    rw [List.foldl_cons, ih, fork, List.length_cons, List.length_cons]
    omega

theorem length_start (nodeEnv : Option String) (numCPUs : Nat) :
    (start nodeEnv numCPUs).workers.length = (set nodeEnv numCPUs true).forks := by
  rw [start, length_fork_foldl, List.length_range]
  exact Nat.zero_add _

/-- One event: the worker is gone and nothing takes its place. -/
theorem length_exit {p : Primary} {e : Exit} (h : e.pid ∈ p.workers) :
    (p.exit e).workers.length + 1 = p.workers.length := by
  rw [exit, workers_onExit]
  exact List.length_erase_add_one h

/-- Every exit takes one worker away for good. -/
theorem length_run {p : Primary} {exits : List Exit} (h : p.Possible exits) :
    (p.run exits).workers.length + exits.length = p.workers.length := by
  induction exits generalizing p with
  | nil => rfl
  | cons e exits ih =>
    have hrest := ih h.2
    have hexit := length_exit h.1
    rw [run_cons, List.length_cons]
    omega

/-- The handler announces a new worker for every exit. -/
theorem count_announced (p : Primary) (exits : List Exit) :
    (p.run exits).logged.count ("info", "Starting a new worker") =
      p.logged.count ("info", "Starting a new worker") + exits.length := by
  induction exits generalizing p with
  | nil => rfl
  | cons e exits ih =>
    have hexit : (p.exit e).logged.count ("info", "Starting a new worker") =
        p.logged.count ("info", "Starting a new worker") + 1 := by
      simp [exit, onExit, log]
    rw [run_cons, ih, hexit, List.length_cons]
    omega

end Primary

/-- Outside development the workers are as many as the CPUs if and only if none has exited. -/
theorem pool_kept_iff {nodeEnv : Option String} (h : nodeEnv ≠ some "development")
    (numCPUs : Nat) (exits : List Exit)
    (hexits : (Primary.start nodeEnv numCPUs).Possible exits) :
    ((Primary.start nodeEnv numCPUs).run exits).workers.length = numCPUs ↔ exits = [] := by
  have hlength := Primary.length_run hexits
  have hforks : (set nodeEnv numCPUs true).forks = numCPUs := by simp [set, h]
  rw [Primary.length_start, hforks] at hlength
  constructor
  · intro hkept
    exact List.length_eq_zero_iff.mp (by omega)
  · intro hnil
    subst hnil
    exact hlength

/-- Two workers, one of which exits. -/
theorem pool_kept_two :
    ((Primary.start none 2).run [⟨0, some 1, none⟩]).workers.length = 2 ↔
      [(⟨0, some 1, none⟩ : Exit)] = [] :=
  pool_kept_iff (by decide) 2 [⟨0, some 1, none⟩] (by decide)

/-- One of two workers exits: one is left, and a new one has been announced. -/
theorem pool_drained :
    (Primary.start none 2).Possible [⟨0, some 1, none⟩] ∧
      ((Primary.start none 2).run [⟨0, some 1, none⟩]).workers.length ≠ 2 := by
  decide

end ClusterConfig

end VoltFleet

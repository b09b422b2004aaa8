import Probe.Evaluator

namespace Probe

namespace World

variable {η κ : Type}

def take (lease : Lease) (w : World η κ) : World η κ := { w with leases := lease :: w.leases }

def giveBack (lease : Lease) (w : World η κ) : World η κ :=
  { w with leases := w.leases.erase lease }

end World

namespace Evaluator
set_option autoImplicit true

inductive Manner where
  | atOnce
  | inSession
  deriving DecidableEq

def evaluate (e : Evaluator) (m : Manner) (clock : Clock) (hooks : Hooks η κ) (code : Code)
    (scope : Scope) (purpose : Purpose) : Evaluation η κ Value :=
  match m with
  | .atOnce => e.evaluateNow clock hooks code scope purpose
  | .inSession => e.evaluateSession clock hooks code scope purpose

/-- The world in which the machine starts. -/
def entered (e : Evaluator) (m : Manner) (thread : ThreadId) (w : World η κ) : World η κ :=
  { w with
    leases := ⟨e.id, thread⟩ :: w.leases
    runs :=
      { w.runs with
        started := w.runs.started + 1
        sessions :=
          match m with
          | .atOnce => w.runs.sessions
          | .inSession => (w.runs.started, thread) :: w.runs.sessions } }

/-- The world that the evaluation leaves when the machine of the given run has stopped. -/
def left (e : Evaluator) (m : Manner) (thread : ThreadId) (run : Nat) (w : World η κ) :
    World η κ :=
  { w with
    leases := w.leases.erase ⟨e.id, thread⟩
    runs.sessions :=
      match m with
      | .atOnce => w.runs.sessions
      | .inSession => w.runs.sessions.erase (run, thread) }

/-- What the machine ends with, as it is told to who asked. -/
def Manner.report (m : Manner) (result : Except (Abrupt Failure) Value) :
    Except (Abrupt Failure) Value :=
  match m with
  | .atOnce => result
  | .inSession => result.mapError fun
    | .crash => .error .crashed
    | stop => stop

theorem acquire_of_busy {e : Evaluator} {w : World η κ} (h : e.isBusy thread w = true) :
    e.acquire thread w = (.error (.error (.threadBusy thread)), w) := by
  simp only [acquire, Action.bind_apply, Action.read, Action.require, h]
  rfl

theorem acquire_of_free {e : Evaluator} {w : World η κ} (h : e.isBusy thread w = false) :
    e.acquire thread w = (.ok (), w.take ⟨e.id, thread⟩) := by
  simp only [acquire, Action.bind_apply, Action.read, Action.require, h]
  rfl

theorem holding_of_busy {e : Evaluator} {w : World η κ} {x : Evaluation η κ α}
    (h : e.isBusy thread w = true) :
    e.holding thread x w = (.error (.error (.threadBusy thread)), w) := by
  simp only [holding, Action.bind_apply, acquire_of_busy h]

theorem holding_of_free {e : Evaluator} {w : World η κ} {x : Evaluation η κ α}
    (h : e.isBusy thread w = false) :
    e.holding thread x w =
      ((x (w.take ⟨e.id, thread⟩)).1, (x (w.take ⟨e.id, thread⟩)).2.giveBack ⟨e.id, thread⟩) := by
  simp only [holding, Action.bind_apply, acquire_of_free h]
  rfl

theorem evaluate_of_free {e : Evaluator} {w : World η κ} (h : e.isBusy scope.thread w = false) :
    e.evaluate m clock hooks code scope purpose w =
      let stopped := Machine.run (e.setup clock hooks scope purpose w.runs.started) code
        (e.entered m scope.thread w)
      (m.report stopped.1, e.left m scope.thread w.runs.started stopped.2) := by
  cases m <;> exact holding_of_free h

end Evaluator

end Probe

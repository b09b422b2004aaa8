import Probe.Proofs.Evaluator.Stages
import Probe.Proofs.Machine.Announcements

namespace Probe.Evaluator
set_option autoImplicit true

open Probe.Action (Keeps)
open Tracker (attributes)

/-- The instructions that an evaluation executes; a refused one executes none. -/
def visits (e : Evaluator) (m : Manner) (clock : Clock) (hooks : Hooks η κ) (code : Code)
    (scope : Scope) (purpose : Purpose) (w : World η κ) : List (Machine.Visit η κ) :=
  if e.isBusy scope.thread w then []
  else
    Machine.visits (e.setup clock hooks scope purpose w.runs.started) code
      (e.entered m scope.thread w)

theorem free_of_visits {e : Evaluator} {w : World η κ}
    (hv : v ∈ e.visits m clock hooks code scope purpose w) : e.isBusy scope.thread w = false ∧
      v ∈ Machine.visits (e.setup clock hooks scope purpose w.runs.started) code
        (e.entered m scope.thread w) := by
  unfold visits at hv
  split at hv
  · cases hv
  · exact ⟨Bool.eq_false_iff.2 ‹_›, hv⟩

def twoCalls : Code :=
  ⟨"Main.first(); Main.second()", [.pushType "Main", .invoke "first" "()I" 0, .pop,
    .pushType "Main", .invoke "second" "()I" 0], rfl⟩

def twoCallsWorld : World Unit Unit :=
  { (World.initial () : World Unit Unit) with
    debuggee := (Debuggee.initial.addClass
      { name := "Main"
        methods := [⟨"first", "()I", .returns (.int 1)⟩, ⟨"second", "()I", .hook ()⟩]
      }).2.addThread 1 [] }

def crashingHooks : Hooks Unit Unit := fun _ _ => Action.fail .crash

def mainScope : Scope := { thread := 1, receivingType := ⟨3, "Main", .classType⟩ }

def trackingEvaluator : Evaluator := { id := 0, tracking := true }

def secondEnds : StopEvent := ⟨1, 1, ⟨"Main", "second", "()I"⟩, .methodExit (.int 2)⟩

end Probe.Evaluator

import Probe.Proofs.Evaluator.Pieces

namespace Probe.Evaluator.System
set_option autoImplicit true

/-- How leases are kept at one moment. -/
structure Exclusive (sys : System η κ) : Prop where
  /-- No two evaluations under way have the same lease. -/
  once : sys.held.Nodup
  isBusy_iff : ∀ (e : Evaluator) thread,
    e.isBusy thread sys.world = true ↔ ⟨e.id, thread⟩ ∈ sys.held
  /-- A call on a busy thread fails at once; only the caller moves on. -/
  refused : ∀ i worker e thread, sys.workers[i]? = some worker →
    worker.call? = some (e, thread) →
    e.isBusy thread sys.world = true →
    sys.step i = ⟨sys.world, sys.workers.set i worker.refused⟩
  /-- A call on a free thread takes the lease and is then under way. -/
  granted : ∀ i worker e thread, sys.workers[i]? = some worker →
    worker.call? = some (e, thread) →
    e.isBusy thread sys.world = false →
    (sys.step i).world = sys.world.take ⟨e.id, thread⟩ ∧
      (sys.step i).held.Perm (⟨e.id, thread⟩ :: sys.held)
  /-- An evaluation that is over, whatever its outcome, gives its own lease back. -/
  ended : ∀ i worker lease, sys.workers[i]? = some worker → worker.ending? = some lease →
    (sys.step i).world = sys.world.giveBack lease ∧
      lease ∉ (sys.step i).world.leases ∧ sys.held.Perm (lease :: (sys.step i).held)
  /-- Nothing else takes or gives back a lease. -/
  kept : ∀ i, (∀ worker, sys.workers[i]? = some worker →
      worker.call? = none ∧ worker.ending? = none) →
    (sys.step i).world.leases = sys.world.leases ∧ (sys.step i).held.Perm sys.held
  /-- A client that evaluates and is left alone gets what `evaluate` gives, in the same
  world. -/
  alone : ∀ i e m clock callbacks hooks code scope purpose next,
    (∀ label args, Performs (callbacks label args) (hooks label args)) →
    sys.workers[i]? = some
      (.client (.outside ((Process.evaluation e m clock callbacks code scope purpose).bind next))) →
    sys.Leads i
      (.client (.outside (next (e.evaluate m clock hooks code scope purpose sys.world).1)))
      (e.evaluate m clock hooks code scope purpose sys.world).2

/-- In every order of turns, the leases are exactly those of the evaluations under way, and a
call is refused exactly when the thread has one. -/
theorem leases_exclusive (w : World η κ) (clients : List (Process η κ Unit))
    (schedule : List Nat) : ((initial w clients).run schedule).Exclusive := by
  have h := (Sound.initial w clients).run schedule
  generalize (System.initial w clients).run schedule = sys at h
  constructor
  · exact h.nodup
  · exact h.isBusy_iff
  · intro i worker e thread hw hc hb
    exact step_of_busy hw hc hb
  · intro i worker e thread hw hc hb
    exact held_of_free hw hc hb
  · intro i worker lease hw he
    obtain ⟨hworld, hheld⟩ := held_of_ending hw he
    refine ⟨hworld, ?_, hheld⟩
    rw [(h.step i).leases.mem_iff]
    exact (h.not_held_of_ending hw he).2
  · intro i hquiet
    cases hw : sys.workers[i]? with
    | none =>
      rw [step_of_absent hw]
      exact ⟨rfl, .refl _⟩
    | some worker =>
      obtain ⟨hc, he⟩ := hquiet worker hw
      exact held_of_neither hw hc he
  · intro i e m clock callbacks hooks code scope purpose next hh hw
    have hperforms := Performs.evaluation e m clock hh code scope purpose
    exact hperforms _ (Lifts.client.bind next) sys i hw

def plainEvaluator : Evaluator := { id := 0 }

def note (outcome : Outcome) (next : Process η (List Outcome) α) : Process η (List Outcome) α :=
  .work (fun w => { w with client := w.client ++ [outcome] }) (fun _ => rfl) fun _ => next

/-- Evaluates on a thread, and from within on the same thread and on another one. -/
def nested : Process Unit (List Outcome) Unit :=
  .evaluate plainEvaluator 1
    (.evaluate plainEvaluator 1 (.done (.ok (.int 1))) fun outcome => note outcome <|
      .evaluate plainEvaluator 2 (.done (.ok (.int 2))) fun outcome => note outcome <|
        .done (.ok (.int 3)))
    fun outcome => note outcome (.done ())

example :
    let sys := (initial (.initial []) [nested]).run (List.replicate 4 0)
    sys.world.client = [.error (.error (.threadBusy 1))] ∧
    sys.world.leases = [⟨0, 2⟩, ⟨0, 1⟩] ∧
    (sys.run (List.replicate 4 0)).world.client =
      [.error (.error (.threadBusy 1)), .ok (.int 2), .ok (.int 3)] ∧
    (sys.run (List.replicate 4 0)).world.leases = [] :=
  ⟨rfl, rfl, rfl, rfl⟩

end Probe.Evaluator.System

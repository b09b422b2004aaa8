import Probe.Proofs.Debuggee.Recorded
import Probe.Proofs.Machine.SideEffects

namespace Probe
set_option autoImplicit true

open Probe.Action (Keeps)
open Debuggee (Evolves Grows LogExtends Logged Recorded)

namespace World
variable {hooks : Hooks η κ} (hh : ∀ label args, Keeps (Across κ Evolves) (hooks label args))
include hh

theorem recorded_call {select : Remote η (Remote.Callee η)} (hselect : select.Notes)
    (hgrows : Keeps Grows select) (args : List Value) :
    Keeps (Across κ Recorded) (remote select >>= runCallee hooks args) := by
  intro w
  have hgrow (label : η) (args : List Value) : Keeps (Across κ Grows) (hooks label args) :=
    (hh label args).mono fun _ _ => Evolves.grows
  have hrest := (composable_across Grows.allowsChanges hgrow).runCallee args
  rcases hselect w.debuggee with ⟨e, he⟩ | hlog
  · have hfailed : (remote select >>= runCallee hooks args) w = (.error (.error e), w) := by
      simp only [Action.bind_apply, remote, Action.zoom, he]
      rfl
    rw [hfailed]
    exact refl w
  · have hlogged : Across κ Logged w ((remote select >>= runCallee hooks args) w).2 := by
      apply Action.rel_bind_left (R := Across κ Grows) hlog hrest
      intro w' w'' hw' hw''
      exact Logged.extend hw' hw''.log
    exact ((keeps_remote hgrows).bind hrest w).recorded hlogged

theorem withstands_recorded : Withstands hooks True (Across κ Recorded) where
  request r _ := keeps_remote r.recorded_send
  invokeMethod _ h name signature args thread :=
    recorded_call hh (Remote.notes_selectInstance h name signature args thread)
      (Remote.keeps_selectInstance Grows.allowsChanges.toAllowsOuterChanges h name signature args
        thread) args
  invokeStatic _ type name signature args thread :=
    recorded_call hh (Remote.notes_selectStatic type name signature args thread)
      (Remote.keeps_selectStatic Grows.allowsChanges.toAllowsOuterChanges type name signature args
        thread) args
  expect w _ := refl w.debuggee
  abandon w _ := refl w.debuggee

end World

namespace Machine

/-- The log is complete. A run only adds to it, and a run that adds nothing has made nothing but
new strings and ids of array types. Each write that succeeds adds one entry. -/
theorem run_recorded (setup : Setup η κ) (code : Code) (w : World η κ)
    (hw : w.debuggee.Reachable)
    (hh : ∀ label args, Keeps (World.Across κ Evolves) (setup.hooks label args)) :
    LogExtends w.debuggee (run setup code w).2.debuggee ∧
    ((run setup code w).2.debuggee.calls = w.debuggee.calls →
      w.debuggee.Untouched (run setup code w).2.debuggee) ∧
    ∀ (write : Write) (d d' : Debuggee η), write.send d = (.ok (), d') →
      ∃ entry, d'.calls = d.calls ++ [entry] := by
  have hrun := seen_run (World.withstands_recorded hh) trivial code w
  refine ⟨hrun.log, hrun.untouched hw.sound, ?_⟩
  intro write d d' hsend
  rcases write.send_cases d with ⟨e, he⟩ | ⟨entry, d'', hsend', hcalls⟩
  · rw [hsend] at he
    cases he
  · rw [hsend] at hsend'
    cases hsend'
    exact ⟨entry, hcalls⟩

theorem counterHooks_evolve (label : Unit) (args : List Value) :
    Keeps (World.Across Unit Evolves) (counterHooks label args) := by
  have hwrite : Keeps Evolves (Remote.setField counter "calls" (.int 1) : Remote Unit Unit) :=
    fun d => .single (.send (.setField counter "calls" (.int 1)))
  exact (World.keeps_remote hwrite).bind fun _ => .pure _

def changeCounter : Setup Unit Unit := { watchCounter with mayChange := true, tracking := true }

theorem run_recorded_counter :
    counterWorld.debuggee.Reachable ∧
    (∀ label args, Keeps (World.Across Unit Evolves) (changeCounter.hooks label args)) ∧
    (run changeCounter (addition (.int 7)) counterWorld).2.debuggee.calls =
      counterWorld.debuggee.calls ∧
    counterWorld.debuggee.Untouched
      (run changeCounter (addition (.int 7)) counterWorld).2.debuggee ∧
    counterWorld.debuggee.LogExtends
      (run changeCounter (addition (.object counter)) counterWorld).2.debuggee ∧
    (run changeCounter (addition (.object counter))
      counterWorld).2.debuggee.calls.length = 2 := by
  have hquiet : (run changeCounter (addition (.int 7)) counterWorld).2.debuggee.calls =
      counterWorld.debuggee.calls := by decide
  have hentries : (run changeCounter (addition (.object counter))
      counterWorld).2.debuggee.calls.length = 2 := by decide
  have hrun (v : Value) :=
    run_recorded changeCounter (addition v) counterWorld counterWorld_reachable counterHooks_evolve
  exact ⟨counterWorld_reachable, counterHooks_evolve, hquiet, (hrun (.int 7)).2.1 hquiet,
    (hrun (.object counter)).1, hentries⟩

end Machine

end Probe

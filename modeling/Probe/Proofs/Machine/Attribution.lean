import Probe.Proofs.Machine.Calls

namespace Probe
set_option autoImplicit true

open Probe.Action (Keeps Silent)

/-- The result that an event inside a call stands for. -/
def StopCause.result? (method : MethodId) (depth : Nat) : StopCause → Option MethodResult
  | .methodExit value => some ⟨method, depth, value, .returning⟩
  | .exception thrown _ => some ⟨method, depth, .object thrown, .throwing⟩
  | _ => none

namespace Tracker

theorem Coherent.get?_expect_self (h : Coherent t) (e : Expectation) :
    (t.expect e).2.pending.get? (t.expect e).1 = some e := by
  rw [h.expect_eq]
  exact Table.get?_insert_self _ _ _

theorem Coherent.get?_expect_older (h : Coherent t) (he : e.sort = .methodExit)
    (hk : t.pending.get? k = some e') :
    k ≠ (t.expect e).1 ∧ (t.expect e).2.pending.get? k = some e' := by
  constructor
  · rintro rfl
    exact Nat.not_succ_le_self _ (h.pending_le hk)
  · refine (h.pending_iff (.expect e) k e').2 (.inr ⟨hk, ?_, ?_, ?_, ?_⟩)
    · rintro _ ⟨⟩
      simp [Expectation.replaces, he]
    · rintro _ ⟨⟩
    · rintro ⟨⟩
    · rintro ⟨⟩

theorem Forgotten.gone (h : Forgotten t k) : t.isPending k = false ∧ (t.take k).1 = none := by
  obtain ⟨hpending, hcaptured⟩ := h []
  exact ⟨hpending, congrArg (Option.map _) (Table.contains_eq_false_iff.1 hcaptured)⟩

theorem Coherent.observe_expect (h : Coherent t) (hf : e.fits event = true)
    (hout : event.outcome? = some (value, returned)) :
    (t.expect e).2.observe event = (some ((t.expect e).1, e.result value returned),
      { (t.expect e).2 with
        pending := (t.expect e).2.pending.erase (t.expect e).1
        captured := (t.expect e).2.captured.insert (t.expect e).1
          (e.thread, e.result value returned) }) := by
  have hnew := h.get?_expect_self e
  rcases (t.expect e).2.observe_cases event with
    ⟨-, hnone | hno⟩ | ⟨k, e', value', returned', hout', hk, -, hmax, hseen⟩
  · rw [hout] at hnone
    cases hnone
  · rw [hno _ _ hnew] at hf
    cases hf
  · have hle : k ≤ (t.expect e).1 := (h.perform (.expect e)).pending_le hk
    obtain rfl : k = (t.expect e).1 := Nat.le_antisymm hle (hmax _ _ hnew hf)
    obtain rfl : e' = e := Option.some.inj (hk.symm.trans hnew)
    obtain ⟨rfl, rfl⟩ := Prod.mk.inj (Option.some.inj (hout.symm.trans hout'))
    exact hseen

/-- An event goes to the method exit that was announced last, and older records stay as they
are. -/
theorem Coherent.observe_announced (h : Coherent t) (thread : ThreadId)
    (hr : StopCause.result? method depth cause = some r) :
    let announced := t.expect ⟨thread, method, depth, .methodExit⟩
    let seen := announced.2.observe ⟨thread, depth, method, cause⟩
    seen.1 = some (announced.1, r) ∧
      ∀ k e, t.pending.get? k = some e → seen.2.pending.get? k = some e := by
  intro announced seen
  have hfits : (⟨thread, method, depth, .methodExit⟩ : Expectation).fits
      ⟨thread, depth, method, cause⟩ = true := by simp [Expectation.fits]
  have hout : ∃ value returned,
      (⟨thread, depth, method, cause⟩ : StopEvent).outcome? = some (value, returned) ∧
      (⟨thread, method, depth, .methodExit⟩ : Expectation).result value returned = r := by
    cases cause with
    | methodExit value => exact ⟨value, true, rfl, Option.some.inj hr⟩
    | exception thrown caught => exact ⟨.object thrown, false, rfl, Option.some.inj hr⟩
    | step | breakpoint | watchpoint => cases hr
  obtain ⟨value, returned, hout, rfl⟩ := hout
  have hseen : seen = _ := h.observe_expect hfits hout
  rw [hseen]
  refine ⟨rfl, ?_⟩
  intro k e hk
  obtain ⟨hne, hkept⟩ := h.get?_expect_older (e := ⟨thread, method, depth, .methodExit⟩) rfl hk
  exact (Table.get?_erase _ _ _).trans ((if_neg hne).trans hkept)

end Tracker

namespace World

def dispatch (event : StopEvent) : Call η κ (Option (Token × MethodResult)) := fun w =>
  (.ok (w.tracker.observe event).1, { w with tracker := (w.tracker.observe event).2 })

theorem operates_dispatch (event : StopEvent) :
    Keeps Operates (dispatch event : Call η κ (Option (Token × MethodResult))) :=
  fun _ => ⟨[.observe event], rfl⟩

theorem runHook_world (hook : Call η κ Value) (w : World η κ) :
    (runHook hook w).2 = (hook w).2 := by
  have hlast (result : Except (Abrupt RemoteError) Value) :
      Silent (remote Remote.checkAlive >>= fun _ => Action.ofExcept result : Call η κ Value) :=
    (silent_remote Remote.silent_checkAlive).bind fun _ => .ofExcept result
  rw [runHook, Action.bind_apply, Action.attempt]
  rcases hook w with ⟨(e | _) | v, w'⟩
  · exact (hlast _ w').symm
  · rfl
  · exact (hlast _ w').symm

theorem forgotten_runHook {hook : Call η κ Value} {w : World η κ} (hh : Keeps Operates hook)
    (hw : w.tracker.Coherent) (hk : k ≤ w.tracker.issued) :
    ((runHook hook w).2.tracker.abandon k).2.Forgotten k := by
  have hended : Operates w (runHook hook w).2 := by
    rw [runHook_world]
    exact hh w
  exact (hended.coherent hw).forgotten_abandon (Nat.le_trans hk (hended.issued_le hw))

end World

namespace Machine

theorem mapError_ne_crash {r : Except (Abrupt RemoteError) α} (h : r ≠ .error .crash) :
    r.mapError (·.map Failure.ofRemote) ≠ .error .crash := by
  rcases r with (e | _) | a
  · rintro ⟨⟩
  · exact absurd rfl h
  · rintro ⟨⟩

theorem opening_of_declared {setup : Setup η κ} {callee : Target} {s : State η κ} (pc : Nat)
    (hs : s.stack = args.reverse.map .value ++ callee.operand :: rest)
    (hl : callee.Loaded s.world.debuggee typeName)
    (ht : s.world.debuggee.Stopped setup.scope.thread t)
    (hm : s.world.debuggee.classes.resolveMethod typeName name signature = some (owner, behavior)) :
    let announced := s.world.tracker.expect
      ⟨setup.scope.thread, ⟨owner, name, signature⟩, t.frames.length + 1, .methodExit⟩
    opening setup ⟨pc, .invoke name signature args.length⟩ name signature args.length s =
      (.ok (announced.1, callee, args),
        State.withTracker { s with stack := rest } announced.2) := by
  intro announced
  obtain ⟨type, rfl, htype⟩ := hl.type_eq ht
  obtain ⟨declaring, rfl, hdecl⟩ := Remote.declaringType_of_declared ht hm
  have hargs := popArgs_of_values ⟨pc, .invoke name signature args.length⟩ args s _ hs
  have hannounce := announce_of_declaring (s := { s with stack := rest }) ht htype hdecl
  unfold opening
  rw [Action.bind_of_ok hargs]
  change (target callee.operand name signature >>= _) { s with stack := rest } = _
  rw [target_operand, pure_bind, Action.bind_of_ok hannounce]
  rfl

/-- A tracked call of a hook is the hook run after the announcement, and then the withdrawal,
unless the hook crashes. -/
theorem execute_of_hook {setup : Setup η κ} {callee : Target} {s : State η κ} (pc : Nat)
    (htracking : setup.tracking = true)
    (hs : s.stack = args.reverse.map .value ++ callee.operand :: rest)
    (hl : callee.Loaded s.world.debuggee typeName)
    (ht : s.world.debuggee.Stopped setup.scope.thread t) (hevent : t.byEvent = true)
    (hm : s.world.debuggee.classes.resolveMethod typeName name signature =
      some (owner, .hook label)) :
    let announced := s.world.tracker.expect
      ⟨setup.scope.thread, ⟨owner, name, signature⟩, t.frames.length + 1, .methodExit⟩
    let ended := World.runHook (setup.hooks label args)
      { s.world with
        debuggee := s.world.debuggee.log (callee.entry typeName name signature args)
        tracker := announced.2 }
    let done := execute setup ⟨pc, .invoke name signature args.length⟩ s
    (ended.1 = .error .crash → done.1 = .error .crash ∧ done.2.world = ended.2) ∧
    (ended.1 ≠ .error .crash →
      done.2.world = { ended.2 with tracker := (ended.2.tracker.abandon announced.1).2 }) := by
  intro announced ended done
  have hopen := opening_of_declared pc hs hl ht hm
  have hperform : perform setup callee name signature args
      { s.world with tracker := announced.2 } = ended :=
    perform_of_declared (w := { s.world with tracker := announced.2 }) hl ht hevent hm
  have hcall : call (perform setup callee name signature args)
      (State.withTracker { s with stack := rest } announced.2) =
        (ended.1.mapError (·.map .ofRemote), { s with stack := rest, world := ended.2 }) := by
    simp only [call, Action.zoom, State.withTracker, hperform]
  constructor
  · intro hcrash
    rw [hcrash] at hcall
    have hdone := execute_of_crash htracking hopen hcall
    exact ⟨congrArg Prod.fst hdone, congrArg (·.2.world) hdone⟩
  · intro hcrash
    have hne : (call (perform setup callee name signature args)
        (State.withTracker { s with stack := rest } announced.2)).1 ≠ .error .crash := by
      rw [hcall]
      exact mapError_ne_crash hcrash
    refine (execute_of_ne_crash htracking hopen hne).2.trans ?_
    rw [hcall]
    rfl

/-- The first event that the method of a tracked call brings about is captured under the token
of the call, as returning or throwing, although older expectations may wait for the same method
at the same depth; they stay pending. When the call is over its token is neither pending nor can
it be taken. -/
theorem events_reach_call (setup : Setup η κ) (pc : Nat) (name signature : String)
    (args : List Value) (callee : Target) (s : State η κ) (rest : List Operand) (t : Thread)
    (past : List Tracker.Operation) (before : Call η κ β) (cause : β → StopCause)
    (behind : β → Option (Token × MethodResult) → Call η κ Value)
    (htracking : setup.tracking = true) (hpast : s.world.tracker = Tracker.empty.after past)
    (hs : s.stack = args.reverse.map .value ++ callee.operand :: rest)
    (hl : callee.Loaded s.world.debuggee typeName)
    (ht : s.world.debuggee.Stopped setup.scope.thread t) (hevent : t.byEvent = true)
    (hm : s.world.debuggee.classes.resolveMethod typeName name signature =
      some (owner, .hook label))
    (hhook : setup.hooks label args = before >>= fun b => World.dispatch
      ⟨setup.scope.thread, t.frames.length + 1, ⟨owner, name, signature⟩, cause b⟩ >>= behind b)
    (hbefore : Keeps World.Ignores before)
    (hbehind : ∀ b answer, Keeps World.Operates (behind b answer)) :
    let d := s.world.debuggee
    let method : MethodId := ⟨owner, name, signature⟩
    let depth := t.frames.length + 1
    let announced := s.world.tracker.expect ⟨setup.scope.thread, method, depth, .methodExit⟩
    let started : World η κ :=
      { s.world with
        debuggee := d.log (callee.entry typeName name signature args)
        tracker := announced.2 }
    let ended := World.runHook (setup.hooks label args) started
    let done := execute setup ⟨pc, .invoke name signature args.length⟩ s
    (∃ type declaring, callee.type d = (.ok type, d) ∧
      Remote.declaringType type name signature d = (.ok declaring, d) ∧ declaring.name = owner) ∧
    (∀ b w r, before started = (.ok b, w) → (cause b).result? method depth = some r →
      let seen := World.dispatch ⟨setup.scope.thread, depth, method, cause b⟩ w
      seen.1 = .ok (some (announced.1, r)) ∧
      ∀ k e, s.world.tracker.pending.get? k = some e → seen.2.tracker.pending.get? k = some e) ∧
    (ended.1 = .error .crash → done.1 = .error .crash ∧ done.2.world = ended.2) ∧
    (ended.1 ≠ .error .crash →
      done.2.world = { ended.2 with tracker := (ended.2.tracker.abandon announced.1).2 } ∧
      done.2.world.tracker.isPending announced.1 = false ∧
      (done.2.world.tracker.take announced.1).1 = none) := by
  intro d method depth announced started ended done
  have hcoherent : s.world.tracker.Coherent := by
    rw [hpast]
    exact Tracker.Coherent.empty.after past
  obtain ⟨hcrashed, hdone⟩ := execute_of_hook pc htracking hs hl ht hevent hm
  refine ⟨?_, ?_, hcrashed, ?_⟩
  · obtain ⟨type, rfl, htype⟩ := hl.type_eq ht
    obtain ⟨declaring, howner, hdecl⟩ := Remote.declaringType_of_declared ht hm
    exact ⟨type, declaring, htype, hdecl, howner⟩
  · intro b w r hb hr
    have hw : w.tracker = announced.2 := by
      have hsame := hbefore started
      rwa [hb] at hsame
    simp only [World.dispatch, hw]
    obtain ⟨hseen, hkept⟩ := hcoherent.observe_announced setup.scope.thread hr
    exact ⟨congrArg Except.ok hseen, hkept⟩
  · intro hcrash
    have hhooks : Keeps World.Operates (setup.hooks label args) := by
      rw [hhook]
      refine (hbefore.mono fun _ _ h => ⟨[], h⟩).bind fun b => ?_
      exact (World.operates_dispatch _).bind (hbehind b)
    have hstarted : started.tracker.Coherent := hcoherent.perform (.expect _)
    have hforgotten := World.forgotten_runHook hhooks hstarted (Nat.le_refl announced.1)
    rw [show done.2.world = _ from hdone hcrash]
    exact ⟨rfl, hforgotten.gone⟩

def tallyClass : ClassDef Unit := { name := "Tally", superclass := some "Counter" }

def tally : Handle := ⟨5, "Tally"⟩

def shown : MethodId := ⟨"Counter", "toString", "()Ljava/lang/String;"⟩

/-- A thread with one frame, and a tracker that waits already for the method one frame above. -/
def tallyWorld : World Unit Unit :=
  { (World.initial () : World Unit Unit) with
    debuggee := ((((Debuggee.initial.addClass counterClass).2.addClass tallyClass).2.addThread 1
      [⟨⟨"Main", "main", "()V"⟩, .empty⟩]).newObject "Tally").2
    tracker := Tracker.empty.after [.expect ⟨1, shown, 2, .methodExit⟩] }

/-- Counts the frames and then tells the tracker that the method returns. -/
def reportingHooks : Hooks Unit Unit := fun _ _ =>
  World.remote (Remote.frameCount 1) >>= fun _ =>
    World.dispatch ⟨1, 2, shown, .methodExit (.int 7)⟩ >>= fun _ => pure .null

def reportTally : Setup Unit Unit :=
  { watchCounter with hooks := reportingHooks, tracking := true }

def callTally : State Unit Unit := ⟨[.value (.object tally)], .empty, tallyWorld⟩

theorem events_reach_call_tally :
    let announced := tallyWorld.tracker.expect ⟨1, shown, 2, .methodExit⟩
    let started : World Unit Unit :=
      { tallyWorld with
        debuggee := tallyWorld.debuggee.log
          ((Target.ofObject tally).entry "Tally" "toString" "()Ljava/lang/String;" [])
        tracker := announced.2 }
    let seen := World.dispatch ⟨1, 2, shown, .methodExit (.int 7)⟩ started
    let done := execute reportTally ⟨0, .invoke "toString" "()Ljava/lang/String;" 0⟩ callTally
    Target.Loaded tallyWorld.debuggee (.ofObject tally) "Tally" ∧
    tallyWorld.tracker.isPending 1 = true ∧ announced.1 = 2 ∧
    seen.1 = .ok (some (2, ⟨shown, 2, .int 7, .returning⟩)) ∧
    seen.2.tracker.pending.get? 1 = some ⟨1, shown, 2, .methodExit⟩ ∧
    done.1 = .ok none ∧ done.2.world.tracker.isPending 2 = false ∧
    (done.2.world.tracker.take 2).1 = none := by
  intro announced started seen done
  have hloaded : Target.Loaded tallyWorld.debuggee (.ofObject tally) "Tally" :=
    Target.loaded_object rfl rfl
  have hbefore : Keeps World.Ignores (World.remote (Remote.frameCount 1) : Call Unit Unit Nat) :=
    fun _ => rfl
  have hbehind : Keeps World.Operates (pure Value.null : Call Unit Unit Value) := .pure _
  obtain ⟨-, hseen, -, hdone⟩ := events_reach_call reportTally 0 "toString"
    "()Ljava/lang/String;" [] (.ofObject tally) callTally []
    ⟨true, true, [⟨⟨"Main", "main", "()V"⟩, .empty⟩]⟩
    [.expect ⟨1, shown, 2, .methodExit⟩] (World.remote (Remote.frameCount 1))
    (fun _ => .methodExit (.int 7)) (fun _ _ => pure .null) rfl rfl rfl hloaded
    ⟨rfl, rfl, rfl, rfl⟩ rfl rfl rfl hbefore fun _ _ => hbehind
  obtain ⟨hcaptured, hkept⟩ := hseen 1 started _ rfl rfl
  have hended : (World.runHook (reportingHooks () []) started).1 ≠ .error .crash := by
    rintro ⟨⟩
  obtain ⟨-, hpending, htaken⟩ := hdone hended
  exact ⟨hloaded, rfl, rfl, hcaptured, hkept 1 _ rfl, rfl, hpending, htaken⟩

end Machine

end Probe

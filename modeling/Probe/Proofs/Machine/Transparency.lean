import Probe.Proofs.Machine.Calls

namespace Probe
set_option autoImplicit true

namespace World

/-- The call neither looks at the tracker nor changes it. -/
def Oblivious (c : Call η κ α) : Prop :=
  ∀ w t, c { w with tracker := t } = ((c w).1, { (c w).2 with tracker := t })

namespace Oblivious

theorem remote (r : Remote η α) : Oblivious (remote r : Call η κ α) := fun _ _ => rfl

theorem attempt {c : Call η κ α} (hc : Oblivious c) :
    Oblivious (Action.attempt c : Call η κ (Except (Abrupt RemoteError) α)) := by
  intro w t
  simp only [Action.attempt, hc w t]

theorem bind {c : Call η κ α} {f : α → Call η κ β} (hc : Oblivious c)
    (hf : ∀ a, Oblivious (f a)) : Oblivious (c >>= f) := by
  intro w t
  rw [Action.bind_apply, Action.bind_apply, hc w t]
  rcases c w with ⟨e | a, w'⟩
  · rfl
  · exact hf a w' t

end Oblivious

theorem composable_oblivious {hooks : Hooks η κ} (hh : ∀ label args, Oblivious (hooks label args)) :
    Composable hooks hooks fun _ c _ => Oblivious c where
  ofExcept _ _ _ := rfl
  bind hx hf := hx.bind hf
  attempt hx := hx.attempt
  contact c := .remote c.make
  hook := hh

end World

namespace Machine

/-- The step neither looks at the tracker nor changes it. -/
def Oblivious (x : Exec η κ α) : Prop :=
  ∀ s t, x (s.withTracker t) = ((x s).1, (x s).2.withTracker t)

theorem oblivious_call {c : Call η κ α} (hc : World.Oblivious c) : Oblivious (call c) := by
  intro s t
  simp only [call, Action.zoom, State.withTracker, hc s.world t]

theorem oblivious_perform {setup : Setup η κ}
    (hh : ∀ label args, World.Oblivious (setup.hooks label args)) (callee : Target)
    (name signature : String) (args : List Value) :
    Oblivious (call (perform setup callee name signature args)) :=
  oblivious_call (rel_perform (World.composable_oblivious hh) callee name signature args)

theorem oblivious_pushValue (setup : Setup η κ) (site : Site) (v : Value) :
    Oblivious (pushValue setup site v) := by
  intro s t
  by_cases hroom : s.stack.length < setup.maxStack
  · have hroom' : (s.withTracker t).stack.length < setup.maxStack := hroom
    rw [pushValue, push_of_room hroom, push_of_room hroom']
    rfl
  · have hroom' : ¬(s.withTracker t).stack.length < setup.maxStack := hroom
    rw [pushValue, push_of_full hroom, push_of_full hroom']

/-- Two outcomes differ in the tracker only. -/
def SameOutcome (r r' : Except (Abrupt Failure) α × State η κ) : Prop :=
  ∃ t, r' = (r.1, r.2.withTracker t)

theorem SameOutcome.bind {x y : Exec η κ α} {f : α → Exec η κ β} (h : SameOutcome (x s) (y s'))
    (hf : ∀ a, Oblivious (f a)) : SameOutcome ((x >>= f) s) ((y >>= f) s') := by
  obtain ⟨t, h⟩ := h
  refine ⟨t, ?_⟩
  rw [Action.bind_apply, Action.bind_apply, h]
  rcases x s with ⟨stop | a, s'⟩
  · rfl
  · exact hf a s' t

theorem oblivious_push_next (setup : Setup η κ) (site : Site) (v : Value) :
    Oblivious (pushValue setup site v >>= fun _ => pure (none : Option Nat)) := by
  intro s t
  rw [Action.bind_apply, Action.bind_apply, oblivious_pushValue setup site v s t]
  rcases pushValue setup site v s with ⟨stop | _, s'⟩ <;> rfl

def Setup.track (setup : Setup η κ) (tracking : Bool) : Setup η κ := { setup with tracking }

variable {setup : Setup η κ} {callee : Target} {s : State η κ}

theorem invoke_plain : invoke (setup.track false) callee.operand name signature args =
    call (perform setup callee name signature args) := by
  simp only [invoke, target_operand, pure_bind]
  rfl

theorem invoke_announced : invoke (setup.track true) callee.operand name signature args =
    announce setup.scope.thread callee name signature >>= fun token =>
      closing setup name signature token callee args := by
  rw [invoke_tracked rfl, target_operand, pure_bind]
  rfl

/-- A call does not notice its announcement. -/
theorem closing_withTracker (hh : ∀ label args, World.Oblivious (setup.hooks label args))
    (k : Token) (t : Tracker) :
    SameOutcome (call (perform setup callee name signature args) s)
      (closing setup name signature k callee args (s.withTracker t)) := by
  have hcall := oblivious_perform hh callee name signature args s t
  by_cases hcrash : (call (perform setup callee name signature args) s).1 = .error .crash
  · rw [hcrash] at hcall
    exact ⟨t, (closing_of_crash hcall).trans (by rw [hcrash])⟩
  · have hne : (call (perform setup callee name signature args) (s.withTracker t)).1 ≠
        .error .crash := by rwa [hcall]
    refine ⟨(t.abandon k).2, ?_⟩
    rw [closing_of_ne_crash hne, hcall]
    rfl

theorem invoke_of_understood (hh : ∀ label args, World.Oblivious (setup.hooks label args))
    (hd : s.world.debuggee.Reachable) (hl : callee.Loaded s.world.debuggee typeName)
    (ht : s.world.debuggee.Stopped setup.scope.thread t)
    (hm : s.world.debuggee.Understands typeName name signature) :
    SameOutcome (invoke (setup.track false) callee.operand name signature args s)
      (invoke (setup.track true) callee.operand name signature args s) := by
  obtain ⟨type, rfl, htype⟩ := hl.type_eq ht
  obtain ⟨declaring, hdecl⟩ := Remote.declaringType_of_understood hd ht hm
  rw [invoke_plain, invoke_announced, Action.bind_of_ok (announce_of_declaring ht htype hdecl)]
  exact closing_withTracker hh _ _

theorem invoke_of_not_stopped (ht : ∀ t, ¬s.world.debuggee.Stopped setup.scope.thread t) :
    SameOutcome (invoke (setup.track false) callee.operand name signature args s)
      (invoke (setup.track true) callee.operand name signature args s) := by
  obtain ⟨e, he⟩ := Remote.suspendedThread_of_not_stopped ht
  rw [invoke_plain, invoke_announced, Action.bind_of_error (announce_of_refused he),
    perform_of_refused (Action.bind_of_error he _)]
  exact ⟨s.world.tracker, rfl⟩

theorem invoke_of_paused (ht : s.world.debuggee.Stopped setup.scope.thread t)
    (hevent : t.byEvent = false) :
    invoke (setup.track false) callee.operand name signature args s =
      (.error (.error (.expression (.notAtEvent setup.scope.thread))), s) := by
  have hcheck : Remote.checkInvocable setup.scope.thread s.world.debuggee =
      (.error (.notAtEvent setup.scope.thread), s.world.debuggee) := by
    refine (Action.bind_of_ok (Remote.suspendedThread_of_stopped ht) _).trans ?_
    simp only [Action.require, hevent]
    rfl
  rw [invoke_plain, perform_of_refused hcheck]
  rfl

theorem invoke_of_missing (hl : callee.Loaded s.world.debuggee typeName)
    (ht : s.world.debuggee.Stopped setup.scope.thread t)
    (hm : ¬s.world.debuggee.Understands typeName name signature) :
    invoke (setup.track true) callee.operand name signature args s =
      (.error (.error (.ofRemote (.noSuchMethod typeName name signature))), s) := by
  rw [invoke_announced]
  exact Action.bind_of_error (announce_of_missing ht hl hm) _

theorem invoke_of_logged (hl : callee.Loaded s.world.debuggee typeName)
    (ht : s.world.debuggee.Stopped setup.scope.thread t) (hevent : t.byEvent = true)
    (hm : ¬s.world.debuggee.Understands typeName name signature) :
    invoke (setup.track false) callee.operand name signature args s =
      (.error (.error (.ofRemote (.noSuchMethod typeName name signature))),
        s.withDebuggee
          (s.world.debuggee.log (callee.entry typeName name signature args))) := by
  rw [invoke_plain]
  simp only [call, Action.zoom, perform_of_missing hl ht hevent hm]
  rfl

/-- Apart from the tracker, a call on a loaded receiver comes out the same with and without
tracking if its name is understood or its thread is not suspended at all, and a thread that no
event has suspended is then refused either way. If there is no such method, a tracked call fails
without an entry in the log, also where the thread would have been refused. -/
theorem tracking_transparent (setup : Setup η κ) (pc : Nat) (name signature : String)
    (args : List Value) (callee : Target) (s : State η κ) (rest : List Operand)
    (hh : ∀ label args, World.Oblivious (setup.hooks label args))
    (hd : s.world.debuggee.Reachable)
    (hs : s.stack = args.reverse.map .value ++ callee.operand :: rest)
    (hl : callee.Loaded s.world.debuggee typeName) :
    let d := s.world.debuggee
    let thread := setup.scope.thread
    let site : Site := ⟨pc, .invoke name signature args.length⟩
    let plain := execute (setup.track false) site s
    let tracked := execute (setup.track true) site s
    let taken : State η κ := { s with stack := rest }
    (d.Understands typeName name signature ∨ (∀ t, ¬d.Stopped thread t) →
      SameOutcome plain tracked) ∧
    (∀ t, d.Stopped thread t → t.byEvent = false →
      plain = (.error (.error (.expression (.notAtEvent thread))), taken) ∧
      (d.Understands typeName name signature → tracked.1 = plain.1)) ∧
    ∀ t, d.Stopped thread t → ¬d.Understands typeName name signature →
      tracked = (.error (.error (.ofRemote (.noSuchMethod typeName name signature))), taken) ∧
      (t.byEvent = true → plain =
        (tracked.1, taken.withDebuggee (d.log (callee.entry typeName name signature args)))) := by
  intro d thread site plain tracked taken
  have hplain := execute_of_operands (setup.track false) pc name signature args callee s rest hs
  have htracked := execute_of_operands (setup.track true) pc name signature args callee s rest hs
  have hsame : d.Understands typeName name signature ∨ (∀ t, ¬d.Stopped thread t) →
      SameOutcome plain tracked := by
    intro hm
    have hinvoke : SameOutcome (invoke (setup.track false) callee.operand name signature args taken)
        (invoke (setup.track true) callee.operand name signature args taken) := by
      by_cases ht : ∃ t, d.Stopped thread t
      · obtain ⟨t, ht⟩ := ht
        exact invoke_of_understood hh hd hl ht (hm.resolve_right fun hno => hno t ht)
      · exact invoke_of_not_stopped (not_exists.1 ht)
    simp only [tracked, plain, site, htracked, hplain]
    exact hinvoke.bind (oblivious_push_next setup site)
  refine ⟨hsame, ?_, ?_⟩
  · intro t ht hevent
    refine ⟨hplain.trans (Action.bind_of_error (invoke_of_paused (s := taken) ht hevent) _), ?_⟩
    intro hm
    obtain ⟨t', htracker⟩ := hsame (.inl hm)
    rw [htracker]
  · intro t ht hm
    have hfails : tracked =
        (.error (.error (.ofRemote (.noSuchMethod typeName name signature))), taken) :=
      htracked.trans (Action.bind_of_error (invoke_of_missing (s := taken) hl ht hm) _)
    refine ⟨hfails, ?_⟩
    intro hevent
    rw [hfails]
    exact hplain.trans (Action.bind_of_error (invoke_of_logged (s := taken) hl ht hevent hm) _)

def callCounter (w : World Unit Unit) : State Unit Unit :=
  ⟨[.value (.object counter)], .empty, w⟩

/-- The thread of the world is suspended, but by no event. -/
def pausedWorld : World Unit Unit :=
  { counterWorld with debuggee := counterWorld.debuggee.suspend 1 false }

theorem counterHooks_oblivious (label : Unit) (args : List Value) :
    World.Oblivious (counterHooks label args) :=
  (World.Oblivious.remote _).bind fun _ _ _ => rfl

theorem counter_loaded : Target.Loaded counterWorld.debuggee (.ofObject counter) "Counter" :=
  Target.loaded_object rfl rfl

theorem tracking_transparent_counter :
    (∀ label args, World.Oblivious (watchCounter.hooks label args)) ∧
    counterWorld.debuggee.Reachable ∧
    Target.Loaded counterWorld.debuggee (.ofObject counter) "Counter" ∧
    let site : Site := ⟨0, .invoke "toString" "()Ljava/lang/String;" 0⟩
    let plain := execute (watchCounter.track false) site (callCounter counterWorld)
    let tracked := execute (watchCounter.track true) site (callCounter counterWorld)
    SameOutcome plain tracked ∧ plain.1 = .ok none ∧
    tracked.2.world.debuggee.calls.length = 2 := by
  refine ⟨counterHooks_oblivious, counterWorld_reachable, counter_loaded, ?_, rfl, by decide⟩
  exact (tracking_transparent watchCounter 0 "toString" "()Ljava/lang/String;" []
    (.ofObject counter) (callCounter counterWorld) [] counterHooks_oblivious counterWorld_reachable
    rfl counter_loaded).1 (.inl (.inr rfl))

/-- On a thread that no event has suspended, tracking turns the refusal of a call into the claim
that there is no such method. -/
theorem tracking_hides_refusal :
    let site : Site := ⟨0, .invoke "nope" "()V" 0⟩
    pausedWorld.debuggee.Reachable ∧
    Target.Loaded pausedWorld.debuggee (.ofObject counter) "Counter" ∧
    (execute (watchCounter.track false) site (callCounter pausedWorld)).1 =
      .error (.error (.expression (.notAtEvent 1))) ∧
    (execute (watchCounter.track true) site (callCounter pausedWorld)).1 =
      .error (.error (.expression (.noSuchMethod "Counter" "nope" "()V"))) :=
  ⟨counterWorld_reachable.tail (.suspend 1 false), Target.loaded_object rfl rfl, rfl, rfl⟩

end Machine

end Probe

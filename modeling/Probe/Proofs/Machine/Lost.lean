import Probe.Proofs.Machine.SideEffects

namespace Probe
set_option autoImplicit true

/-- The debuggee cannot answer any more. One that has ended is not called disconnected. -/
inductive Debuggee.Lost (d : Debuggee η) : RemoteError → Prop
  | terminated (h : d.alive = false) : d.Lost .terminated
  | disconnected (ha : d.alive = true) (hc : d.connected = false) : d.Lost .disconnected

namespace Remote

theorem checkAlive_of_lost {d : Debuggee η} (hd : d.Lost loss) :
    checkAlive d = (.error loss, d) := by
  cases hd with
  | terminated h => simp [checkAlive, h]
  | disconnected ha hc => simp [checkAlive, ha, hc]

end Remote

theorem Request.send_of_lost {d : Debuggee η} (hd : d.Lost loss) (r : Request η α) :
    r.send d = (.error loss, d) := by
  have hcheck {β : Type} (f : Unit → Remote η β) : (Remote.checkAlive >>= f) d = (.error loss, d) :=
    Action.bind_of_error (Remote.checkAlive_of_lost hd) f
  have hobject {β : Type} (h : Handle) (f : HeapObject → Remote η β) :
      (Remote.heapObject h >>= f) d = (.error loss, d) := Action.bind_of_error (hcheck _) f
  have hthread {β : Type} (thread : ThreadId) (f : Thread → Remote η β) :
      (Remote.suspendedThread thread >>= f) d = (.error loss, d) :=
    Action.bind_of_error (hcheck _) f
  have hcall {β : Type} (thread : ThreadId) (f : Unit → Remote η β) :
      (Remote.checkInvocable thread >>= f) d = (.error loss, d) :=
    Action.bind_of_error (hthread thread _) f
  have hframe {β : Type} (thread : ThreadId) (frame : Nat)
      (f : Thread × Nat × CallFrame → Remote η β) :
      (Remote.frameAt thread frame >>= f) d = (.error loss, d) :=
    Action.bind_of_error (hthread thread _) f
  have helements {β : Type} (h : Handle) (f : List Value → Remote η β) :
      (Remote.elements h >>= f) d = (.error loss, d) := Action.bind_of_error (hobject h _) f
  cases r with
  | makeString | classByName | declaringType | getStatic | setStatic | newArray | isSuspended =>
    exact hcheck _
  | typeOf h | isAssignable h | getField h | setField h | setElement h | stringText h =>
    exact hobject h _
  | arrayLength h | getElement h => exact helements h _
  | construct _ _ _ thread | selectInstance _ _ _ _ thread | selectStatic _ _ _ _ thread =>
    exact hcall thread _
  | getLocal thread frame | setLocal thread frame => exact hframe thread frame _
  | frameCount thread => exact hthread thread _

namespace World

theorem remote_of_lost {w : World η κ} (hw : w.debuggee.Lost loss) (r : Request η α) :
    (remote r.send : Call η κ α) w = (.error (.error loss), w) := by
  simp only [remote, Action.zoom, r.send_of_lost hw]
  rfl

theorem invokeMethod_of_lost {w : World η κ} (hw : w.debuggee.Lost loss) (hooks : Hooks η κ)
    (h : Handle) (name signature : String) (args : List Value) (thread : ThreadId) :
    invokeMethod hooks h name signature args thread w = (.error (.error loss), w) :=
  Action.bind_of_error (remote_of_lost hw (.selectInstance h name signature args thread)) _

theorem invokeStatic_of_lost {w : World η κ} (hw : w.debuggee.Lost loss) (hooks : Hooks η κ)
    (type : TypeRef) (name signature : String) (args : List Value) (thread : ThreadId) :
    invokeStatic hooks type name signature args thread w = (.error (.error loss), w) :=
  Action.bind_of_error (remote_of_lost hw (.selectStatic type name signature args thread)) _

end World

namespace Machine

/-- Against a lost debuggee the step changes nothing outside the machine, and it does not fail
for a reason that only the debuggee could have given. -/
def Frozen (loss : RemoteError) (x : Exec η κ α) : Prop :=
  ∀ s, s.world.debuggee.Lost loss → (x s).2.world = s.world ∧
    ∀ stop, (x s).1 = .error stop → ∃ f, stop = .error f ∧ f.Excused loss

theorem ofRemote_of_lost {d : Debuggee η} (hd : d.Lost loss) :
    Failure.ofRemote loss = .communication loss := by
  cases hd <;> rfl

theorem perform_of_lost {w : World η κ} (hw : w.debuggee.Lost loss) (setup : Setup η κ)
    (callee : Target) (name signature : String) (args : List Value) :
    perform setup callee name signature args w = (.error (.error loss), w) := by
  cases callee with
  | ofType t => exact World.invokeStatic_of_lost hw _ t _ _ _ _
  | ofObject h => exact World.invokeMethod_of_lost hw _ h _ _ _ _

namespace Frozen

theorem of_ok {x : Exec η κ α} (hx : ∀ s, ∃ a s', x s = (.ok a, s') ∧ s'.world = s.world) :
    Frozen loss x := by
  intro s _
  obtain ⟨a, s', hok, hworld⟩ := hx s
  rw [hok]
  refine ⟨hworld, ?_⟩
  rintro stop ⟨⟩

theorem pure (a : α) : Frozen loss (pure a : Exec η κ α) := of_ok fun s => ⟨a, s, rfl, rfl⟩

theorem read (f : State η κ → α) : Frozen loss (Action.read f : Exec η κ α) :=
  of_ok fun s => ⟨f s, s, rfl, rfl⟩

theorem bind {x : Exec η κ α} {f : α → Exec η κ β} (hx : Frozen loss x)
    (hf : ∀ a, Frozen loss (f a)) : Frozen loss (x >>= f) := by
  intro s hs
  obtain ⟨hworld, hstop⟩ := hx s hs
  rw [Action.bind_apply]
  rcases hxs : x s with ⟨stop | a, s'⟩ <;> rw [hxs] at hworld hstop
  · refine ⟨hworld, ?_⟩
    rintro _ ⟨⟩
    exact hstop stop rfl
  · have hs' : s'.world = s.world := hworld
    have hrest := hf a s' (hs' ▸ hs)
    rw [hs'] at hrest
    exact hrest

/-- The loss is all that has to be reckoned with as an answer. -/
theorem answered_bind (error : RemoteError → ε) {c : Call η κ (Except ε α)}
    (hc : ∀ w, w.debuggee.Lost loss → c w = (.ok (.error (error loss)), w))
    {f : Except ε α → Exec η κ β} (hf : Frozen loss (f (.error (error loss)))) :
    Frozen loss (call c >>= f) := by
  intro s hs
  have hcall : call c s = (.ok (.error (error loss)), s) := by
    simp only [call, Action.zoom, hc s.world hs]
    rfl
  rw [Action.bind_of_ok hcall]
  exact hf s hs

theorem fail {f : Failure} (hf : f.Excused loss) : Frozen loss (fail f : Exec η κ α) := by
  intro s _
  refine ⟨rfl, ?_⟩
  rintro stop ⟨⟩
  exact ⟨f, rfl, hf⟩

theorem finish (length : Nat) : Frozen loss (finish length : Exec η κ Value) := by
  apply (read State.stack).bind
  intro stack
  split
  · exact pure _
  · exact fail trivial
  · exact fail trivial

end Frozen

def Conditions.ofLoss {e : RemoteError} (h : Failure.ofRemote e = .communication e) :
    Conditions where
  loss := some e
  isCommunication := by
    rintro _ ⟨⟩
    exact h

section
variable (hloss : Failure.ofRemote loss = .communication loss)

theorem composable_frozen (setup : Setup η κ) :
    Composable (.ofLoss hloss) setup setup fun _ x _ => Frozen loss x where
  pure := .pure
  bind hx hf := hx.bind hf
  fail hf := .fail (hf.2 loss rfl)
  crash h := by cases h
  names f := .of_ok fun s => ⟨_, _, rfl, rfl⟩
  ask r _ _ _ hf := by
    refine Frozen.answered_bind id ?_ (hf _ ?_)
    · intro w hw
      simp only [World.remote, Action.zoom, Action.attempt, r.send_of_lost hw]
      rfl
    · rintro _ ⟨⟩
      rfl
  perform callee name signature args _ _ _ hf := by
    refine Frozen.answered_bind .error ?_ (hf _ ?_)
    · intro w hw
      simp only [Action.attempt, perform_of_lost hw]
    · rintro _ ⟨⟩
      rfl
  expect h := by cases h
  withdraw h := by cases h

theorem compatible_frozen (setup : Setup η κ) (site : Site) :
    Compatible (.ofLoss hloss) setup setup site site fun _ x _ => Frozen loss x where
  toComposable := composable_frozen hloss setup
  pop := by
    apply (Frozen.read State.stack).bind
    intro stack
    split
    · exact .fail trivial
    · exact .of_ok fun s => ⟨_, _, rfl, rfl⟩
  unexpected _ := .fail trivial
  push operand := by
    intro s hs
    by_cases hroom : s.stack.length < setup.maxStack
    · rw [push_of_room hroom]
      exact Frozen.pure () s hs
    · rw [push_of_full hroom]
      exact Frozen.fail (f := .malformed _) trivial s hs

include hloss

theorem frozen_checkpoint (setup : Setup η κ) (pc : Nat) :
    Frozen loss (checkpoint setup pc) := by
  have hsteps := composable_frozen hloss setup
  have hcancelled : (Conditions.ofLoss hloss).Reports .cancelled := ⟨by simp, fun _ _ => trivial⟩
  have htimedOut : (Conditions.ofLoss hloss).Reports .timedOut := ⟨by simp, fun _ _ => trivial⟩
  apply (Frozen.read _).bind
  intro cancelled
  refine Frozen.bind (hsteps.require _ hcancelled) ?_
  intro _
  exact hsteps.require _ htimedOut

end

/-- A lost debuggee is frozen. Every request and every call fails with the loss and changes
nothing. A run, from whatever state of the machine, changes nothing outside the machine, and if
it fails it does so with the loss or for a reason that it found without the debuggee. -/
theorem run_of_lost (setup : Setup η κ) (s : State η κ) (hs : s.world.debuggee.Lost loss) :
    (∀ (α : Type) (r : Request η α),
      r.send s.world.debuggee = (.error loss, s.world.debuggee)) ∧
    (∀ h name signature args thread,
      World.invokeMethod setup.hooks h name signature args thread s.world =
        (.error (.error loss), s.world)) ∧
    (∀ type name signature args thread,
      World.invokeStatic setup.hooks type name signature args thread s.world =
        (.error (.error loss), s.world)) ∧
    (∀ code, (runCode setup code s).2.world = s.world ∧
      ∀ stop, (runCode setup code s).1 = .error stop →
        ∃ f, stop = .error f ∧ f.Excused loss) ∧
    ∀ pc skip is, (runFrom setup pc skip is s).2.world = s.world ∧
      ∀ stop, (runFrom setup pc skip is s).1 = .error stop →
        ∃ f, stop = .error f ∧ f.Excused loss := by
  have hloss := ofRemote_of_lost hs
  refine ⟨fun _ r => r.send_of_lost hs, ?_, ?_, ?_, ?_⟩
  · intro h name signature args thread
    exact World.invokeMethod_of_lost hs setup.hooks h name signature args thread
  · intro type name signature args thread
    exact World.invokeStatic_of_lost hs setup.hooks type name signature args thread
  · intro code
    exact rel_runCode trivial (compatible_frozen hloss setup) (frozen_checkpoint hloss setup)
      Frozen.finish rfl code s hs
  · intro pc skip is
    exact rel_runFrom_same trivial (compatible_frozen hloss setup)
      (frozen_checkpoint hloss setup) pc skip is s hs

/-- A machine in the middle of a run, with an object on its stack, whose debuggee has ended
after the connection was lost. -/
def endedMidRun : State Unit Unit :=
  { stack := [.value (.object counter)]
    temporaries := .empty
    world :=
      { counterWorld with debuggee := counterWorld.debuggee.disconnect.terminate } }

def cutOffMidRun : State Unit Unit :=
  { endedMidRun with
    world := { counterWorld with debuggee := counterWorld.debuggee.disconnect } }

theorem run_of_lost_midRun :
    endedMidRun.world.debuggee.Lost .terminated ∧
    cutOffMidRun.world.debuggee.Lost .disconnected ∧
    (Request.getField counter "calls").send endedMidRun.world.debuggee =
      (.error .terminated, endedMidRun.world.debuggee) ∧
    (runFrom watchCounter 0 0 [.invoke "toString" "()Ljava/lang/String;" 0] endedMidRun).2.world =
      endedMidRun.world ∧
    (runFrom watchCounter 0 0 [.invoke "nope" "()V" 0] cutOffMidRun).2.world =
      cutOffMidRun.world ∧
    (runFrom watchCounter 0 0 [.invoke "nope" "()V" 0] cutOffMidRun).1 =
      .error (.error (.communication .disconnected)) := by
  have hended : endedMidRun.world.debuggee.Lost .terminated := .terminated rfl
  have hcut : cutOffMidRun.world.debuggee.Lost .disconnected := .disconnected rfl rfl
  obtain ⟨hsend, -, -, -, hrun⟩ := run_of_lost watchCounter endedMidRun hended
  obtain ⟨-, -, -, -, hrun'⟩ := run_of_lost watchCounter cutOffMidRun hcut
  exact ⟨hended, hcut, hsend _ _, (hrun 0 0 _).1, (hrun' 0 0 _).1, rfl⟩

end Machine

end Probe

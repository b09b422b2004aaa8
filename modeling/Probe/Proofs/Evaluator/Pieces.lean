import Probe.Proofs.Evaluator.Alone
import Probe.Proofs.Machine.Steady

namespace Probe

open Probe.Action (Keeps)

namespace World
set_option autoImplicit true

def SameLeases (w w' : World η κ) : Prop := w'.leases = w.leases

instance : IsPreorder (World η κ) SameLeases where
  refl _ := rfl
  trans _ _ _ h h' := h'.trans h

def noHooks : Hooks η κ := fun _ _ => Action.fail .crash

theorem admits_sameLeases : Admits (noHooks : Hooks η κ) SameLeases where
  debuggee _ _ := rfl
  hook _ _ _ := rfl
  expect _ _ := rfl
  abandon _ _ := rfl

theorem sameLeases_remote (r : Remote η α) : Keeps SameLeases (remote r : Call η κ α) :=
  fun _ => rfl

theorem sameLeases_display (thread : ThreadId) (v : Value) :
    Keeps SameLeases (display (noHooks : Hooks η κ) thread v) :=
  (composable_keeps (fun c => sameLeases_remote c.make) admits_sameLeases.hook).display thread v

end World

namespace Evaluator
set_option autoImplicit true

/-- What the client does for each hook label, as a process. -/
abbrev Callbacks (η κ : Type) := η → List Value → Process η κ (Except (Abrupt RemoteError) Value)

namespace Process

def ofAction (x : Action (World η κ) ε α) (hx : Keeps World.SameLeases x) :
    Process η κ (Except ε α) :=
  .work (fun w => (x w).2) hx fun w => .done (x w).1

def andThen (p : Process η κ (Except ε α)) (f : α → Process η κ (Except ε β)) :
    Process η κ (Except ε β) :=
  p.bind fun
    | .ok a => f a
    | .error e => .done (.error e)

def remote (r : Remote η α) : Process η κ (Except (Abrupt RemoteError) α) :=
  ofAction (World.remote r) (World.sameLeases_remote r)

def runHook (hook : Process η κ (Except (Abrupt RemoteError) Value)) :
    Process η κ (Except (Abrupt RemoteError) Value) :=
  hook.bind fun
    | .error .crash => .done (.error .crash)
    | result => (remote Remote.checkAlive).andThen fun _ => .done result

def runBehavior (callbacks : Callbacks η κ) (behavior : Behavior η) (args : List Value) :
    Process η κ (Except (Abrupt RemoteError) Value) :=
  match behavior with
  | .returns value => .done (.ok value)
  | .returnsString text => remote (return .object (← Remote.change (·.newString text)))
  | .throws typeName => remote do
    Action.fail (.threw (← Remote.change (·.newObject typeName)))
  | .hook label => runHook (callbacks label args)

def runCallee (callbacks : Callbacks η κ) (args : List Value) :
    Remote.Callee η → Process η κ (Except (Abrupt RemoteError) Value)
  | .answer value => .done (.ok value)
  | .declared behavior => runBehavior callbacks behavior args

def invokeMethod (callbacks : Callbacks η κ) (h : Handle) (name signature : String)
    (args : List Value) (thread : ThreadId) : Process η κ (Except (Abrupt RemoteError) Value) :=
  (remote (Remote.selectInstance h name signature args thread)).andThen (runCallee callbacks args)

def invokeStatic (callbacks : Callbacks η κ) (type : TypeRef) (name signature : String)
    (args : List Value) (thread : ThreadId) : Process η κ (Except (Abrupt RemoteError) Value) :=
  (remote (Remote.selectStatic type name signature args thread)).andThen (runCallee callbacks args)

def display (callbacks : Callbacks η κ) (thread : ThreadId) :
    Value → Process η κ (Except (Abrupt RemoteError) String)
  | .object h =>
    if h.isString then remote (Remote.stringText h)
    else
      (invokeMethod callbacks h "toString" "()Ljava/lang/String;" [] thread).andThen fun
        | .object text => remote (Remote.stringText text)
        | _ => .done (.ok "null")
  | v => ofAction (World.display World.noHooks thread v) (World.sameLeases_display thread v)

end Process

namespace Performs

theorem done (r : Except ε α) :
    Performs (.done r : Process η κ (Except ε α)) (Action.ofExcept r) :=
  Implements.done r

theorem ofAction (x : Action (World η κ) ε α) (hx : Keeps World.SameLeases x) :
    Performs (.ofAction x hx) x :=
  Implements.work fun w => .done (x w).1

theorem andThen {p : Process η κ (Except ε α)} {f : α → Process η κ (Except ε β)}
    {x : Action (World η κ) ε α} {y : α → Action (World η κ) ε β} (hp : Performs p x)
    (hf : ∀ a, Performs (f a) (y a)) : Performs (p.andThen f) (x >>= y) := by
  have hnext (r : Except ε α) : Performs
      (match r with
        | .ok a => f a
        | .error e => .done (.error e))
      (Action.ofExcept r >>= y) := by
    cases r with
    | ok a => exact hf a
    | error e => exact done _
  refine (hp.bind hnext).congr fun w => ?_
  simp only [Action.bind_apply]
  rcases x w with ⟨_ | _, w'⟩ <;> rfl

theorem remote (r : Remote η α) :
    Performs (.remote r : Process η κ (Except (Abrupt RemoteError) α)) (World.remote r) :=
  ofAction _ _

theorem runHook {p : Process η κ (Except (Abrupt RemoteError) Value)} {hook : Call η κ Value}
    (h : Performs p hook) : Performs (.runHook p) (World.runHook hook) := by
  have hnext (result : Except (Abrupt RemoteError) Value) : Performs
      (match result with
        | .error .crash => .done (.error .crash)
        | result => (Process.remote Remote.checkAlive).andThen fun _ => .done result)
      (World.runHook (Action.ofExcept result) : Call η κ Value) := by
    rcases result with (e | _) | v
    · exact (remote _).andThen fun _ => done _
    · exact done _
    · exact (remote _).andThen fun _ => done _
  refine (h.bind hnext).congr fun w => ?_
  simp only [World.runHook, Action.bind_apply, Action.attempt]
  rcases hook w with ⟨(e | _) | v, w'⟩ <;> rfl

section
variable {callbacks : Callbacks η κ} {hooks : Hooks η κ}
  (hh : ∀ label args, Performs (callbacks label args) (hooks label args))
include hh

theorem runBehavior (behavior : Behavior η) (args : List Value) :
    Performs (.runBehavior callbacks behavior args) (World.runBehavior hooks behavior args) := by
  cases behavior with
  | returns value => exact done _
  | returnsString text => exact remote _
  | throws typeName => exact remote _
  | hook label => exact (hh label args).runHook

theorem runCallee (args : List Value) (callee : Remote.Callee η) :
    Performs (.runCallee callbacks args callee) (World.runCallee hooks args callee) := by
  cases callee with
  | answer value => exact done _
  | declared behavior => exact runBehavior hh behavior args

theorem invokeMethod (h : Handle) (name signature : String) (args : List Value)
    (thread : ThreadId) : Performs (.invokeMethod callbacks h name signature args thread)
      (World.invokeMethod hooks h name signature args thread) :=
  (remote _).andThen (runCallee hh args)

theorem invokeStatic (type : TypeRef) (name signature : String) (args : List Value)
    (thread : ThreadId) : Performs (.invokeStatic callbacks type name signature args thread)
      (World.invokeStatic hooks type name signature args thread) :=
  (remote _).andThen (runCallee hh args)

theorem display (thread : ThreadId) (v : Value) :
    Performs (.display callbacks thread v) (World.display hooks thread v) := by
  cases v with
  | object h =>
    by_cases hs : h.isString
    · rw [World.display_string hs]
      simp only [Process.display, hs, if_true]
      exact remote _
    · rw [World.display_object (Bool.eq_false_iff.2 hs)]
      simp only [Process.display, hs]
      refine (invokeMethod hh h _ _ _ thread).andThen fun answer => ?_
      cases answer with
      | object text => exact remote _
      | _ => exact done _
  | _ => exact ofAction _ _

end

end Performs

open Machine (Exec Setup Site Seen State Target)

/-- What a machine keeps to itself between its pieces. -/
structure Frame where
  stack : List Operand
  temporaries : Table String Value

namespace Frame

def state (f : Frame) (w : World η κ) : State η κ := ⟨f.stack, f.temporaries, w⟩

def ofState (s : State η κ) : Frame := ⟨s.stack, s.temporaries⟩

end Frame

def Program (η κ α : Type) : Type 1 := Frame → Process η κ (Except (Abrupt Failure) α × Frame)

/-- The program does, left alone, what the step does in one go. -/
def Runs (p : Program η κ α) (x : Exec η κ α) : Prop :=
  ∀ f : Frame, Implements (p f) fun w =>
    (((x (f.state w)).1, .ofState (x (f.state w)).2), (x (f.state w)).2.world)

namespace Program

def piece (x : Exec η κ α) (hx : Keeps (Seen World.SameLeases) x) : Program η κ α := fun f =>
  .work (fun w => (x (f.state w)).2.world) (fun w => hx (f.state w)) fun w =>
    .done ((x (f.state w)).1, .ofState (x (f.state w)).2)

def bind (p : Program η κ α) (g : α → Program η κ β) : Program η κ β := fun f =>
  (p f).bind fun
    | (.ok a, f) => g a f
    | (.error e, f) => .done (.error e, f)

def attempt (p : Program η κ α) : Program η κ (Except (Abrupt Failure) α) := fun f =>
  (p f).bind fun r => .done (.ok r.1, r.2)

def call (c : Process η κ (Except (Abrupt RemoteError) α)) : Program η κ α := fun f =>
  c.bind fun r => .done (r.mapError (·.map .ofRemote), f)

theorem sameLeases_steps (setup : Setup η κ) :
    Machine.Composable {} ({ setup with hooks := World.noHooks } : Setup η κ)
      { setup with hooks := World.noHooks } fun _ x _ => Keeps (Seen World.SameLeases) x :=
  Machine.composable_seen World.admits_sameLeases.withstands

section
variable (callbacks : Callbacks η κ) (setup : Setup η κ)

def perform (target : Target) (name signature : String) (args : List Value) :
    Process η κ (Except (Abrupt RemoteError) Value) :=
  match target with
  | .ofType t => .invokeStatic callbacks t name signature args setup.scope.thread
  | .ofObject h => .invokeMethod callbacks h name signature args setup.scope.thread

def invoke (receiver : Operand) (name signature : String) (args : List Value) :
    Program η κ Value :=
  (piece (Machine.target receiver name signature) ((sameLeases_steps setup).target _ _ _)).bind
    fun target =>
      if setup.tracking then
        (piece (Machine.announce setup.scope.thread target name signature)
          ((sameLeases_steps setup).announce _ _ _ _)).bind fun token =>
            (call (perform callbacks setup target name signature args)).attempt.bind fun
              | .ok v => piece (Machine.withdraw token >>= fun _ => pure v)
                (((sameLeases_steps setup).withdraw rfl token).bind fun _ => .pure _)
              | .error .crash => piece (Action.fail .crash) (.fail _)
              | .error stop => piece (Machine.withdraw token >>= fun _ => Action.fail stop)
                (((sameLeases_steps setup).withdraw rfl token).bind fun _ => .fail _)
      else call (perform callbacks setup target name signature args)

def combine (op : BinaryOp) (l r : Value) : Program η κ Value :=
  if op = .arith .add ∧ (l.isString ∨ r.isString) then
    (call (.display callbacks setup.scope.thread l)).bind fun left =>
      (call (.display callbacks setup.scope.thread r)).bind fun right =>
        piece (Machine.remote (Remote.makeString (left ++ right)) >>= fun h => pure (.object h))
          ((sameLeases_steps setup).makeText _)
  else piece (Machine.ofResult (op.apply l r)) (.of_silent (Machine.silent_ofResult _))

/-- Leaves a result on the stack and goes on with the next instruction. -/
def finishWith (site : Site) (v : Value) : Program η κ (Option Nat) :=
  piece (Machine.pushValue setup site v >>= fun _ => pure none)
    ((Machine.seen_of_inside (Machine.inside_pushValue setup site v)).bind fun _ => .pure _)

/-- Only calls and binary operations can run hooks; all other instructions are one piece. -/
def execute (site : Site) : Program η κ (Option Nat) :=
  match site.instruction with
  | .invoke name signature argCount =>
    (piece (Machine.popArgs site argCount)
      (Machine.seen_of_inside (Machine.inside_popArgs site argCount))).bind fun args =>
        (piece (Machine.pop site) (Machine.seen_of_inside (Machine.inside_pop site))).bind
          fun receiver => (invoke callbacks setup receiver name signature args).bind
            (finishWith setup site)
  | .binary op =>
    (piece (Machine.popValue site) (Machine.seen_of_inside (Machine.inside_popValue site))).bind
      fun r => (piece (Machine.popValue site)
        (Machine.seen_of_inside (Machine.inside_popValue site))).bind
          fun l => (combine callbacks setup op l r).bind (finishWith setup site)
  | _ => piece (Machine.execute { setup with hooks := World.noHooks } site) fun s =>
    Machine.seen_visit World.admits_sameLeases.withstands trivial ⟨site, s⟩

def runFrom : Nat → Nat → List Instruction → Program η κ Unit
  | _, _, [] => piece (pure ()) (.pure _)
  | pc, skip + 1, _ :: rest => runFrom (pc + 1) skip rest
  | pc, 0, i :: rest =>
    (piece (Machine.checkpoint setup pc) (.of_silent (Machine.silent_checkpoint setup pc))).bind
      fun _ =>
      (execute callbacks setup ⟨pc, i⟩).bind fun
        | none => runFrom (pc + 1) 0 rest
        | some target => runFrom (pc + 1) (target - (pc + 1)) rest

def runCode (code : Code) : Program η κ Value :=
  (piece (Machine.require (setup.mayChange || !code.hasSideEffects)
    (.expression .sideEffectsNotAllowed)) (.require _ _)).bind fun _ =>
      (runFrom callbacks setup 0 0 code.instructions).bind fun _ =>
        piece (Machine.finish code.length) (.of_silent (Machine.silent_finish _))

/-- Runs code in a new machine. -/
def run (code : Code) : Process η κ Outcome :=
  (runCode callbacks setup code ⟨[], .empty⟩).bind fun r => .done r.1

end

end Program

namespace Runs

theorem piece (x : Exec η κ α) (hx : Keeps (Seen World.SameLeases) x) : Runs (.piece x hx) x :=
  fun _ => Implements.work fun _ => .done _

theorem bind {p : Program η κ α} {g : α → Program η κ β} {x : Exec η κ α} {y : α → Exec η κ β}
    (hp : Runs p x) (hg : ∀ a, Runs (g a) (y a)) : Runs (p.bind g) (x >>= y) := by
  intro f
  have hnext (r : Except (Abrupt Failure) α × Frame) : Implements
      (match r with
        | (.ok a, f) => g a f
        | (.error e, f) => .done (.error e, f))
      fun w =>
        let s := (Action.ofExcept r.1 >>= y) (r.2.state w)
        ((s.1, .ofState s.2), s.2.world) := by
    rcases r with ⟨e | a, f⟩
    · exact .done _
    · exact hg a f
  refine ((hp f).bind hnext).congr fun w => ?_
  simp only [Action.bind_apply]
  rcases x (f.state w) with ⟨_ | _, s⟩ <;> rfl

theorem attempt {p : Program η κ α} {x : Exec η κ α} (hp : Runs p x) :
    Runs p.attempt (Action.attempt x) :=
  fun f => ((hp f).bind fun r => .done (Except.ok r.1, r.2)).congr fun _ => rfl

theorem call {p : Process η κ (Except (Abrupt RemoteError) α)} {c : Call η κ α}
    (hp : Performs p c) : Runs (.call p) (Machine.call c) := by
  intro f
  have hresult (r : Except (Abrupt RemoteError) α) :
      Implements (.done (r.mapError (·.map Failure.ofRemote), f)) fun w : World η κ =>
        ((r.mapError (·.map Failure.ofRemote), f), w) := .done _
  exact (hp.bind hresult).congr fun _ => rfl

section
variable {callbacks : Callbacks η κ} {setup : Setup η κ} {hooks : Hooks η κ}
  (hh : ∀ label args, Performs (callbacks label args) (hooks label args))
include hh

theorem perform (target : Target) (name signature : String) (args : List Value) :
    Performs (Program.perform callbacks setup target name signature args)
      (Machine.perform { setup with hooks } target name signature args) := by
  cases target with
  | ofType t => exact Performs.invokeStatic hh t name signature args _
  | ofObject h => exact Performs.invokeMethod hh h name signature args _

theorem invoke (receiver : Operand) (name signature : String) (args : List Value) :
    Runs (Program.invoke callbacks setup receiver name signature args)
      (Machine.invoke { setup with hooks } receiver name signature args) := by
  refine (piece _ _).bind fun target => ?_
  have hcall : Runs (.call (Program.perform callbacks setup target name signature args))
      (Machine.call (Machine.perform { setup with hooks } target name signature args)) :=
    call (perform hh target name signature args)
  cases setup.tracking with
  | true =>
    refine (piece _ _).bind fun token => hcall.attempt.bind fun result => ?_
    rcases result with (e | _) | v
    · exact piece _ _
    · exact piece _ _
    · exact piece _ _
  | false => exact hcall

theorem combine (op : BinaryOp) (l r : Value) :
    Runs (Program.combine callbacks setup op l r)
      (Machine.combine { setup with hooks } op l r) := by
  unfold Program.combine Machine.combine
  split
  · exact (call (Performs.display hh _ l)).bind fun _ =>
      (call (Performs.display hh _ r)).bind fun _ => piece _ _
  · exact piece _ _

theorem execute (site : Site) :
    Runs (Program.execute callbacks setup site) (Machine.execute { setup with hooks } site) := by
  obtain ⟨pc, i⟩ := site
  cases i with
  | invoke name signature argCount =>
    have heq : Machine.execute { setup with hooks } ⟨pc, .invoke name signature argCount⟩ =
        (Machine.popArgs ⟨pc, .invoke name signature argCount⟩ argCount >>= fun args =>
          Machine.pop ⟨pc, .invoke name signature argCount⟩ >>= fun receiver =>
            Machine.invoke { setup with hooks } receiver name signature args >>= fun v =>
              Machine.pushValue setup ⟨pc, .invoke name signature argCount⟩ v >>= fun _ =>
                pure none) := by
      simp only [Machine.execute, Machine.effect, bind_assoc]
      rfl
    rw [heq]
    exact (piece _ _).bind fun args => (piece _ _).bind fun receiver =>
      (invoke hh receiver name signature args).bind fun v => piece _ _
  | binary op =>
    have heq : Machine.execute { setup with hooks } ⟨pc, .binary op⟩ =
        (Machine.popValue ⟨pc, .binary op⟩ >>= fun r =>
          Machine.popValue ⟨pc, .binary op⟩ >>= fun l =>
            Machine.combine { setup with hooks } op l r >>= fun v =>
              Machine.pushValue setup ⟨pc, .binary op⟩ v >>= fun _ => pure none) := by
      simp only [Machine.execute, Machine.effect, bind_assoc]
      rfl
    rw [heq]
    exact (piece _ _).bind fun r => (piece _ _).bind fun l =>
      (combine hh op l r).bind fun v => piece _ _
  | _ => exact piece _ fun s => Machine.seen_visit World.admits_sameLeases.withstands trivial ⟨_, s⟩

theorem runFrom (pc skip : Nat) (is : List Instruction) :
    Runs (Program.runFrom callbacks setup pc skip is)
      (Machine.runFrom { setup with hooks } pc skip is) := by
  induction is generalizing pc skip with
  | nil =>
    cases skip <;> exact piece _ _
  | cons i rest ih =>
    cases skip with
    | succ skip => exact ih (pc + 1) skip
    | zero =>
      refine (piece _ _).bind fun _ => (execute hh ⟨pc, i⟩).bind fun next => ?_
      cases next with
      | none => exact ih (pc + 1) 0
      | some target => exact ih (pc + 1) (target - (pc + 1))

theorem runCode (code : Code) :
    Runs (Program.runCode callbacks setup code) (Machine.runCode { setup with hooks } code) :=
  (piece _ _).bind fun _ => (runFrom hh 0 0 code.instructions).bind fun _ => piece _ _

theorem run (code : Code) :
    Performs (Program.run callbacks setup code) (Machine.run { setup with hooks } code) :=
  ((runCode hh code ⟨[], .empty⟩).bind fun r => .done r.1).congr fun _ => rfl

end

end Runs

namespace Process

def startRun : Process η κ (Except (Abrupt Failure) Nat) :=
  ofAction Evaluator.startRun fun _ => rfl

def asSession (run : Nat) (thread : ThreadId) (p : Process η κ Outcome) : Process η κ Outcome :=
  (ofAction (ε := Abrupt Failure) (Action.modify fun w =>
    { w with runs.sessions := (run, thread) :: w.runs.sessions }) fun _ => rfl).andThen fun _ =>
      p.bind fun result =>
        (ofAction (Action.modify fun w =>
          { w with runs.sessions := w.runs.sessions.erase (run, thread) }) fun _ => rfl).andThen
            fun _ => .done result

/-- What an evaluation does under its lease. -/
def body (e : Evaluator) (m : Manner) (clock : Clock) (callbacks : Callbacks η κ) (code : Code)
    (scope : Scope) (purpose : Purpose) : Process η κ Outcome :=
  startRun.andThen fun run =>
    match m with
    | .atOnce => Program.run callbacks (e.setup clock World.noHooks scope purpose run) code
    | .inSession => asSession run scope.thread
      (Program.run callbacks (e.setup clock World.noHooks scope purpose run) code)

/-- An evaluation in pieces; a session is waited for. -/
def evaluation (e : Evaluator) (m : Manner) (clock : Clock) (callbacks : Callbacks η κ)
    (code : Code) (scope : Scope) (purpose : Purpose) : Process η κ Outcome :=
  match m with
  | .atOnce => .evaluate e scope.thread (body e .atOnce clock callbacks code scope purpose) .done
  | .inSession => .session e scope.thread (body e .inSession clock callbacks code scope purpose)

end Process

theorem Performs.asSession {p : Process η κ Outcome} {x : Evaluation η κ Value} (run : Nat)
    (thread : ThreadId) (hp : Performs p x) :
    Performs (.asSession run thread p) (Evaluator.asSession run thread x) := by
  refine (ofAction _ _).andThen fun _ => ?_
  have hend (result : Outcome) :=
    (ofAction (ε := Abrupt Failure) (Action.modify fun w : World η κ =>
    { w with runs.sessions := w.runs.sessions.erase (run, thread) }) fun _ => rfl).andThen
      fun _ => done result
  exact (hp.bind hend).congr fun _ => rfl

/-- An evaluation in pieces, left alone, is the evaluation in one go, if the same is true of the
hooks. -/
theorem Performs.evaluation (e : Evaluator) (m : Manner) (clock : Clock)
    {callbacks : Callbacks η κ}
    {hooks : Hooks η κ} (hh : ∀ label args, Performs (callbacks label args) (hooks label args))
    (code : Code) (scope : Scope) (purpose : Purpose) :
    Performs (.evaluation e m clock callbacks code scope purpose)
      (e.evaluate m clock hooks code scope purpose) := by
  have hrun (run : Nat) : Performs
      (Program.run callbacks (e.setup clock World.noHooks scope purpose run) code)
      (Machine.run (e.setup clock hooks scope purpose run) code) := Runs.run hh code
  cases m with
  | atOnce => exact .evaluate e scope.thread ((ofAction _ _).andThen hrun)
  | inSession =>
    exact .session e scope.thread ((ofAction _ _).andThen fun run => (hrun run).asSession run _)

end Evaluator

end Probe

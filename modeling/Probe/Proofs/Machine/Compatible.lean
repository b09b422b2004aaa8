import Probe.Proofs.Code.Jumps
import Probe.Proofs.Failure
import Probe.Proofs.Machine.Visits

namespace Probe
set_option autoImplicit true

open Probe.Action (Keeps)

namespace Machine

theorem communication_of_none (e : RemoteError) (he : e ∈ (none : Option RemoteError)) :
    Failure.ofRemote e = .communication e := by
  cases he

/-- What the steps of a machine can count on. -/
structure Conditions where
  /-- Whether they may change the debuggee. -/
  changes : Prop := True
  /-- The loss of the debuggee, if that is all it answers. -/
  loss : Option RemoteError := none
  isCommunication : ∀ e ∈ loss, Failure.ofRemote e = .communication e := by
    exact Probe.Machine.communication_of_none

namespace Conditions
variable {k : Conditions}

/-- The answer can be given. A lost debuggee gives no other than its loss. -/
def Allows (k : Conditions) (error : RemoteError → ε) (answer : Except ε α) : Prop :=
  ∀ e ∈ k.loss, answer = .error (error e)

def Reports (k : Conditions) (f : Failure) : Prop :=
  (∀ e, f ≠ .malformed e) ∧ ∀ e ∈ k.loss, f.Excused e

theorem allows_of_live (h : k.loss = none) (error : RemoteError → ε) (answer : Except ε α) :
    k.Allows error answer := by
  intro e he
  rw [h] at he
  cases he

theorem live_of_allows {error : RemoteError → ε} {answer : Except ε α}
    (h : k.Allows error answer) (hne : ∀ e, answer ≠ .error (error e)) : k.loss = none := by
  cases hk : k.loss with
  | none => rfl
  | some e => exact absurd (h e hk) (hne e)

theorem reports_of_live (h : k.loss = none) (hf : ∀ e, f ≠ .malformed e) : k.Reports f := by
  refine ⟨hf, ?_⟩
  intro e he
  rw [h] at he
  cases he

theorem reports_own {e : ExpressionError} (h : e.isAnswer = false) :
    k.Reports (.expression e) := by
  refine ⟨?_, fun _ _ => h⟩
  rintro _ ⟨⟩

theorem reports_of_allows {error : RemoteError → ε} (hinj : ∀ {e e'}, error e = error e' → e = e')
    (h : k.Allows error (.error (error e) : Except ε α)) : k.Reports (.ofRemote e) := by
  refine ⟨Failure.ofRemote_ne_malformed e, ?_⟩
  intro loss hloss
  rw [hinj (Except.error.inj (h loss hloss)), k.isCommunication loss hloss]
  rfl

end Conditions

/-- A step that uses the bound names and nothing else. -/
def onNames (f : Table String Value → α × Table String Value) : Exec η κ α := fun s =>
  (.ok (f s.temporaries).1, { s with temporaries := (f s.temporaries).2 })

/-- The relation holds of the steps that lead from operands to results under these conditions,
and of one step after the other if it holds of both. -/
structure Composable (k : Conditions) (setup setup' : Setup η κ)
    (P : (α : Type) → Exec η κ α → Exec η κ α → Prop) : Prop where
  scope : setup'.scope = setup.scope := by rfl
  tracking : setup'.tracking = setup.tracking := by rfl
  pure : ∀ {α : Type} (a : α), P α (pure a) (pure a)
  bind : ∀ {α β : Type} {x y : Exec η κ α} {f g : α → Exec η κ β},
    P α x y → (∀ a, P β (f a) (g a)) → P β (x >>= f) (y >>= g)
  fail : ∀ {α : Type} {f : Failure}, k.Reports f → P α (fail f) (fail f)
  crash : ∀ {α : Type}, k.loss = none → P α (Action.fail .crash) (Action.fail .crash)
  names : ∀ {α : Type} (f : Table String Value → α × Table String Value),
    P α (onNames f) (onNames f)
  ask : ∀ {α β : Type} (r : Request η α) {f g : Except RemoteError α → Exec η κ β},
    (r.looks = true ∨ k.changes) → (∀ answer, k.Allows id answer → P β (f answer) (g answer)) →
    P β (remote r.send.attempt >>= f) (remote r.send.attempt >>= g)
  perform : ∀ {β : Type} (callee : Target) (name signature : String) (args : List Value)
    {f g : Except (Abrupt RemoteError) Value → Exec η κ β}, k.changes →
    (∀ answer, k.Allows .error answer → P β (f answer) (g answer)) →
    P β (call (perform setup callee name signature args).attempt >>= f)
      (call (perform setup' callee name signature args).attempt >>= g)
  expect : k.loss = none → ∀ e, P Token (expect e) (expect e)
  withdraw : k.loss = none → ∀ token, P Unit (withdraw token) (withdraw token)

/-- The relation holds of all the steps that the instructions at two sites are made of. -/
structure Compatible (k : Conditions) (setup setup' : Setup η κ) (site site' : Site)
    (P : (α : Type) → Exec η κ α → Exec η κ α → Prop) : Prop
    extends Composable k setup setup' P where
  pop : P _ (pop site) (pop site')
  unexpected : ∀ {α : Type} (e : Expected),
    P α (malformed (.unexpected site.pc site.instruction e))
      (malformed (.unexpected site'.pc site'.instruction e))
  push : ∀ operand, P _ (push setup site operand) (push setup' site' operand)

def State.withDebuggee (s : State η κ) (d : Debuggee η) : State η κ :=
  { s with world := { s.world with debuggee := d } }

theorem remote_apply (r : Remote η α) (s : State η κ) :
    remote r s = ((r s.world.debuggee).1.mapError fun e => .error (.ofRemote e),
      s.withDebuggee (r s.world.debuggee).2) := by
  simp only [remote, call, World.remote, Action.zoom]
  rcases r s.world.debuggee with ⟨e | a, d⟩ <;> rfl

theorem call_bind (c : Call η κ α) (f : α → Call η κ β) :
    call (c >>= f) = call c >>= fun a => call (f a) := by
  funext s
  simp only [call, Action.zoom, Action.bind_apply]
  rcases c s.world with ⟨e | a, w⟩ <;> rfl

theorem remote_bind (r : Remote η α) (f : α → Remote η β) :
    (remote (r >>= f) : Exec η κ β) = remote r >>= fun a => remote (f a) := by
  rw [remote, World.remote_bind, call_bind]
  rfl

theorem remote_require (c : Prop) [Decidable c] (e : RemoteError) :
    (remote (Action.require c e) : Exec η κ Unit) = require c (.ofRemote e) := by
  funext s
  by_cases hc : c <;>
    simp only [remote, call, World.remote, Action.zoom, require, Action.require, hc, if_true,
      if_false] <;> rfl

theorem call_attempt (c : Call η κ α) : call c =
    call c.attempt >>= fun answer => Action.ofExcept (answer.mapError (·.map .ofRemote)) := rfl

theorem attempt_call (c : Call η κ α) : Action.attempt (call c) =
    (call c.attempt >>= fun answer => pure (answer.mapError (·.map .ofRemote)) : Exec η κ _) :=
    rfl

theorem remote_attempt (r : Remote η α) : (remote r : Exec η κ α) =
    remote r.attempt >>= fun answer =>
      Action.ofExcept (answer.mapError fun e => .error (.ofRemote e)) := by
  funext s
  simp only [Action.bind_apply, remote_apply, Action.attempt]
  rfl

theorem remote_look (scope : Scope) (property : Scope → α) :
    (remote (scope.look property) : Exec η κ α) =
      remote (Remote.isSuspended scope.thread) >>= fun suspended =>
        require suspended (.ofRemote (.notSuspended scope.thread)) >>= fun _ =>
          pure (property scope) := by
  simp only [Scope.look, remote_bind, remote_require]
  rfl

theorem execute_of_target?_none {i : Instruction} (hi : i.target? = none) :
    execute setup ⟨pc, i⟩ = effect setup ⟨pc, i⟩ >>= fun _ => pure none := by
  cases i with
  | jump | jumpIf => cases hi
  | _ => rfl

namespace Composable
variable {k : Conditions} {setup setup' : Setup η κ}
  {P : (α : Type) → Exec η κ α → Exec η κ α → Prop} (h : Composable k setup setup' P)
include h

theorem reject {e : ExpressionError} (he : e.isAnswer = false) : P α (reject e) (reject e) :=
  h.fail (Conditions.reports_own he)

theorem require (c : Prop) [Decidable c] {f : Failure} (hf : k.Reports f) :
    P Unit (require c f) (require c f) := by
  by_cases hc : c
  · have he : (Machine.require c f : Exec η κ Unit) = Pure.pure () := by
      funext s
      simp only [Machine.require, Action.require, hc, if_true]
      rfl
    rw [he]
    exact h.pure ()
  · have he : (Machine.require c f : Exec η κ Unit) = Machine.fail f := by
      funext s
      simp only [Machine.require, Action.require, hc, if_false]
      rfl
    rw [he]
    exact h.fail hf

/-- What comes after an answer can count on the debuggee not to be lost. -/
theorem remote_bind (r : Request η α) (hr : r.looks = true ∨ k.changes)
    {f g : α → Exec η κ β} (hf : k.loss = none → ∀ a, P β (f a) (g a)) :
    P β (remote r.send >>= f) (remote r.send >>= g) := by
  rw [remote_attempt, bind_assoc, bind_assoc]
  apply h.ask r hr
  intro answer hanswer
  cases answer with
  | ok a =>
    apply hf (Conditions.live_of_allows hanswer _)
    rintro e ⟨⟩
  | error e => exact h.fail (Conditions.reports_of_allows id hanswer)

theorem remote (r : Request η α) (hr : r.looks = true ∨ k.changes) :
    P α (remote r.send) (remote r.send) := by
  simpa only [bind_pure] using h.remote_bind r hr fun _ a => h.pure a

theorem look (scope : Scope) (property : Scope → α) {f g : α → Exec η κ β}
    (hf : k.loss = none → ∀ a, P β (f a) (g a)) :
    P β (Machine.remote (scope.look property) >>= f)
      (Machine.remote (scope.look property) >>= g) := by
  simp only [remote_look, bind_assoc, pure_bind]
  apply h.remote_bind (.isSuspended scope.thread) (.inl rfl)
  intro hlive suspended
  apply h.bind (h.require _ (Conditions.reports_of_live hlive (Failure.ofRemote_ne_malformed _)))
  intro _
  exact hf hlive _

theorem orNoField (r : Request η α) (hr : r.looks = true ∨ k.changes) :
    P _ (orNoField r.send) (orNoField r.send) := by
  apply h.ask r hr
  intro answer hanswer
  split
  · exact h.pure _
  · exact h.pure _
  · exact h.fail (Conditions.reports_of_allows id hanswer)

theorem onReceiver (scope : Scope) (access : Handle → Request η α)
    (hr : ∀ this, (access this).looks = true ∨ k.changes) :
    P _ (onReceiver scope fun this => (access this).send)
      (onReceiver scope fun this => (access this).send) := by
  apply h.look scope
  intro _ this
  split
  · exact h.orNoField _ (hr _)
  · exact h.pure _

theorem onReceivingType (scope : Scope) (name : String) (access : TypeRef → Request η α)
    (hr : ∀ type, (access type).looks = true ∨ k.changes) :
    P _ (onReceivingType scope name fun type => (access type).send)
      (onReceivingType scope name fun type => (access type).send) := by
  apply h.look scope
  intro hlive type
  apply h.bind (h.orNoField (access type) (hr type))
  intro found
  split
  · exact h.pure _
  · apply h.fail (Conditions.reports_of_live hlive _)
    rintro _ ⟨⟩

theorem readVariable (scope : Scope) (name : String) :
    P _ (readVariable scope name) (readVariable scope name) := by
  apply h.bind (h.names fun names => (names.get? name, names))
  intro bound
  split
  · exact h.pure _
  · apply h.look scope
    intro _ declared
    split
    · exact h.remote (.getLocal scope.thread scope.frame name) (.inl rfl)
    · apply h.bind (h.onReceiver scope (fun this => .getField this name) fun _ => .inl rfl)
      intro field
      split
      · exact h.pure _
      · exact h.onReceivingType scope name (fun type => .getStatic type name) fun _ => .inl rfl

theorem writeVariable (hk : k.changes) (scope : Scope) (name : String) (v : Value) :
    P _ (writeVariable scope name v) (writeVariable scope name v) := by
  apply h.bind (h.names fun names => (names.contains name, names))
  intro bound
  split
  · exact h.names fun names => ((), names.insert name v)
  · apply h.look scope
    intro _ declared
    split
    · exact h.remote (.setLocal scope.thread scope.frame name v) (.inr hk)
    · apply h.bind (h.onReceiver scope (fun this => .setField this name v) fun _ => .inr hk)
      intro field
      split
      · exact h.pure _
      · exact h.onReceivingType scope name (fun type => .setStatic type name v) fun _ => .inr hk

theorem fieldOwner (v : Value) (name : String) (use : NullUse) :
    P _ (fieldOwner v name use) (fieldOwner v name use) := by
  cases v with
  | object o => exact h.pure _
  | _ => exact h.reject rfl

theorem arrayHandle (v : Value) (use : NullUse) :
    P _ (arrayHandle v use) (arrayHandle v use) := by
  unfold Machine.arrayHandle
  split
  · exact h.reject rfl
  · split
    · exact h.pure _
    · exact h.reject rfl
  · exact h.reject rfl

theorem slot (array index : Value) (use : NullUse) :
    P _ (slot array index use) (slot array index use) := by
  apply h.bind (h.arrayHandle array use)
  intro o
  split
  · exact h.reject rfl
  · apply h.bind (h.remote (.arrayLength o) (.inl rfl))
    intro length
    apply h.bind (h.require _ (Conditions.reports_own rfl))
    intro _
    exact h.pure _

theorem instanceOf (o : Handle) (typeName : String) :
    P _ (instanceOf o typeName) (instanceOf o typeName) := by
  apply h.bind (h.remote (.classByName typeName) (.inl rfl))
  intro type
  exact h.remote (.isAssignable o type) (.inl rfl)

theorem ofResult {r : Except ExpressionError Value} (hr : Independent r) :
    P _ (ofResult r) (ofResult r) := by
  cases r with
  | ok v => exact h.pure _
  | error e => exact h.reject (hr e rfl)

theorem cast (v : Value) (target : CastTarget) : P _ (cast v target) (cast v target) := by
  cases target with
  | primitive kind => exact h.ofResult (independent_convert v kind)
  | reference typeName =>
    cases v with
    | null => exact h.pure _
    | object o =>
      apply h.bind (h.instanceOf o typeName)
      intro holds
      apply h.bind (h.require _ (Conditions.reports_own rfl))
      intro _
      exact h.pure _
    | _ => exact h.reject rfl

theorem testType (v : Value) (typeName : String) :
    P _ (testType v typeName) (testType v typeName) := by
  unfold Machine.testType
  split
  · exact h.pure _
  · exact h.instanceOf _ _
  · exact h.reject rfl

theorem bindIf (holds : Bool) (name : String) (v : Value) :
    P _ (bindIf holds name v) (bindIf holds name v) := by
  cases holds with
  | true => exact h.names fun names => ((), names.insert name v)
  | false => exact h.names fun names => ((), names)

theorem arraySize (v : Value) : P _ (arraySize v) (arraySize v) := by
  unfold Machine.arraySize
  split
  · split
    · exact h.reject rfl
    · exact h.pure _
  · exact h.reject rfl

theorem receiver (scope : Scope) : P _ (receiver scope) (receiver scope) := by
  apply h.look scope
  intro _ this
  split
  · exact h.pure _
  · exact h.reject rfl

theorem answered {answer : Except (Abrupt RemoteError) α} (ha : k.Allows .error answer) :
    P α (Action.ofExcept (answer.mapError (·.map .ofRemote)))
      (Action.ofExcept (answer.mapError (·.map .ofRemote))) := by
  rcases answer with (e | _) | a
  · exact h.fail (Conditions.reports_of_allows Abrupt.error.inj ha)
  · apply h.crash (Conditions.live_of_allows ha _)
    rintro e ⟨⟩
  · exact h.pure a

theorem call_perform (hk : k.changes) (callee : Target) (name signature : String)
    (args : List Value) : P _ (call (Machine.perform setup callee name signature args))
      (call (Machine.perform setup' callee name signature args)) := by
  have hperform := h.perform callee name signature args hk fun answer ha => h.answered ha
  rwa [← call_attempt, ← call_attempt] at hperform

theorem display (hk : k.changes) (v : Value) :
    P _ (call (World.display setup.hooks setup.scope.thread v))
      (call (World.display setup'.hooks setup'.scope.thread v)) := by
  rw [h.scope]
  apply World.rel_display (P := fun α x y => P α (call x) (call y))
  · exact h.pure
  · intro α β x y f g hx hf
    simp only [call_bind]
    exact h.bind hx hf
  · intro o
    exact h.remote (.stringText o) (.inl rfl)
  · intro o
    have hshow := h.call_perform hk (.ofObject o) "toString" "()Ljava/lang/String;" []
    simpa only [Machine.perform, h.scope] using hshow

theorem makeText (text : String) :
    P _ (Machine.remote (Remote.makeString text) >>= fun o => Pure.pure (Value.object o))
      (Machine.remote (Remote.makeString text) >>= fun o => Pure.pure (Value.object o)) :=
  h.bind (h.remote (.makeString text) (.inl rfl)) fun _ => h.pure _

theorem concat (hk : k.changes) (l r : Value) : P _ (concat setup l r) (concat setup' l r) := by
  apply h.bind (h.display hk l)
  intro left
  apply h.bind (h.display hk r)
  intro right
  exact h.makeText (left ++ right)

theorem combine (hk : k.changes) (op : BinaryOp) (l r : Value) :
    P _ (combine setup op l r) (combine setup' op l r) := by
  unfold Machine.combine
  split
  · exact h.concat hk l r
  · exact h.ofResult (independent_binary op l r)

theorem target (receiver : Operand) (name signature : String) :
    P _ (target receiver name signature) (target receiver name signature) := by
  unfold Machine.target
  split
  · exact h.pure _
  · exact h.pure _
  · exact h.reject rfl
  · exact h.reject rfl

/-- A call is announced only to a debuggee that has answered. -/
theorem announce_bind (thread : ThreadId) (callee : Target) (name signature : String)
    {f g : Token → Exec η κ β} (hf : k.loss = none → ∀ token, P β (f token) (g token)) :
    P β (announce thread callee name signature >>= f)
      (announce thread callee name signature >>= g) := by
  simp only [Machine.announce, bind_assoc]
  apply h.remote_bind (.frameCount thread) (.inl rfl)
  intro hlive depth
  have htype : P _ (Machine.remote callee.type) (Machine.remote callee.type) := by
    cases callee with
    | ofType t => exact h.pure t
    | ofObject o => exact h.remote (.typeOf o) (.inl rfl)
  apply h.bind htype
  intro type
  apply h.bind (h.remote (.declaringType type name signature) (.inl rfl))
  intro declaring
  exact h.bind (h.expect hlive _) (hf hlive)

theorem announce (thread : ThreadId) (callee : Target) (name signature : String) :
    P _ (announce thread callee name signature) (announce thread callee name signature) := by
  simpa only [bind_pure] using h.announce_bind thread callee name signature fun _ => h.pure

theorem invoke (hk : k.changes) (receiver : Operand) (name signature : String)
    (args : List Value) :
    P _ (invoke setup receiver name signature args)
      (invoke setup' receiver name signature args) := by
  unfold Machine.invoke
  rw [h.tracking, h.scope]
  apply h.bind (h.target receiver name signature)
  intro callee
  cases setup.tracking with
  | false => exact h.call_perform hk callee name signature args
  | true =>
    apply h.announce_bind
    intro hlive token
    simp only [attempt_call, bind_assoc, pure_bind]
    apply h.perform callee name signature args hk
    intro answer ha
    have hdone := h.answered ha
    rcases answer with (e | _) | v
    · exact h.bind (h.withdraw hlive token) fun _ => hdone
    · exact hdone
    · exact h.bind (h.withdraw hlive token) fun _ => hdone

end Composable

namespace Compatible
variable {k : Conditions} {setup setup' : Setup η κ} {site site' : Site}
  {P : (α : Type) → Exec η κ α → Exec η κ α → Prop}
  (h : Compatible k setup setup' site site' P)
include h

theorem popValue : P _ (popValue site) (popValue site') := by
  apply h.bind h.pop
  intro operand
  cases operand with
  | value v => exact h.pure v
  | type t => exact h.unexpected .value

theorem popType : P _ (popType site) (popType site') := by
  apply h.bind h.pop
  intro operand
  cases operand with
  | type t => exact h.pure t
  | value v => exact h.unexpected .type

theorem popArgs (n : Nat) : P _ (popArgs site n) (popArgs site' n) := by
  induction n with
  | zero => exact h.pure []
  | succ n ih =>
    apply h.bind h.popValue
    intro last
    apply h.bind ih
    intro args
    exact h.pure _

theorem pushValue (v : Value) : P _ (pushValue setup site v) (pushValue setup' site' v) :=
  h.push (.value v)

omit h in
/-- The relation holds of what an instruction does in two machines. The targets of jumps do
not count, since an effect is not a jump. -/
theorem effect {i : Instruction} (h : Compatible k setup setup' ⟨pc, i⟩ ⟨pc', i.relocate n⟩ P)
    (hk : i.hasSideEffects = true ∨ (∃ op, i = .binary op) → k.changes) :
    P _ (effect setup ⟨pc, i⟩) (effect setup' ⟨pc', i.relocate n⟩) := by
  have hscope := h.scope
  obtain ⟨hooks', scope', mayChange', tracking', run', expired', maxStack'⟩ := setup'
  obtain rfl : scope' = setup.scope := hscope
  have hpop {β : Type} {f g : Value → Exec η κ β} (hf : ∀ v, P β (f v) (g v)) :=
    h.bind h.popValue hf
  have hask {α β : Type} (r : Request η α) (hr : r.looks = true) {f g : α → Exec η κ β}
      (hf : ∀ a, P β (f a) (g a)) := h.bind (h.remote r (.inl hr)) hf
  have hwrite {α β : Type} (r : Request η α) (hi : i.hasSideEffects = true)
      {f g : α → Exec η κ β} (hf : ∀ a, P β (f a) (g a)) :=
    h.bind (h.remote r (.inr (hk (.inl hi)))) hf
  cases i with
  | push v => exact h.pushValue v
  | pushString text => exact hask (.makeString text) rfl fun o => h.pushValue (.object o)
  | pushNull => exact h.pushValue .null
  | pushThis => exact h.bind (h.receiver _) h.pushValue
  | pushType name => exact hask (.classByName name) rfl fun t => h.push (.type t)
  | pushVariable name => exact h.bind (h.readVariable _ name) h.pushValue
  | pushField name =>
    apply hpop
    intro target
    apply h.bind (h.fieldOwner target name _)
    intro owner
    exact hask (.getField owner name) rfl h.pushValue
  | pushStatic typeName name =>
    apply hask (.classByName typeName) rfl
    intro type
    exact hask (.getStatic type name) rfl h.pushValue
  | loadElement =>
    apply hpop
    intro index
    apply hpop
    intro array
    apply h.bind (h.slot array index _)
    intro place
    exact hask (.getElement place.1 place.2) rfl h.pushValue
  | arrayLength =>
    apply hpop
    intro array
    apply h.bind (h.arrayHandle array _)
    intro o
    exact hask (.arrayLength o) rfl fun length => h.pushValue _
  | storeVariable name =>
    apply hpop
    intro v
    apply h.bind (h.writeVariable (hk (.inl rfl)) _ name v)
    intro _
    exact h.pushValue v
  | storeField name =>
    apply hpop
    intro v
    apply hpop
    intro target
    apply h.bind (h.fieldOwner target name _)
    intro owner
    exact hwrite (.setField owner name v) rfl fun _ => h.pushValue v
  | storeStatic typeName name =>
    apply hpop
    intro v
    apply hask (.classByName typeName) rfl
    intro type
    exact hwrite (.setStatic type name v) rfl fun _ => h.pushValue v
  | storeElement =>
    apply hpop
    intro v
    apply hpop
    intro index
    apply hpop
    intro array
    apply h.bind (h.slot array index _)
    intro place
    exact hwrite (.setElement place.1 place.2 v) rfl fun _ => h.pushValue v
  | unary op =>
    apply hpop
    intro v
    exact h.bind (h.ofResult (independent_unary op v)) h.pushValue
  | binary op =>
    apply hpop
    intro r
    apply hpop
    intro l
    exact h.bind (h.combine (hk (.inr ⟨op, rfl⟩)) op l r) h.pushValue
  | cast target =>
    apply hpop
    intro v
    exact h.bind (h.cast v target) h.pushValue
  | instanceOf typeName =>
    apply hpop
    intro v
    exact h.bind (h.testType v typeName) fun holds => h.pushValue _
  | matchType typeName binding =>
    apply hpop
    intro v
    apply h.bind (h.testType v typeName)
    intro holds
    exact h.bind (h.bindIf holds binding v) fun _ => h.pushValue _
  | construct signature argCount =>
    apply h.bind (h.popArgs argCount)
    intro args
    apply h.bind h.popType
    intro type
    exact hwrite (.construct type signature args setup.scope.thread) rfl h.pushValue
  | invoke name signature argCount =>
    apply h.bind (h.popArgs argCount)
    intro args
    apply h.bind h.pop
    intro receiver
    exact h.bind (h.invoke (hk (.inl rfl)) receiver name signature args) h.pushValue
  | newArray arrayType =>
    apply hpop
    intro size
    apply h.bind (h.arraySize size)
    intro length
    apply hask (.classByName arrayType) rfl
    intro type
    exact hwrite (.newArray type length) rfl fun o => h.pushValue _
  | dup =>
    apply h.bind h.pop
    intro top
    exact h.bind (h.push top) fun _ => h.push top
  | pop => exact h.bind h.pop fun _ => h.pure ()
  | jump target => exact h.pure ()
  | jumpIf expected target => exact h.pure ()

omit h in
/-- What follows an instruction has to take account of where a jump in it leads. -/
theorem execute_bind {i : Instruction} (h : Compatible k setup setup' ⟨pc, i⟩ ⟨pc', i.relocate n⟩ P)
    (hk : i.hasSideEffects = true ∨ (∃ op, i = .binary op) → k.changes)
    {f g : Option Nat → Exec η κ β}
    (hf : ∀ next, P β (f next) (g (next.map (· + n)))) :
    P β (execute setup ⟨pc, i⟩ >>= f) (execute setup' ⟨pc', i.relocate n⟩ >>= g) := by
  cases hi : i.target? with
  | none =>
    have hi' : (i.relocate n).target? = none := by
      rw [i.target?_relocate, hi]
      rfl
    rw [execute_of_target?_none hi, execute_of_target?_none hi', bind_assoc, bind_assoc]
    apply h.bind (h.effect hk)
    intro _
    exact hf none
  | some target =>
    cases i with
    | jump target => exact hf (some target)
    | jumpIf expected target =>
      unfold Machine.execute
      simp only [Instruction.relocate, bind_assoc]
      apply h.bind h.popValue
      intro v
      cases v with
      | boolean b =>
        by_cases hb : b = expected
        · simp only [hb, if_true, pure_bind]
          exact hf (some target)
        · simp only [hb, if_false, pure_bind]
          exact hf none
      | _ => exact h.unexpected .boolean
    | _ => cases hi

omit h in
theorem execute (h : Compatible k setup setup' site site P) (hk : k.changes) :
    P _ (execute setup site) (execute setup' site) := by
  have hsame : Compatible k setup setup' site ⟨site.pc, site.instruction.relocate 0⟩ P := by
    rwa [Instruction.relocate_zero]
  have hexecute := hsame.execute_bind (fun _ => hk) (f := Pure.pure) (g := Pure.pure) fun next => by
    simpa using hsame.pure next
  simpa only [bind_pure, Instruction.relocate_zero] using hexecute

end Compatible

section
variable {k : Conditions} {setup setup' : Setup η κ}
  {P : (α : Type) → Exec η κ α → Exec η κ α → Prop} (hk : k.changes)
include hk

/-- What holds of every instruction and of the look whether to stop, holds of runs. The second
run is of the same instructions, `n` places further on. -/
theorem rel_runFrom (h : ∀ pc i, Compatible k setup setup' ⟨pc, i⟩ ⟨pc + n, i.relocate n⟩ P)
    (hcheckpoint : ∀ pc, P Unit (checkpoint setup pc) (checkpoint setup' (pc + n)))
    (pc skip : Nat) (is : List Instruction) :
    P Unit (runFrom setup pc skip is)
      (runFrom setup' (pc + n) skip (is.map (·.relocate n))) := by
  fun_induction runFrom setup pc skip is with
  | case1 pc skip =>
    cases skip <;> exact (h pc .pop).pure ()
  | case2 pc skip i rest ih =>
    rw [Nat.add_right_comm] at ih
    exact ih
  | case3 pc i rest ihnext ihjump =>
    rw [Nat.add_right_comm] at ihnext
    apply (h pc i).bind (hcheckpoint pc)
    intro _
    apply (h pc i).execute_bind fun _ => hk
    intro next
    cases next with
    | none => exact ihnext
    | some target =>
      have hjump := ihjump target
      rw [Nat.add_right_comm] at hjump
      have hdistance : target + n - (pc + n + 1) = target - (pc + 1) := by omega
      simp only [Option.map_some, hdistance]
      exact hjump

variable (h : ∀ site, Compatible k setup setup' site site P)
  (hcheckpoint : ∀ pc, P Unit (checkpoint setup pc) (checkpoint setup' pc))
include h hcheckpoint

theorem rel_runFrom_same (pc skip : Nat) (is : List Instruction) :
    P Unit (runFrom setup pc skip is) (runFrom setup' pc skip is) := by
  have hmoved : ∀ pc i, Compatible k setup setup' ⟨pc, i⟩ ⟨pc + 0, i.relocate 0⟩ P := by
    intro pc i
    rw [Instruction.relocate_zero]
    exact h ⟨pc, i⟩
  simpa using rel_runFrom hk hmoved hcheckpoint pc skip is

theorem rel_runCode (hfinish : ∀ length, P Value (finish length) (finish length))
    (hmay : setup'.mayChange = setup.mayChange) (code : Code) :
    P Value (runCode setup code) (runCode setup' code) := by
  have hany := h ⟨0, .pop⟩
  unfold runCode
  rw [hmay]
  apply hany.bind (hany.require _ (Conditions.reports_own rfl))
  intro _
  apply hany.bind (rel_runFrom_same hk h hcheckpoint 0 0 code.instructions)
  intro _
  exact hfinish code.length

end

end Machine

namespace World

/-- The relation holds across every request and every call that a run with these hooks can make,
and across what the run tells the tracker. Without changes, requests only look and no call is
made. -/
structure Withstands (hooks : Hooks η κ) (changes : Prop) (T : World η κ → World η κ → Prop) :
    Prop where
  request : ∀ {α : Type} (r : Request η α), r.looks = true ∨ changes →
    Keeps T (remote r.send : Call η κ α)
  invokeMethod : changes → ∀ h name signature args thread,
    Keeps T (invokeMethod hooks h name signature args thread)
  invokeStatic : changes → ∀ type name signature args thread,
    Keeps T (invokeStatic hooks type name signature args thread)
  expect : ∀ w e, T w { w with tracker := (w.tracker.expect e).2 }
  abandon : ∀ w token, T w { w with tracker := (w.tracker.abandon token).2 }

/-- The relation holds across everything that a run with these hooks does to the world. -/
structure Admits (hooks : Hooks η κ) (T : World η κ → World η κ → Prop) : Prop where
  debuggee : ∀ w d, T w { w with debuggee := d }
  hook : ∀ label args, Keeps T (hooks label args)
  expect : ∀ w e, T w { w with tracker := (w.tracker.expect e).2 }
  abandon : ∀ w token, T w { w with tracker := (w.tracker.abandon token).2 }

theorem Admits.withstands {hooks : Hooks η κ} {T : World η κ → World η κ → Prop}
    [IsPreorder (World η κ) T] (hT : Admits hooks T) : Withstands hooks True T := by
  have hcalls : Composable hooks hooks fun _ x _ => Keeps T x :=
    composable_keeps (fun _ w => hT.debuggee w _) hT.hook
  exact
    { request := fun r _ => hcalls.request r
      invokeMethod := fun _ => hcalls.invokeMethod
      invokeStatic := fun _ => hcalls.invokeStatic
      expect := hT.expect
      abandon := hT.abandon }

theorem withstands_additions {R : Debuggee η → Debuggee η → Prop} [IsPreorder (Debuggee η) R]
    (hR : Remote.AllowsAdditions R) (hooks : Hooks η κ) :
    Withstands hooks False (Across κ R) where
  request r hr := keeps_remote (r.keeps_send_of_looks hR (hr.resolve_right id))
  invokeMethod h := h.elim
  invokeStatic h := h.elim
  expect w _ := refl w.debuggee
  abandon w _ := refl w.debuggee

theorem withstands_changes {R : Debuggee η → Debuggee η → Prop} [IsPreorder (Debuggee η) R]
    {hooks : Hooks η κ} (hR : Remote.AllowsChanges R)
    (hh : ∀ label args, Keeps (Across κ R) (hooks label args)) :
    Withstands hooks True (Across κ R) where
  request r _ := keeps_remote (r.keeps_send hR)
  invokeMethod _ := (composable_across hR hh).invokeMethod
  invokeStatic _ := (composable_across hR hh).invokeStatic
  expect w _ := refl w.debuggee
  abandon w _ := refl w.debuggee

end World

namespace Machine
variable {setup : Setup η κ} {changes : Prop} {T : World η κ → World η κ → Prop}
  [IsPreorder (World η κ) T] (hT : World.Withstands setup.hooks changes T)
include hT

omit [IsPreorder (World η κ) T] in
theorem keeps_perform (hchanges : changes) (callee : Target) (name signature : String)
    (args : List Value) : Keeps T (perform setup callee name signature args) := by
  cases callee with
  | ofType t => exact hT.invokeStatic hchanges t name signature args _
  | ofObject h => exact hT.invokeMethod hchanges h name signature args _

theorem composable_seen : Composable { changes } setup setup fun _ x _ => Keeps (Seen T) x where
  pure a := .pure a
  bind hx hf := hx.bind hf
  fail _ := .fail _
  crash _ := .fail _
  names _ s := refl s.world
  ask r _ _ hr hf :=
    (seen_call (c := World.remote r.send.attempt) (hT.request r hr)).bind fun answer =>
      hf answer (Conditions.allows_of_live rfl _ answer)
  perform callee name signature args _ _ hk hf :=
    (seen_call (keeps_perform hT hk callee name signature args).attempt).bind fun answer =>
      hf answer (Conditions.allows_of_live rfl _ answer)
  expect _ e s := hT.expect s.world e
  withdraw _ token s := hT.abandon s.world token

theorem compatible_seen (site site' : Site) :
    Compatible { changes } setup setup site site' fun _ x _ => Keeps (Seen T) x where
  toComposable := composable_seen hT
  pop := seen_of_inside (inside_pop site)
  unexpected _ := .fail _
  push operand := seen_of_inside (inside_push setup site operand)

theorem seen_effect (site : Site)
    (hi : site.instruction.hasSideEffects = true ∨ (∃ op, site.instruction = .binary op) →
      changes) : Keeps (Seen T) (effect setup site) :=
  (compatible_seen hT site ⟨site.pc, site.instruction.relocate 0⟩).effect hi

theorem seen_visit (hchanges : changes) (v : Visit η κ) : Seen T v.state (v.after setup) := by
  unfold Seen Visit.after
  rw [execute_world]
  exact seen_effect hT v.site (fun _ => hchanges) v.state

/-- What requests and calls keep, a run keeps, whatever it ends with. -/
theorem seen_run (hchanges : changes) (code : Code) (w : World η κ) : T w (run setup code w).2 :=
  (seen_visits fun v _ => seen_visit hT hchanges v).whole

end Machine

end Probe

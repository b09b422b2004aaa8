import Probe.Machine
import Probe.Proofs.World

namespace Probe.Machine
set_option autoImplicit true

open Probe.Action (Keeps Silent)

/-- A relation between worlds, seen from the machines in them. -/
def Seen (T : World η κ → World η κ → Prop) (s s' : State η κ) : Prop := T s.world s'.world

instance [IsPreorder (World η κ) T] : IsPreorder (State η κ) (Seen T) where
  refl s := refl s.world
  trans _ _ _ h h' := IsTrans.trans (r := T) _ _ _ h h'

/-- Nothing outside the machine is changed. -/
def Inside (s s' : State η κ) : Prop := s.world = s'.world

instance : IsPreorder (State η κ) Inside where
  refl _ := rfl
  trans _ _ _ := Eq.trans

theorem push_of_room {setup : Setup η κ} (h : s.stack.length < setup.maxStack) (site : Site)
    (operand : Operand) :
    push setup site operand s = (.ok (), { s with stack := operand :: s.stack }) := by
  simp only [push, Action.bind_apply, Action.read, require, Action.require, h, if_true]
  rfl

theorem push_of_full {setup : Setup η κ} (h : ¬s.stack.length < setup.maxStack) (site : Site)
    (operand : Operand) : push setup site operand s =
      (.error (.error (.malformed (.overflow site.pc setup.maxStack))), s) := by
  simp only [push, Action.bind_apply, Action.read, require, Action.require, h, if_false]

theorem inside_push (setup : Setup η κ) (site : Site) (operand : Operand) :
    Keeps Inside (push setup site operand) :=
  (Keeps.read _).bind fun _ => (Keeps.require _ _).bind fun _ => .modify fun _ => rfl

theorem inside_pushValue (setup : Setup η κ) (site : Site) (v : Value) :
    Keeps Inside (pushValue setup site v) := inside_push setup site (.value v)

theorem inside_pop (site : Site) : Keeps Inside (pop site : Exec η κ Operand) := by
  refine (Keeps.read _).bind fun stack => ?_
  split
  · exact .fail _
  · refine Keeps.bind (.modify fun _ => ?_) fun _ => .pure _
    rfl

theorem inside_popValue (site : Site) : Keeps Inside (popValue site : Exec η κ Value) := by
  refine (inside_pop site).bind fun operand => ?_
  split
  · exact .pure _
  · exact .fail _

section
variable {T : World η κ → World η κ → Prop}

theorem seen_call {c : Call η κ α} (hc : Keeps T c) : Keeps (Seen T) (call c) :=
  fun s => hc s.world

variable [IsPreorder (World η κ) T]

theorem Inside.seen {s s' : State η κ} (h : Inside s s') : Seen T s s' := by
  unfold Seen
  rw [show s.world = s'.world from h]
  exact refl _

theorem seen_of_inside {x : Exec η κ α} (hx : Keeps Inside x) : Keeps (Seen T) x :=
  hx.mono fun _ _ => Inside.seen

end

theorem silent_arrayHandle (v : Value) (use : NullUse) :
    Silent (arrayHandle v use : Exec η κ Handle) := by
  unfold arrayHandle
  split
  · exact .fail _
  · split
    · exact .pure _
    · exact .fail _
  · exact .fail _

theorem silent_ofResult (r : Except ExpressionError Value) :
    Silent (ofResult r : Exec η κ Value) := by
  cases r with
  | ok v => exact .pure _
  | error e => exact .fail _

theorem silent_checkpoint (setup : Setup η κ) (pc : Nat) : Silent (checkpoint setup pc) :=
  (Keeps.read _).bind fun _ => (Keeps.require _ _).bind fun _ => .require _ _

theorem silent_finish (length : Nat) : Silent (finish length : Exec η κ Value) := by
  refine (Keeps.read _).bind fun stack => ?_
  split
  · exact .pure _
  · exact .fail _
  · exact .fail _

theorem silent_look (scope : Scope) (property : Scope → α) :
    Silent (scope.look property : Remote η α) :=
  (Remote.silent_isSuspended _).bind fun _ => (Keeps.require _ _).bind fun _ => .pure _

theorem rel_perform {setup : Setup η κ} {hooks' : Hooks η κ}
    {P : (α : Type) → Call η κ α → Call η κ α → Prop} (h : World.Composable setup.hooks hooks' P)
    (callee : Target) (name signature : String) (args : List Value) :
    P _ (perform setup callee name signature args)
      (perform { setup with hooks := hooks' } callee name signature args) := by
  cases callee with
  | ofType type => exact h.invokeStatic type _ _ _ _
  | ofObject o => exact h.invokeMethod o _ _ _ _

theorem execute_world (setup : Setup η κ) (site : Site) (s : State η κ) :
    (execute setup site s).2.world = (effect setup site s).2.world := by
  obtain ⟨pc, i⟩ := site
  have hnext : ((effect setup ⟨pc, i⟩ >>= fun _ => pure (none : Option Nat)) s).2 =
      (effect setup ⟨pc, i⟩ s).2 := by
    rw [Action.bind_apply]
    split <;> rw [‹effect _ _ s = _›]
    rfl
  cases i with
  | jump target => rfl
  | jumpIf expected target =>
    have hjump : Keeps Inside (execute setup ⟨pc, .jumpIf expected target⟩) := by
      refine (inside_popValue _).bind fun v => ?_
      split
      · exact .pure _
      · exact .fail _
    exact (hjump s).symm
  | _ => exact congrArg State.world hnext

end Probe.Machine

import Probe.Proofs.Debuggee.Untouched
import Probe.World

namespace Probe
set_option autoImplicit true

open Probe.Action (Keeps Silent)
open Debuggee (Evolves)

/-- What a call does to the debuggee by itself: requests, and what running a method comes to. -/
inductive Contact (η : Type) : Type → Type 1 where
  | request (r : Request η α) : Contact η α
  | checkAlive : Contact η Unit
  | newString (text : String) : Contact η Handle
  | newObject (typeName : String) : Contact η Handle

namespace Contact

def make : Contact η α → Remote η α
  | request r => r.send
  | checkAlive => Remote.checkAlive
  | newString text => Remote.change (·.newString text)
  | newObject typeName => Remote.change (·.newObject typeName)

theorem keeps_make {R : Debuggee η → Debuggee η → Prop} [IsPreorder (Debuggee η) R]
    (hR : Remote.AllowsChanges R) (c : Contact η α) : Keeps R c.make := by
  cases c with
  | request r => exact r.keeps_send hR
  | checkAlive => exact .of_silent Remote.silent_checkAlive
  | newString text => exact fun d => hR.newString d text
  | newObject typeName => exact fun d => hR.newObject d typeName

theorem evolves_make (c : Contact η α) : Keeps Evolves c.make := by
  cases c with
  | request r => exact fun d => .single (.send r)
  | checkAlive => exact fun d => .refl
  | newString text => exact fun d => .single (.newString text)
  | newObject typeName => exact fun d => .single (.newObject typeName)

end Contact

namespace World

theorem remote_bind (r : Remote η α) (f : α → Remote η β) :
    (remote (r >>= f) : Call η κ β) = remote r >>= fun a => remote (f a) := by
  funext w
  simp only [remote, Action.zoom, Action.bind_apply]
  rcases r w.debuggee with ⟨e | a, d⟩ <;> rfl

theorem display_string {hooks : Hooks η κ} {h : Handle} (hs : h.isString = true) :
    display hooks thread (.object h) = remote (Remote.stringText h) := by
  simp only [display, hs, if_true]

theorem display_object {hooks : Hooks η κ} {h : Handle} (hs : h.isString = false) :
    display hooks thread (.object h) =
      (invokeMethod hooks h "toString" "()Ljava/lang/String;" [] thread >>= fun
        | .object text => remote (Remote.stringText text)
        | _ => pure "null") := by
  simp only [display, hs]
  rfl

theorem rel_display {hooks hooks' : Hooks η κ} {P : (α : Type) → Call η κ α → Call η κ α → Prop}
    (hpure : ∀ {α : Type} (a : α), P α (pure a) (pure a))
    (hbind : ∀ {α β : Type} {x y : Call η κ α} {f g : α → Call η κ β},
      P α x y → (∀ a, P β (f a) (g a)) → P β (x >>= f) (y >>= g))
    (hread : ∀ h, P _ (remote (Remote.stringText h)) (remote (Remote.stringText h)))
    (hshow : ∀ h, P _ (invokeMethod hooks h "toString" "()Ljava/lang/String;" [] thread)
      (invokeMethod hooks' h "toString" "()Ljava/lang/String;" [] thread)) (v : Value) :
    P _ (display hooks thread v) (display hooks' thread v) := by
  cases v with
  | object h =>
    by_cases hs : h.isString
    · rw [display_string hs, display_string hs]
      exact hread h
    · rw [display_object (Bool.eq_false_iff.2 hs), display_object (Bool.eq_false_iff.2 hs)]
      apply hbind (hshow h)
      intro answer
      cases answer with
      | object text => exact hread text
      | _ => exact hpure _
  | _ => exact hpure _

/-- The relation holds of all that calls are made of, and of one call after the other if it
holds of both. -/
structure Composable (hooks hooks' : Hooks η κ)
    (P : (α : Type) → Call η κ α → Call η κ α → Prop) : Prop where
  ofExcept : ∀ {α : Type} (r : Except (Abrupt RemoteError) α),
    P α (Action.ofExcept r) (Action.ofExcept r)
  bind : ∀ {α β : Type} {x y : Call η κ α} {f g : α → Call η κ β},
    P α x y → (∀ a, P β (f a) (g a)) → P β (x >>= f) (y >>= g)
  attempt : ∀ {α : Type} {x y : Call η κ α}, P α x y → P _ x.attempt y.attempt
  contact : ∀ {α : Type} (c : Contact η α), P α (remote c.make) (remote c.make)
  hook : ∀ label args, P _ (hooks label args) (hooks' label args)

namespace Composable
variable {hooks hooks' : Hooks η κ} {P : (α : Type) → Call η κ α → Call η κ α → Prop}
  (h : Composable hooks hooks' P)
include h

theorem pure (a : α) : P α (pure a) (pure a) := h.ofExcept (.ok a)

theorem fail (e : Abrupt RemoteError) : P α (Action.fail e) (Action.fail e) :=
  h.ofExcept (.error e)

theorem request (r : Request η α) : P α (remote r.send) (remote r.send) := h.contact (.request r)

theorem runHook (label : η) (args : List Value) :
    P _ (runHook (hooks label args)) (runHook (hooks' label args)) := by
  apply h.bind (h.attempt (h.hook label args))
  intro result
  have hlast := h.bind (h.contact .checkAlive) fun _ => h.ofExcept result
  rcases result with (e | _) | v
  · exact hlast
  · exact h.fail .crash
  · exact hlast

theorem runBehavior (behavior : Behavior η) (args : List Value) :
    P _ (runBehavior hooks behavior args) (runBehavior hooks' behavior args) := by
  cases behavior with
  | returns value => exact h.pure value
  | returnsString text =>
    simp only [World.runBehavior, remote_bind]
    exact h.bind (h.contact (.newString text)) fun o => h.pure (Value.object o)
  | throws typeName =>
    simp only [World.runBehavior, remote_bind]
    exact h.bind (h.contact (.newObject typeName)) fun o => h.fail (.error (.threw o))
  | hook label => exact h.runHook label args

theorem runCallee (args : List Value) (callee : Remote.Callee η) :
    P _ (runCallee hooks args callee) (runCallee hooks' args callee) := by
  cases callee with
  | answer value => exact h.pure value
  | declared behavior => exact h.runBehavior behavior args

theorem invokeMethod (o : Handle) (name signature : String) (args : List Value)
    (thread : ThreadId) : P _ (invokeMethod hooks o name signature args thread)
      (invokeMethod hooks' o name signature args thread) :=
  h.bind (h.request (.selectInstance o name signature args thread)) (h.runCallee args)

theorem invokeStatic (type : TypeRef) (name signature : String) (args : List Value)
    (thread : ThreadId) : P _ (invokeStatic hooks type name signature args thread)
      (invokeStatic hooks' type name signature args thread) :=
  h.bind (h.request (.selectStatic type name signature args thread)) (h.runCallee args)

theorem display (thread : ThreadId) (v : Value) :
    P _ (display hooks thread v) (display hooks' thread v) :=
  rel_display h.pure h.bind (fun o => h.request (.stringText o))
    (fun o => h.invokeMethod o _ _ _ thread) v

end Composable

theorem composable_keeps {hooks : Hooks η κ} {T : World η κ → World η κ → Prop}
    [IsPreorder (World η κ) T]
    (hcontact : ∀ {α : Type} (c : Contact η α), Keeps T (remote c.make : Call η κ α))
    (hh : ∀ label args, Keeps T (hooks label args)) :
    Composable hooks hooks fun _ x _ => Keeps T x where
  ofExcept r := .ofExcept r
  bind hx hf := hx.bind hf
  attempt hx := hx.attempt
  contact := hcontact
  hook := hh

/-- A relation between debuggees, seen from the worlds around them. -/
def Across (κ : Type) (R : Debuggee η → Debuggee η → Prop) (w w' : World η κ) : Prop :=
  R w.debuggee w'.debuggee

instance [IsPreorder (Debuggee η) R] : IsPreorder (World η κ) (Across κ R) where
  refl w := refl w.debuggee
  trans _ _ _ h h' := IsTrans.trans (r := R) _ _ _ h h'

theorem keeps_remote {R : Debuggee η → Debuggee η → Prop} {r : Remote η α} (h : Keeps R r) :
    Keeps (Across κ R) (remote r) := fun w => h w.debuggee

theorem silent_remote {r : Remote η α} (h : Silent r) : Silent (remote r : Call η κ α) :=
  fun w => congrArg (fun d => { w with debuggee := d }) (h w.debuggee)

theorem composable_across {R : Debuggee η → Debuggee η → Prop} [IsPreorder (Debuggee η) R]
    {hooks : Hooks η κ} (hR : Remote.AllowsChanges R)
    (hh : ∀ label args, Keeps (Across κ R) (hooks label args)) :
    Composable hooks hooks fun _ x _ => Keeps (Across κ R) x :=
  composable_keeps (fun c => keeps_remote (c.keeps_make hR)) hh

end World

end Probe

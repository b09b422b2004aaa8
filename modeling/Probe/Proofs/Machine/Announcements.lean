import Probe.Proofs.Machine.Steady
import Probe.Proofs.Tracker.ExactlyOnce

namespace Probe

open Probe.Action (Keeps)

namespace Tracker
set_option autoImplicit true

/-- Whatever happens to the tracker from now on, nothing is recorded under the token. -/
def Forgotten (t : Tracker) (k : Token) : Prop :=
  ∀ ops, (t.after ops).isPending k = false ∧ (t.after ops).captured.contains k = false

theorem Forgotten.after (h : Forgotten t k) (ops : List Operation) :
    Forgotten (t.after ops) k := by
  intro ops'
  rw [← after_append]
  exact h (ops ++ ops')

theorem Forgotten.not_attributes (h : Forgotten t k) (hx : x ∈ t.history ops) :
    attributes k x = false := by
  obtain ⟨op, a⟩ := x
  rw [← Bool.not_eq_true, attributes_iff]
  rintro ⟨r, rfl⟩
  obtain ⟨before, rest, -, ha⟩ := mem_history_iff.1 hx
  obtain ⟨event, e, -, he, -⟩ := perform_captured ha.symm
  have hp := Table.contains_eq_false_iff.1 (h before).1
  simp [hp] at he

theorem Coherent.forgotten_abandon (h : Coherent t) (hk : k ≤ t.issued) :
    Forgotten (t.abandon k).2 k := by
  intro ops
  have hc : Coherent (t.abandon k).2 := h.perform (.abandon k)
  have hp : (t.abandon k).2.pending.get? k = none := by simp [abandon, Table.get?_erase]
  have hg : (t.abandon k).2.captured.get? k = none := by simp [abandon, Table.get?_erase]
  exact ⟨Table.contains_eq_false_iff.2 (hc.not_pending_after hk hp ops),
    Table.contains_eq_false_iff.2 (hc.not_captured_after hk hp hg ops)⟩

end Tracker

namespace World
set_option autoImplicit true

/-- The tracker is changed by its operations only. -/
def Operates (w w' : World η κ) : Prop := ∃ ops, w'.tracker = w.tracker.after ops

instance : IsPreorder (World η κ) Operates where
  refl _ := ⟨[], rfl⟩
  trans := by
    rintro w w' w'' ⟨ops, h⟩ ⟨ops', h'⟩
    exact ⟨ops ++ ops', by rw [h', h, Tracker.after_append]⟩

def Ignores (w w' : World η κ) : Prop := w'.tracker = w.tracker

instance : IsPreorder (World η κ) Ignores where
  refl _ := rfl
  trans _ _ _ h h' := h'.trans h

theorem admits_operates {hooks : Hooks η κ} (hh : ∀ label args, Keeps Operates (hooks label args)) :
    Admits hooks Operates where
  debuggee _ _ := ⟨[], rfl⟩
  hook := hh
  expect _ e := ⟨[.expect e], rfl⟩
  abandon _ k := ⟨[.abandon k], rfl⟩

theorem composable_ignores {hooks : Hooks η κ}
    (hh : ∀ label args, Keeps Ignores (hooks label args)) :
    Composable hooks hooks fun _ x _ => Keeps Ignores x :=
  composable_keeps (fun _ _ => rfl) hh

theorem Operates.coherent {w w' : World η κ} (h : Operates w w') (hw : w.tracker.Coherent) :
    w'.tracker.Coherent := by
  obtain ⟨ops, h⟩ := h
  rw [h]
  exact hw.after ops

theorem Operates.issued_le {w w' : World η κ} (h : Operates w w') (hw : w.tracker.Coherent) :
    w.tracker.issued ≤ w'.tracker.issued := by
  obtain ⟨ops, h⟩ := h
  rw [h]
  exact hw.issued_le_after ops

theorem Operates.forgotten {w w' : World η κ} (h : Operates w w') (hk : w.tracker.Forgotten k) :
    w'.tracker.Forgotten k := by
  obtain ⟨ops, h⟩ := h
  rw [h]
  exact hk.after ops

end World

namespace Machine
set_option autoImplicit true

/-- The first part of a tracked call: takes the operands and announces the method. -/
def opening (setup : Setup η κ) (site : Site) (name signature : String) (argCount : Nat) :
    Exec η κ (Token × Target × List Value) := do
  let args ← popArgs site argCount
  let receiver ← pop site
  let target ← target receiver name signature
  let token ← announce setup.scope.thread target name signature
  return (token, target, args)

/-- The second part: makes the call and withdraws the announcement. -/
def closing (setup : Setup η κ) (name signature : String) (token : Token) (target : Target)
    (args : List Value) : Exec η κ Value := do
  match ← Action.attempt (call (perform setup target name signature args)) with
  | .ok v =>
    withdraw token
    return v
  | .error .crash => Action.fail .crash
  | .error stop =>
    withdraw token
    Action.fail stop

theorem invoke_tracked {setup : Setup η κ} (ht : setup.tracking = true) (receiver : Operand)
    (name signature : String) (args : List Value) :
    invoke setup receiver name signature args =
      (target receiver name signature >>= fun callee =>
        announce setup.scope.thread callee name signature >>= fun token =>
          closing setup name signature token callee args) := by
  simp only [invoke, ht, if_true]
  rfl

theorem effect_invoke {setup : Setup η κ} (ht : setup.tracking = true) :
    effect setup ⟨pc, .invoke name signature argCount⟩ =
      (opening setup ⟨pc, .invoke name signature argCount⟩ name signature argCount >>=
        fun (token, target, args) => closing setup name signature token target args >>=
          pushValue setup ⟨pc, .invoke name signature argCount⟩) := by
  simp only [effect, invoke_tracked ht, opening, bind_assoc, pure_bind]

theorem execute_invoke {setup : Setup η κ} (ht : setup.tracking = true)
    (ho : opening setup ⟨pc, .invoke name signature argCount⟩ name signature argCount s =
      (.ok (k, callee, args), s')) :
    execute setup ⟨pc, .invoke name signature argCount⟩ s =
      (closing setup name signature k callee args >>= fun v =>
        pushValue setup ⟨pc, .invoke name signature argCount⟩ v >>= fun _ => pure none) s' := by
  change (effect setup ⟨pc, .invoke name signature argCount⟩ >>= fun _ => pure none) s = _
  rw [effect_invoke ht]
  simp only [bind_assoc]
  rw [Action.bind_apply, ho]

theorem tracker_remote {r : Remote η α} {s s' : State η κ} (h : remote r s = (.ok a, s')) :
    s'.world.tracker = s.world.tracker := by
  have hs : (remote r s).2.world.tracker = s.world.tracker := rfl
  rwa [h] at hs

theorem announce_eq_ok {s s' : State η κ}
    (h : announce thread callee name signature s = (.ok k, s')) :
    ∃ e, k = (s.world.tracker.expect e).1 ∧ s'.world.tracker = (s.world.tracker.expect e).2 := by
  obtain ⟨depth, s₁, h₁, h⟩ := Action.bind_eq_ok.1 h
  obtain ⟨type, s₂, h₂, h⟩ := Action.bind_eq_ok.1 h
  obtain ⟨declaring, s₃, h₃, h⟩ := Action.bind_eq_ok.1 h
  have ht : s₃.world.tracker = s.world.tracker := by
    rw [tracker_remote h₃, tracker_remote h₂, tracker_remote h₁]
  cases h
  rw [← ht]
  exact ⟨_, rfl, rfl⟩

/-- The operands are inside the machine, so an opened call has registered its method and no
more. -/
theorem opening_eq_ok {setup : Setup η κ} {s s' : State η κ}
    (h : opening setup site name signature argCount s = (.ok (k, callee, args), s')) :
    ∃ e, k = (s.world.tracker.expect e).1 ∧ s'.world.tracker = (s.world.tracker.expect e).2 := by
  obtain ⟨_, s₁, h₁, h⟩ := Action.bind_eq_ok.1 h
  obtain ⟨receiver, s₂, h₂, h⟩ := Action.bind_eq_ok.1 h
  obtain ⟨_, s₃, h₃, h⟩ := Action.bind_eq_ok.1 h
  obtain ⟨token, s₄, h₄, h⟩ := Action.bind_eq_ok.1 h
  cases h
  have hw₁ := inside_popArgs site argCount s
  have hw₂ := inside_pop site s₁
  have hw₃ := inside_target receiver name signature s₂
  rw [h₁] at hw₁
  rw [h₂] at hw₂
  rw [h₃] at hw₃
  have hw : s.world = s₃.world := hw₁.trans (hw₂.trans hw₃)
  rw [hw]
  exact announce_eq_ok h₄

theorem closing_of_crash {setup : Setup η κ} {s s' : State η κ}
    (h : call (perform setup callee name signature args) s = (.error .crash, s')) :
    closing setup name signature k callee args s = (.error .crash, s') := by
  simp only [closing, Action.bind_apply, Action.attempt, h]
  rfl

theorem closing_of_ne_crash {setup : Setup η κ} {s : State η κ}
    (h : (call (perform setup callee name signature args) s).1 ≠ .error .crash) :
    closing setup name signature k callee args s =
      ((call (perform setup callee name signature args) s).1,
        (withdraw k (call (perform setup callee name signature args) s).2).2) := by
  rcases hr : call (perform setup callee name signature args) s with ⟨(f | _) | v, s'⟩
  · simp only [closing, Action.bind_apply, Action.attempt, hr]
    rfl
  · rw [hr] at h
    exact absurd rfl h
  · simp only [closing, Action.bind_apply, Action.attempt, hr]
    rfl

theorem pushValue_ne_crash (setup : Setup η κ) (site : Site) (v : Value) (s : State η κ) :
    (pushValue setup site v s).1 ≠ .error .crash := by
  by_cases hroom : s.stack.length < setup.maxStack
  · rw [pushValue, push_of_room hroom]
    simp
  · rw [pushValue, push_of_full hroom]
    simp

section
variable {setup : Setup η κ} {s s' : State η κ} {callee : Target} (ht : setup.tracking = true)
  (ho : opening setup ⟨pc, .invoke name signature argCount⟩ name signature argCount s =
    (.ok (k, callee, args), s'))
include ht ho

theorem execute_of_crash
    (h : call (perform setup callee name signature args) s' = (.error .crash, s'')) :
    execute setup ⟨pc, .invoke name signature argCount⟩ s = (.error .crash, s'') := by
  rw [execute_invoke ht ho, Action.bind_apply, closing_of_crash h]

theorem execute_of_ne_crash
    (h : (call (perform setup callee name signature args) s').1 ≠ .error .crash) :
    (execute setup ⟨pc, .invoke name signature argCount⟩ s).1 ≠ .error .crash ∧
      (execute setup ⟨pc, .invoke name signature argCount⟩ s).2.world =
        (withdraw k (call (perform setup callee name signature args) s').2).2.world := by
  rw [execute_invoke ht ho, Action.bind_apply, closing_of_ne_crash h]
  rcases hr : call (perform setup callee name signature args) s' with ⟨stop | v, s''⟩
  · rw [hr] at h
    exact ⟨fun he => h (by cases he; rfl), rfl⟩
  · have hin := inside_pushValue setup ⟨pc, .invoke name signature argCount⟩ v (withdraw k s'').2
    have hne := pushValue_ne_crash setup ⟨pc, .invoke name signature argCount⟩ v (withdraw k s'').2
    simp only [Action.bind_apply]
    rcases hp : pushValue setup ⟨pc, .invoke name signature argCount⟩ v (withdraw k s'').2 with
      ⟨e | _, s₃⟩ <;> rw [hp] at hin hne
    · exact ⟨fun he => hne (by cases he; rfl), hin.symm⟩
    · exact ⟨fun he => (by cases he), hin.symm⟩

end

/-- The token under which a visited call is announced; other instructions announce nothing. -/
def Visit.token? (setup : Setup η κ) (v : Visit η κ) : Option Token :=
  match v.site.instruction with
  | .invoke name signature argCount =>
    if setup.tracking then
      (opening setup v.site name signature argCount v.state).1.toOption.map (·.1)
    else none
  | _ => none

def Visit.crashes (setup : Setup η κ) (v : Visit η κ) : Bool :=
  match (execute setup v.site v.state).1 with
  | .error .crash => true
  | _ => false

theorem Visit.crashes_iff {setup : Setup η κ} {v : Visit η κ} :
    v.crashes setup = true ↔ (execute setup v.site v.state).1 = .error .crash := by
  unfold Visit.crashes
  split
  · simp [*]
  · rename_i h
    exact iff_of_false Bool.false_ne_true h

theorem Visit.token?_eq_some {setup : Setup η κ} {v : Visit η κ} (h : v.token? setup = some k) :
    setup.tracking = true ∧ ∃ pc name signature argCount callee args s',
      v.site = ⟨pc, .invoke name signature argCount⟩ ∧
      opening setup ⟨pc, .invoke name signature argCount⟩ name signature argCount v.state =
        (.ok (k, callee, args), s') := by
  obtain ⟨⟨pc, i⟩, s⟩ := v
  unfold Visit.token? at h
  split at h
  · rename_i name signature argCount hi
    obtain rfl : i = .invoke name signature argCount := hi
    split at h
    · rename_i ht
      refine ⟨ht, pc, name, signature, argCount, ?_⟩
      rcases ho : opening setup ⟨pc, .invoke name signature argCount⟩ name signature argCount s with
        ⟨_ | ⟨token, callee, args⟩, s'⟩ <;> simp only [ho] at h
      · cases h
      · obtain rfl : token = k := Option.some.inj h
        exact ⟨callee, args, s', rfl, rfl⟩
    · cases h
  · cases h

theorem Visit.forgotten {setup : Setup η κ} {v : Visit η κ}
    (hh : ∀ label args, Keeps World.Operates (setup.hooks label args))
    (hw : v.state.world.tracker.Coherent) (hk : v.token? setup = some k)
    (hc : v.crashes setup = false) : (v.after setup).world.tracker.Forgotten k := by
  obtain ⟨ht, pc, name, signature, argCount, callee, args, s', hv, ho⟩ := Visit.token?_eq_some hk
  obtain ⟨e, hke, hte⟩ := opening_eq_ok ho
  rw [← Bool.not_eq_true, Visit.crashes_iff, hv] at hc
  unfold Visit.after
  rw [hv]
  have hs' : s'.world.tracker.Coherent := by
    rw [hte]
    exact hw.perform (.expect e)
  have hissued : k = s'.world.tracker.issued := by
    rw [hte, hke, hw.expect_eq]
  have hcall := keeps_perform (World.admits_operates hh).withstands trivial callee name signature
    args s'.world
  have hne : (call (perform setup callee name signature args) s').1 ≠ .error .crash := by
    intro hcrash
    apply hc
    rw [execute_of_crash ht ho (Prod.ext hcrash rfl)]
  rw [(execute_of_ne_crash ht ho hne).2]
  exact (hcall.coherent hs').forgotten_abandon (hissued ▸ hcall.issued_le hs')

/-- A call that crashes leaves its announcement pending, unless the crashing code withdraws
it. -/
theorem Visit.pending {setup : Setup η κ} {v : Visit η κ}
    (hh : ∀ label args, Keeps World.Ignores (setup.hooks label args))
    (hw : v.state.world.tracker.Coherent) (hk : v.token? setup = some k)
    (hc : v.crashes setup = true) :
    (v.after setup).world.tracker.isPending k = true := by
  obtain ⟨ht, pc, name, signature, argCount, callee, args, s', hv, ho⟩ := Visit.token?_eq_some hk
  obtain ⟨e, hke, hte⟩ := opening_eq_ok ho
  rw [Visit.crashes_iff, hv] at hc
  unfold Visit.after
  rw [hv]
  rcases hr : call (perform setup callee name signature args) s' with ⟨r, s''⟩
  have hcrash : r = .error .crash := by
    refine Classical.byContradiction fun hne => ?_
    exact (execute_of_ne_crash ht ho (by rwa [hr])).1 hc
  subst hcrash
  have hsame : s''.world.tracker = s'.world.tracker := by
    have hcall : Keeps World.Ignores (perform setup callee name signature args) :=
      rel_perform (World.composable_ignores hh) callee name signature args
    have hs : (call (perform setup callee name signature args) s').2.world.tracker =
      s'.world.tracker := hcall s'.world
    rwa [hr] at hs
  rw [execute_of_crash ht ho hr, hsame, hte, hke, hw.expect_eq]
  exact Table.contains_iff.2 ⟨e, by simp⟩

theorem runFrom_of_crash {v : Visit η κ} (hv : v ∈ visitsFrom setup pc skip is s)
    (hc : v.crashes setup = true) :
    runFrom setup pc skip is s = (.error .crash, v.after setup) := by
  fun_induction visitsFrom setup pc skip is s with
  | case1 => cases hv
  | case2 pc skip i rest s ih => exact ih hv
  | case3 => cases hv
  | case4 pc i rest s s' hcheck ihnext ihjump =>
    simp only [runFrom, Action.bind_apply, hcheck]
    rcases List.mem_cons.1 hv with rfl | hv
    · have he : execute setup ⟨pc, i⟩ s' = (.error .crash, (execute setup ⟨pc, i⟩ s').2) :=
        Prod.ext (Visit.crashes_iff.1 hc) rfl
      rw [he]
      rfl
    · rcases he : execute setup ⟨pc, i⟩ s' with ⟨_ | _ | target, s''⟩ <;> simp only [he] at hv
      · cases hv
      · exact ihnext s'' hv
      · exact ihjump target s'' hv

theorem run_of_crash {v : Visit η κ} (hv : v ∈ visits setup code w)
    (hc : v.crashes setup = true) :
    run setup code w = (.error .crash, (v.after setup).world) := by
  unfold visits at hv
  split at hv
  · rename_i h
    simp only [run, runCode, Action.bind_apply, require, Action.require, h, if_true,
      runFrom_of_crash hv hc]
  · cases hv

theorem forgotten_run {setup : Setup η κ} {v : Visit η κ}
    (hh : ∀ label args, Keeps World.Operates (setup.hooks label args))
    (hw : w.tracker.Coherent) (hv : v ∈ visits setup code w) (hk : v.token? setup = some k)
    (hc : v.crashes setup = false) : (run setup code w).2.tracker.Forgotten k := by
  have hspan := seen_visits (T := World.Operates) fun u (_ : u ∈ visits setup code w) =>
    seen_visit (World.admits_operates hh).withstands trivial u
  have hbefore : World.Operates w v.state.world := hspan.before v hv
  have hbehind : World.Operates (v.after setup).world (run setup code w).2 := hspan.behind v hv
  exact hbehind.forgotten (Visit.forgotten hh (hbefore.coherent hw) hk hc)

theorem pending_run {setup : Setup η κ} {v : Visit η κ}
    (hh : ∀ label args, Keeps World.Ignores (setup.hooks label args))
    (hw : w.tracker.Coherent) (hv : v ∈ visits setup code w) (hk : v.token? setup = some k)
    (hc : v.crashes setup = true) : (run setup code w).2.tracker.isPending k = true := by
  have hop (label : η) (args : List Value) : Keeps World.Operates (setup.hooks label args) :=
    (hh label args).mono fun _ _ h => ⟨[], h⟩
  have hspan := seen_visits (T := World.Operates) fun u (_ : u ∈ visits setup code w) =>
    seen_visit (World.admits_operates hop).withstands trivial u
  have hbefore : World.Operates w v.state.world := hspan.before v hv
  rw [run_of_crash hv hc]
  exact Visit.pending hh (hbefore.coherent hw) hk hc

end Machine

end Probe

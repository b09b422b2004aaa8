import Probe.Proofs.Machine.Shapes

namespace Probe
set_option autoImplicit true

open Probe.Action (Keeps)
open Debuggee (Spared Untouched)

/-- The complaint is one that an instruction makes about its own use of the stack. -/
inductive CodeError.Names (pc : Nat) (i : Instruction) (limit : Nat) : CodeError → Prop
  | underflow : Names pc i limit (.underflow pc i)
  | overflow : Names pc i limit (.overflow pc limit)
  | unexpected (expected : Expected) : Names pc i limit (.unexpected pc i expected)

namespace Machine

/-- A stack within the limit stays within it. -/
def StaysWithin (limit : Nat) (s s' : State η κ) : Prop :=
  s.stack.length ≤ limit → s'.stack.length ≤ limit

instance : IsPreorder (State η κ) (StaysWithin limit) where
  refl _ := id
  trans _ _ _ h h' := h' ∘ h

theorem Steady.staysWithin {x : Exec η κ α} (hx : Steady x) :
    Keeps (StaysWithin limit) x := by
  intro s hs
  rwa [hx.stack s]

theorem staysWithin_pop (site : Site) :
    Keeps (StaysWithin limit) (pop site : Exec η κ Operand) := by
  rintro ⟨stack, temporaries, world⟩ hs
  cases stack with
  | nil => exact hs
  | cons operand rest => exact Nat.le_of_succ_le hs

theorem staysWithin_push (setup : Setup η κ) (site : Site) (operand : Operand) :
    Keeps (StaysWithin setup.maxStack) (push setup site operand) := by
  intro s hs
  by_cases hroom : s.stack.length < setup.maxStack
  · rw [push_of_room hroom]
    exact hroom
  · rw [push_of_full hroom]
    exact hs

theorem compatible_staysWithin (setup : Setup η κ) (site : Site) :
    Compatible {} setup setup site site fun _ x _ => Keeps (StaysWithin setup.maxStack) x where
  toComposable := composable_of_steady rfl rfl rfl Steady.staysWithin Keeps.bind
  pop := staysWithin_pop site
  unexpected _ := .fail _
  push operand := staysWithin_push setup site operand

theorem staysWithin_visit (setup : Setup η κ) (v : Visit η κ) :
    StaysWithin setup.maxStack v.state (v.after setup) :=
  (compatible_staysWithin setup v.site).execute trivial v.state

theorem length_stack_le (setup : Setup η κ) {v : Visit η κ} (hv : v ∈ visits setup code w) :
    v.state.stack.length ≤ setup.maxStack ∧ (v.after setup).stack.length ≤ setup.maxStack := by
  unfold visits at hv
  split at hv
  · have hspan := spans_visitsFrom fun v (_ : v ∈ visitsFrom setup 0 0 code.instructions
      ⟨[], .empty, w⟩) => staysWithin_visit setup v
    have hbefore := hspan.before v hv (Nat.zero_le _)
    exact ⟨hbefore, staysWithin_visit setup v hbefore⟩
  · cases hv

/-- If the step finds fault with the code, it does so in the way `E` allows. -/
def Complains (E : CodeError → Prop) (x : Exec η κ α) : Prop :=
  ∀ s e, (x s).1 = .error (.error (.malformed e)) → E e

theorem Complains.bind {x : Exec η κ α} {f : α → Exec η κ β} (hx : Complains E x)
    (hf : ∀ a, Complains E (f a)) : Complains E (x >>= f) := by
  intro s e h
  rcases Action.of_bind_error h with h | ⟨a, s', -, h⟩
  · exact hx s e h
  · exact hf a s' e h

theorem Steady.complains {x : Exec η κ α} (hx : Steady x) : Complains E x :=
  fun s e h => absurd h (hx.blameless s e)

theorem compatible_complains (setup : Setup η κ) (pc : Nat) (i : Instruction) :
    Compatible {} setup setup ⟨pc, i⟩ ⟨pc, i⟩ fun _ x _ =>
      Complains (CodeError.Names pc i setup.maxStack) x where
  toComposable := composable_of_steady rfl rfl rfl Steady.complains Complains.bind
  pop := by
    rintro ⟨_ | ⟨operand, rest⟩, temporaries, world⟩ e h
    · cases h
      exact .underflow
    · cases h
  unexpected expected := by
    rintro s e ⟨⟩
    exact .unexpected expected
  push operand := by
    intro s e h
    by_cases hroom : s.stack.length < setup.maxStack
    · rw [push_of_room hroom] at h
      cases h
    · rw [push_of_full hroom] at h
      cases h
      exact .overflow

/-- With less than `room` operands on the stack the step finds no fault with the code. -/
def Faultless (room : Nat) (x : Exec η κ α) : Prop :=
  ∀ s, s.stack.length < room → ∀ e, (x s).1 ≠ .error (.error (.malformed e))

/-- With less than `room` operands on the stack the step finds fault with the code only before
it reaches beyond the machine. -/
def Prudent (room : Nat) (x : Exec η κ α) : Prop :=
  ∀ s, s.stack.length < room → ∀ e, (x s).1 = .error (.error (.malformed e)) → Inside s (x s).2

theorem Faultless.prudent {x : Exec η κ α} (hx : Faultless room x) : Prudent room x :=
  fun s hs e he => absurd he (hx s hs e)

theorem faultless_pushValue (setup : Setup η κ) (site : Site) (v : Value) :
    Faultless setup.maxStack (pushValue setup site v) := by
  intro s hs e he
  rw [pushValue, push_of_room hs] at he
  cases he

theorem Steady.faultless_bind {x : Exec η κ α} {f : α → Exec η κ β} (hx : Steady x)
    (hf : ∀ a, Faultless room (f a)) : Faultless room (x >>= f) := by
  intro s hs e he
  rcases Action.of_bind_error he with he | ⟨a, s', hxs, he⟩
  · exact hx.blameless s e he
  · have hstack := hx.stack s
    rw [hxs] at hstack
    apply hf a s' _ e he
    rwa [hstack]

namespace Prudent

theorem malformed (e : CodeError) : Prudent room (malformed e : Exec η κ α) :=
  fun s _ _ _ => refl s

theorem mono {x : Exec η κ α} (hx : Prudent (room + 1) x) : Prudent room x :=
  fun s hs => hx s (Nat.lt_succ_of_lt hs)

theorem pop_bind {f : Operand → Exec η κ β} (hf : ∀ operand, Prudent room (f operand))
    (site : Site) : Prudent (room + 1) (pop site >>= f) := by
  rintro ⟨stack, temporaries, world⟩ hs e he
  cases stack with
  | nil => rfl
  | cons operand rest =>
    exact hf operand ⟨rest, temporaries, world⟩ (Nat.lt_of_succ_lt_succ hs) e he

theorem popValue_bind {f : Value → Exec η κ β} (hf : ∀ v, Prudent room (f v)) (site : Site) :
    Prudent (room + 1) (popValue site >>= f) := by
  rw [popValue, bind_assoc]
  apply pop_bind
  intro operand
  cases operand with
  | value v => exact hf v
  | type t => exact malformed _

theorem popType_bind {f : TypeRef → Exec η κ β} (hf : ∀ t, Prudent room (f t)) (site : Site) :
    Prudent (room + 1) (popType site >>= f) := by
  rw [popType, bind_assoc]
  apply pop_bind
  intro operand
  cases operand with
  | type t => exact hf t
  | value v => exact malformed _

/-- There may be no arguments at all, so they make no room. -/
theorem popArgs_bind {f : List Value → Exec η κ β} (hf : ∀ args, Prudent room (f args))
    (site : Site) (n : Nat) : Prudent room (popArgs site n >>= f) := by
  induction n generalizing f with
  | zero => exact hf []
  | succ n ih =>
    rw [popArgs, bind_assoc]
    apply (popValue_bind _ site).mono
    intro last
    rw [bind_assoc]
    apply ih
    intro args
    exact hf (args ++ [last])

end Prudent

/-- Every instruction that can change the debuggee takes an operand off before it does, so there
is room for what it pushes afterwards. -/
theorem prudent_effect (setup : Setup η κ) (pc : Nat) {i : Instruction}
    (hi : i.hasSideEffects = true ∨ ∃ op, i = .binary op) :
    Prudent (setup.maxStack + 1) (effect setup ⟨pc, i⟩) := by
  have hsteady := composable_steady setup
  have hpush (v : Value) := faultless_pushValue setup ⟨pc, i⟩ v
  have hask {α β : Type} (r : Remote η α) {f : α → Exec η κ β}
      (hf : ∀ a, Faultless setup.maxStack (f a)) : Faultless setup.maxStack (remote r >>= f) :=
    (steady_remote r).faultless_bind hf
  cases i with
  | storeVariable name =>
    apply Prudent.popValue_bind
    intro v
    exact ((hsteady.writeVariable trivial _ name v).faultless_bind fun _ => hpush v).prudent
  | storeField name =>
    apply Prudent.popValue_bind
    intro v
    apply (Prudent.popValue_bind _ _).mono
    intro target
    exact ((hsteady.fieldOwner _ _ _).faultless_bind fun _ => hask _ fun _ => hpush v).prudent
  | storeStatic typeName name =>
    apply Prudent.popValue_bind
    intro v
    exact (hask _ fun _ => hask _ fun _ => hpush v).prudent
  | storeElement =>
    apply Prudent.popValue_bind
    intro v
    apply (Prudent.popValue_bind _ _).mono
    intro index
    apply (Prudent.popValue_bind _ _).mono
    intro array
    exact ((hsteady.slot _ _ _).faultless_bind fun _ => hask _ fun _ => hpush v).prudent
  | binary op =>
    apply Prudent.popValue_bind
    intro r
    apply (Prudent.popValue_bind _ _).mono
    intro l
    exact ((hsteady.combine trivial op l r).faultless_bind hpush).prudent
  | construct signature argCount =>
    apply Prudent.popArgs_bind
    intro args
    apply Prudent.popType_bind
    intro type
    exact (hask _ hpush).prudent
  | invoke name signature argCount =>
    apply Prudent.popArgs_bind
    intro args
    apply Prudent.pop_bind
    intro receiver
    exact ((hsteady.invoke trivial receiver name signature args).faultless_bind hpush).prudent
  | newArray arrayType =>
    apply Prudent.popValue_bind
    intro size
    exact ((hsteady.arraySize size).faultless_bind fun _ =>
      hask _ fun _ => hask _ fun _ => hpush _).prudent
  | _ => simp [Instruction.hasSideEffects] at hi

theorem effect_of_malformed {setup : Setup η κ} {site : Site} {s : State η κ}
    (h : (execute setup site s).1 = .error (.error (.malformed e)))
    (hi : site.instruction.target? = none) :
    (effect setup site s).1 = .error (.error (.malformed e)) := by
  obtain ⟨pc, i⟩ := site
  rw [execute_of_target?_none hi] at h
  rcases Action.of_bind_error h with h | ⟨_, s', -, h⟩
  · exact h
  · cases h

theorem untouched_of_malformed {setup : Setup η κ} {site : Site} {s : State η κ}
    (hs : s.stack.length ≤ setup.maxStack) (hd : s.world.debuggee.Sound)
    (h : (execute setup site s).1 = .error (.error (.malformed e))) :
    s.world.debuggee.Untouched (execute setup site s).2.world.debuggee := by
  obtain ⟨pc, i⟩ := site
  rw [execute_world]
  by_cases hi : i.hasSideEffects = true ∨ ∃ op, i = .binary op
  · have htarget : i.target? = none := by
      rcases hi with hi | ⟨op, rfl⟩
      · cases i <;> first | rfl | cases hi
      · rfl
    have hinside := prudent_effect setup pc hi s (Nat.lt_succ_of_le hs) e
      (effect_of_malformed h htarget)
    rw [← show s.world = _ from hinside]
    exact .refl _
  · exact (seen_effect (World.withstands_additions Spared.allowsAdditions setup.hooks) _ hi s hd).2

/-- In every run the stack stays within its limit. Wherever an instruction finds such a stack
and fails because the code is malformed, the complaint is about its own operands or its own
result, and nothing was run or written by it. -/
theorem malformed_without_effect (setup : Setup η κ) :
    (∀ (code : Code) (w : World η κ), ∀ v ∈ visits setup code w,
      v.state.stack.length ≤ setup.maxStack ∧ (v.after setup).stack.length ≤ setup.maxStack) ∧
    ∀ (pc : Nat) (i : Instruction) (s s' : State η κ) (e : CodeError),
      s.stack.length ≤ setup.maxStack → s.world.debuggee.Reachable →
      execute setup ⟨pc, i⟩ s = (.error (.error (.malformed e)), s') →
      e.Names pc i setup.maxStack ∧ s.world.debuggee.Untouched s'.world.debuggee := by
  constructor
  · intro code w v hv
    exact length_stack_le setup hv
  · intro pc i s s' e hs hd h
    have hfailed : (execute setup ⟨pc, i⟩ s).1 = .error (.error (.malformed e)) := by rw [h]
    have hnames := (compatible_complains setup pc i).execute trivial s e hfailed
    have huntouched := untouched_of_malformed hs hd.sound hfailed
    rw [h] at huntouched
    exact ⟨hnames, huntouched⟩

def numberState (stack : List Operand) : State Unit Unit := ⟨stack, .empty, numberWorld⟩

theorem numberWorld_reachable : numberWorld.debuggee.Reachable :=
  (Debuggee.Reachable.initial.tail (.addClass _)).tail (.addThread 1 [])

theorem malformed_without_effect_number :
    (∀ v ∈ visits shallowSetup conjunction numberWorld, v.state.stack.length ≤ 2) ∧
    (execute shallowSetup ⟨0, .pushString "a"⟩ (numberState [.value .null, .value .null])).1 =
      .error (.error (.malformed (.overflow 0 2))) ∧
    numberWorld.debuggee.Untouched (execute shallowSetup ⟨0, .pushString "a"⟩
      (numberState [.value .null, .value .null])).2.world.debuggee ∧
    (execute shallowSetup ⟨2, .invoke "test" "(I)Z" 1⟩ (numberState [.value (.int 1)])).1 =
      .error (.error (.malformed (.underflow 2 (.invoke "test" "(I)Z" 1)))) ∧
    numberWorld.debuggee.Untouched (execute shallowSetup ⟨2, .invoke "test" "(I)Z" 1⟩
      (numberState [.value (.int 1)])).2.world.debuggee := by
  obtain ⟨hwithin, huntouched⟩ := malformed_without_effect shallowSetup
  have hfull : (numberState [.value .null, .value .null]).stack.length ≤ shallowSetup.maxStack :=
    Nat.le_refl 2
  have hone : (numberState [.value (.int 1)]).stack.length ≤ shallowSetup.maxStack :=
    Nat.le_succ 1
  exact ⟨fun v hv => (hwithin _ _ v hv).1,
    rfl, (huntouched 0 (.pushString "a") _ _ _ hfull numberWorld_reachable rfl).2,
    rfl, (huntouched 2 (.invoke "test" "(I)Z" 1) _ _ _ hone numberWorld_reachable rfl).2⟩

def Overflows (r : Except (Abrupt Failure) α) : Prop :=
  ∃ pc limit, r = .error (.error (.malformed (.overflow pc limit)))

/-- The second step does what the first does, unless the first finds no room on the stack. -/
def Outlasts (x y : Exec η κ α) : Prop := ∀ s, ¬Overflows (x s).1 → y s = x s

theorem Outlasts.refl (x : Exec η κ α) : Outlasts x x := fun _ _ => rfl

theorem Outlasts.bind {x y : Exec η κ α} {f g : α → Exec η κ β} (h : Outlasts x y)
    (hf : ∀ a, Outlasts (f a) (g a)) : Outlasts (x >>= f) (y >>= g) := by
  intro s hs
  rw [Action.bind_apply] at hs
  rw [Action.bind_apply, Action.bind_apply]
  rcases hxs : x s with ⟨stop | a, s'⟩
  · rw [hxs] at hs
    have hy : y s = (.error stop, s') := by
      rw [← hxs]
      apply h
      rw [hxs]
      rintro ⟨pc, limit, he⟩
      cases he
      exact hs ⟨pc, limit, rfl⟩
    rw [hy]
  · rw [hxs] at hs
    have hy : y s = (.ok a, s') := by
      rw [← hxs]
      apply h
      rw [hxs]
      rintro ⟨pc, limit, he⟩
      cases he
    rw [hy]
    exact hf a s' hs

def Setup.withLimit (setup : Setup η κ) (limit : Nat) : Setup η κ :=
  { setup with maxStack := limit }

theorem compatible_outlasts {setup : Setup η κ} (hlimit : setup.maxStack ≤ limit) (site : Site) :
    Compatible {} setup (setup.withLimit limit) site site fun _ => Outlasts where
  toComposable := composable_of_steady rfl rfl rfl (fun _ => .refl _) Outlasts.bind
  pop := .refl _
  unexpected e := .refl _
  push operand := by
    intro s hs
    by_cases hroom : s.stack.length < setup.maxStack
    · have hroom' : s.stack.length < (setup.withLimit limit).maxStack :=
        Nat.lt_of_lt_of_le hroom hlimit
      rw [push_of_room hroom, push_of_room hroom']
    · rw [push_of_full hroom] at hs
      exact absurd ⟨_, _, rfl⟩ hs

/-- A run that never finds the stack full goes the same way under every higher limit. -/
theorem run_withLimit (setup : Setup η κ) (limit : Nat) (hlimit : setup.maxStack ≤ limit)
    (code : Code) (w : World η κ)
    (h : ∀ pc limit, (run setup code w).1 ≠ .error (.error (.malformed (.overflow pc limit)))) :
    run (setup.withLimit limit) code w = run setup code w := by
  have hcode : Outlasts (runCode setup code) (runCode (setup.withLimit limit) code) :=
    rel_runCode trivial (compatible_outlasts hlimit) (fun _ => .refl _)
      (fun _ => .refl _) rfl code
  have hsame := hcode ⟨[], .empty, w⟩ (by
    rintro ⟨pc, limit, he⟩
    exact h pc limit he)
  simp only [run, hsame]

theorem run_withLimit_conjunction :
    shallowSetup.maxStack = 2 ∧
    (run shallowSetup conjunction numberWorld).1 =
      .error (.error (.malformed (.unexpected 4 (.jumpIf false 7) .boolean))) ∧
    run (shallowSetup.withLimit 1024) conjunction numberWorld =
      run shallowSetup conjunction numberWorld ∧
    (run (shallowSetup.withLimit 1) conjunction numberWorld).1 =
      .error (.error (.malformed (.overflow 1 1))) := by
  have hrun : (run shallowSetup conjunction numberWorld).1 =
      .error (.error (.malformed (.unexpected 4 (.jumpIf false 7) .boolean))) := rfl
  refine ⟨rfl, hrun, run_withLimit shallowSetup 1024 (by decide) conjunction numberWorld ?_, rfl⟩
  intro pc limit
  rw [hrun]
  rintro ⟨⟩

end Machine

end Probe

import Probe.Proofs.Machine.Loop
import Probe.Proofs.Machine.Shapes

namespace Probe
set_option autoImplicit true

def CodeError.relocate (n : Nat) : CodeError → CodeError
  | underflow pc i => underflow (pc + n) (i.relocate n)
  | overflow pc limit => overflow (pc + n) limit
  | unexpected pc i expected => unexpected (pc + n) (i.relocate n) expected
  | typeLeft pc => typeLeft (pc + n)
  | invalidJump pc target length => invalidJump (pc + n) (target + n) (length + n)
  | resultCount count => resultCount count

def Failure.relocate (n : Nat) : Failure → Failure
  | malformed e => malformed (e.relocate n)
  | f => f

namespace Machine

/-- The same action with its complaints about the code moved `n` places. -/
def relocated (n : Nat) (x : Exec η κ α) : Exec η κ α :=
  x.mapError (·.map (·.relocate n))

theorem relocated_bind (n : Nat) (x : Exec η κ α) (f : α → Exec η κ β) :
    relocated n (x >>= f) = relocated n x >>= fun a => relocated n (f a) := by
  funext s
  simp only [relocated, Action.mapError, Action.bind_apply]
  rcases x s with ⟨e | a, s'⟩ <;> rfl

theorem relocated_of_blameless {x : Exec η κ α}
    (hx : ∀ s e, (x s).1 ≠ .error (.error (.malformed e))) : relocated n x = x := by
  funext s
  have hs := hx s
  simp only [relocated, Action.mapError]
  rcases hxs : x s with ⟨e | a, s'⟩
  · have he : e.map (·.relocate n) = e := by
      rcases e with (c | _ | _ | _ | _ | _ | _) | _
      · exact absurd (congrArg Prod.fst hxs) (hs c)
      all_goals rfl
    exact congrArg (fun e => (Except.error e, s')) he
  · rfl

theorem Steady.relocated {x : Exec η κ α} (hx : Steady x) (n : Nat) :
    x = relocated n x :=
  (relocated_of_blameless hx.blameless).symm

/-- The same setup, as it is for code that stands `n` places further on. -/
def Setup.later (setup : Setup η κ) (n : Nat) : Setup η κ :=
  { setup with expired := fun pc => setup.expired (pc + n) }

theorem Setup.later_of_unlimited {setup : Setup η κ} (h : ∀ pc, setup.expired pc = false)
    (n : Nat) : setup.later n = setup := by
  obtain ⟨hooks, scope, mayChange, tracking, run, expired, maxStack⟩ := setup
  obtain rfl : expired = fun _ => false := funext h
  rfl

theorem compatible_relocated (setup : Setup η κ) (n pc : Nat) (i : Instruction) :
    Compatible {} (setup.later n) setup ⟨pc, i⟩ ⟨pc + n, i.relocate n⟩
      fun _ x y => y = relocated n x where
  toComposable := by
    refine composable_of_steady rfl rfl rfl ?_ ?_
    · intro α x hx
      exact hx.relocated n
    · intro α β x y f g hx hf
      rw [relocated_bind, hx, funext hf]
  pop := by
    funext s
    obtain ⟨stack, temporaries, world⟩ := s
    cases stack <;> rfl
  unexpected e := rfl
  push operand := by
    change push setup _ operand = relocated n (push setup _ operand)
    funext s
    by_cases hroom : s.stack.length < setup.maxStack
    · simp only [relocated, Action.mapError, push_of_room hroom]
      rfl
    · simp only [relocated, Action.mapError, push_of_full hroom]
      rfl

theorem runFrom_relocate (setup : Setup η κ) (n pc skip : Nat) (is : List Instruction) :
    runFrom setup (pc + n) skip (is.map (·.relocate n)) =
      relocated n (runFrom (setup.later n) pc skip is) :=
  rel_runFrom trivial (compatible_relocated setup n)
    (fun pc => (steady_checkpoint (setup.later n) pc).relocated n) pc skip is

theorem finish_relocate (n length : Nat) :
    (finish (length + n) : Exec η κ Value) = relocated n (finish length) := by
  funext s
  obtain ⟨stack, temporaries, world⟩ := s
  rcases stack with _ | ⟨v | t, _ | ⟨o, rest⟩⟩ <;> rfl

/-- A jump to the end of the first list arrives at the second. The first list is what is left of
the whole code from index `pc` on. -/
theorem runFrom_append {code : Code} (his : code.instructions.drop pc = is)
    (hle : pc + skip ≤ code.length) (setup : Setup η κ) (js : List Instruction) :
    runFrom setup pc skip (is ++ js) =
      runFrom setup pc skip is >>= fun _ => runFrom setup code.length 0 js := by
  fun_induction runFrom setup pc skip is with
  | case1 pc skip =>
    have hpc : code.length ≤ pc := List.drop_eq_nil_iff.1 his
    obtain rfl : skip = 0 := by omega
    obtain rfl : pc = code.length := by omega
    rfl
  | case2 pc skip i rest ih =>
    obtain ⟨-, hrest⟩ := split_of_drop his
    exact ih hrest (by omega)
  | case3 pc i rest ihnext ihjump =>
    obtain ⟨hi, hrest⟩ := split_of_drop his
    funext s
    simp only [List.cons_append, runFrom, Action.bind_apply]
    rcases checkpoint setup pc s with ⟨e | _, s'⟩
    · rfl
    · simp only []
      rcases he : execute setup ⟨pc, i⟩ s' with ⟨e | next, s''⟩
      · rfl
      · obtain ⟨hup, hend⟩ := lt_nextIndex hi he
        cases next with
        | none => exact congrFun (ihnext hrest hend) s''
        | some target =>
          simp only [nextIndex, Option.getD_some] at hup hend
          have hskip : pc + 1 + (target - (pc + 1)) ≤ code.length := by omega
          exact congrFun (ihjump target hrest hskip) s''

theorem hasSideEffects_append {p q code : Code} (hcode : code.instructions =
    p.instructions ++ q.instructions.map (·.relocate p.length)) :
    code.hasSideEffects = (p.hasSideEffects || q.hasSideEffects) := by
  unfold Code.hasSideEffects
  rw [hcode, List.any_append, List.any_map]
  congr 2
  funext i
  exact i.hasSideEffects_relocate _

theorem runFrom_joined {p q code : Code} (hcode : code.instructions =
    p.instructions ++ q.instructions.map (·.relocate p.length)) (setup : Setup η κ) :
    runFrom setup 0 0 code.instructions = runFrom setup 0 0 p.instructions >>= fun _ =>
      relocated p.length (runFrom (setup.later p.length) 0 0 q.instructions) := by
  have hq := runFrom_relocate setup p.length 0 0 q.instructions
  rw [Nat.zero_add] at hq
  rw [hcode, runFrom_append List.drop_zero (Nat.zero_le _), hq]

theorem runCode_joined {p q code : Code} (hcode : code.instructions =
    p.instructions ++ q.instructions.map (·.relocate p.length)) (setup : Setup η κ) :
    runCode setup code = (do
      require (setup.mayChange || !(p.hasSideEffects || q.hasSideEffects))
        (.expression .sideEffectsNotAllowed)
      runFrom setup 0 0 p.instructions
      relocated p.length (do
        runFrom (setup.later p.length) 0 0 q.instructions
        finish q.length)) := by
  have hlength : code.length = q.length + p.length := by
    unfold Code.length
    rw [hcode, List.length_append, List.length_map, Nat.add_comm]
  unfold runCode
  rw [hasSideEffects_append hcode, runFrom_joined hcode, hlength, finish_relocate,
    relocated_bind]
  simp only [bind_assoc]

/-- Code can be put together. The second piece, with its jumps moved behind the first, is
accepted there and does to any machine what it does by itself, once the first has ended without
failing. The clock goes on meanwhile. -/
theorem joined_code_runs (p q : Code) (source : String) :
    ∃ code, Code.ofList source (p.instructions ++ q.instructions.map (·.relocate p.length)) =
        .ok code ∧
      (∀ (setup : Setup η κ) (s : State η κ), runFrom setup 0 0 code.instructions s =
        match runFrom setup 0 0 p.instructions s with
        | (.ok (), s') =>
          relocated p.length (runFrom (setup.later p.length) 0 0 q.instructions) s'
        | (.error e, s') => (.error e, s')) ∧
      ∀ setup : Setup η κ, runCode setup code = (do
        require (setup.mayChange || !(p.hasSideEffects || q.hasSideEffects))
          (.expression .sideEffectsNotAllowed)
        runFrom setup 0 0 p.instructions
        relocated p.length (do
          runFrom (setup.later p.length) 0 0 q.instructions
          finish q.length)) := by
  have hforward := p.forward_instructions.append q.forward_instructions
  obtain ⟨code, haccepted⟩ : ∃ code, Code.ofList source _ = .ok code :=
    Code.accepts_iff.2 hforward
  obtain ⟨-, hcode⟩ := Code.ofList_eq_ok_iff.1 haccepted
  refine ⟨code, haccepted, ?_, runCode_joined hcode⟩
  intro setup s
  rw [runFrom_joined hcode, Action.bind_apply]
  rcases runFrom setup 0 0 p.instructions s with ⟨e | _, s'⟩ <;> rfl

end Machine

end Probe

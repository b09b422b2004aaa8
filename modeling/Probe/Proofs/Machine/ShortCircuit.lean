import Probe.Proofs.Machine.Cancellation
import Probe.Proofs.Machine.Composition

namespace Probe
set_option autoImplicit true

/-- The right operand is passed over if the left one has the given value. That is false for a
conjunction and true for a disjunction. -/
def shortCircuit (settles : Bool) (left right : List Instruction) : List Instruction :=
  left ++ [.dup, .jumpIf settles (left.length + 3 + right.length), .pop] ++
    right.map (·.relocate (left.length + 3))

theorem length_shortCircuit (settles : Bool) (left right : List Instruction) :
    (shortCircuit settles left right).length = left.length + 3 + right.length := by
  simp only [shortCircuit, List.length_append, List.length_map, List.length_cons,
    List.length_nil]

theorem getElem?_shortCircuit {k : Nat} (hk : k < 3) (settles : Bool)
    (left right : List Instruction) : (shortCircuit settles left right)[left.length + k]? =
      [.dup, .jumpIf settles (left.length + 3 + right.length), .pop][k]? := by
  rw [shortCircuit, List.append_assoc, List.getElem?_append_right (Nat.le_add_right _ _),
    Nat.add_sub_cancel_left, List.getElem?_append_left hk]

theorem Forward.shortCircuit (hleft : Forward left) (hright : Forward right) (settles : Bool) :
    Forward (shortCircuit settles left right) := by
  intro pc target h
  rw [length_shortCircuit]
  rw [Probe.shortCircuit, List.append_assoc, jumpAt?_append] at h
  split at h
  · have hfine := hleft pc target h
    omega
  · obtain ⟨k, rfl⟩ : ∃ k, pc = left.length + k := ⟨pc - left.length, by omega⟩
    rw [Nat.add_sub_cancel_left] at h
    match k with
    | 0 | 2 => cases h
    | 1 =>
      cases h
      omega
    | k + 3 =>
      have hmoved : (jumpAt? right k).map (· + (left.length + 3)) = some target := by
        rw [← jumpAt?_relocate]
        exact h
      obtain ⟨target', h', rfl⟩ := Option.map_eq_some_iff.1 hmoved
      have hfine := hright k target' h'
      omega

namespace Machine

theorem Loops.append {p : Code} (h : Loops setup p.instructions pc s vs (.ok (), s'))
    (hpc : pc ≤ p.length) (his : p.instructions <+: is)
    (h' : Loops setup is p.length s' vs' result) : Loops setup is pc s (vs ++ vs') result := by
  have hsame {pc : Nat} {i} (hi : p.instructions[pc]? = some i) : is[pc]? = some i := by
    obtain ⟨js, rfl⟩ := his
    rw [List.getElem?_append_left (List.getElem?_eq_some_iff.1 hi).1, hi]
  generalize hend : (Except.ok (), s') = ended at h
  induction h with
  | @done pc _ hi =>
    cases hend
    obtain rfl : pc = p.length := Nat.le_antisymm hpc (List.getElem?_eq_none_iff.1 hi)
    exact h'
  | stopped => cases hend
  | failed => cases hend
  | round hi hc he _ ih => exact .round (hsame hi) hc he (ih (lt_nextIndex hi he).2 hend)

/-- The visit to the same instruction of code that stands `n` places further on. -/
def Visit.relocate (n : Nat) (v : Visit η κ) : Visit η κ :=
  ⟨⟨v.site.pc + n, v.site.instruction.relocate n⟩, v.state⟩

theorem execute_relocate {setup : Setup η κ}
    (h : execute (setup.later n) ⟨pc, i⟩ s = (answer, s')) :
    execute setup ⟨pc + n, i.relocate n⟩ s =
      ((answer.map (·.map (· + n))).mapError (·.map (·.relocate n)), s') := by
  have hmoved := (compatible_relocated setup n pc i).execute_bind (fun _ => trivial)
    (f := fun next => pure (next.map (· + n))) (g := pure) fun _ => rfl
  rw [bind_pure] at hmoved
  rw [hmoved]
  simp only [relocated, Action.mapError, Action.bind_apply, h]
  cases answer <;> rfl

theorem nextIndex_relocate (n pc : Nat) (next : Option Nat) :
    nextIndex (pc + n) (next.map (· + n)) = nextIndex pc next + n := by
  cases next with
  | none => exact Nat.add_right_comm pc n 1
  | some target => rfl

/-- Behind other instructions, with its jumps moved, code goes on as it does by itself. -/
theorem Loops.relocate {setup : Setup η κ} (h : Loops (setup.later n) is pc s vs result)
    (js : List Instruction) (hjs : js.length = n) :
    Loops setup (js ++ is.map (·.relocate n)) (pc + n) s (vs.map (Visit.relocate n))
      (result.1.mapError (·.map (·.relocate n)), result.2) := by
  have hmoved {pc : Nat} {i?} (hi : is[pc]? = i?) :
      (js ++ is.map (·.relocate n))[pc + n]? = i?.map (·.relocate n) := by
    rw [← hjs, Nat.add_comm, List.getElem?_append_right (Nat.le_add_right _ _),
      Nat.add_sub_cancel_left, List.getElem?_map, hi]
  induction h with
  | done hi => exact .done (hmoved hi)
  | @stopped pc _ s _ _ hi hc =>
    have hc' := congrFun ((steady_checkpoint (setup.later n) pc).relocated n) s
    simp only [relocated, Action.mapError, hc] at hc'
    exact .stopped (hmoved hi) (hc.trans hc')
  | failed hi hc he => exact .failed (hmoved hi) hc (execute_relocate he)
  | round hi hc he _ ih =>
    rw [← nextIndex_relocate] at ih
    exact .round (hmoved hi) hc (execute_relocate he) ih

theorem execute_dup {setup : Setup η κ} (hroom : rest.length + 1 < setup.maxStack) :
    execute setup ⟨pc, .dup⟩ ⟨operand :: rest, names, w⟩ =
      (.ok none, ⟨operand :: operand :: rest, names, w⟩) := by
  have hroom' : rest.length < setup.maxStack := Nat.lt_of_succ_lt hroom
  simp only [execute, effect, pop, push, Action.bind_apply, Action.read, Action.modify, require,
    Action.require, Action.pure_apply, List.length_cons, hroom, hroom', if_true]

section
variable {setup : Setup η κ} {t : State η κ}

theorem checkpoint_of_live (hlive : t.isCancelled setup.run = false)
    (hexpired : setup.expired pc = false) (stack : List Operand) :
    checkpoint setup pc { t with stack } = (.ok (), { t with stack }) := by
  have h := checkpoint_of_not_cancelled (s := { t with stack }) hlive pc
  rwa [hexpired] at h

/-- The visits to the copying of the left operand and to the jump that looks at the copy. -/
def decision (settles : Bool) (p q : Code) (b : Bool) (t : State η κ) : List (Visit η κ) :=
  [⟨⟨p.length, .dup⟩, t⟩, ⟨⟨p.length + 1, .jumpIf settles (p.length + 3 + q.length)⟩,
    { t with stack := .value (.boolean b) :: t.stack }⟩]

variable (hs : t.stack = .value (.boolean b) :: rest) (hroom : rest.length + 1 < setup.maxStack)
  (hlive : t.isCancelled setup.run = false) (hexpired : ∀ pc, setup.expired pc = false)
include hs hroom hlive hexpired

theorem loops_decision {p q : Code}
    (h : Loops setup (shortCircuit settles p.instructions q.instructions)
      (if b = settles then p.length + 3 + q.length else p.length + 2) t vs result) :
    Loops setup (shortCircuit settles p.instructions q.instructions) p.length t
      (decision settles p q b t ++ vs) result := by
  have hget {k : Nat} (hk : k < 3) := getElem?_shortCircuit hk settles p.instructions q.instructions
  obtain ⟨_, names, w⟩ := t
  obtain rfl := hs
  apply Loops.round (hget (k := 0) (by decide)) (checkpoint_of_live hlive (hexpired _) _)
    (execute_dup hroom)
  apply Loops.round (hget (k := 1) (by decide)) (checkpoint_of_live hlive (hexpired _) _) rfl
  by_cases hb : b = settles
  · rw [if_pos hb] at h ⊢
    exact h
  · rw [if_neg hb] at h ⊢
    exact h

theorem loops_settled (hb : b = settles) (p q : Code) :
    Loops setup (shortCircuit settles p.instructions q.instructions) p.length t
      (decision settles p q b t) (.ok (), t) := by
  have hend : (shortCircuit settles p.instructions q.instructions)[p.length + 3 + q.length]? =
      none := by
    rw [List.getElem?_eq_none_iff, length_shortCircuit]
    exact Nat.le_refl _
  rw [← List.append_nil (decision settles p q b t)]
  apply loops_decision hs hroom hlive hexpired
  rw [if_pos hb]
  exact .done hend

theorem loops_unsettled {p q : Code} (hb : b ≠ settles)
    (h : Loops setup q.instructions 0 { t with stack := rest } vs result) :
    Loops setup (shortCircuit settles p.instructions q.instructions) p.length t
      (decision settles p q b t ++
        ⟨⟨p.length + 2, .pop⟩, t⟩ :: vs.map (Visit.relocate (p.length + 3)))
      (result.1.mapError (·.map (·.relocate (p.length + 3))), result.2) := by
  rw [← Setup.later_of_unlimited hexpired (p.length + 3)] at h
  have hright := h.relocate
    (p.instructions ++ [.dup, .jumpIf settles (p.length + 3 + q.length), .pop]) List.length_append
  rw [Nat.zero_add] at hright
  apply loops_decision hs hroom hlive hexpired
  rw [if_neg hb]
  obtain ⟨_, names, w⟩ := t
  obtain rfl := hs
  exact .round (getElem?_shortCircuit (by decide) ..) (checkpoint_of_live hlive (hexpired _) _) rfl
    hright

end

/-- Operands can be put together by a short circuit. Where the left one ends with a boolean on
top of the stack and room for a copy, a value that settles the result ends the run in that very
state, with no visit to the right operand. Otherwise all that follows is what the right operand
does by itself without that boolean, with complaints about the code naming other places. -/
theorem shortCircuit_runs (p q : Code) (settles : Bool) (source : String) :
    ∃ code, Code.ofList source (shortCircuit settles p.instructions q.instructions) = .ok code ∧
      ∀ (setup : Setup η κ) (s t : State η κ) (b : Bool) (rest : List Operand),
        runFrom setup 0 0 p.instructions s = (.ok (), t) →
        t.stack = .value (.boolean b) :: rest → rest.length + 1 < setup.maxStack →
        t.isCancelled setup.run = false → (∀ pc, setup.expired pc = false) →
        (b = settles →
          runFrom setup 0 0 code.instructions s = (.ok (), t) ∧
          visitsFrom setup 0 0 code.instructions s =
            visitsFrom setup 0 0 p.instructions s ++ decision settles p q b t) ∧
        (b ≠ settles →
          runFrom setup 0 0 code.instructions s =
            relocated (p.length + 3) (runFrom setup 0 0 q.instructions) { t with stack := rest } ∧
          visitsFrom setup 0 0 code.instructions s =
            visitsFrom setup 0 0 p.instructions s ++ (decision settles p q b t ++
              ⟨⟨p.length + 2, .pop⟩, t⟩ ::
                (visitsFrom setup 0 0 q.instructions { t with stack := rest }).map
                  (Visit.relocate (p.length + 3)))) := by
  obtain ⟨code, haccepted⟩ : ∃ code, Code.ofList source _ = .ok code :=
    Code.accepts_iff.2 (p.forward_instructions.shortCircuit q.forward_instructions settles)
  obtain ⟨-, hcode⟩ := Code.ofList_eq_ok_iff.1 haccepted
  refine ⟨code, haccepted, ?_⟩
  intro setup s t b rest hleft hs hroom hlive hexpired
  have hwhole {vs result} (h : Loops setup (shortCircuit settles p.instructions q.instructions)
      p.length t vs result) : runFrom setup 0 0 code.instructions s = result ∧
        visitsFrom setup 0 0 code.instructions s = visitsFrom setup 0 0 p.instructions s ++ vs := by
    have hp : Loops setup p.instructions 0 s _ (.ok (), t) := loops_iff.2 ⟨rfl, hleft.symm⟩
    have his : p.instructions <+: code.instructions := by
      rw [hcode, shortCircuit, List.append_assoc]
      exact List.prefix_append _ _
    rw [← hcode] at h
    obtain ⟨hvisits, hrun⟩ := loops_iff.1 (hp.append (Nat.zero_le _) his h)
    exact ⟨hrun.symm, hvisits.symm⟩
  constructor
  · intro hb
    exact hwhole (loops_settled hs hroom hlive hexpired hb p q)
  · intro hb
    exact hwhole (loops_unsettled hs hroom hlive hexpired hb (loops_iff.2 ⟨rfl, rfl⟩))

/-- The right operand jumps and then finds the stack empty. The disjunction with a comparison
that holds passes over it, and the conjunction fails at the new place of its last
instruction. -/
theorem shortCircuit_runs_comparison :
    let left : Code := ⟨"1 < 2", [.push (.int 1), .push (.int 2), .binary (.order .lt)], rfl⟩
    let right : Code := ⟨"fault", [.jump 2, .pushNull, .pop], rfl⟩
    (∃ code, Code.ofList "1 < 2 || fault"
          (shortCircuit true left.instructions right.instructions) = .ok code ∧
        runFrom shallowSetup 0 0 code.instructions (numberState []) =
          (.ok (), numberState [.value (.boolean true)]) ∧
        (visitsFrom shallowSetup 0 0 code.instructions (numberState [])).map (·.site.pc) =
          [0, 1, 2, 3, 4]) ∧
      ∃ code, Code.ofList "1 < 2 && fault"
          (shortCircuit false left.instructions right.instructions) = .ok code ∧
        runFrom shallowSetup 0 0 code.instructions (numberState []) =
          (.error (.error (.malformed (.underflow 8 .pop))), numberState []) ∧
        (visitsFrom shallowSetup 0 0 code.instructions (numberState [])).map (·.site.pc) =
          [0, 1, 2, 3, 4, 5, 6, 8] := by
  intro left right
  have hleft : runFrom shallowSetup 0 0 left.instructions (numberState []) =
      (.ok (), numberState [.value (.boolean true)]) := rfl
  constructor
  · obtain ⟨code, hcode, h⟩ := shortCircuit_runs left right true "1 < 2 || fault"
    obtain ⟨hrun, hvisits⟩ := (h _ _ _ true [] hleft rfl (by decide) rfl fun _ => rfl).1 rfl
    refine ⟨code, hcode, hrun, ?_⟩
    rw [hvisits]
    rfl
  · obtain ⟨code, hcode, h⟩ := shortCircuit_runs left right false "1 < 2 && fault"
    obtain ⟨hrun, hvisits⟩ := (h _ _ _ true [] hleft rfl (by decide) rfl fun _ => rfl).2 (by decide)
    refine ⟨code, hcode, hrun.trans rfl, ?_⟩
    rw [hvisits]
    rfl

end Machine

end Probe

import Probe.Proofs.Code.Jumps
import Probe.Proofs.Machine.Visits

namespace Probe.Machine
set_option autoImplicit true

/-- The loop, entered at index `pc`, makes these visits and ends with this result. -/
inductive Loops (setup : Setup η κ) (is : List Instruction) :
    Nat → State η κ → List (Visit η κ) → Except (Abrupt Failure) Unit × State η κ → Prop
  | done (hi : is[pc]? = none) : Loops setup is pc s [] (.ok (), s)
  | stopped (hi : is[pc]? = some i) (hc : checkpoint setup pc s = (.error e, s')) :
    Loops setup is pc s [] (.error e, s')
  | failed (hi : is[pc]? = some i) (hc : checkpoint setup pc s = (.ok (), s'))
    (he : execute setup ⟨pc, i⟩ s' = (.error e, s'')) :
    Loops setup is pc s [⟨⟨pc, i⟩, s'⟩] (.error e, s'')
  | round (hi : is[pc]? = some i) (hc : checkpoint setup pc s = (.ok (), s'))
    (he : execute setup ⟨pc, i⟩ s' = (.ok next, s''))
    (hrest : Loops setup is (nextIndex pc next) s'' vs result) :
    Loops setup is pc s (⟨⟨pc, i⟩, s'⟩ :: vs) result

/-- The visits are to instructions of the list, each at a higher index than the one before. -/
structure Ascending (is : List Instruction) (vs : List (Visit η κ)) : Prop where
  instructions : ∀ v ∈ vs, is[v.site.pc]? = some v.site.instruction
  increasing : (vs.map (·.site.pc)).Pairwise (· < ·)

theorem Loops.unique (h : Loops setup is pc s vs result) (h' : Loops setup is pc s vs' result') :
    vs' = vs ∧ result' = result := by
  induction h generalizing vs' result' with
  | done hi => cases h' <;> simp_all
  | stopped hi hc => cases h' <;> simp_all
  | failed hi hc he => cases h' <;> simp_all
  | round hi hc he _ ih =>
    cases h' with
    | round hi' hc' he' hrest' =>
      simp only [hi, Option.some.injEq] at hi'
      subst hi'
      simp only [hc, Prod.mk.injEq, true_and] at hc'
      subst hc'
      simp only [he, Prod.mk.injEq, Except.ok.injEq] at he'
      obtain ⟨rfl, rfl⟩ := he'
      obtain ⟨rfl, rfl⟩ := ih hrest'
      exact ⟨rfl, rfl⟩
    | _ => simp_all

theorem target?_of_execute {target : Nat}
    (h : execute setup ⟨pc, i⟩ s = (.ok (some target), s')) : i.target? = some target := by
  cases i with
  | jump target =>
    cases h
    rfl
  | jumpIf expected target =>
    obtain ⟨v, s₁, -, h⟩ := Action.bind_eq_ok.1 h
    cases v with
    | boolean b => by_cases hb : b = expected <;> simp_all [Instruction.target?]
    | _ => cases h
  | _ =>
    obtain ⟨_, s₁, -, h⟩ := Action.bind_eq_ok.1 h
    cases h

theorem lt_nextIndex {code : Code} (hi : code.instructions[pc]? = some i)
    (h : execute setup ⟨pc, i⟩ s = (.ok next, s')) :
    pc < nextIndex pc next ∧ nextIndex pc next ≤ code.length := by
  cases next with
  | none => exact ⟨Nat.lt_succ_self pc, (List.getElem?_eq_some_iff.1 hi).1⟩
  | some target => exact code.jump_forward hi (target?_of_execute h)

/-- A round leads to a higher index, so the visits that are still to come have higher
indices. -/
theorem Loops.ascending {code : Code} (h : Loops setup code.instructions pc s vs result) :
    Ascending code.instructions vs ∧ (∀ v ∈ vs, pc ≤ v.site.pc) ∧
      vs.length ≤ code.length - pc := by
  induction h with
  | done => exact ⟨⟨List.forall_mem_nil _, .nil⟩, List.forall_mem_nil _, Nat.zero_le _⟩
  | stopped => exact ⟨⟨List.forall_mem_nil _, .nil⟩, List.forall_mem_nil _, Nat.zero_le _⟩
  | @failed pc i s _ _ _ hi =>
    have hlt : pc < code.length := (List.getElem?_eq_some_iff.1 hi).1
    refine ⟨⟨by simpa using hi, List.pairwise_singleton _ _⟩, by simp, ?_⟩
    rw [List.length_singleton]
    omega
  | @round pc i s _ next _ vs result hi _ he _ ih =>
    obtain ⟨hup, hlow, hlen⟩ := ih
    have hlt : pc < code.length := (List.getElem?_eq_some_iff.1 hi).1
    obtain ⟨hnext, -⟩ := lt_nextIndex hi he
    refine ⟨⟨?_, ?_⟩, ?_, ?_⟩
    · exact List.forall_mem_cons.2 ⟨hi, hup.instructions⟩
    · apply List.Pairwise.cons ?_ hup.increasing
      intro index hindex
      obtain ⟨v, hv, rfl⟩ := List.mem_map.1 hindex
      exact Nat.lt_of_lt_of_le hnext (hlow v hv)
    · intro v hv
      rcases List.mem_cons.1 hv with rfl | hv
      · exact Nat.le_refl pc
      · exact Nat.le_trans (Nat.le_of_lt hnext) (hlow v hv)
    · rw [List.length_cons]
      omega

/-- Passing over instructions is going on with a higher index. -/
theorem loops_runFrom {code : Code} (his : code.instructions.drop pc = is)
    (hle : pc + skip ≤ code.length) :
    Loops setup code.instructions (pc + skip) s (visitsFrom setup pc skip is s)
      (runFrom setup pc skip is s) := by
  fun_induction visitsFrom setup pc skip is s with
  | case1 pc skip s =>
    have hpc : code.length ≤ pc := List.drop_eq_nil_iff.1 his
    have hend : code.instructions[pc + skip]? = none := by
      apply List.getElem?_eq_none
      exact Nat.le_trans hpc (Nat.le_add_right pc skip)
    cases skip <;> exact .done hend
  | case2 pc skip i rest s ih =>
    obtain ⟨-, hrest⟩ := split_of_drop his
    have hindex : pc + skip.succ = pc + 1 + skip := by omega
    rw [hindex] at hle ⊢
    exact ih hrest hle
  | case3 pc i rest s e s' hc =>
    obtain ⟨hi, -⟩ := split_of_drop his
    simp only [runFrom, Action.bind_apply, hc]
    exact .stopped hi hc
  | case4 pc i rest s s' hc ihnext ihjump =>
    obtain ⟨hi, hrest⟩ := split_of_drop his
    simp only [runFrom, Action.bind_apply, hc]
    rcases he : execute setup ⟨pc, i⟩ s' with ⟨e | next, s''⟩
    · exact .failed hi hc he
    · apply Loops.round hi hc he
      obtain ⟨hup, hend⟩ := lt_nextIndex hi he
      cases next with
      | none => exact ihnext s'' hrest hend
      | some target =>
        have hindex : pc + 1 + (target - (pc + 1)) = nextIndex pc (some target) := by
          simp only [nextIndex, Option.getD_some] at hup ⊢
          omega
        rw [← hindex] at hend ⊢
        exact ihjump target s'' hrest hend

theorem loops_iff {code : Code} : Loops setup code.instructions 0 s vs result ↔
    vs = visitsFrom setup 0 0 code.instructions s ∧
      result = runFrom setup 0 0 code.instructions s := by
  have hrun : Loops setup code.instructions (0 + 0) s (visitsFrom setup 0 0 code.instructions s)
      (runFrom setup 0 0 code.instructions s) := loops_runFrom List.drop_zero (Nat.zero_le _)
  constructor
  · intro h
    exact hrun.unique h
  · rintro ⟨hvs, hresult⟩
    rw [hvs, hresult]
    exact hrun

/-- A list is accepted exactly if its jumps lead forward, else its first bad jump is reported.
The loop over an accepted list ends in exactly one way. It visits rising indices and so executes
no instruction twice. -/
theorem accepted_runs_once (source : String) (is : List Instruction) :
    ((∃ code, Code.ofList source is = .ok code) ↔ Forward is) ∧
    (∀ e, Code.ofList source is = .error e ↔
      ∃ pc target, FirstBadJump is pc target ∧ e = .invalidJump pc target is.length) ∧
    ∀ code, Code.ofList source is = .ok code → code.instructions = is ∧
      ∀ (setup : Setup η κ) (s : State η κ), ∃ vs,
        (∀ vs' result, Loops setup is 0 s vs' result ↔
          vs' = vs ∧ result = runFrom setup 0 0 code.instructions s) ∧
        Ascending is vs ∧ (vs.map (·.site.pc)).Nodup ∧ vs.length ≤ is.length := by
  refine ⟨Code.accepts_iff, fun e => Code.ofList_eq_error_iff, ?_⟩
  intro code hcode
  obtain ⟨-, rfl⟩ := Code.ofList_eq_ok_iff.1 hcode
  refine ⟨rfl, ?_⟩
  intro setup s
  have hloops : Loops setup code.instructions 0 s _ _ := loops_iff.2 ⟨rfl, rfl⟩
  obtain ⟨hup, -, hlen⟩ := hloops.ascending
  have hnodup := hup.increasing.imp Nat.ne_of_lt
  exact ⟨_, fun vs' result => loops_iff, hup, hnodup, hlen⟩

end Probe.Machine

import Probe.Proofs.Machine.Effects

namespace Probe.Machine
set_option autoImplicit true

open Probe.Action (Keeps)

structure Visit (η κ : Type) where
  site : Site
  state : State η κ

def Visit.after (setup : Setup η κ) (v : Visit η κ) : State η κ :=
  (execute setup v.site v.state).2

/-- Where the run goes on after the instruction, given what its execution answers. -/
def nextIndex (pc : Nat) (answer : Option Nat) : Nat := answer.getD (pc + 1)

/-- The visits of a run from index `pc` on that first passes over `skip` instructions. -/
def visitsFrom (setup : Setup η κ) : Nat → Nat → List Instruction → State η κ → List (Visit η κ)
  | _, _, [], _ => []
  | pc, skip + 1, _ :: rest, s => visitsFrom setup (pc + 1) skip rest s
  | pc, 0, i :: rest, s =>
    match checkpoint setup pc s with
    | (.error _, _) => []
    | (.ok (), s) =>
      ⟨⟨pc, i⟩, s⟩ ::
        match execute setup ⟨pc, i⟩ s with
        | (.error _, _) => []
        | (.ok none, s) => visitsFrom setup (pc + 1) 0 rest s
        | (.ok (some target), s) => visitsFrom setup (pc + 1) (target - (pc + 1)) rest s

/-- The visits of a run of some code, of which there are none if the code is refused. -/
def visits (setup : Setup η κ) (code : Code) (w : World η κ) : List (Visit η κ) :=
  if setup.mayChange || !code.hasSideEffects then
    visitsFrom setup 0 0 code.instructions ⟨[], .empty, w⟩
  else []

theorem split_of_drop {is : List Instruction} (h : is.drop pc = i :: rest) :
    is[pc]? = some i ∧ is.drop (pc + 1) = rest := by
  constructor
  · rw [← List.head?_drop, h]
    rfl
  · rw [← List.tail_drop, h]
    rfl

theorem mem_of_visitsFrom {v : Visit η κ} (hv : v ∈ visitsFrom setup pc skip is s) :
    v.site.instruction ∈ is := by
  fun_induction visitsFrom setup pc skip is s with
  | case1 => cases hv
  | case2 pc skip i rest s ih => exact List.mem_cons_of_mem _ (ih hv)
  | case3 => cases hv
  | case4 pc i rest s s' hc ihnext ihjump =>
    rcases List.mem_cons.1 hv with rfl | hv
    · exact List.mem_cons_self
    · split at hv
      · cases hv
      · exact List.mem_cons_of_mem _ (ihnext _ hv)
      · exact List.mem_cons_of_mem _ (ihjump _ _ hv)

/-- A relation holds from a first state to a last one, and so it does up to each visit between
them and from behind it on. -/
structure Spans (setup : Setup η κ) (R : State η κ → State η κ → Prop) (first : State η κ)
    (vs : List (Visit η κ)) (last : State η κ) : Prop where
  whole : R first last
  before : ∀ v ∈ vs, R first v.state
  behind : ∀ v ∈ vs, R (v.after setup) last

section
variable {R : State η κ → State η κ → Prop} [IsPreorder (State η κ) R]

theorem Spans.cons {v : Visit η κ} (hv : R v.state (v.after setup))
    (h : Spans setup R (v.after setup) vs last) : Spans setup R v.state (v :: vs) last where
  whole := IsTrans.trans _ _ _ hv h.whole
  before u hu := by
    rcases List.mem_cons.1 hu with rfl | hu
    · exact refl _
    · exact IsTrans.trans _ _ _ hv (h.before u hu)
  behind u hu := by
    rcases List.mem_cons.1 hu with rfl | hu
    · exact h.whole
    · exact h.behind u hu

theorem spans_visitsFrom
    (hstep : ∀ v ∈ visitsFrom setup pc skip is s, R v.state (v.after setup)) :
    Spans setup R s (visitsFrom setup pc skip is s) (runFrom setup pc skip is s).2 := by
  fun_induction visitsFrom setup pc skip is s with
  | case1 => exact ⟨refl _, List.forall_mem_nil _, List.forall_mem_nil _⟩
  | case2 pc skip i rest s ih => exact ih hstep
  | case3 pc i rest s e s' hc =>
    have hs := silent_checkpoint setup pc s
    simp only [runFrom, Action.bind_apply, hc] at hs ⊢
    exact ⟨hs ▸ refl _, List.forall_mem_nil _, List.forall_mem_nil _⟩
  | case4 pc i rest s s' hc ihnext ihjump =>
    have hs := silent_checkpoint setup pc s
    rw [hc] at hs
    subst hs
    obtain ⟨hhere, hrest⟩ := List.forall_mem_cons.1 hstep
    refine Spans.cons (v := ⟨⟨pc, i⟩, s⟩) hhere ?_
    simp only [runFrom, Action.bind_apply, hc, Visit.after] at hrest ⊢
    rcases he : execute setup ⟨pc, i⟩ s with ⟨e | target, s''⟩
    · exact ⟨refl _, List.forall_mem_nil _, List.forall_mem_nil _⟩
    · rw [he] at hrest
      cases target with
      | none => exact ihnext s'' hrest
      | some target => exact ihjump target s'' hrest

end

theorem run_world (setup : Setup η κ) (code : Code) (w : World η κ)
    (h : setup.mayChange || !code.hasSideEffects) :
    (run setup code w).2 = (runFrom setup 0 0 code.instructions ⟨[], .empty, w⟩).2.world := by
  have hend : Action.Silent (finish code.length : Exec η κ Value) := silent_finish _
  simp only [run, runCode, Action.bind_apply, require, Action.require, h, if_true]
  rcases runFrom setup 0 0 code.instructions ⟨[], .empty, w⟩ with ⟨_ | _, s⟩
  · rfl
  · exact congrArg State.world (hend s).symm

theorem run_refused {setup : Setup η κ} {code : Code} {w : World η κ}
    (h : (setup.mayChange || !code.hasSideEffects) = false) : (run setup code w).2 = w := by
  simp only [run, runCode, Action.bind_apply, require, Action.require, h]
  rfl

/-- What the visited instructions keep of the world, a run keeps, whatever it ends with. -/
theorem seen_visits {T : World η κ → World η κ → Prop} [IsPreorder (World η κ) T]
    {setup : Setup η κ} {code : Code} {w : World η κ}
    (hstep : ∀ v ∈ visits setup code w, Seen T v.state (v.after setup)) :
    Spans setup (Seen T) ⟨[], .empty, w⟩ (visits setup code w)
      ⟨[], .empty, (run setup code w).2⟩ := by
  cases h : setup.mayChange || !code.hasSideEffects with
  | true =>
    have hv : visits setup code w = visitsFrom setup 0 0 code.instructions ⟨[], .empty, w⟩ := by
      simp only [visits, h, if_true]
    rw [hv] at hstep ⊢
    obtain ⟨hw, hb, ha⟩ := spans_visitsFrom hstep
    rw [run_world setup code w h]
    exact ⟨hw, hb, ha⟩
  | false =>
    have hv : visits setup code w = [] := by simp [visits, h]
    rw [run_refused h, hv]
    exact ⟨refl _, List.forall_mem_nil _, List.forall_mem_nil _⟩

theorem hasSideEffects_of_visits {v : Visit η κ} (hset : setup.mayChange = false)
    (hv : v ∈ visits setup code w) : v.site.instruction.hasSideEffects = false := by
  unfold visits at hv
  split at hv
  · rename_i h
    have hall : code.hasSideEffects = false := by simpa [hset] using h
    exact Bool.eq_false_iff.2 (List.any_eq_false.1 hall _ (mem_of_visitsFrom hv))
  · cases hv

end Probe.Machine

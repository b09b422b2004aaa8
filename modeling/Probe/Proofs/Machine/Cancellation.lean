import Mathlib.Data.List.Forall2
import Probe.Evaluator
import Probe.Proofs.Machine.Loop
import Probe.Proofs.Machine.StackLimit

namespace Probe
set_option autoImplicit true

namespace Action

/-- From related states the second action answers like the first, and the states stay
related. -/
def Mirrors (R : σ → σ → Prop) (x y : Action σ ε α) : Prop :=
  ∀ s s', R s s' → (y s').1 = (x s).1 ∧ R (x s).2 (y s').2

namespace Mirrors
variable {R : σ → σ → Prop}

theorem pure (a : α) : Mirrors R (pure a : Action σ ε α) (pure a) := fun _ _ h => ⟨rfl, h⟩

theorem fail (e : ε) : Mirrors R (fail e : Action σ ε α) (fail e) := fun _ _ h => ⟨rfl, h⟩

theorem ofExcept (r : Except ε α) : Mirrors R (ofExcept r) (ofExcept r) := fun _ _ h => ⟨rfl, h⟩

theorem attempt {x y : Action σ ε α} (h : Mirrors R x y) :
    Mirrors R (attempt x : Action σ δ (Except ε α)) (attempt y) := by
  intro s s' hs
  obtain ⟨hanswer, hstate⟩ := h s s' hs
  exact ⟨congrArg Except.ok hanswer, hstate⟩

theorem bind {x y : Action σ ε α} {f g : α → Action σ ε β} (h : Mirrors R x y)
    (hf : ∀ a, Mirrors R (f a) (g a)) : Mirrors R (x >>= f) (y >>= g) := by
  intro s s' hs
  obtain ⟨hanswer, hstate⟩ := h s s' hs
  rw [bind_apply, bind_apply]
  rcases hx : x s with ⟨e | a, t⟩ <;> rcases hy : y s' with ⟨e' | a', t'⟩ <;>
    rw [hx, hy] at hanswer hstate <;> cases hanswer
  · exact ⟨rfl, hstate⟩
  · exact hf a t t' hstate

end Mirrors

end Action

open Probe.Action (Keeps Mirrors)

/-- The runs whose cancellation is hidden, from the time when so many runs were numbered. -/
structure Veil where
  hides : Nat → Bool
  started : Nat := 0

/-- Hides one run. Those that are numbered later are not hidden. -/
def Veil.only (run : Nat) : Veil := ⟨(· == run), run + 1⟩

/-- The hidden runs of the first list, and the others of the second. -/
def Veil.keep (veil : Veil) (old new : List Nat) : List Nat :=
  old.filter veil.hides ++ new.filter (!veil.hides ·)

namespace World
variable {veil : Veil}

def withCancelled (w : World η κ) (cancelled : List Nat) : World η κ :=
  { w with runs := { w.runs with cancelled } }

/-- The worlds differ in the cancellations of hidden runs only. -/
def SameButCancelled (veil : Veil) (w w' : World η κ) : Prop :=
  ∃ cancelled, w' = w.withCancelled cancelled ∧ veil.started ≤ w.runs.started ∧
    ∀ run, veil.hides run = false → cancelled.contains run = w.runs.isCancelled run

theorem SameButCancelled.refl {w : World η κ} (h : veil.started ≤ w.runs.started) :
    SameButCancelled veil w w :=
  ⟨w.runs.cancelled, rfl, h, fun _ _ => rfl⟩

theorem mirrors_remote (r : Remote η α) :
    Mirrors (SameButCancelled veil) (remote r : Call η κ α) (remote r) := by
  rintro w _ ⟨cancelled, rfl, hrest⟩
  exact ⟨rfl, cancelled, rfl, hrest⟩

theorem composable_mirrors {hooks hooks' : Hooks η κ}
    (hh : ∀ label args, Mirrors (SameButCancelled veil) (hooks label args) (hooks' label args)) :
    Composable hooks hooks' fun _ => Mirrors (SameButCancelled veil) where
  ofExcept r := .ofExcept r
  bind hx hf := hx.bind hf
  attempt hx := hx.attempt
  contact c := mirrors_remote c.make
  hook := hh

end World

namespace Machine
variable {veil : Veil}

/-- The machines differ in the cancellations of hidden runs only. -/
def SameButCancelled (veil : Veil) (s s' : State η κ) : Prop :=
  ∃ w, s' = { s with world := w } ∧ World.SameButCancelled veil s.world w

theorem mirrors_call {c c' : Call η κ α} (h : Mirrors (World.SameButCancelled veil) c c') :
    Mirrors (SameButCancelled veil) (call c) (call c') := by
  rintro s _ ⟨w, rfl, hw⟩
  obtain ⟨hanswer, hafter⟩ := h s.world w hw
  exact ⟨congrArg (·.mapError (·.map Failure.ofRemote)) hanswer, _, rfl, hafter⟩

/-- What does not look at the world and leaves it alone looks at no cancellation. -/
theorem mirrors_of_inside {x : Exec η κ α}
    (hx : ∀ s w, x { s with world := w } = ((x s).1, { (x s).2 with world := w }))
    (hs : Keeps Inside x) : Mirrors (SameButCancelled veil) x x := by
  rintro s _ ⟨w, rfl, hw⟩
  rw [hx s w]
  exact ⟨rfl, w, rfl, (show s.world = (x s).2.world from hs s) ▸ hw⟩

theorem mirrors_push (setup : Setup η κ) (site : Site) (operand : Operand) :
    Mirrors (SameButCancelled veil) (push setup site operand) (push setup site operand) := by
  refine mirrors_of_inside ?_ (inside_push setup site operand)
  intro s w
  let s' : State η κ := { s with world := w }
  by_cases hroom : s.stack.length < setup.maxStack
  · have hroom' : s'.stack.length < setup.maxStack := hroom
    rw [push_of_room hroom, push_of_room hroom']
  · have hroom' : ¬s'.stack.length < setup.maxStack := hroom
    rw [push_of_full hroom, push_of_full hroom']

theorem mirrors_pop (site : Site) :
    Mirrors (SameButCancelled veil) (pop site : Exec η κ Operand) (pop site) := by
  refine mirrors_of_inside ?_ (inside_pop site)
  rintro ⟨stack, temporaries, world⟩ w
  cases stack <;> rfl

theorem mirrors_finish (length : Nat) :
    Mirrors (SameButCancelled veil) (finish length : Exec η κ Value) (finish length) := by
  refine mirrors_of_inside ?_ (.of_silent (silent_finish length))
  rintro ⟨stack, temporaries, world⟩ w
  rcases stack with _ | ⟨v | t, _ | ⟨o, rest⟩⟩ <;> rfl

theorem compatible_mirrors {setup : Setup η κ} {hooks' : Hooks η κ}
    (hh : ∀ label args,
      Mirrors (World.SameButCancelled veil) (setup.hooks label args) (hooks' label args))
    (site : Site) : Compatible {} setup { setup with hooks := hooks' } site site
      fun _ => Mirrors (SameButCancelled veil) where
  pure a := .pure a
  bind hx hf := hx.bind hf
  fail _ := .fail _
  crash _ := .fail _
  names f := by
    rintro s _ ⟨w, rfl, hw⟩
    exact ⟨rfl, w, rfl, hw⟩
  ask r _ _ _ hf := (mirrors_call (World.mirrors_remote r.send.attempt)).bind fun answer =>
    hf answer (Conditions.allows_of_live rfl _ answer)
  perform callee name signature args _ _ _ hf := by
    have hperform : Mirrors (World.SameButCancelled veil)
        (perform setup callee name signature args)
        (perform { setup with hooks := hooks' } callee name signature args) :=
      rel_perform (World.composable_mirrors hh) callee name signature args
    exact (mirrors_call hperform.attempt).bind fun answer =>
      hf answer (Conditions.allows_of_live rfl _ answer)
  expect _ e := by
    rintro s _ ⟨_, rfl, cancelled, rfl, hrest⟩
    exact ⟨rfl, _, rfl, cancelled, rfl, hrest⟩
  withdraw _ token := by
    rintro s _ ⟨_, rfl, cancelled, rfl, hrest⟩
    exact ⟨rfl, _, rfl, cancelled, rfl, hrest⟩
  pop := mirrors_pop site
  unexpected _ := .fail _
  push operand := mirrors_push setup site operand

def State.cancel (s : State η κ) (run : Nat) : State η κ :=
  { s with world := { s.world with runs := s.world.runs.cancel run } }

def State.isCancelled (s : State η κ) (run : Nat) : Bool := s.world.runs.isCancelled run

/-- When others cancel a run: at which indices they do so as an instruction begins, when it is
too late for it to be stopped, and at which as it ends. -/
structure Signals where
  first : Nat → Bool
  last : Nat → Bool

def Signals.none : Signals := ⟨fun _ => false, fun _ => false⟩

def executeAmid (setup : Setup η κ) (signals : Signals) (site : Site) : Exec η κ (Option Nat) :=
  fun s =>
    let (answer, s') := execute setup site (if signals.first site.pc then s.cancel setup.run else s)
    (answer, if signals.last site.pc then s'.cancel setup.run else s')

/-- A run from the outside: the visits it makes, what it ends with and the state it leaves. -/
structure Trace (η κ α σ : Type) where
  visits : List (Visit η κ)
  result : Except (Abrupt Failure) α
  last : σ

def Trace.cons (t : Trace η κ α σ) (v : Visit η κ) : Trace η κ α σ :=
  { t with visits := v :: t.visits }

/-- The run from index `pc` on, after passing over `skip` instructions. Others may cancel it. -/
def traceFrom (setup : Setup η κ) (signals : Signals) :
    Nat → Nat → List Instruction → State η κ → Trace η κ Unit (State η κ)
  | _, _, [], s => ⟨[], .ok (), s⟩
  | pc, skip + 1, _ :: rest, s => traceFrom setup signals (pc + 1) skip rest s
  | pc, 0, i :: rest, s =>
    match checkpoint setup pc s with
    | (.error e, s) => ⟨[], .error e, s⟩
    | (.ok (), s) =>
      match executeAmid setup signals ⟨pc, i⟩ s with
      | (.error e, s') => ⟨[⟨⟨pc, i⟩, s⟩], .error e, s'⟩
      | (.ok next, s') =>
        (traceFrom setup signals (pc + 1) (nextIndex pc next - (pc + 1)) rest s').cons ⟨⟨pc, i⟩, s⟩

def Trace.finish (t : Trace η κ Unit (State η κ)) (length : Nat) : Trace η κ Value (World η κ) :=
  ⟨t.visits, t.result.bind fun _ => (Machine.finish length t.last).1, t.last.world⟩

/-- The run of some code in a new machine, while others may cancel it. -/
def trace (setup : Setup η κ) (signals : Signals) (code : Code) (w : World η κ) :
    Trace η κ Value (World η κ) :=
  if setup.mayChange || !code.hasSideEffects then
    (traceFrom setup signals 0 0 code.instructions ⟨[], .empty, w⟩).finish code.length
  else ⟨[], .error (.error (.expression .sideEffectsNotAllowed)), w⟩

/-- The run is found to be cancelled once the visited instruction has been executed. -/
def Visit.endsCancelled (setup : Setup η κ) (signals : Signals) (v : Visit η κ) : Bool :=
  (executeAmid setup signals v.site v.state).2.isCancelled setup.run

section
variable {setup : Setup η κ} {signals : Signals} {s : State η κ}

theorem execute_of_executeAmid (h : executeAmid setup signals site s = (answer, t)) :
    ∃ s' t', execute setup site s' = (answer, t') := by
  have hanswer : (executeAmid setup signals site s).1 = answer := by rw [h]
  exact ⟨_, _, Prod.ext hanswer rfl⟩

theorem checkpoint_of_cancelled (h : s.isCancelled setup.run = true) (pc : Nat) :
    checkpoint setup pc s = (.error (.error .cancelled), s) := by
  unfold State.isCancelled at h
  simp only [checkpoint, Action.bind_apply, Action.read, require, Action.require, h]
  rfl

theorem checkpoint_of_not_cancelled (h : s.isCancelled setup.run = false) (pc : Nat) :
    checkpoint setup pc s =
      (if setup.expired pc then .error (.error .timedOut) else .ok (), s) := by
  unfold State.isCancelled at h
  simp only [checkpoint, Action.bind_apply, Action.read, require, Action.require, h]
  cases setup.expired pc <;> rfl

theorem traceFrom_quiet (pc skip : Nat) (is : List Instruction) (s : State η κ) :
    traceFrom setup .none pc skip is s =
      ⟨visitsFrom setup pc skip is s, (runFrom setup pc skip is s).1,
        (runFrom setup pc skip is s).2⟩ := by
  have hquiet (site : Site) : executeAmid setup .none site = execute setup site := rfl
  fun_induction visitsFrom setup pc skip is s with
  | case1 pc skip s => cases skip <;> rfl
  | case2 pc skip i rest s ih => exact ih
  | case3 pc i rest s e s' hc => simp only [traceFrom, runFrom, Action.bind_apply, hc]
  | case4 pc i rest s s' hc ihnext ihjump =>
    simp only [traceFrom, runFrom, Action.bind_apply, hc, hquiet]
    rcases execute setup ⟨pc, i⟩ s' with ⟨e | next, s''⟩
    · rfl
    · cases next with
      | none => simp only [nextIndex, Option.getD_none, Nat.sub_self, ihnext, Trace.cons]
      | some target => simp only [nextIndex, Option.getD_some, ihjump, Trace.cons]

theorem trace_of_refused (h : (setup.mayChange || !code.hasSideEffects) = false) :
    trace setup signals code w = ⟨[], .error (.error (.expression .sideEffectsNotAllowed)), w⟩ := by
  simp only [trace, h]
  rfl

theorem trace_of_allowed (h : (setup.mayChange || !code.hasSideEffects) = true) :
    trace setup signals code w =
      (traceFrom setup signals 0 0 code.instructions ⟨[], .empty, w⟩).finish code.length := by
  simp only [trace, h, if_true]

theorem trace_quiet (setup : Setup η κ) (code : Code) (w : World η κ) :
    trace setup .none code w =
      ⟨visits setup code w, (run setup code w).1, (run setup code w).2⟩ := by
  cases h : setup.mayChange || !code.hasSideEffects with
  | false =>
    rw [trace_of_refused h]
    simp only [visits, run, runCode, Action.bind_apply, require, Action.require, h]
    rfl
  | true =>
    rw [trace_of_allowed h, run_world setup code w h]
    simp only [visits, run, runCode, Action.bind_apply, require, Action.require, h, if_true,
      traceFrom_quiet]
    rcases runFrom setup 0 0 code.instructions ⟨[], .empty, w⟩ with ⟨e | _, s⟩ <;> rfl

theorem traceFrom_of_stop (hstop : checkpoint setup (pc + skip) s = (.error e, s))
    (is : List Instruction) : traceFrom setup signals pc skip is s =
      ⟨[], if skip < is.length then .error e else .ok (), s⟩ := by
  induction is generalizing pc skip with
  | nil => cases skip <;> rfl
  | cons i is ih =>
    cases skip with
    | zero =>
      simp only [traceFrom, show checkpoint setup pc s = _ from hstop]
      rfl
    | succ skip =>
      have hnext : pc + (skip + 1) = pc + 1 + skip := by omega
      rw [hnext] at hstop
      simp only [traceFrom, ih hstop, List.length_cons, Nat.succ_lt_succ_iff]

theorem checkpoint_of_expired (h : s.isCancelled setup.run = false)
    (hexpired : setup.expired pc = true) :
    checkpoint setup pc s = (.error (.error .timedOut), s) := by
  rw [checkpoint_of_not_cancelled h, hexpired]
  rfl

theorem Trace.finish_if (due : Prop) [Decidable due] (e : Abrupt Failure) (vs : List (Visit η κ))
    (s : State η κ) (length : Nat) :
    Trace.finish ⟨vs, if due then .error e else .ok (), s⟩ length =
      ⟨vs, if due then .error e else (Machine.finish length s).1, s.world⟩ := by
  split <;> rfl

theorem trace_of_stop (hallowed : (setup.mayChange || !code.hasSideEffects) = true)
    (hstop : checkpoint setup 0 ⟨[], .empty, w⟩ = (.error e, ⟨[], .empty, w⟩)) :
    trace setup signals code w =
      ⟨[], if 0 < code.length then .error e else .error (.error (.malformed (.resultCount 0))),
        w⟩ := by
  rw [trace_of_allowed hallowed, traceFrom_of_stop hstop, Trace.finish_if]
  rfl

/-- Once an instruction has ended and the run has to stop, it fails with the instruction, stops
before the next one or has come to its end. -/
theorem traceFrom_of_stop_after {code : Code} {v : Visit η κ}
    (his : code.instructions.drop pc = is)
    (hv : v ∈ (traceFrom setup signals pc skip is s).visits)
    (hstop : ∀ next s', executeAmid setup signals v.site v.state = (.ok next, s') →
      checkpoint setup (nextIndex v.site.pc next) s' = (.error e, s')) :
    ∃ before, traceFrom setup signals pc skip is s =
      match executeAmid setup signals v.site v.state with
      | (.error e, s') => ⟨before ++ [v], .error e, s'⟩
      | (.ok next, s') => ⟨before ++ [v],
          if nextIndex v.site.pc next < code.length then .error e else .ok (), s'⟩ := by
  fun_induction traceFrom setup signals pc skip is s with
  | case1 => cases hv
  | case2 pc skip i rest s ih =>
    obtain ⟨-, hrest⟩ := split_of_drop his
    exact ih hrest hv
  | case3 => cases hv
  | case4 pc i rest s s' hcheck e s'' he =>
    obtain rfl := List.mem_singleton.1 hv
    refine ⟨[], ?_⟩
    simp only [he]
    rfl
  | case5 pc i rest s s' hcheck next s'' he ih =>
    obtain ⟨hi, hrest⟩ := split_of_drop his
    rcases List.mem_cons.1 hv with rfl | hv
    · refine ⟨[], ?_⟩
      obtain ⟨_, _, hexecute⟩ := execute_of_executeAmid he
      obtain ⟨hup, -⟩ := lt_nextIndex hi hexecute
      have hlength : rest.length = code.length - (pc + 1) := by
        rw [← hrest, List.length_drop]
        rfl
      have hmore : nextIndex pc next - (pc + 1) < rest.length ↔
          nextIndex pc next < code.length := by omega
      have hnext : pc + 1 + (nextIndex pc next - (pc + 1)) = nextIndex pc next := by omega
      have hdue := hstop next s'' he
      rw [← hnext] at hdue
      simp only [he, traceFrom_of_stop hdue, hmore]
      rfl
    · obtain ⟨before, hbefore⟩ := ih hrest hv
      refine ⟨⟨⟨pc, i⟩, s'⟩ :: before, ?_⟩
      rw [hbefore]
      rcases executeAmid setup signals v.site v.state with ⟨e | next', last⟩ <;> rfl

theorem trace_of_stop_after {v : Visit η κ} (hv : v ∈ (trace setup signals code w).visits)
    (hstop : ∀ next s', executeAmid setup signals v.site v.state = (.ok next, s') →
      checkpoint setup (nextIndex v.site.pc next) s' = (.error e, s')) :
    ∃ before, trace setup signals code w =
      match executeAmid setup signals v.site v.state with
      | (.error e, s) => ⟨before ++ [v], .error e, s.world⟩
      | (.ok next, s) => ⟨before ++ [v],
          if nextIndex v.site.pc next < code.length then .error e
          else (Machine.finish code.length s).1, s.world⟩ := by
  cases hallowed : setup.mayChange || !code.hasSideEffects with
  | false =>
    rw [trace_of_refused hallowed] at hv
    cases hv
  | true =>
    rw [trace_of_allowed hallowed] at hv ⊢
    obtain ⟨before, hbefore⟩ := traceFrom_of_stop_after List.drop_zero hv hstop
    refine ⟨before, ?_⟩
    rw [hbefore]
    rcases executeAmid setup signals v.site v.state with ⟨e | next, s⟩
    · rfl
    · exact Trace.finish_if ..

end

/-- The same setup with hooks that leave the hidden cancellations as they find them. -/
def Setup.withoutCancelling (setup : Setup η κ) (veil : Veil) : Setup η κ :=
  { setup with
    hooks := fun label args w =>
      let (answer, w') := setup.hooks label args w
      (answer, w'.withCancelled (veil.keep w.runs.cancelled w'.runs.cancelled)) }

/-- The hooks do not look at the hidden cancellations. -/
def Setup.Heedless (setup : Setup η κ) (veil : Veil) : Prop :=
  ∀ label args,
    Mirrors (World.SameButCancelled veil) (setup.hooks label args) (setup.hooks label args)

/-- What a visit does in a run that may be cancelled is what the other does in a run that is
not. -/
structure Visit.Mirrors (setup : Setup η κ) (signals : Signals) (veil : Veil)
    (v v' : Visit η κ) : Prop where
  site : v'.site = v.site
  before : SameButCancelled veil v.state v'.state
  answer : (execute (setup.withoutCancelling veil) v'.site v'.state).1 =
    (executeAmid setup signals v.site v.state).1
  after : SameButCancelled veil (executeAmid setup signals v.site v.state).2
    (v'.after (setup.withoutCancelling veil))

/-- A run goes like another that is never cancelled, to the end if it is not cancelled
itself. -/
structure Trace.Mirrors (setup : Setup η κ) (signals : Signals) (veil : Veil) (R : σ → σ → Prop)
    (t t' : Trace η κ α σ) : Prop where
  visits : ∃ kept, kept <+: t'.visits ∧
    List.Forall₂ (Visit.Mirrors setup signals veil) t.visits kept
  whole : (∀ v ∈ t.visits, v.endsCancelled setup signals = false) →
    t'.visits.length = t.visits.length ∧ t'.result = t.result ∧ R t.last t'.last

section
variable {setup : Setup η κ} {signals : Signals}

theorem Trace.Mirrors.of_last {r : Except (Abrupt Failure) α} (h : R s s') :
    Trace.Mirrors setup signals veil R ⟨[], r, s⟩ ⟨[], r, s'⟩ :=
  ⟨⟨[], List.prefix_rfl, .nil⟩, fun _ => ⟨rfl, rfl, h⟩⟩

theorem Trace.Mirrors.cons {v v' : Visit η κ} {t t' : Trace η κ α σ}
    (hv : Visit.Mirrors setup signals veil v v') (ht : Trace.Mirrors setup signals veil R t t') :
    Trace.Mirrors setup signals veil R (t.cons v) (t'.cons v') := by
  obtain ⟨⟨kept, hkept, hvisits⟩, hwhole⟩ := ht
  constructor
  · exact ⟨v' :: kept, List.prefix_cons_inj _ |>.2 hkept, .cons hv hvisits⟩
  · intro hlive
    obtain ⟨hlength, hresult, hlast⟩ := hwhole fun u hu => hlive u (List.mem_cons_of_mem v hu)
    exact ⟨congrArg Nat.succ hlength, hresult, hlast⟩

theorem Trace.Mirrors.stop {v v' : Visit η κ} {t' : Trace η κ α σ}
    (hv : Visit.Mirrors setup signals veil v v') (hc : v.endsCancelled setup signals = true)
    (r : Except (Abrupt Failure) α) (s : σ) :
    Trace.Mirrors setup signals veil R ⟨[v], r, s⟩ (t'.cons v') := by
  constructor
  · exact ⟨[v'], List.prefix_cons_inj _ |>.2 List.nil_prefix, .cons hv .nil⟩
  · intro hlive
    have hv' := hlive v List.mem_cons_self
    rw [hc] at hv'
    cases hv'

theorem isCancelled_cancel_of_ne {run other : Nat} (r : Runs) (h : other ≠ run) :
    (r.cancel run).isCancelled other = r.isCancelled other := by
  simp [Runs.cancel, Runs.isCancelled, h]

theorem SameButCancelled.cancel_if {run : Nat} (h : SameButCancelled veil s s') (b : Bool)
    (hhides : veil.hides run = true) :
    SameButCancelled veil (if b then s.cancel run else s) s' := by
  cases b with
  | false => exact h
  | true =>
    obtain ⟨_, rfl, cancelled, rfl, hstarted, hrest⟩ := h
    refine ⟨_, rfl, cancelled, rfl, hstarted, ?_⟩
    intro other hother
    have hne : other ≠ run := by
      rintro rfl
      rw [hhides] at hother
      cases hother
    exact (hrest other hother).trans (isCancelled_cancel_of_ne _ hne).symm

theorem contains_keep {run : Nat} (veil : Veil) (old new : List Nat) :
    (veil.keep old new).contains run =
      if veil.hides run then old.contains run else new.contains run := by
  cases h : veil.hides run <;> simp [Veil.keep, h]

theorem Setup.Heedless.mirrors (h : setup.Heedless veil) (label : η) (args : List Value) :
    Mirrors (World.SameButCancelled veil) (setup.hooks label args)
      ((setup.withoutCancelling veil).hooks label args) := by
  intro w w' hw
  obtain ⟨hanswer, cancelled, hworld, hstarted, hrest⟩ := h label args w w' hw
  refine ⟨hanswer, veil.keep w'.runs.cancelled cancelled, ?_, hstarted, ?_⟩
  · simp only [Setup.withoutCancelling, hworld]
    rfl
  · intro run hrun
    rw [contains_keep, hrun]
    exact hrest run hrun

theorem Visit.Mirrors.of_heedless (h : setup.Heedless veil)
    (hhides : veil.hides setup.run = true)
    (signals : Signals) (site : Site) (hs : SameButCancelled veil s s') :
    Visit.Mirrors setup signals veil ⟨site, s⟩ ⟨site, s'⟩ := by
  have hfirst := hs.cancel_if (signals.first site.pc) hhides
  obtain ⟨hanswer, hafter⟩ := (compatible_mirrors h.mirrors site).execute trivial _ s' hfirst
  exact ⟨rfl, hs, hanswer, hafter.cancel_if (signals.last site.pc) hhides⟩

theorem execute_of_mirrors (hv : Visit.Mirrors setup signals veil ⟨site, s⟩ ⟨site, s'⟩)
    (he : executeAmid setup signals site s = (answer, t)) :
    ∃ t', executeAmid (setup.withoutCancelling veil) .none site s' = (answer, t') ∧
      SameButCancelled veil t t' := by
  obtain ⟨-, -, hanswer, hafter⟩ := hv
  rw [he] at hanswer hafter
  exact ⟨(execute (setup.withoutCancelling veil) site s').2, Prod.ext hanswer rfl, hafter⟩

/-- The hidden runs are cancelled as before. -/
def SameHidden (veil : Veil) (w w' : World η κ) : Prop :=
  ∀ run, veil.hides run = true → w'.runs.isCancelled run = w.runs.isCancelled run

instance : IsPreorder (World η κ) (SameHidden veil) where
  refl _ _ _ := rfl
  trans _ _ _ h h' run hrun := (h' run hrun).trans (h run hrun)

theorem isCancelled_after {run : Nat} (setup : Setup η κ) (v : Visit η κ)
    (hhides : veil.hides run = true) :
    (v.after (setup.withoutCancelling veil)).isCancelled run = v.state.isCancelled run := by
  have hadmits : World.Admits (setup.withoutCancelling veil).hooks (SameHidden veil) :=
    { debuggee := fun _ _ _ _ => rfl
      hook := fun _ _ _ _ hrun => (contains_keep _ _ _).trans (if_pos hrun)
      expect := fun _ _ _ _ => rfl
      abandon := fun _ _ _ _ => rfl }
  exact seen_visit hadmits.withstands trivial v run hhides

theorem checkpoint_withoutCancelling (veil : Veil) (hlive : s.isCancelled setup.run = false)
    (hlive' : s'.isCancelled setup.run = false) (h : checkpoint setup pc s = (answer, t)) :
    s = t ∧ checkpoint (setup.withoutCancelling veil) pc s' = (answer, s') := by
  rw [checkpoint_of_not_cancelled hlive] at h
  cases h
  exact ⟨rfl, checkpoint_of_not_cancelled hlive' pc⟩

/-- Up to the instruction during which it is cancelled, a run goes as if it were not. -/
theorem traceFrom_mirrors (h : setup.Heedless veil) (hhides : veil.hides setup.run = true)
    (signals : Signals) (hs : SameButCancelled veil s s')
    (hlive : s.isCancelled setup.run = false) (hlive' : s'.isCancelled setup.run = false)
    (pc skip : Nat) (is : List Instruction) :
    Trace.Mirrors setup signals veil (SameButCancelled veil)
      (traceFrom setup signals pc skip is s)
      (traceFrom (setup.withoutCancelling veil) .none pc skip is s') := by
  fun_induction traceFrom setup signals pc skip is s generalizing s' with
  | case1 pc skip s => cases skip <;> exact .of_last hs
  | case2 pc skip i rest s ih => exact ih hs hlive hlive'
  | case3 pc i rest s e t hcheck =>
    obtain ⟨rfl, hcheck'⟩ := checkpoint_withoutCancelling veil hlive hlive' hcheck
    simp only [traceFrom, hcheck']
    exact .of_last hs
  | case4 pc i rest s t hcheck e t' he =>
    obtain ⟨rfl, hcheck'⟩ := checkpoint_withoutCancelling veil hlive hlive' hcheck
    have hvisit := Visit.Mirrors.of_heedless h hhides signals ⟨pc, i⟩ hs
    obtain ⟨u, he', hu⟩ := execute_of_mirrors hvisit he
    simp only [traceFrom, hcheck', he']
    exact .cons hvisit (.of_last hu)
  | case5 pc i rest s t hcheck next t' he ih =>
    obtain ⟨rfl, hcheck'⟩ := checkpoint_withoutCancelling veil hlive hlive' hcheck
    have hvisit := Visit.Mirrors.of_heedless h hhides signals ⟨pc, i⟩ hs
    obtain ⟨u, he', hu⟩ := execute_of_mirrors hvisit he
    have hafter : u.isCancelled setup.run = false := by
      have hstate : Visit.after (setup.withoutCancelling veil) ⟨⟨pc, i⟩, s'⟩ = u :=
        congrArg Prod.snd he'
      rw [← hstate, isCancelled_after setup _ hhides]
      exact hlive'
    simp only [traceFrom, hcheck', he']
    cases hc : t'.isCancelled setup.run with
    | false => exact .cons hvisit (ih hu hc hafter)
    | true =>
      rw [traceFrom_of_stop (checkpoint_of_cancelled hc _)]
      apply Trace.Mirrors.stop hvisit
      simp only [Visit.endsCancelled, he, hc]

theorem trace_mirrors (h : setup.Heedless veil) (hhides : veil.hides setup.run = true)
    {code : Code} {w : World η κ} (hstarted : veil.started ≤ w.runs.started)
    (hlive : w.runs.isCancelled setup.run = false) :
    Trace.Mirrors setup signals veil (World.SameButCancelled veil) (trace setup signals code w)
      (trace (setup.withoutCancelling veil) .none code w) := by
  have hstart : SameButCancelled veil (⟨[], .empty, w⟩ : State η κ) ⟨[], .empty, w⟩ :=
    ⟨w, rfl, .refl hstarted⟩
  obtain ⟨hvisits, hwhole⟩ :=
    traceFrom_mirrors h hhides signals hstart hlive hlive 0 0 code.instructions
  cases hallowed : setup.mayChange || !code.hasSideEffects with
  | false =>
    have hallowed' :
        ((setup.withoutCancelling veil).mayChange || !code.hasSideEffects) = false := hallowed
    rw [trace_of_refused hallowed, trace_of_refused hallowed']
    exact .of_last (.refl hstarted)
  | true =>
    have hallowed' :
        ((setup.withoutCancelling veil).mayChange || !code.hasSideEffects) = true := hallowed
    rw [trace_of_allowed hallowed, trace_of_allowed hallowed']
    refine ⟨hvisits, ?_⟩
    intro hnever
    obtain ⟨hlength, hresult, hlast⟩ := hwhole hnever
    obtain ⟨hfinish, -⟩ := mirrors_finish code.length _ _ hlast
    refine ⟨hlength, ?_, ?_⟩
    · simp only [Trace.finish, hresult, hfinish]
    · obtain ⟨last, hstate, hworld⟩ := hlast
      rw [Trace.finish, Trace.finish, hstate]
      exact hworld

end

theorem mirrors_run (setup : Setup η κ) (h : setup.Heedless veil)
    (hrun : veil.hides setup.run = false) (code : Code) :
    Mirrors (World.SameButCancelled veil) (run setup code) (run setup code) := by
  have hcheckpoint (pc : Nat) :
      Mirrors (SameButCancelled veil) (checkpoint setup pc) (checkpoint setup pc) := by
    rintro s s' ⟨w, rfl, hw⟩
    obtain ⟨cancelled, rfl, -, hrest⟩ := id hw
    have hsame : State.isCancelled { s with world := s.world.withCancelled cancelled } setup.run =
        s.isCancelled setup.run := hrest _ hrun
    cases hc : s.isCancelled setup.run with
    | true =>
      rw [checkpoint_of_cancelled hc, checkpoint_of_cancelled (hsame.trans hc)]
      exact ⟨rfl, _, rfl, hw⟩
    | false =>
      rw [checkpoint_of_not_cancelled hc, checkpoint_of_not_cancelled (hsame.trans hc)]
      exact ⟨rfl, _, rfl, hw⟩
  intro w w' hw
  obtain ⟨hanswer, last, hstate, hworld⟩ :=
    rel_runCode trivial (compatible_mirrors h) hcheckpoint mirrors_finish rfl code _ _
      (⟨w', rfl, hw⟩ : SameButCancelled veil ⟨[], .empty, w⟩ ⟨[], .empty, w'⟩)
  refine ⟨hanswer, ?_⟩
  simp only [run, hstate]
  exact hworld

/-- Cancellations and the deadline are looked at before each instruction and nowhere else. Code
that is refused is refused before that, and a run that is cancelled or late from the start
executes nothing. After an instruction during which the run was cancelled, by a hook or by
others, none is executed: the run ends with the failure of that instruction, with a stop if
another was due, or as usual. If the deadline has passed when another is due, the run is late.
Up to there it goes as if it had not been cancelled, unless a hook looks whether it was. -/
theorem stops_between_instructions (setup : Setup η κ) (signals : Signals) (code : Code)
    (w : World η κ) :
    trace setup .none code w =
      ⟨visits setup code w, (run setup code w).1, (run setup code w).2⟩ ∧
    ((setup.mayChange || !code.hasSideEffects) = false →
      trace setup signals code w = ⟨[], .error (.error (.expression .sideEffectsNotAllowed)), w⟩) ∧
    ((setup.mayChange || !code.hasSideEffects) = true →
      (w.runs.isCancelled setup.run = true → trace setup signals code w =
        ⟨[], if 0 < code.length then .error (.error .cancelled)
          else .error (.error (.malformed (.resultCount 0))), w⟩) ∧
      (w.runs.isCancelled setup.run = false → setup.expired 0 = true → 0 < code.length →
        trace setup signals code w = ⟨[], .error (.error .timedOut), w⟩)) ∧
    (∀ v ∈ (trace setup signals code w).visits, v.endsCancelled setup signals = true →
      ∃ before, trace setup signals code w =
        match executeAmid setup signals v.site v.state with
        | (.error e, s) => ⟨before ++ [v], .error e, s.world⟩
        | (.ok next, s) => ⟨before ++ [v],
            if nextIndex v.site.pc next < code.length then .error (.error .cancelled)
            else (finish code.length s).1, s.world⟩) ∧
    (∀ v ∈ (trace setup signals code w).visits, ∀ next s,
      executeAmid setup signals v.site v.state = (.ok next, s) →
      s.isCancelled setup.run = false → setup.expired (nextIndex v.site.pc next) = true →
      nextIndex v.site.pc next < code.length →
      ∃ before, trace setup signals code w =
        ⟨before ++ [v], .error (.error .timedOut), s.world⟩) ∧
    ∀ veil : Veil, veil.hides setup.run = true → veil.started ≤ w.runs.started →
      setup.Heedless veil → w.runs.isCancelled setup.run = false →
      Trace.Mirrors setup signals veil (World.SameButCancelled veil) (trace setup signals code w)
        (trace (setup.withoutCancelling veil) .none code w) := by
  refine ⟨trace_quiet setup code w, trace_of_refused, ?_, ?_, ?_, ?_⟩
  · intro hallowed
    constructor
    · intro hc
      exact trace_of_stop hallowed (checkpoint_of_cancelled (s := ⟨[], .empty, w⟩) hc 0)
    · intro hc hexpired hlength
      have hlate := checkpoint_of_expired (s := ⟨[], .empty, w⟩) hc hexpired
      rw [trace_of_stop hallowed hlate, if_pos hlength]
  · intro v hv hc
    apply trace_of_stop_after hv
    intro next s he
    simp only [Visit.endsCancelled, he] at hc
    exact checkpoint_of_cancelled hc _
  · intro v hv next s he hc hexpired hdue
    have hstop : ∀ next' s', executeAmid setup signals v.site v.state = (.ok next', s') →
        checkpoint setup (nextIndex v.site.pc next') s' = (.error (.error .timedOut), s') := by
      intro next' s' he'
      rw [he] at he'
      cases he'
      exact checkpoint_of_expired hc hexpired
    obtain ⟨before, hbefore⟩ := trace_of_stop_after hv hstop
    refine ⟨before, ?_⟩
    simp only [hbefore, he, if_pos hdue]
  · intro veil hhides hstarted h hlive
    exact trace_mirrors h hhides hstarted hlive

/-- A hook may evaluate without looking at the hidden cancellations. -/
theorem mirrors_evaluateNow {hooks : Hooks η κ}
    (hlater : ∀ run, veil.started ≤ run → veil.hides run = false)
    (hh : ∀ label args, Mirrors (World.SameButCancelled veil) (hooks label args) (hooks label args))
    (e : Evaluator) (clock : Evaluator.Clock) (code : Code) (scope : Scope) (purpose : Purpose) :
    Mirrors (World.SameButCancelled veil) (e.evaluateNow clock hooks code scope purpose)
      (e.evaluateNow clock hooks code scope purpose) := by
  have hacquire : Mirrors (World.SameButCancelled veil)
      (e.acquire scope.thread : Evaluation η κ Unit) (e.acquire scope.thread) := by
    rintro w _ ⟨cancelled, rfl, hrest⟩
    cases hbusy : e.isBusy scope.thread w <;>
      simp only [Evaluator.acquire, Action.bind_apply, Action.read, Action.require, hbusy,
        show e.isBusy scope.thread (w.withCancelled cancelled) = _ from hbusy]
    · exact ⟨rfl, cancelled, rfl, hrest⟩
    · exact ⟨rfl, cancelled, rfl, hrest⟩
  apply hacquire.bind
  intro _
  refine Mirrors.bind (Mirrors.attempt ?_) fun result =>
    Mirrors.bind ?_ fun _ => .ofExcept result
  · rintro w _ ⟨cancelled, rfl, hstarted, hrest⟩
    exact mirrors_run (e.setup clock hooks scope purpose w.runs.started) hh
      (hlater _ hstarted) code _ _ ⟨cancelled, rfl, Nat.le_succ_of_le hstarted, hrest⟩
  · rintro w _ ⟨cancelled, rfl, hrest⟩
    exact ⟨rfl, cancelled, rfl, hrest⟩

def quitScope : Scope := { thread := 1, receivingType := ⟨3, "Main", .classType⟩ }

def quitAnswer : Code := { source := "3", instructions := [.push (.int 3)], forward := rfl }

/-- A hook that has its answer evaluated and cancels the run that calls it. -/
def quitHooks : Hooks Unit Unit := fun _ _ => do
  let answer ← Action.attempt <|
    Evaluator.evaluateNow ⟨0, {}, false⟩ .still (fun _ _ => Action.fail .crash) quitAnswer quitScope
      .watch
  Action.modify fun w => { w with runs := w.runs.cancel 0 }
  Action.ofExcept (answer.mapError fun _ => .crash)

def quitSetup : Setup Unit Unit := { hooks := quitHooks, scope := quitScope, run := 0 }

def quitWorld : World Unit Unit :=
  { (World.initial () : World Unit Unit) with
    runs := ⟨1, [], []⟩
    debuggee := (Debuggee.initial.addClass
      { name := "Main", methods := [⟨"quit", "()I", .hook ()⟩] }).2.addThread 1 [] }

/-- Two calls, of which the second gives the result. -/
def quitTwice : Code :=
  { source := "Main.quit(); Main.quit()"
    instructions := [.pushType "Main", .invoke "quit" "()I" 0, .pop,
      .pushType "Main", .invoke "quit" "()I" 0]
    forward := rfl }

theorem quitSetup_heedless : quitSetup.Heedless (.only 0) := by
  intro label args
  have hlater (run : Nat) (hrun : (Veil.only 0).started ≤ run) :
      (Veil.only 0).hides run = false := beq_eq_false_iff_ne.2 (Nat.ne_of_gt hrun)
  refine Mirrors.bind (mirrors_evaluateNow hlater (fun _ _ => .fail _) _ _ _ _ _).attempt
    fun answer => Mirrors.bind ?_ fun _ => .ofExcept _
  rintro w _ ⟨cancelled, rfl, hstarted, hrest⟩
  refine ⟨rfl, 0 :: cancelled, rfl, hstarted, ?_⟩
  intro run hrun
  have hne : run ≠ 0 := beq_eq_false_iff_ne.1 hrun
  have hadded : (0 :: cancelled).contains run = cancelled.contains run := by simp [hne]
  exact (hadded.trans (hrest run hrun)).trans (isCancelled_cancel_of_ne w.runs hne).symm

def quitStart : Visit Unit Unit := ⟨⟨0, .pushType "Main"⟩, ⟨[], .empty, quitWorld⟩⟩

/-- The first call, with its type on the stack. -/
def quitCall : Visit Unit Unit :=
  ⟨⟨1, .invoke "quit" "()I" 0⟩, ⟨[.type ⟨3, "Main", .classType⟩], .empty, quitWorld⟩⟩

def quitLate : Setup Unit Unit := { quitSetup with expired := fun _ => true }

def quitSoonLate : Setup Unit Unit := { quitSetup with expired := (0 < ·) }

/-- The first call cancels the run, is logged and answered, and the second is not made. -/
theorem stops_between_instructions_quit :
    quitCall ∈ (trace quitSetup .none quitTwice quitWorld).visits ∧
    quitCall.endsCancelled quitSetup .none = true ∧
    (∃ before, (trace quitSetup .none quitTwice quitWorld).visits = before ++ [quitCall]) ∧
    run quitSetup quitTwice quitWorld =
      (.error (.error .cancelled), (quitCall.after quitSetup).world) ∧
    (run quitSetup quitTwice quitWorld).2.debuggee.calls.length = 1 ∧
    Trace.Mirrors quitSetup .none (.only 0) (World.SameButCancelled (.only 0))
      (trace quitSetup .none quitTwice quitWorld)
      (trace (quitSetup.withoutCancelling (.only 0)) .none quitTwice quitWorld) ∧
    (run (quitSetup.withoutCancelling (.only 0)) quitTwice quitWorld).1 = .ok (.int 3) ∧
    trace quitLate .none quitTwice quitWorld = ⟨[], .error (.error .timedOut), quitWorld⟩ ∧
    (∃ before, trace quitSoonLate .none quitTwice quitWorld =
      ⟨before ++ [quitStart], .error (.error .timedOut), quitWorld⟩) ∧
    trace quitLate .none quitTwice (quitCall.after quitSetup).world =
      ⟨[], .error (.error .cancelled), (quitCall.after quitSetup).world⟩ ∧
    trace { quitLate with mayChange := false } .none quitTwice (quitCall.after quitSetup).world =
      ⟨[], .error (.error (.expression .sideEffectsNotAllowed)),
        (quitCall.after quitSetup).world⟩ := by
  have hmem : quitCall ∈ (trace quitSetup .none quitTwice quitWorld).visits :=
    List.mem_cons_of_mem _ List.mem_cons_self
  have hcancelled : quitCall.endsCancelled quitSetup .none = true := rfl
  obtain ⟨-, -, -, hlast, -, hmirrors⟩ :=
    stops_between_instructions quitSetup .none quitTwice quitWorld
  obtain ⟨-, -, hlate, -⟩ := stops_between_instructions quitLate .none quitTwice quitWorld
  obtain ⟨-, -, -, -, hsoon, -⟩ := stops_between_instructions quitSoonLate .none quitTwice quitWorld
  obtain ⟨-, -, hboth, -⟩ :=
    stops_between_instructions quitLate .none quitTwice (quitCall.after quitSetup).world
  obtain ⟨-, hrefused, -⟩ := stops_between_instructions { quitLate with mayChange := false } .none
    quitTwice (quitCall.after quitSetup).world
  obtain ⟨before, hbefore⟩ := hlast quitCall hmem hcancelled
  exact ⟨hmem, hcancelled, ⟨before, congrArg Trace.visits hbefore⟩, rfl, rfl,
    hmirrors (.only 0) rfl (Nat.le_refl 1) quitSetup_heedless rfl, rfl,
    (hlate rfl).2 rfl rfl (by decide),
    hsoon quitStart List.mem_cons_self none _ rfl rfl rfl (by decide), (hboth rfl).1 rfl,
    hrefused rfl⟩

end Machine

end Probe

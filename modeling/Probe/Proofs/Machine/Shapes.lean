import Probe.Proofs.Code.Jumps
import Probe.Proofs.Machine.Steady

namespace Probe

/-- What stands at a place of the stack. -/
inductive Mark where
  | value
  | type
  deriving Repr, DecidableEq

def Operand.mark : Operand → Mark
  | .value _ => .value
  | .type _ => .type

/-- The marks of a stack, the top first. -/
abbrev Shape := List Mark

def Shape.dropValues : Nat → Shape → Option Shape
  | 0, m => some m
  | n + 1, .value :: m => dropValues n m
  | _ + 1, _ => none

/-- The shape that an instruction makes of the one it finds. There is none if an operand is
missing or does not have the right mark. -/
def Instruction.reshape (i : Instruction) (m : Shape) : Option Shape :=
  match i with
  | push _ | pushString _ | pushNull | pushThis | pushVariable _ | pushStatic .. =>
    some (.value :: m)
  | pushType _ => some (.type :: m)
  | pushField _ | arrayLength | storeVariable _ | storeStatic .. | unary _ | cast _ | instanceOf _
  | matchType .. | newArray _ => (m.dropValues 1).map (.value :: ·)
  | loadElement | storeField _ | binary _ => (m.dropValues 2).map (.value :: ·)
  | storeElement => (m.dropValues 3).map (.value :: ·)
  | construct _ argCount =>
    match m.dropValues argCount with
    | some (.type :: rest) => some (.value :: rest)
    | _ => none
  | invoke _ _ argCount =>
    match m.dropValues argCount with
    | some (_ :: rest) => some (.value :: rest)
    | _ => none
  | dup =>
    match m with
    | top :: rest => some (top :: top :: rest)
    | [] => none
  | pop => m.tail?
  | jump _ => some m
  | jumpIf .. => m.dropValues 1

/-- The indices at which the run may go on after the instruction at index `pc`. -/
def Instruction.successors (pc : Nat) : Instruction → List Nat
  | jump target => [target]
  | jumpIf _ target => [pc + 1, target]
  | _ => [pc + 1]

namespace Code
set_option autoImplicit true

/-- The indices that control can get to. -/
inductive Reached (code : Code) : Nat → Prop
  | start : Reached code 0
  | next {pc next : Nat} {i : Instruction} (h : Reached code pc)
      (hi : code.instructions[pc]? = some i) (hn : next ∈ i.successors pc) : Reached code next

/-- The shapes fit together at all indices that control can get to. -/
structure WellShaped (code : Code) (maxStack : Nat) (shape : Nat → Shape) : Prop where
  start : shape 0 = []
  finish : code.Reached code.length → shape code.length = [.value]
  step : ∀ pc i, code.Reached pc → code.instructions[pc]? = some i →
    ∃ m, i.reshape (shape pc) = some m ∧ ∀ next ∈ i.successors pc, shape next = m
  bounded : ∀ pc, code.Reached pc → (shape pc).length ≤ maxStack

/-- The error tells of a conditional jump that finds a value other than a truth value. -/
def BadCondition (code : Code) (e : CodeError) : Prop :=
  ∃ pc expected target, code.instructions[pc]? = some (.jumpIf expected target) ∧
    e = .unexpected pc (.jumpIf expected target) .boolean

/-- If the run stopped because of the code, it was at a bad condition. -/
def AtWorst (code : Code) (stop : Abrupt Failure) : Prop :=
  ∀ e, stop = .error (.malformed e) → code.BadCondition e

end Code

namespace Machine
set_option autoImplicit true

def State.shape (s : State η κ) : Shape := s.stack.map Operand.mark

def Blameless (e : Abrupt Failure) : Prop := ∀ c, e ≠ .error (.malformed c)

theorem Blameless.atWorst {code : Code} {e : Abrupt Failure} (h : Blameless e) :
    code.AtWorst e :=
  fun c hc => absurd hc (h c)

/-- On a stack of shape `m` the action ends as `Q` says, with a value and a new shape, or stops
with an error that `E` allows. -/
def Fits (m : Shape) (x : Exec η κ α) (Q : α → Shape → Prop) (E : Abrupt Failure → Prop) :
    Prop :=
  ∀ s, s.shape = m → match x s with
    | (.ok a, s') => Q a s'.shape
    | (.error e, _) => E e

theorem Fits.bind {x : Exec η κ α} {f : α → Exec η κ β} (hx : Fits m x Q E)
    (hf : ∀ a m', Q a m' → Fits m' (f a) R E) : Fits m (x >>= f) R E := by
  intro s hs
  have h := hx s hs
  rw [Action.bind_apply]
  rcases hxs : x s with ⟨e | a, s'⟩
  · rwa [hxs] at h
  · rw [hxs] at h
    exact hf a _ h s' rfl

theorem Fits.mono {x : Exec η κ α} (hx : Fits m x Q E) (hE : ∀ e, E e → F e) : Fits m x Q F := by
  intro s hs
  have h := hx s hs
  split at h
  · exact h
  · exact hE _ h

theorem Fits.pure {a : α} (h : Q a m) : Fits m (pure a : Exec η κ α) Q E := by
  rintro s rfl
  exact h

theorem Steady.fits {x : Exec η κ α} (hx : Steady x) :
    Fits m x (fun _ m' => m' = m) Blameless := by
  rintro s rfl
  have hstack := hx.stack s
  have hblame := hx.blameless s
  rcases hxs : x s with ⟨e | a, s'⟩
  · rw [hxs] at hblame
    exact fun c hc => hblame c (congrArg Except.error hc)
  · rw [hxs] at hstack
    exact congrArg (List.map Operand.mark) hstack

theorem fits_pop (site : Site) :
    Fits (k :: m) (pop site : Exec η κ Operand) (fun o m' => o.mark = k ∧ m' = m) Blameless := by
  rintro ⟨stack, temporaries, world⟩ hs
  obtain ⟨o, rest, rfl, rfl, rfl⟩ := List.map_eq_cons_iff.1 hs
  exact ⟨rfl, rfl⟩

theorem fits_popValue (site : Site) :
    Fits (.value :: m) (popValue site : Exec η κ Value) (fun _ m' => m' = m) Blameless := by
  refine (fits_pop site).bind ?_
  rintro (v | t) m' ⟨hv, rfl⟩
  · exact .pure rfl
  · cases hv

theorem fits_popType (site : Site) :
    Fits (.type :: m) (popType site : Exec η κ TypeRef) (fun _ m' => m' = m) Blameless := by
  refine (fits_pop site).bind ?_
  rintro (v | t) m' ⟨ht, rfl⟩
  · cases ht
  · exact .pure rfl

theorem dropValues_succ {m : Shape} (h : m.dropValues (n + 1) = some m') :
    ∃ rest, m = .value :: rest ∧ Shape.dropValues n rest = some m' := by
  rcases m with _ | ⟨_ | _, rest⟩
  · cases h
  · exact ⟨rest, rfl, h⟩
  · cases h

theorem eq_of_dropValues {m : Shape} (h : m.dropValues n = some m') :
    m = List.replicate n .value ++ m' := by
  induction n generalizing m with
  | zero => exact Option.some.inj h
  | succ n ih =>
    obtain ⟨rest, rfl, hrest⟩ := dropValues_succ h
    rw [ih hrest]
    rfl

theorem reshape_values {m : Shape} (h : (m.dropValues n).map (.value :: ·) = some m') :
    ∃ rest, m = List.replicate n .value ++ rest ∧ m' = .value :: rest := by
  obtain ⟨rest, hrest, rfl⟩ := Option.map_eq_some_iff.1 h
  exact ⟨rest, eq_of_dropValues hrest, rfl⟩

theorem fits_popArgs (site : Site) {m : Shape} (h : m.dropValues n = some m') :
    Fits m (popArgs site n : Exec η κ (List Value)) (fun _ m'' => m'' = m') Blameless := by
  induction n generalizing m with
  | zero =>
    obtain rfl := Option.some.inj h
    exact .pure rfl
  | succ n ih =>
    obtain ⟨rest, rfl, hrest⟩ := dropValues_succ h
    refine (fits_popValue site).bind ?_
    rintro last _ rfl
    refine (ih hrest).bind ?_
    rintro args _ rfl
    exact .pure rfl

theorem fits_push (setup : Setup η κ) (site : Site) (o : Operand)
    (hm : m.length < setup.maxStack) :
    Fits m (push setup site o) (fun _ m' => m' = o.mark :: m) Blameless := by
  rintro s rfl
  have hlen : s.stack.length < setup.maxStack := by simpa [State.shape] using hm
  rw [push_of_room hlen]
  rfl

theorem Steady.fits_bind {x : Exec η κ α} {f : α → Exec η κ β} (hx : Steady x)
    (hf : ∀ a, Fits m (f a) Q Blameless) : Fits m (x >>= f) Q Blameless := by
  refine hx.fits.bind ?_
  rintro a _ rfl
  exact hf a

theorem fits_popValue_bind {site : Site} {f : Value → Exec η κ β}
    (hf : ∀ v, Fits m (f v) Q Blameless) :
    Fits (.value :: m) (popValue site >>= f) Q Blameless := by
  refine (fits_popValue site).bind ?_
  rintro v _ rfl
  exact hf v

theorem fits_effect (setup : Setup η κ) (pc : Nat) (hi : i.target? = none)
    (hm : i.reshape m = some m') (hlen : m'.length ≤ setup.maxStack) :
    Fits m (effect setup ⟨pc, i⟩) (fun _ m'' => m'' = m') Blameless := by
  have hpush {m : Shape} (v : Value) (hm : m.length < setup.maxStack) :
      Fits m (pushValue setup ⟨pc, i⟩ v) (fun _ m' => m' = .value :: m) Blameless :=
    fits_push setup _ (.value v) hm
  have hsteady := composable_steady setup
  have hremote {α : Type} (r : Remote η α) := steady_remote (κ := κ) r
  cases i with
  | push v =>
    cases hm
    exact hpush v hlen
  | pushString text =>
    cases hm
    exact (hremote _).fits_bind fun _ => hpush _ hlen
  | pushNull =>
    cases hm
    exact hpush .null hlen
  | pushThis =>
    cases hm
    exact (hsteady.receiver setup.scope).fits_bind fun v => hpush v hlen
  | pushType name =>
    cases hm
    exact (hremote _).fits_bind fun t => fits_push setup _ (.type t) hlen
  | pushVariable name =>
    cases hm
    exact (hsteady.readVariable _ name).fits_bind fun v => hpush v hlen
  | pushStatic typeName name =>
    cases hm
    exact (hremote _).fits_bind fun _ => (hremote _).fits_bind fun v => hpush v hlen
  | pushField name =>
    obtain ⟨rest, rfl, rfl⟩ := reshape_values hm
    exact fits_popValue_bind fun _ => (hsteady.fieldOwner _ _ _).fits_bind fun _ =>
      (hremote _).fits_bind fun v => hpush v hlen
  | arrayLength =>
    obtain ⟨rest, rfl, rfl⟩ := reshape_values hm
    exact fits_popValue_bind fun _ => (hsteady.arrayHandle _ _).fits_bind fun _ =>
      (hremote _).fits_bind fun _ => hpush _ hlen
  | storeVariable name =>
    obtain ⟨rest, rfl, rfl⟩ := reshape_values hm
    exact fits_popValue_bind fun v => (hsteady.writeVariable trivial _ name v).fits_bind fun _ =>
      hpush v hlen
  | storeStatic typeName name =>
    obtain ⟨rest, rfl, rfl⟩ := reshape_values hm
    exact fits_popValue_bind fun v => (hremote _).fits_bind fun _ =>
      (hremote _).fits_bind fun _ => hpush v hlen
  | unary op =>
    obtain ⟨rest, rfl, rfl⟩ := reshape_values hm
    exact fits_popValue_bind fun _ => (hsteady.ofResult (independent_unary op _)).fits_bind
      fun v => hpush v hlen
  | cast target =>
    obtain ⟨rest, rfl, rfl⟩ := reshape_values hm
    exact fits_popValue_bind fun _ => (hsteady.cast _ target).fits_bind fun v => hpush v hlen
  | instanceOf typeName =>
    obtain ⟨rest, rfl, rfl⟩ := reshape_values hm
    exact fits_popValue_bind fun _ => (hsteady.testType _ _).fits_bind fun _ => hpush _ hlen
  | matchType typeName binding =>
    obtain ⟨rest, rfl, rfl⟩ := reshape_values hm
    exact fits_popValue_bind fun v => (hsteady.testType v _).fits_bind fun holds =>
      (hsteady.bindIf holds binding v).fits_bind fun _ => hpush _ hlen
  | newArray arrayType =>
    obtain ⟨rest, rfl, rfl⟩ := reshape_values hm
    exact fits_popValue_bind fun _ => (hsteady.arraySize _).fits_bind fun _ =>
      (hremote _).fits_bind fun _ => (hremote _).fits_bind fun _ => hpush _ hlen
  | loadElement =>
    obtain ⟨rest, rfl, rfl⟩ := reshape_values hm
    exact fits_popValue_bind fun _ => fits_popValue_bind fun _ =>
      (hsteady.slot _ _ _).fits_bind fun _ => (hremote _).fits_bind fun v => hpush v hlen
  | storeField name =>
    obtain ⟨rest, rfl, rfl⟩ := reshape_values hm
    exact fits_popValue_bind fun v => fits_popValue_bind fun _ =>
      (hsteady.fieldOwner _ _ _).fits_bind fun _ => (hremote _).fits_bind fun _ => hpush v hlen
  | binary op =>
    obtain ⟨rest, rfl, rfl⟩ := reshape_values hm
    exact fits_popValue_bind fun _ => fits_popValue_bind fun _ =>
      (hsteady.combine trivial op _ _).fits_bind fun v => hpush v hlen
  | storeElement =>
    obtain ⟨rest, rfl, rfl⟩ := reshape_values hm
    exact fits_popValue_bind fun v => fits_popValue_bind fun _ => fits_popValue_bind fun _ =>
      (hsteady.slot _ _ _).fits_bind fun _ => (hremote _).fits_bind fun _ => hpush v hlen
  | construct signature argCount =>
    simp only [Instruction.reshape] at hm
    split at hm
    · rename_i rest hrest
      cases hm
      refine (fits_popArgs _ hrest).bind ?_
      rintro args _ rfl
      refine (fits_popType _).bind ?_
      rintro type _ rfl
      exact (hremote _).fits_bind fun v => hpush v hlen
    · cases hm
  | invoke name signature argCount =>
    simp only [Instruction.reshape] at hm
    split at hm
    · rename_i rest hrest
      cases hm
      refine (fits_popArgs _ hrest).bind ?_
      rintro args _ rfl
      refine (fits_pop _).bind ?_
      rintro receiver _ ⟨-, rfl⟩
      exact (hsteady.invoke trivial _ _ _ _).fits_bind fun v => hpush v hlen
    · cases hm
  | dup =>
    rcases m with _ | ⟨top, rest⟩
    · cases hm
    · cases hm
      refine (fits_pop _).bind ?_
      rintro o _ ⟨rfl, rfl⟩
      refine (fits_push setup _ o (Nat.lt_of_succ_lt hlen)).bind ?_
      rintro _ _ rfl
      exact fits_push setup _ o hlen
  | pop =>
    rcases m with _ | ⟨top, rest⟩
    · cases hm
    · cases hm
      refine (fits_pop _).bind ?_
      rintro o _ ⟨-, rfl⟩
      exact .pure rfl
  | jump target => cases hi
  | jumpIf expected target => cases hi

/-- An instruction leaves the shape it is said to leave and control goes to one of its
successors. Only a conditional jump can find fault with the code. -/
theorem fits_execute (setup : Setup η κ) (pc : Nat) (hm : i.reshape m = some m')
    (hlen : m'.length ≤ setup.maxStack) :
    Fits m (execute setup ⟨pc, i⟩)
      (fun next m'' => m'' = m' ∧ nextIndex pc next ∈ i.successors pc ∧
        ∀ target, next = some target → i.target? = some target)
      fun e => ∀ c, e = .error (.malformed c) →
        ∃ expected target, i = .jumpIf expected target ∧ c = .unexpected pc i .boolean := by
  have hblame {e : Abrupt Failure} (he : Blameless e) (c : CodeError)
      (hc : e = .error (.malformed c)) :
      ∃ expected target, i = .jumpIf expected target ∧ c = .unexpected pc i .boolean :=
    absurd hc (he c)
  have hplain (hi : i.target? = none) (hs : i.successors pc = [pc + 1]) :
      Fits m (effect setup ⟨pc, i⟩ >>= fun _ => (pure none : Exec η κ (Option Nat)))
        (fun next m'' => m'' = m' ∧ nextIndex pc next ∈ i.successors pc ∧
          ∀ target, next = some target → i.target? = some target)
        fun e => ∀ c, e = .error (.malformed c) →
          ∃ expected target, i = .jumpIf expected target ∧ c = .unexpected pc i .boolean := by
    refine ((fits_effect setup pc hi hm hlen).mono fun e => hblame).bind ?_
    rintro _ _ rfl
    exact .pure ⟨rfl, by simp [hs, nextIndex], fun _ h => by cases h⟩
  cases i with
  | jump target =>
    cases hm
    exact .pure ⟨rfl, List.mem_singleton_self _, fun _ h => h⟩
  | jumpIf expected target =>
    obtain ⟨rest, rfl, hrest⟩ := dropValues_succ hm
    cases hrest
    refine ((fits_popValue _).mono fun e => hblame).bind ?_
    rintro v _ rfl
    split
    · rename_i b
      refine .pure ⟨rfl, ?_, ?_⟩
      · by_cases hb : b = expected <;> simp [hb, nextIndex, Instruction.successors]
      · by_cases hb : b = expected <;> simp [hb, Instruction.target?]
    · rintro s -
      rintro c ⟨⟩
      exact ⟨expected, target, rfl, rfl⟩
  | _ => exact hplain rfl rfl

/-- The shapes are those of the run: it reaches the end with one value, unless it stops for a
reason outside the code or at a bad condition. -/
theorem fits_runFrom {code : Code} {shape : Nat → Shape}
    (h : code.WellShaped setup.maxStack shape) (his : code.instructions.drop pc = is)
    (hindex : index = pc + skip) (hle : index ≤ code.length) (hr : code.Reached index) :
    Fits (shape index) (runFrom setup pc skip is) (fun _ m => m = [.value]) code.AtWorst := by
  -- The instructions passed over are not run, so only the index the run goes on with counts.
  induction is generalizing pc skip index with
  | nil =>
    have hpc : code.length ≤ pc := List.drop_eq_nil_iff.1 his
    obtain rfl : index = code.length := by omega
    rw [h.finish hr]
    cases skip <;> exact .pure rfl
  | cons i is ih =>
    obtain ⟨hi, hrest⟩ := split_of_drop his
    cases skip with
    | succ skip => exact ih hrest (by omega) hle hr
    | zero =>
      obtain rfl : index = pc := hindex
      obtain ⟨m, hm, hnext⟩ := h.step index i hr hi
      have hgo {next : Nat} (hn : next ∈ i.successors index) : code.Reached next :=
        .next hr hi hn
      have hlen : m.length ≤ setup.maxStack := by
        obtain ⟨next, hn⟩ : ∃ next, next ∈ i.successors index := by
          cases i <;> exact ⟨_, List.mem_cons_self⟩
        rw [← hnext next hn]
        exact h.bounded next (hgo hn)
      refine ((steady_checkpoint setup index).fits.mono fun _ => Blameless.atWorst).bind ?_
      rintro _ _ rfl
      refine ((fits_execute setup index hm hlen).mono ?_).bind ?_
      · intro e he c hc
        obtain ⟨expected, target, rfl, rfl⟩ := he c hc
        exact ⟨index, expected, target, hi, rfl⟩
      · rintro next _ ⟨rfl, hn, htarget⟩
        rw [← hnext _ hn]
        cases next with
        | none => exact ih hrest rfl (List.getElem?_eq_some_iff.1 hi).1 (hgo hn)
        | some target =>
          obtain ⟨hlt, hle⟩ := code.jump_forward hi (htarget target rfl)
          exact ih hrest (by simp only [nextIndex, Option.getD_some]; omega) hle (hgo hn)

theorem fits_finish (length : Nat) :
    Fits [.value] (finish length : Exec η κ Value) (fun _ _ => True) Blameless := by
  rintro ⟨stack, temporaries, world⟩ hs
  obtain ⟨o, rest, rfl, ho, hrest⟩ := List.map_eq_cons_iff.1 hs
  obtain rfl := List.map_eq_nil_iff.1 hrest
  cases o with
  | value v => exact trivial
  | type t => cases ho

/-- Well-shaped code never runs out of operands, exceeds the stack, meets an operand of the
wrong mark or ends with anything but one value: the only fault a run can find with it is a
condition that is no truth value. -/
theorem run_wellShaped (setup : Setup η κ) (code : Code) (shape : Nat → Shape) (w : World η κ)
    (h : code.WellShaped setup.maxStack shape) (e : CodeError)
    (he : (run setup code w).1 = .error (.error (.malformed e))) : code.BadCondition e := by
  have hinstructions : Fits (shape 0) (runFrom setup 0 0 code.instructions)
      (fun _ m => m = [.value]) code.AtWorst := fits_runFrom h rfl rfl (Nat.zero_le _) .start
  have hcode : Fits [] (runCode setup code) (fun _ _ => True) code.AtWorst := by
    have hallowed := (composable_steady setup).require (setup.mayChange || !code.hasSideEffects)
      (f := .expression .sideEffectsNotAllowed) (Conditions.reports_own rfl)
    refine (hallowed.fits.mono fun _ => Blameless.atWorst).bind ?_
    rintro _ _ rfl
    rw [h.start] at hinstructions
    refine hinstructions.bind ?_
    rintro _ _ rfl
    exact (fits_finish _).mono fun _ => Blameless.atWorst
  have hrun := hcode ⟨[], .empty, w⟩ rfl
  unfold run at he
  rcases hc : runCode setup code ⟨[], .empty, w⟩ with ⟨stop | v, s⟩
  · rw [hc] at hrun he
    exact hrun e (Except.error.inj he)
  · rw [hc] at he
    cases he

/-- The conjunction of a call and a variable. The variable is not read if the call gives
false. -/
def conjunction : Code :=
  { source := "Main.test(1) && flag"
    instructions := [.pushType "Main", .push (.int 1), .invoke "test" "(I)Z" 1, .dup,
      .jumpIf false 7, .pop, .pushVariable "flag"]
    forward := rfl }

def conjunctionShape (pc : Nat) : Shape :=
  [[], [.type], [.value, .type], [.value], [.value, .value], [.value], [], [.value]][pc]?.getD []

theorem conjunction_wellShaped : conjunction.WellShaped 2 conjunctionShape where
  start := rfl
  finish _ := rfl
  step := by
    intro pc i _ hi
    rcases pc with _ | _ | _ | _ | _ | _ | _ | pc
    all_goals cases hi
    all_goals exact ⟨_, rfl, by decide⟩
  bounded := by
    intro pc _
    rcases pc with _ | _ | _ | _ | _ | _ | _ | _ | pc
    all_goals exact Nat.le_of_ble_eq_true rfl

def numberWorld : World Unit Unit :=
  { (World.initial () : World Unit Unit) with
    debuggee := (Debuggee.initial.addClass
      { name := "Main", methods := [⟨"test", "(I)Z", .returns (.int 1)⟩] }).2.addThread 1 [] }

def shallowSetup : Setup Unit Unit :=
  { hooks := fun _ _ => Action.fail .crash
    scope := { thread := 1, receivingType := ⟨3, "Main", .classType⟩ }
    run := 0
    maxStack := 2 }

theorem run_wellShaped_conjunction :
    conjunction.WellShaped shallowSetup.maxStack conjunctionShape ∧
    (run shallowSetup conjunction numberWorld).1 =
      .error (.error (.malformed (.unexpected 4 (.jumpIf false 7) .boolean))) ∧
    conjunction.BadCondition (.unexpected 4 (.jumpIf false 7) .boolean) := by
  have hrun : (run shallowSetup conjunction numberWorld).1 =
      .error (.error (.malformed (.unexpected 4 (.jumpIf false 7) .boolean))) := by rfl
  exact ⟨conjunction_wellShaped, hrun, run_wellShaped _ _ _ _ conjunction_wellShaped _ hrun⟩

end Machine

end Probe

import Mathlib.Tactic.Choose
import Probe.Proofs.Debuggee.Identity
import Probe.Proofs.Machine.ShortCircuit
import Probe.Proofs.Machine.SideEffects
import Probe.Proofs.Machine.StackLimit

namespace Probe
set_option autoImplicit true

theorem badJump?_of_straight (h : ∀ i ∈ is, Instruction.target? i = none) :
    badJump? is = none := by
  rw [badJump?_eq_none_iff]
  intro pc target hjump
  obtain ⟨i, hi, htarget⟩ := Option.bind_eq_some_iff.1 hjump
  rw [h i (List.mem_of_getElem? hi)] at htarget
  cases htarget

/-- Adds operands to what is on the stack, one after the other. -/
def additions (vs : List Value) : List Instruction :=
  vs.flatMap fun v => [.push v, .binary (.arith .add)]

theorem mem_chain (h : i ∈ Instruction.push v :: additions vs) :
    (∃ u, i = .push u) ∨ i = .binary (.arith .add) := by
  simp only [additions, List.mem_cons, List.mem_flatMap, List.not_mem_nil, or_false] at h
  rcases h with rfl | ⟨u, -, rfl | rfl⟩
  · exact .inl ⟨v, rfl⟩
  · exact .inl ⟨u, rfl⟩
  · exact .inr rfl

def Code.sum (source : String) (v : Value) (vs : List Value) : Code where
  source := source
  instructions := .push v :: additions vs
  forward := by
    apply badJump?_of_straight
    intro i hi
    rcases mem_chain hi with ⟨u, rfl⟩ | rfl <;> rfl

theorem Code.hasSideEffects_sum (source : String) (v : Value) (vs : List Value) :
    (Code.sum source v vs).hasSideEffects = false := by
  apply List.any_eq_false.2
  intro i hi
  rcases mem_chain hi with ⟨u, rfl⟩ | rfl <;> exact Bool.false_ne_true

namespace Debuggee

/-- The values that are shown without a call: `null`, primitive values and strings on the
heap. -/
inductive Plain (d : Debuggee η) : Value → Prop
  | null : Plain d .null
  | primitive (h : v.kind? = some k) : Plain d v
  | string (hs : h.isString = true)
    (ho : d.objects.get? h.id = some ⟨typeName, .text text⟩) : Plain d (.object h)

/-- Since the first state `n` strings were made and nothing else was changed; the handle is that
of one of them. -/
structure Made (d : Debuggee η) (n : Nat) (h : Handle) (text : String) (d' : Debuggee η) : Prop
    extends Untouched d d' where
  sound : d'.Sound
  size : d'.objects.size = d.objects.size + n
  isString : h.isString = true
  fresh : d.nextId ≤ h.id
  content : d'.objects.get? h.id = some ⟨stringType, .text text⟩

theorem Sound.get?_nextId {d : Debuggee η} (hd : d.Sound) : d.objects.get? d.nextId = none := by
  cases h : d.objects.get? d.nextId with
  | none => rfl
  | some object => exact absurd (hd.objects_lt h) (Nat.lt_irrefl _)

theorem Made.newString {d d' : Debuggee η} (h : Untouched d d') (hd' : d'.Sound)
    (hsize : d'.objects.size = d.objects.size + n) (text : String) :
    Made d (n + 1) (d'.newString text).1 text (d'.newString text).2 where
  toUntouched := h.trans (Spared.allowsAdditions.newString d' text hd').2
  sound := hd'.allocate _ _
  size := by
    have hentries := Table.entries_insert hd'.get?_nextId ⟨stringType, .text text⟩
    have hlength := congrArg List.length hentries
    rw [List.length_append, List.length_singleton] at hlength
    exact hlength.trans (congrArg (· + 1) hsize)
  isString := beq_self_eq_true _
  fresh := h.nextId_le
  content := Table.get?_insert_self _ _ _

end Debuggee

open Debuggee (Kept Made Plain)

theorem Remote.makeString_of_live {d : Debuggee η} (ha : d.alive = true)
    (hc : d.connected = true)
    (text : String) : makeString text d = (.ok (d.newString text).1, (d.newString text).2) :=
  Action.bind_of_ok (checkAlive_eq_ok (u := ()).2 ⟨rfl, ha, hc⟩) _

theorem World.display_of_plain {w : World η κ} (ha : w.debuggee.alive = true)
    (hc : w.debuggee.connected = true) (hv : w.debuggee.Plain v) (hooks : Hooks η κ)
    (thread : ThreadId) : ∃ text, ∀ d', w.debuggee.Kept d' →
      display hooks thread v { w with debuggee := d' } =
        (.ok text, { w with debuggee := d' }) := by
  cases hv with
  | null => exact ⟨_, fun d' _ => rfl⟩
  | primitive h =>
    cases v with
    | null | void | object => cases h
    | _ => exact ⟨_, fun d' _ => rfl⟩
  | @string _ text _ hs ho =>
    refine ⟨text, fun d' hd' => ?_⟩
    have hread := Remote.stringText_eq_ok.2
      ⟨rfl, hd'.alive.trans ha, hd'.connected.trans hc, _, hd'.objects ho⟩
    rw [display_string hs]
    exact Action.zoom_eq_ok.2 ⟨d', hread, rfl⟩

namespace Machine

section
variable {setup : Setup η κ} {s s' : State η κ}

theorem runFrom_next (h : execute setup ⟨pc, i⟩ s = (.ok none, s'))
    (hlive : s.isCancelled setup.run = false) (hexpired : ∀ pc, setup.expired pc = false)
    (is : List Instruction) :
    runFrom setup pc 0 (i :: is) s = runFrom setup (pc + 1) 0 is s' := by
  have hcheck : checkpoint setup pc s = (.ok (), s) :=
    checkpoint_of_live hlive (hexpired pc) s.stack
  rw [runFrom, Action.bind_of_ok hcheck, Action.bind_of_ok h]

theorem execute_push (hroom : s.stack.length < setup.maxStack) (pc : Nat) (v : Value) :
    execute setup ⟨pc, .push v⟩ s = (.ok none, { s with stack := .value v :: s.stack }) :=
  Action.bind_of_ok (push_of_room hroom ⟨pc, .push v⟩ (.value v)) _

theorem call_of_ok {c : Call η κ α} (h : c s.world = (.ok a, s.world)) : call c s = (.ok a, s) :=
  Action.zoom_eq_ok.2 ⟨s.world, h, rfl⟩

theorem concat_of_shown (ha : s.world.debuggee.alive = true)
    (hc : s.world.debuggee.connected = true)
    (hl : World.display setup.hooks setup.scope.thread l s.world = (.ok left, s.world))
    (hr : World.display setup.hooks setup.scope.thread r s.world = (.ok right, s.world)) :
    concat setup l r s = (.ok (.object (s.world.debuggee.newString (left ++ right)).1),
      s.withDebuggee (s.world.debuggee.newString (left ++ right)).2) := by
  rw [concat, Action.bind_of_ok (call_of_ok hl), Action.bind_of_ok (call_of_ok hr),
    Action.bind_apply, remote_apply, Remote.makeString_of_live ha hc]
  rfl

theorem runFrom_addition {w : World η κ} (hroom : 2 ≤ setup.maxStack)
    (hlive : w.runs.isCancelled setup.run = false) (hexpired : ∀ pc, setup.expired pc = false)
    (ha : w.debuggee.alive = true) (hc : w.debuggee.connected = true)
    (hstring : l.isString = true ∨ r.isString = true)
    (hl : World.display setup.hooks setup.scope.thread l w = (.ok left, w))
    (hr : World.display setup.hooks setup.scope.thread r w = (.ok right, w))
    (names : Table String Value) (pc : Nat) (vs : List Value) :
    runFrom setup pc 0 (additions (r :: vs)) ⟨[.value l], names, w⟩ =
      runFrom setup (pc + 2) 0 (additions vs)
        ⟨[.value (.object (w.debuggee.newString (left ++ right)).1)], names,
          { w with debuggee := (w.debuggee.newString (left ++ right)).2 }⟩ := by
  have hpush := execute_push (s := ⟨[.value l], names, w⟩) hroom pc r
  have hadd : execute setup ⟨pc + 1, .binary (.arith .add)⟩ ⟨[.value r, .value l], names, w⟩ =
      (.ok none, ⟨[.value (.object (w.debuggee.newString (left ++ right)).1)], names,
        { w with debuggee := (w.debuggee.newString (left ++ right)).2 }⟩) := by
    have hconcat := concat_of_shown (s := ⟨[], names, w⟩) ha hc hl hr
    rw [execute_of_target?_none rfl, Action.bind_apply, effect_binary setup _ rfl, combine,
      if_pos ⟨rfl, hstring⟩, Action.bind_of_ok hconcat, pushValue, push_of_room]
    · rfl
    · exact Nat.lt_of_succ_lt hroom
  calc runFrom setup pc 0 (additions (r :: vs)) ⟨[.value l], names, w⟩
    _ = runFrom setup (pc + 1) 0 (.binary (.arith .add) :: additions vs)
          ⟨[.value r, .value l], names, w⟩ := runFrom_next hpush hlive hexpired _
    _ = _ := runFrom_next hadd hlive hexpired _

end

section
variable {setup : Setup η κ} {w : World η κ} (hroom : 2 ≤ setup.maxStack)
  (hlive : w.runs.isCancelled setup.run = false) (hexpired : ∀ pc, setup.expired pc = false)
  (ha : w.debuggee.alive = true) (hc : w.debuggee.connected = true)
include hroom hlive hexpired ha hc

/-- The string so far is on the stack, and each addition replaces it by a new one. The operands
are looked at in the state before the first addition. -/
theorem runFrom_additions {d' : Debuggee η} (hmade : Made w.debuggee n h sofar d')
    (hvs : ∀ v ∈ vs, ∀ d', w.debuggee.Kept d' →
      World.display setup.hooks setup.scope.thread v { w with debuggee := d' } =
        (.ok (text v), { w with debuggee := d' }))
    (names : Table String Value) (pc : Nat) :
    ∃ h' d'', runFrom setup pc 0 (additions vs)
        ⟨[.value (.object h)], names, { w with debuggee := d' }⟩ =
        (.ok (), ⟨[.value (.object h')], names, { w with debuggee := d'' }⟩) ∧
      Made w.debuggee (n + vs.length) h' (sofar ++ String.join (vs.map text)) d'' := by
  induction vs generalizing n h sofar d' pc with
  | nil =>
    refine ⟨h, d', rfl, ?_⟩
    rwa [List.map_nil, String.join_nil, String.append_empty]
  | cons v vs ih =>
    have ha' : d'.alive = true := hmade.alive.trans ha
    have hc' : d'.connected = true := hmade.connected.trans hc
    have hl : World.display setup.hooks setup.scope.thread (.object h)
        { w with debuggee := d' } = (.ok sofar, { w with debuggee := d' }) := by
      rw [World.display_string hmade.isString]
      exact Action.zoom_eq_ok.2
        ⟨d', Remote.stringText_eq_ok.2 ⟨rfl, ha', hc', _, hmade.content⟩, rfl⟩
    have hr := hvs v List.mem_cons_self d' hmade.toKept
    have hnext := Made.newString hmade.toUntouched hmade.sound hmade.size (sofar ++ text v)
    obtain ⟨h', d'', hrun, hmade'⟩ := ih hnext
      (fun u hu => hvs u (List.mem_cons_of_mem v hu)) (pc + 2)
    refine ⟨h', d'', ?_, ?_⟩
    · rw [← hrun]
      have hstring : (Value.object h).isString = true := hmade.isString
      exact runFrom_addition (w := { w with debuggee := d' }) hroom hlive hexpired ha' hc'
        (.inl hstring) hl hr names pc vs
    · rwa [List.length_cons, Nat.add_comm vs.length, ← Nat.add_assoc, List.map_cons,
        String.join_cons, ← String.append_assoc]

end

theorem run_of_runFrom {setup : Setup η κ} {code : Code} {w w' : World η κ}
    (hallowed : setup.mayChange || !code.hasSideEffects)
    (h : runFrom setup 0 0 code.instructions ⟨[], .empty, w⟩ = (.ok (), ⟨[.value v], names, w'⟩)) :
    run setup code w = (.ok v, w') := by
  have hcode : runCode setup code ⟨[], .empty, w⟩ = (.ok v, ⟨[.value v], names, w'⟩) := by
    simp only [runCode, Action.bind_apply, require, Action.require, hallowed, if_true, h]
    rfl
  simp only [run, hcode]

/-- A sum of two or more plain values, the first or second of them a string, is a new string
with the texts of all operands in their order. Nothing is called or changed for it, and each
addition puts one string on the heap. -/
theorem sum_concatenates (setup : Setup η κ) (source : String) (w : World η κ) (v₀ v₁ : Value)
    (vs : List Value) (hw : w.debuggee.Reachable) (ha : w.debuggee.alive = true)
    (hc : w.debuggee.connected = true) (hroom : 2 ≤ setup.maxStack)
    (hlive : w.runs.isCancelled setup.run = false) (hexpired : ∀ pc, setup.expired pc = false)
    (hplain : ∀ v ∈ v₀ :: v₁ :: vs, w.debuggee.Plain v)
    (hstring : v₀.isString = true ∨ v₁.isString = true) :
    ∃ (text : Value → String) (h : Handle) (d' : Debuggee η),
      (∀ v ∈ v₀ :: v₁ :: vs,
        World.display setup.hooks setup.scope.thread v w = (.ok (text v), w)) ∧
      run setup (.sum source v₀ (v₁ :: vs)) w = (.ok (.object h), { w with debuggee := d' }) ∧
      h.isString = true ∧ (∀ x, w.debuggee.idOf x ≠ some h.id) ∧
      d'.objects.get? h.id =
        some ⟨stringType, .text (String.join ((v₀ :: v₁ :: vs).map text))⟩ ∧
      w.debuggee.Untouched d' ∧
      d'.objects.size = w.debuggee.objects.size + (v₁ :: vs).length := by
  have hshow v (hv : v ∈ v₀ :: v₁ :: vs) :=
    World.display_of_plain ha hc (hplain v hv) setup.hooks setup.scope.thread
  choose! text htext using hshow
  have hnow v (hv : v ∈ v₀ :: v₁ :: vs) := htext v hv w.debuggee (.refl _)
  have hfirst := Made.newString (.refl w.debuggee) hw.sound (n := 0) rfl (text v₀ ++ text v₁)
  obtain ⟨h, d', hrun, hmade⟩ := runFrom_additions hroom hlive hexpired ha hc hfirst
    (fun v hv => htext v (List.mem_cons_of_mem _ (List.mem_cons_of_mem _ hv))) .empty 3
  refine ⟨text, h, d', hnow, ?_, hmade.isString, ?_, ?_, hmade.toUntouched, ?_⟩
  · have hallowed : setup.mayChange || !(Code.sum source v₀ (v₁ :: vs)).hasSideEffects := by
      simp [Code.hasSideEffects_sum]
    have hpush := execute_push (s := ⟨[], .empty, w⟩) (Nat.lt_of_succ_lt hroom) 0 v₀
    have hadd := runFrom_addition hroom hlive hexpired ha hc hstring (hnow v₀ (by simp))
      (hnow v₁ (by simp)) .empty 1 vs
    exact run_of_runFrom hallowed
      ((runFrom_next hpush hlive hexpired _).trans (hadd.trans hrun))
  · intro x hx
    exact absurd (hw.identified.lt_nextId hx) (Nat.not_lt_of_le hmade.fresh)
  · rw [hmade.content, List.map_cons, List.map_cons, String.join_cons, String.join_cons,
      String.append_assoc]
  · rw [hmade.size, List.length_cons, Nat.zero_add, Nat.add_comm 1]

def letterWorld : World Unit Unit :=
  { (World.initial () : World Unit Unit) with debuggee := (Debuggee.initial.newString "a").2 }

def letter : Value := .object ⟨3, stringType⟩

/-- A string in the second place is early enough. -/
theorem sum_concatenates_letter :
    letterWorld.debuggee.Reachable ∧
    (∀ v ∈ [.null, letter, .int (-7), letter, .char 98], letterWorld.debuggee.Plain v) ∧
    ∃ h d', run shallowSetup (.sum "" .null [letter, .int (-7), letter, .char 98]) letterWorld =
        (.ok (.object h), { letterWorld with debuggee := d' }) ∧
      d'.objects.get? h.id = some ⟨stringType, .text "nulla-7ab"⟩ ∧
      letterWorld.debuggee.Untouched d' ∧ d'.objects.size = 5 := by
  have hreachable : letterWorld.debuggee.Reachable :=
    Debuggee.Reachable.initial.tail (.newString "a")
  have hplain : ∀ v ∈ [.null, letter, .int (-7), letter, .char 98],
      letterWorld.debuggee.Plain v := by
    simp only [List.forall_mem_cons, List.not_mem_nil, false_imp_iff, implies_true, and_true]
    exact ⟨.null, .string rfl rfl, .primitive rfl, .string rfl rfl, .primitive rfl⟩
  obtain ⟨text, h, d', htext, hrun, -, -, hcontent, huntouched, hsize⟩ :=
    sum_concatenates shallowSetup "" letterWorld .null letter [.int (-7), letter, .char 98]
      hreachable rfl rfl (Nat.le_refl 2) rfl (fun _ => rfl) hplain (.inr rfl)
  have hshown (v t) (hv : v ∈ [.null, letter, .int (-7), letter, .char 98])
      (h : World.display shallowSetup.hooks 1 v letterWorld = (.ok t, letterWorld)) :
      text v = t :=
    Except.ok.inj (congrArg Prod.fst ((htext v hv).symm.trans h))
  refine ⟨hreachable, hplain, h, d', hrun, ?_, huntouched, hsize⟩
  rw [hcontent, List.map_cons, List.map_cons, List.map_cons, List.map_cons, List.map_cons,
    hshown .null "null" (by simp) rfl, hshown letter "a" (by simp) rfl,
    hshown (.int (-7)) "-7" (by simp) rfl, hshown (.char 98) "b" (by simp) rfl]
  rfl

end Machine

end Probe

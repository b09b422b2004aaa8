import Probe.Proofs.Machine.Compatible

namespace Probe

open Probe.Action (Keeps Silent)

namespace Debuggee

variable {η : Type}

/-- Whether a call of a method of an object on a thread gets through. -/
def answers (d : Debuggee η) (thread : ThreadId) (h : Handle) : Bool :=
  d.alive && d.connected && ((d.threads.get? thread).any fun t => t.suspended && t.byEvent) &&
    d.objects.contains h.id

def holdsText (d : Debuggee η) (h : Handle) : Bool :=
  match d.objects.get? h.id with
  | some ⟨_, .text _⟩ => true
  | _ => false

theorem holdsText_iff {d : Debuggee η} {h : Handle} : d.holdsText h = true ↔
    ∃ typeName text, d.objects.get? h.id = some ⟨typeName, .text text⟩ := by
  unfold holdsText
  split <;> simp_all

/-- Whether an addition calls a method of one of its operands to get at its text. Operands are
shown from left to right. -/
def asksFor (d : Debuggee η) (thread : ThreadId) : Value → Value → Bool
  | .object l, .object r =>
    if l.isString then !r.isString && d.holdsText l && d.answers thread r
    else r.isString && d.answers thread l
  | _, _ => false

theorem asksFor_cases {d : Debuggee η} {thread : ThreadId} {l r : Value}
    (h : d.asksFor thread l r = true) : ∃ o o', l = .object o ∧ r = .object o' ∧
      (o.isString = true ∧ o'.isString = false ∧ d.holdsText o = true ∧
          d.answers thread o' = true ∨
        o.isString = false ∧ o'.isString = true ∧ d.answers thread o = true) := by
  unfold asksFor at h
  split at h
  · rename_i o o'
    refine ⟨o, o', rfl, rfl, ?_⟩
    cases ho : o.isString <;> simp_all
  · cases h

theorem live_of_answers {d : Debuggee η} {thread : ThreadId} {h : Handle}
    (ha : d.answers thread h = true) : d.alive = true ∧ d.connected = true := by
  simp only [answers, Bool.and_eq_true] at ha
  exact ha.1.1

end Debuggee

namespace Remote
set_option autoImplicit true

theorem answers_iff {d : Debuggee η} : d.answers thread h = true ↔
    checkInvocable thread d = (.ok (), d) ∧ ∃ object, heapObject h d = (.ok object, d) := by
  simp only [Debuggee.answers, Table.contains, Bool.and_eq_true, Option.any_eq_true,
    Option.isSome_iff_exists, checkInvocable_eq_ok, heapObject_eq_ok]
  constructor
  · rintro ⟨⟨⟨ha, hc⟩, ht⟩, object, ho⟩
    exact ⟨⟨trivial, ha, hc, ht⟩, object, trivial, ha, hc, ho⟩
  · rintro ⟨⟨-, ha, hc, ht⟩, object, -, -, -, ho⟩
    exact ⟨⟨⟨ha, hc⟩, ht⟩, object, ho⟩

theorem selectInstance_refused {d : Debuggee η} (h : d.answers thread o = false)
    (name signature : String) (args : List Value) :
    ∃ e, selectInstance o name signature args thread d = (.error e, d) := by
  by_cases hi : checkInvocable thread d = (.ok (), d)
  · have hno (object) : heapObject o d ≠ (.ok object, d) := by
      intro ho
      have hyes := answers_iff.2 ⟨hi, object, ho⟩
      rw [h] at hyes
      cases hyes
    obtain ⟨e, he⟩ := (silent_heapObject o).eq_error hno
    exact ⟨e, by simp only [selectInstance, Action.bind_apply, hi, he]⟩
  · obtain ⟨e, he⟩ := (silent_checkInvocable thread).eq_error fun _ => hi
    exact ⟨e, by simp only [selectInstance, Action.bind_apply, he]⟩

theorem selectInstance_logs {d : Debuggee η} (h : d.answers thread o = true)
    (name signature : String) (args : List Value) :
    ∃ entry, (selectInstance o name signature args thread d).2 = d.log entry := by
  obtain ⟨hi, object, ho⟩ := answers_iff.1 h
  refine ⟨"invoke " ++ object.typeName ++ "." ++ name ++ signature ++ " " ++ describeValues args,
    ?_⟩
  simp only [selectInstance, Action.bind_apply, hi, ho, log, Action.modify, Action.read]
  generalize ClassTable.resolveMethod _ _ _ _ = found
  cases found with
  | some found => rfl
  | none => cases isToString name signature <;> rfl

theorem stringText_eq_ok {d d' : Debuggee η} :
    stringText h d = (.ok text, d') ↔ d' = d ∧ d.alive = true ∧ d.connected = true ∧
      ∃ typeName, d.objects.get? h.id = some ⟨typeName, .text text⟩ := by
  simp only [stringText, Action.bind_eq_ok, heapObject_eq_ok]
  constructor
  · rintro ⟨⟨typeName, content⟩, _, ⟨rfl, ha, hc, ho⟩, ht⟩
    cases content with
    | text text =>
      cases ht
      exact ⟨rfl, ha, hc, typeName, ho⟩
    | fields | elements => cases ht
  · rintro ⟨rfl, ha, hc, typeName, ho⟩
    exact ⟨_, d', ⟨rfl, ha, hc, ho⟩, rfl⟩

end Remote

namespace World
set_option autoImplicit true

open Debuggee (LogExtends Logged)

theorem silent_display {hooks : Hooks η κ} {v : Value}
    (hv : ∀ h, v = .object h → h.isString = true) : Silent (display hooks thread v) := by
  cases v with
  | object h =>
    rw [display_string (hv h rfl)]
    exact silent_remote (Remote.silent_stringText h)
  | _ => exact .pure _

theorem display_refused {hooks : Hooks η κ} {w : World η κ} (hs : h.isString = false)
    (ha : w.debuggee.answers thread h = false) :
    ∃ e, display hooks thread (.object h) w = (.error e, w) := by
  obtain ⟨e, he⟩ := Remote.selectInstance_refused ha "toString" "()Ljava/lang/String;" []
  refine ⟨.error e, ?_⟩
  rw [display_object hs]
  simp only [invokeMethod, Action.bind_apply, remote, Action.zoom, he]
  rfl

theorem logged_display {hooks : Hooks η κ} {w : World η κ} (hs : h.isString = false)
    (ha : w.debuggee.answers thread h = true)
    (hh : ∀ label args, Keeps (Across κ LogExtends) (hooks label args)) :
    Across κ Logged w (display hooks thread (.object h) w).2 := by
  have hmono {w' w'' : World η κ} : Across κ Logged w w' → Across κ LogExtends w' w'' →
      Across κ Logged w w'' := Logged.extend
  rw [display_object hs]
  refine Action.rel_bind_left (R := Across κ LogExtends) ?_ (fun answer => ?_) hmono
  · refine Action.rel_bind_left (R := Across κ LogExtends) ?_
      ((composable_across LogExtends.allowsChanges hh).runCallee []) hmono
    obtain ⟨entry, he⟩ := Remote.selectInstance_logs ha "toString" "()Ljava/lang/String;" []
    show Logged _ (Remote.selectInstance _ _ _ _ _ _).2
    rw [he]
    exact Debuggee.logged_log _ _
  · split
    · exact keeps_remote (.of_silent (Remote.silent_stringText _))
    · exact .pure _

end World

namespace Machine
set_option autoImplicit true

open Debuggee (LogExtends Logged Spared)
open World (Across)

/-- Whether the visited instruction calls a method of an object it adds to a string. -/
def Visit.asks (setup : Setup η κ) (v : Visit η κ) : Bool :=
  match v.site.instruction, v.state.stack with
  | .binary (.arith .add), .value r :: .value l :: _ =>
    v.state.world.debuggee.asksFor setup.scope.thread l r
  | _, _ => false

theorem popValue_apply (site : Site) (s : State η κ) :
    popValue site s = match s.stack with
      | [] => (.error (.error (.malformed (.underflow site.pc site.instruction))), s)
      | .value v :: rest => (.ok v, { s with stack := rest })
      | .type _ :: rest =>
        (.error (.error (.malformed (.unexpected site.pc site.instruction .value))),
          { s with stack := rest }) := by
  rcases s with ⟨_ | ⟨_ | _, _⟩, _, _⟩ <;> rfl

theorem effect_binary (setup : Setup η κ) (op : BinaryOp)
    (hs : s.stack = .value r :: .value l :: rest) :
    effect setup ⟨pc, .binary op⟩ s = (combine setup op l r >>= pushValue setup ⟨pc, .binary op⟩)
      { s with stack := rest } := by
  simp only [effect, Action.bind_apply, popValue_apply, hs]

theorem inside_effect_binary (setup : Setup η κ) (op : BinaryOp)
    (hs : ∀ r l rest, s.stack ≠ .value r :: .value l :: rest) :
    Inside s (effect setup ⟨pc, .binary op⟩ s).2 := by
  rcases s with ⟨_ | ⟨_ | _, _ | ⟨_ | _, _⟩⟩, _, _⟩ <;> first | rfl | exact absurd rfl (hs _ _ _)

theorem call_error {c : Call η κ α} {s : State η κ} (h : c s.world = (.error e, s.world)) :
    call c s = (.error (e.map .ofRemote), s) := by
  simp only [call, Action.zoom, h]
  rfl

theorem isString_object (h : Handle) : (Value.object h).isString = h.isString := rfl

theorem isString_iff {v : Value} :
    v.isString = true ↔ ∃ h, v = .object h ∧ h.isString = true := by
  cases v <;> simp [Value.isString, Value.handle?]

theorem plain_or_object (v : Value) :
    (∀ h, v = .object h → h.isString = true) ∨ ∃ h, v = .object h ∧ h.isString = false := by
  cases v with
  | object h =>
    cases hs : h.isString with
    | true => exact .inl fun _ he => Value.object.inj he ▸ hs
    | false => exact .inr ⟨h, rfl, hs⟩
  | _ => exact .inl fun _ he => by cases he

variable {setup : Setup η κ} {s : State η κ}

theorem bind_refused (hs : o.isString = false)
    (ha : s.world.debuggee.answers setup.scope.thread o = false) (f : String → Exec η κ α) :
    ((call (World.display setup.hooks setup.scope.thread (.object o)) >>= f) s).2 = s := by
  obtain ⟨e, he⟩ : ∃ e, World.display setup.hooks setup.scope.thread (.object o) s.world =
      (.error e, s.world) := World.display_refused hs ha
  simp only [Action.bind_apply, call_error he]

theorem call_display_string (hs : o.isString = true) :
    call (World.display setup.hooks setup.scope.thread (.object o)) s = (.ok text, s') ↔
      s' = s ∧ s.world.debuggee.alive = true ∧ s.world.debuggee.connected = true ∧
        ∃ typeName, s.world.debuggee.objects.get? o.id = some ⟨typeName, .text text⟩ := by
  rw [World.display_string hs]
  simp only [call, World.remote, Action.zoom_eq_ok, Remote.stringText_eq_ok]
  constructor
  · rintro ⟨_, ⟨_, ⟨rfl, ht⟩, rfl⟩, rfl⟩
    exact ⟨rfl, ht⟩
  · rintro ⟨rfl, ht⟩
    exact ⟨_, ⟨_, ⟨rfl, ht⟩, rfl⟩, rfl⟩

/-- Where no object is asked, either none has to be or the call is refused. -/
theorem spared_concat (hlr : l.isString = true ∨ r.isString = true)
    (hask : s.world.debuggee.asksFor setup.scope.thread l r = false) :
    Seen (Across κ Spared) s (concat setup l r s).2 := by
  have hsteps := composable_seen (World.withstands_additions Spared.allowsAdditions setup.hooks)
  rcases plain_or_object l with hl | ⟨o, rfl, ho⟩
  · have hleft (v) (hv : ∀ h, v = .object h → h.isString = true) :
        Keeps (Seen (Across κ Spared)) (call (World.display setup.hooks setup.scope.thread v)) :=
      seen_call (.of_silent (World.silent_display hv))
    refine Action.rel_bind (hleft l hl s) fun left s' hs' => ?_
    rcases plain_or_object r with hr | ⟨o, rfl, ho⟩
    · exact (hleft r hr).bind (fun right => hsteps.makeText _) s'
    · have hl' : l.isString = true := hlr.resolve_right (by simp [isString_object, ho])
      obtain ⟨o', rfl, ho'⟩ := isString_iff.1 hl'
      obtain ⟨rfl, -, -, typeName, ht⟩ := (call_display_string ho').1 hs'
      have ha : s'.world.debuggee.answers setup.scope.thread o = false := by
        simpa [Debuggee.asksFor, ho, ho', Debuggee.holdsText, ht] using hask
      rw [bind_refused ho ha]
      exact refl s'
  · have hr : r.isString = true := hlr.resolve_left (by simp [isString_object, ho])
    obtain ⟨o', rfl, ho'⟩ := isString_iff.1 hr
    have ha : s.world.debuggee.answers setup.scope.thread o = false := by
      simpa [Debuggee.asksFor, ho, ho'] using hask
    rw [concat, bind_refused ho ha]
    exact refl s

theorem logged_concat
    (hh : ∀ label args, Keeps (World.Across κ LogExtends) (setup.hooks label args))
    (hask : s.world.debuggee.asksFor setup.scope.thread l r = true) :
    Seen (Across κ Logged) s (concat setup l r s).2 := by
  have hmono {s' s'' : State η κ} : Seen (Across κ Logged) s s' →
      Seen (Across κ LogExtends) s' s'' →
      Seen (Across κ Logged) s s'' := Logged.extend
  have hsteps := composable_seen (World.withstands_changes LogExtends.allowsChanges hh)
  obtain ⟨o, o', rfl, rfl, ⟨ho, ho', ht, ha⟩ | ⟨ho, -, ha⟩⟩ := Debuggee.asksFor_cases hask
  · obtain ⟨typeName, text, ht⟩ := Debuggee.holdsText_iff.1 ht
    obtain ⟨hlive, hconnected⟩ := Debuggee.live_of_answers ha
    have hleft : call (World.display setup.hooks setup.scope.thread (.object o)) s =
        (.ok text, s) :=
      (call_display_string ho).2 ⟨rfl, hlive, hconnected, typeName, ht⟩
    rw [concat, Action.bind_apply, hleft]
    exact Action.rel_bind_left (World.logged_display ho' ha hh)
      (fun _ => hsteps.makeText _) hmono
  · exact Action.rel_bind_left (World.logged_display ho ha hh)
      (fun _ => (hsteps.display trivial _).bind fun _ => hsteps.makeText _) hmono

theorem spared_combine (op : BinaryOp)
    (hask : op = .arith .add → s.world.debuggee.asksFor setup.scope.thread l r = false) :
    Seen (Across κ Spared) s (combine setup op l r s).2 := by
  unfold combine
  split
  · rename_i h
    exact spared_concat h.2 (hask h.1)
  · exact Keeps.of_silent (silent_ofResult _) s

theorem isString_of_asksFor {d : Debuggee η} (hask : d.asksFor thread l r = true) :
    l.isString = true ∨ r.isString = true := by
  obtain ⟨o, o', rfl, rfl, ⟨ho, -⟩ | ⟨-, ho', -⟩⟩ := Debuggee.asksFor_cases hask
  · exact .inl ho
  · exact .inr ho'

theorem Visit.spared (v : Visit η κ) (hi : v.site.instruction.hasSideEffects = false)
    (hask : v.asks setup = false) : Seen (Across κ Spared) v.state (v.after setup) := by
  obtain ⟨⟨pc, i⟩, s⟩ := v
  unfold Seen Visit.after
  rw [execute_world]
  by_cases hb : ∃ op, i = .binary op
  · obtain ⟨op, rfl⟩ := hb
    by_cases hs : ∃ r l rest, s.stack = .value r :: .value l :: rest
    · obtain ⟨r, l, rest, hs⟩ := hs
      rw [effect_binary setup op hs]
      have hquiet : op = .arith .add →
          s.world.debuggee.asksFor setup.scope.thread l r = false := by
        rintro rfl
        simpa only [Visit.asks, hs] using hask
      exact Action.rel_bind (R := Seen (Across κ Spared)) (s := { s with stack := rest })
        (spared_combine op hquiet) fun result s' _ =>
          seen_of_inside (inside_pushValue setup _ result) s'
    · exact Inside.seen (T := Across κ Spared)
        (inside_effect_binary setup op fun r l rest h => hs ⟨r, l, rest, h⟩)
  · have hlooks : ¬(i.hasSideEffects = true ∨ ∃ op, i = .binary op) :=
      not_or.2 ⟨Bool.eq_false_iff.1 hi, hb⟩
    exact seen_effect (World.withstands_additions Spared.allowsAdditions setup.hooks) _ hlooks s

theorem Visit.logged {v : Visit η κ}
    (hh : ∀ label args, Keeps (World.Across κ LogExtends) (setup.hooks label args))
    (hask : v.asks setup = true) : Seen (Across κ Logged) v.state (v.after setup) := by
  obtain ⟨⟨pc, i⟩, s⟩ := v
  unfold Seen Visit.after
  rw [execute_world]
  unfold Visit.asks at hask
  split at hask
  · rename_i r l rest hi hs
    obtain rfl : i = _ := hi
    rw [effect_binary setup _ hs]
    have hcombine : combine setup (.arith .add) l r = concat setup l r := by
      simp only [combine, isString_of_asksFor hask, and_self, if_true]
    rw [hcombine]
    exact Action.rel_bind_left (R := Seen (Across κ LogExtends)) (s := { s with stack := rest })
      (logged_concat hh hask) (fun v => seen_of_inside (inside_pushValue setup _ v))
      Logged.extend
  · cases hask

/-- Code that must not change the debuggee leaves it as it was unless it adds an object to a
string; then it calls a method of that object and the call is logged. -/
theorem run_untouched (setup : Setup η κ) (code : Code) (w : World η κ)
    (hset : setup.mayChange = false) (hw : w.debuggee.Reachable) :
    ((∀ v ∈ visits setup code w, v.asks setup = false) →
      w.debuggee.Untouched (run setup code w).2.debuggee) ∧
    ((∀ label args, Keeps (World.Across κ LogExtends) (setup.hooks label args)) →
      (∃ v ∈ visits setup code w, v.asks setup = true) →
      w.debuggee.calls.length < (run setup code w).2.debuggee.calls.length) := by
  constructor
  · intro hquiet
    have hspan := seen_visits fun v (hv : v ∈ visits setup code w) =>
      v.spared (hasSideEffects_of_visits hset hv) (hquiet v hv)
    exact (hspan.whole hw.sound).2
  · rintro hh ⟨v, hv, hask⟩
    have hspan := seen_visits fun u (_ : u ∈ visits setup code w) =>
      seen_visit (World.withstands_changes LogExtends.allowsChanges hh) trivial u
    calc w.debuggee.calls.length
        _ ≤ v.state.world.debuggee.calls.length := (hspan.before v hv).length_le
        _ < (v.after setup).world.debuggee.calls.length := Visit.logged hh hask
        _ ≤ (run setup code w).2.debuggee.calls.length := (hspan.behind v hv).length_le

def counterClass : ClassDef Unit :=
  { name := "Counter"
    fields := [("calls", .int 0)]
    methods := [⟨"toString", "()Ljava/lang/String;", .hook ()⟩] }

def counter : Handle := ⟨4, "Counter"⟩

def counterWorld : World Unit Unit :=
  { (World.initial () : World Unit Unit) with
    debuggee := (((Debuggee.initial.addClass counterClass).2.addThread 1 []).newObject
      "Counter").2 }

/-- Shows an object and notes in it that it was shown. -/
def counterHooks : Hooks Unit Unit := fun _ _ => do
  World.remote (Remote.setField counter "calls" (.int 1))
  return .null

def watchCounter : Setup Unit Unit :=
  { hooks := counterHooks
    scope := { thread := 1, receivingType := ⟨3, "Counter", .classType⟩ }
    mayChange := false
    run := 0 }

def addition (v : Value) : Code :=
  ⟨"\"a\" + v", [.pushString "a", .push v, .binary (.arith .add)], rfl⟩

theorem counterWorld_reachable : counterWorld.debuggee.Reachable :=
  ((Debuggee.Reachable.initial.tail (.addClass counterClass)).tail (.addThread 1 [])).tail
    (.newObject "Counter")

theorem counterHooks_extend (label : Unit) (args : List Value) :
    Keeps (World.Across Unit LogExtends) (counterHooks label args) :=
  (World.keeps_remote (Remote.keeps_setField LogExtends.allowsChanges counter _ _)).bind
    fun _ => .pure _

theorem run_untouched_counter :
    watchCounter.mayChange = false ∧ counterWorld.debuggee.Reachable ∧
    (∀ label args, Keeps (World.Across Unit LogExtends) (watchCounter.hooks label args)) ∧
    (∀ v ∈ visits watchCounter (addition (.int 7)) counterWorld, v.asks watchCounter = false) ∧
    counterWorld.debuggee.Untouched (run watchCounter (addition (.int 7)) counterWorld).2.debuggee ∧
    (∃ v ∈ visits watchCounter (addition (.object counter)) counterWorld,
      v.asks watchCounter = true) ∧
    counterWorld.debuggee.calls.length <
      (run watchCounter (addition (.object counter)) counterWorld).2.debuggee.calls.length := by
  have hquiet : ∀ v ∈ visits watchCounter (addition (.int 7)) counterWorld,
      v.asks watchCounter = false := by decide
  have hask : ∃ v ∈ visits watchCounter (addition (.object counter)) counterWorld,
      v.asks watchCounter = true := by decide
  exact ⟨rfl, counterWorld_reachable, counterHooks_extend, hquiet,
    (run_untouched _ _ _ rfl counterWorld_reachable).1 hquiet, hask,
    (run_untouched _ _ _ rfl counterWorld_reachable).2 counterHooks_extend hask⟩

/-- Code that must not change the debuggee runs a method of an object and changes its field. -/
theorem watch_changes_counter :
    watchCounter.mayChange = false ∧ (addition (.object counter)).hasSideEffects = false ∧
    counterWorld.debuggee.peekField? counter "calls" = some (.int 0) ∧
    (run watchCounter (addition (.object counter)) counterWorld).2.debuggee.peekField? counter
      "calls" = some (.int 1) := by
  decide

end Machine

end Probe

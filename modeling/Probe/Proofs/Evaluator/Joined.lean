import Probe.Proofs.Evaluator.Exclusion

namespace Probe.Evaluator
set_option autoImplicit true

namespace Activity

def awaits? : {α : Type} → Activity η κ α → Option Nat
  | _, .outside (.join session _) => some session
  | _, .outside _ => none
  | _, .inside _ _ inner _ => inner.awaits?

/-- Goes on with the outcome waited for. -/
def resumed (outcome : Outcome) : {α : Type} → Activity η κ α → Activity η κ α
  | _, .outside (.join _ next) => .outside (next outcome)
  | _, .outside p => .outside p
  | _, .inside e thread inner next => .inside e thread (inner.resumed outcome) next

theorem result?_of_awaits {a : Activity η κ α} (h : a.awaits? = some session) :
    a.result? = none := by
  apply result?_of_ne_done
  rintro result rfl
  cases h

/-- Who waits for a session moves on exactly when the outcome was sent, and gets this
outcome. -/
theorem turn_of_awaits {a : Activity η κ α} (h : a.awaits? = some session) (view : View η κ) :
    a.turn? view = view.outcomes[session]?.join.map fun outcome =>
      { next := a.resumed outcome, world := view.world } := by
  induction a with
  | outside p =>
    cases p with
    | join session' next =>
      cases h
      rcases ho : view.outcomes[session]? with _ | _ | outcome <;> simp only [turn?, ho] <;> rfl
    | done | work | evaluate | start => cases h
  | inside e thread inner next ih =>
    have hinner : inner.awaits? = some session := h
    simp only [turn?, result?_of_awaits hinner, ih hinner, Option.map_map]
    rfl

end Activity

namespace Worker

def awaits? : Worker η κ → Option Nat
  | .client a => a.awaits?
  | .job _ _ (.running body) => body.awaits?
  | .job _ _ _ => none

def resumed (outcome : Outcome) : Worker η κ → Worker η κ
  | .client a => .client (a.resumed outcome)
  | .job e thread (.running body) => .job e thread (.running (body.resumed outcome))
  | worker => worker

theorem turn_of_awaits {worker : Worker η κ} (h : worker.awaits? = some session)
    (view : View η κ) :
    worker.turn? view = view.outcomes[session]?.join.map fun outcome =>
      { next := worker.resumed outcome, world := view.world } := by
  rcases worker with a | ⟨e, thread, body | _ | _⟩
  · have ha : a.awaits? = some session := h
    simp only [turn?, Activity.turn_of_awaits ha, Option.map_map]
    rfl
  · have hbody : body.awaits? = some session := h
    simp only [turn?, Activity.result?_of_awaits hbody, Activity.turn_of_awaits hbody,
      Option.map_map]
    rfl
  · cases h
  · cases h

theorem outcome?_eq_some_iff {worker : Worker η κ} : worker.outcome? = some outcome ↔
    ∃ e thread,
      worker = .job e thread (.sent outcome) ∨ worker = .job e thread (.over outcome) := by
  rcases worker with a | ⟨e, thread, body | _ | _⟩ <;> simp [outcome?]

end Worker

namespace System

/-- The job of the session has sent the outcome, and may still have to give the lease back. -/
def Sent (sys : System η κ) (session : Nat) (e : Evaluator) (thread : ThreadId)
    (outcome : Outcome) : Prop :=
  sys.workers[session]? = some (.job e thread (.sent outcome)) ∨
    sys.workers[session]? = some (.job e thread (.over outcome))

theorem sent_of_view {sys : System η κ}
    (h : sys.view.outcomes[session]? = some (some outcome)) :
    ∃ e thread, sys.Sent session e thread outcome := by
  rw [view, List.getElem?_map, Option.map_eq_some_iff] at h
  obtain ⟨worker, hw, ho⟩ := h
  obtain ⟨e, thread, rfl | rfl⟩ := Worker.outcome?_eq_some_iff.1 ho
  · exact ⟨e, thread, .inl hw⟩
  · exact ⟨e, thread, .inr hw⟩

theorem getElem?_step_of_ne {sys : System η κ} (hj : sys.workers[j]? = some worker)
    (hne : j ≠ i) : (sys.step i).workers[j]? = some worker := by
  cases hw : sys.workers[i]? with
  | none => rwa [step_of_absent hw]
  | some other =>
    cases ht : other.turn? sys.view with
    | none => rwa [step_of_waiting hw ht]
    | some t =>
      have hlt := (List.getElem?_eq_some_iff.1 hj).1
      rw [step_of_turn hw ht, List.getElem?_append_left (by rwa [List.length_set]),
        List.getElem?_set_ne hne.symm]
      exact hj

theorem step_of_sent {sys : System η κ}
    (hs : sys.workers[session]? = some (.job e thread (.sent outcome))) :
    sys.step session = ⟨sys.world.giveBack ⟨e.id, thread⟩,
      sys.workers.set session (.job e thread (.over outcome))⟩ := by
  rw [step_of_turn hs rfl, List.append_nil]
  rfl

theorem Sent.step {sys : System η κ} (h : sys.Sent session e thread outcome) (i : Nat) :
    (sys.step i).Sent session e thread outcome := by
  by_cases hi : session = i
  · subst hi
    rcases h with h | h
    · right
      rw [step_of_sent h, List.getElem?_set_self (List.getElem?_eq_some_iff.1 h).1]
    · right
      rwa [step_of_waiting h rfl]
  · exact h.imp (getElem?_step_of_ne · hi) (getElem?_step_of_ne · hi)

theorem Sent.run {sys : System η κ} (h : sys.Sent session e thread outcome)
    (schedule : List Nat) : (sys.run schedule).Sent session e thread outcome := by
  induction schedule generalizing sys with
  | nil => exact h
  | cons i schedule ih => exact ih (h.step i)

theorem mem_held_iff {sys : System η κ} : lease ∈ sys.held ↔
    ∃ (k : Nat) (worker : Worker η κ), sys.workers[k]? = some worker ∧ lease ∈ worker.held := by
  rw [held, List.mem_flatMap]
  constructor
  · rintro ⟨worker, hm, hl⟩
    obtain ⟨k, hk⟩ := List.mem_iff_getElem?.1 hm
    exact ⟨k, worker, hk, hl⟩
  · rintro ⟨k, worker, hk, hl⟩
    exact ⟨worker, List.mem_of_getElem? hk, hl⟩

/-- No worker but the job of the session is inside an evaluation with this lease. -/
def Unshared (sys : System η κ) (session : Nat) (lease : Lease) : Prop :=
  ∀ k worker, k ≠ session → sys.workers[k]? = some worker → lease ∉ worker.held

/-- What is true from the moment on at which a session was joined. Copies of an evaluator are
those with the same number. -/
structure Joined (sys : System η κ) (session : Nat) (e : Evaluator) (thread : ThreadId)
    (outcome : Outcome) : Prop where
  sent : sys.Sent session e thread outcome
  /-- Until the job has its next turn, the thread is busy and calls on it are refused. -/
  busy : sys.workers[session]? = some (.job e thread (.sent outcome)) →
    e.isBusy thread sys.world = true ∧
    (∀ i worker e', e'.id = e.id → sys.workers[i]? = some worker →
      worker.call? = some (e', thread) →
      sys.step i = ⟨sys.world, sys.workers.set i worker.refused⟩) ∧
    (sys.step session).workers[session]? = some (.job e thread (.over outcome)) ∧
    e.isBusy thread (sys.step session).world = false
  /-- After that turn, only another evaluation can make the thread busy. -/
  free : sys.workers[session]? = some (.job e thread (.over outcome)) →
    sys.Unshared session ⟨e.id, thread⟩ →
    e.isBusy thread sys.world = false ∧
    ∀ i worker e', e'.id = e.id → sys.workers[i]? = some worker →
      worker.call? = some (e', thread) →
      (sys.step i).world = sys.world.take ⟨e.id, thread⟩ ∧
        (sys.step i).held.Perm (⟨e.id, thread⟩ :: sys.held)

theorem isBusy_congr {e e' : Evaluator} (h : e'.id = e.id) (thread : ThreadId) (w : World η κ) :
    e'.isBusy thread w = e.isBusy thread w := by
  rw [isBusy, h, isBusy]

theorem Sound.joined {sys : System η κ} (h : sys.Sound)
    (hs : sys.Sent session e thread outcome) : sys.Joined session e thread outcome := by
  refine ⟨hs, fun hsent => ?_, fun hover halone => ?_⟩
  · have hb : e.isBusy thread sys.world = true :=
      (h.isBusy_iff e thread).2 (mem_held_iff.2 ⟨session, _, hsent, List.mem_singleton_self _⟩)
    refine ⟨hb, fun i worker e' hid hw hc => ?_, ?_, ?_⟩
    · exact step_of_busy hw hc ((isBusy_congr hid thread sys.world).trans hb)
    · rw [step_of_sent hsent, List.getElem?_set_self (List.getElem?_eq_some_iff.1 hsent).1]
    · exact ((h.step session).isBusy_eq_false_iff e thread).2 (h.not_held_of_ending hsent rfl).2
  · have hb : e.isBusy thread sys.world = false := by
      rw [h.isBusy_eq_false_iff, mem_held_iff]
      rintro ⟨k, worker, hk, hl⟩
      by_cases hks : k = session
      · subst hks
        rw [hover] at hk
        cases hk
        cases hl
      · exact halone k worker hks hk hl
    refine ⟨hb, fun i worker e' hid hw hc => ?_⟩
    have hgranted := held_of_free hw hc ((isBusy_congr hid thread sys.world).trans hb)
    rwa [hid] at hgranted

/-- However turns are ordered: who joins a session gets the outcome that its job has sent. From
then on, the thread is busy until the job has given the lease back, which takes it one turn, and
not after that unless something else evaluates there. -/
theorem joined_session (w : World η κ) (clients : List (Process η κ Unit))
    (before later : List Nat) (i session : Nat) (worker : Worker η κ)
    (hw : ((initial w clients).run before).workers[i]? = some worker)
    (ha : worker.awaits? = some session)
    (hmoves : (worker.turn? ((initial w clients).run before).view).isSome = true) :
    let sys := (initial w clients).run before
    ∃ e thread outcome,
      sys.step i = ⟨sys.world, sys.workers.set i (worker.resumed outcome)⟩ ∧
      ((sys.step i).run later).Joined session e thread outcome := by
  have h := (Sound.initial w clients).run before
  intro sys
  obtain ⟨t, ht⟩ := Option.isSome_iff_exists.1 hmoves
  have hturn := (Worker.turn_of_awaits ha sys.view).symm.trans ht
  obtain ⟨outcome, ho, rfl⟩ := Option.map_eq_some_iff.1 hturn
  obtain ⟨e, thread, hs⟩ := sent_of_view (Option.join_eq_some_iff.1 ho)
  refine ⟨e, thread, outcome, ?_, ((h.step i).run later).joined ((hs.step i).run later)⟩
  rw [step_of_turn hw ht, List.append_nil]
  rfl

def plainScope : Scope := { thread := 1, receivingType := ⟨3, "Main", .classType⟩ }

def one : Code := ⟨"1", [.push (.int 1)], rfl⟩

def noCallbacks : Callbacks Unit (List Outcome) := fun _ _ => .done (.ok .null)

def twice : Process Unit (List Outcome) Unit :=
  .start plainEvaluator 1 (.body plainEvaluator .inSession .still noCallbacks one plainScope
    .console) fun
    | .error _ => .done ()
    | .ok session => .join session fun outcome => note outcome <|
      (Process.evaluation plainEvaluator .atOnce .still noCallbacks one plainScope .console).bind
        fun outcome => note outcome (.done ())

theorem joined_session_twice :
    let sys := (initial (.initial []) [twice]).run (0 :: List.replicate 9 1)
    ∃ worker, sys.workers[0]? = some worker ∧ worker.awaits? = some 1 ∧
      (worker.turn? sys.view).isSome = true ∧
      ∃ e thread outcome, ((sys.step 0).run [1]).Joined 1 e thread outcome := by
  intro sys
  refine ⟨_, rfl, rfl, rfl, ?_⟩
  obtain ⟨e, thread, outcome, -, hj⟩ := joined_session (.initial []) [twice]
    (0 :: List.replicate 9 1) [1] 0 1 _ rfl rfl rfl
  exact ⟨e, thread, outcome, hj⟩

/-- The session is joined, no other evaluation was started, and the next one is refused. -/
theorem busy_after_join :
    let sys := (initial (.initial []) [twice]).run (0 :: List.replicate 9 1 ++ [0, 0])
    sys.world.client = [.ok (.int 1)] ∧
    sys.world.runs.started = 1 ∧
    plainEvaluator.isBusy 1 sys.world = true ∧
    (sys.run [0, 0]).world.client = [.ok (.int 1), .error (.error (.threadBusy 1))] := by
  intro sys
  exact ⟨rfl, rfl, rfl, rfl⟩

end System

end Probe.Evaluator

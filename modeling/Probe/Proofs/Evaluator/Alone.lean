import Probe.Proofs.Evaluator.Leases

namespace Probe.Evaluator
set_option autoImplicit true

namespace Process

def bind : {α : Type} → Process η κ α → (α → Process η κ β) → Process η κ β
  | _, .done result, f => f result
  | _, .work act keeps next, f => .work act keeps fun w => (next w).bind f
  | _, .evaluate e thread body next, f => .evaluate e thread body fun outcome =>
    (next outcome).bind f
  | _, .start e thread body next, f => .start e thread body fun session => (next session).bind f
  | _, .join session next, f => .join session fun outcome => (next outcome).bind f

/-- Starts a session and waits for its outcome. -/
def session (e : Evaluator) (thread : ThreadId) (body : Process η κ Outcome) :
    Process η κ Outcome :=
  .start e thread body fun
    | .ok session => .join session .done
    | .error stop => .done (.error stop)

end Process

namespace Activity

def bind (a : Activity η κ α) (f : α → Process η κ β) : Activity η κ β :=
  match a with
  | .outside p => .outside (p.bind f)
  | .inside e thread inner next => .inside e thread inner fun outcome => (next outcome).bind f

theorem turn?_bind {a : Activity η κ α} (f : α → Process η κ β) (h : a.turn? view = some t) :
    (a.bind f).turn? view = some (t.map (·.bind f)) := by
  cases a with
  | outside p =>
    cases p with
    | done result => cases h
    | work act keeps next =>
      cases h
      rfl
    | evaluate e thread body next =>
      rcases ha : e.acquire thread view.world with ⟨_ | _, w⟩ <;> simp only [turn?, ha] at h <;>
        cases h <;> simp only [bind, Process.bind, turn?, ha] <;> rfl
    | start e thread body next =>
      rcases ha : e.acquire thread view.world with ⟨_ | _, w⟩ <;> simp only [turn?, ha] at h <;>
        cases h <;> simp only [bind, Process.bind, turn?, ha] <;> rfl
    | join session next =>
      rcases ho : view.outcomes[session]? with _ | _ | outcome <;> simp only [turn?, ho] at h
      · cases h
      · cases h
      · cases h
        simp only [bind, Process.bind, turn?, ho]
        rfl
  | inside e thread inner next =>
    simp only [turn?] at h
    simp only [bind, turn?]
    cases hr : inner.result? with
    | some outcome =>
      simp only [hr] at h
      cases h
      rfl
    | none =>
      simp only [hr] at h
      obtain ⟨t', ht', rfl⟩ := Option.map_eq_some_iff.1 h
      rw [ht']
      rfl

theorem turn_of_join {next : Outcome → Process η κ α} {view : View η κ}
    (h : view.outcomes[session]? = some (some outcome)) :
    (outside (.join session next)).turn? view =
      some { next := .outside (next outcome), world := view.world } := by
  simp only [turn?, h]

theorem result?_of_turn {a : Activity η κ α} (h : a.turn? view = some t) : a.result? = none := by
  apply result?_of_ne_done
  rintro result rfl
  cases h

end Activity

/-- A worker that has the turns of an activity inside it. -/
def Lifts (L : Activity η κ α → Worker η κ) : Prop :=
  ∀ a view t, a.turn? view = some t → (L a).turn? view = some (t.map L)

namespace Lifts

theorem client : Lifts (Worker.client : Activity η κ Unit → Worker η κ) := by
  intro a view t h
  simp only [Worker.turn?, h]
  rfl

theorem job (e : Evaluator) (thread : ThreadId) :
    Lifts fun a : Activity η κ Outcome => .job e thread (.running a) := by
  intro a view t h
  simp only [Worker.turn?, Activity.result?_of_turn h, h]
  rfl

theorem inside {L : Activity η κ α → Worker η κ} (hL : Lifts L) (e : Evaluator)
    (thread : ThreadId) (next : Outcome → Process η κ α) :
    Lifts fun a => L (.inside e thread a next) := by
  intro a view t h
  have hturn : (Activity.inside e thread a next).turn? view =
      some (t.map (.inside e thread · next)) := by
    simp only [Activity.turn?, Activity.result?_of_turn h, h]
    rfl
  exact hL _ _ _ hturn

theorem bind {L : Activity η κ β → Worker η κ} (hL : Lifts L) (f : α → Process η κ β) :
    Lifts fun a : Activity η κ α => L (a.bind f) :=
  fun _ _ _ h => hL _ _ _ (Activity.turn?_bind f h)

end Lifts

def Worker.isOver : Worker η κ → Bool
  | .job _ _ (.over _) => true
  | _ => false

namespace System

/-- Some turns bring worker `i` and the world here. All other workers stay as they are; sessions
started meanwhile are over. -/
def Leads (sys : System η κ) (i : Nat) (worker : Worker η κ) (w : World η κ) : Prop :=
  ∃ schedule jobs, (∀ j ∈ jobs, j.isOver = true) ∧
    sys.run schedule = ⟨w, sys.workers.set i worker ++ jobs⟩

theorem getElem?_set_append {xs : List α} (hi : i < xs.length) (x : α) (ys : List α) :
    (xs.set i x ++ ys)[i]? = some x := by
  rw [List.getElem?_append_left (by rwa [List.length_set]), List.getElem?_set_self hi]

theorem set_set_append {xs : List α} (hi : i < xs.length) (x y : α) (ys : List α) :
    (xs.set i x ++ ys).set i y = xs.set i y ++ ys := by
  rw [List.set_append_left _ _ (by rwa [List.length_set]), List.set_set]

theorem run_append (sys : System η κ) (schedule schedule' : List Nat) :
    sys.run (schedule ++ schedule') = (sys.run schedule).run schedule' :=
  List.foldl_append

theorem set_self {sys : System η κ} (hw : sys.workers[i]? = some worker) :
    sys.workers.set i worker = sys.workers := by
  obtain ⟨hi, rfl⟩ := List.getElem?_eq_some_iff.1 hw
  exact List.set_getElem_self hi

theorem Leads.refl {sys : System η κ} (hw : sys.workers[i]? = some worker) :
    sys.Leads i worker sys.world :=
  ⟨[], [], by simp, by simp [run, set_self hw]⟩

theorem Leads.trans {sys : System η κ} (hi : i < sys.workers.length)
    (h : sys.Leads i worker w)
    (h' : ∀ sys' : System η κ, sys'.workers[i]? = some worker → sys'.world = w →
      sys'.Leads i worker' w') : sys.Leads i worker' w' := by
  obtain ⟨schedule, jobs, hjobs, hrun⟩ := h
  have hw : (sys.run schedule).workers[i]? = some worker := by
    rw [hrun, getElem?_set_append hi]
  have hworld : (sys.run schedule).world = w := by rw [hrun]
  obtain ⟨schedule', jobs', hjobs', hrun'⟩ := h' _ hw hworld
  refine ⟨schedule ++ schedule', jobs ++ jobs', ?_, ?_⟩
  · intro j hj
    exact (List.mem_append.1 hj).elim (hjobs j) (hjobs' j)
  · rw [run_append, hrun', hrun, set_set_append hi, List.append_assoc]

theorem Leads.turn {sys : System η κ} (hw : sys.workers[i]? = some worker)
    (ht : worker.turn? sys.view = some t) (hj : t.jobs = []) : sys.Leads i t.next t.world := by
  refine ⟨[i], [], by simp, ?_⟩
  change sys.step i = _
  rw [step_of_turn hw ht, hj]

end System

/-- Left alone, the process has the result and the effect of the action. -/
def Implements (p : Process η κ α) (x : World η κ → α × World η κ) : Prop :=
  ∀ L : Activity η κ α → Worker η κ, Lifts L → ∀ (sys : System η κ) (i : Nat),
    sys.workers[i]? = some (L (.outside p)) →
    sys.Leads i (L (.outside (.done (x sys.world).1))) (x sys.world).2

namespace Implements

theorem done (a : α) : Implements (.done a : Process η κ α) fun w => (a, w) :=
  fun _ _ _ _ hw => .refl hw

theorem work {act : World η κ → World η κ} {keeps : ∀ w, (act w).leases = w.leases}
    {next : World η κ → Process η κ α} {y : World η κ → World η κ → α × World η κ}
    (h : ∀ w, Implements (next w) (y w)) :
    Implements (.work act keeps next) fun w => y w (act w) := by
  intro L hL sys i hw
  have hi := (List.getElem?_eq_some_iff.1 hw).1
  have hturn := System.Leads.turn hw (hL (.outside (.work act keeps next)) _ _ rfl) rfl
  refine hturn.trans hi fun sys' hw' hworld => ?_
  have hnext := h sys.world L hL sys' i hw'
  rwa [hworld] at hnext

theorem bind {p : Process η κ α} {f : α → Process η κ β} {x : World η κ → α × World η κ}
    {y : α → World η κ → β × World η κ} (hp : Implements p x)
    (hf : ∀ a, Implements (f a) (y a)) :
    Implements (p.bind f) fun w => y (x w).1 (x w).2 := by
  intro L hL sys i hw
  have hi := (List.getElem?_eq_some_iff.1 hw).1
  have hfirst := hp (fun a => L (a.bind f)) (hL.bind f) sys i hw
  refine hfirst.trans hi fun sys' hw' hworld => ?_
  have hnext := hf (x sys.world).1 L hL sys' i hw'
  rwa [hworld] at hnext

theorem congr {p : Process η κ α} {x y : World η κ → α × World η κ} (h : Implements p x)
    (hxy : ∀ w, x w = y w) : Implements p y := by
  rwa [← funext hxy]

end Implements

/-- The process does, left alone, what the action does. -/
def Performs (p : Process η κ (Except ε α)) (x : Action (World η κ) ε α) : Prop :=
  Implements p fun w => x w

namespace Performs

theorem evaluate (e : Evaluator) (thread : ThreadId) {body : Process η κ Outcome}
    {x : Evaluation η κ Value} (hb : Performs body x) :
    Performs (.evaluate e thread body .done) (e.holding thread x) := by
  intro L hL sys i hw
  beta_reduce
  have hi := (List.getElem?_eq_some_iff.1 hw).1
  have hturn := hL (.outside (.evaluate e thread body .done)) sys.view
  cases hbusy : e.isBusy thread sys.world with
  | true =>
    rw [holding_of_busy hbusy]
    have hcall := hturn _ (Activity.turn_of_busy rfl hbusy)
    exact System.Leads.turn hw hcall rfl
  | false =>
    rw [holding_of_free hbusy]
    have hcall : (Activity.outside (.evaluate e thread body .done)).turn? sys.view = some
        { next := .inside e thread (.outside body) .done
          world := sys.world.take ⟨e.id, thread⟩ } := by
      simp only [Activity.turn?, System.view, acquire_of_free hbusy]
    refine (System.Leads.turn hw (hturn _ hcall) rfl).trans hi fun sys₁ hw₁ hworld₁ => ?_
    have hbody := hb _ (hL.inside e thread .done) sys₁ i hw₁
    rw [hworld₁] at hbody
    refine hbody.trans (List.getElem?_eq_some_iff.1 hw₁).1 fun sys₂ hw₂ hworld₂ => ?_
    have hend : sys₂.Leads i (L (.outside (.done (x (sys.world.take ⟨e.id, thread⟩)).1)))
        (sys₂.world.giveBack ⟨e.id, thread⟩) := System.Leads.turn hw₂ (hL _ _ _ rfl) rfl
    rwa [hworld₂] at hend

/-- A job left alone does its body, sends the outcome and gives the lease back. -/
theorem job {body : Process η κ Outcome} {x : Evaluation η κ Value} (hb : Performs body x)
    {e : Evaluator} {thread : ThreadId} {sys : System η κ}
    (hw : sys.workers[i]? = some (.job e thread (.running (.outside body)))) :
    sys.Leads i (.job e thread (.over (Manner.inSession.report (x sys.world).1)))
      ((x sys.world).2.giveBack ⟨e.id, thread⟩) := by
  have hi := (List.getElem?_eq_some_iff.1 hw).1
  refine (hb _ (.job e thread) sys i hw).trans hi fun sys₁ hw₁ hworld₁ => ?_
  have hsend : sys₁.Leads i (.job e thread (.sent (Manner.inSession.report (x sys.world).1)))
      sys₁.world := System.Leads.turn hw₁ rfl rfl
  refine hsend.trans (List.getElem?_eq_some_iff.1 hw₁).1 fun sys₂ hw₂ hworld₂ => ?_
  have hend : sys₂.Leads i (.job e thread (.over (Manner.inSession.report (x sys.world).1)))
      (sys₂.world.giveBack ⟨e.id, thread⟩) := System.Leads.turn hw₂ rfl rfl
  rwa [hworld₂, hworld₁] at hend

theorem session (e : Evaluator) (thread : ThreadId) {body : Process η κ Outcome}
    {x : Evaluation η κ Value} (hb : Performs body x) :
    Performs (.session e thread body) (e.holding thread (catchCrash x)) := by
  intro L hL sys i hw
  beta_reduce
  have hturn := hL (.outside (.session e thread body)) sys.view
  cases hbusy : e.isBusy thread sys.world with
  | true =>
    rw [holding_of_busy hbusy]
    have hcall := hturn _ (Activity.turn_of_busy rfl hbusy)
    exact System.Leads.turn hw hcall rfl
  | false =>
    rw [holding_of_free hbusy]
    have hcall : (Activity.outside (.session e thread body)).turn? sys.view = some
        { next := .outside (.join sys.workers.length .done)
          world := sys.world.take ⟨e.id, thread⟩
          jobs := [.job e thread (.running (.outside body))] } := by
      simp [Process.session, Activity.turn?, System.view, acquire_of_free hbusy]
    have hstart : sys.step i =
        ⟨sys.world.take ⟨e.id, thread⟩,
          sys.workers.set i (L (.outside (.join sys.workers.length .done))) ++
            [.job e thread (.running (.outside body))]⟩ :=
      System.step_of_turn hw (hturn _ hcall)
    have hjob : (sys.step i).workers[sys.workers.length]? =
        some (.job e thread (.running (.outside body))) := by
      rw [hstart]
      simp
    obtain ⟨schedule, jobs, hjobs, hrun⟩ := hb.job hjob
    rw [hstart] at hrun
    let ended : Worker η κ := .job e thread
      (.over (Manner.inSession.report (x (sys.world.take ⟨e.id, thread⟩)).1))
    have hrest : sys.run (i :: schedule) =
        ⟨(x (sys.world.take ⟨e.id, thread⟩)).2.giveBack ⟨e.id, thread⟩,
          sys.workers.set i (L (.outside (.join sys.workers.length .done))) ++ ended :: jobs⟩ := by
      change (sys.step i).run schedule = _
      rw [hstart, hrun]
      simp [List.set_append_right, ended]
    have hi := (List.getElem?_eq_some_iff.1 hw).1
    have hwaits : (sys.run (i :: schedule)).workers[i]? =
        some (L (.outside (.join sys.workers.length .done))) := by
      rw [hrest, System.getElem?_set_append hi]
    have hsent : (sys.run (i :: schedule)).view.outcomes[sys.workers.length]? =
        some ended.outcome? := by
      simp [hrest, System.view]
    refine ⟨i :: schedule ++ [i], ended :: jobs, List.forall_mem_cons.2 ⟨rfl, hjobs⟩, ?_⟩
    rw [System.run_append]
    change System.step (sys.run (i :: schedule)) i = _
    rw [System.step_of_turn hwaits (hL _ _ _ (Activity.turn_of_join hsent)), hrest]
    simp only [Turn.map, System.view, List.append_nil]
    rw [System.set_set_append hi]
    rfl

end Performs

end Probe.Evaluator

import Mathlib.Data.List.Perm.Basic
import Probe.Proofs.Evaluator.System

namespace Probe.Evaluator
set_option autoImplicit true

namespace Activity

theorem held_refused (a : Activity η κ α) : a.refused.held = a.held := by
  induction a with
  | outside p => cases p <;> rfl
  | inside e thread inner next ih => simp only [refused, held, ih]

theorem eq_done_of_result? {a : Activity η κ α} (h : a.result? = some result) :
    a = .outside (.done result) := by
  rcases a with p | _
  · cases p with
    | done =>
      cases h
      rfl
    | _ => cases h
  · cases h

theorem result?_of_ne_done {a : Activity η κ α} (h : ∀ result, a ≠ .outside (.done result)) :
    a.result? = none := by
  rw [Option.eq_none_iff_forall_ne_some]
  intro result hr
  exact h result (eq_done_of_result? hr)

theorem result?_of_call {a : Activity η κ α} (h : a.call? = some c) : a.result? = none := by
  apply result?_of_ne_done
  rintro result rfl
  cases h

theorem result?_of_ending {a : Activity η κ α} (h : a.ending? = some lease) :
    a.result? = none := by
  apply result?_of_ne_done
  rintro result rfl
  cases h

theorem turn_of_busy {a : Activity η κ α} (hc : a.call? = some (e, thread))
    (hb : e.isBusy thread view.world = true) :
    a.turn? view = some { next := a.refused, world := view.world } := by
  induction a with
  | outside p =>
    cases p with
    | evaluate e' thread' body next =>
      cases hc
      simp only [turn?, acquire_of_busy hb, refused]
    | start e' thread' body next =>
      cases hc
      simp only [turn?, acquire_of_busy hb, refused]
    | done | work | join => cases hc
  | inside e' thread' inner next ih =>
    have hinner := ih hc
    simp only [turn?, result?_of_call (show inner.call? = _ from hc), hinner]
    rfl

theorem turn_of_free {a : Activity η κ α} (hc : a.call? = some (e, thread))
    (hb : e.isBusy thread view.world = false) :
    ∃ t, a.turn? view = some t ∧
      t.world = view.world.take ⟨e.id, thread⟩ ∧
      (t.next.held ++ t.jobs.flatMap Worker.held).Perm (⟨e.id, thread⟩ :: a.held) := by
  induction a with
  | outside p =>
    cases p with
    | evaluate e' thread' body next =>
      cases hc
      simp only [turn?, acquire_of_free hb]
      exact ⟨_, rfl, rfl, .refl _⟩
    | start e' thread' body next =>
      cases hc
      simp only [turn?, acquire_of_free hb]
      exact ⟨_, rfl, rfl, .refl _⟩
    | done | work | join => cases hc
  | inside e' thread' inner next ih =>
    obtain ⟨t, ht, hw, hp⟩ := ih hc
    simp only [turn?, result?_of_call (show inner.call? = _ from hc), ht]
    refine ⟨_, rfl, hw, ?_⟩
    exact (hp.cons _).trans (.swap _ _ _)

theorem turn_of_ending {a : Activity η κ α} (he : a.ending? = some lease) (view : View η κ) :
    ∃ next, a.turn? view = some { next, world := view.world.giveBack lease } ∧
      a.held.Perm (lease :: next.held) := by
  induction a with
  | outside p => cases he
  | inside e thread inner next ih =>
    unfold ending? at he
    cases hr : inner.result? with
    | some outcome =>
      simp only [hr] at he
      cases he
      simp only [turn?, hr]
      obtain rfl := eq_done_of_result? hr
      exact ⟨_, rfl, .refl _⟩
    | none =>
      simp only [hr] at he
      obtain ⟨next', ht, hp⟩ := ih he
      simp only [turn?, hr, ht]
      refine ⟨_, rfl, ?_⟩
      exact (hp.cons _).trans (.swap _ _ _)

theorem turn_of_neither {a : Activity η κ α} (hc : a.call? = none) (he : a.ending? = none)
    (ht : a.turn? view = some t) :
    t.world.leases = view.world.leases ∧ t.next.held = a.held ∧ t.jobs = [] := by
  induction a with
  | outside p =>
    cases p with
    | done => cases ht
    | work act keeps next =>
      cases ht
      exact ⟨keeps _, rfl, rfl⟩
    | evaluate | start => cases hc
    | join session next =>
      unfold turn? at ht
      split at ht
      · cases ht
        exact ⟨rfl, rfl, rfl⟩
      · cases ht
  | inside e thread inner next ih =>
    unfold ending? at he
    cases hr : inner.result? with
    | some outcome => simp [hr] at he
    | none =>
      simp only [hr] at he
      simp only [turn?, hr] at ht
      obtain ⟨t', ht', rfl⟩ := Option.map_eq_some_iff.1 ht
      obtain ⟨hl, hh, hj⟩ := ih hc he ht'
      exact ⟨hl, congrArg (List.cons _) hh, hj⟩

end Activity

namespace Worker

theorem held_refused (worker : Worker η κ) : worker.refused.held = worker.held := by
  rcases worker with a | ⟨e, thread, body | _ | _⟩
  · exact a.held_refused
  · simp only [refused, held, body.held_refused]
  · rfl
  · rfl

theorem turn_of_busy {worker : Worker η κ} (hc : worker.call? = some (e, thread))
    (hb : e.isBusy thread view.world = true) :
    worker.turn? view = some { next := worker.refused, world := view.world } := by
  rcases worker with a | ⟨e', thread', body | _ | _⟩
  · simp only [turn?, Activity.turn_of_busy hc hb]
    rfl
  · simp only [turn?, Activity.result?_of_call hc, Activity.turn_of_busy hc hb]
    rfl
  · cases hc
  · cases hc

theorem turn_of_free {worker : Worker η κ} (hc : worker.call? = some (e, thread))
    (hb : e.isBusy thread view.world = false) :
    ∃ t, worker.turn? view = some t ∧
      t.world = view.world.take ⟨e.id, thread⟩ ∧
      (t.next.held ++ t.jobs.flatMap held).Perm (⟨e.id, thread⟩ :: worker.held) := by
  rcases worker with a | ⟨e', thread', body | _ | _⟩
  · obtain ⟨t, ht, hw, hp⟩ := Activity.turn_of_free hc hb
    simp only [turn?, ht]
    exact ⟨_, rfl, hw, hp⟩
  · obtain ⟨t, ht, hw, hp⟩ := Activity.turn_of_free hc hb
    simp only [turn?, Activity.result?_of_call hc, ht]
    refine ⟨_, rfl, hw, ?_⟩
    exact (hp.cons _).trans (.swap _ _ _)
  · cases hc
  · cases hc

theorem turn_of_ending {worker : Worker η κ} (he : worker.ending? = some lease)
    (view : View η κ) :
    ∃ next,
      worker.turn? view = some { next, world := view.world.giveBack lease } ∧
      worker.held.Perm (lease :: next.held) := by
  rcases worker with a | ⟨e, thread, body | _ | _⟩
  · obtain ⟨next, ht, hp⟩ := Activity.turn_of_ending he view
    simp only [turn?, ht]
    exact ⟨_, rfl, hp⟩
  · obtain ⟨next, ht, hp⟩ := Activity.turn_of_ending he view
    simp only [turn?, Activity.result?_of_ending he, ht]
    refine ⟨_, rfl, ?_⟩
    exact (hp.cons _).trans (.swap _ _ _)
  · cases he
    exact ⟨_, rfl, .refl _⟩
  · cases he

theorem turn_of_neither {worker : Worker η κ} (hc : worker.call? = none)
    (he : worker.ending? = none) (ht : worker.turn? view = some t) :
    t.world.leases = view.world.leases ∧ t.next.held = worker.held ∧ t.jobs = [] := by
  rcases worker with a | ⟨e, thread, body | _ | _⟩
  · obtain ⟨t', ht', rfl⟩ := Option.map_eq_some_iff.1 ht
    exact Activity.turn_of_neither hc he ht'
  · cases hr : body.result? with
    | some outcome =>
      simp only [turn?, hr] at ht
      cases ht
      obtain rfl := Activity.eq_done_of_result? hr
      exact ⟨rfl, rfl, rfl⟩
    | none =>
      simp only [turn?, hr] at ht
      obtain ⟨t', ht', rfl⟩ := Option.map_eq_some_iff.1 ht
      obtain ⟨hl, hh, hj⟩ := Activity.turn_of_neither hc he ht'
      exact ⟨hl, congrArg (List.cons _) hh, hj⟩
  · cases he
  · cases ht

end Worker

namespace System

theorem step_of_turn {sys : System η κ} (hw : sys.workers[i]? = some worker)
    (ht : worker.turn? sys.view = some t) :
    sys.step i = ⟨t.world, sys.workers.set i t.next ++ t.jobs⟩ := by
  simp only [step, hw, ht]

theorem step_of_absent {sys : System η κ} (hw : sys.workers[i]? = none) : sys.step i = sys := by
  simp only [step, hw]

theorem step_of_waiting {sys : System η κ} (hw : sys.workers[i]? = some worker)
    (ht : worker.turn? sys.view = none) : sys.step i = sys := by
  simp only [step, hw, ht]

/-- The leases of the other workers are not touched by a turn. -/
theorem held_of_turn {sys : System η κ} (hw : sys.workers[i]? = some worker)
    (ht : worker.turn? sys.view = some t) :
    ∃ others, sys.held.Perm (worker.held ++ others) ∧
      (sys.step i).held.Perm (t.next.held ++ t.jobs.flatMap Worker.held ++ others) := by
  obtain ⟨hi, rfl⟩ := List.getElem?_eq_some_iff.1 hw
  refine ⟨(sys.workers.eraseIdx i).flatMap Worker.held, ?_, ?_⟩
  · exact ((List.getElem_cons_eraseIdx_perm hi).flatMap_right Worker.held).symm
  · rw [step_of_turn hw ht]
    have hset := (List.set_perm_cons_eraseIdx hi t.next).flatMap_right Worker.held
    simp only [held, List.flatMap_append, List.flatMap_cons] at hset ⊢
    calc ((sys.workers.set i t.next).flatMap Worker.held ++ t.jobs.flatMap Worker.held)
        _ |>.Perm (t.next.held ++ (sys.workers.eraseIdx i).flatMap Worker.held ++
            t.jobs.flatMap Worker.held) := hset.append_right _
        _ |>.Perm _ := by
          simp only [List.append_assoc]
          exact List.Perm.append_left _ List.perm_append_comm

theorem held_of_same {sys : System η κ} (hw : sys.workers[i]? = some worker)
    (ht : worker.turn? sys.view = some t) (hl : t.world.leases = sys.world.leases)
    (hh : t.next.held = worker.held) (hj : t.jobs = []) :
    (sys.step i).world.leases = sys.world.leases ∧ (sys.step i).held.Perm sys.held := by
  obtain ⟨others, hsys, hstep⟩ := held_of_turn hw ht
  rw [hh, hj, List.flatMap_nil, List.append_nil] at hstep
  refine ⟨?_, hstep.trans hsys.symm⟩
  rw [step_of_turn hw ht]
  exact hl

theorem step_of_busy {sys : System η κ} (hw : sys.workers[i]? = some worker)
    (hc : worker.call? = some (e, thread)) (hb : e.isBusy thread sys.world = true) :
    sys.step i = ⟨sys.world, sys.workers.set i worker.refused⟩ := by
  have hview : e.isBusy thread sys.view.world = true := hb
  rw [step_of_turn hw (Worker.turn_of_busy hc hview), List.append_nil]
  rfl

theorem held_of_free {sys : System η κ} (hw : sys.workers[i]? = some worker)
    (hc : worker.call? = some (e, thread)) (hb : e.isBusy thread sys.world = false) :
    (sys.step i).world = sys.world.take ⟨e.id, thread⟩ ∧
      (sys.step i).held.Perm (⟨e.id, thread⟩ :: sys.held) := by
  have hview : e.isBusy thread sys.view.world = false := hb
  obtain ⟨t, ht, hworld, hp⟩ := Worker.turn_of_free hc hview
  obtain ⟨others, hsys, hstep⟩ := held_of_turn hw ht
  constructor
  · rw [step_of_turn hw ht]
    exact hworld
  · calc (sys.step i).held
      _ |>.Perm (t.next.held ++ t.jobs.flatMap Worker.held ++ others) := hstep
      _ |>.Perm (⟨e.id, thread⟩ :: worker.held ++ others) := hp.append_right others
      _ |>.Perm (⟨e.id, thread⟩ :: sys.held) := (hsys.cons _).symm

theorem held_of_ending {sys : System η κ} (hw : sys.workers[i]? = some worker)
    (he : worker.ending? = some lease) :
    (sys.step i).world = sys.world.giveBack lease ∧
      sys.held.Perm (lease :: (sys.step i).held) := by
  obtain ⟨next, ht, hp⟩ := Worker.turn_of_ending he sys.view
  obtain ⟨others, hsys, hstep⟩ := held_of_turn hw ht
  rw [List.flatMap_nil, List.append_nil] at hstep
  constructor
  · rw [step_of_turn hw ht]
    rfl
  · calc sys.held
      _ |>.Perm (worker.held ++ others) := hsys
      _ |>.Perm (lease :: next.held ++ others) := hp.append_right others
      _ |>.Perm (lease :: (sys.step i).held) := (hstep.cons _).symm

theorem held_of_neither {sys : System η κ} (hw : sys.workers[i]? = some worker)
    (hc : worker.call? = none) (he : worker.ending? = none) :
    (sys.step i).world.leases = sys.world.leases ∧ (sys.step i).held.Perm sys.held := by
  cases ht : worker.turn? sys.view with
  | none =>
    rw [step_of_waiting hw ht]
    exact ⟨rfl, .refl _⟩
  | some t =>
    obtain ⟨hl, hh, hj⟩ := Worker.turn_of_neither hc he ht
    exact held_of_same hw ht hl hh hj

/-- The leases are those of the evaluations under way, and none is held twice. -/
structure Sound (sys : System η κ) : Prop where
  leases : sys.world.leases.Perm sys.held
  nodup : sys.held.Nodup

namespace Sound

theorem isBusy_iff {sys : System η κ} (h : sys.Sound) (e : Evaluator) (thread : ThreadId) :
    e.isBusy thread sys.world = true ↔ ⟨e.id, thread⟩ ∈ sys.held := by
  rw [isBusy, List.contains_iff_mem]
  exact h.leases.mem_iff

theorem isBusy_eq_false_iff {sys : System η κ} (h : sys.Sound) (e : Evaluator)
    (thread : ThreadId) : e.isBusy thread sys.world = false ↔ ⟨e.id, thread⟩ ∉ sys.held := by
  rw [← h.isBusy_iff, Bool.not_eq_true]

theorem initial (w : World η κ) (clients : List (Process η κ Unit)) :
    (initial w clients).Sound := by
  have hheld : (System.initial w clients).held = [] := by
    simp [System.initial, held, Worker.held, Activity.held]
  constructor
  · rw [hheld]
    exact .refl _
  · rw [hheld]
    exact .nil

theorem of_same {sys sys' : System η κ} (h : sys.Sound)
    (hl : sys'.world.leases = sys.world.leases) (hp : sys'.held.Perm sys.held) : sys'.Sound := by
  constructor
  · rw [hl]
    exact h.leases.trans hp.symm
  · exact hp.nodup_iff.2 h.nodup

theorem not_held_of_ending {sys : System η κ} (h : sys.Sound)
    (hw : sys.workers[i]? = some worker) (he : worker.ending? = some lease) :
    (sys.step i).held.Nodup ∧ lease ∉ (sys.step i).held := by
  obtain ⟨-, hheld⟩ := held_of_ending hw he
  exact (List.nodup_cons.1 (hheld.nodup_iff.1 h.nodup)).symm

theorem step {sys : System η κ} (h : sys.Sound) (i : Nat) : (sys.step i).Sound := by
  cases hw : sys.workers[i]? with
  | none =>
    rw [step_of_absent hw]
    exact h
  | some worker =>
    cases hc : worker.call? with
    | some call =>
      obtain ⟨e, thread⟩ := call
      cases hb : e.isBusy thread sys.world with
      | true =>
        obtain ⟨hl, hp⟩ := held_of_same hw (Worker.turn_of_busy hc hb) rfl worker.held_refused rfl
        exact h.of_same hl hp
      | false =>
        obtain ⟨hworld, hheld⟩ := held_of_free hw hc hb
        have hnew := (h.isBusy_eq_false_iff e thread).1 hb
        constructor
        · rw [hworld]
          exact (h.leases.cons _).trans hheld.symm
        · exact hheld.nodup_iff.2 (List.nodup_cons.2 ⟨hnew, h.nodup⟩)
    | none =>
      cases he : worker.ending? with
      | some lease =>
        obtain ⟨hworld, hheld⟩ := held_of_ending hw he
        constructor
        · rw [hworld]
          have hp := (h.leases.trans hheld).erase lease
          rwa [List.erase_cons_head] at hp
        · exact (h.not_held_of_ending hw he).1
      | none =>
        obtain ⟨hl, hp⟩ := held_of_neither hw hc he
        exact h.of_same hl hp

theorem run {sys : System η κ} (h : sys.Sound) (schedule : List Nat) :
    (sys.run schedule).Sound := by
  induction schedule generalizing sys with
  | nil => exact h
  | cons i schedule ih => exact ih (h.step i)

end Sound

end System

end Probe.Evaluator

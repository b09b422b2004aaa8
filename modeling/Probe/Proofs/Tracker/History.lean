import Probe.Tracker

namespace Probe

/-- Whether registering `e` replaces the record of `e'`. -/
def Expectation.replaces (e e' : Expectation) : Bool :=
  e.sort == .step && e'.thread == e.thread && e'.sort == .step

theorem Expectation.replaces_iff {e e' : Expectation} :
    e.replaces e' = true ↔ e.sort = .step ∧ e'.thread = e.thread ∧ e'.sort = .step := by
  simp [replaces, and_assoc]

/-- The event is one the expectation waits for, and this is the result it stands for. -/
structure Expectation.Yields (e : Expectation) (event : StopEvent) (r : MethodResult) :
    Prop where
  thread : event.thread = e.thread
  method : event.method = e.method ∧ r.method = e.method
  depth : event.depth = e.depth ∧ r.depth = e.depth
  outcome :
    (∃ value, event.cause = .methodExit value ∧ r.value = value ∧
      r.sort = if e.sort = .step then .returned else .returning) ∨
    (∃ exception caught, event.cause = .exception exception caught ∧
      r.value = .object exception ∧
      r.sort = if e.sort = .step then .threw else .throwing)

theorem Expectation.yields_result {e : Expectation} {event : StopEvent} {value : Value}
    {returned : Bool} (hf : e.fits event = true) (ho : event.outcome? = some (value, returned)) :
    e.Yields event (e.result value returned) := by
  simp only [fits, Bool.and_eq_true, beq_iff_eq] at hf
  obtain ⟨⟨ht, hd⟩, hm⟩ := hf
  refine ⟨ht.symm, ⟨hm.symm, rfl⟩, ⟨hd.symm, rfl⟩, ?_⟩
  cases hc : event.cause with
  | methodExit v =>
    simp only [StopEvent.outcome?, hc, Option.some.injEq, Prod.mk.injEq] at ho
    obtain ⟨rfl, rfl⟩ := ho
    refine .inl ⟨v, rfl, rfl, ?_⟩
    cases hs : e.sort <;> simp [result, ExpectationSort.result, hs]
  | exception x caught =>
    simp only [StopEvent.outcome?, hc, Option.some.injEq, Prod.mk.injEq] at ho
    obtain ⟨rfl, rfl⟩ := ho
    refine .inr ⟨x, caught, rfl, rfl, ?_⟩
    cases hs : e.sort <;> simp [result, ExpectationSort.result, hs]
  | step | breakpoint | watchpoint => simp [StopEvent.outcome?, hc] at ho

namespace Tracker
set_option autoImplicit true

inductive Operation where
  | expect (e : Expectation)
  | observe (event : StopEvent)
  | take (token : Token)
  | isPending (token : Token)
  | abandon (token : Token)
  | abandonThread (thread : ThreadId)
  deriving DecidableEq

inductive Answer where
  | token (token : Token)
  /-- The token an event was attributed to, with the result. -/
  | captured (captured : Option (Token × MethodResult))
  | result (result : Option MethodResult)
  | flag (flag : Bool)
  | count (count : Nat)
  deriving DecidableEq

def perform (t : Tracker) : Operation → Answer × Tracker
  | .expect e => (.token (t.expect e).1, (t.expect e).2)
  | .observe event => (.captured (t.observe event).1, (t.observe event).2)
  | .take token => (.result (t.take token).1, (t.take token).2)
  | .isPending token => (.flag (t.isPending token), t)
  | .abandon token => (.flag (t.abandon token).1, (t.abandon token).2)
  | .abandonThread thread => (.count (t.abandonThread thread).1, (t.abandonThread thread).2)

abbrev History := List (Operation × Answer)

def after (t : Tracker) (ops : List Operation) : Tracker :=
  ops.foldl (fun t op => (t.perform op).2) t

/-- The operations with the answers they get one after the other. -/
def history (t : Tracker) : List Operation → History
  | [] => []
  | op :: rest => (op, (t.perform op).1) :: (t.perform op).2.history rest

@[simp] theorem after_nil (t : Tracker) : t.after [] = t := rfl

@[simp] theorem after_cons (t : Tracker) (op : Operation) (ops : List Operation) :
    t.after (op :: ops) = (t.perform op).2.after ops := rfl

theorem after_append (t : Tracker) (ops ops' : List Operation) :
    t.after (ops ++ ops') = (t.after ops).after ops' :=
  List.foldl_append

theorem history_append (t : Tracker) (ops ops' : List Operation) :
    t.history (ops ++ ops') = t.history ops ++ (t.after ops).history ops' := by
  induction ops generalizing t with
  | nil => rfl
  | cons op ops ih => simp only [List.cons_append, history, after_cons, ih]

theorem mem_history_iff {t : Tracker} :
    (op, a) ∈ t.history ops ↔
      ∃ before rest, ops = before ++ op :: rest ∧ a = ((t.after before).perform op).1 := by
  constructor
  · intro hm
    induction ops generalizing t with
    | nil => simp [history] at hm
    | cons op' ops ih =>
      rcases List.mem_cons.1 hm with he | hm
      · obtain ⟨rfl, rfl⟩ := Prod.mk.inj he
        exact ⟨[], ops, rfl, rfl⟩
      · obtain ⟨before, rest, rfl, rfl⟩ := ih hm
        exact ⟨op' :: before, rest, rfl, rfl⟩
  · rintro ⟨before, rest, rfl, rfl⟩
    simp [history_append, history]

/-- The two tables share no token and hold issued tokens only, and no thread has two steps. -/
structure Coherent (t : Tracker) : Prop where
  pending_le : t.pending.get? k = some e → k ≤ t.issued
  captured_le : t.captured.get? k = some c → k ≤ t.issued
  disjoint : t.pending.get? k = some e → t.captured.get? k = none
  one_step : t.pending.get? k = some e → t.pending.get? k' = some e' →
    e.sort = .step → e'.sort = .step → e.thread = e'.thread → k = k'

theorem Coherent.empty : Coherent empty where
  pending_le h := by simp [Tracker.empty] at h
  captured_le h := by simp [Tracker.empty] at h
  disjoint h := by simp [Tracker.empty] at h
  one_step h := by simp [Tracker.empty] at h

theorem mem_stale_iff (t : Tracker) (thread : ThreadId) :
    k ∈ (t.pending.filter fun _ e => e.thread == thread && e.sort == .step).keys ↔
      ∃ e, t.pending.get? k = some e ∧ e.thread = thread ∧ e.sort = .step := by
  rw [Table.mem_keys_iff]
  simp [Table.get?_filter, Option.filter_eq_some_iff]

/-- Only pending records are dropped: no captured result has the token of a pending step. -/
theorem Coherent.dropSteps_eq (h : Coherent t) (thread : ThreadId) :
    t.dropSteps thread =
      { t with
        pending := t.pending.filter fun _ e => !(e.thread == thread && e.sort == .step) } := by
  have hp : t.pending.filter (fun k _ => !(t.pending.filter fun _ e =>
      e.thread == thread && e.sort == .step).keys.contains k) =
      t.pending.filter fun _ e => !(e.thread == thread && e.sort == .step) := by
    apply Table.filter_congr
    intro k e he
    rw [Bool.eq_iff_iff]
    simp [mem_stale_iff, he]
  have hc : t.captured.filter (fun k _ => !(t.pending.filter fun _ e =>
      e.thread == thread && e.sort == .step).keys.contains k) = t.captured := by
    apply Table.filter_eq_self
    intro k c hc
    simp only [List.contains_eq_mem, mem_stale_iff, Bool.not_eq_eq_eq_not, Bool.not_true,
      decide_eq_false_iff_not]
    rintro ⟨e, he, _⟩
    simp [h.disjoint he] at hc
  simp only [dropSteps, hp, hc]

theorem Coherent.expect_eq (h : Coherent t) (e : Expectation) :
    t.expect e = (t.issued + 1,
      { issued := t.issued + 1
        pending := (t.pending.filter fun _ e' => !e.replaces e').insert (t.issued + 1) e
        captured := t.captured }) := by
  by_cases hs : e.sort = .step
  · simp only [expect, hs, ↓reduceIte, h.dropSteps_eq, Expectation.replaces, beq_self_eq_true,
      Bool.true_and]
  · have hr : t.pending.filter (fun _ e' => !e.replaces e') = t.pending := by
      apply Table.filter_eq_self
      simp [Expectation.replaces, hs]
    simp only [expect, hs, ↓reduceIte, hr]

theorem match?_eq_some_iff {t : Tracker} :
    t.match? event = some k ↔ (∃ e, t.pending.get? k = some e ∧ e.fits event = true) ∧
      ∀ k' e', t.pending.get? k' = some e' → e'.fits event = true → k' ≤ k := by
  rw [match?, List.max?_eq_some_iff]
  simp only [Table.mem_keys_iff, Table.get?_filter, Option.filter_eq_some_iff]
  constructor
  · rintro ⟨⟨e, he⟩, hmax⟩
    exact ⟨⟨e, he⟩, fun k' e' hk' hf => hmax k' ⟨e', hk', hf⟩⟩
  · rintro ⟨⟨e, he⟩, hmax⟩
    refine ⟨⟨e, he⟩, ?_⟩
    rintro k' ⟨e', hk', hf⟩
    exact hmax k' e' hk' hf

theorem match?_eq_none_iff {t : Tracker} :
    t.match? event = none ↔ ∀ k e, t.pending.get? k = some e → e.fits event = false := by
  rw [match?, List.max?_eq_none_iff, List.eq_nil_iff_forall_not_mem]
  simp only [Table.mem_keys_iff, Table.get?_filter, Option.filter_eq_some_iff]
  grind

/-- An event changes nothing, or it moves the newest record that fits it. -/
theorem observe_cases (t : Tracker) (event : StopEvent) :
    (t.observe event = (none, t) ∧ (event.outcome? = none ∨
        ∀ k e, t.pending.get? k = some e → e.fits event = false)) ∨
      ∃ k e value returned, event.outcome? = some (value, returned) ∧
        t.pending.get? k = some e ∧ e.fits event = true ∧
        (∀ k' e', t.pending.get? k' = some e' → e'.fits event = true → k' ≤ k) ∧
        t.observe event = (some (k, e.result value returned),
          { t with
            pending := t.pending.erase k
            captured := t.captured.insert k (e.thread, e.result value returned) }) := by
  cases ho : event.outcome? with
  | none => exact .inl ⟨by simp [observe, ho], .inl rfl⟩
  | some outcome =>
    obtain ⟨value, returned⟩ := outcome
    cases hm : t.match? event with
    | none => exact .inl ⟨by simp [observe, ho, hm], .inr (match?_eq_none_iff.1 hm)⟩
    | some k =>
      obtain ⟨⟨e, he, hf⟩, hmax⟩ := match?_eq_some_iff.1 hm
      exact .inr ⟨k, e, value, returned, rfl, he, hf, hmax, by simp [observe, ho, hm, he]⟩

/-- What an operation leaves pending: the record it registers, and every earlier one that it
neither replaces, attributes an event to nor forgets. -/
theorem Coherent.pending_iff (h : Coherent t) (op : Operation) (k : Token) (e : Expectation) :
    (t.perform op).2.pending.get? k = some e ↔
      (op = .expect e ∧ k = t.issued + 1) ∨
      (t.pending.get? k = some e ∧ (∀ e', op = .expect e' → e'.replaces e = false) ∧
        (∀ r, (t.perform op).1 ≠ .captured (some (k, r))) ∧
        op ≠ .abandon k ∧ op ≠ .abandonThread e.thread) := by
  cases op with
  | expect e' =>
    simp only [perform, h.expect_eq]
    by_cases hk : k = t.issued + 1
    · subst hk
      have hn : t.pending.get? (t.issued + 1) ≠ some e := fun hp =>
        Nat.not_succ_le_self _ (h.pending_le hp)
      simp [hn]
    · rw [Table.get?_insert_of_ne _ (Ne.symm hk)]
      simp [hk, Table.get?_filter, Option.filter_eq_some_iff]
  | observe event =>
    rcases t.observe_cases event with ⟨ho, -⟩ | ⟨k', e', v, b, -, -, -, -, ho⟩
    · simp [perform, ho]
    · simp only [perform, ho, Table.get?_erase]
      by_cases hk : k = k'
      · simp [hk]
      · simp [hk, Ne.symm hk]
  | take token => simp [perform, take]
  | isPending token => simp [perform]
  | abandon token =>
    simp only [perform, abandon, Table.get?_erase]
    by_cases hk : k = token
    · simp [hk]
    · simp [hk, Ne.symm hk]
  | abandonThread thread =>
    simp [perform, abandonThread, Table.get?_filter, Option.filter_eq_some_iff, ne_comm]

theorem perform_captured {t : Tracker} (ha : (t.perform op).1 = .captured (some (k, r))) :
    ∃ event e, op = .observe event ∧ t.pending.get? k = some e ∧ e.Yields event r := by
  cases op with
  | observe event =>
    rcases t.observe_cases event with ⟨ho, -⟩ | ⟨k', e, value, returned, hv, hp, hf, -, ho⟩
    · simp [perform, ho] at ha
    · simp only [perform, ho, Answer.captured.injEq, Option.some.injEq, Prod.mk.injEq] at ha
      obtain ⟨rfl, rfl⟩ := ha
      exact ⟨event, e, rfl, hp, Expectation.yields_result hf hv⟩
  | expect | take | isPending | abandon | abandonThread => simp [perform] at ha

theorem take_eq_some_iff {t : Tracker} :
    (t.take k).1 = some r ↔ ∃ thread, t.captured.get? k = some (thread, r) := by
  simp [take]

/-- The operation leaves a captured result of a token of the thread alone. -/
def Operation.spares (k : Token) (thread : ThreadId) (op : Operation) : Prop :=
  op ≠ .take k ∧ op ≠ .abandon k ∧ op ≠ .abandonThread thread

instance (op : Operation) : Decidable (op.spares k thread) :=
  inferInstanceAs (Decidable (_ ∧ _ ∧ _))

/-- What an operation leaves captured: the result of the event it attributes, and every earlier
one that it neither hands out nor forgets. -/
theorem Coherent.captured_iff (h : Coherent t) (op : Operation) (k : Token) (thread : ThreadId)
    (r : MethodResult) :
    (t.perform op).2.captured.get? k = some (thread, r) ↔
      ((t.perform op).1 = .captured (some (k, r)) ∧
        ∃ e, t.pending.get? k = some e ∧ e.thread = thread) ∨
      (t.captured.get? k = some (thread, r) ∧ op.spares k thread) := by
  cases op with
  | expect e' => simp [perform, h.expect_eq, Operation.spares]
  | observe event =>
    rcases t.observe_cases event with ⟨ho, -⟩ | ⟨k', e', v, b, hv, hp, hf, -, ho⟩
    · simp [perform, ho, Operation.spares]
    · simp only [perform, ho]
      by_cases hk : k = k'
      · subst hk
        simp [hp, h.disjoint hp, and_comm]
      · rw [Table.get?_insert_of_ne _ (Ne.symm hk)]
        simp [Ne.symm hk, Operation.spares]
  | take token =>
    simp only [perform, take, Table.get?_erase]
    by_cases hk : k = token
    · simp [hk, Operation.spares]
    · simp [hk, Ne.symm hk, Operation.spares]
  | isPending token => simp [perform, Operation.spares]
  | abandon token =>
    simp only [perform, abandon, Table.get?_erase]
    by_cases hk : k = token
    · simp [hk, Operation.spares]
    · simp [hk, Ne.symm hk, Operation.spares]
  | abandonThread thread =>
    simp [perform, abandonThread, Table.get?_filter, Option.filter_eq_some_iff, Operation.spares,
      ne_comm]

theorem Coherent.issued_perform (h : Coherent t) (op : Operation) :
    (t.perform op).2.issued =
      match op with
      | .expect _ => t.issued + 1
      | _ => t.issued := by
  cases op with
  | expect e => simp [perform, h.expect_eq]
  | observe event =>
    rcases t.observe_cases event with ⟨ho, -⟩ | ⟨k, e, v, b, -, -, -, -, ho⟩ <;>
      simp [perform, ho]
  | take | isPending | abandon | abandonThread => rfl

theorem Coherent.issued_le (h : Coherent t) (op : Operation) :
    t.issued ≤ (t.perform op).2.issued := by
  rw [h.issued_perform]
  cases op <;> simp

theorem Coherent.perform (h : Coherent t) (op : Operation) : Coherent (t.perform op).2 where
  pending_le := by
    intro k e hk
    rcases (h.pending_iff op k e).1 hk with ⟨rfl, rfl⟩ | ⟨hk, -⟩
    · simp [h.issued_perform]
    · exact Nat.le_trans (h.pending_le hk) (h.issued_le op)
  captured_le := by
    intro k c hk
    rcases (h.captured_iff op k c.1 c.2).1 hk with ⟨-, e, hp, -⟩ | ⟨hk, -⟩
    · exact Nat.le_trans (h.pending_le hp) (h.issued_le op)
    · exact Nat.le_trans (h.captured_le hk) (h.issued_le op)
  disjoint := by
    intro k e hk
    rw [Option.eq_none_iff_forall_ne_some]
    intro c hc
    rcases (h.pending_iff op k e).1 hk with ⟨rfl, rfl⟩ | ⟨hp, -, hcap, -⟩
    · rcases (h.captured_iff _ _ c.1 c.2).1 hc with ⟨ha, -⟩ | ⟨hc, -⟩
      · simp [Tracker.perform] at ha
      · exact Nat.not_succ_le_self _ (h.captured_le hc)
    · rcases (h.captured_iff op k c.1 c.2).1 hc with ⟨ha, -⟩ | ⟨hc, -⟩
      · exact hcap _ ha
      · simp [h.disjoint hp] at hc
  one_step := by
    intro k e k' e' hk hk' hs hs' ht
    rcases (h.pending_iff op k e).1 hk with ⟨rfl, rfl⟩ | ⟨hp, hr, -⟩
    · rcases (h.pending_iff _ k' e').1 hk' with ⟨-, rfl⟩ | ⟨-, hr', -⟩
      · rfl
      · have he := Expectation.replaces_iff.2 ⟨hs, ht.symm, hs'⟩
        simp [hr' e rfl] at he
    · rcases (h.pending_iff op k' e').1 hk' with ⟨rfl, rfl⟩ | ⟨hp', -⟩
      · have he := Expectation.replaces_iff.2 ⟨hs', ht, hs⟩
        simp [hr e' rfl] at he
      · exact h.one_step hp hp' hs hs' ht

theorem Coherent.after (h : Coherent t) (ops : List Operation) : Coherent (t.after ops) := by
  induction ops generalizing t with
  | nil => exact h
  | cons op ops ih => exact ih (h.perform op)

theorem Coherent.issued_le_after (h : Coherent t) (ops : List Operation) :
    t.issued ≤ (t.after ops).issued := by
  induction ops generalizing t with
  | nil => exact Nat.le_refl _
  | cons op ops ih => exact Nat.le_trans (h.issued_le op) (ih (h.perform op))

theorem Coherent.perform_expect (h : Coherent t) (ha : (t.perform op).1 = .token k) :
    ∃ e, op = .expect e ∧ k = t.issued + 1 := by
  cases op with
  | expect e =>
    simp only [Tracker.perform, h.expect_eq, Answer.token.injEq] at ha
    exact ⟨e, rfl, ha.symm⟩
  | observe | take | isPending | abandon | abandonThread => simp [Tracker.perform] at ha

theorem Coherent.token_bounds (h : Coherent t) (hm : (op, .token k) ∈ t.history ops) :
    t.issued < k ∧ k ≤ (t.after ops).issued := by
  induction ops generalizing t with
  | nil => simp [history] at hm
  | cons op' ops ih =>
    rcases List.mem_cons.1 hm with he | hm
    · obtain ⟨e, rfl, rfl⟩ := h.perform_expect (Prod.mk.inj he).2.symm
      have hi := (h.perform (.expect e)).issued_le_after ops
      rw [h.issued_perform] at hi
      exact ⟨Nat.lt_succ_self _, hi⟩
    · obtain ⟨hlt, hle⟩ := ih (h.perform op') hm
      exact ⟨Nat.lt_of_le_of_lt (h.issued_le op') hlt, hle⟩

theorem Coherent.expect_unique (h : Coherent t) (he : (.expect e, .token k) ∈ t.history ops)
    (he' : (.expect e', .token k) ∈ t.history ops) : e = e' := by
  induction ops generalizing t with
  | nil => simp [history] at he
  | cons op ops ih =>
    -- The first operation issues a token that no later one can issue again.
    have hnew {e e' : Expectation} (hh : (.expect e, .token k) = (op, (t.perform op).1))
        (ht : (.expect e', .token k) ∈ (t.perform op).2.history ops) : False := by
      obtain ⟨rfl, ha⟩ := Prod.mk.inj hh
      obtain ⟨_, -, rfl⟩ := h.perform_expect ha.symm
      have hlt := ((h.perform _).token_bounds ht).1
      rw [h.issued_perform] at hlt
      exact Nat.lt_irrefl _ hlt
    rcases List.mem_cons.1 he with hh | ht <;> rcases List.mem_cons.1 he' with hh' | ht'
    · obtain ⟨ho, -⟩ := Prod.mk.inj (hh.trans hh'.symm)
      exact Operation.expect.inj ho
    · exact (hnew hh ht').elim
    · exact (hnew hh' ht).elim
    · exact ih (h.perform op) ht ht'

theorem Coherent.pending_registered (h : Coherent t)
    (hp : (t.after ops).pending.get? k = some e) :
    t.pending.get? k = some e ∨ (.expect e, .token k) ∈ t.history ops := by
  induction ops generalizing t with
  | nil => exact .inl hp
  | cons op ops ih =>
    rcases ih (h.perform op) hp with hp | hm
    · rcases (h.pending_iff op k e).1 hp with ⟨rfl, rfl⟩ | ⟨hp, -⟩
      · exact .inr (by simp [history, Tracker.perform, h.expect_eq])
      · exact .inl hp
    · exact .inr (List.mem_cons_of_mem _ hm)

/-- Whatever is captured was captured at the start, or an event since then has given the result
to a record, which was pending at the start or registered before that event. -/
theorem Coherent.captured_origin (h : Coherent t)
    (hc : (t.after ops).captured.get? k = some (thread, r)) :
    t.captured.get? k = some (thread, r) ∨ ∃ event e, e.Yields event r ∧ e.thread = thread ∧
      ((t.pending.get? k = some e ∧ (.observe event, .captured (some (k, r))) ∈ t.history ops) ∨
        List.Sublist [(.expect e, .token k), (.observe event, .captured (some (k, r)))]
          (t.history ops)) := by
  induction ops generalizing t with
  | nil => exact .inl hc
  | cons op ops ih =>
    rcases ih (h.perform op) hc with hc | ⟨event, e, hy, ht, ⟨hp, hm⟩ | hs⟩
    · rcases (h.captured_iff op k thread r).1 hc with ⟨ha, e, hp, ht⟩ | ⟨hc, -⟩
      · obtain ⟨event, e', rfl, hp', hy⟩ := perform_captured ha
        cases hp.symm.trans hp'
        exact .inr ⟨event, e, hy, ht, .inl ⟨hp, by simp [history, ha]⟩⟩
      · exact .inl hc
    · rcases (h.pending_iff op k e).1 hp with ⟨rfl, rfl⟩ | ⟨hp, -⟩
      · have ha : (t.perform (.expect e)).1 = .token (t.issued + 1) := by
          simp [Tracker.perform, h.expect_eq]
        refine .inr ⟨event, e, hy, ht, .inr ?_⟩
        rw [history, ha]
        exact (List.singleton_sublist.2 hm).cons_cons _
      · exact .inr ⟨event, e, hy, ht, .inl ⟨hp, List.mem_cons_of_mem _ hm⟩⟩
    · exact .inr ⟨event, e, hy, ht, .inr (hs.cons _)⟩

theorem registered_of_pending (hp : (empty.after ops).pending.get? k = some e) :
    (.expect e, .token k) ∈ empty.history ops := by
  rcases Coherent.empty.pending_registered hp with hp | hm
  · simp [empty] at hp
  · exact hm

theorem origin_of_captured (hc : (empty.after ops).captured.get? k = some (thread, r)) :
    ∃ event e, e.Yields event r ∧ e.thread = thread ∧
      List.Sublist [(.expect e, .token k), (.observe event, .captured (some (k, r)))]
        (empty.history ops) := by
  rcases Coherent.empty.captured_origin hc with hc | ⟨event, e, hy, ht, ⟨hp, -⟩ | hs⟩
  · simp [empty] at hc
  · simp [empty] at hp
  · exact ⟨event, e, hy, ht, hs⟩

end Tracker

end Probe

import Mathlib.Data.List.Nodup
import Probe.Proofs.Tracker.ExactlyOnce

namespace Probe
set_option autoImplicit true

theorem Table.perm_iff [DecidableEq κ] {t t' : Table κ ν} :
    t.entries.Perm t'.entries ↔ ∀ k, t.get? k = t'.get? k := by
  constructor
  · intro h k
    apply Option.ext
    intro v
    rw [get?_eq_some_iff, get?_eq_some_iff, h.mem_iff]
  · intro h
    apply (List.perm_ext_iff_of_nodup (List.Nodup.of_map _ t.nodup) (.of_map _ t'.nodup)).2
    rintro ⟨k, v⟩
    rw [← get?_eq_some_iff, ← get?_eq_some_iff, h]

abbrev Place := ThreadId × Nat × MethodId

def Expectation.place (e : Expectation) : Place := (e.thread, e.depth, e.method)

def StopEvent.place (event : StopEvent) : Place := (event.thread, event.depth, event.method)

theorem Expectation.fits_iff {e : Expectation} :
    e.fits event = true ↔ e.place = event.place := by
  simp [fits, place, StopEvent.place, and_assoc]

theorem Expectation.not_replaces (e' : Expectation) {e : Expectation}
    (he : e.sort = .methodExit) :
    e'.replaces e = false := by
  simp [replaces, he]

theorem StopEvent.outcome?_eq_none_iff {event : StopEvent} :
    event.outcome? = none ↔ event.cause ∈ [.step, .breakpoint, .watchpoint] := by
  cases h : event.cause <;> simp [outcome?, h]

namespace Tracker

/-- The same records in tables that may list them in different orders. -/
structure SameRecords (t t' : Tracker) : Prop where
  issued : t.issued = t'.issued
  pending : t.pending.entries.Perm t'.pending.entries
  captured : t.captured.entries.Perm t'.captured.entries

theorem SameRecords.observe (h : SameRecords t t') (event : StopEvent) :
    (t.observe event).1 = (t'.observe event).1 ∧
      SameRecords (t.observe event).2 (t'.observe event).2 := by
  have hpending := Table.perm_iff.1 h.pending
  have hcaptured := Table.perm_iff.1 h.captured
  have hmatch : t.match? event = t'.match? event := by
    apply Option.ext
    intro k
    simp only [match?_eq_some_iff, hpending]
  unfold Tracker.observe
  rw [hmatch]
  cases event.outcome? with
  | none => exact ⟨rfl, h⟩
  | some outcome =>
    cases t'.match? event with
    | none => exact ⟨rfl, h⟩
    | some k =>
      simp only [hpending k]
      cases t'.pending.get? k with
      | none => exact ⟨rfl, h⟩
      | some e =>
        refine ⟨rfl, h.issued, h.pending.filter _, Table.perm_iff.2 fun k' => ?_⟩
        by_cases hk : k = k'
        · subst hk
          simp only [Table.get?_insert_self]
        · simp only [Table.get?_insert_of_ne _ hk, hcaptured]

/-- The event carries no result, or nothing is awaited at its place. -/
def Unmatched (t : Tracker) (event : StopEvent) : Prop :=
  event.cause ∈ [.step, .breakpoint, .watchpoint] ∨
    ∀ k e, t.pending.get? k = some e → e.place ≠ event.place

/-- One record goes from pending to captured, and no other changes. -/
structure Captures (t t' : Tracker) (k : Token) (e : Expectation) (r : MethodResult) : Prop where
  issued : t'.issued = t.issued
  awaited : t.pending.get? k = some e
  settled : t'.pending.get? k = none
  captured : t'.captured.get? k = some (e.thread, r)
  others : ∀ k', k' ≠ k → t'.pending.get? k' = t.pending.get? k' ∧
    t'.captured.get? k' = t.captured.get? k'

theorem observe_of_unmatched (h : Unmatched t event) : t.observe event = (none, t) := by
  obtain ⟨hnone, -⟩ | ⟨k, e, value, returned, hout, hk, hfits, -⟩ := t.observe_cases event
  · exact hnone
  · obtain hcause | hplace := h
    · rw [StopEvent.outcome?_eq_none_iff.2 hcause] at hout
      cases hout
    · exact absurd (Expectation.fits_iff.1 hfits) (hplace k e hk)

theorem observe_of_matched (h : ¬Unmatched t event) :
    ∃ k e r, (t.observe event).1 = some (k, r) ∧ Captures t (t.observe event).2 k e r ∧
      e.place = event.place ∧ e.Yields event r ∧
      ∀ k' e', t.pending.get? k' = some e' → e'.place = event.place → k' ≤ k := by
  obtain ⟨-, hnone | hno⟩ | ⟨k, e, value, returned, hout, hk, hfits, hmax, hseen⟩ :=
    t.observe_cases event
  · exact absurd (.inl (StopEvent.outcome?_eq_none_iff.1 hnone)) h
  · refine absurd (.inr fun k e hk hplace => ?_) h
    rw [← Expectation.fits_iff, hno k e hk] at hplace
    cases hplace
  · rw [hseen]
    refine ⟨k, e, e.result value returned, rfl, ⟨rfl, hk, ?_, ?_, fun k' hne => ⟨?_, ?_⟩⟩,
      Expectation.fits_iff.1 hfits, e.yields_result hfits hout,
      fun k' e' hk' hplace => hmax k' e' hk' (Expectation.fits_iff.2 hplace)⟩
    · exact (Table.get?_erase _ _ _).trans (if_pos rfl)
    · exact Table.get?_insert_self _ _ _
    · exact (Table.get?_erase _ _ _).trans (if_neg hne)
    · exact Table.get?_insert_of_ne _ hne.symm _

/-- The tokens for which the method exit is awaited, newest first, apart from those below the
bound. Only below it may anything else be awaited at the same place. -/
structure Waiting (t : Tracker) (e : Expectation) (bound : Nat) (ks : List Token) : Prop where
  bound_le : bound ≤ t.issued + 1
  newest_first : ks.Pairwise (· > ·)
  pending : ∀ k ∈ ks, bound ≤ k ∧ t.pending.get? k = some e
  only : ∀ k e', bound ≤ k → t.pending.get? k = some e' → e'.place = e.place → k ∈ ks

theorem Coherent.waiting (hc : Coherent t) (e : Expectation) :
    ∃ bound, Waiting t e bound [] ∧
      ((∀ k e', t.pending.get? k = some e' → e'.place ≠ e.place) → bound = 0) := by
  by_cases hnone : ∀ k e', t.pending.get? k = some e' → e'.place ≠ e.place
  · refine ⟨0, ⟨Nat.zero_le _, .nil, List.forall_mem_nil _, ?_⟩, fun _ => rfl⟩
    exact fun k e' _ hk hplace => absurd hplace (hnone k e' hk)
  · refine ⟨t.issued + 1, ⟨Nat.le_refl _, .nil, List.forall_mem_nil _, ?_⟩,
      fun h => absurd h hnone⟩
    exact fun k e' hle hk _ => absurd (hc.pending_le hk) (Nat.not_le.2 hle)

/-- An event with a result at the place of the expectation. -/
def Operation.reports (e : Expectation) : Operation → Bool
  | .observe event => e.fits event && event.outcome?.isSome
  | _ => false

theorem reports_observe_iff : Operation.reports e (.observe event) = true ↔
    e.place = event.place ∧ event.cause ∉ [.step, .breakpoint, .watchpoint] := by
  rw [Operation.reports, Bool.and_eq_true, Expectation.fits_iff, ← StopEvent.outcome?_eq_none_iff,
    Option.isSome_iff_ne_none]

theorem exists_of_reports (h : Operation.reports e op = true) : ∃ event, op = .observe event ∧
    e.place = event.place ∧ event.cause ∉ [.step, .breakpoint, .watchpoint] := by
  cases op with
  | observe event => exact ⟨event, rfl, reports_observe_iff.1 h⟩
  | _ => cases h

/-- The operation has nothing to do with what is awaited at the place of the expectation. -/
def Operation.Apart (e : Expectation) (t : Tracker) : Operation → Prop
  | .expect e' => e'.place ≠ e.place
  | .observe event => Operation.reports e (.observe event) = false
  | .take _ | .isPending _ => True
  | .abandon k => t.pending.get? k ≠ some e
  | .abandonThread thread => thread ≠ e.thread

instance (e : Expectation) (t : Tracker) : DecidablePred (Operation.Apart e t)
  | .expect e' => inferInstanceAs (Decidable (e'.place ≠ e.place))
  | .observe event => inferInstanceAs (Decidable (Operation.reports e (.observe event) = false))
  | .take _ | .isPending _ => inferInstanceAs (Decidable True)
  | .abandon k => inferInstanceAs (Decidable (t.pending.get? k ≠ some e))
  | .abandonThread thread => inferInstanceAs (Decidable (thread ≠ e.thread))

theorem Operation.Apart.not_reports (h : Apart e t op) : op.reports e = false := by
  cases op with
  | observe event => exact h
  | _ => rfl

theorem reports_of_yields {e : Expectation} (h : e.Yields event r) :
    Operation.reports e (.observe event) = true := by
  rw [reports_observe_iff]
  constructor
  · rw [Expectation.place, StopEvent.place, h.thread, h.method.1, h.depth.1]
  · obtain ⟨value, hcause, -⟩ | ⟨exception, caught, hcause, -⟩ := h.outcome <;> simp [hcause]

theorem Waiting.apart (h : Waiting t e bound ks) (hc : Coherent t) (he : e.sort = .methodExit)
    (hop : op.Apart e t) : Waiting (t.perform op).2 e bound ks where
  bound_le := Nat.le_trans h.bound_le (Nat.succ_le_succ (hc.issued_le op))
  newest_first := h.newest_first
  pending := by
    intro k hk
    obtain ⟨hle, hpending⟩ := h.pending k hk
    refine ⟨hle, (hc.pending_iff op k e).2 (.inr ⟨hpending, ?_, ?_, ?_, ?_⟩)⟩
    · exact fun e' _ => e'.not_replaces he
    · intro r ha
      obtain ⟨event, e', rfl, hk', hy⟩ := perform_captured ha
      obtain rfl : e' = e := Option.some.inj (hk'.symm.trans hpending)
      rw [Operation.Apart, reports_of_yields hy] at hop
      cases hop
    · rintro rfl
      exact hop hpending
    · rintro rfl
      exact hop rfl
  only := by
    intro k e' hle hk hplace
    obtain ⟨rfl, -⟩ | ⟨hk, -⟩ := (hc.pending_iff op k e').1 hk
    · exact absurd hplace hop
    · exact h.only k e' hle hk hplace

theorem Waiting.expect (h : Waiting t e bound ks) (hc : Coherent t) (he : e.sort = .methodExit) :
    Waiting (t.perform (.expect e)).2 e bound ((t.issued + 1) :: ks) where
  bound_le := Nat.le_trans h.bound_le (Nat.succ_le_succ (hc.issued_le _))
  newest_first := by
    refine List.pairwise_cons.2 ⟨fun k hk => ?_, h.newest_first⟩
    exact Nat.lt_succ_of_le (hc.pending_le (h.pending k hk).2)
  pending := by
    intro k hk
    rw [hc.pending_iff]
    obtain rfl | hk := List.mem_cons.1 hk
    · exact ⟨h.bound_le, .inl ⟨rfl, rfl⟩⟩
    · obtain ⟨hle, hpending⟩ := h.pending k hk
      refine ⟨hle, .inr ⟨hpending, ?_, ?_, ?_, ?_⟩⟩
      · exact fun e' _ => e'.not_replaces he
      · rintro _ ⟨⟩
      · rintro ⟨⟩
      · rintro ⟨⟩
  only := by
    intro k e' hle hk hplace
    obtain ⟨-, rfl⟩ | ⟨hk, -⟩ := (hc.pending_iff _ k e').1 hk
    · exact List.mem_cons_self
    · exact List.mem_cons_of_mem _ (h.only k e' hle hk hplace)

theorem Waiting.observe_nil (h : Waiting t e 0 []) (hplace : e.place = event.place) :
    t.observe event = (none, t) := by
  apply observe_of_unmatched
  right
  intro k e' hk hplace'
  cases h.only k e' (Nat.zero_le k) hk (hplace'.trans hplace.symm)

theorem Waiting.observe_cons (h : Waiting t e bound (k :: ks))
    (hop : Operation.reports e (.observe event) = true) :
    (∃ r, (t.observe event).1 = some (k, r)) ∧ Waiting (t.observe event).2 e bound ks := by
  obtain ⟨hplace, hcause⟩ := reports_observe_iff.1 hop
  obtain ⟨hnewest, hsorted⟩ := List.pairwise_cons.1 h.newest_first
  obtain ⟨hbound, hk⟩ := h.pending k List.mem_cons_self
  have hmatched : ¬Unmatched t event := by
    rintro (hno | hno)
    · exact hcause hno
    · exact hno k e hk hplace
  obtain ⟨k', e', r, hseen, hcap, hplace', -, hmax⟩ := observe_of_matched hmatched
  have hle := hmax k e hk hplace
  obtain rfl : k' = k := by
    have hmem := h.only k' e' (Nat.le_trans hbound hle) hcap.awaited (hplace'.trans hplace.symm)
    obtain rfl | hk' := List.mem_cons.1 hmem
    · rfl
    · exact absurd (hnewest k' hk') (Nat.not_lt.2 hle)
  refine ⟨⟨r, hseen⟩, hcap.issued ▸ h.bound_le, hsorted, fun j hj => ?_,
    fun j e'' hle' hj hplace'' => ?_⟩
  · rw [(hcap.others j (Nat.ne_of_lt (hnewest j hj))).1]
    exact h.pending j (List.mem_cons_of_mem _ hj)
  · have hne : j ≠ k' := by
      rintro rfl
      rw [hcap.settled] at hj
      cases hj
    rw [(hcap.others j hne).1] at hj
    exact (List.mem_cons.1 (h.only j e'' hle' hj hplace'')).resolve_left hne

theorem perform_observe (t : Tracker) (event : StopEvent) :
    t.perform (.observe event) = (.captured (t.observe event).1, (t.observe event).2) := rfl

/-- Each operation fulfils the condition in the state in which it is performed. -/
def Throughout (P : Tracker → Operation → Prop) : Tracker → List Operation → Prop
  | _, [] => True
  | t, op :: ops => P t op ∧ Throughout P (t.perform op).2 ops

instance Throughout.decidable [∀ t, DecidablePred (P t)] :
    ∀ t ops, Decidable (Throughout P t ops)
  | _, [] => inferInstanceAs (Decidable True)
  | t, op :: ops => @instDecidableAnd _ _ _ (decidable (t.perform op).2 ops)

/-- The tokens issued for the expectation, oldest first. -/
def tokensFor (e : Expectation) (h : History) : List Token :=
  (h.filter fun x => x.1 = .expect e).filterMap (·.2.token?)

def Answer.attributed? : Answer → Option Token
  | .captured (some (k, _)) => some k
  | _ => none

/-- What becomes of the events at the place of the expectation, one after the other. -/
def attributions (e : Expectation) (h : History) : List (Option Token) :=
  (h.filter fun x => x.1.reports e).map (·.2.attributed?)

theorem Coherent.tokensFor_expect (hc : Coherent t) (e : Expectation) (ops : List Operation) :
    tokensFor e (t.history (.expect e :: ops)) =
      (t.issued + 1) :: tokensFor e ((t.perform (.expect e)).2.history ops) := by
  have htoken : (t.perform (.expect e)).1 = .token (t.issued + 1) := by
    rw [Tracker.perform, hc.expect_eq]
  simp [tokensFor, history, htoken, Answer.token?]

theorem tokensFor_of_ne (h : op ≠ .expect e) :
    tokensFor e (history t (op :: ops)) = tokensFor e ((t.perform op).2.history ops) := by
  simp [tokensFor, history, h]

theorem attributions_of_reports (h : op.reports e = true) :
    attributions e (history t (op :: ops)) =
      (t.perform op).1.attributed? :: attributions e ((t.perform op).2.history ops) := by
  simp [attributions, history, h]

theorem attributions_of_not_reports (h : op.reports e = false) :
    attributions e (history t (op :: ops)) = attributions e ((t.perform op).2.history ops) := by
  simp [attributions, history, h]

theorem Coherent.length_tokensFor (hc : Coherent t) (e : Expectation) (ops : List Operation) :
    (tokensFor e (t.history ops)).length = ops.count (.expect e) := by
  induction ops generalizing t with
  | nil => rfl
  | cons op ops ih =>
    by_cases hop : op = .expect e
    · subst hop
      rw [hc.tokensFor_expect, List.length_cons, ih (hc.perform _), List.count_cons_self]
    · rw [tokensFor_of_ne hop, ih (hc.perform op), List.count_cons_of_ne hop]

theorem length_attributions (e : Expectation) (t : Tracker) (ops : List Operation) :
    (attributions e (t.history ops)).length = ops.countP (Operation.reports e) := by
  induction ops generalizing t with
  | nil => rfl
  | cons op ops ih =>
    cases hop : op.reports e with
    | true => rw [attributions_of_reports hop, List.length_cons, ih, List.countP_cons_of_pos hop]
    | false => rw [attributions_of_not_reports hop, ih, List.countP_cons_of_neg (by simp [hop])]

theorem Waiting.registered (h : Waiting t e bound ks) (hc : Coherent t)
    (he : e.sort = .methodExit)
    (hops : Throughout (fun t op => op = .expect e ∨ op.Apart e t) t ops) :
    Waiting (t.after ops) e bound ((tokensFor e (t.history ops)).reverse ++ ks) := by
  induction ops generalizing t ks with
  | nil => exact h
  | cons op ops ih =>
    obtain ⟨hop, hops⟩ := hops
    obtain rfl | hop := hop
    · rw [hc.tokensFor_expect, List.reverse_cons, List.append_assoc]
      exact ih (h.expect hc he) (hc.perform _) hops
    · have hne : op ≠ .expect e := by
        rintro rfl
        exact hop rfl
      rw [tokensFor_of_ne hne]
      exact ih (h.apart hc he hop) (hc.perform _) hops

theorem Waiting.exhausted (h : Waiting t e 0 []) (hc : Coherent t) (he : e.sort = .methodExit)
    (hops : Throughout (fun t op => op.reports e = true ∨ op.Apart e t) t ops) :
    ∀ a ∈ attributions e (t.history ops), a = none := by
  induction ops generalizing t with
  | nil => exact List.forall_mem_nil _
  | cons op ops ih =>
    obtain ⟨hop, hops⟩ := hops
    obtain hop | hop := hop
    · obtain ⟨event, rfl, hplace, -⟩ := exists_of_reports hop
      have hseen := h.observe_nil hplace
      rw [attributions_of_reports hop]
      rw [perform_observe, hseen] at hops ⊢
      exact List.forall_mem_cons.2 ⟨rfl, ih h hc hops⟩
    · rw [attributions_of_not_reports hop.not_reports]
      exact ih (h.apart hc he hop) (hc.perform op) hops

/-- Each event takes the token on top away. With no bound there is nothing left in the end. -/
theorem Waiting.attributed (h : Waiting t e bound ks) (hc : Coherent t)
    (he : e.sort = .methodExit)
    (hops : Throughout (fun t op => op.reports e = true ∨ op.Apart e t) t ops)
    (hks : ks.length ≤ ops.countP (Operation.reports e)) :
    ∃ more, attributions e (t.history ops) = ks.map some ++ more ∧
      (bound = 0 → ∀ a ∈ more, a = none) := by
  induction ops generalizing t ks with
  | nil =>
    obtain rfl := List.length_eq_zero_iff.1 (Nat.le_zero.1 hks)
    exact ⟨[], rfl, fun _ => List.forall_mem_nil _⟩
  | cons op ops ih =>
    obtain _ | ⟨k, ks⟩ := ks
    · refine ⟨_, rfl, ?_⟩
      rintro rfl
      exact h.exhausted hc he hops
    obtain ⟨hop, hops⟩ := hops
    obtain hop | hop := hop
    · obtain ⟨event, rfl, -⟩ := exists_of_reports hop
      obtain ⟨⟨r, hseen⟩, hrest⟩ := h.observe_cons hop
      rw [List.countP_cons_of_pos hop, List.length_cons, Nat.add_le_add_iff_right] at hks
      obtain ⟨more, hmore, hnone⟩ := ih hrest (hc.perform (.observe event)) hops hks
      refine ⟨more, ?_, hnone⟩
      rw [attributions_of_reports hop, perform_observe, hseen, hmore]
      rfl
    · have hno := hop.not_reports
      rw [List.countP_cons_of_neg (by simp [hno])] at hks
      rw [attributions_of_not_reports hno]
      exact ih (h.apart hc he hop) (hc.perform op) hops hks

/-- An event without a result, or with nothing awaited at its place, changes nothing. Any other
goes to the greatest of the tokens awaited there and settles that record alone. Neither depends
on the order in which the tables hold their entries. So when a method exit was registered `n`
times, then in whatever company, the first `n` events at its place go to the tokens in reverse
order. The next one finds nothing, unless something was awaited there before. -/
theorem attribution_newest_first :
    (∀ (t : Tracker) (event : StopEvent),
      Unmatched t event ∧ t.observe event = (none, t) ∨
      ¬Unmatched t event ∧ ∃ k e r, (t.observe event).1 = some (k, r) ∧
        Captures t (t.observe event).2 k e r ∧ e.place = event.place ∧ e.Yields event r ∧
        ∀ k' e', t.pending.get? k' = some e' → e'.place = event.place → k' ≤ k) ∧
    (∀ (t t' : Tracker) (event : StopEvent), SameRecords t t' →
      (t.observe event).1 = (t'.observe event).1 ∧
      SameRecords (t.observe event).2 (t'.observe event).2) ∧
    ∀ (before ops ops' : List Operation) (e : Expectation) (n : Nat), e.sort = .methodExit →
      Throughout (fun t op => op = .expect e ∨ op.Apart e t) (empty.after before) ops →
      Throughout (fun t op => op.reports e = true ∨ op.Apart e t)
        (empty.after (before ++ ops)) ops' →
      ops.count (.expect e) = n → ops'.countP (Operation.reports e) = n + 1 →
      (tokensFor e ((empty.after before).history ops)).length = n ∧
      ∃ next, attributions e ((empty.after (before ++ ops)).history ops') =
          (tokensFor e ((empty.after before).history ops)).reverse.map some ++ [next] ∧
        ((∀ k e', (empty.after before).pending.get? k = some e' → e'.place ≠ e.place) →
          next = none) := by
  refine ⟨fun t event => ?_, fun t t' event h => h.observe event, ?_⟩
  · by_cases h : Unmatched t event
    · exact .inl ⟨h, observe_of_unmatched h⟩
    · exact .inr ⟨h, observe_of_matched h⟩
  intro before ops ops' e n he hops hops' hn hn'
  have hc := Coherent.empty.after before
  have htokens := (hc.length_tokensFor e ops).trans hn
  rw [after_append] at hops' ⊢
  obtain ⟨bound, hw, hbound⟩ := hc.waiting e
  have hw' := hw.registered hc he hops
  rw [List.append_nil] at hw'
  obtain ⟨more, hmore, hnone⟩ := hw'.attributed (hc.after ops) he hops' (by
    rw [List.length_reverse, htokens, hn']
    exact Nat.le_succ n)
  obtain ⟨next, rfl⟩ : ∃ next, more = [next] := by
    have hlen := length_attributions e ((empty.after before).after ops) ops'
    rw [hmore, List.length_append, List.length_map, List.length_reverse, htokens, hn'] at hlen
    exact List.length_eq_one_iff.1 (Nat.add_left_cancel hlen)
  exact ⟨htokens, next, hmore, fun hclear => hnone (hbound hclear) next List.mem_cons_self⟩

theorem attribution_newest_first_two :
    let e : Expectation := ⟨1, ⟨"Calc", "compute", "()I"⟩, 2, .methodExit⟩
    let other : Expectation := { e with depth := 3 }
    let exit (depth : Nat) : StopEvent := ⟨1, depth, e.method, .methodExit (.int 7)⟩
    let before : List Operation := [.expect other]
    let ops : List Operation := [.expect e, .expect other, .expect e, .abandon 1]
    let ops' : List Operation := [.observe (exit 2), .observe (exit 3),
      .observe (exit 2), .take 4, .observe (exit 2)]
    let t := empty.after (before ++ ops)
    let reversed : Tracker := ⟨4, ⟨[(4, e), (3, other), (2, e)], by decide⟩, .empty⟩
    attributions e (t.history ops') = [some 4, some 2, none] ∧
      SameRecords t reversed ∧ (reversed.observe (exit 2)).1 = (t.observe (exit 2)).1 := by
  intro e other exit before ops ops' t reversed
  obtain ⟨-, hsame, hrun⟩ := attribution_newest_first
  have hother : ∀ k e', (empty.after before).pending.get? k = some e' → e'.place ≠ e.place := by
    intro k e' hk
    have hentries : (empty.after before).pending.entries = [(1, other)] := by decide
    rw [Table.get?_eq_some_iff, hentries, List.mem_singleton] at hk
    cases hk
    decide
  obtain ⟨-, next, hseq, hnext⟩ := hrun before ops ops' e 2 rfl
    (by decide) (by decide) (by decide) (by decide)
  have hrecords : SameRecords t reversed := ⟨by decide, by decide, by decide⟩
  refine ⟨?_, hrecords, (hsame t reversed (exit 2) hrecords).1.symm⟩
  rw [hseq, hnext hother]
  decide

end Tracker

end Probe

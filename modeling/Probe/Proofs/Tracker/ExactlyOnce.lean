import Probe.Proofs.Tracker.History

namespace Probe.Tracker
set_option autoImplicit true

def Answer.token? : Answer → Option Token
  | .token k => some k
  | _ => none

theorem Answer.token?_eq_some_iff {a : Answer} : a.token? = some k ↔ a = .token k := by
  cases a <;> simp [token?]

/-- An event was attributed to the token. -/
def attributes (k : Token) : Operation × Answer → Bool
  | (_, .captured (some (k', _))) => k' == k
  | _ => false

/-- The result of the token was handed out. -/
def handsOut (k : Token) : Operation × Answer → Bool
  | (.take k', .result (some _)) => k' == k
  | _ => false

theorem attributes_iff :
    attributes k (op, a) = true ↔ ∃ r, a = .captured (some (k, r)) := by
  rcases a with _ | (_ | ⟨k', r⟩) | _ | _ | _ <;> simp [attributes]

theorem handsOut_iff :
    handsOut k (op, a) = true ↔ op = .take k ∧ ∃ r, a = .result (some r) := by
  cases op <;> rcases a with _ | _ | (_ | r) | _ | _ <;> simp [handsOut]

theorem Coherent.not_pending_after (h : Coherent t) (hk : k ≤ t.issued)
    (hp : t.pending.get? k = none) (ops : List Operation) :
    (t.after ops).pending.get? k = none := by
  rw [Option.eq_none_iff_forall_ne_some]
  intro e he
  rcases h.pending_registered he with he | hm
  · simp [hp] at he
  · exact Nat.not_lt_of_ge hk (h.token_bounds hm).1

theorem Coherent.not_captured_after (h : Coherent t) (hk : k ≤ t.issued)
    (hp : t.pending.get? k = none) (hc : t.captured.get? k = none) (ops : List Operation) :
    (t.after ops).captured.get? k = none := by
  rw [Option.eq_none_iff_forall_ne_some]
  rintro ⟨thread, r⟩ hg
  rcases h.captured_origin hg with hg | ⟨event, e, -, -, ⟨he, -⟩ | hs⟩
  · simp [hc] at hg
  · simp [hp] at he
  · have hm := hs.subset List.mem_cons_self
    exact Nat.not_lt_of_ge hk (h.token_bounds hm).1

/-- What rules itself out from then on happens at most once. -/
theorem Coherent.countP_history_le_one (h : Coherent t) (p : Operation × Answer → Bool)
    (hp : ∀ t op ops, Coherent t → p (op, (t.perform op).1) = true →
      ∀ x ∈ (t.perform op).2.history ops, p x = false) (ops : List Operation) :
    (t.history ops).countP p ≤ 1 := by
  induction ops generalizing t with
  | nil => simp [history]
  | cons op ops ih =>
    rw [history, List.countP_cons]
    split
    · rename_i hx
      have hz : ((t.perform op).2.history ops).countP p = 0 := by
        rw [List.countP_eq_zero]
        intro x hm
        simp [hp t op ops h hx x hm]
      omega
    · exact ih (h.perform op)

theorem Coherent.attributes_once (h : Coherent t) (k : Token) (ops : List Operation) :
    (t.history ops).countP (attributes k) ≤ 1 := by
  apply h.countP_history_le_one
  rintro t op ops h ha ⟨op', a⟩ hm
  obtain ⟨r, ha⟩ := attributes_iff.1 ha
  obtain ⟨event, e, rfl, he, -⟩ := perform_captured ha
  have hn : (t.perform (.observe event)).2.pending.get? k = none := by
    rw [Option.eq_none_iff_forall_ne_some]
    intro e' he'
    rcases (h.pending_iff _ k e').1 he' with ⟨hop, -⟩ | ⟨-, -, hne, -⟩
    · cases hop
    · exact hne r ha
  have hk := Nat.le_trans (h.pending_le he) (h.issued_le (.observe event))
  obtain ⟨before, rest, -, rfl⟩ := mem_history_iff.1 hm
  rw [← Bool.not_eq_true, attributes_iff]
  rintro ⟨r', ha'⟩
  obtain ⟨_, e', -, he', -⟩ := perform_captured ha'
  simp [(h.perform _).not_pending_after hk hn before] at he'

theorem Coherent.handsOut_once (h : Coherent t) (k : Token) (ops : List Operation) :
    (t.history ops).countP (handsOut k) ≤ 1 := by
  apply h.countP_history_le_one
  rintro t op ops h ha ⟨op', a⟩ hm
  obtain ⟨rfl, r, hr⟩ := handsOut_iff.1 ha
  obtain ⟨thread, hg⟩ := take_eq_some_iff.1 (Answer.result.inj hr)
  have hp : t.pending.get? k = none := by
    rw [Option.eq_none_iff_forall_ne_some]
    intro e he
    simp [h.disjoint he] at hg
  have hc : (t.perform (.take k)).2.captured.get? k = none := by
    simp [Tracker.perform, take, Table.get?_erase]
  obtain ⟨before, rest, -, rfl⟩ := mem_history_iff.1 hm
  rw [← Bool.not_eq_true, handsOut_iff]
  rintro ⟨rfl, r', hr'⟩
  obtain ⟨thread', hg'⟩ := take_eq_some_iff.1 (Answer.result.inj hr')
  simp [(h.perform (.take k)).not_captured_after (h.captured_le hg) hp hc before] at hg'

theorem Coherent.tokens_increasing (h : Coherent t) (ops : List Operation) :
    ((t.history ops).filterMap (·.2.token?)).Pairwise (· < ·) := by
  induction ops generalizing t with
  | nil => exact .nil
  | cons op ops ih =>
    rw [history, List.filterMap_cons]
    split
    · exact ih (h.perform op)
    · rename_i k hk
      refine List.pairwise_cons.2 ⟨fun k' hk' => ?_, ih (h.perform op)⟩
      obtain ⟨⟨op', a⟩, hm, ha⟩ := List.mem_filterMap.1 hk'
      obtain rfl := Answer.token?_eq_some_iff.1 ha
      obtain ⟨e, rfl, rfl⟩ := h.perform_expect (Answer.token?_eq_some_iff.1 hk)
      have hlt := ((h.perform _).token_bounds hm).1
      rwa [h.issued_perform] at hlt

def Operation.isExpect : Operation → Bool
  | .expect _ => true
  | _ => false

theorem Coherent.issued_after (h : Coherent t) (ops : List Operation) :
    (t.after ops).issued = t.issued + ops.countP Operation.isExpect := by
  induction ops generalizing t with
  | nil => rfl
  | cons op ops ih =>
    rw [after_cons, ih (h.perform op), h.issued_perform, List.countP_cons]
    cases op with
    | expect e =>
      simp [Operation.isExpect]
      omega
    | _ => simp [Operation.isExpect]

/-- A result that is handed out has its event, and that has its expectation, in this order. -/
theorem take_origin (hm : (.take k, .result (some r)) ∈ empty.history ops) :
    ∃ e event, e.Yields event r ∧
      List.Sublist [(.expect e, .token k), (.observe event, .captured (some (k, r))),
        (.take k, .result (some r))] (empty.history ops) := by
  obtain ⟨before, rest, rfl, ha⟩ := mem_history_iff.1 hm
  obtain ⟨thread, hc⟩ := take_eq_some_iff.1 (Answer.result.inj ha.symm)
  obtain ⟨event, e, hy, -, hs⟩ := origin_of_captured hc
  refine ⟨e, event, hy, ?_⟩
  rw [history_append, history, ← ha]
  exact hs.append (List.singleton_sublist.2 List.mem_cons_self)

/-- What is true of the tokens of a history that starts from nothing. -/
structure UsedOnce (ops : List Operation) : Prop where
  /-- The tokens issued are distinct and rise. -/
  increasing : ((empty.history ops).filterMap (·.2.token?)).Pairwise (· < ·)
  /-- The tokens fit in 64 bits while fewer than `2 ^ 64` expectations are registered. -/
  bounded : ∀ k ∈ (empty.history ops).filterMap (·.2.token?),
    0 < k ∧ k ≤ ops.countP Operation.isExpect
  disjoint : ∀ k, (empty.after ops).isPending k = true →
    (empty.after ops).captured.contains k = false
  recorded : ∀ k,
    (empty.after ops).isPending k = true ∨ (empty.after ops).captured.contains k = true →
    ∃ e, (.expect e, .token k) ∈ empty.history ops
  /-- A thread has at most one pending step. -/
  one_step : ∀ k e k' e', (empty.after ops).pending.get? k = some e →
    (empty.after ops).pending.get? k' = some e' →
    e.sort = .step → e'.sort = .step → e.thread = e'.thread → k = k'
  attributed_once : ∀ k, (empty.history ops).countP (attributes k) ≤ 1
  handed_out_once : ∀ k, (empty.history ops).countP (handsOut k) ≤ 1
  origin : ∀ k r, (.take k, .result (some r)) ∈ empty.history ops → ∃ e event, e.Yields event r ∧
    List.Sublist [(.expect e, .token k), (.observe event, .captured (some (k, r))),
      (.take k, .result (some r))] (empty.history ops)
  /-- A token that has stopped being pending stays so. -/
  for_good : ∀ k before during later, ops = before ++ during ++ later →
    (empty.after before).isPending k = true →
    (empty.after (before ++ during)).isPending k = false →
    (empty.after ops).isPending k = false

/-- In every history a token is issued once, attributed at most one event and handed out at most
once, with the result of that event for the expectation it was issued for. -/
theorem tokens_used_once (ops : List Operation) : UsedOnce ops where
  increasing := Coherent.empty.tokens_increasing ops
  bounded := by
    intro k hk
    obtain ⟨⟨op, a⟩, hm, ha⟩ := List.mem_filterMap.1 hk
    obtain rfl := Answer.token?_eq_some_iff.1 ha
    have hb := Coherent.empty.token_bounds hm
    rw [Coherent.empty.issued_after, show empty.issued = 0 from rfl, Nat.zero_add] at hb
    exact hb
  disjoint := by
    intro k hk
    obtain ⟨e, he⟩ := Table.contains_iff.1 hk
    exact Table.contains_eq_false_iff.2 ((Coherent.empty.after ops).disjoint he)
  recorded := by
    rintro k (hk | hk)
    · obtain ⟨e, he⟩ := Table.contains_iff.1 hk
      exact ⟨e, registered_of_pending he⟩
    · obtain ⟨⟨thread, r⟩, hc⟩ := Table.contains_iff.1 hk
      obtain ⟨event, e, -, -, hs⟩ := origin_of_captured hc
      exact ⟨e, hs.subset List.mem_cons_self⟩
  one_step _ _ _ _ := (Coherent.empty.after ops).one_step
  attributed_once := fun k => Coherent.empty.attributes_once k ops
  handed_out_once := fun k => Coherent.empty.handsOut_once k ops
  origin _ _ := take_origin
  for_good := by
    rintro k before during later rfl hb hd
    have h := Coherent.empty.after (before ++ during)
    obtain ⟨e, he⟩ := Table.contains_iff.1 hb
    have hk : k ≤ (empty.after (before ++ during)).issued := by
      rw [after_append]
      exact Nat.le_trans ((Coherent.empty.after before).pending_le he)
        ((Coherent.empty.after before).issued_le_after during)
    rw [isPending, Table.contains_eq_false_iff] at hd ⊢
    rw [after_append]
    exact h.not_pending_after hk hd later

end Probe.Tracker

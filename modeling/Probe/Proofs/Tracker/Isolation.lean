import Mathlib.Data.List.Basic
import Probe.Proofs.Tracker.History

namespace Probe
set_option autoImplicit true

/-- `part` holds the entries of `whole` that have a value of one's own, in the same order and
with renamed keys. -/
def Table.IsPart (ρ : Nat → Nat) (mine : ν → Bool) (whole part : Table Nat ν) : Prop :=
  part.entries = (whole.entries.filter fun x => mine x.2).map fun x => (ρ x.1, x.2)

namespace Table.IsPart

theorem get?_eq_some_iff {whole part : Table Nat ν} (h : IsPart ρ mine whole part) :
    part.get? k = some v ↔ ∃ k', whole.get? k' = some v ∧ mine v = true ∧ ρ k' = k := by
  rw [Table.get?_eq_some_iff, h, List.mem_map]
  simp only [List.mem_filter, Prod.mk.injEq, Prod.exists, Table.get?_eq_some_iff]
  grind

theorem get? {whole part : Table Nat ν} (h : IsPart ρ mine whole part)
    (hk : ∀ k' v, whole.get? k' = some v → mine v = true → ρ k' = ρ k → k' = k)
    (hm : ∀ v, whole.get? k = some v → mine v = true) : part.get? (ρ k) = whole.get? k := by
  apply Option.ext
  intro v
  rw [h.get?_eq_some_iff]
  constructor
  · rintro ⟨k', hv, hm, he⟩
    rwa [hk k' v hv hm he] at hv
  · intro hv
    exact ⟨k, hv, hm v hv, rfl⟩

theorem filter {whole part : Table Nat ν} (h : IsPart ρ mine whole part) (keep : ν → Bool) :
    IsPart ρ mine (whole.filter fun _ v => keep v) (part.filter fun _ v => keep v) := by
  simp only [IsPart, Table.filter] at h ⊢
  rw [h, List.filter_map, List.filter_filter, List.filter_filter]
  congr 2
  funext x
  simp [Bool.and_comm]

theorem filter_others {whole part : Table Nat ν} (h : IsPart ρ mine whole part)
    (keep : Nat → ν → Bool)
    (hk : ∀ k v, whole.get? k = some v → mine v = true → keep k v = true) :
    IsPart ρ mine (whole.filter keep) part := by
  simp only [IsPart, Table.filter] at h ⊢
  rw [h, List.filter_filter]
  congr 1
  apply List.filter_congr
  intro x hx
  have hk := hk x.1 x.2 (Table.get?_eq_some_iff.2 hx)
  cases hm : mine x.2 with
  | false => rfl
  | true => simp [hk hm]

theorem erase {whole part : Table Nat ν} (h : IsPart ρ mine whole part)
    (hk : ∀ k' v, whole.get? k' = some v → mine v = true → ρ k' = ρ k → k' = k) :
    IsPart ρ mine (whole.erase k) (part.erase (ρ k)) := by
  simp only [IsPart, Table.erase] at h ⊢
  rw [h, List.filter_map, List.filter_filter, List.filter_filter]
  congr 1
  apply List.filter_congr
  intro x hx
  have hk := hk x.1 x.2 (Table.get?_eq_some_iff.2 hx)
  grind

theorem erase_others {whole part : Table Nat ν} (h : IsPart ρ mine whole part)
    (hk : ∀ v, whole.get? k = some v → mine v = false) :
    IsPart ρ mine (whole.erase k) part := by
  apply h.filter_others fun k' _ => k' ≠ k
  grind

theorem insert {whole part : Table Nat ν} (h : IsPart ρ mine whole part)
    (hk : whole.get? k = none) (hk' : part.get? (ρ k) = none) (hm : mine v = true) :
    IsPart ρ mine (whole.insert k v) (part.insert (ρ k) v) := by
  simp only [IsPart] at h ⊢
  rw [Table.entries_insert hk, Table.entries_insert hk', h]
  simp [hm]

theorem insert_others {whole part : Table Nat ν} (h : IsPart ρ mine whole part)
    (hk : whole.get? k = none) (hm : mine v = false) :
    IsPart ρ mine (whole.insert k v) part := by
  simp only [IsPart] at h ⊢
  rw [Table.entries_insert hk, h]
  simp [hm]

theorem size_eq {whole part : Table Nat ν} (h : IsPart ρ mine whole part) :
    whole.size = part.size + (whole.filter fun _ v => !mine v).size := by
  simp only [Table.size, Table.filter, show part.entries = _ from h, List.length_map]
  exact List.length_eq_length_filter_add _

theorem size_filter_others {whole part : Table Nat ν} (h : IsPart ρ mine whole part) :
    (part.filter fun _ v => !mine v).size = 0 := by
  simp only [Table.size, Table.filter, show part.entries = _ from h, List.length_eq_zero_iff,
    List.filter_eq_nil_iff, List.mem_map, List.mem_filter]
  rintro _ ⟨x, ⟨-, hm⟩, rfl⟩
  simp [hm]

end Table.IsPart

namespace Tracker

/-- The thread for which a token is issued in a history. -/
def owner? (h : History) (k : Token) : Option ThreadId :=
  h.findSome? fun
    | (.expect e, .token k') => if k' = k then some e.thread else none
    | _ => none

/-- The operation is one on the thread, or on a token of the thread. -/
def Operation.belongs (own : Token → Option ThreadId) (thread : ThreadId) : Operation → Bool
  | .expect e => e.thread == thread
  | .observe event => event.thread == thread
  | .take k | .isPending k | .abandon k => own k == some thread
  | .abandonThread thread' => thread' == thread

def Operation.rename (ρ : Token → Token) : Operation → Operation
  | .take k => .take (ρ k)
  | .isPending k => .isPending (ρ k)
  | .abandon k => .abandon (ρ k)
  | op => op

def Answer.rename (ρ : Token → Token) : Answer → Answer
  | .token k => .token (ρ k)
  | .captured (some (k, r)) => .captured (some (ρ k, r))
  | a => a

/-- The number of the thread's tokens up to a token. -/
def rank (own : Nat → Option ThreadId) (thread : ThreadId) : Nat → Nat
  | 0 => 0
  | k + 1 => rank own thread k + if own (k + 1) = some thread then 1 else 0

theorem rank_mono (own : Nat → Option ThreadId) (thread : ThreadId) {k k' : Nat} (h : k ≤ k') :
    rank own thread k ≤ rank own thread k' := by
  induction h with
  | refl => exact Nat.le_refl _
  | step _ ih => exact Nat.le_trans ih (Nat.le_add_right _ _)

/-- Renaming by rank keeps the order of the thread's tokens. -/
theorem rank_lt {k k' : Nat} (hk : own k' = some thread) (h : k < k') :
    rank own thread k < rank own thread k' := by
  obtain ⟨n, rfl⟩ := Nat.exists_eq_add_of_lt h
  have hm := rank_mono own thread (Nat.le_add_right k n)
  simp only [rank, hk, ↓reduceIte]
  omega

theorem rank_inj {k k' : Nat} (hk : own k = some thread) (hk' : own k' = some thread)
    (h : rank own thread k = rank own thread k') : k = k' := by
  rcases Nat.lt_trichotomy k k' with hlt | rfl | hlt
  · have := rank_lt hk' hlt
    omega
  · rfl
  · have := rank_lt hk hlt
    omega

/-- The records of a tracker stand under tokens of their threads. -/
structure Owned (own : Nat → Option ThreadId) (g : Tracker) : Prop where
  pending : g.pending.get? k = some e → own k = some e.thread
  captured : g.captured.get? k = some c → own k = some c.1

theorem Owned.perform (ho : Owned own g) (hg : Coherent g)
    (hi : ∀ e, op = .expect e → own (g.issued + 1) = some e.thread) :
    Owned own (g.perform op).2 where
  pending := by
    intro k e hk
    rcases (hg.pending_iff op k e).1 hk with ⟨rfl, rfl⟩ | ⟨hk, -⟩
    · exact hi e rfl
    · exact ho.pending hk
  captured := by
    rintro k ⟨thread, r⟩ hk
    rcases (hg.captured_iff op k thread r).1 hk with ⟨-, e, he, rfl⟩ | ⟨hk, -⟩
    · exact ho.pending he
    · exact ho.captured hk

theorem Owned.pending_apart (ho : Owned own g) (hk : own k = some thread) (k' : Nat)
    (e : Expectation) (he : g.pending.get? k' = some e) (ht : (e.thread == thread) = true)
    (hr : rank own thread k' = rank own thread k) : k' = k := by
  rw [beq_iff_eq] at ht
  exact rank_inj (ht ▸ ho.pending he) hk hr

theorem Owned.captured_apart (ho : Owned own g) (hk : own k = some thread) (k' : Nat)
    (c : ThreadId × MethodResult) (hc : g.captured.get? k' = some c)
    (ht : (c.1 == thread) = true) (hr : rank own thread k' = rank own thread k) : k' = k := by
  rw [beq_iff_eq] at ht
  exact rank_inj (ht ▸ ho.captured hc) hk hr

theorem Coherent.fresh (h : Coherent t) (keep : Token → Expectation → Bool) :
    (t.pending.filter keep).get? (t.issued + 1) = none := by
  rw [Option.eq_none_iff_forall_ne_some]
  intro e he
  rw [Table.get?_filter, Option.filter_eq_some_iff] at he
  exact Nat.not_succ_le_self _ (h.pending_le he.1)

/-- `l` knows about the thread what `g` knows, under the ranks of the thread's tokens. -/
structure Isolated (own : Nat → Option ThreadId) (thread : ThreadId) (g l : Tracker) : Prop where
  issued : l.issued = rank own thread g.issued
  pending : Table.IsPart (rank own thread) (fun e => e.thread == thread) g.pending l.pending
  captured : Table.IsPart (rank own thread) (fun c => c.1 == thread) g.captured l.captured

theorem Isolated.get?_pending (h : Isolated own thread g l) (ho : Owned own g)
    (hk : own k = some thread) : l.pending.get? (rank own thread k) = g.pending.get? k := by
  apply h.pending.get? (ho.pending_apart hk)
  intro e he
  exact beq_iff_eq.2 (Option.some.inj (hk.symm.trans (ho.pending he))).symm

theorem Isolated.get?_captured (h : Isolated own thread g l) (ho : Owned own g)
    (hk : own k = some thread) : l.captured.get? (rank own thread k) = g.captured.get? k := by
  apply h.captured.get? (ho.captured_apart hk)
  intro c hc
  exact beq_iff_eq.2 (Option.some.inj (hk.symm.trans (ho.captured hc))).symm

/-- An operation of another thread changes nothing that the thread can see. -/
theorem Isolated.perform_others (h : Isolated own thread g l) (ho : Owned own g)
    (hg : Coherent g) (hi : ∀ e, op = .expect e → own (g.issued + 1) = some e.thread)
    (hb : op.belongs own thread = false) : Isolated own thread (g.perform op).2 l := by
  cases op with
  | expect e =>
    have ht : e.thread ≠ thread := by simpa [Operation.belongs] using hb
    simp only [perform, hg.expect_eq]
    refine ⟨?_, ?_, h.captured⟩
    · simp [rank, hi e rfl, ht, h.issued]
    · apply Table.IsPart.insert_others
      · apply h.pending.filter_others
        intro k e' _ he'
        rw [Bool.not_eq_true', ← Bool.not_eq_true, Expectation.replaces_iff]
        rintro ⟨-, ht', -⟩
        exact ht (ht'.symm.trans (beq_iff_eq.1 he'))
      · exact hg.fresh _
      · simpa using ht
  | observe event =>
    have ht : event.thread ≠ thread := by simpa [Operation.belongs] using hb
    rcases g.observe_cases event with ⟨hob, -⟩ | ⟨k, e, value, returned, hv, he, hf, -, hob⟩
    · simpa only [perform, hob] using h
    · have hne : e.thread ≠ thread := (Expectation.yields_result hf hv).thread ▸ ht
      simp only [perform, hob]
      refine ⟨h.issued, h.pending.erase_others ?_, h.captured.insert_others (hg.disjoint he) ?_⟩
      · intro e' he'
        cases he.symm.trans he'
        simpa using hne
      · simpa using hne
  | take k =>
    have hk : own k ≠ some thread := by simpa [Operation.belongs] using hb
    refine ⟨h.issued, h.pending, h.captured.erase_others ?_⟩
    intro c hc
    rw [ho.captured hc] at hk
    simpa using hk
  | isPending k => exact h
  | abandon k =>
    have hk : own k ≠ some thread := by simpa [Operation.belongs] using hb
    refine ⟨h.issued, h.pending.erase_others ?_, h.captured.erase_others ?_⟩
    · intro e he
      rw [ho.pending he] at hk
      simpa using hk
    · intro c hc
      rw [ho.captured hc] at hk
      simpa using hk
  | abandonThread thread' =>
    have ht : thread' ≠ thread := by simpa [Operation.belongs] using hb
    refine ⟨h.issued, h.pending.filter_others _ ?_, h.captured.filter_others _ ?_⟩
    · intro k e _ he
      simpa [beq_iff_eq.1 he] using ht.symm
    · intro k c _ hc
      simpa [beq_iff_eq.1 hc] using ht.symm

theorem Isolated.observe (h : Isolated own thread g l) (ho : Owned own g) (hg : Coherent g)
    (hl : Coherent l) (ht : event.thread = thread) :
    (l.perform (.observe event)).1 = (g.perform (.observe event)).1.rename (rank own thread) ∧
      Isolated own thread (g.perform (.observe event)).2 (l.perform (.observe event)).2 := by
  rcases g.observe_cases event with ⟨hgo, hgn⟩ | ⟨k, e, value, returned, hv, he, hf, hmax, hgo⟩
  · rcases l.observe_cases event with ⟨hlo, -⟩ | ⟨k', e', v, b, hv, he', hf', -, -⟩
    · simp only [perform, hgo, hlo]
      exact ⟨rfl, h⟩
    · -- What the thread alone could match, it could match among the others.
      obtain ⟨k, he, -, -⟩ := h.pending.get?_eq_some_iff.1 he'
      rcases hgn with hgn | hgn
      · simp [hgn] at hv
      · simp [hgn k e' he] at hf'
  · have hte : e.thread = thread := ((Expectation.yields_result hf hv).thread.symm).trans ht
    have hk : own k = some thread := hte ▸ ho.pending he
    have hle : l.pending.get? (rank own thread k) = some e := (h.get?_pending ho hk).trans he
    rcases l.observe_cases event with ⟨-, hln⟩ | ⟨k', e', v, b, hv', he', hf', hmax', hlo⟩
    · rcases hln with hln | hln
      · simp [hln] at hv
      · simp [hln _ e hle] at hf
    · have hkk : k' = rank own thread k := by
        obtain ⟨k₀, he₀, -, rfl⟩ := h.pending.get?_eq_some_iff.1 he'
        exact Nat.le_antisymm (rank_mono own thread (hmax k₀ e' he₀ hf')) (hmax' _ e hle hf)
      subst hkk
      cases hle.symm.trans he'
      cases hv.symm.trans hv'
      simp only [perform, hgo, hlo]
      refine ⟨rfl, h.issued, h.pending.erase (ho.pending_apart hk), ?_⟩
      apply h.captured.insert (hg.disjoint he) (hl.disjoint hle)
      simpa using hte

/-- An operation of the thread gets the same answer when the thread is alone. -/
theorem Isolated.perform_own (h : Isolated own thread g l) (ho : Owned own g) (hg : Coherent g)
    (hl : Coherent l) (hi : ∀ e, op = .expect e → own (g.issued + 1) = some e.thread)
    (hb : op.belongs own thread = true) :
    (l.perform (op.rename (rank own thread))).1 = (g.perform op).1.rename (rank own thread) ∧
      Isolated own thread (g.perform op).2 (l.perform (op.rename (rank own thread))).2 := by
  cases op with
  | expect e =>
    have ht : e.thread = thread := by simpa [Operation.belongs] using hb
    have hr : rank own thread (g.issued + 1) = l.issued + 1 := by
      simp [rank, hi e rfl, ht, h.issued]
    simp only [Operation.rename, perform, hg.expect_eq, hl.expect_eq, Answer.rename, hr]
    refine ⟨trivial, hr.symm, ?_, h.captured⟩
    rw [← hr]
    apply (h.pending.filter fun e' => !e.replaces e').insert
    · exact hg.fresh _
    · rw [hr]
      exact hl.fresh _
    · simpa using ht
  | observe event => exact h.observe ho hg hl (by simpa [Operation.belongs] using hb)
  | take k =>
    have hk : own k = some thread := by simpa [Operation.belongs] using hb
    refine ⟨?_, h.issued, h.pending, h.captured.erase (ho.captured_apart hk)⟩
    simp [perform, take, Operation.rename, Answer.rename, h.get?_captured ho hk]
  | isPending k =>
    have hk : own k = some thread := by simpa [Operation.belongs] using hb
    refine ⟨?_, h⟩
    simp [perform, isPending, Table.contains, Operation.rename, Answer.rename,
      h.get?_pending ho hk]
  | abandon k =>
    have hk : own k = some thread := by simpa [Operation.belongs] using hb
    refine ⟨?_, h.issued, h.pending.erase (ho.pending_apart hk),
      h.captured.erase (ho.captured_apart hk)⟩
    simp [perform, abandon, Table.contains, Operation.rename, Answer.rename,
      h.get?_pending ho hk, h.get?_captured ho hk]
  | abandonThread thread' =>
    obtain rfl : thread' = thread := by simpa [Operation.belongs] using hb
    refine ⟨?_, h.issued, h.pending.filter _, h.captured.filter fun c => c.1 != thread'⟩
    have hp : g.pending.size = l.pending.size +
        (g.pending.filter fun _ e => e.thread != thread').size := h.pending.size_eq
    have hc : g.captured.size = l.captured.size +
        (g.captured.filter fun _ c => c.1 != thread').size := h.captured.size_eq
    have hp' : (l.pending.filter fun _ e => e.thread != thread').size = 0 :=
      h.pending.size_filter_others
    have hc' : (l.captured.filter fun _ c => c.1 != thread').size = 0 :=
      h.captured.size_filter_others
    simp only [perform, abandonThread, Operation.rename, Answer.rename, Answer.count.injEq]
    omega

theorem Isolated.history (h : Isolated own thread g l) (ho : Owned own g) (hg : Coherent g)
    (hl : Coherent l)
    (hi : ∀ e k, (.expect e, .token k) ∈ g.history ops → own k = some e.thread) :
    ((g.history ops).filter fun x => x.1.belongs own thread).map
        (fun x => (x.1.rename (rank own thread), x.2.rename (rank own thread))) =
      l.history ((ops.filter (·.belongs own thread)).map (·.rename (rank own thread))) := by
  induction ops generalizing g l with
  | nil => rfl
  | cons op ops ih =>
    have hi₁ : ∀ e, op = .expect e → own (g.issued + 1) = some e.thread := by
      rintro e rfl
      exact hi e _ (by simp [Tracker.history, Tracker.perform, hg.expect_eq])
    have hi₂ : ∀ e k, (.expect e, .token k) ∈ (g.perform op).2.history ops →
        own k = some e.thread := fun e k hm => hi e k (List.mem_cons_of_mem _ hm)
    cases hb : op.belongs own thread with
    | false =>
      have h' := h.perform_others ho hg hi₁ hb
      simpa [Tracker.history, hb] using ih h' (ho.perform hg hi₁) (hg.perform op) hl hi₂
    | true =>
      obtain ⟨ha, h'⟩ := h.perform_own ho hg hl hi₁ hb
      simpa [Tracker.history, hb, ha] using
        ih h' (ho.perform hg hi₁) (hg.perform op) (hl.perform _) hi₂

theorem owner?_eq (hm : (.expect e, .token k) ∈ empty.history ops) :
    owner? (empty.history ops) k = some e.thread := by
  cases hf : owner? (empty.history ops) k with
  | none =>
    have hn := List.findSome?_eq_none_iff.1 hf _ hm
    simp at hn
  | some thread =>
    obtain ⟨⟨op, a⟩, hm', ha⟩ := List.exists_of_findSome?_eq_some hf
    split at ha
    · rename_i e' k' hx
      obtain ⟨rfl, rfl⟩ := Prod.mk.inj hx
      split at ha
      · rename_i hk
        subst hk
        rw [← ha, Coherent.empty.expect_unique hm hm']
      · cases ha
    · cases ha

/-- The operations of a thread get the answers they get without the other threads, up to a
renaming that keeps the order of the thread's tokens. -/
theorem threads_isolated (ops : List Operation) (thread : ThreadId) :
    let own := owner? (empty.history ops)
    ∃ ρ : Token → Token,
      (∀ k k', own k = some thread → own k' = some thread → k < k' → ρ k < ρ k') ∧
      ((empty.history ops).filter fun x => x.1.belongs own thread).map
          (fun x => (x.1.rename ρ, x.2.rename ρ)) =
        empty.history ((ops.filter (·.belongs own thread)).map (·.rename ρ)) := by
  intro own
  refine ⟨rank own thread, fun k k' _ hk' h => rank_lt hk' h, ?_⟩
  have h : Isolated own thread empty empty := ⟨rfl, rfl, rfl⟩
  have ho : Owned own empty := ⟨fun h => by simp [empty] at h, fun h => by simp [empty] at h⟩
  exact h.history ho .empty .empty fun e k hm => owner?_eq hm

end Tracker

end Probe

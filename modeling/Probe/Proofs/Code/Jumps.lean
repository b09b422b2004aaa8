import Probe.Code.Sequence

namespace Probe
set_option autoImplicit true

def jumpAt? (is : List Instruction) (pc : Nat) : Option Nat := is[pc]?.bind Instruction.target?

def Forward (is : List Instruction) : Prop :=
  ∀ pc target, jumpAt? is pc = some target → pc < target ∧ target ≤ is.length

/-- The jump at index `pc` is the first one that does not lead forward. -/
structure FirstBadJump (is : List Instruction) (pc target : Nat) : Prop where
  jump : jumpAt? is pc = some target
  bad : target ≤ pc ∨ is.length < target
  before : ∀ pc' < pc, ∀ target', jumpAt? is pc' = some target' →
    pc' < target' ∧ target' ≤ is.length

theorem FirstBadJump.unique (h : FirstBadJump is pc target) (h' : FirstBadJump is pc' target') :
    pc = pc' ∧ target = target' := by
  have hbad := h.bad
  have hbad' := h'.bad
  have hpc : pc = pc' := by
    rcases Nat.lt_trichotomy pc pc' with hlt | heq | hlt
    · have hfine := h'.before pc hlt target h.jump
      omega
    · exact heq
    · have hfine := h.before pc' hlt target' h'.jump
      omega
  subst hpc
  exact ⟨rfl, Option.some.inj (h.jump.symm.trans h'.jump)⟩

theorem jumpAt?_of_getElem? (h : is[pc]? = some i) : jumpAt? is pc = i.target? := by
  simp [jumpAt?, h]

theorem jumpAt?_append (as bs : List Instruction) (k : Nat) :
    jumpAt? (as ++ bs) k = if k < as.length then jumpAt? as k else jumpAt? bs (k - as.length) := by
  unfold jumpAt?
  rw [List.getElem?_append]
  split <;> rfl

/-- The instruction for a place `n` further on: a jump leads just as much further. -/
def Instruction.relocate (n : Nat) : Instruction → Instruction
  | jump target => jump (target + n)
  | jumpIf expected target => jumpIf expected (target + n)
  | i => i

theorem Instruction.target?_relocate (n : Nat) (i : Instruction) :
    (i.relocate n).target? = i.target?.map (· + n) := by
  cases i <;> rfl

@[simp]
theorem Instruction.relocate_zero (i : Instruction) : i.relocate 0 = i := by
  cases i <;> rfl

theorem Instruction.hasSideEffects_relocate (n : Nat) (i : Instruction) :
    (i.relocate n).hasSideEffects = i.hasSideEffects := by
  cases i <;> rfl

theorem jumpAt?_relocate (n : Nat) (is : List Instruction) (k : Nat) :
    jumpAt? (is.map (·.relocate n)) k = (jumpAt? is k).map (· + n) := by
  unfold jumpAt?
  rw [List.getElem?_map]
  cases is[k]? with
  | none => rfl
  | some i => exact i.target?_relocate n

theorem Forward.append (hp : Forward p) (hq : Forward q) :
    Forward (p ++ q.map (·.relocate p.length)) := by
  intro pc target h
  rw [List.length_append, List.length_map]
  rw [jumpAt?_append, jumpAt?_relocate] at h
  split at h
  · have hfine := hp pc target h
    omega
  · obtain ⟨target', h', rfl⟩ := Option.map_eq_some_iff.1 h
    have hfine := hq _ target' h'
    omega

/-- The search starts at index `pc` of a longer list, of which the rest is `is`. -/
theorem badJumpFrom?_eq_none_iff {size : Nat} : badJumpFrom? size pc is = none ↔
    ∀ k target, jumpAt? is k = some target → pc + k < target ∧ target ≤ size := by
  induction is generalizing pc with
  | nil =>
    simp only [badJumpFrom?, true_iff]
    intro k target h
    cases h
  | cons i is ih =>
    have hrest : badJumpFrom? size (pc + 1) is = none ↔ ∀ k target,
        jumpAt? (i :: is) (k + 1) = some target → pc + (k + 1) < target ∧ target ≤ size := by
      rw [ih]
      apply forall_congr'
      intro k
      rw [Nat.add_right_comm]
      rfl
    have hsplit :
        (∀ k target, jumpAt? (i :: is) k = some target → pc + k < target ∧ target ≤ size) ↔
        (∀ target, i.target? = some target → pc < target ∧ target ≤ size) ∧
          badJumpFrom? size (pc + 1) is = none := by
      rw [hrest]
      constructor
      · intro h
        exact ⟨h 0, fun k => h (k + 1)⟩
      · rintro ⟨h0, h⟩ k
        cases k with
        | zero => exact h0
        | succ k => exact h k
    rw [hsplit, badJumpFrom?]
    cases i.target? with
    | none => simp
    | some target =>
      by_cases hfine : pc < target ∧ target ≤ size <;> simp [hfine]

theorem firstBad_of_badJumpFrom? {size : Nat} (h : badJumpFrom? size pc is = some (found, target)) :
    ∃ k, found = pc + k ∧ jumpAt? is k = some target ∧ (target ≤ pc + k ∨ size < target) ∧
      ∀ j < k, ∀ other, jumpAt? is j = some other → pc + j < other ∧ other ≤ size := by
  induction is generalizing pc with
  | nil => cases h
  | cons i is ih =>
    have hlater (hrest : badJumpFrom? size (pc + 1) is = some (found, target))
        (hfine : ∀ other, i.target? = some other → pc < other ∧ other ≤ size) :
        ∃ k, found = pc + k ∧ jumpAt? (i :: is) k = some target ∧
          (target ≤ pc + k ∨ size < target) ∧
          ∀ j < k, ∀ other, jumpAt? (i :: is) j = some other → pc + j < other ∧
            other ≤ size := by
      obtain ⟨k, hk, hjump, hbad, hbefore⟩ := ih hrest
      refine ⟨k + 1, by omega, hjump, by omega, ?_⟩
      intro j hj other hother
      cases j with
      | zero => exact hfine other hother
      | succ j =>
        have hj := hbefore j (by omega) other hother
        omega
    rw [badJumpFrom?] at h
    split at h
    · rename_i other hother
      split at h
      · rename_i hfine
        apply hlater h
        intro other' hother'
        obtain rfl : other = other' := Option.some.inj (hother.symm.trans hother')
        exact hfine
      · cases h
        refine ⟨0, rfl, hother, by omega, ?_⟩
        intro j hj
        cases hj
    · rename_i hnone
      apply hlater h
      intro other hother
      rw [hnone] at hother
      cases hother

theorem badJump?_eq_none_iff : badJump? is = none ↔ Forward is := by
  unfold badJump?
  rw [badJumpFrom?_eq_none_iff]
  simp only [Nat.zero_add]
  rfl

theorem badJump?_eq_some_iff : badJump? is = some (pc, target) ↔ FirstBadJump is pc target := by
  have hfirst {pc target} (h : badJump? is = some (pc, target)) : FirstBadJump is pc target := by
    obtain ⟨k, rfl, hjump, hbad, hbefore⟩ := firstBad_of_badJumpFrom? h
    simp only [Nat.zero_add] at hbad hbefore ⊢
    exact ⟨hjump, hbad, hbefore⟩
  constructor
  · exact hfirst
  · intro h
    cases hb : badJump? is with
    | none =>
      have hbad := h.bad
      have hfine := badJump?_eq_none_iff.1 hb pc target h.jump
      omega
    | some found =>
      obtain ⟨rfl, rfl⟩ := h.unique (hfirst hb)
      rfl

namespace Code

variable {source : String}

theorem forward_instructions (code : Code) : Forward code.instructions :=
  badJump?_eq_none_iff.1 code.forward

theorem jump_forward (code : Code) (hi : code.instructions[pc]? = some i)
    (ht : i.target? = some target) : pc < target ∧ target ≤ code.length :=
  code.forward_instructions pc target ((jumpAt?_of_getElem? hi).trans ht)

theorem ofList_eq_ok_iff {code : Code} :
    ofList source is = .ok code ↔ code.source = source ∧ code.instructions = is := by
  unfold ofList
  constructor
  · intro h
    split at h
    · cases h
      exact ⟨rfl, rfl⟩
    · cases h
  · rintro ⟨hsource, his⟩
    obtain ⟨_, _, hforward⟩ := code
    subst hsource his
    split
    · rfl
    · rename_i hbad
      rw [hforward] at hbad
      cases hbad

theorem accepts_iff : (∃ code, ofList source is = .ok code) ↔ Forward is := by
  constructor
  · rintro ⟨code, h⟩
    rw [← (ofList_eq_ok_iff.1 h).2]
    exact code.forward_instructions
  · intro h
    exact ⟨⟨source, is, badJump?_eq_none_iff.2 h⟩, ofList_eq_ok_iff.2 ⟨rfl, rfl⟩⟩

theorem ofList_eq_error_iff : ofList source is = .error e ↔
    ∃ pc target, FirstBadJump is pc target ∧ e = .invalidJump pc target is.length := by
  simp only [← badJump?_eq_some_iff]
  unfold ofList
  constructor
  · intro h
    split at h
    · cases h
    · rename_i pc target hbad
      cases h
      exact ⟨pc, target, hbad, rfl⟩
  · rintro ⟨pc, target, hbad, he⟩
    split
    · rename_i hgood
      rw [hbad] at hgood
      cases hgood
    · rename_i hbad'
      rw [hbad] at hbad'
      cases hbad'
      rw [he]

end Code

end Probe

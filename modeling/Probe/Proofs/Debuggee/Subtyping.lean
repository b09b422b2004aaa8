import Probe.Proofs.Debuggee.Ancestry
import Probe.Proofs.TypeName

namespace Probe.ClassTable
set_option autoImplicit true

/-- No class has the name of a primitive type or of an array, and nothing is above the top
class. -/
structure Regular (c : ClassTable η) : Prop where
  not_primitive : ∀ {name}, c.contains name = true → isPrimitiveName name = false
  not_array : ∀ {name}, c.contains name = true → TypeName.isArray name = false
  top : c.supertypes objectType = []

/-- The least preorder with these three rules. -/
inductive Subtypes (c : ClassTable η) : String → String → Prop
  | refl : Subtypes c T T
  | trans (h : Subtypes c A B) (h' : Subtypes c B C) : Subtypes c A C
  | link (h : c.Extends sub sup) (hsup : c.contains sup = true) : Subtypes c sub sup
  | top (h : isPrimitiveName T = false) : Subtypes c T objectType
  | array (h : Subtypes c X Y) : Subtypes c (X ++ "[]") (Y ++ "[]")

theorem isSubtype_array (c : ClassTable η) (X Y : String) :
    c.isSubtype (X ++ "[]") (Y ++ "[]") =
      if isPrimitiveName X || isPrimitiveName Y then X == Y else c.isSubtype X Y := by
  have hsame : ((TypeName.parse X).element == (TypeName.parse Y).element &&
      (TypeName.parse X).depth == (TypeName.parse Y).depth) = (X == Y) := by
    rw [Bool.eq_iff_iff, Bool.and_eq_true, beq_iff_eq, beq_iff_eq, beq_iff_eq]
    exact TypeName.eq_iff_parse.symm
  simp only [isSubtype, TypeName.parse_array, subtype, ← isPrimitiveName_eq, hsame]

theorem isSubtype_of_not_array (c : ClassTable η)
    (h : TypeName.isArray sub = false ∨ TypeName.isArray sup = false) :
    c.isSubtype sub sup = (sub == sup ||
      if sup == objectType then !isPrimitiveName sub else (c.ancestry sub).contains sup) := by
  have hparts (a b : TypeName) (h : a.depth = 0 ∨ b.depth = 0) :
      c.subtype a.element b.element a.depth b.depth = (a.text == b.text ||
        if b.text == objectType then !isPrimitiveName a.text
        else (c.ancestry a.text).contains b.text) := by
    cases a with | mk a n => cases b with | mk b m =>
    cases n with
    | zero => simp only [subtype]
    | succ n =>
      cases m with
      | zero => simp only [subtype]
      | succ m => rcases h with h | h <;> cases h
  have hdepth : (TypeName.parse sub).depth = 0 ∨ (TypeName.parse sup).depth = 0 := by
    simpa [TypeName.isArray] using h
  have hmain := hparts _ _ hdepth
  rwa [TypeName.text_parse, TypeName.text_parse] at hmain

theorem isSubtype_refl (c : ClassTable η) (T : String) : c.isSubtype T T = true := by
  induction T using TypeName.array_induction with
  | element T h => simp [isSubtype_of_not_array c (.inl h)]
  | array X ih => simp [isSubtype_array, ih]

theorem regular_of_keys {c : ClassTable η}
    (h : ∀ name ∈ c.keys, isPrimitiveName name = false ∧ TypeName.isArray name = false)
    (htop : c.supertypes objectType = []) : c.Regular where
  not_primitive hname := (h _ (Table.mem_keys_iff.2 (Table.contains_iff.1 hname))).1
  not_array hname := (h _ (Table.mem_keys_iff.2 (Table.contains_iff.1 hname))).2
  top := htop

namespace Regular
variable {c : ClassTable η} (hc : c.Regular)
include hc

theorem array_not_loaded (X : String) : c.contains (X ++ "[]") = false := by
  cases h : c.contains (X ++ "[]") with
  | false => rfl
  | true =>
    have harray := hc.not_array h
    rw [TypeName.isArray_array] at harray
    cases harray

/-- Arrays aside, a type is below itself, below the top class, and below the loaded classes
above it. -/
theorem isSubtype_iff_of_not_array
    (h : TypeName.isArray sub = false ∨ TypeName.isArray sup = false) :
    c.isSubtype sub sup = true ↔ sub = sup ∨ sup = objectType ∧ isPrimitiveName sub = false ∨
      c.Reaches sub sup ∧ c.contains sup = true := by
  rw [isSubtype_of_not_array c h]
  by_cases heq : sub = sup
  · simp [heq]
  by_cases htop : sup = objectType
  · subst htop
    have hreach (hsub : c.Reaches sub objectType) (hloaded : c.contains objectType = true) :
        isPrimitiveName sub = false := hc.not_primitive (contains_of_reaches hsub hloaded)
    simp only [beq_self_eq_true, if_true, beq_eq_false_iff_ne.2 heq, Bool.false_or,
      heq, false_or, true_and, Bool.not_eq_true']
    exact ⟨.inl, fun h => h.elim id fun h => hreach h.1 h.2⟩
  · simp [heq, htop, mem_ancestry_iff]

theorem isSubtype_of_primitive
    (h : isPrimitiveName sub = true ∨ isPrimitiveName sup = true) :
    c.isSubtype sub sup = (sub == sup) := by
  have harray := h.imp isArray_of_primitive isArray_of_primitive
  rw [Bool.eq_iff_iff, beq_iff_eq, hc.isSubtype_iff_of_not_array harray]
  constructor
  · rintro (heq | ⟨rfl, hsub⟩ | ⟨hreach, hsup⟩)
    · exact heq
    · rcases h with h | h
      · rw [h] at hsub
        cases hsub
      · cases h
    · have hsub := contains_of_reaches hreach hsup
      rcases h with h | h
      · rw [hc.not_primitive hsub] at h
        cases h
      · rw [hc.not_primitive hsup] at h
        cases h
  · exact .inl

theorem isSubtype_array (X Y : String) :
    c.isSubtype (X ++ "[]") (Y ++ "[]") = c.isSubtype X Y := by
  rw [ClassTable.isSubtype_array]
  split
  · rename_i h
    exact (hc.isSubtype_of_primitive (Bool.or_eq_true _ _ ▸ h)).symm
  · rfl

theorem array_below_top (X : String) : c.isSubtype (X ++ "[]") objectType = true :=
  (hc.isSubtype_iff_of_not_array (.inr rfl)).2 (.inr (.inl ⟨rfl, not_primitive_array X⟩))

theorem eq_top_of_top_below (h : c.isSubtype objectType T = true) : T = objectType := by
  rcases (hc.isSubtype_iff_of_not_array (.inl rfl)).1 h with heq | ⟨heq, -⟩ | ⟨hreach, -⟩
  · exact heq.symm
  · exact heq
  · rcases hreach.cases_head with heq | ⟨next, hlink, -⟩
    · exact heq.symm
    · rw [Extends, hc.top] at hlink
      cases hlink

theorem eq_top_of_array_below (hT : TypeName.isArray T = false)
    (h : c.isSubtype (X ++ "[]") T = true) : T = objectType := by
  rcases (hc.isSubtype_iff_of_not_array (.inr hT)).1 h with rfl | ⟨heq, -⟩ | ⟨hreach, hloaded⟩
  · rw [TypeName.isArray_array] at hT
    cases hT
  · exact heq
  · have hX := contains_of_reaches hreach hloaded
    rw [hc.array_not_loaded] at hX
    cases hX

theorem isArray_of_below_array (h : c.isSubtype T (Y ++ "[]") = true) :
    TypeName.isArray T = true := by
  cases hT : TypeName.isArray T with
  | true => rfl
  | false =>
    rcases (hc.isSubtype_iff_of_not_array (.inl hT)).1 h with rfl | ⟨heq, -⟩ | ⟨-, hloaded⟩
    · rw [← hT, TypeName.isArray_array]
    · have htop := TypeName.isArray_array Y
      rw [heq] at htop
      cases htop
    · rw [hc.array_not_loaded] at hloaded
      cases hloaded

theorem isSubtype_trans (h : c.isSubtype A B = true) (h' : c.isSubtype B C = true) :
    c.isSubtype A C = true := by
  induction A using TypeName.array_induction generalizing B C with
  | element A hA =>
    have hiff := @hc.isSubtype_iff_of_not_array
    rcases (hiff (.inl hA)).1 h with rfl | ⟨rfl, hprimitive⟩ | ⟨hreach, hloaded⟩
    · exact h'
    · rw [hc.eq_top_of_top_below h']
      exact h
    · rcases (hiff (.inl (hc.not_array hloaded))).1 h' with rfl | ⟨rfl, -⟩ | ⟨hreach', hloaded'⟩
      · exact h
      · have hprimitive := hc.not_primitive (contains_of_reaches hreach hloaded)
        exact (hiff (.inl hA)).2 (.inr (.inl ⟨rfl, hprimitive⟩))
      · exact (hiff (.inl hA)).2 (.inr (.inr ⟨hreach.trans hreach', hloaded'⟩))
  | array X ih =>
    cases hC : TypeName.isArray C with
    | true =>
      obtain ⟨Z, rfl⟩ := TypeName.exists_component hC
      obtain ⟨Y, rfl⟩ := TypeName.exists_component (hc.isArray_of_below_array h')
      rw [hc.isSubtype_array] at h h' ⊢
      exact ih h h'
    | false =>
      have htop : C = objectType := by
        cases hB : TypeName.isArray B with
        | true =>
          obtain ⟨Y, rfl⟩ := TypeName.exists_component hB
          exact hc.eq_top_of_array_below hC h'
        | false =>
          rw [hc.eq_top_of_array_below hB h] at h'
          exact hc.eq_top_of_top_below h'
      rw [htop]
      exact hc.array_below_top X

end Regular

theorem Subtypes.of_reaches {c : ClassTable η} (h : c.Reaches sub sup)
    (hsup : c.contains sup = true) : c.Subtypes sub sup := by
  induction h using Relation.ReflTransGen.head_induction_on with
  | refl => exact .refl
  | head hlink hreach ih => exact .trans (.link hlink (contains_of_reaches hreach hsup)) ih

/-- The rules that are tried one after the other decide the least preorder. -/
theorem Regular.isSubtype_iff {c : ClassTable η} (hc : c.Regular) :
    c.isSubtype sub sup = true ↔ c.Subtypes sub sup := by
  constructor
  · intro h
    induction sub using TypeName.array_induction generalizing sup with
    | element sub hsub =>
      rcases (hc.isSubtype_iff_of_not_array (.inl hsub)).1 h with
        rfl | ⟨rfl, hp⟩ | ⟨hreach, hsup⟩
      · exact .refl
      · exact .top hp
      · exact .of_reaches hreach hsup
    | array X ih =>
      cases hsup : TypeName.isArray sup with
      | true =>
        obtain ⟨Y, rfl⟩ := TypeName.exists_component hsup
        rw [hc.isSubtype_array] at h
        exact .array (ih h)
      | false =>
        rw [hc.eq_top_of_array_below hsup h]
        exact .top (not_primitive_array X)
  · intro h
    induction h with
    | refl => exact isSubtype_refl c _
    | trans _ _ ih ih' => exact hc.isSubtype_trans ih ih'
    | link h hsup =>
      have hsub := hc.not_array (contains_of_extends h)
      exact (hc.isSubtype_iff_of_not_array (.inl hsub)).2 (.inr (.inr ⟨.single h, hsup⟩))
    | top h => exact (hc.isSubtype_iff_of_not_array (.inr rfl)).2 (.inr (.inl ⟨rfl, h⟩))
    | array _ ih =>
      rw [hc.isSubtype_array]
      exact ih

end Probe.ClassTable

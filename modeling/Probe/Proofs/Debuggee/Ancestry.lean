import Mathlib.Data.List.Nodup
import Mathlib.Data.List.Perm.Subperm
import Mathlib.Logic.Relation
import Probe.Debuggee.State

namespace Probe.ClassTable
set_option autoImplicit true

open Relation (ReflTransGen TransGen)

def Extends (c : ClassTable η) (sub sup : String) : Prop := sup ∈ c.supertypes sub

instance (c : ClassTable η) (sub sup : String) : Decidable (c.Extends sub sup) :=
  inferInstanceAs (Decidable (sup ∈ c.supertypes sub))

/-- The second class is the first or a supertype of it, at any distance. -/
def Reaches (c : ClassTable η) : String → String → Prop := ReflTransGen c.Extends

def Below (c : ClassTable η) : String → String → Prop := TransGen c.Extends

def Acyclic (c : ClassTable η) : Prop := ∀ name, ¬c.Below name name

theorem contains_of_extends {c : ClassTable η} (h : c.Extends sub sup) :
    c.contains sub = true := by
  unfold Extends supertypes at h
  cases hentry : c.get? sub with
  | none =>
    rw [hentry] at h
    cases h
  | some entry => exact Table.contains_iff.2 ⟨entry, hentry⟩

theorem contains_of_reaches {c : ClassTable η} (h : c.Reaches sub sup)
    (hsup : c.contains sup = true) : c.contains sub = true := by
  rcases h.cases_head with rfl | ⟨next, hlink, -⟩
  · exact hsup
  · exact contains_of_extends hlink

theorem acyclic_of_rank {c : ClassTable η} (rank : String → Nat)
    (h : ∀ sub ∈ c.keys, ∀ sup ∈ c.supertypes sub, rank sup < rank sub) : c.Acyclic := by
  have hstep {sub sup : String} (hlink : c.Extends sub sup) : rank sup < rank sub := by
    have hloaded := Table.contains_iff.1 (contains_of_extends hlink)
    exact h sub (Table.mem_keys_iff.2 hloaded) sup hlink
  have hbelow {sub sup : String} (hsub : c.Below sub sup) : rank sup < rank sub := by
    induction hsub with
    | single hlink => exact hstep hlink
    | tail _ hlink ih => exact Nat.lt_trans (hstep hlink) ih
  intro name hname
  exact Nat.lt_irrefl _ (hbelow hname)

/-- From the classes still pending, and with some classes seen already, the walk sees these
classes in this order. Whatever lies above a class comes before what was pending besides it. -/
inductive Walks (c : ClassTable η) : List String → List String → List String → Prop
  | done : Walks c [] seen seen
  | pass (hname : c.contains name = false ∨ name ∈ seen) (hrest : Walks c rest seen out) :
    Walks c (name :: rest) seen out
  | enter (hloaded : c.contains name = true) (hnew : name ∉ seen)
    (habove : Walks c (c.supertypes name) (seen ++ [name]) mid) (hrest : Walks c rest mid out) :
    Walks c (name :: rest) seen out

namespace Walks
variable {c : ClassTable η}

theorem split (h : Walks c (p ++ q) seen out) :
    ∃ mid, Walks c p seen mid ∧ Walks c q mid out := by
  induction p generalizing seen with
  | nil => exact ⟨seen, .done, h⟩
  | cons name p ih =>
    cases h with
    | pass hname hrest =>
      obtain ⟨mid, hp, hq⟩ := ih hrest
      exact ⟨mid, .pass hname hp, hq⟩
    | enter hloaded hnew habove hrest =>
      obtain ⟨mid, hp, hq⟩ := ih hrest
      exact ⟨mid, .enter hloaded hnew habove hp, hq⟩

theorem of_all_passed (h : ∀ name ∈ pending, c.contains name = false ∨ name ∈ seen) :
    Walks c pending seen seen := by
  induction pending with
  | nil => exact .done
  | cons name rest ih =>
    obtain ⟨hname, hrest⟩ := List.forall_mem_cons.1 h
    exact .pass hname (ih hrest)

theorem of_dropWhile
    (h : Walks c (pending.dropWhile fun name => !c.contains name || seen.contains name) seen out) :
    Walks c pending seen out := by
  induction pending with
  | nil => exact h
  | cons name rest ih =>
    rw [List.dropWhile_cons] at h
    split at h
    · rename_i hname
      exact .pass (by simpa using hname) (ih h)
    · exact h

theorem seen_prefix (h : Walks c pending seen out) : seen <+: out := by
  induction h with
  | done => exact List.prefix_rfl
  | pass _ _ ih => exact ih
  | enter _ _ _ _ ihabove ihrest =>
    exact ((List.prefix_append _ _).trans ihabove).trans ihrest

theorem mem_entered (h : Walks c pending (seen ++ [name]) out) : name ∈ out :=
  h.seen_prefix.subset (List.mem_append_right _ List.mem_cons_self)

end Walks

theorem mem_of_size_le {c : ClassTable η} (hnodup : seen.Nodup) (hloaded : seen ⊆ c.keys)
    (hsize : c.size ≤ seen.length) (hname : c.contains name = true) : name ∈ seen := by
  have hkeys : c.keys.length ≤ seen.length := by simpa [Table.keys, Table.size] using hsize
  have hperm := (List.subperm_of_subset hnodup hloaded).perm_of_length_le hkeys
  exact hperm.mem_iff.2 (Table.mem_keys_iff.2 (Table.contains_iff.1 hname))

/-- With as many visits left as there are classes not seen yet, the visits are a whole walk. -/
theorem walks_visit {c : ClassTable η} (hnodup : seen.Nodup) (hloaded : seen ⊆ c.keys)
    (hsize : c.size ≤ n + seen.length) (pending : List String) :
    Walks c pending seen (c.visit n pending seen) := by
  fun_induction visit c n pending seen with
  | case1 pending seen =>
    apply Walks.of_all_passed
    intro name _
    cases hname : c.contains name with
    | false => exact .inl rfl
    | true => exact .inr (mem_of_size_le hnodup hloaded (by omega) hname)
  | case2 n pending seen hdrop =>
    apply Walks.of_dropWhile
    rw [hdrop]
    exact .done
  | case3 n pending seen name rest hdrop ih =>
    have hfirst := List.head?_dropWhile_not
      (fun name => !c.contains name || seen.contains name) pending
    rw [hdrop] at hfirst
    have hname : c.contains name = true ∧ name ∉ seen := by simpa using hfirst
    have hkey : name ∈ c.keys := Table.mem_keys_iff.2 (Table.contains_iff.1 hname.1)
    have hnodup' := List.Nodup.concat hname.2 hnodup
    rw [List.concat_eq_append] at hnodup'
    have hloaded' : seen ++ [name] ⊆ c.keys :=
      List.append_subset.2 ⟨hloaded, List.cons_subset.2 ⟨hkey, List.nil_subset _⟩⟩
    have hsize' : c.size ≤ n + (seen ++ [name]).length := by
      rw [List.length_append, List.length_singleton]
      omega
    obtain ⟨mid, habove, hrest⟩ := (ih hnodup' hloaded' hsize').split
    apply Walks.of_dropWhile
    rw [hdrop]
    exact .enter hname.1 hname.2 habove hrest

theorem walks_ancestry (c : ClassTable η) (name : String) :
    Walks c [name] [] (c.ancestry name) :=
  walks_visit .nil (List.nil_subset _) (Nat.le_refl _) [name]

namespace Walks
variable {c : ClassTable η}

theorem sound (h : Walks c pending seen out) (hname : name ∈ out) :
    name ∈ seen ∨ c.contains name = true ∧ ∃ first ∈ pending, c.Reaches first name := by
  induction h with
  | done => exact .inl hname
  | pass _ _ ih =>
    rcases ih hname with hseen | ⟨hloaded, first, hfirst, hreach⟩
    · exact .inl hseen
    · exact .inr ⟨hloaded, first, List.mem_cons_of_mem _ hfirst, hreach⟩
  | @enter entered seen mid rest out hloaded _ _ _ ihabove ihrest =>
    rcases ihrest hname with hmid | ⟨hloaded, first, hfirst, hreach⟩
    · rcases ihabove hmid with hseen | ⟨hloaded, first, hfirst, hreach⟩
      · rcases List.mem_append.1 hseen with hseen | hentered
        · exact .inl hseen
        · obtain rfl := List.mem_singleton.1 hentered
          exact .inr ⟨hloaded, name, List.mem_cons_self, .refl⟩
      · exact .inr ⟨hloaded, entered, List.mem_cons_self, .head hfirst hreach⟩
    · exact .inr ⟨hloaded, first, List.mem_cons_of_mem _ hfirst, hreach⟩

theorem closed (h : Walks c pending seen out) :
    (∀ name ∈ pending, c.contains name = true → name ∈ out) ∧
      ∀ name ∈ out, name ∈ seen ∨
        ∀ sup ∈ c.supertypes name, c.contains sup = true → sup ∈ out := by
  induction h with
  | done => exact ⟨List.forall_mem_nil _, fun name hname => .inl hname⟩
  | @pass name seen rest out hname hrest ih =>
    refine ⟨List.forall_mem_cons.2 ⟨?_, ih.1⟩, ih.2⟩
    intro hloaded
    rcases hname with hmissing | hseen
    · rw [hloaded] at hmissing
      cases hmissing
    · exact hrest.seen_prefix.subset hseen
  | @enter name seen mid rest out hloaded hnew habove hrest ihabove ihrest =>
    have hmid : mid ⊆ out := hrest.seen_prefix.subset
    refine ⟨List.forall_mem_cons.2 ⟨fun _ => hmid habove.mem_entered, ihrest.1⟩, ?_⟩
    intro other hother
    rcases ihrest.2 other hother with hother | hsup
    · rcases ihabove.2 other hother with hentered | hsup
      · rcases List.mem_append.1 hentered with hseen | hname
        · exact .inl hseen
        · obtain rfl := List.mem_singleton.1 hname
          exact .inr fun sup hsup hsupLoaded => hmid (ihabove.1 sup hsup hsupLoaded)
      · exact .inr fun sup hlink hsupLoaded => hmid (hsup sup hlink hsupLoaded)
    · exact .inr hsup

theorem reaches_first (h : Walks c pending seen out) (hseen : seen.find? p = none)
    (hout : out.find? p = some D) : ∃ first ∈ pending, c.Reaches first D := by
  rcases h.sound (List.mem_of_find?_eq_some hout) with hD | ⟨-, hreach⟩
  · exact absurd (List.find?_some hout) (List.find?_eq_none.1 hseen D hD)
  · exact hreach

end Walks

/-- Every loaded class above the given one is in the list. -/
def Settled (c : ClassTable η) (seen : List String) (name : String) : Prop :=
  ∀ sup, c.Reaches name sup → c.contains sup = true → sup ∈ seen

/-- A class that was seen is either settled or lies above none of the pending classes. -/
def Orderly (c : ClassTable η) (pending seen : List String) : Prop :=
  ∀ name ∈ seen, c.Settled seen name ∨ ∀ first ∈ pending, ¬c.Reaches first name

section
variable {c : ClassTable η}

theorem Settled.mono (h : c.Settled seen name) (hsub : seen ⊆ out) : c.Settled out name :=
  fun sup hreach hloaded => hsub (h sup hreach hloaded)

theorem Settled.above (h : c.Settled seen name) (hreach : c.Reaches name sup) :
    c.Settled seen sup :=
  fun sup' hreach' => h sup' (hreach.trans hreach')

theorem settled_of_not_contains (h : c.contains name = false) : c.Settled seen name := by
  intro sup hreach hloaded
  rw [contains_of_reaches hreach hloaded] at h
  cases h

theorem settled_of_closed
    (h : ∀ name ∈ seen, ∀ sup ∈ c.supertypes name, c.contains sup = true → sup ∈ seen)
    (hname : name ∈ seen) : c.Settled seen name := by
  intro sup hreach hloaded
  induction hreach using ReflTransGen.head_induction_on with
  | refl => exact hname
  | head hlink hreach ih => exact ih (h _ hname _ hlink (contains_of_reaches hreach hloaded))

theorem settled_of_supertypes (hname : name ∈ seen)
    (h : ∀ sup ∈ c.supertypes name, c.Settled seen sup) : c.Settled seen name := by
  intro sup hreach hloaded
  cases hreach.cases_head with
  | inl heq => exact heq ▸ hname
  | inr hstep =>
    obtain ⟨next, hlink, hreach⟩ := hstep
    exact h next hlink sup hreach hloaded

theorem Orderly.tail (h : c.Orderly (name :: rest) seen) : c.Orderly rest seen := by
  intro sup hsup
  rcases h sup hsup with hsettled | hnot
  · exact .inl hsettled
  · exact .inr fun first hfirst => hnot first (List.mem_cons_of_mem name hfirst)

theorem Orderly.settled (h : c.Orderly (name :: rest) seen)
    (hname : c.contains name = false ∨ name ∈ seen) : c.Settled seen name := by
  rcases hname with hmissing | hseen
  · exact settled_of_not_contains hmissing
  · rcases h name hseen with hsettled | hnot
    · exact hsettled
    · exact absurd .refl (hnot name List.mem_cons_self)

/-- Without cycles nothing above a class leads back to the classes on the way to it. -/
theorem Orderly.enter (hc : c.Acyclic) (h : c.Orderly (name :: rest) seen) :
    c.Orderly (c.supertypes name) (seen ++ [name]) := by
  intro sup hsup
  rcases List.mem_append.1 hsup with hseen | hname
  · rcases h sup hseen with hsettled | hnot
    · exact .inl (hsettled.mono (List.subset_append_left _ _))
    · right
      intro first hfirst hreach
      exact hnot name List.mem_cons_self (.head hfirst hreach)
  · obtain rfl := List.mem_singleton.1 hname
    right
    intro first hfirst hreach
    exact hc sup (.head' hfirst hreach)

theorem Orderly.leave (h : c.Orderly (name :: rest) seen)
    (habove : Walks c (c.supertypes name) (seen ++ [name]) mid) (hname : c.Settled mid name) :
    c.Orderly rest mid := by
  have hsub : seen ⊆ mid := fun old hold =>
    habove.seen_prefix.subset (List.mem_append_left [name] hold)
  intro sup hsup
  rcases habove.sound hsup with hseen | ⟨-, first, hfirst, hreach⟩
  · rcases List.mem_append.1 hseen with hseen | hentered
    · rcases h.tail sup hseen with hsettled | hnot
      · exact .inl (hsettled.mono hsub)
      · exact .inr hnot
    · obtain rfl := List.mem_singleton.1 hentered
      exact .inl hname
  · exact .inl (hname.above (.head hfirst hreach))

/-- Without cycles a walk settles all pending classes. -/
theorem Walks.settles (hc : c.Acyclic) (h : Walks c pending seen out)
    (ho : c.Orderly pending seen) : ∀ name ∈ pending, c.Settled out name := by
  induction h with
  | done => exact List.forall_mem_nil _
  | @pass name seen rest out hname hrest ih =>
    exact List.forall_mem_cons.2
      ⟨(ho.settled hname).mono hrest.seen_prefix.subset, ih ho.tail⟩
  | @enter name seen mid rest out _ _ habove hrest ihabove ihrest =>
    have hname : c.Settled mid name :=
      settled_of_supertypes habove.mem_entered (ihabove (ho.enter hc))
    exact List.forall_mem_cons.2
      ⟨hname.mono hrest.seen_prefix.subset, ihrest (ho.leave habove hname)⟩

/-- Among these classes one that leads to `D` but not to `E` stands before one that leads to
`E`. -/
def Splits (c : ClassTable η) (classes : List String) (D E : String) : Prop :=
  ∃ before Y after, classes = before ++ Y :: after ∧ c.Reaches Y D ∧ ¬c.Reaches Y E ∧
    ∃ Z ∈ after, c.Reaches Z E

/-- This is so among the classes or among the direct supertypes of one of them or one above. -/
def SplitsAbove (c : ClassTable η) (classes : List String) (D E : String) : Prop :=
  c.Splits classes D E ∨
    ∃ X, (∃ first ∈ classes, c.Reaches first X) ∧ c.Splits (c.supertypes X) D E

theorem SplitsAbove.cons (h : c.SplitsAbove rest D E) (name : String) :
    c.SplitsAbove (name :: rest) D E := by
  rcases h with ⟨before, Y, after, rfl, hY⟩ | ⟨X, ⟨first, hfirst, hreach⟩, hX⟩
  · exact .inl ⟨name :: before, Y, after, rfl, hY⟩
  · exact .inr ⟨X, ⟨first, List.mem_cons_of_mem name hfirst, hreach⟩, hX⟩

theorem SplitsAbove.enter (h : c.SplitsAbove (c.supertypes name) D E) (rest : List String) :
    c.SplitsAbove (name :: rest) D E := by
  rcases h with hsplits | ⟨X, ⟨first, hfirst, hreach⟩, hX⟩
  · exact .inr ⟨name, ⟨name, List.mem_cons_self, .refl⟩, hsplits⟩
  · exact .inr ⟨X, ⟨name, List.mem_cons_self, .head hfirst hreach⟩, hX⟩

theorem SplitsAbove.of_singleton (h : c.SplitsAbove [name] D E) :
    ∃ X, c.Reaches name X ∧ c.Splits (c.supertypes X) D E := by
  rcases h with ⟨before, Y, after, hsplit, -, -, Z, hZ, -⟩ | ⟨X, ⟨first, hfirst, hreach⟩, hX⟩
  · have hlength := congrArg List.length hsplit
    have hpos := List.length_pos_of_mem hZ
    simp only [List.length_append, List.length_cons, List.length_nil] at hlength
    omega
  · obtain rfl := List.mem_singleton.1 hfirst
    exact ⟨X, hreach, hX⟩

theorem reaches_of_tail (h : ∃ first ∈ name :: rest, c.Reaches first E)
    (hname : ¬c.Reaches name E) : ∃ first ∈ rest, c.Reaches first E := by
  obtain ⟨first, hfirst, hreach⟩ := h
  rcases List.mem_cons.1 hfirst with rfl | hfirst
  · exact absurd hreach hname
  · exact ⟨first, hfirst, hreach⟩

/-- If the first class that passes a test does not lead to another that passes it, the other was
passed over at a diamond, where a way to the first stood before all ways to it. -/
theorem Walks.passes_over (hc : c.Acyclic) (p : String → Bool) (h : Walks c pending seen out)
    (ho : c.Orderly pending seen) (hseen : seen.find? p = none) (hout : out.find? p = some D)
    (hpE : p E = true) (hloaded : c.contains E = true) (hDE : ¬c.Reaches D E)
    (hreach : ∃ first ∈ pending, c.Reaches first E) : c.SplitsAbove pending D E := by
  have hunsettled {seen : List String} {name : String} (hseen : seen.find? p = none)
      (hname : c.Settled seen name) : ¬c.Reaches name E := by
    intro hnameE
    exact List.find?_eq_none.1 hseen E (hname E hnameE hloaded) hpE
  induction h with
  | done =>
    obtain ⟨first, hfirst, -⟩ := hreach
    cases hfirst
  | @pass name seen rest out hname hrest ih =>
    have hrestE := reaches_of_tail hreach (hunsettled hseen (ho.settled hname))
    exact (ih ho.tail hseen hout hrestE).cons name
  | @enter name seen mid rest out hname hnew habove hrest ihabove ihrest =>
    have hsettled : c.Settled mid name :=
      settled_of_supertypes habove.mem_entered (habove.settles hc (ho.enter hc))
    by_cases hpname : p name = true
    · have hentered : (seen ++ [name]).find? p = some name := by
        rw [List.find?_append, hseen, Option.none_or, List.find?_cons_of_pos hpname]
      have hfirst := (habove.seen_prefix.trans hrest.seen_prefix).find?_eq_some hentered
      obtain rfl : D = name := Option.some.inj (hout.symm.trans hfirst)
      exact .inl ⟨[], D, rest, rfl, .refl, hDE, reaches_of_tail hreach hDE⟩
    have hentered : (seen ++ [name]).find? p = none := by
      rw [List.find?_append, hseen, Option.none_or, List.find?_cons_of_neg hpname,
        List.find?_nil]
    -- The first class that passes lies above the entered one or comes after all these.
    cases hmid : mid.find? p with
    | none =>
      have hrestE := reaches_of_tail hreach (hunsettled hmid hsettled)
      exact (ihrest (ho.leave habove hsettled) hmid hout hrestE).cons name
    | some first =>
      have hfirst := hrest.seen_prefix.find?_eq_some hmid
      obtain rfl : D = first := Option.some.inj (hout.symm.trans hfirst)
      by_cases hnameE : c.Reaches name E
      · rcases hnameE.cases_head with rfl | hsupE
        · exact absurd hpE hpname
        · exact (ihabove (ho.enter hc) hentered hmid hsupE).enter rest
      · obtain ⟨sup, hsup, hsupD⟩ := habove.reaches_first hentered hmid
        have hnameD : c.Reaches name D := .head hsup hsupD
        exact .inl ⟨[], name, rest, rfl, hnameD, hnameE, reaches_of_tail hreach hnameE⟩

end

section
variable {c : ClassTable η}

theorem mem_ancestry_iff :
    name ∈ c.ancestry typeName ↔ c.Reaches typeName name ∧ c.contains name = true := by
  have hwalk := walks_ancestry c typeName
  constructor
  · intro hname
    rcases hwalk.sound hname with hseen | ⟨hloaded, first, hfirst, hreach⟩
    · cases hseen
    · obtain rfl := List.mem_singleton.1 hfirst
      exact ⟨hreach, hloaded⟩
  · rintro ⟨hreach, hloaded⟩
    obtain ⟨hpending, hclosed⟩ := hwalk.closed
    have htype := hpending typeName List.mem_cons_self (contains_of_reaches hreach hloaded)
    refine settled_of_closed ?_ htype name hreach hloaded
    intro sub hsub
    rcases hclosed sub hsub with hseen | hsup
    · cases hseen
    · exact hsup

theorem contains_of_ownMethod? (h : (c.ownMethod? className name signature).isSome = true) :
    c.contains className = true := by
  unfold ownMethod? at h
  cases hentry : c.get? className with
  | none =>
    rw [hentry] at h
    cases h
  | some entry => exact Table.contains_iff.2 ⟨entry, hentry⟩

theorem find?_of_resolveMethod
    (h : c.resolveMethod typeName name signature = some (D, behavior)) :
    (c.ancestry typeName).find? (fun className => (c.ownMethod? className name signature).isSome) =
        some D ∧
      (c.ownMethod? D name signature).map (·.behavior) = some behavior := by
  obtain ⟨before, className, after, hsplit, hfound, hbefore⟩ := List.findSome?_eq_some_iff.1 h
  obtain ⟨m, hm, hpair⟩ := Option.map_eq_some_iff.1 hfound
  cases hpair
  refine ⟨List.find?_eq_some_iff_append.2 ⟨?_, before, after, hsplit, ?_⟩, ?_⟩
  · rw [hm]
    rfl
  · intro other hother
    have hnone := hbefore other hother
    simp only [Option.map_eq_none_iff] at hnone
    rw [hnone]
    rfl
  · rw [hm]
    rfl

end

/-- Without cycles a method is found whenever a class above declares it. The class found
declares it, and a subtype of that class that declares it too is passed over only at a diamond:
there a direct supertype that leads to the class found, and not to the subtype, stands before
one that leads to the subtype. -/
theorem resolveMethod_passes_over (c : ClassTable η) (hc : c.Acyclic)
    (typeName name signature : String) :
    (c.resolveMethod typeName name signature = none ↔
      ∀ D, c.Reaches typeName D → c.ownMethod? D name signature = none) ∧
    ∀ D behavior, c.resolveMethod typeName name signature = some (D, behavior) →
      c.Reaches typeName D ∧
      (c.ownMethod? D name signature).map (·.behavior) = some behavior ∧
      ∀ E, c.Reaches typeName E → c.Below E D → (c.ownMethod? E name signature).isSome = true →
        ∃ X, c.Reaches typeName X ∧ c.Splits (c.supertypes X) D E := by
  constructor
  · rw [resolveMethod, List.findSome?_eq_none_iff]
    constructor
    · intro hnone D hreach
      cases hD : c.ownMethod? D name signature with
      | none => rfl
      | some m =>
        have hloaded := contains_of_ownMethod? (Option.isSome_iff_exists.2 ⟨m, hD⟩)
        have hskipped := hnone D (mem_ancestry_iff.2 ⟨hreach, hloaded⟩)
        rw [hD] at hskipped
        cases hskipped
    · intro hnone D hD
      rw [hnone D (mem_ancestry_iff.1 hD).1]
      rfl
  · intro D behavior hfound
    obtain ⟨hfirst, hbehavior⟩ := find?_of_resolveMethod hfound
    obtain ⟨hreach, -⟩ := mem_ancestry_iff.1 (List.mem_of_find?_eq_some hfirst)
    refine ⟨hreach, hbehavior, ?_⟩
    intro E hreachE hbelow hE
    have hDE : ¬c.Reaches D E := fun hDE => hc E (hbelow.trans_left hDE)
    have hover := (walks_ancestry c typeName).passes_over hc _ (List.forall_mem_nil _) rfl hfirst hE
      (contains_of_ownMethod? hE) hDE ⟨typeName, List.mem_cons_self, hreachE⟩
    exact hover.of_singleton

/-- Two ways lead from `T` to the interface `I`, one by its superclass and one by its
interface. -/
def diamond : ClassTable Unit :=
  let classes : List (ClassDef Unit) :=
    [{ name := "I", superclass := none, isInterface := true
       methods := [⟨"m", "()I", .returns (.int 1)⟩] },
     { name := "J", superclass := none, isInterface := true, interfaces := ["I"]
       methods := [⟨"m", "()I", .returns (.int 2)⟩] },
     { name := "B", interfaces := ["I"] },
     { name := "T", superclass := some "B", interfaces := ["J"] }]
  (classes.foldl (fun d c => (d.addClass c).2) Debuggee.initial).classes

theorem diamond_acyclic : diamond.Acyclic :=
  acyclic_of_rank (fun name => (diamond.ancestry name).length) (by decide)

theorem resolveMethod_passes_over_diamond :
    diamond.Acyclic ∧ diamond.resolveMethod "T" "m" "()I" = some ("I", .returns (.int 1)) ∧
    diamond.Reaches "T" "I" ∧
    ∃ X, diamond.Reaches "T" X ∧ diamond.Splits (diamond.supertypes X) "I" "J" := by
  obtain ⟨-, hfound⟩ := resolveMethod_passes_over diamond diamond_acyclic "T" "m" "()I"
  obtain ⟨hreach, -, hover⟩ := hfound "I" (.returns (.int 1)) rfl
  have hJ : diamond.Reaches "T" "J" := .single (by decide)
  have hbelow : diamond.Below "J" "I" := .single (by decide)
  exact ⟨diamond_acyclic, rfl, hreach, hover "J" hJ hbelow rfl⟩

/-- The interface is found by way of the superclass, before the subtype of it that declares the
method too. -/
theorem resolveMethod_hides_subtype :
    diamond.Acyclic ∧ diamond.resolveMethod "T" "m" "()I" = some ("I", .returns (.int 1)) ∧
    diamond.Reaches "T" "J" ∧ diamond.Below "J" "I" ∧
    (diamond.ownMethod? "J" "m" "()I").isSome = true :=
  ⟨diamond_acyclic, rfl, .single (by decide), .single (by decide), rfl⟩

end Probe.ClassTable

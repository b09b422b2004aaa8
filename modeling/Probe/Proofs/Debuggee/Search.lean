import Probe.Proofs.Debuggee.Ancestry

namespace Probe.ClassTable
set_option autoImplicit true

open Relation (ReflTransGen)

/-- The names that are still pending, with the next one first, and the classes seen so far. -/
structure Search where
  pending : List String
  seen : List String

/-- One round of the search. The next name is passed over if it is missing or was seen; names
stand for the ids of classes, of which each has its own. Otherwise its supertypes come before
all other names. -/
inductive Round (c : ClassTable η) : Search → Search → Prop
  | pass (h : c.contains name = false ∨ name ∈ seen) : Round c ⟨name :: rest, seen⟩ ⟨rest, seen⟩
  | enter (hloaded : c.contains name = true) (hnew : name ∉ seen) :
    Round c ⟨name :: rest, seen⟩ ⟨c.supertypes name ++ rest, seen ++ [name]⟩

def unseen (c : ClassTable η) (seen : List String) : List String :=
  c.keys.filter fun name => name ∉ seen

theorem length_unseen_lt {c : ClassTable η} (hloaded : c.contains name = true)
    (hnew : name ∉ seen) : (c.unseen (seen ++ [name])).length < (c.unseen seen).length := by
  have hname : name ∈ c.unseen seen := by
    have hkey := Table.mem_keys_iff.2 (Table.contains_iff.1 hloaded)
    exact List.mem_filter.2 ⟨hkey, decide_eq_true hnew⟩
  have hrest : c.unseen (seen ++ [name]) = (c.unseen seen).filter fun other => other ≠ name := by
    rw [unseen, unseen, List.filter_filter]
    apply List.filter_congr
    intro other _
    simp [and_comm]
  rw [hrest, List.length_filter_lt_length_iff_exists]
  exact ⟨name, hname, by simp⟩

/-- What is left to do: classes to see, and then names to take off. -/
def Search.remaining (c : ClassTable η) (s : Search) : Nat × Nat :=
  ((c.unseen s.seen).length, s.pending.length)

section
variable {c : ClassTable η}

theorem Round.remaining_lt (h : c.Round s next) :
    Prod.Lex (· < ·) (· < ·) (next.remaining c) (s.remaining c) := by
  cases h with
  | pass _ => exact .right _ (Nat.lt_succ_self _)
  | enter hloaded hnew => exact .left _ _ (length_unseen_lt hloaded hnew)

/-- No search goes on forever, wherever it starts. -/
theorem round_wellFounded (c : ClassTable η) : WellFounded fun next s => c.Round s next :=
  Subrelation.wf Round.remaining_lt
    (InvImage.wf (Search.remaining c) (Prod.lex Nat.lt_wfRel Nat.lt_wfRel).wf)

theorem not_passed {seen : List String} (hloaded : c.contains name = true)
    (hnew : name ∉ seen) : ¬(c.contains name = false ∨ name ∈ seen) := by
  simp [hloaded, hnew]

theorem Round.unique (h : c.Round s next) (h' : c.Round s next') : next = next' := by
  cases h with
  | pass hname =>
    cases h' with
    | pass _ => rfl
    | enter hloaded hnew => exact absurd hname (not_passed hloaded hnew)
  | enter hloaded hnew =>
    cases h' with
    | enter _ _ => rfl
    | pass hname => exact absurd hname (not_passed hloaded hnew)

/-- A walk is made of rounds, which leave the names after its own pending ones alone. -/
theorem Walks.rounds (h : Walks c pending seen out) (rest : List String) :
    ReflTransGen c.Round ⟨pending ++ rest, seen⟩ ⟨rest, out⟩ := by
  induction h generalizing rest with
  | done => exact .refl
  | pass hname _ ih => exact .head (.pass hname) (ih rest)
  | @enter name seen mid others out hloaded hnew _ _ ihabove ihrest =>
    have habove := ihabove (others ++ rest)
    exact .head (.enter hloaded hnew) (habove.trans (ihrest rest))

theorem search_ends_iff (c : ClassTable η) (name : String) (last : Search) :
    (ReflTransGen c.Round ⟨[name], []⟩ last ∧ ∀ next, ¬c.Round last next) ↔
      last = ⟨[], c.ancestry name⟩ := by
  have hrounds : ReflTransGen c.Round ⟨[name], []⟩ ⟨[], c.ancestry name⟩ :=
    (walks_ancestry c name).rounds []
  have hend : ∀ next, ¬c.Round ⟨[], c.ancestry name⟩ next := by
    intro next h
    cases h
  constructor
  · rintro ⟨hlast, hstuck⟩
    -- Each state has one next state, so one of the two runs continues the other. Neither can.
    have hunique : Relator.RightUnique c.Round := fun _ _ _ => Round.unique
    rcases ReflTransGen.total_of_right_unique hunique hlast hrounds with hgo | hgo
    · rcases hgo.cases_head with heq | ⟨next, hnext, -⟩
      · exact heq
      · exact absurd hnext (hstuck next)
    · rcases hgo.cases_head with heq | ⟨next, hnext, -⟩
      · exact heq.symm
      · exact absurd hnext (hend next)
  · rintro rfl
    exact ⟨hrounds, hend⟩

theorem Walks.nodup (h : Walks c pending seen out) (hseen : seen.Nodup) : out.Nodup := by
  induction h with
  | done => exact hseen
  | pass _ _ ih => exact ih hseen
  | enter _ hnew _ _ ihabove ihrest =>
    have hentered := List.Nodup.concat hnew hseen
    rw [List.concat_eq_append] at hentered
    exact ihrest (ihabove hentered)

theorem ancestry_eq_nil_iff : c.ancestry name = [] ↔ c.contains name = false := by
  rw [List.eq_nil_iff_forall_not_mem]
  constructor
  · intro hnone
    cases hname : c.contains name with
    | false => rfl
    | true => exact absurd (mem_ancestry_iff.2 ⟨.refl, hname⟩) (hnone name)
  · intro hname D hD
    obtain ⟨hreach, hloaded⟩ := mem_ancestry_iff.1 hD
    rw [contains_of_reaches hreach hloaded] at hname
    cases hname

end

def superclass? (c : ClassTable η) (name : String) : Option String :=
  (c.get? name).bind (·.definition.superclass)

/-- The superclasses from a class on, nearest first, up to the first one that is missing or
stands before it in the chain. -/
inductive SuperclassChain (c : ClassTable η) : List String → String → List String → Prop
  | stop (h : c.contains name = false ∨ name ∈ before) : SuperclassChain c before name []
  | top (hloaded : c.contains name = true) (hnew : name ∉ before)
    (hsuper : c.superclass? name = none) : SuperclassChain c before name [name]
  | up (hloaded : c.contains name = true) (hnew : name ∉ before)
    (hsuper : c.superclass? name = some sup)
    (habove : SuperclassChain c (before ++ [name]) sup chain) :
    SuperclassChain c before name (name :: chain)

section
variable {c : ClassTable η}

theorem supertypes_of_superclass? (h : c.superclass? name = some sup) :
    ∃ interfaces, c.supertypes name = sup :: interfaces := by
  obtain ⟨entry, hentry, hsuper⟩ := Option.bind_eq_some_iff.1 h
  refine ⟨entry.definition.interfaces, ?_⟩
  simp only [supertypes, hentry, hsuper]
  rfl

theorem Walks.superclassChain (h : Walks c (name :: rest) seen out) :
    ∃ chain, c.SuperclassChain seen name chain ∧ seen ++ chain <+: out := by
  generalize hpending : name :: rest = pending at h
  induction h generalizing name rest with
  | done => cases hpending
  | pass hname hrest _ =>
    cases hpending
    refine ⟨[], .stop hname, ?_⟩
    rw [List.append_nil]
    exact hrest.seen_prefix
  | @enter name seen mid rest out hloaded hnew habove hrest ihabove _ =>
    cases hpending
    cases hsuper : c.superclass? name with
    | none =>
      exact ⟨[name], .top hloaded hnew hsuper, habove.seen_prefix.trans hrest.seen_prefix⟩
    | some sup =>
      obtain ⟨interfaces, hsupertypes⟩ := supertypes_of_superclass? hsuper
      obtain ⟨chain, hchain, hprefix⟩ := ihabove hsupertypes.symm
      refine ⟨name :: chain, .up hloaded hnew hsuper hchain, ?_⟩
      rw [List.append_cons]
      exact hprefix.trans hrest.seen_prefix

theorem SuperclassChain.unique (h : c.SuperclassChain before name chain)
    (h' : c.SuperclassChain before name chain') : chain = chain' := by
  induction h generalizing chain' with
  | stop hstop =>
    cases h' with
    | stop _ => rfl
    | top hloaded hnew _ => exact absurd hstop (not_passed hloaded hnew)
    | up hloaded hnew _ _ => exact absurd hstop (not_passed hloaded hnew)
  | top hloaded hnew hsuper =>
    cases h' with
    | stop hstop => exact absurd hstop (not_passed hloaded hnew)
    | top _ _ _ => rfl
    | up _ _ hsuper' _ =>
      rw [hsuper] at hsuper'
      cases hsuper'
  | up hloaded hnew hsuper _ ih =>
    cases h' with
    | stop hstop => exact absurd hstop (not_passed hloaded hnew)
    | top _ _ hsuper' =>
      rw [hsuper] at hsuper'
      cases hsuper'
    | up _ _ hsuper' habove' =>
      rw [hsuper] at hsuper'
      cases hsuper'
      rw [ih habove']

theorem exists_superclassChain (c : ClassTable η) (name : String) :
    ∃ chain, c.SuperclassChain [] name chain := by
  obtain ⟨chain, hchain, -⟩ := (walks_ancestry c name).superclassChain
  exact ⟨chain, hchain⟩

theorem SuperclassChain.begins_ancestry (h : c.SuperclassChain [] name chain) :
    chain <+: c.ancestry name := by
  obtain ⟨chain', hchain', hprefix⟩ := (walks_ancestry c name).superclassChain
  rw [h.unique hchain']
  exact hprefix

end

/-- Over every table, also where links form cycles or name classes that are not loaded, no
search goes on forever, and the one from a name ends with the classes in look-up order. These
are the loaded classes that links between loaded ones lead to, each of them once. They begin
with the chain of superclasses, and there is none exactly if the name itself is not loaded. -/
theorem search_ends_in_ancestry (c : ClassTable η) (name : String) :
    (WellFounded fun next s => c.Round s next) ∧
    (∀ last, (ReflTransGen c.Round ⟨[name], []⟩ last ∧ ∀ next, ¬c.Round last next) ↔
      last = ⟨[], c.ancestry name⟩) ∧
    (∀ D, D ∈ c.ancestry name ↔ c.Reaches name D ∧ c.contains D = true) ∧
    (c.ancestry name).Nodup ∧
    (∃ chain, c.SuperclassChain [] name chain) ∧
    (∀ chain, c.SuperclassChain [] name chain → chain <+: c.ancestry name) ∧
    (c.ancestry name = [] ↔ c.contains name = false) := by
  refine ⟨round_wellFounded c, search_ends_iff c name, fun D => mem_ancestry_iff, ?_,
    exists_superclassChain c name, fun chain => SuperclassChain.begins_ancestry,
    ancestry_eq_nil_iff⟩
  exact (walks_ancestry c name).nodup .nil

/-- Two classes that extend each other. The first one has an interface that leads back to it and
one that is not loaded. -/
def knot : ClassTable Unit :=
  let classes : List (ClassDef Unit) :=
    [{ name := "A", superclass := some "B", interfaces := ["I", "Gone"] },
     { name := "B", superclass := some "A" },
     { name := "I", superclass := none, isInterface := true, interfaces := ["A"] }]
  (classes.foldl (fun d c => (d.addClass c).2) Debuggee.initial).classes

theorem search_ends_in_ancestry_knot :
    knot.Below "A" "A" ∧ knot.Extends "A" "Gone" ∧ knot.SuperclassChain [] "A" ["A", "B"] ∧
    ["A", "B"] <+: knot.ancestry "A" ∧ knot.ancestry "A" = ["A", "B", "I"] ∧
    ReflTransGen knot.Round ⟨["A"], []⟩ ⟨[], ["A", "B", "I"]⟩ ∧ "Gone" ∉ knot.ancestry "A" ∧
    knot.ancestry "Gone" = [] := by
  have hcycle : knot.Below "A" "A" := by
    apply Relation.TransGen.tail (b := "B")
    · exact .single (by decide)
    · exact (by decide : knot.Extends "B" "A")
  have hchain : knot.SuperclassChain [] "A" ["A", "B"] :=
    .up rfl (by decide) rfl (.up rfl (by decide) rfl (.stop (.inr (by decide))))
  obtain ⟨-, hends, hmem, -, -, hprefix, -⟩ := search_ends_in_ancestry knot "A"
  obtain ⟨-, -, -, -, -, -, hnil⟩ := search_ends_in_ancestry knot "Gone"
  have hmissing : "Gone" ∉ knot.ancestry "A" := by
    intro hgone
    exact Bool.false_ne_true ((hmem "Gone").1 hgone).2
  exact ⟨hcycle, by decide, hchain, hprefix _ hchain, rfl, ((hends _).2 rfl).1, hmissing,
    hnil.2 rfl⟩

end Probe.ClassTable

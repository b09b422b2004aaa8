import Probe.Debuggee.Hierarchy

namespace Probe.ClassTable
set_option autoImplicit true

def ownStatic? (c : ClassTable η) (className name : String) : Option Value :=
  (c.get? className).bind (·.statics.get? name)

theorem resolveStatic_eq (c : ClassTable η) (typeName name : String) :
    c.resolveStatic typeName name = (c.ancestry typeName).findSome? fun className =>
      (c.ownStatic? className name).map fun value => (className, value) := rfl

/-- The first class in look-up order that holds a static field. -/
def staticOwner? (c : ClassTable η) (typeName name : String) : Option String :=
  (c.ancestry typeName).find? fun className => (c.ownStatic? className name).isSome

theorem map_fst_resolveStatic (c : ClassTable η) (typeName name : String) :
    (c.resolveStatic typeName name).map (·.1) = c.staticOwner? typeName name := by
  have hown (className : String) :
      ((c.ownStatic? className name).map fun value => (className, value)).map (·.1) =
        Option.guard (fun className => (c.ownStatic? className name).isSome) className := by
    cases hvalue : c.ownStatic? className name <;> simp [Option.guard, hvalue]
  rw [resolveStatic_eq, List.map_findSome?, staticOwner?, ← List.findSome?_guard]
  exact congrArg (List.findSome? · _) (funext hown)

theorem ownStatic?_of_resolveStatic {c : ClassTable η}
    (h : c.resolveStatic typeName name = some (owner, value)) :
    c.ownStatic? owner name = some value := by
  rw [resolveStatic_eq] at h
  obtain ⟨className, -, hclass⟩ := List.exists_of_findSome?_eq_some h
  obtain ⟨v, hv, hpair⟩ := Option.map_eq_some_iff.1 hclass
  cases hpair
  exact hv

theorem get?_putStatic (c : ClassTable η) (owner name : String) (value : Value)
    (className : String) : (c.putStatic owner name value).get? className =
      (c.get? className).map fun entry =>
        if className = owner then { entry with statics := entry.statics.insert name value }
        else entry := by
  unfold putStatic
  by_cases hname : className = owner
  · subst hname
    cases hc : c.get? className with
    | none => exact hc
    | some entry => simp
  · simp only [hname, if_false, Option.map_id']
    split
    · exact Table.get?_insert_of_ne c (Ne.symm hname) _
    · rfl

theorem ownStatic?_putStatic (c : ClassTable η) (owner name : String) (value : Value)
    (className other : String) : (c.putStatic owner name value).ownStatic? className other =
      if className = owner ∧ other = name then (c.get? owner).map fun _ => value
      else c.ownStatic? className other := by
  unfold ownStatic?
  rw [get?_putStatic]
  by_cases hclass : className = owner
  · subst hclass
    cases c.get? className with
    | none => simp
    | some entry =>
      by_cases hname : other = name
      · simp [hname]
      · simp [hname, Table.get?_insert_of_ne _ (Ne.symm hname)]
  · simp [hclass]

theorem contains_putStatic (c : ClassTable η) (owner name : String) (value : Value)
    (className : String) :
    (c.putStatic owner name value).contains className = c.contains className := by
  unfold Table.contains
  rw [get?_putStatic, Option.isSome_map]

theorem supertypes_putStatic (c : ClassTable η) (owner name : String) (value : Value)
    (className : String) :
    (c.putStatic owner name value).supertypes className = c.supertypes className := by
  unfold supertypes
  rw [get?_putStatic]
  cases c.get? className with
  | none => rfl
  | some entry => by_cases hclass : className = owner <;> simp [hclass]

theorem size_putStatic (c : ClassTable η) (owner name : String) (value : Value) :
    (c.putStatic owner name value).size = c.size := by
  unfold putStatic
  split
  · exact Table.size_insert ‹_› _
  · rfl

/-- The hierarchy is walked by looking at names and supertypes only. -/
theorem visit_congr {c c' : ClassTable η} (hcontains : ∀ name, c'.contains name = c.contains name)
    (hsupertypes : ∀ name, c'.supertypes name = c.supertypes name) (n : Nat)
    (pending seen : List String) : c'.visit n pending seen = c.visit n pending seen := by
  induction n generalizing pending seen with
  | zero => rfl
  | succ n ih =>
    simp only [visit, hcontains]
    split
    · rfl
    · rw [hsupertypes]
      exact ih _ _

theorem ancestry_putStatic (c : ClassTable η) (owner name : String) (value : Value)
    (typeName : String) :
    (c.putStatic owner name value).ancestry typeName = c.ancestry typeName := by
  unfold ancestry
  rw [size_putStatic]
  exact visit_congr (contains_putStatic c owner name value)
    (supertypes_putStatic c owner name value) _ _ _

theorem resolveStatic_putStatic {c : ClassTable η} (h : c.ownStatic? owner name = some old)
    (value : Value) (typeName : String) :
    (c.putStatic owner name value).resolveStatic typeName name =
      (c.resolveStatic typeName name).map fun found =>
        (found.1, if found.1 = owner then value else found.2) := by
  have hupdate (className : String) :
      ((c.putStatic owner name value).ownStatic? className name).map (fun v => (className, v)) =
        ((c.ownStatic? className name).map fun v => (className, v)).map fun found =>
          (found.1, if found.1 = owner then value else found.2) := by
    rw [ownStatic?_putStatic]
    by_cases hclass : className = owner
    · subst hclass
      obtain ⟨entry, hentry, -⟩ := Option.bind_eq_some_iff.1 h
      simp [h, hentry]
    · simp [hclass, Function.comp_def]
  rw [resolveStatic_eq, resolveStatic_eq, ancestry_putStatic, funext hupdate]
  exact List.map_findSome?.symm

theorem resolveStatic_putStatic_self {c : ClassTable η}
    (h : c.resolveStatic typeName name = some (owner, old)) (value : Value) :
    (c.putStatic owner name value).resolveStatic typeName name = some (owner, value) := by
  rw [resolveStatic_putStatic (ownStatic?_of_resolveStatic h), h]
  simp

theorem resolveStatic_putStatic_of_ne {name other : String} (hne : other ≠ name)
    (c : ClassTable η) (owner : String) (value : Value) (typeName : String) :
    (c.putStatic owner name value).resolveStatic typeName other =
      c.resolveStatic typeName other := by
  simp only [resolveStatic_eq, ancestry_putStatic, ownStatic?_putStatic, hne,
    and_false, if_false]

end Probe.ClassTable

import Probe.Proofs.Debuggee.Cells

namespace Probe
set_option autoImplicit true

namespace Remote

/-- What a static field of a type that can be asked for is read as. -/
def staticAnswer (c : ClassTable η) (typeName name : String) : Except RemoteError Value :=
  ((c.resolveStatic typeName name).map (·.2)).elim (.error (.noSuchField typeName name)) .ok

theorem getStatic_of_live {d : Debuggee η} (ha : d.alive = true) (hc : d.connected = true)
    (type : TypeRef) (name : String) :
    getStatic type name d = (staticAnswer d.classes type.name name, d) := by
  have halive : checkAlive d = (.ok (), d) := checkAlive_eq_ok.2 ⟨rfl, ha, hc⟩
  refine (Action.bind_of_ok halive _).trans ?_
  simp only [Action.bind_apply, Action.demand, staticAnswer]
  cases d.classes.resolveStatic type.name name <;> rfl

theorem staticAnswer_putStatic {c : ClassTable η}
    (h : c.resolveStatic typeName name = some (owner, old)) (value : Value)
    (typeName' name' : String) :
    staticAnswer (c.putStatic owner name value) typeName' name' =
      if name' = name ∧ c.staticOwner? typeName' name = c.staticOwner? typeName name then
        .ok value
      else staticAnswer c typeName' name' := by
  have howner := c.map_fst_resolveStatic typeName name
  have howner' := c.map_fst_resolveStatic typeName' name
  rw [h] at howner
  by_cases hname : name' = name
  · subst hname
    have hown := ClassTable.ownStatic?_of_resolveStatic h
    rw [staticAnswer, ClassTable.resolveStatic_putStatic hown, ← howner, ← howner', staticAnswer]
    cases c.resolveStatic typeName' name' with
    | none => simp
    | some found => by_cases hfound : found.1 = owner <;> simp [hfound]
  · rw [staticAnswer, ClassTable.resolveStatic_putStatic_of_ne hname, if_neg fun h => hname h.1,
      staticAnswer]

end Remote

/-- A static field can be written by way of a class exactly if it can be read by way of it.
Afterwards the classes that find the field in the same place read what was written. All other
classes and fields are read as before, and fail as before. -/
theorem Debuggee.statics_shared (d : Debuggee η) (type : TypeRef) (name : String)
    (value : Value) :
    ((∃ d', Remote.setStatic type name value d = (.ok (), d')) ↔
      ∃ old, Remote.getStatic type name d = (.ok old, d)) ∧
    ∀ d', Remote.setStatic type name value d = (.ok (), d') →
      ∀ (type' : TypeRef) (name' : String), Remote.getStatic type' name' d' =
        (if name' = name ∧ d.classes.staticOwner? type'.name name =
            d.classes.staticOwner? type.name name then .ok value
          else (Remote.getStatic type' name' d).1, d') := by
  constructor
  · constructor
    · rintro ⟨d', hset⟩
      obtain ⟨ha, hc, owner, old, hfound, -⟩ := Remote.setStatic_eq_ok.1 hset
      exact ⟨old, Remote.getStatic_eq_ok.2 ⟨rfl, ha, hc, owner, hfound⟩⟩
    · rintro ⟨old, hget⟩
      obtain ⟨-, ha, hc, owner, hfound⟩ := Remote.getStatic_eq_ok.1 hget
      exact ⟨_, Remote.setStatic_eq_ok.2 ⟨ha, hc, owner, old, hfound, rfl⟩⟩
  · intro d' hset type' name'
    obtain ⟨ha, hc, owner, old, hfound, hd'⟩ := Remote.setStatic_eq_ok.1 hset
    have ha' : d'.alive = true := by
      rw [hd']
      exact ha
    have hc' : d'.connected = true := by
      rw [hd']
      exact hc
    have hclasses : d'.classes = d.classes.putStatic owner name value := by
      rw [hd']
      rfl
    rw [Remote.getStatic_of_live ha' hc', Remote.getStatic_of_live ha hc, hclasses,
      Remote.staticAnswer_putStatic hfound]

/-- Both subclasses inherit a field, and the second one hides it by its own. -/
def family : Debuggee Unit :=
  let classes : List (ClassDef Unit) :=
    [{ name := "Base", statics := [("n", .int 1)] },
     { name := "Left", superclass := some "Base" },
     { name := "Right", superclass := some "Base", statics := [("n", .int 2)] }]
  classes.foldl (fun d c => (d.addClass c).2) Debuggee.initial

def familyType (name : String) : TypeRef := ⟨0, name, .classType⟩

theorem Debuggee.statics_shared_family :
    ∃ d', Remote.setStatic (familyType "Left") "n" (.int 7) family = (.ok (), d') ∧
      Remote.getStatic (familyType "Base") "n" d' = (.ok (.int 7), d') ∧
      Remote.getStatic (familyType "Right") "n" d' = (.ok (.int 2), d') := by
  obtain ⟨hwrite, hread⟩ := statics_shared family (familyType "Left") "n" (.int 7)
  obtain ⟨d', hset⟩ := hwrite.2 ⟨.int 1, rfl⟩
  exact ⟨d', hset, hread d' hset (familyType "Base") "n", hread d' hset (familyType "Right") "n"⟩

end Probe

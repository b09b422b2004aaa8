import Probe.Proofs.Debuggee.Requests
import Probe.Proofs.TypeName

namespace Probe
set_option autoImplicit true

/-- The names of types that can be asked for: those of loaded classes, and those of arrays with
a primitive component or one that can be asked for. -/
inductive ClassTable.Loadable (c : ClassTable η) : String → Prop
  | loaded (h : c.contains name = true) : Loadable c name
  | primitive (h : isPrimitiveName component = true) : Loadable c (component ++ "[]")
  | array (h : Loadable c component) : Loadable c (component ++ "[]")

theorem ClassTable.Loadable.of_array {c : ClassTable η} (h : c.Loadable (component ++ "[]")) :
    c.contains (component ++ "[]") = true ∨ isPrimitiveName component = true ∨
      c.Loadable component := by
  generalize hname : component ++ "[]" = name at h
  cases h with
  | loaded h => exact .inl h
  | primitive h =>
    rw [String.append_left_inj] at hname
    exact .inr (.inl (hname ▸ h))
  | array h =>
    rw [String.append_left_inj] at hname
    exact .inr (.inr (hname ▸ h))

theorem ClassTable.not_loadable_of_unloaded {c : ClassTable η}
    (harray : TypeName.isArray element = false) (hprimitive : isPrimitiveName element = false)
    (hn : ∀ k ≤ n, c.contains (TypeName.text ⟨element, k⟩) = false) :
    ¬c.Loadable (TypeName.text ⟨element, n⟩) := by
  induction n with
  | zero =>
    intro h
    have hzero := hn 0 (Nat.le_refl 0)
    rw [TypeName.text_zero] at h hzero
    cases h with
    | loaded h => simp [h] at hzero
    | primitive _ => simp [TypeName.isArray_array] at harray
    | array _ => simp [TypeName.isArray_array] at harray
  | succ n ih =>
    intro h
    have hsucc := hn (n + 1) (Nat.le_refl _)
    rw [TypeName.text_succ] at h hsucc
    rcases h.of_array with hloaded | hcomponent | hcomponent
    · rw [hloaded] at hsucc
      cases hsucc
    · cases n with
      | zero =>
        rw [TypeName.text_zero, hprimitive] at hcomponent
        cases hcomponent
      | succ n =>
        rw [TypeName.text_succ, not_primitive_array] at hcomponent
        cases hcomponent
    · exact ih (fun k hk => hn k (Nat.le_succ_of_le hk)) hcomponent

namespace Debuggee

/-- The debuggees differ in the ids of array types only. -/
def SameButTypes (d d' : Debuggee η) : Prop :=
  d' = { d with nextId := d'.nextId, arrayTypes := d'.arrayTypes }

theorem SameButTypes.classes {d d' : Debuggee η} (h : SameButTypes d d') :
    d'.classes = d.classes := by
  rw [SameButTypes] at h
  rw [h]

theorem SameButTypes.trans {d d' d'' : Debuggee η} (h : SameButTypes d d')
    (h' : SameButTypes d' d'') : SameButTypes d d'' := by
  unfold SameButTypes at h h' ⊢
  rw [h', h]

end Debuggee

open Debuggee (SameButTypes)

namespace Remote

theorem resolveType_of_loaded {d : Debuggee η}
    (h : d.classes.get? (TypeName.text ⟨element, n⟩) = some entry) :
    resolveType element n d =
      (.ok (Debuggee.classRef entry.id entry.definition (TypeName.text ⟨element, n⟩)), d) := by
  cases n with
  | zero =>
    rw [TypeName.text_zero] at h ⊢
    simp only [resolveType, Action.bind_apply, Action.demand, h]
    rfl
  | succ n =>
    simp only [resolveType, Action.bind_apply, Action.read, h]
    rfl

theorem typeNamed_of_loaded {d : Debuggee η} (h : d.classes.get? name = some entry) :
    typeNamed name d = (.ok (Debuggee.classRef entry.id entry.definition name), d) := by
  have hname := TypeName.text_parse name
  have hloaded : d.classes.get? (TypeName.parse name).text = some entry := by rwa [hname]
  have hparts : typeNamed name d =
      (.ok (Debuggee.classRef entry.id entry.definition (TypeName.parse name).text), d) :=
    resolveType_of_loaded hloaded
  rwa [hname] at hparts

theorem typeNamed_of_not_loaded {d : Debuggee η} (harray : TypeName.isArray name = false)
    (h : d.classes.get? name = none) : typeNamed name d = (.error (.classNotLoaded name), d) := by
  simp only [typeNamed, TypeName.parse_of_not_array harray, resolveType, Action.bind_apply,
    Action.demand, h]

/-- Unless a class has the name of an array type, its component is asked for first. -/
theorem typeNamed_array {d : Debuggee η} (h : d.classes.get? (component ++ "[]") = none) :
    typeNamed (component ++ "[]") d =
      (if isPrimitiveName component then arrayType (component ++ "[]")
        else typeNamed component >>= fun _ => arrayType (component ++ "[]")) d := by
  have hname : TypeName.text ⟨(TypeName.parse component).element,
      (TypeName.parse component).depth + 1⟩ = component ++ "[]" := by
    rw [TypeName.text_succ, TypeName.text_parse]
  simp only [typeNamed, TypeName.parse_array, resolveType, hname, ← isPrimitiveName_eq,
    Action.bind_apply, Action.read, h]
  split
  · rfl
  · exact congrFun (bind_assoc _ (fun _ => pure ()) _) d

theorem arrayType_total (name : String) (d : Debuggee η) :
    ∃ type d', arrayType name d = (.ok type, d') ∧ type.name = name ∧ SameButTypes d d' := by
  unfold arrayType
  cases d.arrayTypes.get? name with
  | some id => exact ⟨_, _, rfl, rfl, rfl⟩
  | none => exact ⟨_, _, rfl, rfl, rfl⟩

theorem typeNamed_of_loadable {d : Debuggee η} (h : d.classes.Loadable name) :
    ∃ type d', typeNamed name d = (.ok type, d') ∧ type.name = name ∧ SameButTypes d d' := by
  have hloaded {name : String} {entry : LoadedClass η} (h : d.classes.get? name = some entry) :
      ∃ type d', typeNamed name d = (.ok type, d') ∧ type.name = name ∧ SameButTypes d d' :=
    ⟨_, d, typeNamed_of_loaded h, rfl, rfl⟩
  induction h with
  | loaded h =>
    obtain ⟨entry, hentry⟩ := Table.contains_iff.1 h
    exact hloaded hentry
  | @primitive component h =>
    cases hentry : d.classes.get? (component ++ "[]") with
    | some entry => exact hloaded hentry
    | none =>
      rw [typeNamed_array hentry, if_pos h]
      exact arrayType_total _ d
  | @array component _ ih =>
    cases hentry : d.classes.get? (component ++ "[]") with
    | some entry => exact hloaded hentry
    | none =>
      obtain ⟨inner, d₁, hinner, -, hsame⟩ := ih
      obtain ⟨type, d₂, htype, hname, hsame'⟩ := arrayType_total (component ++ "[]") d₁
      rw [typeNamed_array hentry]
      split
      · exact arrayType_total _ d
      · exact ⟨type, d₂, (Action.bind_of_ok hinner _).trans htype, hname, hsame.trans hsame'⟩

theorem typeNamed_of_not_loadable {d : Debuggee η} (h : ¬d.classes.Loadable name) :
    typeNamed name d = (.error (.classNotLoaded (TypeName.parse name).element), d) := by
  have hnone {name : String} (h : ¬d.classes.Loadable name) : d.classes.get? name = none := by
    apply Table.contains_eq_false_iff.1
    cases hname : d.classes.contains name with
    | false => rfl
    | true => exact absurd (.loaded hname) h
  induction name using TypeName.array_induction with
  | element name harray =>
    rw [typeNamed_of_not_loaded harray (hnone h), TypeName.parse_of_not_array harray]
  | array component ih =>
    have hprimitive : ¬isPrimitiveName component = true := fun hp => h (.primitive hp)
    have hcomponent := ih fun hl => h (.array hl)
    rw [typeNamed_array (hnone h), if_neg hprimitive, Action.bind_of_error hcomponent,
      TypeName.parse_array]

theorem typeNamed_eq_ok {d d' : Debuggee η} (h : typeNamed name d = (.ok type, d')) :
    d.classes.Loadable name ∧ type.name = name ∧ SameButTypes d d' := by
  by_cases hname : d.classes.Loadable name
  · obtain ⟨type', d'', h', htype, hsame⟩ := typeNamed_of_loadable hname
    rw [h] at h'
    cases h'
    exact ⟨hname, htype, hsame⟩
  · rw [typeNamed_of_not_loadable hname] at h
    cases h

theorem arrayType_eq_ok {d d' : Debuggee η} (h : arrayType name d = (.ok type, d')) :
    d'.arrayTypes.get? name = some type.id := by
  unfold arrayType at h
  cases hname : d.arrayTypes.get? name with
  | some id =>
    rw [hname] at h
    cases h
    exact hname
  | none =>
    rw [hname] at h
    cases h
    exact Table.get?_insert_self _ _ _

theorem classRef_sort (id : TypeId) (c : ClassDef η) (name : String) :
    (Debuggee.classRef id c name).sort ≠ .arrayType := by
  cases h : c.isInterface <;> simp [Debuggee.classRef, h]

theorem arrayTypes_of_resolveType {d d' : Debuggee η}
    (h : resolveType element n d = (.ok type, d')) (hsort : type.sort = .arrayType) :
    d'.arrayTypes.get? (TypeName.text ⟨element, n⟩) = some type.id := by
  cases n with
  | zero =>
    obtain ⟨entry, _, -, h⟩ := Action.bind_eq_ok.1 h
    cases h
    exact absurd hsort (classRef_sort _ _ _)
  | succ n =>
    obtain ⟨found, _, -, h⟩ := Action.bind_eq_ok.1 h
    cases found with
    | some entry =>
      cases h
      exact absurd hsort (classRef_sort _ _ _)
    | none =>
      dsimp only at h
      split at h
      · exact arrayType_eq_ok h
      · obtain ⟨_, _, -, h⟩ := Action.bind_eq_ok.1 h
        exact arrayType_eq_ok h

theorem arrayTypes_of_classByName {d d' : Debuggee η} (h : classByName name d = (.ok type, d'))
    (hsort : type.sort = .arrayType) : d'.arrayTypes.get? name = some type.id := by
  obtain ⟨_, _, -, h⟩ := Action.bind_eq_ok.1 h
  have hid := arrayTypes_of_resolveType h hsort
  rwa [TypeName.text_parse] at hid

end Remote

end Probe

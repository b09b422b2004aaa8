import Probe.Value.Basic

namespace Probe
set_option autoImplicit true

namespace TypeName

theorem brackets_succ (n : Nat) : brackets (n + 1) = brackets n ++ ['[', ']'] := by
  induction n with
  | zero => rfl
  | succ n ih => exact congrArg ('[' :: ']' :: ·) ih

theorem unbracket_reverse (cs : List Char) :
    (unbracket cs).2.reverse ++ brackets (unbracket cs).1 = cs.reverse := by
  fun_induction unbracket cs with
  | case1 rest ih =>
    rw [brackets_succ, ← List.append_assoc, ih]
    simp
  | case2 cs => simp [brackets]

theorem text_parse (name : String) : (parse name).text = name := by
  simp only [parse, text, String.toList_ofList, unbracket_reverse, List.reverse_reverse,
    String.ofList_toList]

theorem text_zero (element : String) : text ⟨element, 0⟩ = element := by
  simp [text, brackets]

theorem text_succ (element : String) (n : Nat) :
    text ⟨element, n + 1⟩ = text ⟨element, n⟩ ++ "[]" := by
  simp only [text, brackets_succ, ← List.append_assoc, String.ofList_append]

theorem eq_iff_parse :
    a = b ↔ (parse a).element = (parse b).element ∧ (parse a).depth = (parse b).depth := by
  constructor
  · intro h
    rw [h]
    exact ⟨rfl, rfl⟩
  · rintro ⟨helement, hdepth⟩
    rw [← text_parse a, ← text_parse b]
    simp only [text, helement, hdepth]

theorem parse_array (name : String) :
    parse (name ++ "[]") = ⟨(parse name).element, (parse name).depth + 1⟩ := by
  have hchars : (name ++ "[]").toList.reverse = ']' :: '[' :: name.toList.reverse := by simp
  simp only [parse, hchars, unbracket]

theorem component?_array (name : String) : component? (name ++ "[]") = some name := by
  simp only [component?, parse_array]
  exact congrArg some (text_parse name)

theorem isArray_array (name : String) : isArray (name ++ "[]") = true := by
  simp [isArray, parse_array]

theorem parse_of_not_array (h : isArray name = false) : parse name = ⟨name, 0⟩ := by
  have hdepth : (parse name).depth = 0 := by simpa [isArray] using h
  have htext := text_parse name
  cases hname : parse name with
  | mk element depth =>
    rw [hname] at hdepth htext
    subst hdepth
    rw [text_zero] at htext
    rw [htext]

theorem element_text (h : isArray name = false) (n : Nat) :
    (parse (text ⟨name, n⟩)).element = name := by
  induction n with
  | zero => rw [text_zero, parse_of_not_array h]
  | succ n ih => rw [text_succ, parse_array, ih]

/-- An array name is the name of its component with a pair after it. -/
theorem exists_component (h : isArray name = true) : ∃ component, name = component ++ "[]" := by
  have htext := text_parse name
  cases hname : parse name with
  | mk element depth =>
    cases depth with
    | zero => simp [isArray, hname] at h
    | succ n =>
      rw [hname, text_succ] at htext
      exact ⟨_, htext.symm⟩

@[elab_as_elim]
theorem array_induction {motive : String → Prop}
    (element : ∀ name, isArray name = false → motive name)
    (array : ∀ component, motive component → motive (component ++ "[]")) (name : String) :
    motive name := by
  induction hn : (parse name).depth generalizing name with
  | zero =>
    apply element
    simp [isArray, hn]
  | succ n ih =>
    have harray : isArray name = true := by simp [isArray, hn]
    obtain ⟨component, rfl⟩ := exists_component harray
    rw [parse_array] at hn
    exact array component (ih component (Nat.succ.inj hn))

end TypeName

theorem Kind.eq_name_of_ofName? (h : Kind.ofName? typeName = some k) : typeName = k.name := by
  unfold Kind.ofName? at h
  split at h <;> cases h <;> rfl

theorem isArray_of_primitive (h : isPrimitiveName name = true) :
    TypeName.isArray name = false := by
  obtain ⟨k, hk⟩ := Option.isSome_iff_exists.1 h
  obtain rfl := Kind.eq_name_of_ofName? hk
  cases k <;> decide

theorem not_primitive_array (name : String) : isPrimitiveName (name ++ "[]") = false := by
  cases h : isPrimitiveName (name ++ "[]") with
  | false => rfl
  | true =>
    have harray := isArray_of_primitive h
    rw [TypeName.isArray_array] at harray
    cases harray

theorem isPrimitiveName_eq (name : String) : isPrimitiveName name =
    ((TypeName.parse name).depth == 0 && isPrimitiveName (TypeName.parse name).element) := by
  induction name using TypeName.array_induction with
  | element name h => simp [TypeName.parse_of_not_array h]
  | array component _ => simp [TypeName.parse_array, not_primitive_array]

end Probe

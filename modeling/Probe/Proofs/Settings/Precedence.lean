import Probe.Settings.Logging

namespace Probe
set_option autoImplicit true

namespace Text

structure Trimmed (text core : String) : Prop where
  around : ∃ before after, text.toList = before ++ core.toList ++ after ∧
    (∀ c ∈ before, isBlank c = true) ∧ ∀ c ∈ after, isBlank c = true
  first : ∀ c ∈ core.toList.head?, isBlank c = false
  last : ∀ c ∈ core.toList.getLast?, isBlank c = false

theorem isBlank_of_head?_dropWhile {cs : List Char} (h : c ∈ (cs.dropWhile isBlank).head?) :
    isBlank c = false := by
  have hnot := List.head?_dropWhile_not isBlank cs
  rw [Option.mem_def.1 h] at hnot
  exact hnot

theorem isBlank_of_mem_takeWhile {cs : List Char} (h : c ∈ cs.takeWhile isBlank) :
    isBlank c = true := by
  exact List.all_eq_true.1 List.all_takeWhile c h

theorem trimmed_trim (text : String) : Trimmed text (trim text) := by
  let front := text.toList.dropWhile isBlank
  have hcore : (trim text).toList = (front.reverse.dropWhile isBlank).reverse :=
    String.toList_ofList
  have hback : front = (trim text).toList ++ (front.reverse.takeWhile isBlank).reverse := by
    rw [hcore, ← List.reverse_append, List.takeWhile_append_dropWhile, List.reverse_reverse]
  refine ⟨⟨text.toList.takeWhile isBlank, (front.reverse.takeWhile isBlank).reverse, ?_, ?_, ?_⟩,
    ?_, ?_⟩
  · rw [List.append_assoc, ← hback, List.takeWhile_append_dropWhile]
  · intro c hc
    exact isBlank_of_mem_takeWhile hc
  · intro c hc
    exact isBlank_of_mem_takeWhile (List.mem_reverse.1 hc)
  · intro c hc
    have hfront : c ∈ front.head? := by
      rw [hback, List.head?_append, Option.mem_def.1 hc]
      rfl
    exact isBlank_of_head?_dropWhile hfront
  · intro c hc
    rw [hcore, List.getLast?_reverse] at hc
    exact isBlank_of_head?_dropWhile hc

theorem lower_eq_toLower (text : String) : lower text = text.toLower := by
  rw [lower, ← String.toList_map, String.ofList_toList]
  rfl

end Text

namespace Filter

theorem split_ne_nil (cs : List Char) : split cs ≠ [] := by
  induction cs with
  | nil => simp [split]
  | cons c cs ih => by_cases hc : c = ',' <;> simp [split, hc, ih]

theorem split_append (cs ds : List Char) : split (cs ++ ',' :: ds) = split cs ++ split ds := by
  induction cs with
  | nil => simp [split]
  | cons c cs ih =>
    by_cases hc : c = ','
    · simp [split, hc, ih]
    · obtain ⟨piece, pieces, hsplit⟩ := List.exists_cons_of_ne_nil (split_ne_nil cs)
      simp [split, hc, ih, hsplit]

theorem pieces_append (a b : String) : pieces (a ++ "," ++ b) = pieces a ++ pieces b := by
  have hchars : (a ++ "," ++ b).toList = a.toList ++ ',' :: b.toList := by simp
  rw [pieces, hchars, split_append, List.filter_append]
  rfl

end Filter

/-- The level that the last of the directives for a target gives to it. -/
def Directive.lastLevel? (target : Option String) (ds : List Directive) : Option Level :=
  (ds.reverse.find? fun d => d.target = target).map (·.level)

theorem Directive.lastLevel?_append (target : Option String) (ds es : List Directive) :
    lastLevel? target (ds ++ es) = (lastLevel? target es).or (lastLevel? target ds) := by
  rw [lastLevel?, List.reverse_append, List.find?_append, Option.map_or]
  rfl

/-- How readers of directives behave. What one piece of a text says is up to the reader, and so
is how its filters are kept. -/
structure FilterReader.Conventional (reader : FilterReader φ)
    (directive? : List Char → Option Directive) (level? : φ → Option String → Option Level) :
    Prop where
  /-- The pieces of a text are its directives, and the last one for a target wins. -/
  valid : ∀ text ds, (Filter.pieces text).mapM directive? = some ds →
    ∃ f, reader.strict text = .ok f ∧ ∀ target, level? f target = Directive.lastLevel? target ds
  /-- A bad piece makes the whole text invalid. -/
  invalid : ∀ text, (Filter.pieces text).mapM directive? = none →
    reader.strict text = .error .invalid
  lenient : ∀ text f, reader.strict text = .ok f → reader.lenient text = f
  /-- The name of a level by itself is a directive for all targets that no other names. -/
  names : ∀ level : Level, directive? level.text.toList = some ⟨none, level⟩

namespace FilterReader.Conventional
variable {reader : FilterReader φ} {directive? : List Char → Option Directive}
  {level? : φ → Option String → Option Level} (h : reader.Conventional directive? level?)
include h

theorem directives_of_ok (hf : reader.strict text = .ok f) :
    ∃ ds, (Filter.pieces text).mapM directive? = some ds ∧
      ∀ target, level? f target = Directive.lastLevel? target ds := by
  cases hds : (Filter.pieces text).mapM directive? with
  | none => cases hf.symm.trans (h.invalid text hds)
  | some ds =>
    obtain ⟨f', hf', hlevel⟩ := h.valid text ds hds
    obtain rfl : f = f' := Except.ok.inj (hf.symm.trans hf')
    exact ⟨ds, rfl, hlevel⟩

theorem directives_of_error (he : reader.strict text = .error e) :
    (Filter.pieces text).mapM directive? = none := by
  cases hds : (Filter.pieces text).mapM directive? with
  | none => rfl
  | some ds =>
    obtain ⟨f, hf, -⟩ := h.valid text ds hds
    cases he.symm.trans hf

end FilterReader.Conventional

namespace LogSettings

/-- The directives that a configured text without blanks at its ends stands for. -/
inductive Normalised (text : String) : String → Prop
  | absent (h : text = "") : Normalised text Level.info.text
  | name (level : Level) (hoff : level ≠ .off) (h : text.toLower = level.text) :
    Normalised text level.text
  | warning (h : text.toLower = "warning") : Normalised text Level.warn.text
  | other (h : text ≠ "") (hname : ∀ level : Level, level ≠ .off → text.toLower ≠ level.text)
    (hwarning : text.toLower ≠ "warning") : Normalised text text

theorem normalised_directives (s : LogSettings) : Normalised (Text.trim s.level) s.directives := by
  simp only [directives, Text.lower_eq_toLower]
  split
  · exact .absent ‹_›
  · split
    · rename_i hname
      obtain ⟨level, hoff, htext⟩ : ∃ level : Level, level ≠ .off ∧
          (Text.trim s.level).toLower = level.text := by
        rw [List.mem_cons, List.mem_cons, List.mem_cons, List.mem_cons,
          List.mem_singleton] at hname
        rcases hname with h | h | h | h | h
        · exact ⟨.trace, by decide, h⟩
        · exact ⟨.debug, by decide, h⟩
        · exact ⟨.info, by decide, h⟩
        · exact ⟨.warn, by decide, h⟩
        · exact ⟨.error, by decide, h⟩
      rw [htext]
      exact .name level hoff htext
    · split
      · exact .warning ‹_›
      · rename_i hne hname hwarning
        refine .other hne ?_ hwarning
        intro level hoff htext
        apply hname
        rw [htext]
        cases level <;> simp [Level.text] at hoff ⊢

/-- A blank text of the environment has no pieces, so it makes no difference that it is left
out. -/
theorem pieces_combined (s : LogSettings) (environment : Option String) :
    Filter.pieces (s.combined environment) =
      Filter.pieces s.directives ++ Filter.pieces (Text.trim (environment.getD "")) := by
  have hnone : Filter.pieces "" = [] := rfl
  cases environment with
  | none => exact (List.append_nil _).symm
  | some text =>
    simp only [combined, Option.map_some, Option.getD_some]
    split
    · cases ‹some (Text.trim text) = none›
    · rw [Option.some.inj ‹some (Text.trim text) = some ""›, hnone, List.append_nil]
    · rename_i more _ hmore
      rw [Option.some.inj hmore, Filter.pieces_append]

theorem mapM_combined (s : LogSettings) (directive? : List Char → Option Directive)
    (environment : Option String) :
    (Filter.pieces (s.combined environment)).mapM directive? = (do
      let ds ← (Filter.pieces s.directives).mapM directive?
      let es ← (Filter.pieces (Text.trim (environment.getD ""))).mapM directive?
      pure (ds ++ es)) := by
  rw [pieces_combined, List.mapM_append]

end LogSettings

namespace Filter

theorem mapM_toOption (read : α → Except ε β) (as : List α) :
    as.mapM (fun a => (read a).toOption) = (as.mapM read).toOption := by
  induction as with
  | nil => rfl
  | cons a as ih =>
    rw [List.mapM_cons, List.mapM_cons, ih]
    cases read a with
    | error e => rfl
    | ok b => cases as.mapM read <;> rfl

theorem filterMap_toOption {read : α → Except ε β} {as : List α} (h : as.mapM read = .ok bs) :
    as.filterMap (fun a => (read a).toOption) = bs := by
  induction as generalizing bs with
  | nil =>
    cases h
    rfl
  | cons a as ih =>
    rw [List.mapM_cons] at h
    cases ha : read a with
    | error e =>
      rw [ha] at h
      cases h
    | ok b =>
      rw [ha] at h
      cases has : as.mapM read with
      | error e =>
        rw [has] at h
        cases h
      | ok bs' =>
        rw [has] at h
        cases h
        rw [List.filterMap_cons, ha]
        exact congrArg (b :: ·) (ih has)

theorem get?_ofDirectives (ds : List Directive) (target : Option String) :
    (ofDirectives ds).get? target = Directive.lastLevel? target ds := by
  rw [ofDirectives, Table.ofList, Table.get?_insertAll, Table.get?_empty, Option.or_none,
    Table.lookup_eq_find?, ← List.map_reverse, List.find?_map, Option.map_map]
  rfl

/-- A reader that takes what it cannot cut for invalid. -/
def carefulReader : FilterReader Filter :=
  { reader with
    strict := fun text =>
      match parse text with
      | .ok f => .ok f
      | .error _ => .error .invalid }

theorem carefulReader_conventional :
    carefulReader.Conventional (fun piece => (Directive.parse piece).toOption) Table.get? where
  valid text ds h := by
    rw [mapM_toOption] at h
    simp only [carefulReader, parse]
    cases hread : (pieces text).mapM Directive.parse with
    | error e =>
      rw [hread] at h
      cases h
    | ok ds' =>
      rw [hread] at h
      cases h
      exact ⟨_, rfl, get?_ofDirectives ds⟩
  invalid text h := by
    rw [mapM_toOption] at h
    simp only [carefulReader, parse]
    cases hread : (pieces text).mapM Directive.parse with
    | error e => rfl
    | ok ds =>
      rw [hread] at h
      cases h
  lenient text f h := by
    simp only [carefulReader, parse] at h
    cases hread : (pieces text).mapM Directive.parse with
    | error e =>
      rw [hread] at h
      cases h
    | ok ds =>
      rw [hread] at h
      cases h
      exact congrArg ofDirectives (filterMap_toOption hread)
  names := by
    intro level
    cases level <;> rfl

end Filter

namespace LogSettings

end LogSettings

end Probe

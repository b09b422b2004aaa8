import Probe.Proofs.Debuggee.Cells
import Probe.Proofs.Machine.Compatible

namespace Probe.Machine
set_option autoImplicit true

open Probe.Action (Accessor Finder Keeps SameAnswer Silent)

/-- What becomes of the answer to a request that may fail for want of a field. -/
def orMissing : Except RemoteError α → Except (Abrupt Failure) (Option α)
  | .ok a => .ok (some a)
  | .error (.noSuchField ..) => .ok none
  | .error e => .error (.error (.ofRemote e))

theorem orNoField_apply (r : Remote η α) (s : State η κ) :
    orNoField r s = (orMissing (r s.world.debuggee).1,
      s.withDebuggee (r s.world.debuggee).2) := by
  simp only [orNoField, Action.bind_apply, remote_apply, Action.attempt]
  rcases r s.world.debuggee with ⟨e | a, d⟩
  · cases e <;> rfl
  · rfl

theorem silent_remote {r : Remote η α} (h : Silent r) : Silent (remote r : Exec η κ α) := by
  intro s
  rw [remote_apply, ← h s.world.debuggee]
  rfl

theorem silent_orNoField {r : Remote η α} (h : Silent r) :
    Silent (orNoField r : Exec η κ (Option α)) := by
  intro s
  rw [orNoField_apply, ← h s.world.debuggee]
  rfl

theorem accessor_remote {get : Remote η α} {set : α → Remote η Unit} (h : Accessor get set) :
    Accessor (remote get : Exec η κ α) fun v => remote (set v) where
  silent := silent_remote h.silent
  fails {s e} he v := by
    rw [remote_apply] at he ⊢
    cases hget : (get s.world.debuggee).1 with
    | ok a =>
      rw [hget] at he
      cases he
    | error e' =>
      rw [hget] at he
      cases he
      rw [h.fails hget]
      rfl
  writes {s a} ha v := by
    rw [remote_apply] at ha
    cases hget : (get s.world.debuggee).1 with
    | error e =>
      rw [hget] at ha
      cases ha
    | ok old =>
      obtain ⟨d, hset, hread⟩ := h.writes hget v
      refine ⟨s.withDebuggee d, ?_, ?_⟩
      · rw [remote_apply, hset]
        rfl
      · rw [remote_apply]
        exact congrArg (Except.mapError _) hread

theorem finder_orNoField {get : Remote η α} {set : α → Remote η Unit} (h : Accessor get set) :
    Finder (orNoField get : Exec η κ (Option α)) fun v => orNoField (set v) where
  silent := silent_orNoField h.silent
  fails {s e} he v := by
    rw [orNoField_apply] at he ⊢
    cases hget : (get s.world.debuggee).1 with
    | ok a =>
      rw [hget] at he
      cases he
    | error e' =>
      rw [hget] at he
      rw [h.fails hget]
      cases e' <;> cases he <;> rfl
  misses {s} hnone v := by
    rw [orNoField_apply] at hnone ⊢
    cases hget : (get s.world.debuggee).1 with
    | ok a =>
      rw [hget] at hnone
      cases hnone
    | error e =>
      rw [hget] at hnone
      rw [h.fails hget]
      cases e <;> cases hnone
      rfl
  writes {s a} ha v := by
    rw [orNoField_apply] at ha
    cases hget : (get s.world.debuggee).1 with
    | error e =>
      rw [hget] at ha
      cases e <;> cases ha
    | ok old =>
      obtain ⟨d, hset, hread⟩ := h.writes hget v
      refine ⟨s.withDebuggee d, ?_, ?_⟩
      · rw [orNoField_apply, hset]
        rfl
      · rw [orNoField_apply]
        exact congrArg orMissing hread

/-- Bound names that satisfy `N` have the same values, and cells that satisfy `P` are alike. -/
structure Alike (N : String → Prop) (P : Cell → Prop) (s s' : State η κ) : Prop where
  names : ∀ name, N name → s'.temporaries.get? name = s.temporaries.get? name
  debuggee : s.world.debuggee.Agree P s'.world.debuggee

instance : IsPreorder (State η κ) (Alike N P) where
  refl s := ⟨fun _ _ => rfl, refl s.world.debuggee⟩
  trans _ _ _ h h' := ⟨fun name hn => (h'.names name hn).trans (h.names name hn),
    IsTrans.trans _ _ _ h.debuggee h'.debuggee⟩

/-- The action changes nothing and cannot tell states that are alike. -/
structure Sees (N : String → Prop) (P : Cell → Prop) (x : Exec η κ α) : Prop where
  silent : Silent x
  same : ∀ {s s'}, Alike N P s s' → SameAnswer x s s'

namespace Sees

theorem pure (a : α) : Sees N P (pure a : Exec η κ α) := ⟨.pure a, fun _ => rfl⟩

theorem reject (e : ExpressionError) : Sees N P (reject e : Exec η κ α) :=
  ⟨.fail _, fun _ => rfl⟩

theorem bind {x : Exec η κ α} {f : α → Exec η κ β} (hx : Sees N P x)
    (hf : ∀ a, Sees N P (f a)) : Sees N P (x >>= f) where
  silent := hx.silent.bind fun a => (hf a).silent
  same h := .bind hx.silent (hx.same h) fun a => (hf a).same h

theorem bind_keeps {x : Exec η κ α} {f : α → Exec η κ β} (hx : Sees N P x)
    (hf : ∀ a, Keeps (Alike N P) (f a)) : Keeps (Alike N P) (x >>= f) :=
  (Keeps.of_silent hx.silent).bind hf

theorem keeps {x : Exec η κ α} {y : Exec η κ β} (hx : Sees N P x) (hy : Keeps (Alike N P) y) :
    Keeps (SameAnswer x) y :=
  hy.mono fun _ _ => hx.same

/-- A place chosen by an answer is the same before and after it is written, if the writing
leaves alone what the answer depends on. -/
theorem choose {choice : Exec η κ β} {get : β → Exec η κ α} {set : β → α → Exec η κ Unit}
    (hc : Sees N P choice) (h : ∀ b, Accessor (get b) (set b))
    (hkeeps : ∀ b v, Keeps (Alike N P) (set b v)) :
    Accessor (choice >>= get) fun v => choice >>= fun b => set b v :=
  .choose hc.silent h fun b v => hc.keeps (hkeeps b v)

end Sees

section
variable {N : String → Prop} {P : Cell → Prop}

theorem sees_name (hN : N name) :
    Sees N P (Action.read fun s : State η κ => s.temporaries.get? name) :=
  ⟨.read _, fun h => congrArg Except.ok (h.names name hN)⟩

theorem sees_look (scope : Scope) (property : Scope → α) :
    Sees N P (remote (scope.look property) : Exec η κ α) where
  silent := silent_remote (silent_look scope property)
  same {s s'} h := by
    have hlook : SameAnswer (scope.look property) s.world.debuggee s'.world.debuggee := by
      apply SameAnswer.bind (Remote.silent_isSuspended _) (h.debuggee.suspended _)
      intro suspended
      cases suspended <;> rfl
    simp only [SameAnswer, remote_apply]
    exact congrArg (Except.mapError _) hlook

theorem sees_cell {c : Cell} (hP : P c) : Sees N P (remote c.get : Exec η κ Value) where
  silent := silent_remote c.accessor.silent
  same h := by
    simp only [SameAnswer, remote_apply]
    exact congrArg (Except.mapError _) (h.debuggee.cells c hP)

theorem sees_orNoField {c : Cell} (hP : P c) :
    Sees N P (orNoField c.get : Exec η κ (Option Value)) where
  silent := silent_orNoField c.accessor.silent
  same h := by
    simp only [SameAnswer, orNoField_apply]
    exact congrArg orMissing (h.debuggee.cells c hP)

theorem keeps_cell (c : Cell) (v : Value) (hP : ∀ c', P c' → c'.Apart c) :
    Keeps (Alike N P) (remote (c.set v) : Exec η κ Unit) := by
  intro s
  rw [remote_apply]
  exact ⟨fun _ _ => rfl, c.keeps_set v hP s.world.debuggee⟩

theorem keeps_orNoField_cell (c : Cell) (v : Value) (hP : ∀ c', P c' → c'.Apart c) :
    Keeps (Alike N P) (orNoField (c.set v) : Exec η κ (Option Unit)) := by
  intro s
  rw [orNoField_apply]
  exact ⟨fun _ _ => rfl, c.keeps_set v hP s.world.debuggee⟩

theorem sees_onReceiver (scope : Scope) (hP : ∀ this, P (.inObject this name)) :
    Sees N P (onReceiver scope (Remote.getField · name) : Exec η κ (Option Value)) := by
  apply (sees_look scope _).bind
  intro this
  cases this with
  | some this => exact sees_orNoField (hP this)
  | none => exact .pure none

theorem sees_onReceivingType (scope : Scope) (hP : ∀ type, P (.inType type name)) :
    Sees N P (onReceivingType scope name (Remote.getStatic · name) : Exec η κ Value) := by
  apply (sees_look scope _).bind
  intro type
  apply (sees_orNoField (hP type)).bind
  intro found
  cases found with
  | some v => exact .pure v
  | none => exact .reject _

theorem keeps_writeReceiver (scope : Scope) (name : String) (v : Value)
    (hP : ∀ c this, P c → c.Apart (.inObject this name)) :
    Keeps (Alike N P) (onReceiver scope (Remote.setField · name v) : Exec η κ (Option Unit)) := by
  apply (sees_look scope _).bind_keeps
  intro this
  cases this with
  | some this => exact keeps_orNoField_cell (.inObject this name) v fun c => hP c this
  | none => exact .pure none

theorem keeps_writeReceivingType (scope : Scope) (name : String) (v : Value)
    (hP : ∀ c type, P c → c.Apart (.inType type name)) :
    Keeps (Alike N P)
      (onReceivingType scope name (Remote.setStatic · name v) : Exec η κ Unit) := by
  apply (sees_look scope _).bind_keeps
  intro type
  apply (keeps_orNoField_cell (.inType type name) v fun c => hP c type).bind
  intro found
  cases found with
  | some _ => exact .pure ()
  | none => exact .fail _

end

theorem sees_readVariable (scope : Scope) (name : String) :
    Sees (· = name) (Cell.Named name) (readVariable scope name : Exec η κ Value) := by
  apply (sees_name (N := (· = name)) rfl).bind
  intro bound
  cases bound with
  | some v => exact .pure v
  | none =>
    apply (sees_look scope _).bind
    intro declared
    cases declared with
    | some _ => exact sees_cell (c := .inFrame scope.thread scope.frame name) rfl
    | none =>
      apply (sees_onReceiver scope fun _ => rfl).bind
      intro field
      cases field with
      | some v => exact .pure v
      | none => exact sees_onReceivingType scope fun _ => rfl

/-- The value of a name as a field of the receiver, else as a static field. -/
def readMember (scope : Scope) (name : String) : Exec η κ Value :=
  onReceiver scope (Remote.getField · name) >>= fun
    | some v => pure v
    | none => onReceivingType scope name (Remote.getStatic · name)

def writeMember (scope : Scope) (name : String) (v : Value) : Exec η κ Unit :=
  onReceiver scope (Remote.setField · name v) >>= fun
    | some () => pure ()
    | none => onReceivingType scope name (Remote.setStatic · name v)

/-- The value of a name that is not bound. -/
def readUnbound (scope : Scope) (name : String) : Exec η κ Value :=
  remote (scope.look (·.local? name)) >>= fun
    | some _ => remote (Remote.getLocal scope.thread scope.frame name)
    | none => readMember scope name

/-- Writes the local variable or field that `readUnbound` reads. -/
def writeUnbound (scope : Scope) (name : String) (v : Value) : Exec η κ Unit :=
  remote (scope.look (·.local? name)) >>= fun
    | some _ => remote (Remote.setLocal scope.thread scope.frame name v)
    | none => writeMember scope name v

def writeBound (name : String) (v : Value) : Exec η κ (Option Unit) := fun s =>
  if s.temporaries.contains name then
    (.ok (some ()), { s with temporaries := s.temporaries.insert name v })
  else (.ok none, s)

theorem writeVariable_eq (scope : Scope) (name : String) (v : Value) :
    (writeVariable scope name v : Exec η κ Unit) = writeBound name v >>= fun
      | some () => pure ()
      | none => writeUnbound scope name v := by
  funext s
  simp only [writeVariable, writeBound, Action.bind_apply, Action.read]
  by_cases hbound : s.temporaries.contains name = true
  · simp only [hbound, if_true]
    rfl
  · simp only [hbound]
    rfl

theorem keeps_writeMember (scope : Scope) (name : String) (v : Value)
    (hP : ∀ c c', P c → Cell.Named name c' → c.Apart c') :
    Keeps (Alike N P) (writeMember scope name v : Exec η κ Unit) := by
  refine (keeps_writeReceiver scope name v fun c _ hc => hP c _ hc rfl).bind ?_
  intro field
  cases field with
  | some _ => exact .pure ()
  | none => exact keeps_writeReceivingType scope name v fun c _ hc => hP c _ hc rfl

theorem keeps_writeUnbound (scope : Scope) (name : String) (v : Value)
    (hP : ∀ c c', P c → Cell.Named name c' → c.Apart c') :
    Keeps (Alike N P) (writeUnbound scope name v : Exec η κ Unit) := by
  apply (sees_look scope _).bind_keeps
  intro declared
  cases declared with
  | some _ =>
    exact keeps_cell (.inFrame scope.thread scope.frame name) v fun c hc => hP c _ hc rfl
  | none => exact keeps_writeMember scope name v hP

theorem keeps_writeVariable (scope : Scope) (name : String) (v : Value) (hN : ¬N name)
    (hP : ∀ c c', P c → Cell.Named name c' → c.Apart c') :
    Keeps (Alike N P) (writeVariable scope name v : Exec η κ Unit) := by
  rw [writeVariable_eq]
  have hbound : Keeps (Alike N P) (writeBound name v : Exec η κ (Option Unit)) := by
    intro s
    unfold writeBound
    split
    · refine ⟨?_, refl s.world.debuggee⟩
      intro other hother
      have hne : name ≠ other := by
        intro he
        exact hN (he ▸ hother)
      exact Table.get?_insert_of_ne _ hne _
    · exact refl s
  refine hbound.bind ?_
  intro found
  cases found with
  | some _ => exact .pure ()
  | none => exact keeps_writeUnbound scope name v hP

theorem finder_bound (name : String) :
    Finder (Action.read fun s : State η κ => s.temporaries.get? name) (writeBound name) where
  silent := .read _
  fails h := by cases h
  misses {s} h v := by
    have hnone := Table.contains_eq_false_iff.2 (Except.ok.inj h)
    simp only [writeBound, hnone]
    rfl
  writes {s a} h v := by
    have hbound := Table.contains_iff.2 ⟨a, Except.ok.inj h⟩
    refine ⟨{ s with temporaries := s.temporaries.insert name v }, ?_, ?_⟩
    · simp only [writeBound, hbound, if_true]
    · exact congrArg Except.ok (Table.get?_insert_self _ _ _)

theorem accessor_receivingType (scope : Scope) (name : String) :
    Accessor (onReceivingType scope name (Remote.getStatic · name) : Exec η κ Value)
      fun v => onReceivingType scope name (Remote.setStatic · name v) := by
  apply (sees_look (N := fun _ => False) (P := fun _ => False) scope _).choose
  · intro type
    refine (finder_orNoField (Cell.inType type name).accessor).orElse (fun _ => rfl)
      (fun _ => rfl) (.fail _) ?_
    intro v
    exact .fail _
  · intro type v
    refine (keeps_orNoField_cell (.inType type name) v fun _ => False.elim).bind ?_
    intro found
    cases found with
    | some _ => exact .pure ()
    | none => exact .fail _

/-- Writing a static field does not give the receiver a field of that name. -/
theorem accessor_member (scope : Scope) (name : String) :
    Accessor (readMember scope name : Exec η κ Value) (writeMember scope name) := by
  unfold readMember writeMember onReceiver
  simp only [bind_assoc]
  apply (sees_look (N := fun _ => False) (P := fun _ => False) scope _).choose
  · intro this
    cases this with
    | some this =>
      refine (finder_orNoField (Cell.inObject this name).accessor).orElse (fun _ => rfl)
        (fun _ => rfl) (accessor_receivingType scope name) ?_
      intro v
      apply (sees_orNoField (N := fun _ => False) (P := (· = .inObject this name)) rfl).keeps
      apply keeps_writeReceivingType
      intro c type hc
      rw [hc]
      trivial
    | none => exact accessor_receivingType scope name
  · intro this v
    have hstatic : Keeps (Alike (fun _ => False) (fun _ => False))
        (onReceivingType scope name (Remote.setStatic · name v) : Exec η κ Unit) :=
      keeps_writeReceivingType scope name v fun _ _ => False.elim
    cases this with
    | some this =>
      refine (keeps_orNoField_cell (.inObject this name) v fun _ => False.elim).bind ?_
      intro field
      cases field with
      | some _ => exact .pure ()
      | none => exact hstatic
    | none => exact hstatic

theorem accessor_unbound (scope : Scope) (name : String) :
    Accessor (readUnbound scope name : Exec η κ Value) (writeUnbound scope name) := by
  apply (sees_look (N := fun _ => False) (P := fun _ => False) scope _).choose
  · intro declared
    cases declared with
    | some _ => exact accessor_remote (Cell.inFrame scope.thread scope.frame name).accessor
    | none => exact accessor_member scope name
  · intro declared v
    cases declared with
    | some _ => exact keeps_cell (.inFrame scope.thread scope.frame name) v fun _ => False.elim
    | none => exact keeps_writeMember scope name v fun _ _ => False.elim

theorem accessor_variable (scope : Scope) (name : String) :
    Accessor (readVariable scope name : Exec η κ Value) (writeVariable scope name) := by
  rw [funext (writeVariable_eq scope name)]
  refine (finder_bound name).orElse (fun _ => rfl) (fun _ => rfl) (accessor_unbound scope name) ?_
  intro v
  apply (sees_name (N := (· = name)) (P := fun _ => False) rfl).keeps
  exact keeps_writeUnbound scope name v fun _ _ => False.elim

/-- Reads and writes of variables agree. A name can be written exactly if it can be read, and
else both fail alike and nothing changes. What was written is what is read afterwards, and all
other names keep their values. -/
theorem variables_read_as_written (scope : Scope) (name : String) (v : Value) (s : State η κ) :
    (∀ other, (readVariable scope other s).2 = s) ∧
    ((∃ s', writeVariable scope name v s = (.ok (), s')) ↔
      ∃ old, readVariable scope name s = (.ok old, s)) ∧
    (∀ e s', writeVariable scope name v s = (.error e, s') ↔
      s' = s ∧ readVariable scope name s = (.error e, s)) ∧
    ∀ s', writeVariable scope name v s = (.ok (), s') →
      readVariable scope name s' = (.ok v, s') ∧
      ∀ other ≠ name, readVariable scope other s' = ((readVariable scope other s).1, s') := by
  have hvariable := accessor_variable (η := η) (κ := κ) scope name
  have hsilent (other : String) := (sees_readVariable (η := η) (κ := κ) scope other).silent
  cases hread : (readVariable scope name s).1 with
  | error e =>
    have hwrite := hvariable.fails hread v
    have hread := (hsilent name).fst_eq_iff.1 hread
    rw [hwrite, hread]
    refine ⟨fun other => (hsilent other s).symm, ?_, ?_, ?_⟩
    · simp
    · intro e' s'
      simp [eq_comm, and_comm]
    · intro s' h
      cases h
  | ok old =>
    obtain ⟨s', hwrite, hback⟩ := hvariable.writes hread v
    have hread := (hsilent name).fst_eq_iff.1 hread
    rw [hwrite, hread]
    refine ⟨fun other => (hsilent other s).symm, ?_, ?_, ?_⟩
    · simp
    · intro e' s'
      simp
    · intro s'' h
      cases h
      refine ⟨(hsilent name).fst_eq_iff.1 hback, ?_⟩
      intro other hne
      have hkept : Alike (· = other) (Cell.Named other) s s' := by
        have hkeeps := keeps_writeVariable (N := (· = other)) (P := Cell.Named other) scope name v
          (Ne.symm hne) (fun c c' hc hc' => hc.apart hne hc') s
        rw [hwrite] at hkeeps
        exact hkeeps
      exact (hsilent other).fst_eq_iff.1 ((sees_readVariable scope other).same hkept)

end Probe.Machine

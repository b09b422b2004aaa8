import Probe.Proofs.Debuggee.Cells
import Probe.Proofs.Debuggee.Untouched

namespace Probe
set_option autoImplicit true

open Probe.Action (Keeps Silent)

namespace Debuggee

/-- The log only grows and the debuggee stays in a proper state. -/
structure Grows (d d' : Debuggee η) : Prop where
  sound : d.Sound → d'.Sound
  log : LogExtends d d'

instance : IsPreorder (Debuggee η) Grows where
  refl d := ⟨id, refl d⟩
  trans _ _ _ h h' := ⟨h'.sound ∘ h.sound, IsTrans.trans _ _ _ h.log h'.log⟩

theorem Grows.allowsChanges : Remote.AllowsChanges (@Grows η) where
  newString d text :=
    ⟨Sound.allowsChanges.newString d text, LogExtends.allowsChanges.newString d text⟩
  arrayType d name h :=
    ⟨Sound.allowsChanges.arrayType d name h, LogExtends.allowsChanges.arrayType d name h⟩
  log d entry := ⟨Sound.allowsChanges.log d entry, LogExtends.allowsChanges.log d entry⟩
  newObject d typeName :=
    ⟨Sound.allowsChanges.newObject d typeName, LogExtends.allowsChanges.newObject d typeName⟩
  newArrayOf d typeName elements := ⟨Sound.allowsChanges.newArrayOf d typeName elements,
    LogExtends.allowsChanges.newArrayOf d typeName elements⟩
  content d id object content h h' := ⟨Sound.allowsChanges.content d id object content h h',
    LogExtends.allowsChanges.content d id object content h h'⟩
  putStatic d owner name value := ⟨Sound.allowsChanges.putStatic d owner name value,
    LogExtends.allowsChanges.putStatic d owner name value⟩
  thread d id t := ⟨Sound.allowsChanges.thread d id t, LogExtends.allowsChanges.thread d id t⟩

theorem Moves.logExtends {d d' : Debuggee η} (h : Moves d d') : LogExtends d d' := by
  cases h with
  | resume thread =>
    unfold Debuggee.resume
    split <;> exact List.prefix_refl _
  | suspend thread byEvent =>
    unfold Debuggee.suspend
    split <;> exact List.prefix_refl _
  | send r => exact r.keeps_send LogExtends.allowsChanges _
  | _ => exact List.prefix_refl _

theorem Evolves.grows {d d' : Debuggee η} (h : Evolves d d') : Grows d d' := by
  induction h with
  | refl => exact refl d
  | tail _ hmove ih => exact IsTrans.trans _ _ _ ih ⟨hmove.sound, hmove.logExtends⟩

/-- Where the log has not grown, nothing happened but additions. -/
structure Recorded (d d' : Debuggee η) : Prop extends Grows d d' where
  untouched : d.Sound → d'.calls = d.calls → d.Untouched d'

/-- If the log has not grown in the end, it had not grown before. -/
theorem Recorded.trans {d d' d'' : Debuggee η} (h : Recorded d d') (h' : Recorded d' d'') :
    Recorded d d'' where
  toGrows := IsTrans.trans _ _ _ h.toGrows h'.toGrows
  untouched hd heq := by
    have hle := h'.log.length_le
    rw [heq] at hle
    have hcalls : d'.calls = d.calls := (h.log.eq_of_length_le hle).symm
    have hcalls' : d''.calls = d'.calls := heq.trans hcalls.symm
    exact (h.untouched hd hcalls).trans (h'.untouched (h.sound hd) hcalls')

instance : IsPreorder (Debuggee η) Recorded where
  refl d := ⟨refl d, fun _ _ => .refl d⟩
  trans _ _ _ := Recorded.trans

theorem Spared.recorded {d d' : Debuggee η} (h : Spared d d') (hlog : LogExtends d d') :
    Recorded d d' :=
  ⟨⟨fun hd => (h hd).1, hlog⟩, fun hd _ => (h hd).2⟩

theorem Recorded.allowsAdditions : Remote.AllowsAdditions (@Recorded η) where
  newString d text := (Spared.allowsAdditions.newString d text).recorded (List.prefix_refl _)
  arrayType d name h := (Spared.allowsAdditions.arrayType d name h).recorded (List.prefix_refl _)

theorem Grows.recorded {d d' : Debuggee η} (h : Grows d d') (hlog : Logged d d') :
    Recorded d d' where
  toGrows := h
  untouched _ heq := by
    unfold Logged at hlog
    rw [heq] at hlog
    exact absurd hlog (Nat.lt_irrefl _)

end Debuggee

open Debuggee (Grows LogExtends Logged Recorded)

namespace Remote

/-- The request is logged unless it fails and changes nothing. -/
def Notes (x : Remote η α) : Prop := ∀ d, (∃ e, x d = (.error e, d)) ∨ Logged d (x d).2

namespace Notes

theorem fail (e : RemoteError) : Notes (Action.fail e : Remote η α) := fun _ => .inl ⟨e, rfl⟩

theorem bind_silent {x : Remote η α} {f : α → Remote η β} (hx : Silent x)
    (hf : ∀ a, Notes (f a)) : Notes (x >>= f) := by
  intro d
  cases hxd : (x d).1 with
  | error e => exact .inl ⟨e, hx.bind_error hxd f⟩
  | ok a =>
    rw [hx.bind_ok hxd]
    exact hf a d

theorem log_bind (entry : String) {f : Unit → Remote η α} (hf : ∀ u, Keeps LogExtends (f u)) :
    Notes (log entry >>= f) :=
  fun d => .inr ((Debuggee.logged_log d entry).extend (hf () (d.log entry)))

theorem recorded {x : Remote η α} (hx : Notes x) (hgrows : Keeps Grows x) :
    Keeps Recorded x := by
  intro d
  rcases hx d with ⟨e, he⟩ | hlog
  · rw [he]
    exact refl d
  · exact (hgrows d).recorded hlog

end Notes

theorem notes_construct (type : TypeRef) (signature : String) (args : List Value)
    (thread : ThreadId) : Notes (construct type signature args thread : Remote η Value) := by
  apply Notes.bind_silent (silent_checkInvocable thread)
  intro _
  apply Notes.bind_silent (.demand _ _)
  intro entry
  apply Notes.bind_silent (.require _ _)
  intro _
  apply Notes.bind_silent (.require _ _)
  intro _
  apply Notes.log_bind
  intro _
  exact Keeps.bind (fun d => LogExtends.allowsChanges.newObject d type.name) fun _ => .pure _

theorem notes_selectInstance (h : Handle) (name signature : String) (args : List Value)
    (thread : ThreadId) :
    Notes (selectInstance h name signature args thread : Remote η (Callee η)) := by
  apply Notes.bind_silent (silent_checkInvocable thread)
  intro _
  apply Notes.bind_silent (silent_heapObject h)
  intro object
  apply Notes.log_bind
  intro _
  refine (Keeps.read _).bind fun found => ?_
  split
  · exact .pure _
  · exact (Keeps.require _ _).bind fun _ => .pure _

theorem notes_selectStatic (type : TypeRef) (name signature : String) (args : List Value)
    (thread : ThreadId) :
    Notes (selectStatic type name signature args thread : Remote η (Callee η)) := by
  apply Notes.bind_silent (silent_checkInvocable thread)
  intro _
  apply Notes.log_bind
  intro _
  exact (Keeps.demand _ _).bind fun _ => .pure _

theorem notes_newArray (type : TypeRef) (length : Nat) :
    Notes (newArray type length : Remote η Handle) := by
  apply Notes.bind_silent silent_checkAlive
  intro _
  split
  · exact .fail _
  · apply Notes.log_bind
    intro _ d
    exact LogExtends.allowsChanges.newArrayOf d _ _

end Remote

inductive Write where
  | cell (c : Cell) (value : Value)
  | element (h : Handle) (index : Nat) (value : Value)

def Write.send : Write → Remote η Unit
  | cell c value => c.set value
  | element h index value => Remote.setElement h index value

theorem Cell.log_set {c : Cell} (h : c.set value d = (.ok (), d')) :
    ∃ entry, d'.calls = d.calls ++ [entry] := by
  cases c with
  | inFrame thread frame name =>
    obtain ⟨-, -, t, f, -, -, -, -, rfl⟩ := Remote.setLocal_eq_ok.1 h
    exact ⟨_, rfl⟩
  | inObject h name =>
    obtain ⟨-, -, object, fields, -, -, -, rfl⟩ := Remote.setField_eq_ok.1 h
    exact ⟨_, rfl⟩
  | inType type name =>
    obtain ⟨-, -, owner, old, -, rfl⟩ := Remote.setStatic_eq_ok.1 h
    exact ⟨_, rfl⟩

theorem Write.send_cases (write : Write) (d : Debuggee η) :
    (∃ e, write.send d = (.error e, d)) ∨
      ∃ entry d', write.send d = (.ok (), d') ∧ d'.calls = d.calls ++ [entry] := by
  cases write with
  | cell c value =>
    cases hget : (c.get d).1 with
    | error e => exact .inl ⟨e, c.accessor.fails hget value⟩
    | ok old =>
      obtain ⟨d', hset, -⟩ := c.accessor.writes hget value
      obtain ⟨entry, hentry⟩ := Cell.log_set hset
      exact .inr ⟨entry, d', hset, hentry⟩
  | element h index value =>
    have hfind := Remote.silent_heapObject (η := η) h
    cases hobject : (Remote.heapObject h d).1 with
    | error e => exact .inl ⟨e, hfind.bind_error hobject _⟩
    | ok object =>
      have hsend : (element h index value).send d = _ := hfind.bind_ok hobject _
      rw [hsend]
      cases object.content with
      | elements elements =>
        by_cases hindex : index < elements.length
        · right
          simp only [Action.bind_apply, Action.require, hindex, if_true]
          exact ⟨_, _, rfl, rfl⟩
        · left
          simp only [Action.bind_apply, Action.require, hindex, if_false]
          exact ⟨_, rfl⟩
      | fields fields => exact .inl ⟨_, rfl⟩
      | text text => exact .inl ⟨_, rfl⟩

theorem Write.notes (write : Write) : Remote.Notes (write.send : Remote η Unit) := by
  intro d
  rcases write.send_cases d with herror | ⟨entry, d', hsend, hcalls⟩
  · exact .inl herror
  · right
    rw [hsend, Logged, hcalls, List.length_append]
    exact Nat.lt_succ_self _

open Remote in
/-- Every request either leaves an entry in the log or makes additions only. -/
theorem Request.recorded_send (r : Request η α) : Keeps Recorded r.send := by
  have hnoted {r : Request η α} (h : Notes r.send) : Keeps Recorded r.send :=
    h.recorded (r.keeps_send Grows.allowsChanges)
  cases r with
  | construct type signature args thread =>
    exact hnoted (notes_construct type signature args thread)
  | selectInstance h name signature args thread =>
    exact hnoted (notes_selectInstance h name signature args thread)
  | selectStatic type name signature args thread =>
    exact hnoted (notes_selectStatic type name signature args thread)
  | setField h name value => exact hnoted (Write.notes (.cell (.inObject h name) value))
  | setStatic type name value => exact hnoted (Write.notes (.cell (.inType type name) value))
  | setElement h index value => exact hnoted (Write.notes (.element h index value))
  | newArray type length => exact hnoted (notes_newArray type length)
  | setLocal thread frame name value =>
    exact hnoted (Write.notes (.cell (.inFrame thread frame name) value))
  | _ => exact keeps_send_of_looks Recorded.allowsAdditions _ rfl

end Probe

import Probe.Proofs.Debuggee.Arrays
import Probe.Proofs.Debuggee.Identity
import Probe.Proofs.Machine.Calls
import Probe.Proofs.Machine.StackLimit
import Probe.Proofs.Machine.TypeTests
import Probe.Proofs.Machine.Variables
import Probe.Proofs.Operator.Integral

namespace Probe
set_option autoImplicit true

open Probe.Action (Keeps Silent)

/-- The value can be the index or the size of an array: it stands for an integer and is of an
integral kind other than `long`. -/
def Value.Counts (v : Value) (i : Int) : Prop := ∃ k, k ≠ .long ∧ v.Denotes k i

theorem Value.Counts.unique (h : Counts v i) (h' : Counts v j) : i = j := by
  obtain ⟨_, -, h⟩ := h
  obtain ⟨_, -, h'⟩ := h'
  exact h.integer_eq h'

theorem Machine.index?_eq_some_iff : index? v = some i ↔ v.Counts i := by
  constructor
  · intro h
    cases v with
    | byte => exact ⟨.byte, by decide, .byte (Option.some.inj h)⟩
    | char => exact ⟨.char, by decide, .char (Option.some.inj h)⟩
    | short => exact ⟨.short, by decide, .short (Option.some.inj h)⟩
    | int => exact ⟨.int, by decide, .int (Option.some.inj h)⟩
    | _ => cases h
  · rintro ⟨k, hk, h⟩
    cases h with
    | long => exact absurd rfl hk
    | byte h | char h | short h | int h => exact congrArg some h

instance decidableCounts (v : Value) (i : Int) : Decidable (v.Counts i) :=
  decidable_of_iff _ Machine.index?_eq_some_iff

theorem Value.Counts.lt (h : Counts v i) : i < 0x80000000 := by
  obtain ⟨k, hk, h⟩ := h
  have hlt := h.holds.2
  cases h with
  | long => exact absurd rfl hk
  | byte | char | short | int =>
    simp [Kind.least, Kind.width] at hlt
    omega

open Debuggee (HoldsArray Spared Spares elementsOf)

namespace Machine

inductive ArrayOp where
  | create (arrayType : String) (size : Value)
  | length (array : Value)
  | load (array index : Value)
  | store (array index value : Value)

namespace ArrayOp

def instruction : ArrayOp → Instruction
  | create arrayType _ => .newArray arrayType
  | length _ => .arrayLength
  | load .. => .loadElement
  | store .. => .storeElement

def operands : ArrayOp → List Value
  | create _ size => [size]
  | length array => [array]
  | load array index => [index, array]
  | store array index value => [value, index, array]

/-- What an operation does once its operands are taken off the stack. -/
def perform : ArrayOp → Exec η κ Value
  | create arrayType size => do
    let length ← arraySize size
    let type ← remote (Remote.classByName arrayType)
    return .object (← remote (Remote.newArray type length))
  | length array => do
    let h ← arrayHandle array .readLength
    return lengthValue (← remote (Remote.arrayLength h))
  | load array index => do
    let place ← slot array index .loadElement
    remote (Remote.getElement place.1 place.2)
  | store array index value => do
    let place ← slot array index .storeElement
    remote (Remote.setElement place.1 place.2 value)
    return value

/-- The value that an operation means to put at an index of an object. -/
def written? (id : ObjectId) (i : Int) : ArrayOp → Option Value
  | store (.object a) index value =>
    if a.id = id ∧ a.isArray = true ∧ index.Counts i then some value else none
  | _ => none

theorem written?_eq_some {op : ArrayOp} {id : ObjectId} (h : op.written? id i = some v) :
    ∃ a index, op = store (.object a) index v ∧ a.id = id ∧ a.isArray = true ∧
      index.Counts i := by
  unfold written? at h
  split at h
  · split at h
    · cases h
      exact ⟨_, _, rfl, ‹_›⟩
    · cases h
  · cases h

end ArrayOp

/-- A machine that is about to execute an instruction: all but its operands and the world. There
is room for the result. -/
structure Context (η κ : Type) where
  setup : Setup η κ
  pc : Nat
  rest : List Operand
  names : Table String Value
  room : rest.length < setup.maxStack

namespace Context
variable (c : Context η κ) (op : ArrayOp) (w : World η κ)

def state : State η κ := ⟨c.rest, c.names, w⟩

def execute : Except (Abrupt Failure) (Option Nat) × State η κ :=
  Machine.execute c.setup ⟨c.pc, op.instruction⟩
    ⟨op.operands.map .value ++ c.rest, c.names, w⟩

/-- The operation puts a value in the place of its operands and leaves the other world. -/
def Gives (v : Value) (w' : World η κ) : Prop :=
  c.execute op w = (.ok none, ⟨.value v :: c.rest, c.names, w'⟩)

/-- The operation fails and leaves the world as it was. -/
def Refuses (e : ExpressionError) : Prop :=
  (c.execute op w).1 = .error (.error (.expression e)) ∧ (c.execute op w).2.world = w

theorem execute_eq : c.execute op w =
    (op.perform >>= fun v => pushValue c.setup ⟨c.pc, op.instruction⟩ v >>= fun _ => pure none)
      (c.state w) := by
  cases op with
  | create | length | load | store =>
    unfold execute
    rw [execute_of_target?_none rfl]
    simp only [ArrayOp.perform, ArrayOp.operands, ArrayOp.instruction, effect,
      bind_assoc, pure_bind]
    rfl

variable {c op w}

theorem gives_of_perform (h : op.perform (c.state w) = (.ok v, c.state w')) :
    c.Gives op w v w' := by
  have hpush := push_of_room (s := c.state w') c.room ⟨c.pc, op.instruction⟩ (.value v)
  rw [Gives, execute_eq, Action.bind_of_ok h, pushValue, Action.bind_of_ok hpush]
  rfl

theorem refuses_of_perform
    (h : op.perform (c.state w) = (.error (.error (.expression e)), c.state w)) :
    c.Refuses op w e := by
  rw [Refuses, execute_eq, Action.bind_of_error h]
  exact ⟨rfl, rfl⟩

/-- Whether there is room for the result makes no difference to the world. -/
theorem world_execute (c : Context η κ) (op : ArrayOp) (w : World η κ) :
    (c.execute op w).2.world = (op.perform (c.state w)).2.world := by
  have hpush (v : Value) : Keeps Inside
      (pushValue c.setup ⟨c.pc, op.instruction⟩ v >>= fun _ => pure (none : Option Nat)) :=
    (inside_pushValue c.setup _ v).bind fun _ => .pure _
  rw [execute_eq, Action.bind_apply]
  rcases op.perform (c.state w) with ⟨_ | v, s⟩
  · rfl
  · exact (hpush v s).symm

end Context

section
variable {s s' : State η κ}

theorem silent_slot (array index : Value) (use : NullUse) :
    Silent (slot array index use : Exec η κ (Handle × Nat)) := by
  refine (silent_arrayHandle array use).bind fun a => ?_
  split
  · exact .fail _
  · exact (silent_remote (Remote.silent_arrayLength a)).bind fun _ =>
      (Keeps.require _ _).bind fun _ => .pure _

theorem arrayHandle_of_isArray (ha : Handle.isArray a = true) (use : NullUse) :
    arrayHandle (.object a) use s = (.ok a, s) := by
  rw [arrayHandle, if_pos ha]
  rfl

theorem arrayHandle_eq_ok (h : arrayHandle v use s = (.ok a, s')) :
    s' = s ∧ v = .object a ∧ a.isArray = true := by
  cases v with
  | object b =>
    rw [arrayHandle] at h
    split at h
    · cases h
      exact ⟨rfl, rfl, ‹_›⟩
    · cases h
  | _ => cases h

/-- The bounds are checked against the integer, before it becomes a position. -/
theorem slot_of_elements (ha : a.isArray = true) (hi : Value.Counts index i)
    (h : Remote.elements a s.world.debuggee = (.ok l, s.world.debuggee)) (use : NullUse) :
    slot (.object a) index use s = (if 0 ≤ i ∧ i < l.length then .ok (a, i.toNat)
      else .error (.error (.expression (.indexOutOfBounds i l.length))), s) := by
  have hlength := remote_of_ok (Remote.arrayLength_of_elements h)
  rw [slot, Action.bind_of_ok (arrayHandle_of_isArray ha use), index?_eq_some_iff.2 hi]
  simp only [Action.bind_apply, hlength, require, Action.require]
  by_cases hin : 0 ≤ i ∧ i < l.length
  · simp only [hin, and_self, if_true]
    rfl
  · simp only [hin, if_false]

theorem slot_eq_ok (h : slot array index use s = (.ok (a, k), s')) :
    s' = s ∧ array = .object a ∧ a.isArray = true ∧ Value.Counts index k ∧
      ∃ l, Remote.elements a s.world.debuggee = (.ok l, s.world.debuggee) ∧ k < l.length := by
  obtain ⟨b, _, hhandle, hrest⟩ := Action.bind_eq_ok.1 h
  obtain ⟨rfl, rfl, hb⟩ := arrayHandle_eq_ok hhandle
  cases hi : index? index with
  | none =>
    rw [hi] at hrest
    cases hrest
  | some i =>
    rw [hi] at hrest
    obtain ⟨length, _, hasked, hchecked⟩ := Action.bind_eq_ok.1 hrest
    obtain ⟨_, _, hbounds, hdone⟩ := Action.bind_eq_ok.1 hchecked
    obtain ⟨rfl, hlower, hupper⟩ := Action.require_eq_ok.1 hbounds
    cases hdone
    obtain ⟨_, hlength, rfl⟩ := remote_eq_ok.1 hasked
    obtain ⟨l, _, hl, hdone⟩ := Action.bind_eq_ok.1 hlength
    cases hdone
    obtain ⟨rfl, -⟩ := Remote.elements_eq_ok.1 hl
    refine ⟨rfl, rfl, hb, ?_, l, hl, by omega⟩
    rw [Int.toNat_of_nonneg hlower]
    exact index?_eq_some_iff.1 hi

namespace ArrayOp

theorem perform_store (ha : a.isArray = true) (hi : Value.Counts index (k : Nat))
    (halive : s.world.debuggee.alive = true) (hconnected : s.world.debuggee.connected = true)
    (ho : s.world.debuggee.objects.get? a.id = some ⟨typeName, .elements l⟩) (hk : k < l.length)
    (v : Value) : ∃ entry, (store (.object a) index v).perform s =
      (.ok v, s.withDebuggee (s.world.debuggee.rewrite a.id typeName (l.set k v) entry)) := by
  have hl := Remote.elements_eq_ok.2 ⟨rfl, halive, hconnected, typeName, ho⟩
  have hslot := slot_of_elements ha hi hl .storeElement
  rw [if_pos ⟨Int.natCast_nonneg k, Int.ofNat_lt.2 hk⟩, Int.toNat_natCast] at hslot
  obtain ⟨entry, hset⟩ := Remote.setElement_of_elements halive hconnected ho hk v
  refine ⟨entry, ?_⟩
  rw [perform, Action.bind_of_ok hslot, Action.bind_apply, remote_apply, hset]
  rfl

/-- A store that has an effect writes one element of the array it names. -/
theorem perform_store_cases (array index v : Value) (s : State η κ) :
    ((store array index v).perform s).2 = s ∨
    ∃ a k typeName l entry, array = .object a ∧ a.isArray = true ∧ index.Counts (k : Nat) ∧
      s.world.debuggee.objects.get? a.id = some ⟨typeName, .elements l⟩ ∧ k < l.length ∧
      (store array index v).perform s =
        (.ok v, s.withDebuggee (s.world.debuggee.rewrite a.id typeName (l.set k v) entry)) := by
  rcases hslot : slot array index .storeElement s with ⟨e | ⟨a, k⟩, s'⟩
  · have hsilent := silent_slot array index .storeElement s
    rw [hslot] at hsilent
    rw [perform, Action.bind_of_error hslot]
    exact .inl hsilent.symm
  · obtain ⟨rfl, rfl, ha, hi, l, hl, hk⟩ := slot_eq_ok hslot
    obtain ⟨-, halive, hconnected, typeName, ho⟩ := Remote.elements_eq_ok.1 hl
    obtain ⟨entry, hstore⟩ := perform_store ha hi halive hconnected ho hk v
    exact .inr ⟨a, k, typeName, l, entry, rfl, ha, hi, ho, hk, hstore⟩

theorem silent_length (array : Value) : Silent (perform (length array) : Exec η κ Value) :=
  (silent_arrayHandle array _).bind fun a =>
    (silent_remote (Remote.silent_arrayLength a)).bind fun _ => .pure _

theorem silent_load (array index : Value) :
    Silent (perform (load array index) : Exec η κ Value) :=
  (silent_slot array index _).bind fun _ => silent_remote (Remote.silent_getElement _ _)

theorem spares_create (id : ObjectId) (arrayType : String) (size : Value) :
    Keeps (Seen (World.Across κ (Spares id)))
      (perform (create arrayType size) : Exec η κ Value) := by
  have hsize : Silent (arraySize size : Exec η κ Nat) := by
    unfold arraySize
    split
    · split
      · exact .fail _
      · exact .pure _
    · exact .fail _
  have hremote {α : Type} {r : Remote η α} (h : Keeps (Spares id) r) :
      Keeps (Seen (World.Across κ (Spares id))) (remote r) := seen_call (World.keeps_remote h)
  have htype : Keeps (Spares id) (Remote.classByName arrayType : Remote η TypeRef) :=
    (Remote.keeps_classByName Spared.allowsAdditions arrayType).mono fun _ _ => Spared.spares
  exact (Keeps.of_silent hsize).bind fun n => (hremote htype).bind fun type =>
    (hremote (Remote.spares_newArray id type n)).bind fun _ => .pure _

theorem spares_perform (op : ArrayOp) (id : ObjectId) (s : State η κ)
    (hmiss : ∀ typeName l, s.world.debuggee.objects.get? id = some ⟨typeName, .elements l⟩ →
      ∀ k : Nat, k < l.length → op.written? id k = none) :
    Seen (World.Across κ (Spares id)) s (op.perform s).2 := by
  cases op with
  | create arrayType size => exact spares_create id arrayType size s
  | length array => exact Keeps.of_silent (silent_length array) s
  | load array index => exact Keeps.of_silent (silent_load array index) s
  | store array index v =>
    rcases perform_store_cases array index v s with hsame |
      ⟨a, k, typeName, l, entry, rfl, ha, hi, ho, hk, hstore⟩
    · rw [hsame]
      exact refl s
    · have hne : a.id ≠ id := by
        rintro rfl
        have hnone := hmiss typeName l ho k hk
        simp [written?, ha, hi] at hnone
      rw [hstore]
      exact Debuggee.spares_rewrite ho hne typeName (l.set k v) entry

end ArrayOp

end

/-- The world after operations on arrays, each by a machine of its own. What fails is passed
over. -/
def replay (w : World η κ) : List (Context η κ × ArrayOp) → World η κ
  | [] => w
  | (c, op) :: later => replay (c.execute op w).2.world later

/-- The value that was last written to an index of an object. -/
def lastWritten? (id : ObjectId) (i : Int) (history : List (Context η κ × ArrayOp)) :
    Option Value :=
  history.reverse.findSome? fun step => step.2.written? id i

theorem lastWritten?_cons (id : ObjectId) (i : Int) (step : Context η κ × ArrayOp)
    (later : List (Context η κ × ArrayOp)) :
    lastWritten? id i (step :: later) = (lastWritten? id i later).or (step.2.written? id i) := by
  simp [lastWritten?, List.findSome?_append]

section
variable {w : World η κ} {id : ObjectId} {get : Int → Value}

theorem holdsArray_execute (h : w.debuggee.HoldsArray id n get) (c : Context η κ)
    (op : ArrayOp) :
    (c.execute op w).2.world.debuggee.HoldsArray id n
      fun i => (op.written? id i).getD (get i) := by
  rw [Context.world_execute]
  obtain ⟨typeName, ho⟩ := h.object
  by_cases hhit : ∃ k : Nat, k < n ∧ ∃ v, op.written? id k = some v
  · obtain ⟨k, hk, v, hv⟩ := hhit
    obtain ⟨a, index, rfl, rfl, ha, hi⟩ := ArrayOp.written?_eq_some hv
    have hlength : k < (elementsOf n get).length := by rwa [Debuggee.length_elementsOf]
    obtain ⟨entry, hstore⟩ := ArrayOp.perform_store (s := c.state w) ha hi h.alive h.connected ho
      hlength v
    have hwritten (i : Nat) : (if (i : Int) = k then v else get i) =
        ((ArrayOp.store (.object a) index v).written? a.id i).getD (get i) := by
      by_cases hik : (i : Int) = k
      · rw [if_pos hik, hik, hv]
        rfl
      · have hother : ¬index.Counts i := fun hindex => hik (hindex.unique hi)
        simp [ArrayOp.written?, hik, hother]
    have helements : (elementsOf n get).set k v = elementsOf n fun i =>
        ((ArrayOp.store (.object a) index v).written? a.id i).getD (get i) := by
      rw [Debuggee.set_elementsOf]
      exact Debuggee.elementsOf_congr fun i _ => hwritten i
    rw [hstore, helements]
    exact ⟨h.alive, h.connected, h.sound.rewrite ho _ _ _, typeName,
      Debuggee.get?_rewrite_self _ _ _ _ _⟩
  · have hmiss (k : Nat) (hk : k < n) : op.written? id k = none := by
      cases hv : op.written? id k with
      | none => rfl
      | some v => exact absurd ⟨k, hk, v, hv⟩ hhit
    have hspares := op.spares_perform id (c.state w) fun typeName' l hl k hk => by
      obtain ⟨-, rfl⟩ : typeName = typeName' ∧ elementsOf n get = l := by
        simpa using ho.symm.trans hl
      exact hmiss k (by rwa [Debuggee.length_elementsOf] at hk)
    apply HoldsArray.congr (h.of_spares hspares)
    intro i hi
    rw [hmiss i hi]
    rfl

/-- After any operations every element is the one written last, or else the one before them. -/
theorem holdsArray_replay (h : w.debuggee.HoldsArray id n get)
    (history : List (Context η κ × ArrayOp)) : (replay w history).debuggee.HoldsArray id n
      fun i => (lastWritten? id i history).getD (get i) := by
  induction history generalizing w get with
  | nil => exact h
  | cons step later ih =>
    obtain ⟨c, op⟩ := step
    apply HoldsArray.congr (ih (holdsArray_execute h c op))
    intro i _
    rw [lastWritten?_cons, Option.getD_or]

/-- In this world the instructions find an array of the given length and elements. -/
structure ActsAsArray (w : World η κ) (h : Handle) (n : Nat) (get : Int → Value) : Prop where
  length : ∀ c : Context η κ, ∃ v, v.Denotes .int n ∧ c.Gives (.length (.object h)) w v w
  load : ∀ (c : Context η κ) (index : Value) (i : Int), index.Counts i → 0 ≤ i → i < n →
    c.Gives (.load (.object h) index) w (get i) w
  store : ∀ (c : Context η κ) (index : Value) (i : Int) v, index.Counts i → 0 ≤ i → i < n →
    ∃ w', c.Gives (.store (.object h) index v) w v w'
  outside : ∀ (c : Context η κ) (index : Value) (i : Int), index.Counts i → i < 0 ∨ n ≤ i →
    c.Refuses (.load (.object h) index) w (.indexOutOfBounds i n) ∧
    ∀ v, c.Refuses (.store (.object h) index v) w (.indexOutOfBounds i n)

theorem lengthValue_denotes (h : n < 0x80000000) : (lengthValue n).Denotes .int n := by
  apply Value.Denotes.int
  rw [Nat.min_eq_left (by omega)]
  exact Int32.toInt_ofNat_of_lt h

theorem actsAsArray {a : Handle} (ha : a.isArray = true)
    (h : w.debuggee.HoldsArray a.id n get) (hn : n < 0x80000000) : ActsAsArray w a n get := by
  obtain ⟨typeName, ho⟩ := h.object
  have hl := Remote.elements_eq_ok.2 ⟨rfl, h.alive, h.connected, typeName, ho⟩
  have hslot (c : Context η κ) (index : Value) (i : Int) (hi : index.Counts i) :=
    slot_of_elements (s := c.state w) ha hi hl
  simp only [Debuggee.length_elementsOf] at hslot
  constructor
  case length =>
    intro c
    refine ⟨_, lengthValue_denotes hn, Context.gives_of_perform ?_⟩
    have hlength := remote_of_ok (s := c.state w) (Remote.arrayLength_of_elements hl)
    rw [Debuggee.length_elementsOf] at hlength
    rw [ArrayOp.perform, Action.bind_of_ok (arrayHandle_of_isArray ha _),
      Action.bind_of_ok hlength]
    rfl
  case load =>
    intro c index i hi hlower hupper
    obtain ⟨k, rfl⟩ := Int.eq_ofNat_of_zero_le hlower
    have hplace := hslot c index k hi .loadElement
    rw [if_pos ⟨hlower, hupper⟩, Int.toNat_natCast] at hplace
    have hget := Debuggee.getElem?_elementsOf get (Int.ofNat_lt.1 hupper)
    apply Context.gives_of_perform
    rw [ArrayOp.perform, Action.bind_of_ok hplace]
    exact remote_of_ok (Remote.getElement_of_elements hl hget)
  case store =>
    intro c index i v hi hlower hupper
    obtain ⟨k, rfl⟩ := Int.eq_ofNat_of_zero_le hlower
    have hk : k < (elementsOf n get).length := by
      rw [Debuggee.length_elementsOf]
      exact Int.ofNat_lt.1 hupper
    obtain ⟨entry, hstore⟩ := ArrayOp.perform_store (s := c.state w) ha hi h.alive h.connected ho
      hk v
    exact ⟨_, Context.gives_of_perform hstore⟩
  case outside =>
    intro c index i hi hout
    have hbounds : ¬(0 ≤ i ∧ i < n) := by omega
    have hplace (use : NullUse) := hslot c index i hi use
    simp only [hbounds, if_false] at hplace
    constructor
    · apply Context.refuses_of_perform
      rw [ArrayOp.perform, Action.bind_of_error (hplace _)]
    · intro v
      apply Context.refuses_of_perform
      rw [ArrayOp.perform, Action.bind_of_error (hplace _)]

end

section
variable {s : State η κ}

theorem arraySize_of_counts (h : Value.Counts size (n : Nat)) :
    arraySize size s = (.ok n, s) := by
  rw [arraySize, index?_eq_some_iff.2 h]
  simp only [Int.not_lt.2 (Int.natCast_nonneg n), if_false]
  rfl

theorem arraySize_of_negative (h : Value.Counts size i) (hi : i < 0) :
    arraySize size s = (.error (.error (.expression (.negativeArraySize i))), s) := by
  rw [arraySize, index?_eq_some_iff.2 h]
  simp only [hi, if_true]
  rfl

theorem perform_create (hd : s.world.debuggee.Sound) (halive : s.world.debuggee.alive = true)
    (hconnected : s.world.debuggee.connected = true)
    (hload : s.world.debuggee.classes.Loadable (component ++ "[]"))
    (hsize : Value.Counts size (n : Nat)) :
    ∃ h d', (ArrayOp.create (component ++ "[]") size).perform s =
        (.ok (.object h), s.withDebuggee d') ∧
      h.typeName = component ++ "[]" ∧ s.world.debuggee.nextId ≤ h.id ∧
      s.world.debuggee.Kept d' ∧ d'.HoldsArray h.id n fun _ => .default component := by
  obtain ⟨type, d₁, htype, hname, -⟩ := Remote.typeNamed_of_loadable hload
  have hfound := Remote.classByName_eq_ok.2 ⟨halive, hconnected, htype⟩
  have hspared : Spared s.world.debuggee d₁ := by
    have hkeeps := Remote.keeps_classByName Spared.allowsAdditions (component ++ "[]")
      s.world.debuggee
    rwa [hfound] at hkeeps
  obtain ⟨hd₁, huntouched⟩ := hspared hd
  obtain ⟨h, d', hnew, htypeName, hid, hkept, harray⟩ := Remote.newArray_of_component hd₁
    (huntouched.alive.trans halive) (huntouched.connected.trans hconnected) hname n
  refine ⟨h, d', ?_, htypeName, hid ▸ huntouched.nextId_le,
    huntouched.toKept.trans hkept, harray⟩
  have hasked := remote_eq_ok.2 ⟨d₁, hfound, rfl⟩
  have hmade := (remote_eq_ok (s := s.withDebuggee d₁)).2 ⟨d', hnew, rfl⟩
  rw [ArrayOp.perform, Action.bind_of_ok (arraySize_of_counts hsize), Action.bind_of_ok hasked,
    Action.bind_of_ok hmade]
  rfl

end

/-- The instructions on arrays implement arrays. A negative size is refused. Any other size
gives a new array, which has that length and, at every index inside it, the value that was last
written there, or else the default of its component type, whatever operations on arrays follow.
An index outside is refused, and a store changes no object but the array it names. -/
theorem arrays_hold_last_written (w : World η κ) (component : String)
    (hw : w.debuggee.Reachable) (ha : w.debuggee.alive = true) (hc : w.debuggee.connected = true)
    (hload : w.debuggee.classes.Loadable (component ++ "[]")) :
    (∀ (c : Context η κ) (size : Value) (n : Int), size.Counts n → n < 0 →
      c.Refuses (.create (component ++ "[]") size) w (.negativeArraySize n)) ∧
    (∀ (c : Context η κ) (size : Value) (n : Nat), size.Counts n → ∃ h w₁,
      c.Gives (.create (component ++ "[]") size) w (.object h) w₁ ∧
      h.typeName = component ++ "[]" ∧ (∀ x, w.debuggee.idOf x ≠ some h.id) ∧
      w.debuggee.Kept w₁.debuggee ∧
      ∀ history, ActsAsArray (replay w₁ history) h n fun i =>
        (lastWritten? h.id i history).getD (.default component)) ∧
    ∀ (c : Context η κ) (array index v : Value) (w : World η κ) (id : ObjectId),
      (∀ a, array = .object a → a.id ≠ id) →
      (c.execute (.store array index v) w).2.world.debuggee.objects.get? id =
        w.debuggee.objects.get? id := by
  refine ⟨?_, ?_, ?_⟩
  · intro c size n hsize hn
    apply Context.refuses_of_perform
    rw [ArrayOp.perform, Action.bind_of_error (arraySize_of_negative hsize hn)]
  · intro c size n hsize
    obtain ⟨h, d', hcreate, hname, hfresh, hkept, harray⟩ :=
      perform_create (s := c.state w) hw.sound ha hc hload hsize
    have hisArray : h.isArray = true := by
      rw [Handle.isArray, hname, TypeName.isArray_array]
    have hlength : n < 0x80000000 := Int.ofNat_lt.1 hsize.lt
    refine ⟨h, { w with debuggee := d' }, Context.gives_of_perform hcreate, hname, ?_, hkept, ?_⟩
    · intro x hx
      exact absurd (hw.identified.lt_nextId hx) (Nat.not_lt_of_le hfresh)
    · intro history
      exact actsAsArray hisArray (holdsArray_replay harray history) hlength
  · intro c array index v w id hother
    rw [Context.world_execute]
    rcases ArrayOp.perform_store_cases array index v (c.state w) with hsame |
      ⟨a, k, typeName, l, entry, rfl, -, -, -, -, hstore⟩
    · rw [hsame]
      rfl
    · rw [hstore]
      exact Debuggee.get?_rewrite_of_ne (hother a rfl) _ _ _ _

def bareContext : Context Unit Unit := ⟨shallowSetup, 0, [], .empty, Nat.succ_pos 1⟩

def threeStores (h : Handle) : List (Context Unit Unit × ArrayOp) :=
  [(bareContext, .store (.object h) (.char 1) (.int 5)),
    (bareContext, .store (.object h) (.byte 1) (.int 7)),
    (bareContext, .store (.object h) (.int 2) (.int 9))]

theorem arrays_hold_last_written_three :
    numberWorld.debuggee.Reachable ∧
    numberWorld.debuggee.classes.Loadable ("int" ++ "[]") ∧
    bareContext.Refuses (.create ("int" ++ "[]") (.byte (-1))) numberWorld
      (.negativeArraySize (-1)) ∧
    ∃ h w₁, bareContext.Gives (.create ("int" ++ "[]") (.short 2)) numberWorld (.object h) w₁ ∧
      bareContext.Gives (.load (.object h) (.int 0)) (replay w₁ (threeStores h)) (.int 0)
        (replay w₁ (threeStores h)) ∧
      bareContext.Gives (.load (.object h) (.int 1)) (replay w₁ (threeStores h)) (.int 7)
        (replay w₁ (threeStores h)) ∧
      bareContext.Refuses (.load (.object h) (.int 2)) (replay w₁ (threeStores h))
        (.indexOutOfBounds 2 2) := by
  have hint (i : Int32) : (Value.int i).Counts i.toInt := ⟨.int, by decide, .int rfl⟩
  have hload : numberWorld.debuggee.classes.Loadable ("int" ++ "[]") := .primitive rfl
  obtain ⟨hnegative, hcreate, -⟩ :=
    arrays_hold_last_written numberWorld "int" numberWorld_reachable rfl rfl hload
  obtain ⟨h, w₁, hgives, hname, -, -, hacts⟩ :=
    hcreate bareContext (.short 2) 2 ⟨.short, by decide, .short rfl⟩
  have harray : h.isArray = true := by rw [Handle.isArray, hname, TypeName.isArray_array]
  have hlast (i : Int) : lastWritten? h.id i (threeStores h) =
      [(Value.int 2, Value.int 9), (.byte 1, .int 7), (.char 1, .int 5)].findSome? fun e =>
        if e.1.Counts i then some e.2 else none := by
    simp [lastWritten?, threeStores, ArrayOp.written?, harray, List.findSome?_cons]
  have hnever : lastWritten? h.id 0 (threeStores h) = none := (hlast 0).trans (by decide)
  have htwice : lastWritten? h.id 1 (threeStores h) = some (.int 7) :=
    (hlast 1).trans (by decide)
  have hfirst := (hacts (threeStores h)).load bareContext (.int 0) 0 (hint 0) (by decide)
    (by decide)
  have hsecond := (hacts (threeStores h)).load bareContext (.int 1) 1 (hint 1) (by decide)
    (by decide)
  have hend := (hacts (threeStores h)).outside bareContext (.int 2) 2 (hint 2) (.inr (by decide))
  rw [hnever] at hfirst
  rw [htwice] at hsecond
  exact ⟨numberWorld_reachable, hload,
    hnegative bareContext (.byte (-1)) (-1) ⟨.byte, by decide, .byte rfl⟩ (by decide),
    h, w₁, hgives, hfirst, hsecond, hend.1⟩

end Machine

end Probe

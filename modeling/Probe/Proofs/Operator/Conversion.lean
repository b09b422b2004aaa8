import Probe.Operator.Convert
import Probe.Proofs.Operator.Integral

namespace Probe
set_option autoImplicit true

theorem Number.Denotes.toInt_integral (h : Denotes p k n) (t : Kind) :
    (p.integral t).toInt = n := by
  cases h with
  | int h => exact (Int32.toInt_toInt64 _).trans h
  | long h => exact h

theorem toNat_toCodeUnit (x : Int64) :
    (x.toUInt64.toUInt16.toNat : Int) = Kind.char.wrap x.toInt := by
  have hlow : x.toUInt64.toUInt16.toNat = x.toBitVec.toNat % 2 ^ 16 := UInt64.toNat_toUInt16 _
  have hx : x.toInt = (x.toBitVec.toNat : Int).bmod (2 ^ 64) := BitVec.toInt_eq_toNat_bmod _
  have hwrap : Kind.char.wrap x.toInt = 0 + (x.toInt - 0) % 2 ^ 16 := rfl
  rw [hwrap, hx, Int.bmod_def, hlow]
  omega

theorem Number.Denotes.convert? (h : Denotes p k n) (ht : t.isIntegral = true) :
    ∃ u, p.convert? t = some u ∧ u.Denotes t (t.wrap n) := by
  have hn := h.toInt_integral t
  cases t with
  | byte =>
    refine ⟨_, rfl, .byte ?_⟩
    rw [Int64.toInt_toInt8, hn, Kind.wrap_eq_bmod (by decide)]
    rfl
  | char =>
    refine ⟨_, rfl, .char ?_⟩
    rw [toNat_toCodeUnit, hn]
  | short =>
    refine ⟨_, rfl, .short ?_⟩
    rw [Int64.toInt_toInt16, hn, Kind.wrap_eq_bmod (by decide)]
    rfl
  | int =>
    refine ⟨_, rfl, .int ?_⟩
    rw [Int64.toInt_toInt32, hn, Kind.wrap_eq_bmod (by decide)]
    rfl
  | long =>
    have hlong : Value.Denotes (.long (p.integral .long)) .long n := .long hn
    rw [hlong.holds.wrap_eq]
    exact ⟨_, rfl, hlong⟩
  | boolean | float | double => cases ht

namespace Value

theorem convert?_of_number? (h : number? v = some p) (t : Kind) :
    v.convert? t = p.convert? t := by
  cases v <;> cases h <;> rfl

theorem Denotes.convert (h : Denotes v k n) (ht : t.isIntegral = true) :
    Yields (v.convert t) t (t.wrap n) := by
  obtain ⟨p, hp, hpn⟩ := h.number?
  obtain ⟨u, hu, hut⟩ := hpn.convert? ht
  refine ⟨u, ?_, hut⟩
  rw [Value.convert, convert?_of_number? hp, hu]
  rfl

/-- On the way to a kind, bits may be cut off that the kind would lose in any case. -/
theorem Denotes.convert_convert (h : Denotes v k n) (hm : m.isIntegral = true)
    (ht : t.isIntegral = true) (hw : t.width ≤ m.width) :
    (v.convert m >>= fun u => u.convert t) = v.convert t := by
  have htwice : Yields (v.convert m >>= fun u => u.convert t) t (t.wrap (m.wrap n)) :=
    (h.convert hm).bind fun u hu => hu.convert ht
  rw [Kind.wrap_wrap hw] at htwice
  exact htwice.eq (h.convert ht)

theorem Denotes.convert_of_holds (h : Denotes v k n) (ht : t.isIntegral = true)
    (hn : t.Holds n) :
    Yields (v.convert t) t n := by
  have hconvert := h.convert ht
  rwa [hn.wrap_eq] at hconvert

theorem Denotes.convert_self (h : Denotes v k n) : v.convert k = .ok v :=
  (h.convert_of_holds h.isIntegral h.holds).eq ⟨v, rfl, h⟩

theorem Denotes.convert_eq_ok_iff (h : Denotes v k n) (hu : Denotes u t m) :
    v.convert t = .ok u ↔ m ≡ n [ZMOD 2 ^ t.width] := by
  obtain ⟨u', hu', hut⟩ := h.convert hu.isIntegral
  constructor
  · intro heq
    obtain rfl : u' = u := Except.ok.inj (hu'.symm.trans heq)
    rw [hu.integer_eq hut]
    exact t.wrap_modEq n
  · intro hmod
    rw [← Kind.wrap_congr hmod, hu.holds.wrap_eq] at hut
    rw [hu', hut.unique hu]

theorem convert_of_none {t : Kind} (h : convert? v t = none) :
    v.convert t = .error (.classCast v.typeName t.name) := by
  rw [Value.convert, h]
  rfl

theorem convert?_boolean (b : Bool) (ht : t ≠ .boolean) : (boolean b).convert? t = none := by
  cases t with
  | boolean => exact absurd rfl ht
  | _ => rfl

theorem convert?_to_boolean (hv : kind? v ≠ some .boolean) : v.convert? .boolean = none := by
  cases v with
  | boolean b => exact absurd rfl hv
  | _ => rfl

theorem convert?_of_kind? (hv : kind? v = none) (t : Kind) : v.convert? t = none := by
  cases v <;> cases hv <;> rfl

/-- A conversion between integral kinds gives the one value of the kind whose integer is
congruent. So it can be made in two steps, the first to a kind that is no narrower than the
last. It keeps an integer that the kind can hold, and the way to a wider kind and back changes
nothing. Booleans can be converted to booleans only. Values that are not primitive have no
conversion. -/
theorem conversions_congruent :
    (∀ v k n t, Denotes v k n → t.isIntegral = true →
      (∃ u m, v.convert t = .ok u ∧ u.Denotes t m) ∧
      (∀ u m, u.Denotes t m → (v.convert t = .ok u ↔ m ≡ n [ZMOD 2 ^ t.width])) ∧
      (∀ m, m.isIntegral = true → t.width ≤ m.width →
        (v.convert m >>= fun u => u.convert t) = v.convert t) ∧
      (t.Holds n → Yields (v.convert t) t n) ∧
      (k.width ≤ t.width → (v.convert t >>= fun u => u.convert k) = .ok v)) ∧
    (∀ b, (boolean b).convert .boolean = .ok (boolean b)) ∧
    (∀ b t, t ≠ .boolean → (boolean b).convert t = .error (.classCast "boolean" t.name)) ∧
    (∀ v : Value, v.kind? ≠ some .boolean →
      v.convert .boolean = .error (.classCast v.typeName "boolean")) ∧
    ∀ (v : Value) (t : Kind), v.kind? = none →
      v.convert t = .error (.classCast v.typeName t.name) := by
  refine ⟨?_, fun _ => rfl, fun b t ht => convert_of_none (convert?_boolean b ht),
    fun v hv => convert_of_none (convert?_to_boolean hv),
    fun v t hv => convert_of_none (convert?_of_kind? hv t)⟩
  intro v k n t h ht
  obtain ⟨u, hu, hut⟩ := h.convert ht
  refine ⟨⟨u, _, hu, hut⟩, fun u m hm => h.convert_eq_ok_iff hm,
    fun m hm hw => h.convert_convert hm ht hw, h.convert_of_holds ht, ?_⟩
  intro hw
  rw [h.convert_convert ht h.isIntegral hw, h.convert_self]

theorem conversions_congruent_sign :
    Denotes (int (-1)) .int (-1) ∧ Denotes (byte (-1)) .byte (-1) ∧
    (int (-1)).convert .char = .ok (char 0xffff) ∧
    ((int (-1)).convert .short >>= fun u => u.convert .char) = (int (-1)).convert .char ∧
    ((byte (-1)).convert .char >>= fun u => u.convert .byte) = .ok (byte (-1)) := by
  have hint : Denotes (int (-1)) .int (-1) := .int (by decide)
  have hbyte : Denotes (byte (-1)) .byte (-1) := .byte (by decide)
  obtain ⟨hconvert, -⟩ := conversions_congruent
  obtain ⟨-, hcongruent, hthrough, -⟩ := hconvert _ _ _ .char hint rfl
  obtain ⟨-, -, -, -, hback⟩ := hconvert _ _ _ .char hbyte rfl
  exact ⟨hint, hbyte, (hcongruent (char 0xffff) 0xffff (.char rfl)).2 (by decide),
    hthrough .short rfl (by decide), hback (by decide)⟩

end Value

end Probe

import Mathlib
import Probe.Decimal.Floating

namespace Probe.Decimal
set_option autoImplicit true

/-- A text of one or more decimal digits. -/
@[ext]
structure Digits where
  chars : List Char
  ne_nil : chars ≠ []
  isDigit : ∀ c ∈ chars, c.isDigit = true

def number (digits : List Char) : Nat := Nat.ofDigitChars 10 digits 0

/-- The number with the first digits in front of the point and the others behind it. -/
def fixed (whole fraction : List Char) : ℚ := number whole + number fraction / 10 ^ fraction.length

def signed (negative : Bool) (q : ℚ) : ℚ := if negative then -q else q

/-- Digits, and possibly a point and more digits. -/
structure Positional where
  negative : Bool
  whole : Digits
  fraction : Option Digits

namespace Positional

def decimals (p : Positional) : List Char := (p.fraction.map Digits.chars).getD []

def digits (p : Positional) : List Char := p.whole.chars ++ p.decimals

def text (p : Positional) : String :=
  String.ofList (sign p.negative ++ p.whole.chars ++
    match p.fraction with
    | some f => '.' :: f.chars
    | none => [])

/-- The rational number that the text denotes. -/
def value (p : Positional) : ℚ := signed p.negative (fixed p.whole.chars p.decimals)

end Positional

/-- One digit, a point, more digits without a zero at their end, and a power of ten. -/
@[ext]
structure Scientific where
  negative : Bool
  lead : Char
  lead_isDigit : lead.isDigit = true
  lead_ne_zero : lead ≠ '0'
  fraction : Digits
  trimmed : fraction.chars = ['0'] ∨ fraction.chars.getLast? ≠ some '0'
  exponent : Int

namespace Scientific

def text (n : Scientific) : String :=
  String.ofList (sign n.negative ++ n.lead :: '.' :: n.fraction.chars ++
    'E' :: (toString n.exponent).toList)

/-- The rational number that the text denotes. -/
def value (n : Scientific) : ℚ :=
  signed n.negative (fixed [n.lead] n.fraction.chars * 10 ^ n.exponent)

end Scientific

theorem number_append (ds es : List Char) :
    number (ds ++ es) = number ds * 10 ^ es.length + number es := by
  rw [number, Nat.ofDigitChars_append, Nat.ofDigitChars_eq_ofDigitChars_zero, Nat.mul_comm]
  rfl

theorem number_of_zeros {zs : List Char} (h : ∀ c ∈ zs, c = '0') : number zs = 0 := by
  rw [List.eq_replicate_of_mem h, number, Nat.ofDigitChars_replicate_zero, Nat.mul_zero]

theorem fixed_eq (whole fraction : List Char) :
    fixed whole fraction = number (whole ++ fraction) / 10 ^ fraction.length := by
  rw [fixed, number_append, Nat.cast_add, Nat.cast_mul, Nat.cast_pow, Nat.cast_ofNat, add_div,
    mul_div_cancel_right₀ _ (pow_ne_zero _ (by decide))]

theorem number_amid_zeros {zs es : List Char} (hz : ∀ c ∈ zs, c = '0') (he : ∀ c ∈ es, c = '0')
    (ds : List Char) : number (zs ++ ds ++ es) = number ds * 10 ^ es.length := by
  rw [number_append, number_append, number_of_zeros hz, number_of_zeros he, Nat.zero_mul,
    Nat.zero_add, Nat.add_zero]

theorem exists_lead {ds : List Char} (h : ∃ c ∈ ds, c ≠ '0') :
    ∃ lead tail, ds.dropWhile (· == '0') = lead :: tail ∧ lead ≠ '0' := by
  cases hd : ds.dropWhile (· == '0') with
  | nil =>
    obtain ⟨c, hc, hne⟩ := h
    exact absurd (beq_iff_eq.1 (List.dropWhile_eq_nil_iff.1 hd c hc)) hne
  | cons lead tail =>
    have hlead := List.head?_dropWhile_not (· == '0') ds
    rw [hd] at hlead
    exact ⟨lead, tail, rfl, beq_eq_false_iff_ne.1 hlead⟩

theorem dropTrailingZeros_concat (ds : List Char) (c : Char) :
    dropTrailingZeros (ds ++ [c]) = if c = '0' then dropTrailingZeros ds else ds ++ [c] := by
  have h := List.rdropWhile_concat (· == '0') ds c
  simp only [beq_iff_eq] at h
  exact h

/-- Behind a digit that is not zero, only zeros are dropped, and all of them at the end. -/
theorem dropTrailingZeros_cons (hlead : lead ≠ '0') (tail : List Char) :
    ∃ rest es, dropTrailingZeros (lead :: tail) = lead :: rest ∧ tail = rest ++ es ∧
      (∀ c ∈ es, c = '0') ∧ rest.getLast? ≠ some '0' := by
  induction tail using List.reverseRecOn with
  | nil =>
    have hkept := dropTrailingZeros_concat [] lead
    rw [if_neg hlead] at hkept
    exact ⟨[], [], hkept, rfl, List.forall_mem_nil _, by simp⟩
  | append_singleton tail c ih =>
    rw [← List.cons_append, dropTrailingZeros_concat]
    split
    · obtain ⟨rest, es, hkept, rfl, hes, hlast⟩ := ih
      refine ⟨rest, es ++ [c], hkept, List.append_assoc _ _ _, ?_, hlast⟩
      intro d hd
      rcases List.mem_append.1 hd with hd | hd
      · exact hes d hd
      · rwa [List.mem_singleton.1 hd]
    · rename_i hc
      refine ⟨tail ++ [c], [], rfl, (List.append_nil _).symm, List.forall_mem_nil _, ?_⟩
      rw [List.getLast?_concat]
      exact fun h => hc (Option.some.inj h)

/-- The digits behind the first one, with a zero where there are none. -/
def padded (rest : List Char) : List Char := if rest.isEmpty then ['0'] else rest

theorem fixed_padded (lead : Char) (rest : List Char) :
    fixed [lead] (padded rest) = number (lead :: rest) / 10 ^ rest.length := by
  cases rest with
  | nil => simp [padded, fixed, number_of_zeros]
  | cons c rest => exact fixed_eq [lead] (c :: rest)

/-- The power of ten moves the point from its old place to behind the first digit. -/
theorem fixed_scaled {whole fraction zs rest es : List Char}
    (h : whole ++ fraction = zs ++ lead :: rest ++ es) (hz : ∀ c ∈ zs, c = '0')
    (he : ∀ c ∈ es, c = '0') :
    fixed [lead] (padded rest) * 10 ^ (whole.length - 1 - zs.length : Int) =
      fixed whole fraction := by
  have hlength := congrArg List.length h
  simp only [List.length_append, List.length_cons] at hlength
  have hpower : (whole.length - 1 - zs.length : Int) =
      rest.length + es.length - fraction.length := by omega
  have hten : (10 : ℚ) ≠ 0 := by decide
  rw [fixed_padded, fixed_eq, h, number_amid_zeros hz he, hpower, zpow_sub₀ hten, zpow_add₀ hten,
    zpow_natCast, zpow_natCast, zpow_natCast, Nat.cast_mul, Nat.cast_pow, Nat.cast_ofNat]
  field_simp

theorem ne_of_isDigit (hc : c.isDigit = true) (hd : Char.isDigit d = false) : c ≠ d := by
  intro he
  rw [he, hd] at hc
  cases hc

namespace Positional

def body (p : Positional) : List Char :=
  p.whole.chars ++ match p.fraction with
    | some f => '.' :: f.chars
    | none => []

theorem toList_text (p : Positional) : p.text.toList = sign p.negative ++ p.body := by
  rw [text, String.toList_ofList, List.append_assoc]
  rfl

theorem head?_text (p : Positional) : (p.text.toList.head? == some '-') = p.negative := by
  rw [toList_text]
  cases p.negative with
  | true => rfl
  | false =>
    obtain ⟨c, cs, hchars⟩ := List.exists_cons_of_ne_nil p.whole.ne_nil
    have hc : c.isDigit = true := p.whole.isDigit c (hchars ▸ List.mem_cons_self)
    have hne : c ≠ '-' := ne_of_isDigit hc (by decide)
    simpa [sign, body, hchars] using hne

theorem unsigned_text (p : Positional) :
    (if p.negative then p.text.toList.drop 1 else p.text.toList) = p.body := by
  rw [toList_text]
  cases p.negative <;> rfl

theorem isDigit (p : Positional) (c : Char) (hc : c ∈ p.digits) : c.isDigit = true := by
  rcases List.mem_append.1 hc with hc | hc
  · exact p.whole.isDigit c hc
  · unfold decimals at hc
    cases hf : p.fraction with
    | none => simp [hf] at hc
    | some f => exact f.isDigit c (by simpa [hf] using hc)

theorem ne_point (p : Positional) (c : Char) (hc : c ∈ p.whole.chars) : (c != '.') = true :=
  bne_iff_ne.2 (ne_of_isDigit (p.whole.isDigit c hc) (by decide))

theorem takeWhile_body (p : Positional) : p.body.takeWhile (· != '.') = p.whole.chars := by
  rw [body, List.takeWhile_append_of_pos p.ne_point]
  cases p.fraction <;> exact List.append_nil _

theorem dropWhile_body (p : Positional) : (p.body.dropWhile (· != '.')).drop 1 = p.decimals := by
  rw [body, List.dropWhile_append_of_pos p.ne_point, decimals]
  cases p.fraction <;> rfl

end Positional

/-- The digits of a positional text are found on both sides of its point. -/
theorem scientificList_text (p : Positional) (hz : p.digits.takeWhile (· == '0') = zs)
    (hs : dropTrailingZeros (p.digits.dropWhile (· == '0')) = lead :: rest) :
    scientificList p.text.toList = sign p.negative ++ lead :: '.' :: padded rest ++
      'E' :: (toString (p.whole.chars.length - 1 - zs.length : Int)).toList := by
  have hdigits : p.whole.chars ++ p.decimals = p.digits := rfl
  simp only [scientificList, p.head?_text, p.unsigned_text, p.takeWhile_body, p.dropWhile_body,
    hdigits, hz, hs, padded]
  simp

theorem Digits.append_inj {ds es : Digits} (hc : Char.isDigit c = false)
    (h : ds.chars ++ c :: cs = es.chars ++ c :: cs') : ds = es ∧ cs = cs' := by
  have htake (ds : Digits) (cs : List Char) :
      (ds.chars ++ c :: cs).takeWhile Char.isDigit = ds.chars := by
    rw [List.takeWhile_append_of_pos ds.isDigit, List.takeWhile_cons_of_neg (by simp [hc]),
      List.append_nil]
  have hchars : ds.chars = es.chars := by rw [← htake ds cs, h, htake]
  rw [hchars, List.append_right_inj] at h
  exact ⟨Digits.ext hchars, (List.cons.inj h).2⟩

namespace Scientific

theorem negative_of_text {m n : Scientific} (h : m.text = n.text) : m.negative = n.negative := by
  have hlead (m : Scientific) : m.lead ≠ '-' := ne_of_isDigit m.lead_isDigit (by decide)
  have hhead := congrArg List.head? (String.ofList_inj.1 h)
  cases hm : m.negative <;> cases hn : n.negative <;> simp [sign, hm, hn] at hhead
  · rfl
  · exact absurd hhead (hlead m)
  · exact absurd hhead.symm (hlead n)
  · rfl

theorem text_injective {m n : Scientific} (h : m.text = n.text) : m = n := by
  have hsign := negative_of_text h
  have hchars := String.ofList_inj.1 h
  rw [hsign, List.append_assoc, List.append_assoc, List.append_right_inj] at hchars
  obtain ⟨hlead, htail⟩ := List.cons.inj hchars
  obtain ⟨-, htail⟩ := List.cons.inj htail
  obtain ⟨hfraction, hexponent⟩ := Digits.append_inj (by decide) htail
  -- No smaller part of the library has that numerals tell integers apart.
  have hexponent := Int.repr_inj.1 (String.toList_inj.1 hexponent)
  exact Scientific.ext hsign hlead hfraction hexponent

end Scientific

/-- Digits that begin and end with another digit than zero can be written with any power of
ten. -/
theorem exists_scientific (negative : Bool) (exponent : Int)
    (hdigits : ∀ c ∈ lead :: rest, c.isDigit = true) (hlead : lead ≠ '0')
    (hlast : rest.getLast? ≠ some '0') :
    ∃ n : Scientific, n.negative = negative ∧ n.lead = lead ∧
      n.fraction.chars = padded rest ∧ n.exponent = exponent := by
  obtain ⟨hlead', hrest⟩ := List.forall_mem_cons.1 hdigits
  cases rest with
  | nil =>
    exact ⟨⟨negative, lead, hlead', hlead, ⟨['0'], by simp, by simp⟩, .inl rfl, exponent⟩,
      rfl, rfl, rfl, rfl⟩
  | cons c cs =>
    exact ⟨⟨negative, lead, hlead', hlead, ⟨c :: cs, List.cons_ne_nil _ _, hrest⟩, .inr hlast,
      exponent⟩, rfl, rfl, rfl, rfl⟩

/-- A positional text with a digit that is not zero is turned to a text with the same sign that
can be read in scientific form, in one way only, and denotes the same number. -/
theorem scientific_same_number (p : Positional) (h : ∃ c ∈ p.digits, c ≠ '0') :
    ∃ n : Scientific, (∀ m : Scientific, m.text = scientific p.text ↔ m = n) ∧
      n.negative = p.negative ∧ n.value = p.value := by
  obtain ⟨lead, tail, hdrop, hlead⟩ := exists_lead h
  obtain ⟨rest, es, hsignificant, rfl, hes, hlast⟩ := dropTrailingZeros_cons hlead tail
  have hsplit : p.digits = p.digits.takeWhile (· == '0') ++ lead :: rest ++ es := by
    rw [List.append_assoc, List.cons_append, ← hdrop, List.takeWhile_append_dropWhile]
  have hzeros (c) (hc : c ∈ p.digits.takeWhile (· == '0')) : c = '0' :=
    beq_iff_eq.1 (List.mem_takeWhile_imp (p := (· == '0')) hc)
  have hdigits (c) (hc : c ∈ lead :: rest) : c.isDigit = true := by
    apply p.isDigit
    rw [hsplit]
    exact List.mem_append_left _ (List.mem_append_right _ hc)
  obtain ⟨n, hnegative, hn, hfraction, hexponent⟩ := exists_scientific p.negative
    (p.whole.chars.length - 1 - (p.digits.takeWhile (· == '0')).length) hdigits hlead hlast
  have htext : n.text = scientific p.text := by
    rw [← hdrop] at hsignificant
    rw [Scientific.text, scientific, scientificList_text p rfl hsignificant, hnegative, hn,
      hfraction, hexponent]
  refine ⟨n, ?_, hnegative, ?_⟩
  · intro m
    rw [← htext]
    exact ⟨Scientific.text_injective, congrArg Scientific.text⟩
  · rw [Scientific.value, Positional.value, hnegative, hn, hfraction, hexponent,
      fixed_scaled hsplit hzeros hes]

def smallText : Positional :=
  ⟨true, ⟨['0', '0'], by simp, by simp⟩, some ⟨['0', '1', '2', '5', '0'], by simp, by simp⟩⟩

theorem scientific_same_number_small :
    (∃ c ∈ smallText.digits, c ≠ '0') ∧ scientific "-00.01250" = "-1.25E-2" ∧
    ∃ n : Scientific, n.text = "-1.25E-2" ∧ n.negative = true ∧ n.value = -(1 / 80) := by
  have hdigit : ∃ c ∈ smallText.digits, c ≠ '0' := ⟨'1', by decide, by decide⟩
  have htext : smallText.text = "-00.01250" := by decide
  have hscientific : scientific "-00.01250" = "-1.25E-2" := by decide
  obtain ⟨n, hn, hnegative, hvalue⟩ := scientific_same_number smallText hdigit
  refine ⟨hdigit, hscientific, n, ?_, hnegative, ?_⟩
  · rw [← hscientific, ← htext]
    exact (hn n).2 rfl
  · rw [hvalue]
    decide +kernel

end Probe.Decimal

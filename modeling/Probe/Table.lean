namespace Probe

/-- A finite map as a list of entries, at most one for each key. -/
@[ext]
structure Table (κ ν : Type) where
  entries : List (κ × ν)
  nodup : (entries.map (·.1)).Nodup
  deriving Repr, DecidableEq

namespace Table

variable {κ ν : Type} [DecidableEq κ]

def lookup (k : κ) : List (κ × ν) → Option ν
  | [] => none
  | (k', v) :: rest => if k' = k then some v else lookup k rest

/-- Overwrites the first entry of a key, or adds one at the end. -/
def put (k : κ) (v : ν) : List (κ × ν) → List (κ × ν)
  | [] => [(k, v)]
  | (k', v') :: rest => if k' = k then (k, v) :: rest else (k', v') :: put k v rest

theorem mem_keys_put {k k' : κ} {v : ν} {l : List (κ × ν)} :
    k' ∈ (put k v l).map (·.1) ↔ k' = k ∨ k' ∈ l.map (·.1) := by
  induction l with
  | nil => simp [put]
  | cons e l ih =>
    obtain ⟨c, w⟩ := e
    by_cases h : c = k
    · simp [put, h]
    · simp only [put, h, ↓reduceIte, List.map_cons, List.mem_cons, ih]
      exact or_left_comm

theorem nodup_keys_put (k : κ) (v : ν) {l : List (κ × ν)} (h : (l.map (·.1)).Nodup) :
    ((put k v l).map (·.1)).Nodup := by
  induction l with
  | nil => simp [put]
  | cons e l ih =>
    obtain ⟨c, w⟩ := e
    obtain ⟨hc, hl⟩ := List.nodup_cons.1 h
    by_cases hk : c = k
    · subst hk
      simpa [put] using h
    · simp only [put, hk, ↓reduceIte, List.map_cons]
      refine List.nodup_cons.2 ⟨fun hm => ?_, ih hl⟩
      rcases mem_keys_put.1 hm with he | hm
      · exact hk he
      · exact hc hm

omit [DecidableEq κ] in
theorem nodup_keys_filter (p : κ × ν → Bool) {l : List (κ × ν)} (h : (l.map (·.1)).Nodup) :
    ((l.filter p).map (·.1)).Nodup :=
  h.sublist (List.filter_sublist.map _)

def empty : Table κ ν := ⟨[], .nil⟩

def get? (t : Table κ ν) (k : κ) : Option ν := lookup k t.entries

def contains (t : Table κ ν) (k : κ) : Bool := (t.get? k).isSome

def insert (t : Table κ ν) (k : κ) (v : ν) : Table κ ν :=
  ⟨put k v t.entries, nodup_keys_put k v t.nodup⟩

def erase (t : Table κ ν) (k : κ) : Table κ ν :=
  ⟨t.entries.filter (fun e => e.1 ≠ k), nodup_keys_filter _ t.nodup⟩

def filter (t : Table κ ν) (keep : κ → ν → Bool) : Table κ ν :=
  ⟨t.entries.filter (fun e => keep e.1 e.2), nodup_keys_filter _ t.nodup⟩

/-- Enters the pairs from left to right, so that the last value of a key wins. -/
def insertAll (t : Table κ ν) (pairs : List (κ × ν)) : Table κ ν :=
  pairs.foldl (fun t p => t.insert p.1 p.2) t

def ofList (pairs : List (κ × ν)) : Table κ ν := empty.insertAll pairs

def keys (t : Table κ ν) : List κ := t.entries.map (·.1)

def size (t : Table κ ν) : Nat := t.entries.length

theorem lookup_put_self (k : κ) (v : ν) (l : List (κ × ν)) : lookup k (put k v l) = some v := by
  induction l with
  | nil => simp [put, lookup]
  | cons e l ih =>
    obtain ⟨k', v'⟩ := e
    by_cases h : k' = k <;> simp [put, lookup, h, ih]

theorem lookup_put_of_ne {k k' : κ} (h : k ≠ k') (v : ν) (l : List (κ × ν)) :
    lookup k' (put k v l) = lookup k' l := by
  induction l with
  | nil => simp [put, lookup, h]
  | cons e l ih =>
    obtain ⟨c, w⟩ := e
    by_cases hc : c = k
    · subst hc
      simp [put, lookup, h]
    · by_cases hk : c = k'
      · subst hk
        simp [put, lookup, hc]
      · simp [put, lookup, hc, hk, ih]

theorem lookup_eq_find? (k : κ) (l : List (κ × ν)) :
    lookup k l = (l.find? fun e => e.1 = k).map (·.2) := by
  induction l with
  | nil => rfl
  | cons e l ih =>
    obtain ⟨k', v⟩ := e
    by_cases hk : k' = k
    · simp [lookup, hk]
    · simp [lookup, hk, ih]

theorem mem_of_lookup {k : κ} {v : ν} {l : List (κ × ν)} (h : lookup k l = some v) :
    (k, v) ∈ l := by
  induction l with
  | nil => simp [lookup] at h
  | cons e l ih =>
    obtain ⟨c, w⟩ := e
    by_cases hc : c = k
    · simp only [lookup, hc, ↓reduceIte, Option.some.injEq] at h
      simp [hc, h]
    · simp only [lookup, hc, ↓reduceIte] at h
      exact List.mem_cons_of_mem _ (ih h)

theorem lookup_of_mem {k : κ} {v : ν} {l : List (κ × ν)} (hl : (l.map (·.1)).Nodup)
    (h : (k, v) ∈ l) : lookup k l = some v := by
  induction l with
  | nil => simp at h
  | cons e l ih =>
    obtain ⟨c, w⟩ := e
    obtain ⟨hc, hl⟩ := List.nodup_cons.1 hl
    rcases List.mem_cons.1 h with he | hm
    · cases he
      simp [lookup]
    · have hne : c ≠ k := by
        rintro rfl
        exact hc (List.mem_map.2 ⟨_, hm, rfl⟩)
      simpa [lookup, hne] using ih hl hm

theorem get?_eq_some_iff {t : Table κ ν} {k : κ} {v : ν} :
    t.get? k = some v ↔ (k, v) ∈ t.entries :=
  ⟨mem_of_lookup, lookup_of_mem t.nodup⟩

theorem contains_iff {t : Table κ ν} {k : κ} : t.contains k = true ↔ ∃ v, t.get? k = some v :=
  Option.isSome_iff_exists

theorem contains_eq_false_iff {t : Table κ ν} {k : κ} :
    t.contains k = false ↔ t.get? k = none := by
  simp [contains]

theorem mem_keys_iff {t : Table κ ν} {k : κ} : k ∈ t.keys ↔ ∃ v, t.get? k = some v := by
  simp [keys, get?_eq_some_iff]

@[simp]
theorem get?_empty (k : κ) : (empty : Table κ ν).get? k = none := rfl

@[simp]
theorem get?_insert_self (t : Table κ ν) (k : κ) (v : ν) : (t.insert k v).get? k = some v :=
  lookup_put_self k v t.entries

theorem get?_insert_of_ne (t : Table κ ν) {k k' : κ} (h : k ≠ k') (v : ν) :
    (t.insert k v).get? k' = t.get? k' :=
  lookup_put_of_ne h v t.entries

/-- Who cannot tell the new value of a key from the old one cannot tell the tables apart. -/
theorem get?_insert_congr {γ : Type} {t : Table κ ν} {k : κ} {v v' : ν} (h : t.get? k = some v)
    (F : Option ν → γ) (hF : F (some v') = F (some v)) (k' : κ) :
    F ((t.insert k v').get? k') = F (t.get? k') := by
  by_cases hk : k = k'
  · subst hk
    rw [get?_insert_self, h, hF]
  · rw [get?_insert_of_ne t hk]

theorem get?_insert_eq_some {t : Table κ ν} {k k' : κ} {v v' : ν}
    (h : (t.insert k v).get? k' = some v') : k' = k ∧ v' = v ∨ t.get? k' = some v' := by
  by_cases hk : k = k'
  · subst hk
    rw [get?_insert_self] at h
    exact .inl ⟨rfl, (Option.some.inj h).symm⟩
  · rw [get?_insert_of_ne t hk] at h
    exact .inr h

theorem lookup_append (k : κ) (l m : List (κ × ν)) :
    lookup k (l ++ m) = (lookup k l).or (lookup k m) := by
  induction l with
  | nil => rfl
  | cons e l ih =>
    obtain ⟨c, w⟩ := e
    by_cases hc : c = k
    · simp [lookup, hc]
    · simp [lookup, hc, ih]

theorem get?_insertAll (t : Table κ ν) (pairs : List (κ × ν)) (k : κ) :
    (t.insertAll pairs).get? k = (lookup k pairs.reverse).or (t.get? k) := by
  induction pairs generalizing t with
  | nil => rfl
  | cons p pairs ih =>
    have hone : (t.insert p.1 p.2).get? k = (lookup k [p]).or (t.get? k) := by
      by_cases hk : p.1 = k
      · subst hk
        simp [lookup]
      · simp [lookup, hk, get?_insert_of_ne t hk]
    rw [List.reverse_cons, lookup_append, Option.or_assoc, ← hone]
    exact ih (t.insert p.1 p.2)

theorem put_of_lookup_eq_none {k : κ} {v : ν} {l : List (κ × ν)} (h : lookup k l = none) :
    put k v l = l ++ [(k, v)] := by
  induction l with
  | nil => rfl
  | cons e l ih =>
    obtain ⟨c, w⟩ := e
    by_cases hc : c = k
    · simp [lookup, hc] at h
    · simp only [lookup, hc, ↓reduceIte] at h
      simp [put, hc, ih h]

theorem entries_insert {t : Table κ ν} {k : κ} (h : t.get? k = none) (v : ν) :
    (t.insert k v).entries = t.entries ++ [(k, v)] :=
  put_of_lookup_eq_none h

theorem keys_put_of_mem {k : κ} {v : ν} {l : List (κ × ν)} (h : k ∈ l.map (·.1)) :
    (put k v l).map (·.1) = l.map (·.1) := by
  induction l with
  | nil => cases h
  | cons e l ih =>
    obtain ⟨c, w⟩ := e
    by_cases hc : c = k
    · simp [put, hc]
    · have hl : k ∈ l.map (·.1) := by
        rcases List.mem_cons.1 h with he | hl
        · exact absurd he.symm hc
        · exact hl
      simp only [put, hc, ↓reduceIte, List.map_cons, ih hl]

theorem keys_insert {t : Table κ ν} {k : κ} {v : ν} (h : t.get? k = some v) (v' : ν) :
    (t.insert k v').keys = t.keys :=
  keys_put_of_mem (mem_keys_iff.2 ⟨v, h⟩)

theorem size_insert {t : Table κ ν} {k : κ} {v : ν} (h : t.get? k = some v) (v' : ν) :
    (t.insert k v').size = t.size := by
  have hkeys := congrArg List.length (keys_insert h v')
  simpa only [keys, size, List.length_map] using hkeys

theorem filter_congr {t : Table κ ν} {p q : κ → ν → Bool}
    (h : ∀ k v, t.get? k = some v → p k v = q k v) : t.filter p = t.filter q :=
  Table.ext (List.filter_congr fun _ he => h _ _ (get?_eq_some_iff.2 he))

theorem filter_eq_self {t : Table κ ν} {p : κ → ν → Bool}
    (h : ∀ k v, t.get? k = some v → p k v = true) : t.filter p = t :=
  Table.ext (List.filter_eq_self.2 fun _ he => h _ _ (get?_eq_some_iff.2 he))

theorem get?_filter (t : Table κ ν) (keep : κ → ν → Bool) (k : κ) :
    (t.filter keep).get? k = (t.get? k).filter (keep k) := by
  apply Option.ext
  intro v
  rw [get?_eq_some_iff, Option.filter_eq_some_iff, get?_eq_some_iff]
  simp [filter]

theorem get?_erase (t : Table κ ν) (k k' : κ) :
    (t.erase k).get? k' = if k' = k then none else t.get? k' := by
  apply Option.ext
  intro v
  rw [get?_eq_some_iff]
  by_cases h : k' = k <;> simp [erase, h, get?_eq_some_iff]

end Table

end Probe

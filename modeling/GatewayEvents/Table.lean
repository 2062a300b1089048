/-! Keyed tables: one value per key, in the order in which the keys first came.
`lookup`, `put` and `drop` act on plain lists of entries; a `Table` carries the
proof that no key stands twice, so that replacing, erasing and counting agree
with the view `get?`. -/
namespace GatewayEvents

namespace Entries
variable {κ ν : Type} [DecidableEq κ]

def lookup (key : κ) : List (κ × ν) → Option ν
  | [] => none
  | (k, v) :: rest => if k = key then some v else lookup key rest

/-- A known key keeps its place, a new one goes to the end. -/
def put (key : κ) (value : ν) : List (κ × ν) → List (κ × ν)
  | [] => [(key, value)]
  | (k, v) :: rest => if k = key then (k, value) :: rest else (k, v) :: put key value rest

def drop (key : κ) : List (κ × ν) → List (κ × ν)
  | [] => []
  | (k, v) :: rest => if k = key then drop key rest else (k, v) :: drop key rest

theorem mem_keys_put {key k : κ} {value : ν} {entries : List (κ × ν)} :
    k ∈ (put key value entries).map Prod.fst ↔ k = key ∨ k ∈ entries.map Prod.fst := by
  induction entries with
  | nil => simp [put]
  | cons entry rest ih =>
    obtain ⟨k', v'⟩ := entry
    by_cases h : k' = key
    · simp [put, h]
    · simp only [put, if_neg h, List.map_cons, List.mem_cons, ih]
      exact or_left_comm

theorem mem_keys_drop {key k : κ} {entries : List (κ × ν)} :
    k ∈ (drop key entries).map Prod.fst ↔ k ≠ key ∧ k ∈ entries.map Prod.fst := by
  induction entries with
  | nil => simp [drop]
  | cons entry rest ih =>
    obtain ⟨k', v'⟩ := entry
    by_cases h : k' = key
    · subst h
      simp only [drop, if_true, List.map_cons, List.mem_cons, ih]
      exact and_congr_right fun other => (or_iff_right other).symm
    · simp only [drop, if_neg h, List.map_cons, List.mem_cons, ih]
      constructor
      · rintro (rfl | ⟨other, old⟩)
        · exact ⟨h, .inl rfl⟩
        · exact ⟨other, .inr old⟩
      · rintro ⟨other, same | old⟩
        · exact .inl same
        · exact .inr ⟨other, old⟩

theorem nodup_put {key : κ} {value : ν} {entries : List (κ × ν)}
    (distinct : (entries.map Prod.fst).Nodup) :
    ((put key value entries).map Prod.fst).Nodup := by
  induction entries with
  | nil => simp [put]
  | cons entry rest ih =>
    obtain ⟨k', v'⟩ := entry
    simp only [List.map_cons, List.nodup_cons] at distinct
    by_cases h : k' = key
    · subst h
      simpa only [put, if_true, List.map_cons, List.nodup_cons] using distinct
    · simp only [put, if_neg h, List.map_cons, List.nodup_cons, mem_keys_put]
      exact ⟨fun found => found.elim h distinct.1, ih distinct.2⟩

theorem nodup_drop {key : κ} {entries : List (κ × ν)}
    (distinct : (entries.map Prod.fst).Nodup) :
    ((drop key entries).map Prod.fst).Nodup := by
  induction entries with
  | nil => simp [drop]
  | cons entry rest ih =>
    obtain ⟨k', v'⟩ := entry
    simp only [List.map_cons, List.nodup_cons] at distinct
    by_cases h : k' = key
    · simpa [drop, h] using ih distinct.2
    · simp only [drop, if_neg h, List.map_cons, List.nodup_cons, mem_keys_drop]
      exact ⟨fun found => distinct.1 found.2, ih distinct.2⟩

theorem lookup_put {key k : κ} {value : ν} {entries : List (κ × ν)} :
    lookup k (put key value entries) = if k = key then some value else lookup k entries := by
  induction entries with
  | nil =>
    by_cases same : k = key
    · simp [put, lookup, same]
    · simp [put, lookup, same, Ne.symm same]
  | cons entry rest ih =>
    obtain ⟨k', v'⟩ := entry
    by_cases h : k' = key
    · subst h
      by_cases same : k = k'
      · simp [put, lookup, same]
      · simp [put, lookup, same, Ne.symm same]
    · by_cases same : k' = k
      · subst same
        simp [put, lookup, h]
      · simp [put, lookup, h, same, ih]

theorem lookup_drop {key k : κ} {entries : List (κ × ν)} :
    lookup k (drop key entries) = if k = key then none else lookup k entries := by
  induction entries with
  | nil => simp [drop, lookup]
  | cons entry rest ih =>
    obtain ⟨k', v'⟩ := entry
    by_cases h : k' = key
    · subst h
      by_cases same : k = k'
      · simpa [drop, same] using ih
      · simp [drop, ih, lookup, same, Ne.symm same]
    · by_cases same : k' = k
      · subst same
        simp [drop, lookup, h]
      · simp [drop, lookup, h, same, ih]

theorem isSome_lookup {k : κ} {entries : List (κ × ν)} :
    (lookup k entries).isSome ↔ k ∈ entries.map Prod.fst := by
  induction entries with
  | nil => simp [lookup]
  | cons entry rest ih =>
    obtain ⟨k', v'⟩ := entry
    by_cases h : k' = k
    · simp [lookup, h]
    · simp only [lookup, if_neg h, ih, List.map_cons, List.mem_cons]
      exact (or_iff_right (Ne.symm h)).symm

theorem drop_comm {key other : κ} {entries : List (κ × ν)} :
    drop key (drop other entries) = drop other (drop key entries) := by
  induction entries with
  | nil => rfl
  | cons entry rest ih =>
    obtain ⟨k', v'⟩ := entry
    by_cases h : k' = key
    · subst h
      by_cases same : k' = other
      · subst same
        rfl
      · simp [drop, same, ih]
    · by_cases same : k' = other
      · subst same
        simp [drop, h, ih]
      · simp [drop, h, same, ih]

theorem lookup_eq_some_iff {k : κ} {v : ν} {entries : List (κ × ν)}
    (distinct : (entries.map Prod.fst).Nodup) :
    lookup k entries = some v ↔ (k, v) ∈ entries := by
  induction entries with
  | nil => simp [lookup]
  | cons entry rest ih =>
    obtain ⟨k', v'⟩ := entry
    simp only [List.map_cons, List.nodup_cons] at distinct
    have fresh : ∀ w, (k', w) ∈ rest → False := fun w member =>
      distinct.1 (List.mem_map.mpr ⟨(k', w), member, rfl⟩)
    by_cases h : k' = k
    · subst h
      simp only [lookup, if_true, List.mem_cons, Option.some.injEq, Prod.mk.injEq, true_and]
      exact ⟨fun e => .inl e.symm, fun e => e.elim Eq.symm fun member => (fresh v member).elim⟩
    · simp only [lookup, if_neg h, ih distinct.2, List.mem_cons, Prod.mk.injEq]
      exact ⟨.inr, fun e => e.elim (fun same => (h same.1.symm).elim) id⟩

end Entries

structure Table (κ ν : Type) where
  entries : List (κ × ν)
  distinct : (entries.map Prod.fst).Nodup
  deriving DecidableEq, Repr

namespace Table
variable {κ ν : Type}

def empty : Table κ ν := ⟨[], List.nodup_nil⟩

instance : EmptyCollection (Table κ ν) := ⟨empty⟩
instance : Inhabited (Table κ ν) := ⟨empty⟩

def keys (t : Table κ ν) : List κ := t.entries.map Prod.fst
def values (t : Table κ ν) : List ν := t.entries.map Prod.snd
def size (t : Table κ ν) : Nat := t.entries.length

variable [DecidableEq κ]

def get? (t : Table κ ν) (key : κ) : Option ν := Entries.lookup key t.entries

def contains (t : Table κ ν) (key : κ) : Bool := (t.get? key).isSome

def insert (t : Table κ ν) (key : κ) (value : ν) : Table κ ν :=
  ⟨Entries.put key value t.entries, Entries.nodup_put t.distinct⟩

def erase (t : Table κ ν) (key : κ) : Table κ ν :=
  ⟨Entries.drop key t.entries, Entries.nodup_drop t.distinct⟩

@[simp] theorem get?_empty (key : κ) : (empty : Table κ ν).get? key = none := rfl

@[simp] theorem get?_insert (t : Table κ ν) (key k : κ) (value : ν) :
    (t.insert key value).get? k = if k = key then some value else t.get? k :=
  Entries.lookup_put

@[simp] theorem get?_erase (t : Table κ ν) (key k : κ) :
    (t.erase key).get? k = if k = key then none else t.get? k :=
  Entries.lookup_drop

theorem get?_insert_cases {t : Table κ ν} {key k : κ} {value v : ν}
    (found : (t.insert key value).get? k = some v) :
    k = key ∧ v = value ∨ k ≠ key ∧ t.get? k = some v := by
  rw [get?_insert] at found
  split at found
  next same => exact .inl ⟨same, (Option.some.inj found).symm⟩
  next other => exact .inr ⟨other, found⟩

theorem erase_comm (t : Table κ ν) (key other : κ) :
    (t.erase key).erase other = (t.erase other).erase key := by
  simp only [erase, Entries.drop_comm]

theorem get?_foldl_erase (keys : List κ) (t : Table κ ν) (k : κ) :
    (keys.foldl erase t).get? k = if k ∈ keys then none else t.get? k := by
  induction keys generalizing t with
  | nil => simp
  | cons key rest ih =>
    rw [List.foldl_cons, ih, get?_erase]
    by_cases same : k = key <;> simp [same]

theorem isSome_get? (t : Table κ ν) (key : κ) : (t.get? key).isSome ↔ key ∈ t.keys :=
  Entries.isSome_lookup

theorem get?_eq_some_iff (t : Table κ ν) (key : κ) (value : ν) :
    t.get? key = some value ↔ (key, value) ∈ t.entries :=
  Entries.lookup_eq_some_iff t.distinct

@[simp] theorem mem_keys_insert (t : Table κ ν) (key k : κ) (value : ν) :
    k ∈ (t.insert key value).keys ↔ k = key ∨ k ∈ t.keys :=
  Entries.mem_keys_put

@[simp] theorem mem_keys_erase (t : Table κ ν) (key k : κ) :
    k ∈ (t.erase key).keys ↔ k ≠ key ∧ k ∈ t.keys :=
  Entries.mem_keys_drop

end Table
end GatewayEvents

import GatewayEvents.Table

/-! Maps from text to text with ascending keys, as labels, annotations and driver
settings are kept. Two maps with the same content are the same value, whatever
order their entries came in. -/
namespace GatewayEvents

structure StringMap where
  entries : List (String × String)
  ascending : entries.Pairwise (·.1 < ·.1)
  deriving DecidableEq, Repr

namespace StringMap

def place (key value : String) : List (String × String) → List (String × String)
  | [] => [(key, value)]
  | (k, v) :: rest =>
    if key < k then (key, value) :: (k, v) :: rest
    else if key = k then (key, value) :: rest
    else (k, v) :: place key value rest

theorem key_of_mem_place {key value : String} {entry : String × String}
    {entries : List (String × String)} (member : entry ∈ place key value entries) :
    entry.1 = key ∨ entry ∈ entries := by
  induction entries with
  | nil => simp only [place, List.mem_singleton] at member; simp [member]
  | cons head rest ih =>
    obtain ⟨k, v⟩ := head
    simp only [place] at member
    split at member
    · rcases List.mem_cons.mp member with same | old
      · simp [same]
      · exact .inr old
    · split at member
      · rcases List.mem_cons.mp member with same | old
        · simp [same]
        · exact .inr (List.mem_cons_of_mem _ old)
      · rcases List.mem_cons.mp member with same | old
        · simp [same]
        · exact (ih old).imp id (List.mem_cons_of_mem _)

theorem ascending_place {key value : String} {entries : List (String × String)}
    (ascending : entries.Pairwise (·.1 < ·.1)) :
    (place key value entries).Pairwise (·.1 < ·.1) := by
  induction entries with
  | nil => simp [place]
  | cons head rest ih =>
    obtain ⟨k, v⟩ := head
    have above := (List.pairwise_cons.mp ascending).1
    have later := (List.pairwise_cons.mp ascending).2
    simp only [place]
    split
    · rename_i below
      refine List.pairwise_cons.mpr ⟨fun entry member => ?_, ascending⟩
      rcases List.mem_cons.mp member with rfl | old
      · exact below
      · exact String.lt_trans below (above entry old)
    · rename_i notBelow
      split
      · rename_i same
        exact List.pairwise_cons.mpr ⟨same ▸ above, later⟩
      · rename_i different
        refine List.pairwise_cons.mpr ⟨fun entry member => ?_, ih later⟩
        rcases key_of_mem_place member with same | old
        · rw [same]
          rcases Std.lt_trichotomy key k with below | equal | above
          · exact (notBelow below).elim
          · exact (different equal).elim
          · exact above
        · exact above entry old

def empty : StringMap := ⟨[], .nil⟩

instance : Inhabited StringMap := ⟨empty⟩

def insert (m : StringMap) (key value : String) : StringMap :=
  ⟨place key value m.entries, ascending_place m.ascending⟩

/-- Of several entries with one key the first counts. -/
def ofList (entries : List (String × String)) : StringMap :=
  entries.foldr (fun entry m => m.insert entry.1 entry.2) empty

def get? (m : StringMap) (key : String) : Option String := Entries.lookup key m.entries

def isEmpty (m : StringMap) : Bool := m.entries.isEmpty

@[simp] theorem get?_empty (key : String) : empty.get? key = none := rfl

theorem place_eq_cons {key value : String} {entries : List (String × String)}
    (least : ∀ entry ∈ entries, key < entry.1) :
    place key value entries = (key, value) :: entries := by
  cases entries with
  | nil => rfl
  | cons head rest => simp [place, least head]

@[simp] theorem ofList_entries (m : StringMap) : ofList m.entries = m := by
  obtain ⟨entries, ascending⟩ := m
  induction entries with
  | nil => rfl
  | cons head rest ih =>
    have split := List.pairwise_cons.mp ascending
    have step : ofList (head :: rest) = (ofList rest).insert head.1 head.2 := rfl
    rw [step, ih split.2]
    simp [insert, place_eq_cons split.1]

theorem get?_insert (m : StringMap) (key value k : String) :
    (m.insert key value).get? k = if k = key then some value else m.get? k := by
  obtain ⟨entries, ascending⟩ := m
  simp only [get?, insert]
  induction entries with
  | nil =>
    by_cases same : k = key
    · simp [place, Entries.lookup, same]
    · simp [place, Entries.lookup, same, Ne.symm same]
  | cons head rest ih =>
    obtain ⟨k', v'⟩ := head
    simp only [place]
    split
    · by_cases same : k = key
      · simp [Entries.lookup, same]
      · simp [Entries.lookup, same, Ne.symm same]
    · split
      · rename_i equal
        subst equal
        by_cases same : k = key
        · simp [Entries.lookup, same]
        · simp [Entries.lookup, same, Ne.symm same]
      · rename_i different
        by_cases here : k' = k
        · subst here
          simp [Entries.lookup, Ne.symm different]
        · simp [Entries.lookup, here, ih (List.pairwise_cons.mp ascending).2]

end StringMap
end GatewayEvents

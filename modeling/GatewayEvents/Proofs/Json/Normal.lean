import GatewayEvents.Resource.Metadata
import Mathlib.Data.List.Nodup
import Mathlib.Data.List.Perm.Basic

/-! Objects with their members in order. Under distinct keys sorting moves members but loses none
(`perm_sorted`, `lookup_sorted`), and what is written with ascending keys is in order already
(`normal_members`). -/
namespace GatewayEvents.Json

theorem nodup_of_ascending {entries : List (String × ν)}
    (ascending : entries.Pairwise fun a b => a.1 < b.1) : (entries.map Prod.fst).Nodup :=
  List.nodup_iff_pairwise_ne.mpr (List.pairwise_map.mpr (ascending.imp String.ne_of_lt))

section Sorted
variable {members : List (String × Json)}

theorem keepLast_of_nodup (distinct : (members.map Prod.fst).Nodup) :
    members.foldr (fun m rest => if rest.head?.any (·.1 = m.1) then rest else m :: rest) [] =
      members := by
  induction members with
  | nil => rfl
  | cons m rest ih =>
    obtain ⟨fresh, distinct⟩ := List.nodup_cons.mp distinct
    rw [List.foldr_cons, ih distinct]
    cases rest with
    | nil => rfl
    | cons next rest =>
      have other : next.1 ≠ m.1 := fun same => fresh (by simp [same])
      simp [other]

theorem perm_sorted (distinct : (members.map Prod.fst).Nodup) :
    (sorted members).Perm members := by
  have perm : (members.mergeSort fun a b => decide (a.1 ≤ b.1)).Perm members :=
    List.mergeSort_perm _ _
  rw [sorted, keepLast_of_nodup ((perm.map Prod.fst).nodup_iff.mpr distinct)]
  exact perm

theorem lookup_sorted (distinct : (members.map Prod.fst).Nodup) (key : String) :
    lookup key (sorted members) = lookup key members := by
  have perm := perm_sorted distinct
  refine Option.ext fun j => ?_
  rw [lookup, lookup, Entries.lookup_eq_some_iff distinct,
    Entries.lookup_eq_some_iff ((perm.map Prod.fst).nodup_iff.mpr distinct), perm.mem_iff]

theorem sorted_of_ascending (ascending : members.Pairwise fun a b => a.1 < b.1) :
    sorted members = members := by
  have inOrder : members.Pairwise fun a b => decide (a.1 ≤ b.1) = true :=
    ascending.imp fun below => decide_eq_true (Std.le_of_lt below)
  rw [sorted, List.mergeSort_of_pairwise inOrder, keepLast_of_nodup (nodup_of_ascending ascending)]

end Sorted

@[simp] theorem normal_null : null.normal = null := rfl

@[simp] theorem normal_bool (b : Bool) : (bool b).normal = bool b := rfl

@[simp] theorem normal_integer (n : Int) : (integer n).normal = integer n := rfl

@[simp] theorem normal_text (s : String) : (text s).normal = text s := rfl

theorem normalItems_eq_map (items : List Json) : normalItems items = items.map normal := by
  induction items with
  | nil => rfl
  | cons item rest ih => rw [normalItems, ih, List.map_cons]

theorem normalMembers_eq_map (members : List (String × Json)) :
    normalMembers members = members.map fun m => (m.1, normal m.2) := by
  induction members with
  | nil => rfl
  | cons m rest ih => rw [normalMembers, ih, List.map_cons]

@[simp] theorem normal_texts (items : List String) : (texts items).normal = texts items := by
  rw [texts, normal, normalItems_eq_map, List.map_map]
  rfl

theorem normal_object {members : List (String × Json)}
    (ascending : members.Pairwise fun a b => a.1 < b.1)
    (normal : ∀ m ∈ members, m.2.normal = m.2) : (object members).normal = object members := by
  have same : (members.map fun m => (m.1, m.2.normal)) = members :=
    (List.map_congr_left fun m member => congrArg (m.1, ·) (normal m member)).trans
      (List.map_id members)
  rw [Json.normal, normalMembers_eq_map, same, sorted_of_ascending ascending]

@[simp] theorem normal_stringMap (m : StringMap) : m.toJson.normal = m.toJson := by
  refine normal_object (List.pairwise_map.mpr m.ascending) fun member written => ?_
  obtain ⟨entry, -, rfl⟩ := List.mem_map.mp written
  rfl

theorem lookup_filter (keep : String → Bool) {members : List (String × Json)} {key : String}
    (kept : keep key) : lookup key (members.filter fun m => keep m.1) = lookup key members := by
  induction members with
  | nil => rfl
  | cons m rest ih =>
    obtain ⟨k, j⟩ := m
    simp only [lookup] at ih
    by_cases same : k = key
    · subst same
      simp [lookup, Entries.lookup, kept]
    · by_cases keeps : keep k <;> simp [lookup, Entries.lookup, keeps, same, ih]

section Zip
variable {keys : List String}

theorem keys_zip (keys : List String) (items : List Json) :
    (keys.zip items).map Prod.fst = keys.take items.length := by
  induction keys generalizing items with
  | nil => simp
  | cons key rest ih =>
    cases items with
    | nil => rfl
    | cons j items => simp [ih]

theorem nodup_keys_zip (distinct : keys.Nodup) (items : List Json) :
    ((keys.zip items).map Prod.fst).Nodup := by
  rw [keys_zip]
  exact distinct.sublist (List.take_sublist _ _)

theorem lookup_zip (distinct : keys.Nodup) {items : List Json} {i : Nat} {key : String}
    (here : keys[i]? = some key) : lookup key (keys.zip items) = items[i]? := by
  induction keys generalizing items i with
  | nil => simp at here
  | cons k rest ih =>
    obtain ⟨fresh, later⟩ := List.nodup_cons.mp distinct
    cases items with
    | nil => rfl
    | cons j items =>
      cases i with
      | zero =>
        cases here
        simp [lookup, Entries.lookup]
      | succ i =>
        have other : k ≠ key := fun same => fresh (same ▸ List.mem_of_getElem? here)
        simpa [lookup, Entries.lookup, other] using ih later here

end Zip

section Members
variable {fields : List (String × Option Json)}

theorem key_mem_of_present {m : String × Json}
    (written : m ∈ fields.filterMap fun field => field.2.map (field.1, ·)) :
    (m.1, some m.2) ∈ fields := by
  obtain ⟨⟨k, found⟩, member, present⟩ := List.mem_filterMap.mp written
  obtain ⟨j, rfl, rfl⟩ := Option.map_eq_some_iff.mp present
  exact member

theorem lookup_present (distinct : (fields.map Prod.fst).Nodup) (key : String) :
    lookup key (fields.filterMap fun field => field.2.map (field.1, ·)) =
      (Entries.lookup key fields).join := by
  induction fields with
  | nil => rfl
  | cons field rest ih =>
    obtain ⟨k, found⟩ := field
    obtain ⟨fresh, later⟩ := List.nodup_cons.mp distinct
    rw [Entries.lookup]
    split
    next same =>
      subst same
      cases found with
      | some j => simp [lookup, Entries.lookup]
      | none =>
        have absent : Entries.lookup k rest = none :=
          Option.not_isSome_iff_eq_none.mp fun present => fresh (Entries.isSome_lookup.mp present)
        simpa [absent] using ih later
    next other =>
      cases found with
      | some j => simpa [lookup, Entries.lookup, other] using ih later
      | none => simpa using ih later

/-- What is written with ascending keys is in order. -/
theorem normal_members (ascending : (fields.map Prod.fst).Pairwise (· < ·))
    (normal : ∀ field ∈ fields, ∀ j, field.2 = some j → j.normal = j) :
    (members fields).normal = members fields := by
  refine normal_object ?_ fun m written => ?_
  · refine List.pairwise_filterMap.mpr ((List.pairwise_map.mp ascending).imp fun below => ?_)
    intro m present n shown
    obtain ⟨_, -, rfl⟩ := Option.map_eq_some_iff.mp present
    obtain ⟨_, -, rfl⟩ := Option.map_eq_some_iff.mp shown
    exact below
  · exact normal _ (key_mem_of_present written) m.2 rfl

end Members
end GatewayEvents.Json

import GatewayEvents.GatewayState
import Mathlib.Data.List.Induction
import Mathlib.Data.List.Nodup

/-! The gateway state as a store. What it holds under an identity is what was written there last,
and the flag is what it was set to last (`get?_performAll`, `onGateway_performAll`). So it makes no
difference how the writes of several writers are interleaved, as long as no two of them write the
same identity: each finds there what it would find had it been alone (`Interleaving.get?`). -/
namespace GatewayEvents.GatewayState

inductive Write where
  | upsert (identity : String) (endpoint : Endpoint)
  | remove (identity : String)
  | setOnGateway (value : Bool)

namespace Write

def perform (s : GatewayState) : Write → GatewayState
  | .upsert identity endpoint => s.upsert identity endpoint
  | .remove identity => (s.remove identity).2
  | .setOnGateway value => s.setOnGateway value

def identity? : Write → Option String
  | .upsert identity _ | .remove identity => some identity
  | .setOnGateway _ => none

def flag? : Write → Option Bool
  | .setOnGateway value => some value
  | _ => none

end Write

def performAll (s : GatewayState) (writes : List Write) : GatewayState :=
  writes.foldl Write.perform s

/-- The most recent write of an identity. -/
def lastWrite (i : String) (writes : List Write) : Option Write :=
  (writes.filter (·.identity? = some i)).getLast?

def identitiesOf (writes : List Write) : List String := writes.filterMap Write.identity?

/-- No two writers write the same identity. -/
def Apart {ν : Type} (writers : ν → List Write) : Prop :=
  ∀ v u, v ≠ u → ∀ i ∈ identitiesOf (writers v), i ∉ identitiesOf (writers u)

/-- The history has all that the writers do, the writes of each of them in its own order. -/
def Interleaving {ν : Type} [DecidableEq ν] (writers : ν → List Write)
    (history : List (ν × Write)) : Prop :=
  ∀ v, (history.filter (·.1 = v)).map Prod.snd = writers v

def afterHistory {ν : Type} (s : GatewayState) (history : List (ν × Write)) : GatewayState :=
  s.performAll (history.map Prod.snd)

section Sequence
variable {s t : GatewayState} {x : Write} {writes : List Write} {i : String} {e : Endpoint}

theorem performAll_concat : s.performAll (writes ++ [x]) = x.perform (s.performAll writes) :=
  List.foldl_concat ..

theorem lastWrite_concat :
    lastWrite i (writes ++ [x]) = if x.identity? = some i then some x else lastWrite i writes := by
  by_cases own : x.identity? = some i <;> simp [lastWrite, own]

theorem get?_perform_own (own : x.identity? = some i) :
    (x.perform s).get? i = some e ↔ x = .upsert i e := by
  cases x with
  | upsert identity stored =>
    obtain rfl := Option.some.inj own
    simp [Write.perform]
  | remove identity =>
    obtain rfl := Option.some.inj own
    simp [Write.perform]
  | setOnGateway => contradiction

theorem get?_perform_other (other : x.identity? ≠ some i) : (x.perform s).get? i = s.get? i := by
  cases x with
  | upsert identity stored =>
    have apart : i ≠ identity := fun same => other (congrArg some same.symm)
    rw [Write.perform, get?_upsert, if_neg apart]
  | remove identity =>
    have apart : i ≠ identity := fun same => other (congrArg some same.symm)
    rw [Write.perform, get?_remove, if_neg apart]
  | setOnGateway => rfl

/-- What a write leaves under an identity does not depend on what there is under the others. -/
theorem get?_perform_congr (same : s.get? i = t.get? i) :
    (x.perform s).get? i = (x.perform t).get? i := by
  cases x with
  | upsert | remove => simp only [Write.perform, get?_upsert, get?_remove, same]
  | setOnGateway => exact same

theorem get?_performAll_other (others : ∀ x ∈ writes, x.identity? ≠ some i) :
    (s.performAll writes).get? i = s.get? i := by
  induction writes using List.reverseRecOn with
  | nil => rfl
  | append_singleton writes x ih =>
    rw [performAll_concat, get?_perform_other (others x (by simp))]
    exact ih fun y member => others y (List.mem_append_left _ member)

/-- An identity stands for what was stored under it last, unless it was removed after that. -/
theorem get?_performAll (writes : List Write) (i : String) (e : Endpoint) :
    (initial.performAll writes).get? i = some e ↔ lastWrite i writes = some (.upsert i e) := by
  induction writes using List.reverseRecOn with
  | nil => exact iff_of_false (Option.some_ne_none _).symm (Option.some_ne_none _).symm
  | append_singleton writes x ih =>
    rw [performAll_concat, lastWrite_concat]
    by_cases own : x.identity? = some i
    · rw [get?_perform_own own, if_pos own, Option.some.injEq]
    · rw [get?_perform_other own, if_neg own, ih]

theorem onGateway_performAll (s : GatewayState) (writes : List Write) :
    (s.performAll writes).onGateway =
      ((writes.filterMap Write.flag?).getLast?).getD s.onGateway := by
  induction writes using List.reverseRecOn with
  | nil => rfl
  | append_singleton writes x ih =>
    rw [performAll_concat, List.filterMap_append]
    cases x with
    | upsert | remove => simpa [Write.perform, Write.flag?] using ih
    | setOnGateway value => simp [Write.perform, Write.flag?, setOnGateway]

end Sequence

section Contents
variable {s t : GatewayState} {i : String}

theorem mem_identities_iff : i ∈ s.identities ↔ ∃ e, s.get? i = some e :=
  (Table.isSome_get? s.remote i).symm.trans Option.isSome_iff_exists

theorem map_get?_identities (s : GatewayState) :
    s.identities.map s.get? = s.snapshot.map some := by
  simp only [identities, snapshot, Table.keys, Table.values, List.map_map]
  exact List.map_congr_left fun entry member =>
    (Table.get?_eq_some_iff s.remote entry.1 entry.2).mpr member

/-- States that hold the same under every identity hold the same entries. -/
theorem perm_entries (same : ∀ i, s.get? i = t.get? i) :
    s.remote.entries.Perm t.remote.entries := by
  rw [List.perm_ext_iff_of_nodup s.remote.distinct.of_map t.remote.distinct.of_map]
  rintro ⟨i, e⟩
  rw [← Table.get?_eq_some_iff, ← Table.get?_eq_some_iff]
  exact Eq.congr_left (same i)

end Contents

section Writers
variable {ν : Type} [DecidableEq ν] {writers : ν → List Write} {history other : List (ν × Write)}
  {i : String}

/-- If only one writer writes an identity, then it stands for what it would stand for if the
others did nothing. -/
theorem get?_performAll_filter {s t : GatewayState} {v : ν} (same : s.get? i = t.get? i)
    (only : ∀ entry ∈ history, entry.2.identity? = some i → entry.1 = v) :
    (s.afterHistory history).get? i =
      (t.performAll ((history.filter (·.1 = v)).map Prod.snd)).get? i := by
  induction history generalizing s t with
  | nil => exact same
  | cons entry rest ih =>
    have later : ∀ entry ∈ rest, entry.2.identity? = some i → entry.1 = v :=
      fun entry member => only entry (List.mem_cons_of_mem _ member)
    by_cases own : entry.1 = v
    · rw [List.filter_cons, if_pos (decide_eq_true own)]
      exact ih (get?_perform_congr same) later
    · rw [List.filter_cons, if_neg (by simpa using own)]
      refine ih ?_ later
      rw [get?_perform_other fun written => own (only entry List.mem_cons_self written), same]

theorem Apart.only (apart : Apart writers) {v : ν} {x : Write} (member : x ∈ writers v)
    (about : x.identity? = some i) : ∀ u, ∀ y ∈ writers u, y.identity? = some i → u = v := by
  intro u y own same
  by_contra other
  exact apart u v other i (List.mem_filterMap.mpr ⟨y, own, same⟩)
    (List.mem_filterMap.mpr ⟨x, member, about⟩)

theorem Interleaving.mem (interleaving : Interleaving writers history) {entry : ν × Write}
    (member : entry ∈ history) : entry.2 ∈ writers entry.1 := by
  rw [← interleaving entry.1]
  exact List.mem_map_of_mem (List.mem_filter.mpr ⟨member, decide_eq_true rfl⟩)

theorem Interleaving.get? (interleaving : Interleaving writers history) (s : GatewayState) {v : ν}
    (only : ∀ u, ∀ x ∈ writers u, x.identity? = some i → u = v) :
    (s.afterHistory history).get? i = (s.performAll (writers v)).get? i := by
  rw [← interleaving v]
  exact get?_performAll_filter rfl fun entry member =>
    only entry.1 entry.2 (interleaving.mem member)

/-- Writers of identities of their own leave the same behind, however they take turns. -/
theorem Interleaving.get?_eq (interleaving : Interleaving writers history)
    (another : Interleaving writers other) (s : GatewayState)
    (apart : Apart writers) (i : String) :
    (s.afterHistory history).get? i = (s.afterHistory other).get? i := by
  by_cases written : ∃ v, ∃ x ∈ writers v, x.identity? = some i
  · obtain ⟨v, x, member, about⟩ := written
    have only := apart.only member about
    rw [interleaving.get? s only, another.get? s only]
  · have silent : ∀ {entries : List (ν × Write)}, Interleaving writers entries →
        (s.afterHistory entries).get? i = s.get? i := fun {entries} complete =>
      get?_performAll_other fun x member about => by
        obtain ⟨entry, among, rfl⟩ := List.mem_map.mp member
        exact written ⟨entry.1, entry.2, complete.mem among, about⟩
    rw [silent interleaving, silent another]

end Writers

/-- What stands under an identity follows from the last write of it. So writers of identities of
their own leave the same behind, however they take turns; and a removal answers whether there was an
entry. -/
theorem store_follows_writes {ν : Type} [DecidableEq ν] (writes : List Write)
    (writers : ν → List Write) (apart : Apart writers) :
    let s := initial.performAll writes
    (∀ i, i ∈ s.identities ↔ ∃ e, lastWrite i writes = some (.upsert i e)) ∧
    s.identities.Nodup ∧
    (∀ i e, s.get? i = some e ↔ lastWrite i writes = some (.upsert i e)) ∧
    s.identities.map s.get? = s.snapshot.map some ∧
    s.size = s.snapshot.length ∧ (s.isEmpty = true ↔ s.snapshot = []) ∧
    (∀ i, (s.remove i).1 = true ↔ i ∈ s.identities) ∧
    s.onGateway = ((writes.filterMap Write.flag?).getLast?).getD false ∧
    ∀ history, Interleaving writers history →
      (∀ v, ∀ x ∈ writers v, ∀ i, x.identity? = some i →
        (s.afterHistory history).get? i = (s.performAll (writers v)).get? i) ∧
      ∀ other, Interleaving writers other →
        (s.afterHistory history).remote.entries.Perm (s.afterHistory other).remote.entries := by
  intro s
  have size : s.size = s.snapshot.length := (List.length_map _).symm
  refine ⟨fun i => ?_, s.remote.distinct, get?_performAll writes, map_get?_identities s, size, ?_,
    fun i => ?_, onGateway_performAll initial writes, fun history interleaving => ⟨?_, ?_⟩⟩
  · rw [mem_identities_iff]
    exact exists_congr (get?_performAll writes i)
  · rw [isEmpty, decide_eq_true_iff, size, List.length_eq_zero_iff]
  · exact Table.isSome_get? s.remote i
  · intro v x member i about
    exact interleaving.get? s (apart.only member about)
  · intro other another
    exact perm_entries (interleaving.get?_eq another s apart)

def cabled (cable : String) : Endpoint := ⟨{}, { clusterId := "west", cableName := cable }⟩

/-- Two writers take turns, or one waits for the other: one stores an endpoint twice, the other
removes one that was there before, stores another and clears the flag. -/
theorem writers_taking_turns :
    let writes : List Write := [.upsert "c" (cabled "old"), .setOnGateway true]
    let one : List Write := [.upsert "a" (cabled "first"), .upsert "a" (cabled "second")]
    let two : List Write := [.remove "c", .upsert "b" (cabled "new"), .setOnGateway false]
    let history :=
      [(true, one[0]), (false, two[0]), (false, two[1]), (true, one[1]), (false, two[2])]
    let waiting := two.map (false, ·) ++ one.map (true, ·)
    let s := initial.performAll writes
    (s.remove "c").1 = true ∧ (s.remove "a").1 = false ∧ s.onGateway = true ∧
      (s.afterHistory history).identities = ["a", "b"] ∧
      (s.afterHistory waiting).identities = ["b", "a"] ∧
      (s.afterHistory history).get? "a" = (s.performAll one).get? "a" ∧
      (s.afterHistory history).remote.entries.Perm (s.afterHistory waiting).remote.entries := by
  intro writes one two history waiting s
  let writers : Bool → List Write := fun v => if v then one else two
  have apart : Apart writers := by
    intro v u other
    cases v <;> cases u <;> first | contradiction | decide
  have taken : Interleaving writers history := fun v => by cases v <;> rfl
  have waited : Interleaving writers waiting := fun v => by cases v <;> rfl
  obtain ⟨-, -, -, -, -, -, answered, flagged, turns⟩ := store_follows_writes writes writers apart
  obtain ⟨kept, alike⟩ := turns history taken
  have unanswered : (s.remove "a").1 = false :=
    Bool.not_eq_true _ ▸ fun present => absurd ((answered "a").mp present) (by decide)
  exact ⟨(answered "c").mpr (by decide), unanswered, flagged, by decide, by decide,
    kept true one[0] List.mem_cons_self "a" rfl, alike waiting waited⟩

end GatewayEvents.GatewayState

import GatewayEvents.Proofs.Json.Normal
import GatewayEvents.Proofs.Json.WireType
import Mathlib.Data.List.Find

/-! Records by their facets. A facet of a record has a key and a type on the wire, and a place in
the record that no other one touches (`Layout`). So it makes no difference in which order the facets
are filled in (`fillPresent_eq_ok_iff`): an object is read as the record whose facets it shows
(`ofObject_eq_ok_iff`), or refused for its least fault (`ofObject_eq_error_iff`), and an array is
read like the object that has its items under the first keys (`ofArray_eq_ok_iff`). -/
namespace GatewayEvents.Json

namespace Record
variable {r : Record σ} {fields : List (Field σ)} {members others : List (String × Json)} {s t : σ}
  {items : List Json} {given read : Nat}

theorem fillPresent_congr (same : ∀ f ∈ fields, lookup f.key others = lookup f.key members) :
    fillPresent others fields s = fillPresent members fields s := by
  induction fields generalizing s with
  | nil => rfl
  | cons f rest ih =>
    obtain ⟨here, later⟩ := List.forall_mem_cons.mp same
    rw [fillPresent, fillPresent, here]
    split
    next => exact ih later
    next j _ =>
      refine congrArg (f.fill j s >>= ·) (funext fun t => ?_)
      exact ih later

/-- An object is read by what stands under the keys of the fields alone. -/
theorem ofObject_congr (same : ∀ f ∈ r.fields, lookup f.key others = lookup f.key members) :
    r.ofObject others = r.ofObject members := by
  have filled :
      fillPresent others r.inKeyOrder r.blank = fillPresent members r.inKeyOrder r.blank :=
    fillPresent_congr fun f member => same f (List.mem_mergeSort.mp member)
  have absent : r.absent? others = r.absent? members :=
    List.find?_congr fun f member => by rw [same f member]
  rw [ofObject, ofObject, filled, absent]

def Paired (members : List (String × Json)) (fields : List (Field σ)) (items : List Json) : Prop :=
  ∀ (i : Nat) (f : Field σ), fields[i]? = some f → lookup f.key members = items[i]?

theorem Paired.tail {f : Field σ} (paired : Paired members (f :: fields) items) :
    Paired members fields items.tail := fun i g place => by
  rw [List.getElem?_tail]
  exact paired (i + 1) g place

/-- Items are taken in like members, as long as there is a field for each of them and an item for
each field that needs one. -/
theorem fillItems_eq_ok_iff (paired : Paired members fields items) :
    r.fillItems given fields items read s = .ok t ↔
      items.length ≤ fields.length ∧ (∀ f ∈ fields, f.required → (lookup f.key members).isSome) ∧
        fillPresent members fields s = .ok t := by
  induction fields generalizing items read s with
  | nil =>
    cases items with
    | nil => simp [fillItems, fillPresent]
    | cons => simp [fillItems]
  | cons f rest ih =>
    have first : lookup f.key members = items[0]? := paired 0 f rfl
    rw [List.forall_mem_cons, fillPresent, first]
    cases items with
    | nil =>
      -- With no items left, every field that is left is absent among the members too.
      have later : Paired members rest [] := paired.tail
      rw [fillItems]
      by_cases required : f.required = true
      · simp [required]
      · simp [required, ih later]
    | cons j items =>
      have later : Paired members rest items := paired.tail
      rw [fillItems]
      simp only [List.getElem?_cons_zero, Option.isSome_some, implies_true, true_and,
        List.length_cons, Nat.add_le_add_iff_right, bind_eq_ok_iff, ih later]
      constructor
      · rintro ⟨u, filled, fits, complete, others⟩
        exact ⟨fits, complete, u, filled, others⟩
      · rintro ⟨fits, complete, u, filled, others⟩
        exact ⟨u, filled, fits, complete, others⟩

end Record

/-- A facet of a record: where it stands on the wire, and where in the record. -/
structure Facet (σ : Type) where
  key : String
  required : Bool
  type : WireType
  get : σ → type.Value
  put : type.Value → σ → σ

namespace Facet

def field (p : Facet σ) : Field σ :=
  ⟨p.key, p.required, p.type.reader.shape, fun j record => (p.type.reader j).map (p.put · record)⟩

/-- Neither facet is touched by what is put into the other. -/
def Apart (p q : Facet σ) : Prop :=
  (∀ v s, p.get (q.put v s) = p.get s) ∧ ∀ v s, q.get (p.put v s) = q.get s

theorem Apart.symm {p q : Facet σ} (apart : p.Apart q) : q.Apart p := ⟨apart.2, apart.1⟩

/-- What is the matter with the member under the key, if there is one. -/
def fault? (members : List (String × Json)) (p : Facet σ) : Option DecodeError :=
  (lookup p.key members).bind p.type.fault?

/-- The facet is what the JSON that is found says, or as it was if none is found. -/
def Takes (p : Facet σ) (found : Option Json) (before after : σ) : Prop :=
  match found with
  | some j => p.type.Denotes j (p.get after)
  | none => p.get after = p.get before

/-- The facet is what is found under its key, and something is if it has to be. -/
def Shows (p : Facet σ) (found : Option Json) (blank s : σ) : Prop :=
  (p.required → found.isSome) ∧ p.Takes found blank s

theorem fault?_eq_none_iff {members : List (String × Json)} {p : Facet σ} :
    p.fault? members = none ↔ ∀ j, lookup p.key members = some j → p.type.Holds j := by
  simp only [fault?, Option.bind_eq_none_iff, WireType.fault?_eq_none_iff]

theorem Takes.faultless {p : Facet σ} {members : List (String × Json)} {s t : σ}
    (takes : p.Takes (lookup p.key members) s t) : p.fault? members = none :=
  fault?_eq_none_iff.mpr fun j found => by
    rw [found] at takes
    exact ⟨p.get t, takes⟩

theorem Shows.written {p : Facet σ} {j : Json} {blank s : σ}
    (denotes : p.type.Denotes j (p.get s)) : p.Shows (some j) blank s :=
  ⟨fun _ => rfl, denotes⟩

/-- A facet that need not be there may be left out where it is what it is by default. -/
theorem Shows.unless {p : Facet σ} {j : Json} {blank s : σ} {left : Prop} [Decidable left]
    (spare : p.required = false) (default : left → p.get s = p.get blank)
    (denotes : p.type.Denotes j (p.get s)) :
    p.Shows (if left then none else some j) blank s := by
  split
  next omitted => exact ⟨fun required => by simp [spare] at required, default omitted⟩
  next => exact .written denotes

end Facet

structure Layout (r : Record σ) where
  facets : List (Facet σ)
  fields_eq : r.fields = facets.map Facet.field
  distinct : (facets.map Facet.key).Nodup
  get_put : ∀ p ∈ facets, ∀ v s, p.get (p.put v s) = v
  apart : facets.Pairwise Facet.Apart
  ext : ∀ s t, (∀ p ∈ facets, p.get s = p.get t) → s = t

section Filling
variable {facets : List (Facet σ)} {members : List (String × Json)} {s t : σ} {e : DecodeError}

theorem fillPresent_eq_error_iff :
    Record.fillPresent members (facets.map Facet.field) s = .error e ↔
      facets.findSome? (Facet.fault? members) = some e := by
  induction facets generalizing s with
  | nil => simp [Record.fillPresent]
  | cons p rest ih =>
    rw [List.map_cons, Record.fillPresent, List.findSome?_cons, Facet.fault?]
    cases found : lookup p.key members with
    | none => simpa [Facet.field, found] using ih
    | some j =>
      simp only [Facet.field, found, Option.bind_some]
      cases given : p.type.reader j with
      | error fault => simp [WireType.reader_eq_error_iff.mp given, Except.map, bind, Except.bind]
      | ok v =>
        have holds : p.type.Holds j := ⟨v, WireType.reader_eq_ok_iff.mp given⟩
        rw [WireType.fault?_eq_none_iff.mpr holds]
        exact ih

theorem exists_fillPresent_eq_ok_iff :
    (∃ t, Record.fillPresent members (facets.map Facet.field) s = .ok t) ↔
      ∀ p ∈ facets, p.fault? members = none := by
  rw [← List.findSome?_eq_none_iff]
  cases filled : Record.fillPresent members (facets.map Facet.field) s with
  | error e => simp [fillPresent_eq_error_iff.mp filled]
  | ok t =>
    have faultless : facets.findSome? (Facet.fault? members) = none :=
      Option.eq_none_iff_forall_ne_some.mpr fun e failed => by
        cases filled.symm.trans (fillPresent_eq_error_iff.mpr failed)
    simp [faultless]

/-- Filling in one facet after another, what was put in stays, and so does all else. -/
theorem takes_of_fillPresent (apart : facets.Pairwise Facet.Apart)
    (get_put : ∀ p ∈ facets, ∀ v s, p.get (p.put v s) = v)
    (filled : Record.fillPresent members (facets.map Facet.field) s = .ok t) :
    (∀ p ∈ facets, p.Takes (lookup p.key members) s t) ∧
      ∀ q : Facet σ, (∀ p ∈ facets, q.Apart p) → q.get t = q.get s := by
  -- The second half is for the induction: what is put in later leaves alone what stands already.
  induction facets generalizing s with
  | nil =>
    cases filled
    simp
  | cons p rest ih =>
    obtain ⟨others, apart⟩ := List.pairwise_cons.mp apart
    have get_put_rest : ∀ q ∈ rest, ∀ v s, q.get (q.put v s) = v :=
      fun q member => get_put q (List.mem_cons_of_mem _ member)
    rw [List.map_cons, Record.fillPresent] at filled
    cases found : lookup p.key members with
    | none =>
      simp only [Facet.field, found] at filled
      obtain ⟨takes, keeps⟩ := ih apart get_put_rest filled
      refine ⟨List.forall_mem_cons.mpr ⟨?_, takes⟩, fun q away => ?_⟩
      · rw [found]
        exact keeps p others
      · exact keeps q (List.forall_mem_cons.mp away).2
    | some j =>
      simp only [Facet.field, found, bind_eq_ok_iff, map_eq_ok_iff] at filled
      obtain ⟨_, ⟨v, given, rfl⟩, filled⟩ := filled
      obtain ⟨takes, keeps⟩ := ih apart get_put_rest filled
      refine ⟨List.forall_mem_cons.mpr ⟨?_, fun q member => ?_⟩, fun q away => ?_⟩
      · have placed : p.get t = v := (keeps p others).trans (get_put p List.mem_cons_self v s)
        rw [found, Facet.Takes, placed]
        exact WireType.reader_eq_ok_iff.mp given
      · have kept : q.get (p.put v s) = q.get s := (others q member).2 v s
        have taken := takes q member
        unfold Facet.Takes at taken ⊢
        rwa [kept] at taken
      · obtain ⟨here, later⟩ := List.forall_mem_cons.mp away
        exact (keeps q later).trans (here.1 v s)

end Filling

namespace Layout
variable {r : Record σ} (layout : Layout r) {members : List (String × Json)} {blank s t : σ}
  {e : DecodeError}

/-- The facets in the order in which an object is read. -/
def inKeyOrder : List (Facet σ) := layout.facets.mergeSort fun p q => decide (p.key ≤ q.key)

theorem inKeyOrder_fields : r.inKeyOrder = layout.inKeyOrder.map Facet.field := by
  have alike : ∀ p ∈ layout.facets, ∀ q ∈ layout.facets,
      decide (p.key ≤ q.key) = decide (p.field.key ≤ q.field.key) := fun _ _ _ _ => rfl
  rw [Record.inKeyOrder, layout.fields_eq]
  exact (List.map_mergeSort alike).symm

theorem perm_inKeyOrder : layout.inKeyOrder.Perm layout.facets := List.mergeSort_perm _ _

theorem ascending_inKeyOrder : layout.inKeyOrder.Pairwise fun p q => p.key < q.key := by
  have sorted : layout.inKeyOrder.Pairwise fun p q => p.key ≤ q.key := by
    refine (List.pairwise_mergeSort (fun p q k => ?_) (fun p q => ?_) _).imp of_decide_eq_true
    · simpa only [decide_eq_true_eq] using String.le_trans
    · simpa only [Bool.or_eq_true, decide_eq_true_eq] using String.le_total p.key q.key
  have distinct : (layout.inKeyOrder.map Facet.key).Nodup :=
    (layout.perm_inKeyOrder.map Facet.key).nodup_iff.mpr layout.distinct
  have apart : layout.inKeyOrder.Pairwise fun p q => p.key ≠ q.key :=
    List.pairwise_map.mp (List.nodup_iff_pairwise_ne.mp distinct)
  exact sorted.imp₂ (fun _ _ below other => Std.lt_of_le_of_ne below other) apart

/-- The first fault is that of the least key that has one. -/
theorem findSome?_inKeyOrder {f : Facet σ → Option DecodeError} :
    layout.inKeyOrder.findSome? f = some e ↔
      ∃ p ∈ layout.facets, f p = some e ∧ ∀ q ∈ layout.facets, q.key < p.key → f q = none := by
  have ascending := layout.ascending_inKeyOrder
  simp only [← layout.perm_inKeyOrder.mem_iff]
  constructor
  · intro found
    obtain ⟨before, p, after, split, failing, faultless⟩ := List.findSome?_eq_some_iff.mp found
    -- Keys ascend strictly, so a lesser one can only stand before.
    rw [split] at ascending ⊢
    refine ⟨p, by simp, failing, fun q member below => ?_⟩
    rcases List.mem_append.mp member with earlier | later
    · exact faultless q earlier
    · rcases List.mem_cons.mp later with rfl | later
      · exact (String.lt_irrefl _ below).elim
      · have above : p.key < q.key :=
          List.rel_of_pairwise_cons (List.pairwise_append.mp ascending).2.1 later
        exact (String.lt_asymm below above).elim
  · rintro ⟨p, member, failing, faultless⟩
    obtain ⟨before, after, split⟩ := List.append_of_mem member
    refine List.findSome?_eq_some_iff.mpr ⟨before, p, after, split, failing, fun q earlier => ?_⟩
    rw [split] at ascending faultless
    exact faultless q (List.mem_append_left _ earlier)
      ((List.pairwise_append.mp ascending).2.2 q earlier p List.mem_cons_self)

def requiredKeys : List String := (layout.facets.filter (·.required)).map Facet.key

def missing? (members : List (String × Json)) : Option String :=
  layout.requiredKeys.find? fun key => (lookup key members).isNone

theorem key_absent? : (r.absent? members).map Field.key = layout.missing? members := by
  rw [Record.absent?, layout.fields_eq, List.find?_map, Option.map_map, missing?, requiredKeys,
    List.find?_map, List.find?_filter]
  refine congrArg (fun test => (layout.facets.find? test).map Facet.key) (funext fun p => ?_)
  simp only [Function.comp_apply, Facet.field, Bool.decide_and, Bool.decide_eq_true]

theorem missing?_eq_none_iff : layout.missing? members = none ↔
    ∀ p ∈ layout.facets, p.required → (lookup p.key members).isSome := by
  simp [missing?, requiredKeys, Option.isSome_iff_ne_none]

theorem ofObject_eq_bind : r.ofObject members =
    Record.fillPresent members (layout.inKeyOrder.map Facet.field) r.blank >>= fun t =>
      match layout.missing? members with
      | some key => .error (.missing key)
      | none => .ok t := by
  rw [Record.ofObject, layout.inKeyOrder_fields, ← layout.key_absent?]
  congr 1
  funext t
  cases r.absent? members <;> rfl

theorem eq_of_takes {found : Facet σ → Option Json}
    (first : ∀ p ∈ layout.facets, p.Takes (found p) blank s)
    (second : ∀ p ∈ layout.facets, p.Takes (found p) blank t) : s = t := by
  refine layout.ext s t fun p member => ?_
  have here := first p member
  have there := second p member
  unfold Facet.Takes at here there
  split at here
  next j shown =>
    rw [shown] at there
    exact here.unique there
  next absent =>
    rw [absent] at there
    exact here.trans there.symm

/-- In which order the facets are filled in makes no difference. -/
theorem fillPresent_eq_ok_iff {order : List (Facet σ)} (perm : order.Perm layout.facets) :
    Record.fillPresent members (order.map Facet.field) blank = .ok s ↔
      ∀ p ∈ layout.facets, p.Takes (lookup p.key members) blank s := by
  have takes {t : σ}
      (filled : Record.fillPresent members (order.map Facet.field) blank = .ok t) :
      ∀ p ∈ layout.facets, p.Takes (lookup p.key members) blank t := fun p member =>
    (takes_of_fillPresent ((perm.pairwise_iff Facet.Apart.symm).mpr layout.apart)
      (fun q inOrder => layout.get_put q (perm.mem_iff.mp inOrder)) filled).1 p
        (perm.mem_iff.mpr member)
  refine ⟨takes, fun shown => ?_⟩
  have faultless : ∀ p ∈ order, p.fault? members = none := fun p member =>
    (shown p (perm.mem_iff.mp member)).faultless
  obtain ⟨t, filled⟩ := exists_fillPresent_eq_ok_iff.mpr faultless
  rw [filled, layout.eq_of_takes (takes filled) shown]

/-- An object is read as the record whose facets are what it shows. -/
theorem ofObject_eq_ok_iff : r.ofObject members = .ok s ↔
    ∀ p ∈ layout.facets, p.Shows (lookup p.key members) r.blank s := by
  simp only [Facet.Shows, forall_and]
  rw [← layout.missing?_eq_none_iff, ← layout.fillPresent_eq_ok_iff layout.perm_inKeyOrder,
    layout.ofObject_eq_bind, bind_eq_ok_iff]
  cases layout.missing? members with
  | none => simp
  | some key => simp

theorem exists_filled_iff :
    (∃ t, Record.fillPresent members (layout.inKeyOrder.map Facet.field) r.blank = .ok t) ↔
      ∀ p ∈ layout.facets, p.fault? members = none := by
  simp only [exists_fillPresent_eq_ok_iff, layout.perm_inKeyOrder.mem_iff]

theorem exists_ofObject_eq_ok_iff : (∃ s, r.ofObject members = .ok s) ↔
    layout.missing? members = none ∧ ∀ p ∈ layout.facets, p.fault? members = none := by
  simp only [← layout.exists_filled_iff, layout.ofObject_eq_bind, bind_eq_ok_iff]
  cases layout.missing? members with
  | none => simp
  | some key => simp

/-- An object is refused for the fault of the least key that has one, and if none has one for the
first missing key. -/
theorem ofObject_eq_error_iff : r.ofObject members = .error e ↔
    (∃ p ∈ layout.facets, p.fault? members = some e ∧
      ∀ q ∈ layout.facets, q.key < p.key → q.fault? members = none) ∨
    (∀ p ∈ layout.facets, p.fault? members = none) ∧
      ∃ key, layout.missing? members = some key ∧ e = .missing key := by
  rw [layout.ofObject_eq_bind, bind_eq_error_iff, fillPresent_eq_error_iff,
    layout.findSome?_inKeyOrder, ← layout.exists_filled_iff]
  refine or_congr_right ?_
  cases layout.missing? members with
  | none => simp
  | some key => simp [eq_comm]

/-- What is written comes back as the record of which it shows every facet. -/
theorem decode_members_eq_ok_iff {fields : List (String × Option Json)}
    (ascending : (fields.map Prod.fst).Pairwise (· < ·)) :
    r.decode (Json.members fields) = .ok s ↔
      ∀ p ∈ layout.facets, p.Shows (Entries.lookup p.key fields).join r.blank s := by
  simp only [← lookup_present (nodup_of_ascending (List.pairwise_map.mp ascending))]
  exact layout.ofObject_eq_ok_iff

theorem paired_sorted_zip (items : List Json) :
    Record.Paired (sorted ((layout.facets.map Facet.key).zip items)) r.fields items := by
  intro i f here
  rw [layout.fields_eq, List.getElem?_map, Option.map_eq_some_iff] at here
  obtain ⟨p, place, rfl⟩ := here
  rw [lookup_sorted (nodup_keys_zip layout.distinct items)]
  exact lookup_zip layout.distinct (by rw [List.getElem?_map, place]; rfl)

/-- An array is read like the object that has its items under the first keys, and it must not have
more items than there are keys. -/
theorem ofArray_eq_ok_iff {items : List Json} : r.ofArray items = .ok s ↔
    items.length ≤ layout.facets.length ∧
      r.ofObject (sorted ((layout.facets.map Facet.key).zip items)) = .ok s := by
  rw [Record.ofArray, Record.fillItems_eq_ok_iff (layout.paired_sorted_zip items),
    layout.ofObject_eq_ok_iff, layout.fields_eq, layout.fillPresent_eq_ok_iff (.refl _),
    List.length_map, List.forall_mem_map]
  simp only [Facet.Shows, forall_and]
  rfl

end Layout
end GatewayEvents.Json

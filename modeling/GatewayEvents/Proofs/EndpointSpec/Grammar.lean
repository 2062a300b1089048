import GatewayEvents.Proofs.Json.Layout
import GatewayEvents.Resource.Endpoint.Wire

/-! The grammar of endpoint specs: ten facets, each of its type, three of them required. An object
is read by its members under the known keys and refused for the first of them, in the order of
bytes, that is not of its type (`ObjectRules`). An array is read as the object that has its items
under the keys in declaration order. -/
namespace GatewayEvents.EndpointSpec
open Json

/-- The facets in declaration order, each under its key on the wire. -/
def grammar : List (Facet EndpointSpec) := [
  ⟨"cluster_id", true, .text, clusterId, fun v s => { s with clusterId := v }⟩,
  ⟨"cable_name", true, .text, cableName, fun v s => { s with cableName := v }⟩,
  ⟨"healthCheckIP", false, .text, healthCheckIp, fun v s => { s with healthCheckIp := v }⟩,
  ⟨"hostname", true, .text, hostname, fun v s => { s with hostname := v }⟩,
  ⟨"subnets", false, .texts, subnets, fun v s => { s with subnets := v }⟩,
  ⟨"private_ip", false, .text, privateIp, fun v s => { s with privateIp := v }⟩,
  ⟨"public_ip", false, .text, publicIp, fun v s => { s with publicIp := v }⟩,
  ⟨"nat_enabled", false, .boolean, natEnabled, fun v s => { s with natEnabled := v }⟩,
  ⟨"backend", false, .text, backend, fun v s => { s with backend := v }⟩,
  ⟨"backend_config", false, .textMap, backendConfig, fun v s => { s with backendConfig := v }⟩]

def knownKeys : List String := grammar.map Facet.key

def requiredKeys : List String := ["cluster_id", "cable_name", "hostname"]

theorem ext_grammar (s t : EndpointSpec) (same : ∀ p ∈ grammar, p.get s = p.get t) : s = t := by
  simp only [grammar, List.forall_mem_cons] at same
  cases s; cases t
  simp_all

def layout : Layout record where
  facets := grammar
  fields_eq := rfl
  distinct := by decide
  get_put := by simp [grammar]
  apart := by simp [grammar, Facet.Apart]
  ext := ext_grammar

/-- One key stands before another in the order of their bytes. -/
def Precedes (a b : String) : Prop := a.toUTF8.data.toList < b.toUTF8.data.toList

theorem precedes_iff {p q : Facet EndpointSpec} (known : p ∈ grammar) (other : q ∈ grammar) :
    Precedes p.key q.key ↔ p.key < q.key := by
  have all : ∀ a ∈ knownKeys, ∀ b ∈ knownKeys,
      (a.toUTF8.data.toList < b.toUTF8.data.toList ↔ a < b) := by decide
  exact all p.key (List.mem_map_of_mem known) q.key (List.mem_map_of_mem other)

structure ObjectRules (members : List (String × Json)) : Prop where
  accepted : (∃ s, decode (.object members) = .ok s) ↔
    (∀ key ∈ requiredKeys, (lookup key members).isSome) ∧
      ∀ p ∈ grammar, ∀ j, lookup p.key members = some j → p.type.Holds j
  shown : ∀ s, decode (.object members) = .ok s ↔
    ∀ p ∈ grammar, p.Shows (lookup p.key members) {} s
  unknown : decode (.object (members.filter fun member => member.1 ∈ knownKeys)) =
    decode (.object members)
  refused : ∀ e, decode (.object members) = .error e ↔
    (∃ p ∈ grammar, p.fault? members = some e ∧
      ∀ q ∈ grammar, Precedes q.key p.key → q.fault? members = none) ∨
    (∀ p ∈ grammar, p.fault? members = none) ∧
      ∃ key, requiredKeys.find? (fun key => (lookup key members).isNone) = some key ∧
        e = .missing key

/-- How any JSON is read: objects by their rules, arrays like objects, and nothing else. -/
def Rules : Json → Prop
  | .object members => ObjectRules members
  | .array items => ∀ s, decode (.array items) = .ok s ↔
      4 ≤ items.length ∧ items.length ≤ 10 ∧
        decode (.object (sorted (knownKeys.zip items))) = .ok s
  | j => decode j = .error (.mismatch j (.record "EndpointSpec"))

section Objects
variable {members : List (String × Json)} {s : EndpointSpec}

theorem missing?_eq_none_iff : layout.missing? members = none ↔
    ∀ key ∈ requiredKeys, (lookup key members).isSome := by
  have keys : layout.requiredKeys = requiredKeys := rfl
  simp [Layout.missing?, keys, Option.isSome_iff_ne_none]

theorem exists_decode_object_iff : (∃ s, decode (.object members) = .ok s) ↔
    (∀ key ∈ requiredKeys, (lookup key members).isSome) ∧
      ∀ p ∈ grammar, ∀ j, lookup p.key members = some j → p.type.Holds j := by
  simp only [← missing?_eq_none_iff, ← Facet.fault?_eq_none_iff]
  exact layout.exists_ofObject_eq_ok_iff

theorem objectRules (members : List (String × Json)) : ObjectRules members where
  accepted := exists_decode_object_iff
  shown _ := layout.ofObject_eq_ok_iff
  unknown := Record.ofObject_congr fun f member => by
    have known : f.key ∈ knownKeys := List.mem_map_of_mem (f := Field.key) member
    exact lookup_filter (fun key => decide (key ∈ knownKeys)) (decide_eq_true known)
  refused e := by
    have first (p : Facet EndpointSpec) (member : p ∈ grammar) :
        (∀ q ∈ grammar, Precedes q.key p.key → q.fault? members = none) ↔
          ∀ q ∈ grammar, q.key < p.key → q.fault? members = none :=
      forall₂_congr fun q other => imp_congr_left (precedes_iff other member)
    refine layout.ofObject_eq_error_iff.trans (or_congr_left (exists_congr fun p => ?_))
    exact and_congr_right fun member => and_congr_right fun _ => (first p member).symm

end Objects

/-- An array that is read at all has a host name, which is the fourth item. -/
theorem four_le_length {items : List Json} {s : EndpointSpec}
    (read : decode (.object (sorted (knownKeys.zip items))) = .ok s) : 4 ≤ items.length := by
  by_contra short
  -- Three items at most are all under the first three keys.
  have distinct : knownKeys.Nodup := layout.distinct
  have present := (exists_decode_object_iff.mp ⟨s, read⟩).1 "hostname" (by decide)
  rw [lookup_sorted (nodup_keys_zip distinct items), lookup, Entries.isSome_lookup,
    keys_zip] at present
  have few : knownKeys.take items.length = (knownKeys.take 3).take items.length := by
    rw [List.take_take, Nat.min_eq_left (by omega)]
  rw [few] at present
  exact absurd (List.mem_of_mem_take present) (by decide)

/-- Specs are read by the rules of their grammar, whatever they are to be read from. -/
theorem decode_obeys_grammar (j : Json) : Rules j := by
  cases j with
  | object members => exact objectRules members
  | array items =>
    intro s
    have rule : decode (.array items) = .ok s ↔ items.length ≤ 10 ∧
        decode (.object (sorted (knownKeys.zip items))) = .ok s := layout.ofArray_eq_ok_iff
    rw [rule]
    exact ⟨fun ⟨fits, read⟩ => ⟨four_le_length read, fits, read⟩, And.right⟩
  | null | bool _ | integer _ | real _ | text _ => exact rfl

/-- Of two members that are no texts the one under the lesser key is blamed, though the other one is
declared first, and though what is required is missing. -/
theorem lesser_key_blamed :
    decode (.object [("backend", .null), ("cluster_id", .bool true), ("colour", .integer 3)]) =
      .error (.mismatch .null .text) := by
  have rules : ObjectRules _ := decode_obeys_grammar
    (.object [("backend", .null), ("cluster_id", .bool true), ("colour", .integer 3)])
  have backend : grammar[8] ∈ grammar := List.getElem_mem _
  refine (rules.refused _).mpr (.inl ⟨_, backend, rfl, fun q other before => ?_⟩)
  have none : ∀ key ∈ knownKeys, ¬ Precedes key "backend" := by
    unfold Precedes
    decide
  exact (none q.key (List.mem_map_of_mem other) before).elim

end GatewayEvents.EndpointSpec

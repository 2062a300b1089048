import GatewayEvents.Proofs.EndpointSpec.Grammar
import GatewayEvents.RetryPolicy
import GatewayEvents.Settings

/-! Writing and reading back. What is written of a record shows every facet of it, and leaves out
only what is so by default; so the record comes back (`Layout.roundTrips`), the same for specs,
settings and policies (`wire_formats_round_trip`). -/
namespace GatewayEvents
open Json

/-- Every value comes back from what is written of it, which is in order. Whatever is read, what is
written of it reads the same and is written no other way. -/
structure Json.RoundTrips (reader : Reader α) (write : α → Json) : Prop where
  normal : ∀ v, (write v).normal = write v
  back : ∀ v, reader (write v) = .ok v
  settled : ∀ j c, (reader j).map write = .ok c →
    reader c = reader j ∧ (reader c).map write = .ok c

/-- A record comes back if what is written of it, with ascending keys, shows every facet of it. -/
theorem Json.Layout.roundTrips {r : Record σ} (layout : Layout r) {write : σ → Json}
    {fields : σ → List (String × Option Json)} (written : ∀ s, write s = members (fields s))
    (ascending : ∀ s, ((fields s).map Prod.fst).Pairwise (· < ·))
    (shown : ∀ s, ∀ p ∈ layout.facets, p.Shows (Entries.lookup p.key (fields s)).join r.blank s)
    (normal : ∀ s, ∀ field ∈ fields s, ∀ j, field.2 = some j → j.normal = j) :
    RoundTrips r.decode write := by
  have back (s : σ) : r.decode (write s) = .ok s := by
    rw [written]
    exact (layout.decode_members_eq_ok_iff (ascending s)).mpr (shown s)
  refine ⟨fun s => ?_, back, fun j c first => ?_⟩
  · rw [written]
    exact normal_members (ascending s) (normal s)
  · obtain ⟨s, read, rfl⟩ := map_eq_ok_iff.mp first
    rw [back, read]
    exact ⟨rfl, rfl⟩

namespace EndpointSpec

theorem roundTrips : RoundTrips decode encode := by
  refine layout.roundTrips (fun _ => rfl) (fun s => ?_) (fun s p member => ?_) fun s => ?_
  · simp only [List.map_cons, List.map_nil]
    decide
  · have address : s.healthCheckIp.isEmpty → s.healthCheckIp = "" := by simp
    have settings : s.backendConfig.isEmpty → s.backendConfig = .empty :=
      StringMap.eq_empty_of_isEmpty
    simp only [layout, grammar, List.mem_cons, List.not_mem_nil, or_false] at member
    rcases member with rfl | rfl | rfl | rfl | rfl | rfl | rfl | rfl | rfl | rfl
    exacts [.written rfl, .written rfl, .unless rfl address rfl, .written rfl, .written rfl,
      .written rfl, .written rfl, .written rfl, .written rfl,
      .unless rfl settings ⟨s.backendConfig.entries, rfl, fun _ => rfl⟩]
  · simp

end EndpointSpec

namespace Settings

def layout : Layout record where
  facets := [
    ⟨"cluster_id", false, .text, clusterId, fun v s => { s with clusterId := v }⟩,
    ⟨"namespace", false, .optionalText, namespaceName, fun v s => { s with namespaceName := v }⟩,
    ⟨"network_plugin", false, .text, networkPlugin, fun v s => { s with networkPlugin := v }⟩]
  fields_eq := rfl
  distinct := by decide
  get_put := by simp
  apart := by simp [Facet.Apart]
  ext s t same := by
    simp only [List.forall_mem_cons] at same
    cases s; cases t
    simp_all

theorem roundTrips : RoundTrips decode encode := by
  refine layout.roundTrips (fun _ => rfl) (fun s => ?_) (fun s p member => ?_) fun s => ?_
  · simp only [List.map_cons, List.map_nil]
    decide
  · simp only [layout, List.mem_cons, List.not_mem_nil, or_false] at member
    rcases member with rfl | rfl | rfl <;> exact .written rfl
  · cases named : s.namespaceName <;> simp

end Settings

namespace RetryPolicy

def layout : Layout record where
  facets := [
    ⟨"max_requeues", false, .word32, maxRequeues, fun v p => { p with maxRequeues := v }⟩,
    ⟨"base_delay_ms", false, .word64, baseDelayMs, fun v p => { p with baseDelayMs := v }⟩,
    ⟨"max_delay_secs", false, .word64, maxDelaySecs, fun v p => { p with maxDelaySecs := v }⟩]
  fields_eq := rfl
  distinct := by decide
  get_put := by simp
  apart := by simp [Facet.Apart]
  ext p q same := by
    simp only [List.forall_mem_cons] at same
    cases p; cases q
    simp_all

theorem roundTrips : RoundTrips decode encode := by
  refine layout.roundTrips (fun _ => rfl) (fun s => ?_) (fun s p member => ?_) fun s => ?_
  · simp only [List.map_cons, List.map_nil]
    decide
  · simp only [layout, List.mem_cons, List.not_mem_nil, or_false] at member
    rcases member with rfl | rfl | rfl <;> exact .written rfl
  · simp

end RetryPolicy

/-- Specs, settings and policies come back from what is written of them; and whatever is read, once
it is written, reads and is written the same from then on. -/
theorem wire_formats_round_trip :
    RoundTrips EndpointSpec.decode EndpointSpec.encode ∧
    RoundTrips Settings.decode Settings.encode ∧
    RoundTrips RetryPolicy.decode RetryPolicy.encode :=
  ⟨EndpointSpec.roundTrips, Settings.roundTrips, RetryPolicy.roundTrips⟩

/-- Given as arrays that stop early, a spec and a policy come back from the objects that are
written of them. -/
theorem arrays_settle_as_objects :
    let spec : Json := .array [.text "east", .text "cable", .text "", .text "gw"]
    let written : Json := .object [
      ("backend", .text ""), ("cable_name", .text "cable"), ("cluster_id", .text "east"),
      ("hostname", .text "gw"), ("nat_enabled", .bool false), ("private_ip", .text ""),
      ("public_ip", .text ""), ("subnets", .array [])]
    let policy : Json := .array [.integer 0xFFFFFFFF, .integer 0xFFFFFFFFFFFFFFFF]
    let kept : Json := .object [
      ("base_delay_ms", .integer 0xFFFFFFFFFFFFFFFF), ("max_delay_secs", .integer 1000),
      ("max_requeues", .integer 0xFFFFFFFF)]
    ((EndpointSpec.decode spec).map EndpointSpec.encode = .ok written ∧
      EndpointSpec.decode written = EndpointSpec.decode spec) ∧
    (RetryPolicy.decode policy).map RetryPolicy.encode = .ok kept ∧
      RetryPolicy.decode kept = RetryPolicy.decode policy := by
  refine ⟨⟨rfl, ?_⟩, rfl, ?_⟩
  · exact (wire_formats_round_trip.1.settled _ _ rfl).1
  · exact (wire_formats_round_trip.2.2.settled _ _ rfl).1

end GatewayEvents

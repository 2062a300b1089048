import GatewayEvents.Table

/-! Planned refusals: how often each of several named things is still to be refused. A
positive count is used up one by one, a negative one lasts forever, and what has no
count is accepted. -/
namespace GatewayEvents

abbrev Refusals := Table String Int

namespace Refusals

def refuses (r : Refusals) (name : String) : Bool := (r.get? name).any (· ≠ 0)

def spend (r : Refusals) (name : String) : Refusals :=
  match r.get? name with
  | some count => if 0 < count then r.insert name (count - 1) else r
  | none => r

def set (r : Refusals) (counts : List (String × Int)) : Refusals :=
  counts.foldl (fun r entry => r.insert entry.1 entry.2) r

end Refusals

/-- The plans of several parties side by side, each under its own slot. -/
abbrev Plans := Table Nat Refusals

namespace Plans

def plan (plans : Plans) (slot : Nat) : Refusals := (plans.get? slot).getD .empty

def adjust (plans : Plans) (slot : Nat) (counts : List (String × Int)) : Plans :=
  plans.insert slot ((plans.plan slot).set counts)

def refuses (plans : Plans) (slot : Nat) (name : String) : Bool := (plans.plan slot).refuses name

def spend (plans : Plans) (slot : Nat) (name : String) : Plans :=
  plans.insert slot ((plans.plan slot).spend name)

end Plans
end GatewayEvents

import GatewayEvents.Resource.Metadata

/-! Kinds of cluster resources, the keys of their objects, and the class of types whose
values are such objects. -/
namespace GatewayEvents

structure ResourceKind where
  group : String
  version : String
  kind : String
  deriving DecidableEq, Repr

/-- The core group is left out. -/
def ResourceKind.apiVersion (k : ResourceKind) : String :=
  if k.group.isEmpty then k.version else k.group ++ "/" ++ k.version

structure ApiResource where
  group : String
  version : String
  apiVersion : String
  kind : String
  plural : String
  deriving DecidableEq, Repr

/-- Objects of one kind are told apart by name and namespace. -/
structure ObjectKey where
  name : String
  namespaceName : Option String
  deriving DecidableEq, Repr

theorem ObjectKey.eq_of_name {key other : ObjectKey} (name : key.name = other.name)
    (inside : key.namespaceName = other.namespaceName) : key = other := by
  cases key
  cases other
  exact congr (congrArg _ name) inside

def ObjectKey.describe (kind : ResourceKind) (key : ObjectKey) : String :=
  kind.kind ++ "." ++ kind.version ++ "." ++ kind.group ++ "/" ++ key.name
    ++ (key.namespaceName.map ("." ++ ·)).getD ""

/-- A type of objects that can be listed and watched. -/
class Watched (K : Type) where
  kind : ResourceKind
  plural : String
  metadata : K → Metadata

namespace Watched
variable {K : Type} [Watched K]

variable (K) in
def apiResource : ApiResource :=
  let k := kind K
  ⟨k.group, k.version, k.apiVersion, k.kind, plural K⟩

def key? (object : K) : Option ObjectKey :=
  (metadata object).name.map fun name => ⟨name, (metadata object).namespaceName⟩

def version? (object : K) : Option String := (metadata object).resourceVersion

/-- The objects carry the same version, and do carry one. -/
def sameVersion (old new : K) : Bool :=
  match version? old, version? new with
  | some a, some b => a = b
  | _, _ => false

theorem sameVersion_iff {old new : K} :
    sameVersion old new = true ↔ ∃ v, version? old = some v ∧ version? new = some v := by
  unfold sameVersion
  split
  next a b before after => simp [before, after, eq_comm]
  next missing =>
    constructor
    · intro same
      contradiction
    · rintro ⟨v, before, after⟩
      exact absurd after (missing v v before)

theorem sameVersion_trans (x y z : K) (first : sameVersion x y = true)
    (second : sameVersion y z = true) : sameVersion x z = true := by
  obtain ⟨v, one, two⟩ := sameVersion_iff.mp first
  obtain ⟨u, three, four⟩ := sameVersion_iff.mp second
  obtain rfl := Option.some.inj (two.symm.trans three)
  exact sameVersion_iff.mpr ⟨v, one, four⟩

/-- Only a change of labels counts. -/
def sameLabels (old new : K) : Bool := (metadata old).labelMap = (metadata new).labelMap

end Watched
end GatewayEvents

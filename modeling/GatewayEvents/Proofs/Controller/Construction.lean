import GatewayEvents.Controller
import Mathlib.Data.List.Forall2

/-! Building a controller, whole or not at all. Stages are attempted one after another up to the
first that fails (`upToFault`), and what comes of the rest has no part in it (`upToFault_congr`).
Resolving the watched kinds goes that way (`ofKinds_eq`), and so does the whole of building
(`build_eq`), whatever builds the clients: only after the last stage are the handlers given the
state (`registry_build`), and nothing is started (`built_whole_or_not_at_all`). -/
namespace GatewayEvents

def faultOf {ε α : Type} : Except ε α → Option ε
  | .error fault => some fault
  | .ok _ => none

/-- What is attempted of a row: all up to the first that fails. -/
def upToFault {α ε : Type} (fault? : α → Option ε) : List α → List α
  | [] => []
  | x :: rest => x :: if (fault? x).isSome then [] else upToFault fault? rest

section Rows
variable {α β ε ε' : Type} {f g : α → Option ε} {xs ys : List α}

theorem faultOf_eq_some {e : Except ε α} {fault : ε} :
    faultOf e = some fault ↔ e = .error fault := by
  cases e <;> simp [faultOf]

theorem faultOf_eq_none {e : Except ε α} : faultOf e = none ↔ ∃ value, e = .ok value := by
  cases e <;> simp [faultOf]

theorem upToFault_append : upToFault f (xs ++ ys) =
    if (xs.findSome? f).isSome then upToFault f xs else xs ++ upToFault f ys := by
  induction xs with
  | nil => rfl
  | cons x rest ih =>
    cases failed : f x with
    | some fault => simp [upToFault, failed]
    | none =>
      simp only [List.cons_append, upToFault, List.findSome?_cons, failed, ih, Option.isSome_none,
        Bool.false_eq_true, if_false]
      split <;> rfl

theorem upToFault_of_findSome?_eq_none (faultless : xs.findSome? f = none) :
    upToFault f xs = xs := by
  have all : upToFault f (xs ++ []) = _ := upToFault_append
  simpa [faultless, upToFault] using all

/-- The fault of a row is that of the last that is attempted. -/
theorem exists_upToFault_eq {fault : ε} (failed : xs.findSome? f = some fault) :
    ∃ before x after, xs = before ++ x :: after ∧ f x = some fault ∧ (∀ y ∈ before, f y = none) ∧
      upToFault f xs = before ++ [x] := by
  obtain ⟨before, x, after, split, failing, faultless⟩ := List.findSome?_eq_some_iff.mp failed
  refine ⟨before, x, after, split, failing, faultless, ?_⟩
  rw [split, upToFault_append, List.findSome?_eq_none_iff.mpr faultless]
  simp [upToFault, failing]

theorem mem_of_mem_upToFault {x : α} (member : x ∈ upToFault f xs) : x ∈ xs := by
  induction xs with
  | nil => cases member
  | cons y rest ih =>
    rcases List.mem_cons.mp member with rfl | later
    · exact List.mem_cons_self
    · split at later
      · cases later
      · exact List.mem_cons_of_mem _ (ih later)

/-- Faults may be put in other words, as long as the same attempts fail. -/
theorem upToFault_map {h : β → α} {zs : List β} {f' : β → Option ε'}
    (alike : ∀ z, (f (h z)).isSome = (f' z).isSome) :
    upToFault f (zs.map h) = (upToFault f' zs).map h := by
  induction zs with
  | nil => rfl
  | cons z rest ih =>
    rw [List.map_cons, upToFault, upToFault, alike z, ih]
    split <;> rfl

/-- Whatever is not attempted may fail or not, in any way. -/
theorem upToFault_congr (same : ∀ x ∈ upToFault f xs, g x = f x) :
    upToFault g xs = upToFault f xs ∧ xs.findSome? g = xs.findSome? f := by
  induction xs with
  | nil => exact ⟨rfl, rfl⟩
  | cons x rest ih =>
    have first : g x = f x := same x List.mem_cons_self
    cases failed : f x with
    | some fault => simp [upToFault, failed, first]
    | none =>
      have later := ih fun y member => same y (by simpa [upToFault, failed] using .inr member)
      simp [upToFault, failed, first, later]

end Rows

section Mapping
variable {resolver : Resolver} {kinds : List ResourceKind}

def Resolver.fault? (resolver : Resolver) (kind : ResourceKind) : Option MappingError :=
  (faultOf (resolver kind).result).map (⟨kind, ·⟩)

/-- Which of these kinds are resolved, or at least tried. -/
def Resolver.asked (resolver : Resolver) (kinds : List ResourceKind) : List ResourceKind :=
  upToFault resolver.fault? kinds

theorem fault?_eq_none {kind : ResourceKind} :
    resolver.fault? kind = none ↔ ∃ r, (resolver kind).result = .ok r := by
  rw [Resolver.fault?, Option.map_eq_none_iff, faultOf_eq_none]

theorem fault?_eq_some {kind : ResourceKind} {fault : MappingError} :
    resolver.fault? kind = some fault ↔
      ∃ source, (resolver kind).result = .error source ∧ fault = ⟨kind, source⟩ := by
  simp only [Resolver.fault?, Option.map_eq_some_iff, faultOf_eq_some, eq_comm (a := fault)]

theorem ofKinds_eq (resolver : Resolver) (kinds : List ResourceKind) :
    faultOf (Mapping.ofKinds resolver kinds).result = kinds.findSome? resolver.fault? ∧
    (Mapping.ofKinds resolver kinds).requests =
      (resolver.asked kinds).flatMap (fun kind => (resolver kind).requests) ∧
    (Mapping.ofKinds resolver kinds).lines =
      (resolver.asked kinds).flatMap (fun kind => (resolver kind).lines) := by
  induction kinds with
  | nil => exact ⟨rfl, rfl, rfl⟩
  | cons kind rest ih =>
    obtain ⟨result, requests, lines⟩ := ih
    unfold Mapping.ofKinds Resolver.asked upToFault
    cases first : (resolver kind).result with
    | error source =>
      have failed : resolver.fault? kind = some ⟨kind, source⟩ :=
        fault?_eq_some.mpr ⟨source, first, rfl⟩
      simp [first, failed, faultOf]
    | ok r =>
      have resolved : resolver.fault? kind = none := fault?_eq_none.mpr ⟨r, first⟩
      simp [first, resolved, result, requests, lines, Resolver.asked]

/-- Only the answers about the kinds that are asked for have a part in what comes of it. -/
theorem ofKinds_congr {other : Resolver}
    (same : ∀ kind ∈ resolver.asked kinds, other kind = resolver kind) :
    Mapping.ofKinds other kinds = Mapping.ofKinds resolver kinds := by
  induction kinds with
  | nil => rfl
  | cons kind rest ih =>
    unfold Resolver.asked upToFault at same
    have first : other kind = resolver kind := same kind List.mem_cons_self
    unfold Mapping.ofKinds
    rw [first]
    cases answer : (resolver kind).result with
    | error source => simp only [answer]
    | ok r =>
      have resolved : resolver.fault? kind = none := fault?_eq_none.mpr ⟨r, answer⟩
      simp only [answer, ih fun k member => same k (by simpa [resolved] using .inr member)]

theorem result_ofKinds_eq_ok_iff : (Mapping.ofKinds resolver kinds).result = .ok () ↔
    ∀ kind ∈ kinds, ∃ r, (resolver kind).result = .ok r := by
  have faultless : (Mapping.ofKinds resolver kinds).result = .ok () ↔
      faultOf (Mapping.ofKinds resolver kinds).result = none :=
    ⟨fun resolved => by rw [resolved]; rfl, fun silent => (faultOf_eq_none.mp silent).choose_spec⟩
  rw [faultless, (ofKinds_eq resolver kinds).1, List.findSome?_eq_none_iff]
  exact forall₂_congr fun _ _ => fault?_eq_none

theorem Mapping.fault_message (kind : ResourceKind) (source : ResolveError) :
    (MappingError.mk kind source).message = "unable to map resource " ++ kind.kind ++ " ("
      ++ (if kind.group = "" then kind.version else kind.group ++ "/" ++ kind.version) ++ "): "
      ++ source.message := by
  unfold MappingError.message ResourceKind.apiVersion
  simp only [String.isEmpty_iff]

/-- All these kinds resolve, or the first that does not is named and is the last that is asked
for. -/
structure Mapping.WholeOrFirst (resolver : Resolver) (kinds : List ResourceKind) : Prop where
  whole : (Mapping.ofKinds resolver kinds).result = .ok () ↔
    ∀ kind ∈ kinds, ∃ r, (resolver kind).result = .ok r
  first : ∀ fault, (Mapping.ofKinds resolver kinds).result = .error fault →
    ∃ before kind after source, kinds = before ++ kind :: after ∧
      (∀ earlier ∈ before, ∃ r, (resolver earlier).result = .ok r) ∧
      (resolver kind).result = .error source ∧ fault = ⟨kind, source⟩ ∧
      fault.message = "unable to map resource " ++ kind.kind ++ " ("
        ++ (if kind.group = "" then kind.version else kind.group ++ "/" ++ kind.version) ++ "): "
        ++ source.message ∧
      (Mapping.ofKinds resolver kinds).requests =
        (before ++ [kind]).flatMap (fun asked => (resolver asked).requests) ∧
      (Mapping.ofKinds resolver kinds).lines =
        (before ++ [kind]).flatMap (fun asked => (resolver asked).lines) ∧
      ∀ other : Resolver, (∀ asked ∈ before ++ [kind], other asked = resolver asked) →
        Mapping.ofKinds other kinds = Mapping.ofKinds resolver kinds

theorem Mapping.whole_or_first (resolver : Resolver) (kinds : List ResourceKind) :
    Mapping.WholeOrFirst resolver kinds where
  whole := result_ofKinds_eq_ok_iff
  first := by
    intro fault failed
    obtain ⟨result, requests, lines⟩ := ofKinds_eq resolver kinds
    rw [failed] at result
    obtain ⟨before, kind, after, split, failing, resolving, attempts⟩ :=
      exists_upToFault_eq result.symm
    obtain ⟨source, answer, rfl⟩ := fault?_eq_some.mp failing
    have asked : resolver.asked kinds = before ++ [kind] := attempts
    refine ⟨before, kind, after, source, split,
      fun k earlier => fault?_eq_none.mp (resolving k earlier), answer, rfl,
      Mapping.fault_message kind source, ?_, ?_, fun other same => ?_⟩
    · rw [requests, asked]
    · rw [lines, asked]
    · exact ofKinds_congr (by rwa [asked])

end Mapping

namespace Controller

inductive Stage where
  | hostname
  | settings
  | client
  | mapping (kind : ResourceKind)

structure Stage.Result where
  fault : Option ControllerError
  requests : List String
  lines : List LogLine

/-- Where kinds are resolved, unless no client can be had for that. -/
def Config.resolver? (connect : ρ → Except String Client) (config : Config ρ ω) : Option Resolver :=
  config.mapper <|>
    (config.client <|> (connect config.access).toOption).map Resolver.discovering

/-- What a stage comes to, if it is attempted. Settings and a client that are given are not made. -/
def Stage.attempt (connect : ρ → Except String Client) (config : Config ρ ω) : Stage → Stage.Result
  | .hostname => ⟨(faultOf (Hostname.read config.hostname)).map .hostname, [], []⟩
  | .settings =>
    ⟨match config.settings with
      | some _ => none
      | none => (faultOf (Settings.load config.environment).result).map .settings, [], []⟩
  | .client =>
    ⟨match config.client with
      | some _ => none
      | none => (faultOf (connect config.access)).map .client, [], []⟩
  | .mapping kind =>
    match config.resolver? connect with
    | none => ⟨none, [], []⟩
    | some resolver =>
      ⟨(resolver.fault? kind).map .watcher, (resolver kind).requests, (resolver kind).lines⟩

def stages : List Stage :=
  [.hostname, .settings, .client, .mapping (Watched.kind Endpoint), .mapping (Watched.kind Node)]

def Stage.fault? (connect : ρ → Except String Client) (config : Config ρ ω) (stage : Stage) :
    Option ControllerError :=
  (stage.attempt connect config).fault

def attempted (connect : ρ → Except String Client) (config : Config ρ ω) : List Stage :=
  upToFault (Stage.fault? connect config) stages

section Build
variable {ρ ω : Type} (connect : ρ → Except String Client) (config : Config ρ ω)
  {resolver : Resolver}

/-- The stages before the API server is asked anything. -/
def preparations : List Stage := [.hostname, .settings, .client]

theorem stages_eq : stages = preparations ++ watchedKinds.map .mapping := rfl

theorem faultOf_loadSettings :
    faultOf config.loadSettings = Stage.fault? connect config .settings := by
  unfold Config.loadSettings Stage.fault? Stage.attempt
  cases config.settings with
  | some settings => rfl
  | none => cases (Settings.load config.environment).result <;> rfl

theorem faultOf_connected :
    faultOf (config.connected connect) = Stage.fault? connect config .client := by
  unfold Config.connected Stage.fault? Stage.attempt
  cases config.client with
  | some client => rfl
  | none => cases connect config.access <;> rfl

theorem faultOf_prepare :
    faultOf (config.prepare connect) = preparations.findSome? (Stage.fault? connect config) := by
  unfold Config.prepare preparations
  simp only [List.findSome?_cons, List.findSome?_nil, ← faultOf_loadSettings connect config,
    ← faultOf_connected]
  unfold Stage.fault? Stage.attempt
  cases Hostname.read config.hostname with
  | error fault => rfl
  | ok hostname =>
    cases config.loadSettings with
    | error fault => rfl
    | ok settings => cases config.connected connect <;> rfl

theorem resolver?_of_connected {client : Client} (had : config.connected connect = .ok client) :
    config.resolver? connect = some (config.mapper.getD (.discovering client)) := by
  have given : (config.client <|> (connect config.access).toOption) = some client := by
    unfold Config.connected at had
    cases known : config.client with
    | some other =>
      rw [known] at had
      exact congrArg some (Except.ok.inj had)
    | none =>
      rw [known] at had
      cases made : connect config.access with
      | error reason => simp [made, Except.mapError] at had
      | ok other =>
        rw [made] at had
        exact congrArg some (Except.ok.inj had)
  rw [Config.resolver?, given]
  cases config.mapper <;> rfl

theorem resolver?_of_prepare {hostname : String} {settings : Settings}
    (ready : config.prepare connect = .ok (hostname, settings, resolver)) :
    config.resolver? connect = some resolver := by
  unfold Config.prepare at ready
  cases read : Hostname.read config.hostname with
  | error fault => simp [read, Except.mapError, bind, Except.bind] at ready
  | ok host =>
    cases loaded : config.loadSettings with
    | error fault => simp [read, loaded, Except.mapError, bind, Except.bind] at ready
    | ok settings' =>
      cases had : config.connected connect with
      | error fault => simp [read, loaded, had, Except.mapError, bind, Except.bind] at ready
      | ok client =>
        simp only [read, loaded, had, Except.mapError, bind, Except.bind, pure, Except.pure,
          Except.ok.injEq, Prod.mk.injEq] at ready
        rw [resolver?_of_connected connect config had, ready.2.2]

theorem attempt_mapping (found : config.resolver? connect = some resolver) (kind : ResourceKind) :
    Stage.attempt connect config (.mapping kind) =
      ⟨(resolver.fault? kind).map .watcher, (resolver kind).requests, (resolver kind).lines⟩ := by
  simp only [Stage.attempt, found]

theorem findSome?_mapping (found : config.resolver? connect = some resolver)
    (kinds : List ResourceKind) :
    (kinds.map Stage.mapping).findSome? (Stage.fault? connect config) =
      (kinds.findSome? resolver.fault?).map .watcher := by
  have fault : Stage.fault? connect config ∘ Stage.mapping =
      fun kind => (resolver.fault? kind).map .watcher :=
    funext fun kind => congrArg Stage.Result.fault (attempt_mapping connect config found kind)
  rw [List.findSome?_map, List.map_findSome?, fault]
  rfl

theorem silent_preparations {stage : Stage} (before : stage ∈ preparations) :
    (stage.attempt connect config).requests = [] ∧ (stage.attempt connect config).lines = [] := by
  rcases stage with _ | _ | _ | kind
  case mapping => simp [preparations] at before
  all_goals exact ⟨rfl, rfl⟩

theorem flatMap_preparations {stages : List Stage}
    (before : ∀ stage ∈ stages, stage ∈ preparations) :
    stages.flatMap (fun stage => (stage.attempt connect config).requests) = [] ∧
      stages.flatMap (fun stage => (stage.attempt connect config).lines) = [] := by
  simp only [List.flatMap_eq_nil_iff]
  exact ⟨fun stage member => (silent_preparations connect config (before stage member)).1,
    fun stage member => (silent_preparations connect config (before stage member)).2⟩

theorem upToFault_mapping (found : config.resolver? connect = some resolver)
    (kinds : List ResourceKind) :
    upToFault (Stage.fault? connect config) (kinds.map .mapping) =
      (resolver.asked kinds).map .mapping :=
  upToFault_map fun kind => by
    rw [Stage.fault?, attempt_mapping connect config found, Option.isSome_map]

/-- What building can come to: it stops before any kind is asked for, or with the kinds, or puts the
parts together. -/
inductive Building : Built ω → Prop where
  | unprepared {fault} (failed : config.prepare connect = .error fault) :
      Building ⟨.error fault, [], [], config.registry⟩
  | unmapped {hostname settings resolver fault}
      (ready : config.prepare connect = .ok (hostname, settings, resolver))
      (failed : (Mapping.ofKinds resolver watchedKinds).result = .error fault) :
      Building ⟨.error (.watcher fault), (Mapping.ofKinds resolver watchedKinds).requests,
        (Mapping.ofKinds resolver watchedKinds).lines, config.registry⟩
  | assembled {hostname settings resolver}
      (ready : config.prepare connect = .ok (hostname, settings, resolver))
      (mapped : (Mapping.ofKinds resolver watchedKinds).result = .ok ()) :
      Building ⟨.ok (assemble config hostname settings),
        (Mapping.ofKinds resolver watchedKinds).requests,
        (Mapping.ofKinds resolver watchedKinds).lines, config.registry.attach⟩

theorem building_build : Building connect config (build connect config) := by
  unfold build
  cases ready : config.prepare connect with
  | error fault => exact .unprepared ready
  | ok parts =>
    obtain ⟨hostname, settings, resolver⟩ := parts
    dsimp only
    cases mapped : (Mapping.ofKinds resolver watchedKinds).result with
    | error fault => exact .unmapped ready mapped
    | ok => exact .assembled ready mapped

/-- Once all is prepared, building goes as the resolving of the kinds does. -/
theorem mapping_eq {hostname : String} {settings : Settings}
    (ready : config.prepare connect = .ok (hostname, settings, resolver)) :
    (faultOf (Mapping.ofKinds resolver watchedKinds).result).map .watcher =
      stages.findSome? (Stage.fault? connect config) ∧
    (Mapping.ofKinds resolver watchedKinds).requests =
      (attempted connect config).flatMap (fun stage => (stage.attempt connect config).requests) ∧
    (Mapping.ofKinds resolver watchedKinds).lines =
      (attempted connect config).flatMap (fun stage => (stage.attempt connect config).lines) := by
  have prepared := faultOf_prepare connect config
  -- kinds are only asked for where some client could be had, so there is a resolver
  have found := resolver?_of_prepare connect config ready
  obtain ⟨result, requests, lines⟩ := ofKinds_eq resolver watchedKinds
  obtain ⟨unasked, silent⟩ := flatMap_preparations connect config fun stage member => member
  unfold attempted
  rw [stages_eq, List.findSome?_append, upToFault_append, ← prepared, ready,
    findSome?_mapping connect config found, upToFault_mapping connect config found]
  simp only [faultOf, Option.isSome_none, Bool.false_eq_true, if_false, List.flatMap_append,
    unasked, silent, List.nil_append, List.flatMap_map, Option.none_or, ← result,
    attempt_mapping connect config found, true_and]
  exact ⟨requests, lines⟩

/-- Building attempts its stages one after another, up to the first that fails. -/
theorem build_eq :
    faultOf (build connect config).result = stages.findSome? (Stage.fault? connect config) ∧
    (build connect config).requests =
      (attempted connect config).flatMap (fun stage => (stage.attempt connect config).requests) ∧
    (build connect config).lines =
      (attempted connect config).flatMap (fun stage => (stage.attempt connect config).lines) := by
  have building := building_build connect config
  generalize build connect config = built at building ⊢
  cases building with
  | unprepared failed =>
    have prepared := faultOf_prepare connect config
    rw [failed] at prepared
    unfold attempted
    rw [stages_eq, List.findSome?_append, upToFault_append, ← prepared]
    obtain ⟨requests, lines⟩ := flatMap_preparations connect config
      fun stage member => mem_of_mem_upToFault (f := Stage.fault? connect config) member
    exact ⟨rfl, requests.symm, lines.symm⟩
  | unmapped ready failed =>
    obtain ⟨result, requests, lines⟩ := mapping_eq connect config ready
    rw [failed] at result
    exact ⟨result, requests, lines⟩
  | assembled ready mapped =>
    obtain ⟨result, requests, lines⟩ := mapping_eq connect config ready
    rw [mapped] at result
    exact ⟨result, requests, lines⟩

/-- The handlers are given the state only once nothing can fail any more. -/
theorem registry_build : (build connect config).registry =
    match (build connect config).result with
    | .error _ => config.registry
    | .ok controller => controller.dispatcher.registry := by
  have building := building_build connect config
  generalize build connect config = built at building ⊢
  cases building <;> rfl

theorem assembled_of_built {c : Controller ω} (built : (build connect config).result = .ok c) :
    ∃ hostname settings, c = assemble config hostname settings := by
  have building := building_build connect config
  generalize build connect config = result at building built
  cases building with
  | unprepared | unmapped => cases built
  | assembled => exact ⟨_, _, (Except.ok.inj built).symm⟩

end Build

/-- This handler does what the bare one would, and sees the state. -/
structure Given (bare given : Handler ω) : Prop where
  name : given.name = bare.name
  plugins : given.plugins = bare.plugins
  answer : ∀ call state world, given.answer call state world = bare.receive call (some state) world

theorem given_attach (bare : Handler ω) : Given bare bare.attach := ⟨rfl, rfl, fun _ _ _ => rfl⟩

/-- A controller comes about with all that belongs to it, or the first stage that fails is reported
and has left no trace in the registry. -/
structure WholeOrNothing (connect : ρ → Except String Client) (config : Config ρ ω) : Prop where
  whole : (∃ c, (build connect config).result = .ok c) ↔
    ∀ stage ∈ stages, Stage.fault? connect config stage = none
  first : ∀ fault, (build connect config).result = .error fault →
    (build connect config).registry = config.registry ∧
    ∃ before stage after, stages = before ++ stage :: after ∧
      (∀ earlier ∈ before, Stage.fault? connect config earlier = none) ∧
      Stage.fault? connect config stage = some fault ∧
      (build connect config).requests =
        (before ++ [stage]).flatMap (fun made => (made.attempt connect config).requests) ∧
      (build connect config).lines =
        (before ++ [stage]).flatMap (fun made => (made.attempt connect config).lines) ∧
      ∀ {ρ' ω' : Type} (connect' : ρ' → Except String Client) (other : Config ρ' ω'),
        (∀ made ∈ before ++ [stage],
          made.attempt connect' other = made.attempt connect config) →
        (build connect' other).result = .error fault ∧
          (build connect' other).requests = (build connect config).requests ∧
          (build connect' other).lines = (build connect config).lines
  handed : ∀ c, (build connect config).result = .ok c →
    (build connect config).registry = c.dispatcher.registry ∧
    c.dispatcher.registry.name = config.registry.name ∧
    c.dispatcher.registry.networkPlugin = config.registry.networkPlugin ∧
    List.Forall₂ Given config.registry.handlers c.dispatcher.registry.handlers ∧
    c.session.start = .notYet ∧
    (∀ member ∈ c.session.members, member.watch.phase = .idle) ∧
    (build connect config).requests =
      stages.flatMap (fun made => (made.attempt connect config).requests) ∧
    (build connect config).lines =
      stages.flatMap (fun made => (made.attempt connect config).lines)

section Whole
variable {ρ ρ' ω ω' : Type} {connect : ρ → Except String Client}
  {connect' : ρ' → Except String Client} {config : Config ρ ω} {other : Config ρ' ω'}

/-- Building agrees with any other whose attempted stages come to the same, whoever its handlers
are. -/
theorem build_congr (same : ∀ stage ∈ attempted connect config,
      stage.attempt connect' other = stage.attempt connect config) :
    faultOf (build connect' other).result = faultOf (build connect config).result ∧
      (build connect' other).requests = (build connect config).requests ∧
      (build connect' other).lines = (build connect config).lines := by
  obtain ⟨result, requests, lines⟩ := build_eq connect config
  obtain ⟨result', requests', lines'⟩ := build_eq connect' other
  have alike : attempted connect' other = attempted connect config ∧
      stages.findSome? (Stage.fault? connect' other) =
        stages.findSome? (Stage.fault? connect config) :=
    upToFault_congr fun stage member => congrArg Stage.Result.fault (same stage member)
  obtain ⟨attemptedAlike, faultAlike⟩ := alike
  refine ⟨by rw [result, result', faultAlike], ?_, ?_⟩
  · rw [requests, requests', attemptedAlike]
    exact List.flatMap_congr fun stage member => congrArg Stage.Result.requests (same stage member)
  · rw [lines, lines', attemptedAlike]
    exact List.flatMap_congr fun stage member => congrArg Stage.Result.lines (same stage member)

end Whole

/-- Either every stage succeeds, and each handler is given the state, or the first that fails is
reported, whatever the later ones would have come to, and nothing has changed. -/
theorem built_whole_or_not_at_all (resolver : Resolver) (kinds : List ResourceKind)
    (connect : ρ → Except String Client) (config : Config ρ ω) :
    Mapping.WholeOrFirst resolver kinds ∧ WholeOrNothing connect config := by
  obtain ⟨result, requests, lines⟩ := build_eq connect config
  refine ⟨Mapping.whole_or_first resolver kinds, ?whole, ?first, ?handed⟩
  case whole =>
    rw [← faultOf_eq_none, result, List.findSome?_eq_none_iff]
  case first =>
    intro fault failed
    rw [failed] at result
    obtain ⟨before, stage, after, split, failing, faultless, attempts⟩ :=
      exists_upToFault_eq result.symm
    have made : attempted connect config = before ++ [stage] := attempts
    refine ⟨by rw [registry_build, failed], before, stage, after, split, faultless, failing, ?_, ?_,
      fun connect' other same => ?_⟩
    · rw [requests, made]
    · rw [lines, made]
    · rw [← made] at same
      obtain ⟨fault', requests', lines'⟩ := build_congr same
      rw [failed] at fault'
      exact ⟨faultOf_eq_some.mp fault', requests', lines'⟩
  case handed =>
    intro c built
    obtain ⟨hostname, settings, rfl⟩ := assembled_of_built connect config built
    rw [built] at result
    have made : attempted connect config = stages := upToFault_of_findSome?_eq_none result.symm
    have given : List.Forall₂ Given config.registry.handlers config.registry.attach.handlers :=
      List.forall₂_map_right_iff.mpr (List.forall₂_same.mpr fun bare _ => given_attach bare)
    refine ⟨by rw [registry_build, built], rfl, rfl, given, rfl, fun member among => ?_,
      by rw [requests, made], by rw [lines, made]⟩
    obtain ⟨watched, -, rfl⟩ := List.mem_map.mp among
    rfl

section Examples

def finding (kinds : List ResourceKind) : Client where
  pinnedKind kind :=
    (if kind ∈ kinds then .ok ⟨kind.group, kind.version, kind.apiVersion, kind.kind, kind.kind⟩
      else .error (.notServed kind), [kind.kind])

/-- The client is built, and is to resolve the kinds. -/
def unmapped (kinds : List ResourceKind) : Config (List ResourceKind) Unit where
  hostname := .bytes [104, 101, 114, 101]
  settings := some {}
  environment _ := .unset
  access := kinds
  client := none
  mapper := none
  registry := .ofHandlers "gateway" "flat" [.idle "first" ["flat"], .idle "second" ["*"]]

/-- Without nodes the handlers go without the state, with them both are given it. -/
theorem nothing_given_without_nodes :
    let connect := fun kinds => Except.ok (finding kinds)
    let refused := build connect (unmapped [Watched.kind Endpoint])
    let granted := build connect (unmapped watchedKinds)
    refused.result = .error (.watcher ⟨Watched.kind Node, .notServed (Watched.kind Node)⟩) ∧
      refused.registry.handlers.map (·.attached) = [false, false] ∧
      ∃ c, granted.result = .ok c ∧
        List.Forall₂ Given (unmapped watchedKinds).registry.handlers
          c.dispatcher.registry.handlers := by
  intro connect refused granted
  obtain ⟨-, without⟩ :=
    built_whole_or_not_at_all (fun _ => ⟨.error .unreachable, [], []⟩) [] connect
      (unmapped [Watched.kind Endpoint])
  obtain ⟨-, within⟩ :=
    built_whole_or_not_at_all (fun _ => ⟨.error .unreachable, [], []⟩) [] connect
      (unmapped watchedKinds)
  have failed : refused.result =
      .error (.watcher ⟨Watched.kind Node, .notServed (Watched.kind Node)⟩) :=
    faultOf_eq_some.mp (by decide +kernel)
  obtain ⟨untouched, -⟩ := without.first _ failed
  obtain ⟨c, built⟩ := within.whole.mpr (by decide +kernel)
  exact ⟨failed, by rw [untouched]; rfl, c, built, (within.handed c built).2.2.2.1⟩

end Examples

end Controller
end GatewayEvents

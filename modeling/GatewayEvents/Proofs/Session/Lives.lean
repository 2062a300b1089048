import GatewayEvents.Proofs.Watch.Life
import GatewayEvents.Session
import Mathlib.Data.List.Zip

/-! The watches of a session, each with a life of its own. A happening spawns every watch, or lets
each make a row of moves at one time (`shifts_happen`), and the trace of the session is woven from
what the watches leave in it (`Woven`); so wherever a session of fresh watches stands, each of its
watches has lived (`Explained`). -/
namespace GatewayEvents.Session
variable {κ : Type} {Object : κ → Type} {ω ε : Type}

def Entry.isWatch : Entry Object ε → Bool
  | .watch .. => true
  | .cachesSynced _ => false

/-- The trace consists of these logs, each in its order. -/
structure Woven {α : Type} (logs : List (List α)) (trace : List α) : Prop where
  all : trace.Perm logs.flatten
  each : ∀ log ∈ logs, log.Sublist trace

section Woven
variable {α : Type} {logs work : List (List α)} {trace more log : List α}

theorem woven_cons (woven : Woven logs trace) : Woven (log :: logs) (log ++ trace) where
  all := woven.all.append_left log
  each l member := by
    rcases List.mem_cons.mp member with rfl | later
    · exact List.sublist_append_left ..
    · exact (woven.each l later).trans (List.sublist_append_right ..)

theorem woven_rest (silent : ∀ log ∈ logs, log = []) : Woven logs [] where
  all := by rw [List.flatten_eq_nil_iff.mpr silent]
  each log member := by rw [silent log member]

theorem flatten_zipWith_append (same : logs.length = work.length) :
    (List.zipWith (· ++ ·) logs work).flatten.Perm (logs.flatten ++ work.flatten) := by
  induction logs generalizing work with
  | nil =>
    rw [List.length_nil, eq_comm, List.length_eq_zero_iff] at same
    rw [same]
    exact .refl _
  | cons log logs ih =>
    cases work with
    | nil => cases same
    | cons es work =>
      have rest := ih (Nat.succ.inj same)
      simp only [List.zipWith_cons_cons, List.flatten_cons, List.append_assoc]
      refine (((rest.append_left es).trans ?_).append_left log)
      rw [← List.append_assoc, ← List.append_assoc]
      exact List.perm_append_comm.append_right _

theorem Woven.append (woven : Woven logs trace) (goes : Woven work more)
    (same : logs.length = work.length) :
    Woven (List.zipWith (· ++ ·) logs work) (trace ++ more) where
  all := (woven.all.append goes.all).trans (flatten_zipWith_append same).symm
  each log member := by
    rw [← List.map_uncurry_zip_eq_zipWith] at member
    obtain ⟨⟨before, es⟩, paired, rfl⟩ := List.mem_map.mp member
    obtain ⟨earlier, later⟩ := List.of_mem_zip paired
    exact (woven.each before earlier).append (goes.each es later)

end Woven

section Traces
variable {now : Nat} {m : Member Object ω ε} {ms : List (Member Object ω ε)}
  {es : List (Entry Object ε)} {s : Session Object ω ε} {world : ω}

theorem filter_stamp {trace : List (Watch.Entry (Object m.kind) ε)} :
    (stamp m now trace).filter Entry.isWatch = stamp m now trace := by
  refine List.filter_eq_self.mpr fun entry member => ?_
  obtain ⟨_, _, rfl⟩ := List.mem_map.mp member
  rfl

theorem filter_awaitFrom (position : Nat) :
    (awaitFrom position ms).2.1.filter Entry.isWatch = [] := by
  induction ms generalizing position with
  | nil => rfl
  | cons m rest ih =>
    unfold awaitFrom
    split
    · exact ih (position + 1)
    · split <;> rfl

theorem woven_map_rest : Woven (ms.map fun _ => ([] : List (Entry Object ε))) [] :=
  woven_rest fun log member => by
    obtain ⟨_, _, rfl⟩ := List.mem_map.mp member
    rfl

theorem woven_first : Woven (es :: ms.map fun _ => []) es := by
  have woven : Woven (es :: ms.map fun _ => []) (es ++ []) := woven_cons woven_map_rest
  rwa [List.append_nil] at woven

theorem begin_of_started (started : s.start ≠ .notYet) :
    begin now s world = ⟨s, world, [], some (.error .alreadyStarted)⟩ := by
  unfold begin
  split
  next notYet => exact absurd notYet started
  next => rfl

end Traces

inductive Member.Spawned (now : Nat) (m : Member Object ω ε) :
    List (Entry Object ε) → Member Object ω ε → Prop where
  | spawned (idle : m.watch.phase = .idle) : Spawned now m [] (m.spawn now)

/-- Each watch does something of a kind, and leaves something in the trace. -/
inductive Shifted (Does : Member Object ω ε → List (Entry Object ε) → Member Object ω ε → Prop) :
    List (Member Object ω ε) → List (List (Entry Object ε)) → List (Member Object ω ε) → Prop where
  | nil : Shifted Does [] [] []
  | cons {m n es ms ns work} (first : Does m es n) (rest : Shifted Does ms work ns) :
      Shifted Does (m :: ms) (es :: work) (n :: ns)

/-- What became of the session is that each of its watches did something of a kind. -/
def Progress.Shifts (Does : Member Object ω ε → List (Entry Object ε) → Member Object ω ε → Prop)
    (s : Session Object ω ε) (p : Progress Object ω ε) : Prop :=
  ∃ work, Shifted Does s.members work p.session.members ∧
    Woven work (p.trace.filter Entry.isWatch)

section Spawned
variable {now : Nat} {ms : List (Member Object ω ε)} {s : Session Object ω ε} {world : ω}

theorem shifted_spawn (idle : ∀ m ∈ ms, m.watch.phase = .idle) :
    Shifted (Member.Spawned now) ms (ms.map fun _ => []) (ms.map (Member.spawn now)) := by
  induction ms with
  | nil => exact .nil
  | cons m rest ih =>
    exact .cons (.spawned (idle m List.mem_cons_self))
      (ih fun other member => idle other (List.mem_cons_of_mem _ member))

theorem shifts_begin (notYet : s.start = .notYet) (idle : ∀ m ∈ s.members, m.watch.phase = .idle) :
    (begin now s world).Shifts (Member.Spawned now) s := by
  unfold begin
  rw [notYet]
  exact ⟨s.members.map fun _ => [], shifted_spawn idle, woven_map_rest⟩

end Spawned

variable [∀ kind, Watched (Object kind)]

inductive Member.Moved (now : Nat) (m : Member Object ω ε) :
    List (Entry Object ε) → Member Object ω ε → Prop where
  | moved {es events watch} (moves : Watch.Moves now m.watch es events watch) :
      Moved now m (stamp m now es) { m with watch := watch }

section Shifted
variable {now index : Nat} {m n : Member Object ω ε} {ms : List (Member Object ω ε)}
  {es : List (Entry Object ε)} {s : Session Object ω ε} {world : ω}

theorem Member.Moved.rest : m.Moved now [] m := .moved (m := m) .none

theorem shifted_rest : Shifted (Member.Moved now) ms (ms.map fun _ => []) ms := by
  induction ms with
  | nil => exact .nil
  | cons m rest ih => exact .cons .rest ih

theorem shifts_rest {p : Progress Object ω ε} (same : p.session.members = s.members)
    (silent : p.trace.filter Entry.isWatch = []) : p.Shifts (Member.Moved now) s := by
  unfold Progress.Shifts
  rw [same, silent]
  exact ⟨_, shifted_rest, woven_map_rest⟩

theorem exists_shifted_set (found : ms[index]? = some m) (moved : m.Moved now es n) :
    ∃ work, Shifted (Member.Moved now) ms work (ms.set index n) ∧ Woven work es := by
  induction ms generalizing index with
  | nil => cases found
  | cons first rest ih =>
    cases index with
    | zero =>
      obtain rfl := Option.some.inj found
      exact ⟨_, .cons moved shifted_rest, woven_first⟩
    | succ index =>
      obtain ⟨work, shifted, woven⟩ := ih found
      exact ⟨[] :: work, .cons .rest shifted, woven_cons woven⟩

theorem shifts_react {reaction : (m : Member Object ω ε) → Watch.Reaction (Object m.kind) ω ε}
    (made : ∀ m, (reaction m).Made now m.watch) :
    (react now index reaction s world).Shifts (Member.Moved now) s := by
  unfold react
  cases found : s.members[index]? with
  | none => exact shifts_rest rfl rfl
  | some m =>
    obtain ⟨events, moves⟩ := made m
    obtain ⟨work, shifted, woven⟩ := exists_shifted_set found (.moved moves)
    refine ⟨work, shifted, ?_⟩
    rwa [filter_stamp]

variable [DecidableEq κ]

theorem made_take {order : WatchLoop.SweepOrder} {kind : κ} {item : Watch.Item (Object kind)} :
    (Member.take now order kind item world m).Made now m.watch := by
  unfold Member.take
  split
  · exact Watch.made_take ..
  · exact Watch.made_rest

/-- Unless it starts the session, a happening is a row of moves of each watch. -/
theorem shifts_happen {happening : Happening Object}
    (other : happening.isStart = true → s.start ≠ .notYet) :
    ∃ now, (happen happening s world).Shifts (Member.Moved now) s := by
  cases happening with
  | start now =>
    have refused : begin now s world = ⟨s, world, [], some (.error .alreadyStarted)⟩ :=
      begin_of_started (other rfl)
    rw [happen, refused]
    exact ⟨0, shifts_rest rfl rfl⟩
  | launch now index => exact ⟨now, shifts_react fun _ => Watch.made_launch⟩
  | item now index order kind item => exact ⟨now, shifts_react fun _ => made_take⟩
  | ring now index => exact ⟨now, shifts_react fun _ => Watch.made_ring⟩
  | halt now index => exact ⟨now, shifts_react fun _ => Watch.made_halt⟩
  | await =>
    refine ⟨0, ?_⟩
    unfold happen await
    dsimp only
    split
    · exact shifts_rest rfl (filter_awaitFrom _)
    · exact shifts_rest rfl rfl

end Shifted

def Resource.fresh (r : Resource Object ω ε) : Watch (Object r.kind) ω ε := .ofConfig r.config

structure Life (Object : κ → Type) [∀ kind, Watched (Object kind)] (ω ε : Type) where
  resource : Resource Object ω ε
  log : List (Nat × Watch.Entry (Object resource.kind) ε)
  events : List (WatchEvent (Keyed (Object resource.kind)))
  watch : Watch (Object resource.kind) ω ε
  lived : Watch.Lived resource.fresh log events watch

namespace Life

def name (life : Life Object ω ε) : String := life.resource.config.name

def member (life : Life Object ω ε) : Member Object ω ε :=
  ⟨life.resource.kind, life.resource.scope, life.watch⟩

/-- The loop has taken in the end of a relist. -/
def HasListed (life : Life Object ω ε) : Prop := .initDone ∈ life.events

/-- The watch was spawned, at some time. -/
def HasBegun (life : Life Object ω ε) : Prop := life.watch.phase ≠ .idle

def HasStopped (life : Life Object ω ε) : Prop := life.watch.phase = .stopped

def told (life : Life Object ω ε) : List (Entry Object ε) :=
  life.log.map fun entry => .watch life.resource.kind life.name entry.1 entry.2

/-- The life goes on: what it has been through stays so, and once it has stopped it takes in nothing
more. -/
structure Onward (life later : Life Object ω ε) : Prop where
  name : later.name = life.name
  listed : life.HasListed → later.HasListed
  begun : life.HasBegun → later.HasBegun
  stopped : life.HasStopped → later.HasStopped ∧ (later.HasListed → life.HasListed)

def after (life : Life Object ω ε) (now : Nat)
    {entries : List (Watch.Entry (Object life.resource.kind) ε)}
    {events : List (WatchEvent (Keyed (Object life.resource.kind)))}
    {watch : Watch (Object life.resource.kind) ω ε}
    (lived : Watch.Lived life.resource.fresh (life.log ++ entries.map (now, ·))
      (life.events ++ events) watch) : Life Object ω ε :=
  ⟨life.resource, life.log ++ entries.map (now, ·), life.events ++ events, watch, lived⟩

theorem member_name (life : Life Object ω ε) : life.member.name = life.name :=
  congrArg WatchLoop.Config.name life.lived.config

theorem told_after {life : Life Object ω ε} {now : Nat}
    {entries : List (Watch.Entry (Object life.resource.kind) ε)}
    {events : List (WatchEvent (Keyed (Object life.resource.kind)))}
    {watch : Watch (Object life.resource.kind) ω ε}
    (lived : Watch.Lived life.resource.fresh (life.log ++ entries.map (now, ·))
      (life.events ++ events) watch) :
    (life.after now lived).told = life.told ++ stamp life.member now entries := by
  have named : stamp life.member now entries =
      entries.map (.watch life.resource.kind life.name now) := by
    rw [← life.member_name]
    rfl
  rw [named, told, told, after, List.map_append, List.map_map]
  rfl

end Life

/-- Whatever a watch does of this kind is one more piece of its life, which keeps to something. -/
def LivesOn (Does : Member Object ω ε → List (Entry Object ε) → Member Object ω ε → Prop)
    (Keeps : Life Object ω ε → Life Object ω ε → Prop) : Prop :=
  ∀ life es n, Does life.member es n → ∃ later : Life Object ω ε, Keeps life later ∧
    later.resource = life.resource ∧ later.member = n ∧ later.told = life.told ++ es

section Lives
variable {now : Nat} {lives : List (Life Object ω ε)} {trace : List (Entry Object ε)}
  {s : Session Object ω ε}
  {Does : Member Object ω ε → List (Entry Object ε) → Member Object ω ε → Prop}
  {Keeps : Life Object ω ε → Life Object ω ε → Prop}

theorem livesOn_moved : LivesOn (Member.Moved now) fun (life later : Life Object ω ε) =>
    life.Onward later ∧ (¬ life.HasBegun → ¬ later.HasBegun) := by
  intro life es n moved
  cases moved with
  | @moved entries events watch moves =>
    have rest : ∀ {phase : Watch.Phase}, life.watch.phase = phase → phase ≠ .spawned →
        phase ≠ .running → watch = life.watch ∧ events = [] := by
      rintro _ rfl spawned runs
      obtain ⟨same, -, none⟩ := Watch.Moves.rest moves spawned runs
      exact ⟨same, none⟩
    refine ⟨life.after now (life.lived.moves moves),
      ⟨⟨rfl, List.mem_append_left _, moves.begun, fun stopped => ?_⟩, fun fresh => ?_⟩, rfl, rfl,
      Life.told_after _⟩
    · obtain ⟨same, rfl⟩ := rest stopped (by decide) (by decide)
      refine ⟨(congrArg Watch.phase same).trans stopped, fun listed => ?_⟩
      exact (List.mem_append.mp listed).resolve_right List.not_mem_nil
    · have idle : life.watch.phase = .idle := of_not_not fresh
      exact not_not_intro ((congrArg Watch.phase (rest idle (by decide) (by decide)).1).trans idle)

theorem livesOn_spawned : LivesOn (Member.Spawned now) fun (life later : Life Object ω ε) =>
    life.Onward later ∧ later.HasBegun := by
  intro life es n spawned
  cases spawned with
  | spawned idle =>
    have fresh : life.watch.phase = .idle := idle
    refine ⟨⟨life.resource, life.log, life.events, _, life.lived.spawn now fresh⟩,
      ⟨⟨rfl, id, fun _ => Watch.Phase.noConfusion, fun stopped => ?_⟩, Watch.Phase.noConfusion⟩,
      rfl, rfl, (List.append_nil _).symm⟩
    rw [Life.HasStopped, fresh] at stopped
    contradiction

/-- These lives account for the watches of a session that was made from such resources, and for all
that they left in its trace. -/
structure Explained (resources : List (Resource Object ω ε)) (members : List (Member Object ω ε))
    (trace : List (Entry Object ε)) (lives : List (Life Object ω ε)) : Prop where
  made : lives.map Life.resource = resources
  stand : lives.map Life.member = members
  told : Woven (lives.map Life.told) (trace.filter Entry.isWatch)

theorem LivesOn.shifted {members : List (Member Object ω ε)} {work : List (List (Entry Object ε))}
    (each : LivesOn Does Keeps) (shifted : Shifted Does (lives.map Life.member) work members) :
    ∃ later, List.Forall₂ Keeps lives later ∧
      later.map Life.resource = lives.map Life.resource ∧ later.map Life.member = members ∧
      later.map Life.told = List.zipWith (· ++ ·) (lives.map Life.told) work ∧
      work.length = lives.length := by
  induction lives generalizing members work with
  | nil =>
    cases shifted
    exact ⟨[], .nil, rfl, rfl, rfl, rfl⟩
  | cons life rest ih =>
    cases shifted with
    | cons first others =>
      obtain ⟨later, keeps, resource, rfl, told⟩ := each life _ _ first
      obtain ⟨lives, keep, resources, rfl, tells, length⟩ := ih others
      refine ⟨later :: lives, .cons keeps keep, ?_, rfl, ?_, congrArg Nat.succ length⟩
      · rw [List.map_cons, List.map_cons, resource, resources]
      · rw [List.map_cons, List.map_cons, List.zipWith_cons_cons, told, tells]

theorem Explained.goes_on {resources : List (Resource Object ω ε)} {p : Progress Object ω ε}
    (explained : Explained resources s.members trace lives) (each : LivesOn Does Keeps)
    (shifts : p.Shifts Does s) :
    ∃ later, List.Forall₂ Keeps lives later ∧
      Explained resources p.session.members (trace ++ p.trace) later := by
  obtain ⟨work, shifted, woven⟩ := shifts
  rw [← explained.stand] at shifted
  obtain ⟨later, keep, made, stand, tells, length⟩ := each.shifted shifted
  refine ⟨later, keep, ⟨made.trans explained.made, stand, ?_⟩⟩
  rw [tells, List.filter_append]
  exact explained.told.append woven (by rw [List.length_map, length])

end Lives
end GatewayEvents.Session

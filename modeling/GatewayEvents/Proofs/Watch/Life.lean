import GatewayEvents.Proofs.Watch.Moves

/-! The life of a watch, from its making on: it may be spawned, and then makes a row of moves, at
whatever times and beside whatever else goes on (`Lived`). It starts once at most, and signals its
sync when it has first listed and never again (`Lived.countP_synced`); by then every object it keeps
has been handed to a callback as created (`Lived.exists_firstList`). -/
namespace GatewayEvents

namespace WatchLoop
variable {K ω ε : Type} [Watched K] {c : Config K ω ε} {step : Step K} {now : Nat}
  {s t : State K} {w v : ω} {es : List (Entry K ε)} {key : ObjectKey} {object : K}

/-- Among these entries is a callback about the creation of the object under this key. -/
def CreatedIn (past : List (Entry K ε)) (key : ObjectKey) : Prop :=
  ∃ a, .attempt a ∈ past ∧ a.operation = .create ∧ a.key = key

/-- An object comes to be kept only with a callback about its creation. -/
theorem Move.kept_or_created (move : Move c step s w t v es)
    (kept : t.cache.get? key = some object) :
    (∃ old, s.cache.get? key = some old) ∨ CreatedIn es key := by
  cases move with
  | relistStarted | seen | relistEnded | synced | missed | polled | recreated | gone =>
    exact .inl ⟨object, kept⟩
  | unchanged _ known =>
    rcases Table.get?_insert_cases kept with ⟨rfl, -⟩ | ⟨-, before⟩
    · exact .inl ⟨_, known⟩
    · exact .inl ⟨object, before⟩
  | updated _ known _ called =>
    rcases Table.get?_insert_cases (called.cache ▸ kept) with ⟨rfl, -⟩ | ⟨-, before⟩
    · exact .inl ⟨_, known⟩
    · exact .inl ⟨object, before⟩
  | created _ _ called =>
    rcases Table.get?_insert_cases (called.cache ▸ kept) with ⟨rfl, -⟩ | ⟨-, before⟩
    · right
      cases called <;> exact ⟨_, List.mem_cons_self, rfl, rfl⟩
    · exact .inl ⟨object, before⟩
  | deleted called | vanished _ called =>
    rw [called.cache, Table.get?_erase] at kept
    split at kept
    next => contradiction
    next => exact .inl ⟨object, kept⟩
  | deletedAgain _ _ _ called | keptAgain _ _ _ called =>
    exact .inl ⟨object, called.cache ▸ kept⟩

theorem kept_or_created_step (whole : (WatchLoop.step c now s w step).crash = none)
    (kept : (WatchLoop.step c now s w step).state.cache.get? key = some object) :
    (∃ old, s.cache.get? key = some old) ∨
      CreatedIn (WatchLoop.step c now s w step).trace key := by
  let Sourced (t : State K) (_ : ω) (past : List (Entry K ε)) : Prop :=
    ∀ key object, t.cache.get? key = some object →
      (∃ old, s.cache.get? key = some old) ∨ CreatedIn past key
  have begins : Sourced s w [] := fun _ object found => .inl ⟨object, found⟩
  have goes : ∀ {t u v x es past}, Move c step t v u x es → Sourced t v past →
      Sourced u x (past ++ es) := by
    intro t u v x es past move before key object found
    rcases move.kept_or_created found with ⟨old, earlier⟩ | ⟨a, made, create⟩
    · rcases before key old earlier with known | ⟨a, made, create⟩
      · exact .inl known
      · exact .inr ⟨a, List.mem_append_left _ made, create⟩
    · exact .inr ⟨a, List.mem_append_right _ made, create⟩
  exact (moves_step whole).preserve goes begins key object kept

end WatchLoop

namespace Watch
variable {K ω ε : Type}

def Entry.isSynced : Entry K ε → Bool
  | .synced => true
  | _ => false

def Entry.isStarting : Entry K ε → Bool
  | .starting => true
  | _ => false

def CreatedIn (log : List (Nat × Entry K ε)) (key : ObjectKey) : Prop :=
  ∃ time a, (time, .loop (.attempt a)) ∈ log ∧ a.operation = .create ∧ a.key = key

/-- How often a watch that stands here has started. -/
def launched (w : Watch K ω ε) : Nat :=
  match w.phase with
  | .idle | .spawned => 0
  | .running | .stopped => 1

/-- A loop that has synced was signalled to have. -/
def Announced (w : Watch K ω ε) : Prop := w.loop.synced = true → w.signalled = true

/-- The watch came from `fresh` to where it stands: what it left in the trace on the way, and when;
and which watch events its loop took in. -/
inductive Lived [Watched K] (fresh : Watch K ω ε) :
    List (Nat × Entry K ε) → List (WatchEvent (Keyed K)) → Watch K ω ε → Prop where
  | fresh : Lived fresh [] [] fresh
  | spawn {log events w} (now : Nat) (before : Lived fresh log events w) (idle : w.phase = .idle) :
      Lived fresh log events (w.spawn now)
  | move {log events w now es more v} (before : Lived fresh log events w)
      (move : Move now w es more v) :
      Lived fresh (log ++ es.map (now, ·)) (events ++ more) v

section Entries
variable {es : List (Entry K ε)}

theorem Entry.IsFinal.silent {entry : Entry K ε} (final : entry.IsFinal) :
    entry.isSynced = false ∧ entry.isStarting = false := by
  cases entry with
  | ended | stopping | crashed => exact ⟨rfl, rfl⟩
  | starting | loop | synced | failed => cases final

@[simp] theorem Entry.isSynced_loop (entry : WatchLoop.Entry K ε) :
    (Entry.loop entry).isSynced = false := rfl

@[simp] theorem Entry.isStarting_loop (entry : WatchLoop.Entry K ε) :
    (Entry.loop entry).isStarting = false := rfl

theorem exists_mem_map_loop {key : ObjectKey} {trace : List (WatchLoop.Entry K ε)}
    (created : WatchLoop.CreatedIn trace key) :
    ∃ a, Entry.loop (.attempt a) ∈ trace.map Entry.loop ∧ a.operation = .create ∧
      a.key = key := by
  obtain ⟨a, made, create⟩ := created
  exact ⟨a, List.mem_map_of_mem made, create⟩

theorem countP_stamped {now : Nat} (test : Entry K ε → Bool) :
    (es.map (now, ·)).countP (test ·.2) = es.countP test := by
  rw [List.countP_map]
  rfl

end Entries

variable [Watched K]

section Move
variable {now : Nat} {w v : Watch K ω ε} {es : List (Entry K ε)}
  {events : List (WatchEvent (Keyed K))} {key : ObjectKey} {object : K}

theorem Move.announced (move : Move now w es events v) (before : w.Announced) : v.Announced := by
  cases move with
  | launched | told => exact before
  | stopped => exact nofun
  | handled => exact fun synced => Bool.or_eq_true_iff.mpr (.inr synced)
  | @rang step world run runs done quiet whole =>
    subst done
    intro synced
    have same : (WatchLoop.step w.config now w.loop world step).state.synced = w.loop.synced :=
      WatchLoop.synced_step step (by simp [quiet])
    exact before (same ▸ synced)

theorem Move.signalled_iff (move : Move now w es events v) (before : w.Announced) :
    v.signalled = true ↔ w.signalled = true ∨ .initDone ∈ events := by
  cases move with
  | launched | told | stopped | rang => simp [stop]
  | @handled event order world run runs done whole =>
    subst done
    rw [Bool.or_eq_true, List.mem_singleton]
    by_cases last : event = .initDone
    · subst last
      have synced :
          (WatchLoop.finishRelist w.config now order w.loop world).state.synced = true := by
        have done : (WatchLoop.finishRelist w.config now order w.loop world).crash = none := whole
        rw [WatchLoop.synced_finishRelist, if_pos done]
      exact iff_of_true (.inr synced) (.inr rfl)
    · have same : (WatchLoop.step w.config now w.loop world (.event order event)).state.synced =
          w.loop.synced :=
        WatchLoop.synced_step (.event order event) fun ends => last (Option.some.inj ends)
      rw [same]
      constructor
      · rintro (signalled | synced)
        · exact .inl signalled
        · exact .inl (before synced)
      · rintro (signalled | ends)
        · exact .inl signalled
        · exact absurd ends.symm last

theorem Move.countP_synced (move : Move now w es events v) :
    es.countP Entry.isSynced + w.signalled.toNat = v.signalled.toNat := by
  cases move with
  | launched | told => simp [Entry.isSynced]
  | rang => simp
  | stopped runs final => simp [final.silent, stop]
  | @handled event order world run runs done whole =>
    cases run.state.synced <;> cases w.signalled <;> simp [Entry.isSynced]

theorem Move.countP_starting (move : Move now w es events v) :
    es.countP Entry.isStarting + w.launched = v.launched := by
  cases move with
  | launched spawned => simp [Entry.isStarting, Watch.launched, spawned]
  | told message runs => simp [Entry.isStarting]
  | rang => simp [Watch.launched]
  | stopped runs final => simp [final.silent, Watch.launched, runs, stop]
  | @handled event order world run runs done whole =>
    cases run.state.synced <;> cases w.signalled <;> simp [Entry.isStarting, Watch.launched]

theorem Move.kept_or_created (move : Move now w es events v)
    (kept : v.loop.cache.get? key = some object) :
    (∃ old, w.loop.cache.get? key = some old) ∨
      ∃ a, .loop (.attempt a) ∈ es ∧ a.operation = .create ∧ a.key = key := by
  cases move with
  | stopped => cases kept
  | launched | told => exact .inl ⟨object, kept⟩
  | rang runs done quiet whole =>
    subst done
    exact (WatchLoop.kept_or_created_step whole kept).imp_right exists_mem_map_loop
  | handled runs done whole =>
    subst done
    refine (WatchLoop.kept_or_created_step whole kept).imp_right fun created => ?_
    obtain ⟨a, made, create⟩ := exists_mem_map_loop created
    exact ⟨a, List.mem_append_left _ made, create⟩

/-- A move that ends a list for the first time signals the sync, last of all. -/
theorem Move.signal (move : Move now w es events v) (before : w.Announced)
    (unsignalled : w.signalled = false) (done : .initDone ∈ events) :
    events = [.initDone] ∧ ∃ earlier, es = earlier ++ [.synced] := by
  have signalled : v.signalled = true := (move.signalled_iff before).mpr (.inr done)
  cases move with
  | launched | told | stopped | rang => cases done
  | @handled _ _ _ run =>
    obtain rfl := List.mem_singleton.mp done
    have synced : run.state.synced = true := by simpa [unsignalled] using signalled
    exact ⟨rfl, run.trace.map .loop, by simp [synced, unsignalled]⟩

end Move

/-- Where the first list of a watch ended, and what had come of it by then: the loop took in the end
of a relist for the first time, the watch signalled its sync with it, and of every object it kept
then it had told a callback as created. -/
structure FirstList (fresh : Watch K ω ε) where
  log : List (Nat × Entry K ε)
  events : List (WatchEvent (Keyed K))
  watch : Watch K ω ε
  time : Nat
  lived : Lived fresh log (events ++ [.initDone]) watch
  first : .initDone ∉ events
  signal : log.getLast? = some (time, .synced)
  created : ∀ key object, watch.loop.cache.get? key = some object → CreatedIn log key

section Lived
variable {fresh w v : Watch K ω ε} {log : List (Nat × Entry K ε)}
  {events more : List (WatchEvent (Keyed K))} {now : Nat} {es : List (Entry K ε)}

theorem Lived.moves (lived : Lived fresh log events w) (moves : Moves now w es more v) :
    Lived fresh (log ++ es.map (now, ·)) (events ++ more) v := by
  induction moves generalizing log events with
  | none => simpa using lived
  | cons first _ ih =>
    rw [List.map_append, ← List.append_assoc, ← List.append_assoc]
    exact ih (lived.move first)

theorem Lived.config (lived : Lived fresh log events w) : w.config = fresh.config := by
  induction lived with
  | fresh => rfl
  | spawn _ _ _ ih => exact ih
  | move _ move ih => exact move.config.trans ih

end Lived

section FromMaking
variable {config : WatchLoop.Config K ω ε} {w : Watch K ω ε} {log : List (Nat × Entry K ε)}
  {events : List (WatchEvent (Keyed K))}

theorem Lived.announced (lived : Lived (.ofConfig config) log events w) : w.Announced := by
  induction lived with
  | fresh | spawn => exact nofun
  | move _ move ih => exact move.announced ih

/-- A watch has signalled its sync exactly if a list has been completed. -/
theorem Lived.signalled_iff (lived : Lived (.ofConfig config) log events w) :
    w.signalled = true ↔ .initDone ∈ events := by
  induction lived with
  | fresh => simp [ofConfig]
  | spawn _ _ _ ih => exact ih
  | move before move ih =>
    rw [List.mem_append, ← ih]
    exact move.signalled_iff before.announced

/-- The sync has been signalled once if it has come, and not before. -/
theorem Lived.countP_synced (lived : Lived (.ofConfig config) log events w) :
    log.countP (·.2.isSynced) = w.signalled.toNat := by
  induction lived with
  | fresh => rfl
  | spawn _ _ _ ih => exact ih
  | move _ move ih =>
    rw [List.countP_append, countP_stamped, ih, Nat.add_comm]
    exact move.countP_synced

theorem Lived.countP_starting (lived : Lived (.ofConfig config) log events w) :
    log.countP (·.2.isStarting) = w.launched := by
  induction lived with
  | fresh => rfl
  | spawn _ _ idle ih =>
    rw [ih]
    simp [launched, idle, Watch.spawn]
  | move _ move ih =>
    rw [List.countP_append, countP_stamped, ih, Nat.add_comm]
    exact move.countP_starting

theorem Lived.created (lived : Lived (.ofConfig config) log events w) (key : ObjectKey) (object : K)
    (kept : w.loop.cache.get? key = some object) : CreatedIn log key := by
  induction lived generalizing object with
  | fresh | spawn => cases kept
  | @move _ _ _ now _ _ _ before move ih =>
    rcases move.kept_or_created kept with ⟨old, earlier⟩ | ⟨a, made, create⟩
    · obtain ⟨time, a, made, create⟩ := ih old earlier
      exact ⟨time, a, List.mem_append_left _ made, create⟩
    · exact ⟨now, a, List.mem_append_right _ (List.mem_map_of_mem made), create⟩

theorem Lived.exists_firstList (lived : Lived (.ofConfig config) log events w)
    (done : .initDone ∈ events) :
    ∃ list : FirstList (.ofConfig config), list.log <+: log ∧
      list.events ++ [.initDone] <+: events := by
  induction lived with
  | fresh => cases done
  | spawn _ _ _ ih => exact ih done
  | @move log events w now es more v before move ih =>
    by_cases earlier : .initDone ∈ events
    · obtain ⟨list, past, taken⟩ := ih earlier
      exact ⟨list, past.trans (List.prefix_append _ _), taken.trans (List.prefix_append _ _)⟩
    · have unsignalled : w.signalled = false := by
        rw [← Bool.not_eq_true, before.signalled_iff]
        exact earlier
      obtain ⟨rfl, told, rfl⟩ := move.signal before.announced unsignalled
        ((List.mem_append.mp done).resolve_left earlier)
      have after := before.move move
      refine ⟨⟨_, events, v, now, after, earlier, ?_, after.created⟩, List.prefix_refl _,
        List.prefix_refl _⟩
      simp

end FromMaking
end Watch
end GatewayEvents

import GatewayEvents.Proofs.WatchLoop.History

/-! How callbacks hang together. Every callback stands in one row of callbacks about one object,
each but the first a repetition of the one before it; a row is over, or its next callback is
queued (`Row`). This follows from what one move does to the queue (`Turn`). -/
namespace GatewayEvents.WatchLoop

variable {K ω ε : Type}

/-- No callback was made, and nothing was requeued or given up. -/
def Entry.idle : Entry K ε → Bool
  | .attempt _ | .requeued _ _ _ | .dropped _ _ _ => false
  | _ => true

def Step.fires [Watched K] : Step K → Bool
  | .fire _ => true
  | _ => false

/-- What a move does to the queue. -/
inductive Turn [Watched K] (c : Config K ω ε) (step : Step K) (s : State K) (w : ω) :
    State K → ω → List (Entry K ε) → Prop where
  | rested {t es} (waits : step.fires = false)
      (queue : t.retries.toList.Perm s.retries.toList) (idle : ∀ e ∈ es, e.idle = true) :
      Turn c step s w t w es
  | told {op key object u t v es} (waits : step.fires = false)
      (called : Called c op key object 0 u w t v es) (queue : u.retries = s.retries) :
      Turn c step s w t v es
  | discarded {index r es} (fires : step = .fire index)
      (found : s.retries.toList[index]? = some r) (idle : ∀ e ∈ es, e.idle = true) :
      Turn c step s w (s.take index) w es
  | repeated {index r object t v es} (fires : step = .fire index)
      (found : s.retries.toList[index]? = some r)
      (source : r.operation = .delete → object = r.object)
      (called : Called c r.operation r.key object r.requeues (s.take index) w t v es) :
      Turn c step s w t v es

variable {c : Config K ω ε} {now index : Nat} {op : Operation} {key : ObjectKey}
  {object : K} {requeues : Nat} {s t u : State K} {w v : ω} {es past : List (Entry K ε)}
  {r : Retry K}

section Turns

theorem attemptsIn_of_idle (idle : ∀ e ∈ es, e.idle = true) : attemptsIn es = [] := by
  refine List.filterMap_eq_nil_iff.mpr fun e member => ?_
  have idle := idle e member
  cases e <;> first | rfl | contradiction

theorem Step.Shows.fires [Watched K] {step : Step K} {o : Keyed K} (shown : step.Shows o) :
    step.fires = false := by
  rcases shown with ⟨order, rfl | rfl⟩ <;> rfl

theorem Move.turn [Watched K] {step : Step K} (move : Move c step s w t v es) :
    Turn c step s w t v es := by
  cases move with
  | relistStarted | seen | relistEnded | synced | missed =>
    exact .rested rfl (.refl _) (by simp [Entry.idle])
  | polled same => exact .rested rfl same (by simp)
  | unchanged shown => exact .rested shown.fires (.refl _) (by simp [Entry.idle])
  | created shown _ called | updated shown _ _ called => exact .told shown.fires called rfl
  | deleted called | vanished _ called => exact .told rfl called rfl
  | recreated found | gone found => exact .discarded rfl found (by simp [Entry.idle])
  | deletedAgain found delete _ called =>
    exact .repeated rfl found (fun _ => rfl) (delete ▸ called)
  | keptAgain found keep _ called =>
    exact .repeated rfl found (fun delete => absurd delete keep) called

end Turns

section Chains

/-- The callback asked to be run again, and the retry repeats it. -/
structure Repeats (r : Retry K) (a : Attempt K ε) : Prop where
  asked : a.requeue = true
  operation : a.operation = r.operation
  key : a.key = r.key
  object : r.operation = .delete → a.object = r.object

/-- These callbacks, one by one, led to the retry. -/
structure Chain (r : Retry K) (chain : List (Attempt K ε)) : Prop where
  counted : chain.map (·.requeues) = List.range r.requeues
  repeats : ∀ a ∈ chain, Repeats r a

theorem chain_nil : Chain (⟨op, key, object, 0⟩ : Retry K) ([] : List (Attempt K ε)) where
  counted := rfl
  repeats _ member := by cases member

/-- What is repeated can be given another object, unless it is a deletion. -/
theorem Chain.withObject {chain : List (Attempt K ε)} (before : Chain r chain)
    (source : r.operation = .delete → object = r.object) :
    Chain { r with object := object } chain where
  counted := before.counted
  repeats a member :=
    have old := before.repeats a member
    ⟨old.asked, old.operation, old.key, fun delete =>
      (old.object delete).trans (source delete).symm⟩

theorem Chain.snoc {chain : List (Attempt K ε)} (before : Chain ⟨op, key, object, requeues⟩ chain)
    (answer : (c.made op key object requeues w).requeue = true) :
    Chain ⟨op, key, object, requeues + 1⟩ (chain ++ [c.made op key object requeues w]) where
  counted := by simp [before.counted, List.range_succ, Config.made]
  repeats a member := by
    rcases List.mem_append.mp member with earlier | last
    · have old := before.repeats a earlier
      exact ⟨old.asked, old.operation, old.key, old.object⟩
    · obtain rfl := List.mem_singleton.mp last
      exact ⟨answer, rfl, rfl, fun _ => rfl⟩

end Chains

section Rows

/-- Callbacks that each repeat the one before, and what is queued to repeat the last one. -/
structure Row (K ε : Type) where
  made : List (Attempt K ε)
  next : Option (Retry K)

/-- The callbacks of a row are about one object, counted from a first one without a gap, and
each but the last asked for the one after it. -/
structure Row.Sound (past : List (Entry K ε)) (x : Row K ε) : Prop where
  begun : x.made ≠ []
  among : x.made.Sublist (attemptsIn past)
  counted : x.made.map (·.requeues) = List.range x.made.length
  alike : ∀ a ∈ x.made, ∀ b ∈ x.made, a.operation = b.operation ∧ a.key = b.key
  asked : ∀ a ∈ x.made.dropLast, a.requeue = true
  repeats : ∀ r, x.next = some r → Chain r x.made

/-- Every callback stands in one of these rows, and every queued retry ends one of them, apart
from the callbacks of a row that is about to go on. -/
structure Arranged (s : State K) (past : List (Entry K ε)) (chain : List (Attempt K ε))
    (rows : List (Row K ε)) : Prop where
  among : chain.Sublist (attemptsIn past)
  made : (chain ++ rows.flatMap Row.made).Perm (attemptsIn past)
  queued : (rows.filterMap Row.next).Perm s.retries.toList
  sound : ∀ x ∈ rows, x.Sound past

/-- Every callback stands in a row, and every queued retry ends one. -/
def InRows (s : State K) (past : List (Entry K ε)) : Prop := ∃ rows, Arranged s past [] rows

theorem Row.Sound.append {x : Row K ε} (sound : x.Sound past) : x.Sound (past ++ es) where
  begun := sound.begun
  among := by
    rw [attemptsIn_append]
    exact sound.among.trans (List.sublist_append_left ..)
  counted := sound.counted
  alike := sound.alike
  asked := sound.asked
  repeats := sound.repeats

theorem Arranged.split {rows : List (Row K ε)} (before : Arranged s past [] rows)
    (found : s.retries.toList[index]? = some r) :
    ∃ chain rest, Arranged (s.take index) past chain rest ∧ Row.Sound past ⟨chain, some r⟩ := by
  have queued : r ∈ rows.filterMap Row.next :=
    before.queued.mem_iff.mpr (List.mem_of_getElem? found)
  obtain ⟨⟨chain, next⟩, member, rfl⟩ := List.mem_filterMap.mp queued
  obtain ⟨front, back, rfl⟩ := List.append_of_mem member
  have apart : (front ++ ⟨chain, some r⟩ :: back).Perm (⟨chain, some r⟩ :: (front ++ back)) :=
    List.perm_middle
  refine ⟨chain, front ++ back, ⟨?_, ?_, ?_, ?_⟩, before.sound _ member⟩
  · exact (before.sound _ member).among
  · exact (apart.flatMap_right _).symm.trans before.made
  · refine (List.perm_cons r).mp ?_
    exact (apart.filterMap _).symm.trans (before.queued.trans (State.perm_take found))
  · exact fun x other => before.sound x (apart.mem_iff.mpr (List.mem_cons_of_mem _ other))

theorem Arranged.append_of_idle {rows : List (Row K ε)} (before : Arranged s past [] rows)
    (queue : t.retries.toList.Perm s.retries.toList) (idle : ∀ e ∈ es, e.idle = true) :
    InRows t (past ++ es) := by
  have silent : attemptsIn (past ++ es) = attemptsIn past := by
    rw [attemptsIn_append, attemptsIn_of_idle idle, List.append_nil]
  exact ⟨rows, List.nil_sublist _, silent ▸ before.made, before.queued.trans queue.symm,
    fun x member => (before.sound x member).append⟩

theorem Chain.sound_row {chain : List (Attempt K ε)}
    (led : Chain ⟨op, key, object, requeues⟩ chain) (among : chain.Sublist (attemptsIn past))
    (attempts : attemptsIn es = [c.made op key object requeues w]) {next : Option (Retry K)}
    (repeats : ∀ r, next = some r → Chain r (chain ++ [c.made op key object requeues w])) :
    Row.Sound (past ++ es) ⟨chain ++ [c.made op key object requeues w], next⟩ where
  begun := by simp
  among := by
    rw [attemptsIn_append, attempts]
    exact among.append (.refl _)
  counted := by
    have length : chain.length = requeues := by simpa using congrArg List.length led.counted
    simp [led.counted, length, List.range_succ, Config.made]
  alike := by
    have own : ∀ a ∈ chain ++ [c.made op key object requeues w],
        a.operation = op ∧ a.key = key := by
      intro a member
      rcases List.mem_append.mp member with earlier | last
      · exact ⟨(led.repeats a earlier).operation, (led.repeats a earlier).key⟩
      · obtain rfl := List.mem_singleton.mp last
        exact ⟨rfl, rfl⟩
    intro a here b there
    obtain ⟨operation, about⟩ := own a here
    obtain ⟨operation', about'⟩ := own b there
    exact ⟨operation.trans operation'.symm, about.trans about'.symm⟩
  asked a member := by
    rw [List.dropLast_concat] at member
    exact (led.repeats a member).asked
  repeats := repeats

/-- A callback goes on with its row, which is then over or has its next callback queued. -/
theorem Called.inRows {chain : List (Attempt K ε)} {rows : List (Row K ε)}
    (called : Called c op key object requeues u w t v es) (before : Arranged u past chain rows)
    (led : Chain ⟨op, key, object, requeues⟩ chain) : InRows t (past ++ es) := by
  have attempts := called.attempts
  have made : ((chain ++ [c.made op key object requeues w]) ++ rows.flatMap Row.made).Perm
      (attemptsIn (past ++ es)) := by
    rw [attemptsIn_append, attempts, List.append_assoc]
    refine (List.Perm.append_left _ List.perm_append_comm).trans ?_
    rw [← List.append_assoc]
    exact before.made.append_right _
  have others : ∀ x ∈ rows, x.Sound (past ++ es) := fun x member => (before.sound x member).append
  cases called with
  | settled | dropped =>
    refine ⟨⟨_, none⟩ :: rows, List.nil_sublist _, made, before.queued,
      List.forall_mem_cons.mpr ⟨?_, others⟩⟩
    exact led.sound_row before.among attempts (by simp)
  | requeued answer allowed queued =>
    refine ⟨⟨_, some ⟨op, key, object, requeues + 1⟩⟩ :: rows, List.nil_sublist _, made,
      (before.queued.cons _).trans queued.symm, List.forall_mem_cons.mpr ⟨?_, others⟩⟩
    refine led.sound_row before.among attempts ?_
    rintro _ ⟨⟩
    exact led.snoc answer

theorem Turn.inRows [Watched K] {step : Step K} (turn : Turn c step s w t v es)
    (before : InRows s past) : InRows t (past ++ es) := by
  obtain ⟨rows, before⟩ := before
  cases turn with
  | rested _ queue idle => exact before.append_of_idle queue idle
  | told _ called queue =>
    exact called.inRows ⟨before.among, before.made, queue ▸ before.queued, before.sound⟩ chain_nil
  | discarded _ found idle =>
    obtain ⟨chain, rest, apart, sound⟩ := before.split found
    have ended : Row.Sound past ⟨chain, none⟩ :=
      ⟨sound.begun, sound.among, sound.counted, sound.alike, sound.asked, by simp⟩
    have closed : Arranged (s.take _) past [] (⟨chain, none⟩ :: rest) :=
      ⟨List.nil_sublist _, apart.made, apart.queued, List.forall_mem_cons.mpr ⟨ended, apart.sound⟩⟩
    exact closed.append_of_idle (.refl _) idle
  | repeated _ found source called =>
    obtain ⟨chain, rest, apart, sound⟩ := before.split found
    exact called.inRows apart ((sound.repeats _ rfl).withObject source)

theorem inRows_initial (start : Nat) : InRows (.initial start) ([] : List (Entry K ε)) :=
  ⟨[], .refl _, .refl _, .refl _, fun _ member => by cases member⟩

theorem inRows_runSteps [Watched K] {steps : List (Nat × Step K)} {start : Nat}
    (ok : (runSteps c steps (.initial start) w).crash = none) :
    InRows (runSteps c steps (.initial start) w).state
      (runSteps c steps (.initial start) w).trace :=
  runSteps_preserve (I := fun s _ past => InRows s past)
    (fun move before => move.turn.inRows before) ok (inRows_initial start)

end Rows

end GatewayEvents.WatchLoop

import GatewayEvents.Proofs.Session.Lives

/-! The one start of a session. It returns once its watches have listed one after another, or with
the first that stopped before it listed (`awaited`); the answer stands whatever happens later
(`Verdict.onward`), and any other start is refused at once (`start_waits_for_first_lists`). -/
namespace GatewayEvents.Session
variable {κ : Type} {Object : κ → Type} {ω ε : Type}

/-- The answer of a start that began the watches: it does not tell that others have. -/
def isVerdict : Except StartError Unit → Bool
  | .error .alreadyStarted => false
  | _ => true

theorem start_react (now index : Nat)
    (reaction : (m : Member Object ω ε) → Watch.Reaction (Object m.kind) ω ε)
    (s : Session Object ω ε) (world : ω) :
    (react now index reaction s world).session.start = s.start ∧
      (react now index reaction s world).started = none := by
  unfold react
  cases s.members[index]? <;> exact ⟨rfl, rfl⟩

theorem members_await {s : Session Object ω ε} {world : ω} :
    (s.await world).session.members = s.members := by
  unfold Session.await
  cases s.start <;> rfl

theorem forall_of_forall₂ {α : Type} {R : α → α → Prop} {P Q : α → Prop} {xs ys : List α}
    (keeps : ∀ {x y}, R x y → P x → Q y) (onward : List.Forall₂ R xs ys) (all : ∀ x ∈ xs, P x) :
    ∀ y ∈ ys, Q y := by
  induction onward with
  | nil => exact List.forall_mem_nil _
  | cons first _ ih =>
    obtain ⟨here, rest⟩ := List.forall_mem_cons.mp all
    exact List.forall_mem_cons.mpr ⟨keeps first here, ih rest⟩

variable [∀ kind, Watched (Object kind)]

/-- What a start has to answer about its watches. -/
inductive Verdict (lives : List (Life Object ω ε)) : Except StartError Unit → Prop where
  | synced (all : ∀ life ∈ lives, life.HasListed) : Verdict lives (.ok ())
  | failed (before : List (Life Object ω ε)) (life : Life Object ω ε)
      (after : List (Life Object ω ε))
      (split : lives = before ++ life :: after) (listed : ∀ earlier ∈ before, earlier.HasListed)
      (stopped : life.HasStopped) (unlisted : ¬ life.HasListed) :
      Verdict lives (.error (.syncFailed life.name))

/-- What comes of following a start over these watches, the first of them at the position. -/
inductive Awaited (position : Nat) (lives : List (Life Object ω ε)) :
    Start → Option (Except StartError Unit) → Prop where
  | verdict {answer} (verdict : Verdict lives answer) : Awaited position lives .over (some answer)
  | waiting (before : List (Life Object ω ε)) (life : Life Object ω ε)
      (after : List (Life Object ω ε))
      (split : lives = before ++ life :: after) (listed : ∀ earlier ∈ before, earlier.HasListed)
      (unlisted : ¬ life.HasListed) (running : ¬ life.HasStopped) :
      Awaited position lives (.waiting (position + before.length)) none

/-- How far the start has come, as the answers and the watches show it. -/
def Standing (lives : List (Life Object ω ε)) (answers : List (Except StartError Unit)) :
    Start → Prop
  | .notYet => answers = []
  | .waiting position =>
    answers.filter isVerdict = [] ∧ ∀ life ∈ lives.take position, life.HasListed
  | .over => ∃ answer, answers.filter isVerdict = [answer] ∧ Verdict lives answer

section Verdict
variable {lives later earlier : List (Life Object ω ε)} {life : Life Object ω ε}
  {answer : Except StartError Unit}

theorem Life.signalled_iff : life.watch.signalled = true ↔ life.HasListed :=
  life.lived.signalled_iff

theorem Life.hasStopped_iff : life.watch.hasStopped = true ↔ life.HasStopped :=
  Watch.hasStopped_iff

theorem Verdict.prepend (verdict : Verdict lives answer)
    (listed : ∀ life ∈ earlier, life.HasListed) : Verdict (earlier ++ lives) answer := by
  cases verdict with
  | synced all =>
    refine .synced fun life member => ?_
    rcases List.mem_append.mp member with before | after
    · exact listed life before
    · exact all life after
  | failed before life after split first stopped unlisted =>
    refine .failed (earlier ++ before) life after ?_ (fun life member => ?_) stopped unlisted
    · rw [split, List.append_assoc]
    · rcases List.mem_append.mp member with before | after
      · exact listed life before
      · exact first life after

theorem Verdict.cons (verdict : Verdict lives answer) (listed : life.HasListed) :
    Verdict (life :: lives) answer := by
  have first : ∀ here ∈ [life], here.HasListed := by simpa using listed
  exact verdict.prepend first

/-- A verdict stands, whatever happens later. -/
theorem Verdict.onward (verdict : Verdict lives answer)
    (onward : List.Forall₂ Life.Onward lives later) : Verdict later answer := by
  cases verdict with
  | synced all => exact .synced (forall_of_forall₂ Life.Onward.listed onward all)
  | failed before life after split listed stopped unlisted =>
    subst split
    induction before generalizing later with
    | nil =>
      cases onward with
      | @cons _ next _ rest first _ =>
        -- a watch that has stopped takes in nothing more, so it never lists
        obtain ⟨stays, unlists⟩ := first.stopped stopped
        rw [← first.name]
        exact .failed [] next rest rfl (List.forall_mem_nil _) stays fun listed =>
          unlisted (unlists listed)
    | cons here before ih =>
      obtain ⟨listedHere, listedBefore⟩ := List.forall_mem_cons.mp listed
      cases onward with
      | cons first rest => exact (ih listedBefore rest).cons (first.listed listedHere)

theorem first_unlisted_unique {before before' after after' : List (Life Object ω ε)}
    {life' : Life Object ω ε}
    (same : before ++ life :: after = before' ++ life' :: after')
    (listed : ∀ earlier ∈ before, earlier.HasListed) (unlisted : ¬ life.HasListed)
    (listed' : ∀ earlier ∈ before', earlier.HasListed) (unlisted' : ¬ life'.HasListed) :
    life = life' := by
  induction before generalizing before' with
  | nil =>
    cases before' with
    | nil => exact (List.cons.inj same).1
    | cons here before' =>
      obtain rfl := (List.cons.inj same).1
      exact absurd (listed' life List.mem_cons_self) unlisted
  | cons here before ih =>
    cases before' with
    | nil =>
      obtain rfl := (List.cons.inj same).1
      exact absurd (listed here List.mem_cons_self) unlisted'
    | cons here' before' =>
      exact ih (List.cons.inj same).2 (List.forall_mem_cons.mp listed).2
        (List.forall_mem_cons.mp listed').2

/-- Where there is a verdict, the first watch that has not listed has stopped. -/
theorem Verdict.failed_of_first {before after : List (Life Object ω ε)}
    (verdict : Verdict lives answer) (split : lives = before ++ life :: after)
    (listed : ∀ earlier ∈ before, earlier.HasListed)
    (unlisted : ¬ life.HasListed) :
    life.HasStopped ∧ answer = .error (.syncFailed life.name) := by
  cases verdict with
  | synced all => exact absurd (all life (by simp [split])) unlisted
  | failed before' life' after' split' listed' stopped' unlisted' =>
    obtain rfl := first_unlisted_unique (split.symm.trans split') listed unlisted listed' unlisted'
    exact ⟨stopped', rfl⟩

theorem Verdict.eq_ok_iff (verdict : Verdict lives answer) :
    answer = .ok () ↔ ∀ life ∈ lives, life.HasListed := by
  cases verdict with
  | synced all => exact iff_of_true rfl all
  | failed before life after split _ _ unlisted =>
    exact iff_of_false nofun fun all => unlisted (all life (by simp [split]))

theorem Verdict.unique {other : Except StartError Unit} (verdict : Verdict lives answer)
    (another : Verdict lives other) : answer = other := by
  cases verdict with
  | synced all => exact (another.eq_ok_iff.mpr all).symm
  | failed before life after split listed stopped unlisted =>
    exact (another.failed_of_first split listed unlisted).2.symm

theorem awaited (position : Nat) (lives : List (Life Object ω ε)) :
    Awaited position lives (awaitFrom position (lives.map Life.member)).1
      (awaitFrom position (lives.map Life.member)).2.2 := by
  induction lives generalizing position with
  | nil => exact .verdict (.synced (List.forall_mem_nil _))
  | cons life rest ih =>
    have follow : awaitFrom position ((life :: rest).map Life.member) =
        if life.watch.signalled then
          ((awaitFrom (position + 1) (rest.map Life.member)).1,
            .cachesSynced life.member.name :: (awaitFrom (position + 1) (rest.map Life.member)).2.1,
            (awaitFrom (position + 1) (rest.map Life.member)).2.2)
        else if life.watch.hasStopped then
          (.over, [], some (.error (.syncFailed life.member.name)))
        else (.waiting position, [], none) := rfl
    rw [follow]
    by_cases listed : life.HasListed
    · rw [if_pos (Life.signalled_iff.mpr listed)]
      have later := ih (position + 1)
      generalize awaitFrom (position + 1) (rest.map Life.member) = followed at later ⊢
      obtain ⟨start, entries, answer⟩ := followed
      cases later with
      | verdict verdict => exact .verdict (verdict.cons listed)
      | waiting before next after split listedBefore unlisted running =>
        have further : position + 1 + before.length = position + (life :: before).length := by
          rw [List.length_cons]
          omega
        rw [further]
        exact .waiting (life :: before) next after (by rw [split, List.cons_append])
          (List.forall_mem_cons.mpr ⟨listed, listedBefore⟩) unlisted running
    · rw [if_neg fun signalled => listed (Life.signalled_iff.mp signalled)]
      by_cases stopped : life.HasStopped
      · rw [if_pos (Life.hasStopped_iff.mpr stopped), life.member_name]
        exact .verdict (.failed [] life rest rfl (List.forall_mem_nil _) stopped listed)
      · rw [if_neg fun stops => stopped (Life.hasStopped_iff.mp stops)]
        exact .waiting [] life rest rfl (List.forall_mem_nil _) listed stopped

end Verdict

section Course
variable {lives later : List (Life Object ω ε)} {answers : List (Except StartError Unit)}
  {start : Start} {answer : Except StartError Unit} {r : Record Object ω ε}
  {happening : Happening Object}

theorem Standing.onward (standing : Standing lives answers start)
    (onward : List.Forall₂ Life.Onward lives later) : Standing later answers start := by
  cases start with
  | notYet => exact standing
  | waiting position =>
    exact ⟨standing.1,
      forall_of_forall₂ Life.Onward.listed (List.forall₂_take position onward) standing.2⟩
  | «over» =>
    obtain ⟨answer, only, verdict⟩ := standing
    exact ⟨answer, only, verdict.onward onward⟩

theorem Standing.refuse (standing : Standing lives answers start) (started : start ≠ .notYet) :
    Standing lives (answers ++ [.error .alreadyStarted]) start := by
  have same : (answers ++ [Except.error StartError.alreadyStarted]).filter isVerdict =
      answers.filter isVerdict := by
    rw [List.filter_append]
    exact List.append_nil _
  cases start with
  | notYet => exact absurd rfl started
  | waiting position => exact ⟨same.trans standing.1, standing.2⟩
  | «over» =>
    obtain ⟨answer, only, verdict⟩ := standing
    exact ⟨answer, same.trans only, verdict⟩

theorem Verdict.isVerdict (verdict : Verdict lives answer) : isVerdict answer = true := by
  cases verdict <;> rfl

theorem awaited_await {s : Session Object ω ε} (world : ω) {position : Nat}
    (following : s.start = .waiting position) (stand : lives.map Life.member = s.members) :
    Awaited position (lives.drop position) (s.await world).session.start
      (s.await world).started := by
  have followed := awaited position (lives.drop position)
  rw [List.map_drop, stand] at followed
  unfold Session.await
  rw [following]
  exact followed

theorem Standing.await {s : Session Object ω ε} {world : ω}
    (standing : Standing lives answers s.start)
    (stand : lives.map Life.member = s.members) :
    Standing lives (answers ++ (s.await world).started.toList) (s.await world).session.start ∧
      ((s.await world).session.start = .notYet ↔ s.start = .notYet) ∧
      (s.await world).started.toList.countP (!isVerdict ·) = 0 := by
  cases following : s.start with
  | notYet | «over» =>
    rw [following] at standing
    simpa [Session.await, following] using standing
  | waiting position =>
    rw [following] at standing
    obtain ⟨none, listed⟩ := standing
    have followed := awaited_await world following stand
    generalize (s.await world).session.start = start at followed ⊢
    generalize (s.await world).started = answer at followed ⊢
    cases followed with
    | @verdict answer verdict =>
      have counts := verdict.isVerdict
      refine ⟨⟨answer, ?_, ?_⟩, by simp, by simp [counts]⟩
      · rw [List.filter_append, none]
        simp [counts]
      · rw [← List.take_append_drop position lives]
        exact verdict.prepend listed
    | waiting before life after split listedBefore =>
      refine ⟨⟨by simpa using none, ?_⟩, by simp, rfl⟩
      rw [List.take_add, split, List.take_left]
      exact List.forall_mem_append.mpr ⟨listed, listedBefore⟩

/-- A start that is followed answers as soon as there is a verdict. -/
theorem Standing.started_of_verdict {s : Session Object ω ε} {world : ω} {position : Nat}
    (following : s.start = .waiting position) (standing : Standing lives answers s.start)
    (stand : lives.map Life.member = s.members) (verdict : Verdict lives answer) :
    (s.await world).started = some answer := by
  rw [following] at standing
  have followed := awaited_await world following stand
  generalize (s.await world).session.start = start at followed
  generalize (s.await world).started = returned at followed ⊢
  cases followed with
  | verdict other =>
    have whole := other.prepend standing.2
    rw [List.take_append_drop] at whole
    rw [whole.unique verdict]
  | waiting before life after split listed unlisted running =>
    have whole : lives = (lives.take position ++ before) ++ life :: after := by
      rw [List.append_assoc, ← split, List.take_append_drop]
    have all := List.forall_mem_append.mpr ⟨standing.2, listed⟩
    exact absurd (verdict.failed_of_first whole all unlisted).1 running

/-- How a course of a session has gone, after so many starts. -/
structure Gone (resources : List (Resource Object ω ε)) (starts : Nat) (r : Record Object ω ε)
    (lives : List (Life Object ω ε)) : Prop where
  explained : Explained resources r.session.members r.trace lives
  standing : Standing lives r.answers r.session.start
  begun : r.session.start = .notYet ↔ starts = 0
  spawned : ∀ life ∈ lives, life.HasBegun ↔ 0 < starts
  refused : r.answers.countP (!isVerdict ·) = starts - 1

def Resource.life (r : Resource Object ω ε) : Life Object ω ε := ⟨r, [], [], r.fresh, .fresh⟩

theorem gone_nothing (resources : List (Resource Object ω ε)) (world : ω) :
    Gone resources 0 ⟨.ofResources resources, world, [], []⟩ (resources.map Resource.life) where
  explained := by
    refine ⟨?_, ?_, ?_⟩
    · rw [List.map_map]
      exact List.map_id _
    · rw [List.map_map]
      rfl
    · rw [List.map_map]
      exact woven_rest fun log member => by
        obtain ⟨_, _, rfl⟩ := List.mem_map.mp member
        rfl
  standing := rfl
  begun := iff_of_true rfl rfl
  spawned life member := by
    obtain ⟨r, -, rfl⟩ := List.mem_map.mp member
    exact iff_of_false (not_not_intro rfl) (Nat.lt_irrefl 0)
  refused := rfl

variable [DecidableEq κ]

theorem start_happen (s : Session Object ω ε) (world : ω) (start : happening.isStart = false)
    (await : happening ≠ .await) :
    (happen happening s world).session.start = s.start ∧
      (happen happening s world).started = none := by
  cases happening with
  | start => cases start
  | await => exact absurd rfl await
  | launch | item | ring | halt => exact start_react ..

/-- What a happening does to the start, unless it begins it. -/
theorem Standing.happen {s : Session Object ω ε} {world : ω}
    (standing : Standing lives answers s.start)
    (stand : lives.map Life.member = (happen happening s world).session.members)
    (other : happening.isStart = true → s.start ≠ .notYet) :
    Standing lives (answers ++ (happen happening s world).started.toList)
        (happen happening s world).session.start ∧
      ((happen happening s world).session.start = .notYet ↔ s.start = .notYet) ∧
      (happen happening s world).started.toList.countP (!isVerdict ·) =
        happening.isStart.toNat := by
  by_cases start : happening.isStart = true
  · cases happening with
    | start now =>
      have refused : begin now s world = ⟨s, world, [], some (.error .alreadyStarted)⟩ :=
        begin_of_started (other start)
      rw [Session.happen, refused]
      exact ⟨standing.refuse (other start), Iff.rfl, rfl⟩
    | _ => cases start
  · rw [Bool.not_eq_true] at start
    by_cases awaits : happening = .await
    · subst awaits
      exact standing.await (stand.trans members_await)
    · obtain ⟨same, none⟩ := start_happen s world start awaits
      rw [same, none, start]
      simpa using standing

section Gone
variable {resources : List (Resource Object ω ε)} {starts : Nat}

theorem then_start (now : Nat) (r : Record Object ω ε) : r.then (.start now) =
    ⟨(r.session.begin now r.world).session, (r.session.begin now r.world).world,
      r.trace ++ (r.session.begin now r.world).trace,
      r.answers ++ (r.session.begin now r.world).started.toList⟩ := rfl

theorem Gone.begin (gone : Gone resources starts r lives) (now : Nat)
    (notYet : r.session.start = .notYet) :
    ∃ later, Gone resources (starts + 1) (r.then (.start now)) later := by
  have none : starts = 0 := gone.begun.mp notYet
  have silent : r.answers = [] := by
    have standing := gone.standing
    rwa [notYet] at standing
  have asleep : ∀ m ∈ r.session.members, m.watch.phase = .idle := by
    rw [← gone.explained.stand]
    intro m member
    obtain ⟨life, among, rfl⟩ := List.mem_map.mp member
    exact of_not_not (mt (gone.spawned life among).mp (by simp [none]))
  have shifts : (r.session.begin now r.world).Shifts (Member.Spawned now) r.session :=
    shifts_begin notYet asleep
  obtain ⟨later, onward, explained⟩ := gone.explained.goes_on livesOn_spawned shifts
  have waits : (r.session.begin now r.world).session.start = .waiting 0 ∧
      (r.session.begin now r.world).started = Option.none := by
    unfold Session.begin
    rw [notYet]
    exact ⟨rfl, rfl⟩
  rw [then_start, waits.2, silent]
  refine ⟨later, explained, ?_, ?_, fun life member => ?_, ?_⟩
  · rw [waits.1]
    exact ⟨rfl, List.forall_mem_nil _⟩
  · rw [waits.1]
    exact iff_of_false nofun nofun
  · have spawned : ∀ life ∈ later, life.HasBegun :=
      forall_of_forall₂ (fun kept _ => kept.2) onward fun _ _ => trivial
    exact iff_of_true (spawned life member) (Nat.succ_pos starts)
  · rw [none]
    rfl

theorem Gone.then (gone : Gone resources starts r lives) (happening : Happening Object) :
    ∃ later, Gone resources (starts + happening.isStart.toNat) (r.then happening) later := by
  by_cases first : happening.isStart = true ∧ r.session.start = .notYet
  · obtain ⟨start, notYet⟩ := first
    cases happening with
    | start now => exact gone.begin now notYet
    | _ => cases start
  · have other : happening.isStart = true → r.session.start ≠ .notYet :=
      fun start notYet => first ⟨start, notYet⟩
    have started : happening.isStart = true → starts ≠ 0 := fun start none =>
      other start (gone.begun.mpr none)
    -- a start spawns nothing from here on, so whatever happens is moves of the watches
    have shifts : ∃ now, (Session.happen happening r.session r.world).Shifts (Member.Moved now)
        r.session := shifts_happen other
    obtain ⟨now, shifts⟩ := shifts
    obtain ⟨later, onward, explained⟩ := gone.explained.goes_on livesOn_moved shifts
    have standing := gone.standing.onward (onward.imp fun _ _ kept => kept.1)
    obtain ⟨stands, begun, refused⟩ := standing.happen explained.stand other
    have further : 0 < starts + happening.isStart.toNat ↔ 0 < starts := by
      cases start : happening.isStart with
      | false => rfl
      | true => exact iff_of_true (Nat.succ_pos starts) (Nat.pos_of_ne_zero (started start))
    refine ⟨later, explained, stands, ?_, ?_, ?_⟩
    · rw [Record.then, begun, gone.begun]
      cases start : happening.isStart with
      | false => rfl
      | true => simp [started start]
    · rw [further]
      exact forall_of_forall₂ (fun kept same => ⟨fun begun => same.mp (of_not_not fun fresh =>
        kept.2 fresh begun), fun some => kept.1.begun (same.mpr some)⟩) onward gone.spawned
    · rw [Record.then, List.countP_append, gone.refused, refused]
      cases start : happening.isStart with
      | false => rfl
      | true => exact Nat.sub_add_cancel (Nat.pos_of_ne_zero (started start))

theorem gone_course (resources : List (Resource Object ω ε))
    (happenings : List (Happening Object)) (world : ω) :
    ∃ lives, Gone resources (happenings.countP Happening.isStart)
      (course happenings (.ofResources resources) world) lives := by
  induction happenings using List.reverseRecOn with
  | nil => exact ⟨_, gone_nothing resources world⟩
  | append_singleton earlier happening ih =>
    obtain ⟨lives, gone⟩ := ih
    have counts : (earlier ++ [happening]).countP Happening.isStart =
        earlier.countP Happening.isStart + happening.isStart.toNat := by
      cases start : happening.isStart <;> simp [start]
    rw [counts, course, List.foldl_append]
    exact gone.then happening

end Gone
end Course

/-- What is so of every life: its watch begins once at most and signals its sync once at most, just
if it has listed; and what it kept when it first had, callbacks had been told of as created. -/
structure Life.Sound (life : Life Object ω ε) : Prop where
  starts : life.log.countP (·.2.isStarting) ≤ 1
  signals : life.log.countP (·.2.isSynced) ≤ 1
  signalled : life.log.countP (·.2.isSynced) = 1 ↔ life.HasListed
  created : life.HasListed → ∃ list : Watch.FirstList life.resource.fresh,
    list.log <+: life.log ∧ list.events ++ [.initDone] <+: life.events

theorem Life.sound (life : Life Object ω ε) : life.Sound := by
  have signals := life.lived.countP_synced
  refine ⟨?_, ?_, ?_, life.lived.exists_firstList⟩
  · rw [life.lived.countP_starting, Watch.launched]
    split <;> omega
  · rw [signals]
    exact Bool.toNat_le _
  · rw [signals, Bool.toNat_eq_one]
    exact Life.signalled_iff

/-- What is so of a session after so many starts: the first begins every watch, and tells that all
of them have listed or which is the first that stopped before, as soon as that is settled; any other
is refused and leaves the session alone. -/
structure StartedOnce (starts : Nat) (r : Record Object ω ε) (lives : List (Life Object ω ε)) :
    Prop where
  begun : ∀ life ∈ lives, life.HasBegun ↔ 0 < starts
  once : (r.answers.filter isVerdict).length ≤ 1
  succeeded : ∀ answer ∈ r.answers, isVerdict answer = true →
    (answer = .ok () ↔ ∀ life ∈ lives, life.HasListed)
  failed : ∀ answer ∈ r.answers, isVerdict answer = true → answer ≠ .ok () →
    ∃ before life after, lives = before ++ life :: after ∧
      (∀ earlier ∈ before, earlier.HasListed) ∧ ¬ life.HasListed ∧ life.HasStopped ∧
      answer = .error (.syncFailed life.name)
  settled : 0 < starts → r.answers.filter isVerdict = [] → ∀ answer, Verdict lives answer →
    (r.session.await r.world).started = some answer
  refused : r.answers.countP (!isVerdict ·) = starts - 1
  again : 0 < starts → ∀ now, r.session.begin now r.world =
    ⟨r.session, r.world, [], some (.error .alreadyStarted)⟩

section StartedOnce
variable {resources : List (Resource Object ω ε)} {starts : Nat} {r : Record Object ω ε}
  {lives : List (Life Object ω ε)}

theorem Gone.verdict (gone : Gone resources starts r lives) :
    (∀ answer ∈ r.answers, isVerdict answer = true → Verdict lives answer) ∧
      (r.answers.filter isVerdict).length ≤ 1 := by
  have standing := gone.standing
  have none : r.answers.filter isVerdict = [] →
      (∀ answer ∈ r.answers, isVerdict answer = true → Verdict lives answer) ∧
        (r.answers.filter isVerdict).length ≤ 1 := by
    intro silent
    refine ⟨fun answer member verdict => ?_, by simp [silent]⟩
    exact absurd verdict (List.filter_eq_nil_iff.mp silent answer member)
  cases start : r.session.start with
  | notYet =>
    rw [start] at standing
    have silent : r.answers = [] := standing
    exact none (by rw [silent]; rfl)
  | waiting position =>
    rw [start] at standing
    exact none standing.1
  | «over» =>
    rw [start] at standing
    obtain ⟨verdict, only, holds⟩ := standing
    refine ⟨fun answer member about => ?_, by simp [only]⟩
    have among : answer ∈ r.answers.filter isVerdict := List.mem_filter.mpr ⟨member, about⟩
    rw [only, List.mem_singleton] at among
    exact among ▸ holds

theorem Gone.startedOnce (gone : Gone resources starts r lives) : StartedOnce starts r lives := by
  obtain ⟨verdict, once⟩ := gone.verdict
  have started : 0 < starts → r.session.start ≠ .notYet := fun some none =>
    some.ne' (gone.begun.mp none)
  refine ⟨gone.spawned, once, fun answer member about => (verdict answer member about).eq_ok_iff,
    fun answer member about other => ?_, fun some silent answer holds => ?_, gone.refused,
    fun some _ => begin_of_started (started some)⟩
  · cases verdict answer member about with
    | synced => exact absurd rfl other
    | failed before life after split listed stopped unlisted =>
      exact ⟨before, life, after, split, listed, unlisted, stopped, rfl⟩
  · have standing := gone.standing
    cases start : r.session.start with
    | notYet => exact absurd start (started some)
    | waiting position => exact standing.started_of_verdict start gone.explained.stand holds
    | «over» =>
      rw [start] at standing
      obtain ⟨answer, only, -⟩ := standing
      rw [silent] at only
      cases only

end StartedOnce

section Examples

def idling (name : String) : Resource (fun _ : Unit => Node) Unit Unit where
  kind := ()
  scope := none
  config := ⟨name, fun _ _ => false, ⟨5, 100, 30⟩, fun _ _ _ _ => ⟨false, [], ()⟩⟩

end Examples

end GatewayEvents.Session

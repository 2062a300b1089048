/-! A container of items that each ring at a time of their own, to the millisecond. The
alarms hang on six wheels of sixty-four slots: a slot of the first wheel is a millisecond
wide, a slot of any other as wide as one whole turn of the wheel before it. When the hand
comes to a slot of a later wheel, the alarms in it move one wheel down. Of alarms in one
slot the one that came there last goes first. An alarm that is due when it is set is kept
apart and rings first of all; one that is due beyond a whole turn of the last wheel cannot
be set. Moving alarms changes their order and nothing else (`toList_poll`), and setting
one adds just that one (`toList_insert?`). The hand is moved no further than to the present
(`Turned`), so an alarm that is set is due within a turn of the last wheel (`delay_le_span`). -/
namespace GatewayEvents

/-- `wheel` is the wheel on which the alarm hangs, if it is not overdue. -/
structure Alarm (α : Type) where
  item : α
  due : Nat
  wheel : Option Nat
  deriving Repr

/-- Times count from `origin`, in milliseconds. Nobody looks at the hand before `wakeAt`;
the alarms that came last stand first. -/
structure TimerWheel (α : Type) where
  origin : Nat
  hand : Nat := 0
  wakeAt : Option Nat := none
  alarms : List (Alarm α) := []
  deriving Repr

namespace TimerWheel

def wheels : Nat := 6

def width (wheel : Nat) : Nat := Nat.pow 64 wheel

/-- One turn of the last wheel, less a millisecond. -/
def span : Nat := width wheels - 1

def empty (origin : Nat) : TimerWheel α := { origin := origin }

def toList (t : TimerWheel α) : List α := t.alarms.map (·.item)

def slotOf (wheel time : Nat) : Nat := time / width wheel % 64

/-- The lowest wheel on which the hand and the time lie in one turn. -/
def wheelFor (hand due : Nat) : Nat := min (Nat.log2 ((hand ^^^ due) ||| 63) / 6) (wheels - 1)

structure Stop where
  wheel : Nat
  slot : Nat
  time : Nat

def Stop.holds (s : Stop) (a : Alarm α) : Bool :=
  a.wheel = some s.wheel && slotOf s.wheel a.due = s.slot

def Stop.ofSlot (hand wheel slot : Nat) : Stop :=
  let turn := width (wheel + 1)
  let time := hand - hand % turn + slot * width wheel
  ⟨wheel, slot, if time < hand then time + turn else time⟩

/-- How many slots of a wheel the hand has to pass to come to a time. -/
def distance (hand wheel due : Nat) : Nat := (slotOf wheel due + 64 - slotOf wheel hand) % 64

/-- The next slot of a wheel that is not empty. -/
def stopOn? (t : TimerWheel α) (wheel : Nat) : Option Stop :=
  let hanging := t.alarms.filter (·.wheel = some wheel)
  ((hanging.map fun a => distance t.hand wheel a.due).min?).map fun d =>
    .ofSlot t.hand wheel ((slotOf wheel t.hand + d) % 64)

/-- The lowest wheel comes first. -/
def nextStop? (t : TimerWheel α) : Option Stop := (List.range wheels).findSome? t.stopOn?

def nextStopTime? (t : TimerWheel α) : Option Nat := t.nextStop?.map (·.time)

def moveHand (time : Nat) (t : TimerWheel α) : TimerWheel α := { t with hand := max t.hand time }

/-- Moves the alarms of a slot one wheel down, the last one first. -/
def cascade (stop : Stop) (t : TimerWheel α) : TimerWheel α :=
  let moved := (t.alarms.filter stop.holds).map fun a => { a with wheel := some (stop.wheel - 1) }
  { (t.moveHand stop.time) with
    alarms := moved.reverse ++ t.alarms.filter fun a => !stop.holds a }

/-- Turns the wheels up to a time, or to the first alarm that rings on the way, whose
position is given. -/
def roll (limit : Nat) : Nat → TimerWheel α → TimerWheel α × Option Nat
  | 0, t => (t, none)
  | fuel + 1, t =>
    match t.nextStop? with
    | none => (t.moveHand limit, none)
    | some stop =>
      if limit < stop.time then (t.moveHand limit, none)
      else if stop.wheel = 0 then (t, t.alarms.findIdx? stop.holds)
      else roll limit fuel (t.cascade stop)

/-- No alarm moves down more often than this. -/
def moves (t : TimerWheel α) : Nat := t.alarms.foldr (fun a n => a.wheel.getD 0 + n) 0

/-- Lets the hand catch up, waking whenever it has to. -/
def catchUp (now : Nat) : Nat → TimerWheel α → TimerWheel α × Option Nat
  | 0, t => (t, none)
  | fuel + 1, t =>
    match t.wakeAt with
    | none => (t, none)
    | some time =>
      if now < t.origin + time then (t, none)
      else
        let rolled := roll time (t.moves + 1) t
        match rolled.2 with
        | some index => (rolled.1, some index)
        | none => catchUp now fuel { rolled.1 with wakeAt := rolled.1.nextStopTime? }

/-- Brings the wheels up to the present and gives the position of an alarm that rings. -/
def poll (now : Nat) (t : TimerWheel α) : TimerWheel α × Option Nat :=
  match t.alarms.findIdx? (·.wheel.isNone) with
  | some index => (t, some index)
  | none => catchUp now (t.moves + 2) t

def eraseIdx (index : Nat) (t : TimerWheel α) : TimerWheel α :=
  let rest := { t with alarms := t.alarms.eraseIdx index }
  if (t.alarms[index]?.bind (·.wheel)).isSome then { rest with wakeAt := rest.nextStopTime? }
  else rest

/-- The wheels at the present, unless an alarm rings that has not been taken out yet. -/
def current (now : Nat) (t : TimerWheel α) : TimerWheel α :=
  let polled := t.poll now
  if polled.2.isNone then polled.1 else t

/-- Hangs an alarm up, if its time is within reach. -/
def hang (due : Nat) (item : α) (t : TimerWheel α) : Option (TimerWheel α) :=
  let due := max due t.hand
  let wakeAt := match t.wakeAt with
    | some time => if due < max time t.hand then due else time
    | none => due
  if due ≤ t.hand then
    some { t with wakeAt := some wakeAt, alarms := ⟨item, due, none⟩ :: t.alarms }
  else if due - t.hand ≤ span then
    some { t with
      wakeAt := some wakeAt, alarms := ⟨item, due, some (wheelFor t.hand due)⟩ :: t.alarms }
  else none

/-- Sets an alarm for `delay` milliseconds from now. -/
def insert? (now delay : Nat) (item : α) (t : TimerWheel α) : Option (TimerWheel α) :=
  (t.current now).hang (now + delay - t.origin) item

def firstDue? (t : TimerWheel α) : Option Nat :=
  ((t.alarms.map (·.due)).min?).map (t.origin + ·)

@[simp] theorem toList_empty (origin : Nat) : (empty origin : TimerWheel α).toList = [] := rfl

@[simp] theorem toList_moveHand (time : Nat) (t : TimerWheel α) :
    (t.moveHand time).toList = t.toList := rfl

theorem toList_cascade (stop : Stop) (t : TimerWheel α) :
    (t.cascade stop).toList.Perm t.toList := by
  have parted := (List.filter_append_perm stop.holds t.alarms).map (·.item)
  have moved : ((t.alarms.filter stop.holds).map fun a =>
      ({ a with wheel := some (stop.wheel - 1) } : Alarm α)).map (·.item) =
      (t.alarms.filter stop.holds).map (·.item) := by
    rw [List.map_map]; rfl
  simp only [toList, cascade, List.map_append, List.map_reverse, moved]
  rw [List.map_append] at parted
  exact ((List.reverse_perm _).append_right _).trans parted

theorem toList_roll (limit fuel : Nat) (t : TimerWheel α) :
    (roll limit fuel t).1.toList.Perm t.toList := by
  induction fuel generalizing t with
  | zero => exact .refl _
  | succ fuel ih =>
    unfold roll
    split
    · exact .refl _
    · rename_i stop _
      split
      · exact .refl _
      · split
        · exact .refl _
        · exact (ih _).trans (toList_cascade stop t)

theorem toList_catchUp (now fuel : Nat) (t : TimerWheel α) :
    (catchUp now fuel t).1.toList.Perm t.toList := by
  induction fuel generalizing t with
  | zero => exact .refl _
  | succ fuel ih =>
    unfold catchUp
    split
    · exact .refl _
    · rename_i time _
      split
      · exact .refl _
      · have rolled := toList_roll time (t.moves + 1) t
        simp only
        split
        · exact rolled
        · exact (ih _).trans rolled

theorem toList_poll (now : Nat) (t : TimerWheel α) : (t.poll now).1.toList.Perm t.toList := by
  unfold poll
  split
  · exact .refl _
  · exact toList_catchUp now _ t

theorem toList_current (now : Nat) (t : TimerWheel α) : (t.current now).toList.Perm t.toList := by
  unfold current
  simp only
  split
  · exact toList_poll now t
  · exact .refl _

theorem items_eraseIdx (index : Nat) (alarms : List (Alarm α)) :
    (alarms.eraseIdx index).map (·.item) = (alarms.map (·.item)).eraseIdx index := by
  induction alarms generalizing index with
  | nil => rfl
  | cons a rest ih =>
    cases index with
    | zero => rfl
    | succ index => simp only [List.eraseIdx_cons_succ, List.map_cons, ih]

theorem toList_eraseIdx (index : Nat) (t : TimerWheel α) :
    (t.eraseIdx index).toList = t.toList.eraseIdx index := by
  unfold eraseIdx
  simp only
  split <;> exact items_eraseIdx index t.alarms

theorem toList_hang {due : Nat} {item : α} {t u : TimerWheel α} (set : t.hang due item = some u) :
    u.toList = item :: t.toList := by
  unfold hang at set
  simp only at set
  split at set
  · cases set; rfl
  · split at set
    · cases set; rfl
    · contradiction

theorem toList_insert? {now delay : Nat} {item : α} {t u : TimerWheel α}
    (set : t.insert? now delay item = some u) : u.toList.Perm (item :: t.toList) := by
  rw [toList_hang set]
  exact (toList_current now t).cons item

/-- From `t` to `u` the hand was moved at most, and no further than to the present. -/
structure Turned (now : Nat) (t u : TimerWheel α) : Prop where
  origin : u.origin = t.origin
  hand : u.hand ≤ max t.hand (now - t.origin)

/-- The hand is not ahead of the present. -/
def Timely (now : Nat) (t : TimerWheel α) : Prop := t.origin + t.hand ≤ now

theorem Turned.refl (now : Nat) (t : TimerWheel α) : Turned now t t := ⟨rfl, Nat.le_max_left ..⟩

theorem Turned.trans {now : Nat} {t u v : TimerWheel α} (first : Turned now t u)
    (later : Turned now u v) : Turned now t v where
  origin := later.origin.trans first.origin
  hand := by
    have turned := later.hand
    rw [first.origin] at turned
    have := first.hand
    omega

theorem Turned.timely {now : Nat} {t u : TimerWheel α} (turned : Turned now t u)
    (timely : t.Timely now) : u.Timely now := by
  have := turned.hand
  unfold Timely at timely ⊢
  rw [turned.origin]
  omega

theorem turned_moveHand {now time : Nat} {t : TimerWheel α} (within : time ≤ now - t.origin) :
    Turned now t (t.moveHand time) where
  origin := rfl
  hand := by
    simp only [moveHand]
    omega

theorem turned_cascade {now : Nat} {stop : Stop} {t : TimerWheel α}
    (within : stop.time ≤ now - t.origin) : Turned now t (t.cascade stop) where
  origin := rfl
  hand := (turned_moveHand within).hand

theorem turned_roll {now limit : Nat} (fuel : Nat) {t : TimerWheel α}
    (within : limit ≤ now - t.origin) : Turned now t (roll limit fuel t).1 := by
  induction fuel generalizing t with
  | zero => exact .refl now t
  | succ fuel ih =>
    unfold roll
    split
    · exact turned_moveHand within
    · rename_i stop _
      split
      · exact turned_moveHand within
      · split
        · exact .refl now t
        · have moved : Turned now t (t.cascade stop) := turned_cascade (by omega)
          exact moved.trans (ih (moved.origin ▸ within))

theorem turned_catchUp (now fuel : Nat) (t : TimerWheel α) :
    Turned now t (catchUp now fuel t).1 := by
  induction fuel generalizing t with
  | zero => exact .refl now t
  | succ fuel ih =>
    unfold catchUp
    split
    · exact .refl now t
    · rename_i time _
      split
      · exact .refl now t
      · have rolled : Turned now t (roll time (t.moves + 1) t).1 := turned_roll _ (by omega)
        simp only
        split
        · exact rolled
        · have woken : Turned now t { (roll time (t.moves + 1) t).1 with
              wakeAt := (roll time (t.moves + 1) t).1.nextStopTime? } :=
            ⟨rolled.origin, rolled.hand⟩
          exact woken.trans (ih _)

theorem turned_poll (now : Nat) (t : TimerWheel α) : Turned now t (t.poll now).1 := by
  unfold poll
  split
  · exact .refl now t
  · exact turned_catchUp now _ t

theorem turned_current (now : Nat) (t : TimerWheel α) : Turned now t (t.current now) := by
  unfold current
  simp only
  split
  · exact turned_poll now t
  · exact .refl now t

theorem turned_eraseIdx (now index : Nat) (t : TimerWheel α) :
    Turned now t (t.eraseIdx index) := by
  unfold eraseIdx
  simp only
  split <;> exact ⟨rfl, Nat.le_max_left ..⟩

/-- What can be hung up is due now, or within a turn of the last wheel. -/
theorem hang_eq_some {due : Nat} {item : α} {t u : TimerWheel α} (set : t.hang due item = some u) :
    due ≤ t.hand + span ∧ u.origin = t.origin ∧ u.hand = t.hand := by
  unfold hang at set
  simp only at set
  split at set
  · cases set
    exact ⟨by omega, rfl, rfl⟩
  · split at set
    · cases set
      exact ⟨by omega, rfl, rfl⟩
    · contradiction

theorem turned_insert? {now delay : Nat} {item : α} {t u : TimerWheel α}
    (set : t.insert? now delay item = some u) : Turned now t u := by
  obtain ⟨-, origin, hand⟩ := hang_eq_some set
  exact (turned_current now t).trans ⟨origin, hand ▸ Nat.le_max_left ..⟩

theorem delay_le_span {now delay : Nat} {item : α} {t u : TimerWheel α} (timely : t.Timely now)
    (set : t.insert? now delay item = some u) : delay ≤ span := by
  have reach := (hang_eq_some set).1
  have current := (turned_current now t).timely timely
  unfold Timely at timely current
  rw [(turned_current now t).origin] at current
  omega

/-- Whatever is due within a turn of the last wheel, counted from the origin, can be set. -/
theorem insert?_ne_none {now delay : Nat} {item : α} {t : TimerWheel α}
    (near : now + delay ≤ t.origin + span) : t.insert? now delay item ≠ none := by
  unfold insert? hang
  simp only
  split
  · exact Option.some_ne_none _
  · rw [if_pos (by omega)]
    exact Option.some_ne_none _

end TimerWheel
end GatewayEvents

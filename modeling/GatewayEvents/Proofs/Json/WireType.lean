import GatewayEvents.Proofs.Json.Normal

/-! The types that fields have on the wire. What JSON stands for which value (`Denotes`) and what
is the matter with any other JSON (`fault?`) is said of the format alone; the readers give the
value that is denoted (`reader_eq_ok_iff`) or the fault (`reader_eq_error_iff`). -/
namespace GatewayEvents

namespace StringMap

theorem get?_ofList (entries : List (String × String)) (key : String) :
    (ofList entries).get? key = Entries.lookup key entries := by
  induction entries with
  | nil => rfl
  | cons entry rest ih =>
    obtain ⟨k, v⟩ := entry
    have step : ofList ((k, v) :: rest) = (ofList rest).insert k v := rfl
    rw [step, get?_insert, ih, Entries.lookup]
    simp only [eq_comm (a := key)]

theorem ext_get? {m n : StringMap} (same : ∀ key, m.get? key = n.get? key) : m = n := by
  have distinct := Json.nodup_of_ascending m.ascending
  have distinct' := Json.nodup_of_ascending n.ascending
  have members : ∀ entry, entry ∈ m.entries ↔ entry ∈ n.entries := fun (key, value) => by
    rw [← Entries.lookup_eq_some_iff distinct, ← Entries.lookup_eq_some_iff distinct']
    exact iff_of_eq (congrArg (· = some value) (same key))
  have perm : m.entries.Perm n.entries :=
    (List.perm_ext_iff_of_nodup distinct.of_map distinct'.of_map).mpr members
  have equal : m.entries = n.entries :=
    perm.eq_of_pairwise (fun _ _ _ _ below above => (String.lt_asymm below above).elim)
      m.ascending n.ascending
  cases m; cases n; congr

theorem eq_empty_of_isEmpty {m : StringMap} (none : m.isEmpty) : m = empty := by
  obtain ⟨entries, ascending⟩ := m
  cases List.isEmpty_iff.mp none
  rfl

end StringMap

namespace Json

theorem map_eq_ok_iff {e : Except ε α} {f : α → β} {b : β} :
    e.map f = .ok b ↔ ∃ a, e = .ok a ∧ f a = b := by
  cases e <;> simp [Except.map]

theorem map_eq_error_iff {e : Except ε α} {f : α → β} {fault : ε} :
    e.map f = .error fault ↔ e = .error fault := by
  cases e <;> simp [Except.map]

theorem bind_eq_ok_iff {e : Except ε α} {f : α → Except ε β} {b : β} :
    e >>= f = .ok b ↔ ∃ a, e = .ok a ∧ f a = .ok b := by
  cases e <;> simp [bind, Except.bind]

theorem bind_eq_error_iff {e : Except ε α} {f : α → Except ε β} {fault : ε} :
    e >>= f = .error fault ↔ e = .error fault ∨ ∃ a, e = .ok a ∧ f a = .error fault := by
  cases e <;> simp [bind, Except.bind]

inductive WireType where
  | text
  | optionalText
  | boolean
  | texts
  | textMap
  | word32
  | word64
  deriving DecidableEq, Repr

namespace WireType

abbrev Value : WireType → Type
  | .text => String
  | .optionalText => Option String
  | .boolean => Bool
  | .texts => List String
  | .textMap => StringMap
  | .word32 => UInt32
  | .word64 => UInt64

def reader : (t : WireType) → Reader t.Value
  | .text => Read.text
  | .optionalText => Read.optional Read.text
  | .boolean => Read.boolean
  | .texts => Read.list Read.text
  | .textMap => Read.stringMap
  | .word32 => Read.word32
  | .word64 => Read.word64

/-- The JSON stands for the value. A map is written as an object with nothing but texts in it. -/
def Denotes : (t : WireType) → Json → t.Value → Prop
  | .text, j, s => j = .text s
  | .optionalText, j, s => j = (s.map .text).getD .null
  | .boolean, j, b => j = .bool b
  | .texts, j, items => j = .array (items.map .text)
  | .textMap, j, m => ∃ entries : List (String × String),
      j = .object (entries.map fun entry => (entry.1, .text entry.2)) ∧
        ∀ key, m.get? key = Entries.lookup key entries
  | .word32, j, n => j = .integer n.toNat
  | .word64, j, n => j = .integer n.toNat

def Holds (t : WireType) (j : Json) : Prop := ∃ v, t.Denotes j v

def textFault? : Json → Option DecodeError
  | .text _ => none
  | j => some (.mismatch j .text)

def wordFault? (bits : Nat) : Json → Option DecodeError
  | .integer n =>
    if (Wanted.unsigned bits).admits n then none else some (.outOfRange n (.unsigned bits))
  | j => some (.mismatch j (.unsigned bits))

/-- What is the matter with JSON that is not of the type. Within a list or a map it is the first
text that is none. -/
def fault? : WireType → Json → Option DecodeError
  | .text, j => textFault? j
  | .optionalText, .null => none
  | .optionalText, j => textFault? j
  | .boolean, .bool _ => none
  | .boolean, j => some (.mismatch j .boolean)
  | .texts, .array items => items.findSome? textFault?
  | .texts, j => some (.mismatch j .sequence)
  | .textMap, .object members => members.findSome? fun member => textFault? member.2
  | .textMap, j => some (.mismatch j .map)
  | .word32, j => wordFault? 32 j
  | .word64, j => wordFault? 64 j

section Texts
variable {j : Json} {s : String} {e : DecodeError}

theorem text_eq_ok_iff : Read.text j = .ok s ↔ j = .text s := by
  cases j <;> simp [Read.text]

theorem text_eq_error_iff : Read.text j = .error e ↔ textFault? j = some e := by
  cases j <;> simp [Read.text, textFault?]

theorem each_eq_ok_iff {items : List Json} {values : List String} :
    Read.each Read.text.read items = .ok values ↔ items = values.map .text := by
  induction items generalizing values with
  | nil => simp [Read.each, eq_comm (a := [])]
  | cons item rest ih =>
    simp only [Read.each, bind_eq_ok_iff, text_eq_ok_iff, ih, pure, Except.pure, Except.ok.injEq]
    constructor
    · rintro ⟨s, rfl, strings, rfl, rfl⟩
      rfl
    · intro written
      obtain ⟨s, strings, rfl, rfl, rfl⟩ := List.map_eq_cons_iff.mp written.symm
      exact ⟨s, rfl, strings, rfl, rfl⟩

theorem each_eq_error_iff {items : List Json} :
    Read.each Read.text.read items = .error e ↔ items.findSome? textFault? = some e := by
  induction items with
  | nil => simp [Read.each]
  | cons item rest ih =>
    simp only [Read.each, bind_eq_error_iff, text_eq_ok_iff, text_eq_error_iff, ih, pure,
      Except.pure, reduceCtorEq, and_false, exists_false, or_false, List.findSome?_cons]
    cases item <;> simp [textFault?]

theorem member_eq_ok_iff {entry : String × Json} {pair : String × String} :
    Read.member entry = .ok pair ↔ entry = (pair.1, .text pair.2) := by
  simp only [Read.member, map_eq_ok_iff, text_eq_ok_iff, Prod.ext_iff]
  constructor
  · rintro ⟨s, text, key, value⟩
    exact ⟨key, value ▸ text⟩
  · rintro ⟨key, text⟩
    exact ⟨pair.2, text, key, rfl⟩

theorem members_eq_ok_iff {entries : List (String × Json)} {pairs : List (String × String)} :
    Read.members entries = .ok pairs ↔
      entries = pairs.map fun pair => (pair.1, Json.text pair.2) := by
  induction entries generalizing pairs with
  | nil => simp [Read.members, eq_comm (a := [])]
  | cons entry rest ih =>
    simp only [Read.members, bind_eq_ok_iff, member_eq_ok_iff, ih, pure, Except.pure,
      Except.ok.injEq]
    constructor
    · rintro ⟨pair, rfl, others, rfl, rfl⟩
      rfl
    · intro written
      obtain ⟨pair, others, rfl, rfl, rfl⟩ := List.map_eq_cons_iff.mp written.symm
      exact ⟨pair, rfl, others, rfl, rfl⟩

theorem members_eq_error_iff {entries : List (String × Json)} :
    Read.members entries = .error e ↔
      (entries.findSome? fun entry => textFault? entry.2) = some e := by
  induction entries with
  | nil => simp [Read.members]
  | cons entry rest ih =>
    obtain ⟨key, value⟩ := entry
    simp only [Read.members, bind_eq_error_iff, Read.member, map_eq_ok_iff, map_eq_error_iff,
      text_eq_ok_iff, text_eq_error_iff, ih, pure, Except.pure, reduceCtorEq, and_false,
      exists_false, or_false, List.findSome?_cons]
    cases value <;> simp [textFault?]

end Texts

section Words
variable {j : Json} {bits : Nat} {n : Int} {e : DecodeError}

theorem admits_unsigned_iff :
    (Wanted.unsigned bits).admits n ↔ ∃ m, m < Nat.pow 2 bits ∧ n = Int.ofNat m := by
  simp only [Wanted.admits, Bool.and_eq_true, decide_eq_true_eq]
  constructor
  · rintro ⟨positive, below⟩
    obtain ⟨m, rfl⟩ := Int.eq_ofNat_of_zero_le positive
    exact ⟨m, Int.ofNat_lt.mp below, rfl⟩
  · rintro ⟨m, below, rfl⟩
    exact ⟨Int.natCast_nonneg m, Int.ofNat_lt.mpr below⟩

theorem integer_eq_ok_iff : Read.integer (.unsigned bits) j = .ok n ↔
    j = .integer n ∧ (Wanted.unsigned bits).admits n := by
  cases j with
  | integer m =>
    simp only [Read.integer, integer.injEq]
    split
    next admitted =>
      rw [Except.ok.injEq]
      exact ⟨fun same => ⟨same, same ▸ admitted⟩, And.left⟩
    next refused =>
      exact ⟨nofun, fun admitted => (refused (admitted.1 ▸ admitted.2)).elim⟩
  | _ => simp [Read.integer]

theorem integer_eq_error_iff : Read.integer (.unsigned bits) j = .error e ↔
    wordFault? bits j = some e := by
  cases j with
  | integer m =>
    simp only [Read.integer, wordFault?]
    split <;> simp
  | _ => simp [Read.integer, wordFault?]

theorem word_eq_ok_iff {ofNat : Nat → W} {toNat : W → Nat} {w : W}
    (fits : ∀ w, toNat w < Nat.pow 2 bits) (onto : ∀ w, ofNat (toNat w) = w)
    (faithful : ∀ m, m < Nat.pow 2 bits → toNat (ofNat m) = m) :
    Read.map (fun n => ofNat n.toNat) (Read.integer (.unsigned bits)) j = .ok w ↔
      j = .integer (toNat w) := by
  simp only [Read.map, map_eq_ok_iff, integer_eq_ok_iff, admits_unsigned_iff]
  constructor
  · rintro ⟨_, ⟨rfl, m, below, rfl⟩, rfl⟩
    have same : toNat (ofNat m) = m := faithful m below
    simp [same]
  · rintro rfl
    exact ⟨toNat w, ⟨rfl, toNat w, fits w, rfl⟩, onto w⟩

theorem word32_eq_ok_iff {w : UInt32} : Read.word32 j = .ok w ↔ j = .integer w.toNat :=
  word_eq_ok_iff UInt32.toNat_lt (fun _ => UInt32.ofNat_toNat) fun _ => UInt32.toNat_ofNat_of_lt'

theorem word64_eq_ok_iff {w : UInt64} : Read.word64 j = .ok w ↔ j = .integer w.toNat :=
  word_eq_ok_iff UInt64.toNat_lt (fun _ => UInt64.ofNat_toNat) fun _ => UInt64.toNat_ofNat_of_lt'

end Words

/-- A reader gives exactly the value that the JSON stands for. -/
theorem reader_eq_ok_iff {t : WireType} {j : Json} {v : t.Value} :
    t.reader j = .ok v ↔ t.Denotes j v := by
  cases t with
  | text => exact text_eq_ok_iff
  | optionalText =>
    cases j <;> cases v <;> simp [reader, Read.optional, Denotes, map_eq_ok_iff, text_eq_ok_iff]
  | boolean => cases j <;> simp [reader, Read.boolean, Denotes]
  | texts =>
    cases j with
    | array items => simpa [reader, Read.list, Denotes] using each_eq_ok_iff
    | _ => simp [reader, Read.list, Denotes]
  | textMap =>
    cases j with
    | object members =>
      simp only [reader, Read.stringMap, map_eq_ok_iff, members_eq_ok_iff, Denotes, object.injEq]
      refine exists_congr fun pairs => and_congr_right fun _ => ?_
      constructor
      · rintro rfl key
        exact StringMap.get?_ofList pairs key
      · intro found
        exact StringMap.ext_get? fun key => (StringMap.get?_ofList pairs key).trans (found key).symm
    | _ => simp [reader, Read.stringMap, Denotes]
  | word32 => exact word32_eq_ok_iff
  | word64 => exact word64_eq_ok_iff

theorem reader_eq_error_iff {t : WireType} {j : Json} {e : DecodeError} :
    t.reader j = .error e ↔ t.fault? j = some e := by
  cases t with
  | text => exact text_eq_error_iff
  | optionalText =>
    cases j <;> simp [reader, Read.optional, fault?, map_eq_error_iff, text_eq_error_iff]
  | boolean => cases j <;> simp [reader, Read.boolean, fault?]
  | texts =>
    cases j with
    | array items => exact each_eq_error_iff
    | _ => simp [reader, Read.list, fault?]
  | textMap =>
    cases j with
    | object members => exact map_eq_error_iff.trans members_eq_error_iff
    | _ => simp [reader, Read.stringMap, fault?]
  | word32 => exact map_eq_error_iff.trans integer_eq_error_iff
  | word64 => exact map_eq_error_iff.trans integer_eq_error_iff

/-- The types are said twice, by their values and by their faults, and both say the same. -/
theorem fault?_eq_none_iff {t : WireType} {j : Json} : t.fault? j = none ↔ t.Holds j := by
  cases given : t.reader j with
  | ok v =>
    have faultless : t.fault? j = none := Option.eq_none_iff_forall_ne_some.mpr fun e failed => by
      rw [reader_eq_error_iff.mpr failed] at given
      cases given
    exact ⟨fun _ => ⟨v, reader_eq_ok_iff.mp given⟩, fun _ => faultless⟩
  | error e =>
    have failed : t.fault? j = some e := reader_eq_error_iff.mp given
    constructor
    · intro faultless
      cases faultless.symm.trans failed
    · rintro ⟨v, denoted⟩
      rw [reader_eq_ok_iff.mpr denoted] at given
      cases given

theorem Denotes.unique {t : WireType} {j : Json} {v w : t.Value} (first : t.Denotes j v)
    (second : t.Denotes j w) : v = w :=
  Except.ok.inj ((reader_eq_ok_iff.mpr first).symm.trans (reader_eq_ok_iff.mpr second))

end WireType
end Json
end GatewayEvents

/-
Module: MarketX.Audit.AuditService
Purpose: Changes of state in the audit log (`audit/audit.service.ts`): the diff
  of two states and the row it is written to; between which states the diff
  leads forwards and backwards.
Trusted boundary: human-reviewed model of the source; a state is an object as
  JSON has it, and lists its members in any order
Main exports: JsonObject, Value, Change, state_diff_iff
-/
import MarketX.Caching.OrderedMap
import MarketX.Common.Service
import MarketX.Effects.Runs
import MarketX.Effects.Table
import MarketX.Numerals.JsonText

namespace MarketX.Audit

open Caching Effects Numerals

/-! ### States -/

/-- An object with distinct members, none of which is `__proto__`. -/
structure JsonObject where
  members : OrderedMap String Json
  ordinary : "__proto__" ∉ members.entries.map Prod.fst
  doubles : ∀ member ∈ members.entries, member.2.doubles = true

/-- What a member that is read may be: a value, or the function that every
object inherits under this name. -/
inductive Value where
  | json (value : Json)
  | inherited (name : String)

/-- `Object.keys`, of a state that may be absent. -/
def keys (state : Option JsonObject) : List String :=
  match state with
  | none => []
  | some object => object.members.entries.map Prod.fst

/-- The value of a state's own member. -/
def own (state : Option JsonObject) (key : String) : Option Json :=
  state.bind fun object => object.members.get key

/-- `state?.[key]`; a missing value is `undefined`. -/
def read (state : Option JsonObject) (key : String) : Option Value :=
  match state with
  | none => none
  | some object =>
    match object.members.get key with
    | some value => some (.json value)
    | none => if key ∈ inheritedMembers then some (.inherited key) else none

/-- `JSON.stringify`, which gives `undefined` for a function. -/
def stringify : Option Value → Option String
  | some (.json value) => some value.stringify
  | some (.inherited _) => none
  | none => none

/-! ### The diff -/

structure Change where
  previous : Option Value
  new : Option Value

structure StateDiff where
  diff : OrderedMap String Change := .empty
  changedFields : List String := []

def allKeys (previous current : Option JsonObject) : List String :=
  (keys previous ++ keys current).eraseDups

/-- The body of `allKeys.forEach`. -/
def recordKey (previous current : Option JsonObject) (result : StateDiff)
    (key : String) : StateDiff :=
  let prevValue := read previous key
  let currValue := read current key
  if stringify prevValue ≠ stringify currValue then
    { diff := result.diff.set key { previous := prevValue, new := currValue }
      changedFields := result.changedFields ++ [key] }
  else result

def calculateStateDiff (previous current : Option JsonObject) : StateDiff :=
  if previous.isNone && current.isNone then {}
  else (allKeys previous current).foldl (recordKey previous current) {}

/-! ### The log -/

structure IAuditEvent where
  actionType : String
  userId : String
  ipAddress : String
  userAgent : Option String := none
  statePreviousValue : Option JsonObject := none
  stateNewValue : Option JsonObject := none
  resourceType : Option String := none
  resourceId : Option String := none
  metadata : Option Json := none
  status : Option String := none
  errorMessage : Option String := none

structure AuditLog where
  id : Id
  userId : String
  action : String
  status : String
  ipAddress : String
  userAgent : Option String
  resourceType : Option String
  resourceId : Option String
  statePreviousValue : Option JsonObject
  stateNewValue : Option JsonObject
  stateDiff : OrderedMap String Change
  changedFields : String
  details : Option Json
  errorMessage : Option String

instance : Keyed AuditLog := ⟨AuditLog.id⟩

/-- The row is appended under a new key. -/
def logStateChange (logs : Table AuditLog) (event : IAuditEvent) :
    Table AuditLog :=
  let result :=
    calculateStateDiff event.statePreviousValue event.stateNewValue
  logs.insert fun id =>
    { id
      userId := event.userId
      action := event.actionType
      status := (event.status.filter (· ≠ "")).getD "SUCCESS"
      ipAddress := event.ipAddress
      userAgent := event.userAgent
      resourceType := event.resourceType
      resourceId := event.resourceId
      statePreviousValue := event.statePreviousValue
      stateNewValue := event.stateNewValue
      stateDiff := result.diff
      changedFields := ",".intercalate result.changedFields
      details := event.metadata
      errorMessage := event.errorMessage }

/-! ### The laws of a diff -/

/-- The members of an object that may also have been given a function. -/
abbrev Members := String → Option Value

def ownMembers (state : Option JsonObject) : Members :=
  fun key => (own state key).map .json

/-- Each key of the diff is set to one side of its change, or removed where
that side has no value. -/
def applied (side : Change → Option Value) (diff : OrderedMap String Change)
    (members : Members) : Members := diff.entries.foldl
    (fun members entry => Function.update members entry.1 (side entry.2)) members

def Change.swap (change : Change) : Change where
  previous := change.new
  new := change.previous

/-- What a diff of the two states should do. -/
structure PatchLaws (previous current : Option JsonObject) : Prop where
  forwards : applied Change.new (calculateStateDiff previous current).diff
    (ownMembers previous) = ownMembers current
  backwards : applied Change.previous
    (calculateStateDiff previous current).diff (ownMembers current) = ownMembers previous
  once : (calculateStateDiff previous current).changedFields.Nodup ∧
    (calculateStateDiff previous current).changedFields =
      (calculateStateDiff previous current).diff.entries.map Prod.fst
  empty : (calculateStateDiff previous current).diff.entries = [] ↔
    ∀ key, own previous key = own current key
  swapped : ∀ key, (calculateStateDiff current previous).diff.get key =
    ((calculateStateDiff previous current).diff.get key).map Change.swap

/-- No member that only one of two objects has is named like one that every
object inherits. -/
def NoInheritedName (previous current : Option JsonObject) : Prop :=
  previous.isSome → current.isSome → ∀ key ∈ inheritedMembers,
    (own previous key).isSome = (own current key).isSome

variable {previous current : Option JsonObject} {key : String}

/-! ### Reading -/

theorem stringify_read (state : Option JsonObject) (key : String) :
    stringify (read state key) = (own state key).map Json.stringify := by
  unfold read own
  cases state with
  | none => rfl
  | some object =>
    dsimp only [Option.bind_some]
    cases object.members.get key with
    | some value => rfl
    | none =>
      dsimp only
      split <;> rfl

variable {state : Option JsonObject} {names : List String} {side : Change → Option Value}

theorem own_doubles {value : Json} (found : own state key = some value) : value.doubles = true := by
  obtain ⟨object, rfl, found⟩ := Option.bind_eq_some_iff.mp found
  exact object.doubles (key, value) (OrderedMap.mem_of_get found)

theorem stringify_read_eq : stringify (read previous key) =
      stringify (read current key) ↔ own previous key = own current key := by
  rw [stringify_read, stringify_read]
  refine ⟨fun same => ?_, fun same => by rw [same]⟩
  cases first : own previous key with
  | none => simp_all
  | some value =>
    cases second : own current key with
    | none => simp [first, second] at same
    | some other =>
      rw [first, second] at same
      exact congrArg some (Json.stringify_injective (own_doubles first)
        (own_doubles second) (Option.some.inj same))

theorem read_eq_iff :
    read state key = ownMembers state key ↔ ¬ (state.isSome = true ∧ own state key = none ∧
        key ∈ inheritedMembers) := by
  unfold read ownMembers own
  cases state with
  | none => simp
  | some object => grind

theorem own_eq_none (absent : key ∉ keys state) :
    own state key = none := by
  cases state with
  | none => rfl
  | some object => exact OrderedMap.get_eq_none absent

/-! ### The keys of the diff -/

/-- The condition under which a key is recorded. -/
def differs (previous current : Option JsonObject) (key : String) : Bool :=
  stringify (read previous key) ≠ stringify (read current key)

def changedKeys (previous current : Option JsonObject) : List String :=
  (allKeys previous current).filter (differs previous current)

theorem nodup_eraseDups {α : Type} [DecidableEq α] (list : List α) :
    list.eraseDups.Nodup := by
  induction length : list.length using Nat.strong_induction_on generalizing list with
  | _ length ih =>
    cases list with
    | nil => simp
    | cons head tail =>
      rw [List.eraseDups_cons, List.nodup_cons]
      have shorter := List.length_filter_le (fun a => !a == head) tail
      refine ⟨by simp, ih _ ?_ _ rfl⟩
      rw [← length, List.length_cons]
      omega

theorem mem_changedKeys :
    key ∈ changedKeys previous current ↔ own previous key ≠ own current key := by
  simp only [changedKeys, differs, allKeys, List.mem_filter,
    List.mem_eraseDups, List.mem_append, decide_eq_true_eq, ne_eq, stringify_read_eq]
  refine and_iff_right_of_imp fun other => ?_
  grind [own_eq_none]

/-- The entry of a key. -/
def changeOf (previous current : Option JsonObject) (key : String) :
    Change where
  previous := read previous key
  new := read current key

theorem recorded (distinct : names.Nodup) (result : StateDiff)
    (new : ∀ key ∈ names, key ∉ result.diff.entries.map Prod.fst) :
    (names.foldl (recordKey previous current) result).changedFields =
        result.changedFields ++ names.filter (differs previous current) ∧
      (names.foldl (recordKey previous current) result).diff.entries =
        result.diff.entries ++ (names.filter (differs previous current)).map
          fun key => (key, changeOf previous current key) := by
  induction names generalizing result with
  | nil => simp
  | cons name names ih =>
    obtain ⟨apart, distinct⟩ := List.nodup_cons.mp distinct
    obtain ⟨here, behind⟩ := List.forall_mem_cons.mp new
    rw [List.foldl_cons]
    by_cases changed : differs previous current name = true
    · have step : recordKey previous current result name =
          { diff := result.diff.set name (changeOf previous current name)
            changedFields := result.changedFields ++ [name] } :=
        if_pos (of_decide_eq_true changed)
      have entries :
          (recordKey previous current result name).diff.entries = result.diff.entries ++
              [(name, changeOf previous current name)] := by
        rw [step]
        exact OrderedMap.entries_set_new here
      have later : ∀ key ∈ names, key ∉ (recordKey previous current result name).diff.entries.map
            Prod.fst := by grind
      obtain ⟨fields, diff⟩ := ih distinct _ later
      grind
    · have step : recordKey previous current result name = result :=
        if_neg fun other => changed (decide_eq_true other)
      rw [step, List.filter_cons_of_neg changed]
      exact ih distinct result behind

theorem calculateStateDiff_eq (previous current : Option JsonObject) :
    (calculateStateDiff previous current).changedFields = changedKeys previous current ∧
      (calculateStateDiff previous current).diff.entries =
        (changedKeys previous current).map fun key =>
          (key, changeOf previous current key) := by
  unfold calculateStateDiff
  split
  next absent =>
    obtain ⟨first, second⟩ := Bool.and_eq_true_iff.mp absent
    rw [Option.isNone_iff_eq_none] at first second
    rw [first, second]
    exact ⟨rfl, rfl⟩
  next =>
    obtain ⟨fields, diff⟩ := recorded (nodup_eraseDups _) {} fun _ _ => List.not_mem_nil
    rw [allKeys, fields, diff]
    exact ⟨rfl, rfl⟩

theorem nodup_changedKeys (previous current : Option JsonObject) :
    (changedKeys previous current).Nodup :=
  (nodup_eraseDups _).filter _

/-! ### Applying the diff -/

theorem applied_get {change : String → Change} {members : Members} :
    (names.map fun key => (key, change key)).foldl (fun members entry =>
        Function.update members entry.1 (side entry.2)) members key =
      if key ∈ names then side (change key) else members key := by
  induction names generalizing members with
  | nil => rfl
  | cons name names ih =>
    rw [List.map_cons, List.foldl_cons, ih]
    by_cases behind : key ∈ names
    · simp [behind]
    · grind

/-- A side of the diff leads to a state, unless one of the changed members is
inherited there. -/
theorem applied_eq_iff {origin target : Option JsonObject}
    (sides : ∀ key, side (changeOf previous current key) = read target key)
    (changed : ∀ key, own previous key ≠ own current key ↔ own origin key ≠ own target key) :
    applied side (calculateStateDiff previous current).diff
        (ownMembers origin) = ownMembers target ↔ ∀ key ∈ inheritedMembers, target.isSome = true →
        own target key = none → own origin key = none := by
  have apply (key : String) : applied side
      (calculateStateDiff previous current).diff (ownMembers origin) key =
        if key ∈ changedKeys previous current then read target key
        else ownMembers origin key := by
    rw [applied, (calculateStateDiff_eq previous current).2, applied_get, sides]
  rw [funext_iff]
  refine forall_congr' fun key => ?_
  rw [apply]
  have listed := mem_changedKeys.trans (changed key)
  by_cases same : own origin key = own target key
  · simp_all [ownMembers]
  · rw [if_pos (listed.mpr same), read_eq_iff]
    constructor
    · grind
    · grind

theorem diff_get (previous current : Option JsonObject) (key : String) :
    (calculateStateDiff previous current).diff.get key = if key ∈ changedKeys previous current then
        some (changeOf previous current key)
      else none := by grind [calculateStateDiff_eq, OrderedMap.get_of_mem, OrderedMap.get_eq_none]

/-! ### The laws -/

theorem diff_empty_iff :
    (calculateStateDiff previous current).diff.entries = [] ↔
      ∀ key, own previous key = own current key := by
  simp [calculateStateDiff_eq, List.eq_nil_iff_forall_not_mem, mem_changedKeys]

theorem diff_swapped (key : String) :
    (calculateStateDiff current previous).diff.get key =
      ((calculateStateDiff previous current).diff.get key).map
        Change.swap := by
  have listed : key ∈ changedKeys current previous ↔ key ∈ changedKeys previous current := by
    rw [mem_changedKeys, mem_changedKeys, ne_comm]
  rw [diff_get, diff_get]
  by_cases changed : key ∈ changedKeys previous current
  · rw [if_pos (listed.mpr changed), if_pos changed]
    rfl
  · simp_all

theorem noInheritedName_iff : NoInheritedName previous current ↔
    (∀ key ∈ inheritedMembers, current.isSome = true →
      own current key = none → own previous key = none) ∧
    ∀ key ∈ inheritedMembers, previous.isSome = true →
      own previous key = none → own current key = none := by
  have absent {state : Option JsonObject} (key : String)
      (found : own state key ≠ none) : state.isSome = true := by
    cases state with
    | none => exact absurd rfl found
    | some object => rfl
  constructor
  · intro condition
    constructor
    · intro key inherited present none
      by_contra found
      have same := condition (absent key found) present key inherited
      simp_all
    · intro key inherited present none
      by_contra found
      have same := condition present (absent key found) key inherited
      simp_all
  · rintro ⟨forwards, backwards⟩ present alsoPresent key inherited
    cases before : own previous key <;> cases after : own current key <;> simp_all

/-- The diff of two states leads from each to the other, lists the changed
members and is that of the swapped states with its sides swapped, iff no member
that only one of two objects has is named like an inherited one. -/
theorem state_diff_iff (previous current : Option JsonObject) :
    PatchLaws previous current ↔ NoInheritedName previous current := by
  have forwards : applied Change.new (calculateStateDiff previous current).diff
      (ownMembers previous) = ownMembers current ↔ _ :=
    applied_eq_iff (fun _ => rfl) fun _ => Iff.rfl
  have backwards : applied Change.previous
      (calculateStateDiff previous current).diff (ownMembers current) = ownMembers previous ↔ _ :=
    applied_eq_iff (fun _ => rfl) fun _ => ne_comm
  rw [noInheritedName_iff, ← forwards, ← backwards]
  constructor
  · exact fun laws => ⟨laws.forwards, laws.backwards⟩
  · rintro ⟨forwards, backwards⟩
    obtain ⟨fields, entries⟩ := calculateStateDiff_eq previous current
    refine ⟨forwards, backwards, ⟨?_, ?_⟩, diff_empty_iff, diff_swapped⟩
    · rw [fields]
      exact nodup_changedKeys previous current
    · rw [fields, entries, List.map_map]
      exact (List.map_id _).symm

/-! ### Logged changes -/

/-- The diff of a row leads from each of its states to the other. -/
def Reversible (log : AuditLog) : Prop :=
  applied Change.new log.stateDiff (ownMembers log.statePreviousValue) =
      ownMembers log.stateNewValue ∧
    applied Change.previous log.stateDiff (ownMembers log.stateNewValue) =
      ownMembers log.statePreviousValue

theorem logged_reversible (events : List IAuditEvent) :
    ∀ log ∈ (run logStateChange .empty events).rows,
      NoInheritedName log.statePreviousValue log.stateNewValue →
        Reversible log := by
  have preserved : ∀ (logs : Table AuditLog) (event : IAuditEvent),
      (∀ log ∈ logs.rows, NoInheritedName log.statePreviousValue
        log.stateNewValue → Reversible log) →
      ∀ log ∈ (logStateChange logs event).rows, NoInheritedName
        log.statePreviousValue log.stateNewValue → Reversible log := by
    intro logs event before
    rw [logStateChange, Table.insert, Table.forall_rows_save]
    refine ⟨fun ordinary => ?_, fun log member _ => before log member⟩
    have laws := (state_diff_iff _ _).mpr ordinary
    exact ⟨laws.forwards, laws.backwards⟩
  exact run_preserves preserved (by simp) events

/-! ### A member named `constructor` -/

def emptyState : JsonObject where
  members := .empty
  ordinary := by decide
  doubles := by decide

def builtState : JsonObject where
  members := OrderedMap.empty.set "constructor" (.string "built")
  ordinary := by decide
  doubles := by decide

/-- The object that has no such member of its own inherits one: the diff of the
two states tells to set it, not to remove it. -/
theorem constructor_not_removed :
    ¬ PatchLaws (some emptyState) (some builtState) ∧
      ((calculateStateDiff (some emptyState) (some builtState)).diff.get
        "constructor").any (·.previous.isSome) = true := by
  refine ⟨fun laws => ?_, by decide⟩
  have back := congrArg Option.isSome (congrFun laws.backwards "constructor")
  revert back
  decide

end MarketX.Audit

/-
Module: MarketX.Caching.Store
Purpose: Caches whose entries are dropped at their deadlines, and key-value
  stores whose keys hold values with a deadline or sets of members.
Trusted boundary: none
Main exports: Entry, Entry.Live, deadline, Store, Held, Keyspace, Keyspace.setex
-/
import Mathlib.Algebra.Order.Monoid.Defs
import Mathlib.Tactic.Common

namespace Caching

variable {κ υ τ : Type}

/-- A value, and when it is dropped. -/
structure Entry (υ τ : Type) where
  value : υ
  expiresAt : Option τ
deriving DecidableEq

section

variable [LinearOrder τ]

/-- The entry is still there: it is dropped exactly at its deadline. -/
def Entry.Live (entry : Entry υ τ) (now : τ) : Prop :=
  ∀ expiresAt ∈ entry.expiresAt, now < expiresAt

instance (entry : Entry υ τ) (now : τ) : Decidable (entry.Live now) :=
  inferInstanceAs (Decidable (∀ expiresAt ∈ entry.expiresAt, _))

theorem Entry.Live.of_le {entry : Entry υ τ} {now later : τ}
    (live : entry.Live later) (earlier : now ≤ later) : entry.Live now :=
  fun expiresAt found => earlier.trans_lt (live expiresAt found)

end

/-- When what is set now for a time to live is dropped; zero is for ever. -/
def deadline [Zero τ] [Add τ] [DecidableEq τ] (now timeToLive : τ) :
    Option τ :=
  if timeToLive = 0 then none else some (now + timeToLive)

/-- What is stored under each key, dropped or not. -/
def Store (κ υ τ : Type) := κ → Option (Entry υ τ)

namespace Store

def empty : Store κ υ τ := fun _ => none

/-- What a reader sees at a time. -/
def get [LinearOrder τ] (store : Store κ υ τ) (now : τ) (key : κ) :
    Option υ :=
  ((store key).filter fun entry => entry.Live now).map Entry.value

/-- The entry behind what a reader sees. -/
def entry [LinearOrder τ] (store : Store κ υ τ) (now : τ) (key : κ) :
    Option (Entry υ τ) :=
  (store key).filter fun entry => entry.Live now

section

variable [DecidableEq κ] {store : Store κ υ τ} {key other : κ}

/-- Whatever is to be under a key, or nothing. -/
def put (store : Store κ υ τ) (key : κ) (entry : Option (Entry υ τ)) :
    Store κ υ τ :=
  fun other => if other = key then entry else store other

section

variable {entry : Option (Entry υ τ)}

@[simp] theorem put_self : store.put key entry key = entry := if_pos rfl

theorem put_of_ne (distinct : other ≠ key) :
    store.put key entry other = store other :=
  if_neg distinct

@[simp] theorem put_put {later : Option (Entry υ τ)} :
    (store.put key entry).put key later = store.put key later := by
  funext other
  by_cases same : other = key <;> simp_all [put_of_ne]

end

def del (store : Store κ υ τ) (key : κ) : Store κ υ τ :=
  fun other => if other = key then none else store other

@[simp] theorem del_self : store.del key key = none := if_pos rfl

theorem del_of_ne (distinct : other ≠ key) :
    store.del key other = store other :=
  if_neg distinct

variable [Zero τ] [Add τ] [DecidableEq τ]

def set (store : Store κ υ τ) (now : τ) (key : κ) (value : υ) (timeToLive : τ) : Store κ υ τ :=
  fun other => if other = key then some ⟨value, deadline now timeToLive⟩
    else store other

variable {now timeToLive : τ} {value : υ}

@[simp] theorem set_self :
    store.set now key value timeToLive key =
      some ⟨value, deadline now timeToLive⟩ :=
  if_pos rfl

theorem set_of_ne (distinct : other ≠ key) :
    store.set now key value timeToLive other = store other :=
  if_neg distinct

theorem set_ne_none (present : other = key ∨ store other ≠ none) :
    store.set now key value timeToLive other ≠ none := by
  by_cases same : other = key <;> simp_all [set_of_ne]

end

section

variable [LinearOrder τ] {store : Store κ υ τ} {now later : τ} {key : κ} {value : υ}

theorem get_eq_some :
    store.get now key = some value ↔ ∃ entry, store key = some entry ∧ entry.Live now ∧
        entry.value = value := by simp [get, and_assoc]

theorem get_eq_map_entry :
    store.get now key = (store.entry now key).map Entry.value := rfl

variable {after : Store κ υ τ} {since timeToLive : τ} {other : κ}

theorem entry_congr (same : after key = store key) :
    after.entry now key = store.entry now key := by rw [entry, same, entry]

theorem get_eq_none :
    store.get now key = none ↔ ∀ entry, store key = some entry → ¬ entry.Live now := by simp [get]

theorem get_none_of_le (gone : store.get now key = none)
    (passed : now ≤ later) : store.get later key = none := by
  rw [get_eq_none] at gone ⊢
  intro entry stored live
  exact gone entry stored (live.of_le passed)

theorem get_some_of_le (found : store.get later key = some value)
    (passed : now ≤ later) : store.get now key = some value := by
  rw [get_eq_some] at found ⊢
  obtain ⟨entry, stored, live, same⟩ := found
  exact ⟨entry, stored, live.of_le passed, same⟩

theorem entry_of_le (passed : now ≤ later) :
    store.entry later key = (store.entry now key).filter fun entry => entry.Live later := by
  rw [entry, entry]
  cases stored : store key with
  | none => rfl
  | some entry =>
    by_cases live : entry.Live later
    · have before : entry.Live now := live.of_le passed
      simp [Option.filter, live, before]
    · by_cases before : entry.Live now <;> simp [Option.filter, live, before]

theorem entry_eq_some {entry : Entry υ τ} :
    store.entry now key = some entry ↔ store key = some entry ∧ entry.Live now := by
  simp only [Store.entry, Option.filter_eq_some_iff, decide_eq_true_eq]

theorem get_congr (same : after key = store key) :
    after.get now key = store.get now key := by rw [get, same, get]

/-- What has been set for some time is there for that time. -/
theorem get_set_self [DecidableEq κ] [Zero τ] [Add τ] (finite : timeToLive ≠ 0) :
    (store.set since key value timeToLive).get now key =
      if now < since + timeToLive then some value else none := by
  simp_all [deadline, Entry.Live, get, Option.filter_some]

/-- What has just been set has its deadline still ahead. -/
theorem entry_set_self [DecidableEq κ] [Zero τ] [Add τ]
    (finite : timeToLive ≠ 0) (ahead : now < now + timeToLive) :
    (store.set now key value timeToLive).entry now key = some ⟨value, some (now + timeToLive)⟩ := by
  rw [entry_eq_some, set_self, deadline, if_neg finite]
  refine ⟨rfl, fun expiresAt found => ?_⟩
  cases found
  exact ahead

theorem get_set_of_ne [DecidableEq κ] [Zero τ] [Add τ] (distinct : other ≠ key) :
    (store.set since key value timeToLive).get now other =
      store.get now other := get_congr (set_of_ne distinct)

@[simp] theorem get_del_self [DecidableEq κ] :
    (store.del key).get now key = none := by simp [get]

theorem get_del_of_ne [DecidableEq κ] (distinct : other ≠ key) :
    (store.del key).get now other = store.get now other := get_congr (del_of_ne distinct)

end

end Store

end Caching

namespace Caching

/-- What a key holds. -/
inductive Held (κ υ : Type) where
  | text (value : υ)
  | members (members : List κ)

/-- The command is for the other kind. -/
structure WrongType where

abbrev Keyspace (κ υ τ : Type) := Store κ (Held κ υ) τ

namespace Keyspace

variable {κ υ τ : Type} [LinearOrder τ]

section

variable (space : Keyspace κ υ τ) (now : τ) (key : κ)

/-- `get`. -/
def read : Except WrongType (Option υ) :=
  match space.get now key with
  | none => .ok none
  | some (.text value) => .ok (some value)
  | some (.members _) => .error ⟨⟩

def smembers : Except WrongType (List κ) :=
  match space.get now key with
  | none => .ok []
  | some (.members members) => .ok members
  | some (.text _) => .error ⟨⟩

variable [DecidableEq κ]

def setex [Zero τ] [Add τ] (timeToLive : τ) (value : υ) :
    Keyspace κ υ τ := Store.set space now key (.text value) timeToLive

def del : Keyspace κ υ τ := Store.del space key

/-- A key that holds nothing gets a set without a deadline. -/
def sadd (member : κ) : Except WrongType (Keyspace κ υ τ) :=
  match space.entry now key with
  | none => .ok (Store.put space key (some ⟨.members [member], none⟩))
  | some ⟨.members members, expiresAt⟩ =>
    .ok (Store.put space key (some ⟨.members (List.insert member members), expiresAt⟩))
  | some ⟨.text _, _⟩ => .error ⟨⟩

end

/-! ### What the keys hold -/

section

variable (space : Keyspace κ υ τ) (now : τ) (key : κ)

/-- The value under a key, and its deadline. -/
def textAt : Option (Entry υ τ) :=
  match space.entry now key with
  | some ⟨.text value, expiresAt⟩ => some ⟨value, expiresAt⟩
  | _ => none

/-- The members of the set under a key. -/
def membersAt : List κ :=
  match space.entry now key with
  | some ⟨.members members, _⟩ => members
  | _ => []

/-- Sets have no deadline. -/
def Lasting : Prop := ∀ key members expiresAt, space key = some ⟨.members members, expiresAt⟩ →
    expiresAt = none

end

variable {space : Keyspace κ υ τ} {now later : τ} {key other : κ}

theorem read_of_textAt {entry : Entry υ τ} (found : space.textAt now key = some entry) :
    space.read now key = .ok (some entry.value) := by grind [textAt, read, Store.get_eq_map_entry]

theorem read_of_textAt_none (absent : space.textAt now key = none) :
    space.read now key = .ok none ∨ ∃ error, space.read now key = .error error := by
  rw [textAt] at absent
  rw [read, Store.get_eq_map_entry]
  cases stored : space.entry now key with
  | none => exact .inl rfl
  | some entry =>
    obtain ⟨held, expiresAt⟩ := entry
    grind

theorem smembers_of_textAt_none (absent : space.textAt now key = none) :
    space.smembers now key = .ok (space.membersAt now key) := by
  rw [textAt] at absent
  rw [smembers, membersAt, Store.get_eq_map_entry]
  cases stored : space.entry now key with
  | none => rfl
  | some entry =>
    obtain ⟨held, expiresAt⟩ := entry
    grind

/-! ### As time passes -/

theorem textAt_of_le (passed : now ≤ later) :
    space.textAt later key = (space.textAt now key).filter fun entry => entry.Live later := by
  rw [textAt, textAt, Store.entry_of_le passed]
  cases space.entry now key with
  | none => rfl
  | some entry =>
    obtain ⟨held, expiresAt⟩ := entry
    have same (value : υ) :
        Entry.Live (τ := τ) ⟨Held.text (κ := κ) value, expiresAt⟩ later ↔
          Entry.Live ⟨value, expiresAt⟩ later := Iff.rfl
    grind

theorem Lasting.entry_eq (lasting : space.Lasting) {members : List κ} {expiresAt : Option τ} :
    space.entry now key = some ⟨.members members, expiresAt⟩ ↔
      space key = some ⟨.members members, expiresAt⟩ := by
  rw [Store.entry_eq_some, and_iff_left_iff_imp]
  rintro stored deadline found
  rw [lasting key members expiresAt stored] at found
  cases found

theorem Lasting.mem_membersAt (lasting : space.Lasting) {member : κ}
    (inside : member ∈ space.membersAt now key) :
    member ∈ space.membersAt later key := by
  rw [membersAt] at inside ⊢
  split at inside
  next members expiresAt stored =>
    rw [lasting.entry_eq.mpr (lasting.entry_eq.mp stored)]
    exact inside
  next => cases inside

/-! ### After a command -/

theorem textAt_congr {after : Keyspace κ υ τ} (same : after key = space key) :
    after.textAt now key = space.textAt now key := by rw [textAt, Store.entry_congr same, textAt]

theorem membersAt_congr {after : Keyspace κ υ τ} (same : after key = space key) :
    after.membersAt now key = space.membersAt now key := by
  rw [membersAt, Store.entry_congr same, membersAt]

section

variable [DecidableEq κ]

theorem textAt_setex_self [Zero τ] [Add τ] {timeToLive : τ}
    {value : υ} (finite : timeToLive ≠ 0) (ahead : now < now + timeToLive) :
    (space.setex now key timeToLive value).textAt now key =
      some ⟨value, some (now + timeToLive)⟩ := by
  rw [textAt, setex, Store.entry_set_self finite ahead]

theorem lasting_setex [Zero τ] [Add τ] {timeToLive : τ} {value : υ} (lasting : space.Lasting) :
    (space.setex now key timeToLive value).Lasting := by
  intro other members expiresAt stored
  by_cases same : other = key
  · rw [same, setex, Store.set_self] at stored
    cases stored
  · rw [setex, Store.set_of_ne same] at stored
    exact lasting other members expiresAt stored

/-- What adding a member changes, where the key does not hold a value. -/
structure Added (space : Keyspace κ υ τ) (now : τ) (key member : κ)
    (after : Keyspace κ υ τ) : Prop where
  text : ∀ other, after.textAt now other = space.textAt now other
  kept : ∀ other, ∀ x ∈ space.membersAt now other, x ∈ after.membersAt now other
  added : member ∈ after.membersAt now key
  lasting : space.Lasting → after.Lasting

theorem added_put {member : κ} {members : List κ} {expiresAt : Option τ}
    (live : ∀ deadline ∈ expiresAt, now < deadline) (noText : space.textAt now key = none)
    (grown : ∀ x, x = member ∨ x ∈ space.membersAt now key → x ∈ members)
    (lasts : space.Lasting → expiresAt = none) :
    Added space now key member (Store.put space key (some ⟨.members members, expiresAt⟩)) := by
  have here : Store.entry (Store.put space key (some ⟨.members members, expiresAt⟩)) now key =
        some ⟨.members members, expiresAt⟩ := Store.entry_eq_some.mpr ⟨Store.put_self, live⟩
  have set : membersAt (Store.put space key
      (some ⟨.members members, expiresAt⟩)) now key = members := by rw [membersAt, here]
  constructor
  · grind [textAt, textAt_congr, Store.put_of_ne]
  · intro other x inside
    by_cases same : other = key <;> simp_all [membersAt_congr, Store.put_of_ne]
  · rw [set]
    exact grown member (.inl rfl)
  · intro lasting other others deadline stored
    by_cases same : other = key
    · simp_all
    · rw [Store.put_of_ne same] at stored
      exact lasting other others deadline stored

variable (space now key) in
theorem sadd_cases (member : κ) :
    ((space.textAt now key).isSome ∧ ∃ error, space.sadd now key member = .error error) ∨
      ∃ after, space.sadd now key member = .ok after ∧
        Added space now key member after := by
  rw [sadd]
  cases stored : space.entry now key with
  | none => simp_all [added_put, textAt, membersAt]
  | some entry =>
    obtain ⟨held, expiresAt⟩ := entry
    cases held with
    | text value =>
      refine .inl ⟨?_, ⟨⟩, rfl⟩
      rw [textAt, stored]
      rfl
    | members members =>
      obtain ⟨there, live⟩ := Store.entry_eq_some.mp stored
      refine .inr ⟨_, rfl, added_put live ?_ ?_ fun lasting => lasting key members expiresAt there⟩
      · rw [textAt, stored]
      · simp_all [membersAt]

theorem textAt_del (other : κ) :
    (space.del key).textAt now other = if other = key then none else space.textAt now other := by
  split <;> simp_all [textAt, Store.entry, del, Store.del_of_ne]

theorem membersAt_del (other : κ) :
    (space.del key).membersAt now other =
      if other = key then [] else space.membersAt now other := by
  split <;> simp_all [membersAt, Store.entry, del, Store.del_of_ne]

omit [LinearOrder τ] in
theorem lasting_del (lasting : space.Lasting) : (space.del key).Lasting := by
  intro other members expiresAt stored
  by_cases same : other = key
  · rw [same, del, Store.del_self] at stored
    cases stored
  · rw [del, Store.del_of_ne same] at stored
    exact lasting other members expiresAt stored

end

end Keyspace

end Caching

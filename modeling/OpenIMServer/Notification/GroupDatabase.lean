import OpenIMServer.Common.Base
import Mathlib.Data.List.Nodup

/-!
# Group records, the group store, Go maps and nil dereferences

The data `pkg/rpcclient/notification2/group.go` reads and builds, and the two
pieces of Go semantics its handlers depend on:

- `GoRun`: a call either returns or panics on a nil pointer dereference. The
  handlers read `userMap[id].AppMangerLevel` and `groupOwnerMember.UserID`,
  which panic when the record or the member is missing.
- `GoMap`: a `map[string]V`, entries with distinct keys, iterated in list
  order (Go leaves the order unspecified; every statement about iteration
  below is order-free or names the order it assumes).

The store (`controller.GroupDatabase`, not under `src/`) is a group table and a
member table in which each (group, user) pair occurs at most once; its reads
are the filters the handlers' arguments describe, an empty filter list meaning
no filter, and each of them may fail instead, as every read of a database can.
Times are kept as their `UnixMilli()` values.
-/

namespace OpenIMServer.Notification

/-! ## Go runs and maps -/

/-- How a Go call ends: it returns, or it panics dereferencing a nil pointer. -/
inductive GoRun (α : Type) where
  | ret (a : α)
  | nilDeref
  deriving DecidableEq, Repr

def GoRun.bind {α β : Type} : GoRun α → (α → GoRun β) → GoRun β
  | .ret a, f => f a
  | .nilDeref, _ => .nilDeref

instance : Monad GoRun where
  pure := .ret
  bind := GoRun.bind

@[simp] theorem GoRun.pure_eq {α : Type} (a : α) : (pure a : GoRun α) = .ret a := rfl

@[simp] theorem GoRun.ret_bind {α β : Type} (a : α) (f : α → GoRun β) :
    (GoRun.ret a >>= f) = f a := rfl

@[simp] theorem GoRun.nilDeref_bind {α β : Type} (f : α → GoRun β) :
    (GoRun.nilDeref >>= f) = .nilDeref := rfl

/-- A bound run returns exactly when both halves return. -/
@[simp] theorem GoRun.bind_eq_ret {α β : Type} {x : GoRun α} {f : α → GoRun β} {b : β} :
    (x >>= f) = .ret b ↔ ∃ a, x = .ret a ∧ f a = .ret b := by
  cases x <;> simp

/-- Dereferencing a pointer: a nil one panics. -/
def deref {α : Type} : Option α → GoRun α
  | some a => .ret a
  | none => .nilDeref

@[simp] theorem deref_eq_ret {α : Type} {o : Option α} {a : α} :
    deref o = .ret a ↔ o = some a := by
  cases o <;> simp [deref]

/-- A Go `map[string]V`. -/
structure GoMap (V : Type) where
  entries : List (String × V)
  keys_nodup : (entries.map (·.1)).Nodup

namespace GoMap

variable {V : Type}

def empty : GoMap V := ⟨[], List.nodup_nil⟩

/-- `m[key]`; `none` is the zero value, a nil pointer. -/
def get (m : GoMap V) (key : String) : Option V := m.entries.lookup key

theorem filter_keys_nodup (m : GoMap V) (key : String) :
    ((m.entries.filter (fun e => decide (e.1 ≠ key))).map (·.1)).Nodup :=
  m.keys_nodup.sublist ((List.filter_sublist _).map _)

/-- `delete(m, key)`. -/
def delete (m : GoMap V) (key : String) : GoMap V :=
  ⟨m.entries.filter (fun e => decide (e.1 ≠ key)), m.filter_keys_nodup key⟩

/-- `m[key] = v`: the old entry goes, the new one is iterated last. -/
def set (m : GoMap V) (key : String) (v : V) : GoMap V :=
  ⟨m.entries.filter (fun e => decide (e.1 ≠ key)) ++ [(key, v)], by
    rw [List.map_append, List.nodup_append]
    refine ⟨m.filter_keys_nodup key, List.nodup_singleton _, ?_⟩
    simp [List.disjoint_singleton]⟩

theorem lookup_cons_ne {k k' : String} {v : V} {es : List (String × V)} (h : k ≠ k') :
    ((k', v) :: es).lookup k = es.lookup k := by
  simp [List.lookup_cons, beq_false_of_ne h]

theorem lookup_filter_ne (entries : List (String × V)) (key k : String) :
    (entries.filter fun e => decide (e.1 ≠ key)).lookup k =
      if k = key then none else entries.lookup k := by
  induction entries with
  | nil => simp
  | cons e entries ih =>
    obtain ⟨k', v⟩ := e
    by_cases h : k' = key
    · subst h
      rw [List.filter_cons_of_neg (by simp), ih]
      by_cases hk : k = k' <;> simp [hk, lookup_cons_ne]
    · rw [List.filter_cons_of_pos (by simpa using h)]
      by_cases hk : k = k'
      · subst hk
        simp [h]
      · rw [lookup_cons_ne hk, ih, lookup_cons_ne hk]

@[simp] theorem get_set (m : GoMap V) (key k : String) (v : V) :
    (m.set key v).get k = if k = key then some v else m.get k := by
  simp only [get, set, List.lookup_append, lookup_filter_ne]
  by_cases hk : k = key
  · simp [hk]
  · simp [hk, lookup_cons_ne hk]

/-- Filling a map in a loop leaves the entry of a key no value of the loop has. -/
theorem get_foldl_set (key : V → String) (vs : List V) (m : GoMap V) (k : String)
    (hk : k ∉ vs.map key) : (vs.foldl (fun m v => m.set (key v) v) m).get k = m.get k := by
  induction vs generalizing m with
  | nil => rfl
  | cons v vs ih =>
    simp only [List.map_cons, List.mem_cons, not_or] at hk
    rw [List.foldl_cons, ih _ hk.2, get_set, if_neg hk.1]

/-- An entry of a map filled in a loop was there before, or is a value of the
loop under its key. -/
theorem mem_foldl_set (key : V → String) (vs : List V) (m : GoMap V) (e : String × V)
    (he : e ∈ (vs.foldl (fun m v => m.set (key v) v) m).entries) :
    e ∈ m.entries ∨ e.2 ∈ vs ∧ e.1 = key e.2 := by
  induction vs generalizing m with
  | nil => exact .inl he
  | cons v vs ih =>
    rcases ih _ he with h | ⟨hv, hk⟩
    · simp only [set, List.mem_append, List.mem_filter, List.mem_singleton] at h
      rcases h with ⟨h, -⟩ | rfl
      · exact .inl h
      · exact .inr ⟨List.mem_cons_self _ _, rfl⟩
    · exact .inr ⟨List.mem_cons_of_mem _ hv, hk⟩

/-- **A map filled in a loop finds each value under its key.** When the values'
keys are distinct, a lookup in the filled map is a search of the values, and
falls back to the map it started from. -/
theorem get_foldl_set_of_nodup (key : V → String) (vs : List V) (m : GoMap V)
    (hvs : (vs.map key).Nodup) (k : String) :
    (vs.foldl (fun m v => m.set (key v) v) m).get k = (vs.find? (key · == k)).or (m.get k) := by
  induction vs generalizing m with
  | nil => rfl
  | cons v vs ih =>
    rw [List.map_cons, List.nodup_cons] at hvs
    rw [List.foldl_cons, ih _ hvs.2, get_set]
    by_cases hk : k = key v
    · subst hk
      have hnone : vs.find? (key · == key v) = none :=
        List.find?_eq_none.mpr fun w hw hkw => hvs.1 (List.mem_map.mpr ⟨w, hw, by simpa using hkw⟩)
      simp [hnone]
    · simp [hk, Ne.symm hk]

end GoMap

/-! ## Records -/

/-- `relation.GroupModel`. -/
structure GroupModel where
  groupID : String
  groupName : String
  notification : String
  introduction : String
  faceURL : String
  createTime : Int
  ex : String
  status : Int
  creatorUserID : String
  groupType : Int
  needVerification : Int
  lookMemberInfo : Int
  applyMemberFriend : Int
  notificationUpdateTime : Int
  notificationUserID : String
  deriving DecidableEq, Repr

/-- `relation.GroupMemberModel`. -/
structure GroupMemberModel where
  groupID : String
  userID : String
  nickname : String
  faceURL : String
  roleLevel : Int
  joinTime : Int
  joinSource : Int
  inviterUserID : String
  operatorUserID : String
  muteEndTime : Int
  ex : String
  deriving DecidableEq, Repr

/-- `sdkws.UserInfo`: the fields the handlers read. -/
structure UserInfo where
  userID : String
  nickname : String
  faceURL : String
  ex : String
  appMangerLevel : Int
  deriving DecidableEq, Repr

/-- `sdkws.PublicUserInfo`. -/
structure PublicUserInfo where
  userID : String
  nickname : String
  faceURL : String
  ex : String
  deriving DecidableEq, Repr

/-- `sdkws.GroupInfo`. -/
structure GroupInfo where
  groupID : String
  groupName : String
  notification : String
  introduction : String
  faceURL : String
  ownerUserID : String
  createTime : Int
  memberCount : Nat
  ex : String
  status : Int
  creatorUserID : String
  groupType : Int
  needVerification : Int
  lookMemberInfo : Int
  applyMemberFriend : Int
  notificationUpdateTime : Int
  notificationUserID : String
  deriving DecidableEq, Repr

/-- `sdkws.GroupMemberFullInfo`; a field a literal leaves out is Go's zero value. -/
structure GroupMemberFullInfo where
  groupID : String
  userID : String
  roleLevel : Int := 0
  joinTime : Int := 0
  nickname : String
  faceURL : String
  appMangerLevel : Int
  joinSource : Int := 0
  operatorUserID : String := ""
  ex : String := ""
  muteEndTime : Int := 0
  inviterUserID : String := ""
  deriving DecidableEq, Repr

/-! ## The store -/

/-- A read of the store, with its arguments. -/
inductive StoreRead where
  | takeGroup (groupID : String)
  | findGroupMemberUserID (groupID : String)
  | findGroupMember (groupIDs userIDs : List String) (roleLevels : List Int)

/-- The group store: each (group, user) pair has at most one member row. Any
read may fail (a lost connection, a timeout); `readErr` gives the error of
each read that fails, and by default none does. -/
structure GroupDatabase where
  groups : List GroupModel
  members : List GroupMemberModel
  members_unique : (members.map fun m => (m.groupID, m.userID)).Nodup
  readErr : StoreRead → Option Err := fun _ => none

namespace GroupDatabase

/-- A read that answers `answer` unless it fails. -/
def read {α : Type} (db : GroupDatabase) (r : StoreRead) (answer : α) : Except Err α :=
  match db.readErr r with
  | some err => .error err
  | none => .ok answer

@[simp] theorem read_eq_ok {α : Type} {db : GroupDatabase} {r : StoreRead} {answer a : α} :
    db.read r answer = .ok a ↔ db.readErr r = none ∧ answer = a := by
  unfold read
  cases db.readErr r <;> simp

@[simp] theorem read_eq_error {α : Type} {db : GroupDatabase} {r : StoreRead} {answer : α}
    {err : Err} : db.read r answer = .error err ↔ db.readErr r = some err := by
  unfold read
  cases db.readErr r <;> simp

/-- `TakeGroup`: gorm's `Take`, which also fails when no row matches. -/
def takeGroup (db : GroupDatabase) (groupID : String) : Except Err GroupModel :=
  match db.read (.takeGroup groupID) (db.groups.find? (·.groupID == groupID)) with
  | .error err => .error err
  | .ok (some group) => .ok group
  | .ok none => .error (.other "record not found")

/-- `FindGroupMemberUserID`. -/
def findGroupMemberUserID (db : GroupDatabase) (groupID : String) : Except Err (List String) :=
  db.read (.findGroupMemberUserID groupID)
    ((db.members.filter (·.groupID == groupID)).map (·.userID))

/-- A filter list of `FindGroupMember`: empty means no filter. -/
def admits {α : Type} [BEq α] (filter : List α) (a : α) : Bool :=
  filter.isEmpty || filter.contains a

/-- The rows `FindGroupMember(groupIDs, userIDs, roleLevels)` selects. -/
def groupMemberRows (db : GroupDatabase) (groupIDs userIDs : List String)
    (roleLevels : List Int) : List GroupMemberModel :=
  db.members.filter fun m =>
    admits groupIDs m.groupID && admits userIDs m.userID && admits roleLevels m.roleLevel

/-- `FindGroupMember(groupIDs, userIDs, roleLevels)`. -/
def findGroupMember (db : GroupDatabase) (groupIDs userIDs : List String)
    (roleLevels : List Int) : Except Err (List GroupMemberModel) :=
  db.read (.findGroupMember groupIDs userIDs roleLevels)
    (db.groupMemberRows groupIDs userIDs roleLevels)

/-- A `FindGroupMember` that answers returns the rows it selects. -/
theorem findGroupMember_eq_ok {db : GroupDatabase} {groupIDs userIDs : List String}
    {roleLevels : List Int} {rows : List GroupMemberModel}
    (h : db.findGroupMember groupIDs userIDs roleLevels = .ok rows) :
    rows = db.groupMemberRows groupIDs userIDs roleLevels :=
  (read_eq_ok.mp h).2.symm

/-- The rows of one group that `FindGroupMember` selects have distinct user IDs. -/
theorem groupMemberRows_userIDs_nodup (db : GroupDatabase) (groupID : String)
    (userIDs : List String) (roleLevels : List Int) :
    ((db.groupMemberRows [groupID] userIDs roleLevels).map (·.userID)).Nodup := by
  set found := db.groupMemberRows [groupID] userIDs roleLevels
  have hpairs : (found.map fun m => (m.groupID, m.userID)).Nodup :=
    db.members_unique.sublist ((List.filter_sublist _).map _)
  have hgroup : found.map (fun m => (m.groupID, m.userID)) =
      (found.map (·.userID)).map (groupID, ·) := by
    rw [List.map_map]
    refine List.map_congr_left fun m hm => ?_
    have := (List.mem_filter.mp hm).2
    simp [admits] at this
    simp [this.1]
  rw [hgroup] at hpairs
  exact hpairs.of_map _

end GroupDatabase

end OpenIMServer.Notification

import OpenIMServer.Cache.Conversation

/-!
# The not-notify list and its hash in the cache

`GetSuperGroupRecvMsgNotNotifyUserIDs` and `GetSuperGroupRecvMsgNotNotifyUserIDsHash`
of `pkg/common/db/cache/conversation.go`. The list is cached under its key and
read from the store (`FindSuperGroupRecvMsgNotNotifyUserIDs`) on a miss. The
hash has no store of its own: on a miss, the function its `getCache` runs reads
the list through the cache, sorts it, hashes it, and the hash fills its key. A
cached hash is derived data, right only as long as every change of a list
deletes both keys of its group; `DelSuperGroupRecvMsgNotNotifyUserIDs` and
`DelSuperGroupRecvMsgNotNotifyUserIDsHash` each add one of them to the batch.

The entries are kept by group. The two one-ID key builders are injective and
neither stem starts the other (`KeyCall`), so the entry under a key is the
entry of one record of one group; a list key is never a hash key
(`notNotifyKey_ne_hashKey`).
A store read may fail; `getCache` then returns the error and fills nothing.

`runNotNotify_eq_runStore` says that from a coherent cache, a run whose writes
delete both keys returns what the bare store returns: every hash read gives the
hash of the list the store holds at that point. `getHash_after_list_del` says
what happens otherwise: a write followed by `DelSuperGroupRecvMsgNotNotifyUserIDs`
alone leaves the group's hash entry, and the next hash read returns it.
-/

namespace OpenIMServer.Cache

/-! ## The two key builders -/

/-- A list key is never a hash key. -/
theorem notNotifyKey_ne_hashKey (g₁ g₂ : String) :
    getSuperGroupRecvNotNotifyUserIDsKey g₁ ≠ getSuperGroupRecvNotNotifyUserIDsHashKey g₂ :=
  fun h => absurd (KeyCall.stem_eq_of_key_eq (a := .superGroupRecvNotNotifyUserIDs g₁)
    (b := .superGroupRecvNotNotifyUserIDsHash g₂) h)
    (show superGroupRecvMsgNotNotifyUserIDsKey ≠ superGroupRecvMsgNotNotifyUserIDsHashKey by decide)

/-! ## The cache and the store -/

/-- rockscache's entries under `getSuperGroupRecvNotNotifyUserIDsKey g` and
`getSuperGroupRecvNotNotifyUserIDsHashKey g`, by group, and what the store's
`FindSuperGroupRecvMsgNotNotifyUserIDs(g)` answers. -/
structure NotNotifyState where
  userIDs : String → Option (List String)
  hashes : String → Option (Option UInt64)
  db : String → Except Err (List String)

section

variable (utilsSort : AscendingSort) (md5 : String → String)

/-- `GetSuperGroupRecvMsgNotNotifyUserIDs`: `getCache` over the list key, the
store read on a miss. -/
def getSuperGroupRecvMsgNotNotifyUserIDs (s : NotNotifyState) (groupID : String) :
    Except Err (List String) × NotNotifyState :=
  match s.userIDs groupID with
  | some userIDs => (.ok userIDs, s)
  | none =>
    match s.db groupID with
    | .ok userIDs =>
      (.ok userIDs,
       { s with userIDs := fun g => if g = groupID then some userIDs else s.userIDs g })
    | .error err => (.error err, s)

/-- `GetSuperGroupRecvMsgNotNotifyUserIDsHash`: `getCache` over the hash key,
whose function reads the list through the cache and hashes it. -/
def getSuperGroupRecvMsgNotNotifyUserIDsHash (s : NotNotifyState) (groupID : String) :
    Except Err (Option UInt64) × NotNotifyState :=
  match s.hashes groupID with
  | some hash => (.ok hash, s)
  | none =>
    let (userIDs, s) := getSuperGroupRecvMsgNotNotifyUserIDs s groupID
    match superGroupRecvMsgNotNotifyUserIDsHash utilsSort md5 userIDs with
    | .ok hash =>
      (.ok hash, { s with hashes := fun g => if g = groupID then some hash else s.hashes g })
    | .error err => (.error err, s)

/-- A store write of a group's list, then `ExecDel` of a batch of keys. -/
def NotNotifyState.write (s : NotNotifyState) (groupID : String) (userIDs : List String)
    (keys : List String) : NotNotifyState :=
  { userIDs := fun g => if getSuperGroupRecvNotNotifyUserIDsKey g ∈ keys then none else s.userIDs g
    hashes := fun g =>
      if getSuperGroupRecvNotNotifyUserIDsHashKey g ∈ keys then none else s.hashes g
    db := fun g => if g = groupID then .ok userIDs else s.db g }

/-- A step of a run: a read of a group's list, a read of its hash, or a write. -/
inductive NotNotifyOp where
  | getUserIDs (groupID : String)
  | getHash (groupID : String)
  | write (groupID : String) (userIDs : List String) (keys : List String)

/-- What a read returns. -/
inductive NotNotifyResult where
  | userIDs (r : Except Err (List String))
  | hash (r : Except Err (Option UInt64))

/-- A run through the cache: what the reads return, in order, and the last state. -/
def runNotNotify : NotNotifyState → List NotNotifyOp → List NotNotifyResult × NotNotifyState
  | s, [] => ([], s)
  | s, .getUserIDs g :: ops =>
    let r := getSuperGroupRecvMsgNotNotifyUserIDs s g
    (.userIDs r.1 :: (runNotNotify r.2 ops).1, (runNotNotify r.2 ops).2)
  | s, .getHash g :: ops =>
    let r := getSuperGroupRecvMsgNotNotifyUserIDsHash utilsSort md5 s g
    (.hash r.1 :: (runNotNotify r.2 ops).1, (runNotNotify r.2 ops).2)
  | s, .write g userIDs keys :: ops => runNotNotify (s.write g userIDs keys) ops

/-- The same run on the bare store: a hash read hashes the list the store holds. -/
def runNotNotifyStore : (String → Except Err (List String)) → List NotNotifyOp →
    List NotNotifyResult × (String → Except Err (List String))
  | db, [] => ([], db)
  | db, .getUserIDs g :: ops =>
    (.userIDs (db g) :: (runNotNotifyStore db ops).1, (runNotNotifyStore db ops).2)
  | db, .getHash g :: ops =>
    (.hash (superGroupRecvMsgNotNotifyUserIDsHash utilsSort md5 (db g)) ::
        (runNotNotifyStore db ops).1,
     (runNotNotifyStore db ops).2)
  | db, .write g userIDs _ :: ops =>
    runNotNotifyStore (fun g' => if g' = g then .ok userIDs else db g') ops

/-- Every list entry is what the store holds, and every hash entry is the hash
of what the store holds. -/
def NotNotifyState.Coherent (s : NotNotifyState) : Prop :=
  (∀ g userIDs, s.userIDs g = some userIDs → s.db g = .ok userIDs) ∧
  ∀ g hash, s.hashes g = some hash →
    superGroupRecvMsgNotNotifyUserIDsHash utilsSort md5 (s.db g) = .ok hash

end

/-- A write whose batch holds both keys of its group, as
`DelSuperGroupRecvMsgNotNotifyUserIDs` followed by
`DelSuperGroupRecvMsgNotNotifyUserIDsHash` build it. -/
def NotNotifyOp.Valid : NotNotifyOp → Prop
  | .getUserIDs _ | .getHash _ => True
  | .write g _ keys =>
    ∀ key ∈ delSuperGroupRecvMsgNotNotifyUserIDs g ++ delSuperGroupRecvMsgNotNotifyUserIDsHash g,
      key ∈ keys

instance : DecidablePred NotNotifyOp.Valid
  | .getUserIDs _ | .getHash _ => inferInstanceAs (Decidable True)
  | .write g _ keys =>
    inferInstanceAs (Decidable (∀ key ∈ delSuperGroupRecvMsgNotNotifyUserIDs g ++
      delSuperGroupRecvMsgNotNotifyUserIDsHash g, key ∈ keys))

/-! ## One step -/

section

variable {utilsSort : AscendingSort} {md5 : String → String} {s : NotNotifyState}

theorem NotNotifyState.coherent_empty (utilsSort : AscendingSort) (md5 : String → String)
    (db : String → Except Err (List String)) :
    NotNotifyState.Coherent utilsSort md5 ⟨fun _ => none, fun _ => none, db⟩ :=
  ⟨nofun, nofun⟩

/-- A list read returns the store's answer, keeps the store, and keeps the
cache coherent. -/
theorem getUserIDs_coherent (hs : s.Coherent utilsSort md5) (groupID : String) :
    (getSuperGroupRecvMsgNotNotifyUserIDs s groupID).1 = s.db groupID ∧
      (getSuperGroupRecvMsgNotNotifyUserIDs s groupID).2.db = s.db ∧
      (getSuperGroupRecvMsgNotNotifyUserIDs s groupID).2.Coherent utilsSort md5 := by
  unfold getSuperGroupRecvMsgNotNotifyUserIDs
  cases he : s.userIDs groupID with
  | some userIDs => exact ⟨(hs.1 _ _ he).symm, rfl, hs⟩
  | none =>
    cases hdb : s.db groupID with
    | error err => exact ⟨rfl, rfl, hs⟩
    | ok userIDs =>
      refine ⟨rfl, rfl, fun g l hl => ?_, hs.2⟩
      dsimp only at hl
      split at hl
      · subst g
        exact hdb.trans (congrArg _ (Option.some.inj hl))
      · exact hs.1 g l hl

/-- A hash read returns the hash of the store's list, keeps the store, and
keeps the cache coherent; on a miss the list read goes through the cache. -/
theorem getHash_coherent (hs : s.Coherent utilsSort md5) (groupID : String) :
    (getSuperGroupRecvMsgNotNotifyUserIDsHash utilsSort md5 s groupID).1 =
        superGroupRecvMsgNotNotifyUserIDsHash utilsSort md5 (s.db groupID) ∧
      (getSuperGroupRecvMsgNotNotifyUserIDsHash utilsSort md5 s groupID).2.db = s.db ∧
      (getSuperGroupRecvMsgNotNotifyUserIDsHash utilsSort md5 s groupID).2.Coherent
        utilsSort md5 := by
  unfold getSuperGroupRecvMsgNotNotifyUserIDsHash
  cases he : s.hashes groupID with
  | some hash => exact ⟨(hs.2 _ _ he).symm, rfl, hs⟩
  | none =>
    obtain ⟨hr, hdb, hs'⟩ := getUserIDs_coherent hs groupID
    generalize getSuperGroupRecvMsgNotNotifyUserIDs s groupID = r at hr hdb hs'
    obtain ⟨fetched, s'⟩ := r
    dsimp only at hr hdb hs' ⊢
    subst hr
    cases hh : superGroupRecvMsgNotNotifyUserIDsHash utilsSort md5 (s.db groupID) with
    | error err => exact ⟨rfl, hdb, hs'⟩
    | ok hash =>
      refine ⟨rfl, hdb, hs'.1, fun g h hg => ?_⟩
      dsimp only at hg ⊢
      split at hg
      · subst g
        rw [hdb]
        exact hh.trans (congrArg _ (Option.some.inj hg))
      · exact hs'.2 g h hg

/-- A write whose batch deletes both keys of its group keeps the cache coherent. -/
theorem write_coherent (hs : s.Coherent utilsSort md5) {groupID : String}
    {userIDs keys : List String} (hv : (NotNotifyOp.write groupID userIDs keys).Valid) :
    (s.write groupID userIDs keys).Coherent utilsSort md5 := by
  simp only [NotNotifyOp.Valid, delSuperGroupRecvMsgNotNotifyUserIDs,
    delSuperGroupRecvMsgNotNotifyUserIDsHash, List.singleton_append, List.mem_cons,
    List.not_mem_nil, or_false, forall_eq_or_imp, forall_eq] at hv
  refine ⟨fun g l hl => ?_, fun g h hg => ?_⟩
  · simp only [NotNotifyState.write] at hl ⊢
    split at hl
    · cases hl
    · next hk =>
      rw [if_neg fun (hg : g = groupID) => hk (hg ▸ hv.1)]
      exact hs.1 g l hl
  · simp only [NotNotifyState.write] at hg ⊢
    split at hg
    · cases hg
    · next hk =>
      rw [if_neg fun (hg : g = groupID) => hk (hg ▸ hv.2)]
      exact hs.2 g h hg

end

/-! ## Whole runs -/

/-- **The cached hash is the hash of the stored list.** From a coherent cache,
every run whose writes delete both keys of their group returns what the same
run on the bare store returns (each hash read gives the hash of the list the
store holds at that point), ends with the same store, and leaves the cache
coherent. -/
theorem runNotNotify_eq_runStore (utilsSort : AscendingSort) (md5 : String → String)
    (s : NotNotifyState) (ops : List NotNotifyOp) (hs : s.Coherent utilsSort md5)
    (hops : ∀ op ∈ ops, op.Valid) :
    (runNotNotify utilsSort md5 s ops).1 = (runNotNotifyStore utilsSort md5 s.db ops).1 ∧
      (runNotNotify utilsSort md5 s ops).2.db = (runNotNotifyStore utilsSort md5 s.db ops).2 ∧
      (runNotNotify utilsSort md5 s ops).2.Coherent utilsSort md5 := by
  induction ops generalizing s with
  | nil => exact ⟨rfl, rfl, hs⟩
  | cons op ops ih =>
    have hrest : ∀ op ∈ ops, op.Valid := fun op h => hops op (List.mem_cons_of_mem _ h)
    cases op with
    | getUserIDs g =>
      obtain ⟨hv, hdb, hs'⟩ := getUserIDs_coherent hs g
      obtain ⟨h₁, h₂, h₃⟩ := ih _ hs' hrest
      rw [hdb] at h₁ h₂
      exact ⟨by simp only [runNotNotify, runNotNotifyStore, hv, h₁], h₂, h₃⟩
    | getHash g =>
      obtain ⟨hv, hdb, hs'⟩ := getHash_coherent hs g
      obtain ⟨h₁, h₂, h₃⟩ := ih _ hs' hrest
      rw [hdb] at h₁ h₂
      exact ⟨by simp only [runNotNotify, runNotNotifyStore, hv, h₁], h₂, h₃⟩
    | write g userIDs keys =>
      exact ih _ (write_coherent hs (hops _ (List.mem_cons_self _ _))) hrest

/-- An empty cache over a store that holds `["u2", "u1"]` for every group. -/
def notNotifyStart : NotNotifyState :=
  ⟨fun _ => none, fun _ => none, fun _ => .ok ["u2", "u1"]⟩

/-- A hash read, a write of `["u3"]` for `g` that deletes both keys, a hash read. -/
def refreshRun : List NotNotifyOp :=
  [.getHash "g", .write "g" ["u3"] (delSuperGroupRecvMsgNotNotifyUserIDs "g" ++
    delSuperGroupRecvMsgNotNotifyUserIDsHash "g"), .getHash "g"]

theorem runNotNotify_eq_runStore_refresh :
    notNotifyStart.Coherent insertionAscendingSort id ∧ (∀ op ∈ refreshRun, op.Valid) ∧
    ((runNotNotify insertionAscendingSort id notNotifyStart refreshRun).1 =
        (runNotNotifyStore insertionAscendingSort id notNotifyStart.db refreshRun).1 ∧
      (runNotNotify insertionAscendingSort id notNotifyStart refreshRun).2.db =
        (runNotNotifyStore insertionAscendingSort id notNotifyStart.db refreshRun).2 ∧
      (runNotNotify insertionAscendingSort id notNotifyStart refreshRun).2.Coherent
        insertionAscendingSort id) :=
  have hs := NotNotifyState.coherent_empty insertionAscendingSort id notNotifyStart.db
  have hops : ∀ op ∈ refreshRun, op.Valid := by decide
  ⟨hs, hops, runNotNotify_eq_runStore insertionAscendingSort id notNotifyStart refreshRun hs hops⟩

/-! ## Deleting the list key alone -/

/-- **A list change that deletes only the list key leaves the hash stale.** For
every cache holding a hash for group `g`, a write of any list for `g` followed
by `ExecDel` of `DelSuperGroupRecvMsgNotNotifyUserIDs(g)` alone keeps that
entry: the next hash read returns the hash from before the write, where the
bare store returns the hash of the written list. -/
theorem getHash_after_list_del (utilsSort : AscendingSort) (md5 : String → String)
    (s : NotNotifyState) (groupID : String) (userIDs : List String) (hash : Option UInt64)
    (h : s.hashes groupID = some hash) :
    (runNotNotify utilsSort md5 s
        [.write groupID userIDs (delSuperGroupRecvMsgNotNotifyUserIDs groupID),
         .getHash groupID]).1 = [.hash (.ok hash)] ∧
      (runNotNotifyStore utilsSort md5 s.db
        [.write groupID userIDs (delSuperGroupRecvMsgNotNotifyUserIDs groupID),
         .getHash groupID]).1 =
        [.hash (superGroupRecvMsgNotNotifyUserIDsHash utilsSort md5 (.ok userIDs))] := by
  have hkeep : (s.write groupID userIDs (delSuperGroupRecvMsgNotNotifyUserIDs groupID)).hashes
      groupID = some hash := by
    simp only [NotNotifyState.write, delSuperGroupRecvMsgNotNotifyUserIDs, List.mem_singleton,
      (notNotifyKey_ne_hashKey groupID groupID).symm, if_false, h]
  simp [runNotNotify, runNotNotifyStore, getSuperGroupRecvMsgNotNotifyUserIDsHash, hkeep]

/-- The hash of `g` was filled for `["u1", "u2"]`; the write of `["u3"]` keeps it. -/
def notNotifyFilled : NotNotifyState :=
  ⟨fun _ => none, fun _ => some (some 1), fun _ => .ok ["u1", "u2"]⟩

/-- With a digest whose prefix does not parse, the store's list hashes to
`none` while the cache still answers `some 1`. -/
theorem getHash_after_list_del_stale :
    notNotifyFilled.hashes "g" = some (some 1) ∧
    superGroupRecvMsgNotNotifyUserIDsHash insertionAscendingSort (fun _ => "") (.ok ["u3"]) =
      .ok none ∧
    ((runNotNotify insertionAscendingSort (fun _ => "") notNotifyFilled
        [.write "g" ["u3"] (delSuperGroupRecvMsgNotNotifyUserIDs "g"), .getHash "g"]).1 =
        [.hash (.ok (some 1))] ∧
      (runNotNotifyStore insertionAscendingSort (fun _ => "") notNotifyFilled.db
        [.write "g" ["u3"] (delSuperGroupRecvMsgNotNotifyUserIDs "g"), .getHash "g"]).1 =
        [.hash (superGroupRecvMsgNotNotifyUserIDsHash insertionAscendingSort (fun _ => "")
          (.ok ["u3"]))]) :=
  ⟨rfl, rfl, getHash_after_list_del insertionAscendingSort (fun _ => "") notNotifyFilled "g"
    ["u3"] (some 1) rfl⟩

end OpenIMServer.Cache

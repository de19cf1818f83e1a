import OpenIMServer.Cache.Conversation

/-!
# The conversation cache over its store

rockscache, which is not under `src/`, keeps at most one entry per key. A read
(`getCache`) returns the entry, or on a miss reads the store and fills the key;
a write to the store is followed by `ExecDel` of a batch the `Del…` functions
build. This module states that contract over the records the key builders name
(`KeyCall`) and proves what the key encoding is for: a run of reads and writes
through the cache returns what the same run on the bare store returns, as long
as every record read has an owner without `:` and every write deletes its
record's key. The `Del…` batches of the conversation records name exactly
their records' keys, and a batch read finds each conversation at its request
position. A record whose owner holds `:` shares its entry with another record,
and a read of the second then returns the first one's value.
-/

namespace OpenIMServer.Cache

/-- A record whose owner, if it has one, holds no `:`. -/
def KeyCall.WellKeyed (a : KeyCall) : Prop :=
  ∀ o ∈ a.owner, ':' ∉ o.data

instance (a : KeyCall) : Decidable a.WellKeyed :=
  decidable_of_iff (∀ o ∈ a.owner.toList, ':' ∉ o.data) (by simp [KeyCall.WellKeyed])

/-- Two well-keyed records with one key are one record. -/
theorem KeyCall.eq_of_key_eq_of_wellKeyed {a b : KeyCall} (h : a.key = b.key)
    (ha : a.WellKeyed) (hb : b.WellKeyed) : a = b :=
  KeyCall.eq_of_key_eq h fun _ h₁ _ h₂ => .inr ⟨ha _ h₁, hb _ h₂⟩

/-! ## The cache contract -/

/-- rockscache's entries by key, and the store: one value per record. -/
structure CacheState (V : Type) where
  entries : String → Option V
  db : KeyCall → V

/-- A step of a run: a cached read of a record, or a store write of a record
followed by the deletion of a batch of keys. -/
inductive CacheOp (V : Type) where
  | get (a : KeyCall)
  | write (a : KeyCall) (v : V) (keys : List String)

section

variable {V : Type}

/-- `getCache(key, fn)`: a hit returns the entry; a miss reads the store and
fills the key. -/
def getCache (s : CacheState V) (a : KeyCall) : V × CacheState V :=
  match s.entries a.key with
  | some v => (v, s)
  | none =>
    (s.db a, { s with entries := fun k => if k = a.key then some (s.db a) else s.entries k })

/-- A store write, then `ExecDel` of a batch of keys. -/
def writeThenDel (s : CacheState V) (a : KeyCall) (v : V) (keys : List String) :
    CacheState V :=
  { entries := fun k => if k ∈ keys then none else s.entries k
    db := fun b => if b = a then v else s.db b }

/-- A run through the cache: what the reads return, in order, and the last state. -/
def runCache : CacheState V → List (CacheOp V) → List V × CacheState V
  | s, [] => ([], s)
  | s, .get a :: ops =>
    let r := getCache s a
    ((r.1 :: (runCache r.2 ops).1), (runCache r.2 ops).2)
  | s, .write a v keys :: ops => runCache (writeThenDel s a v keys) ops

/-- The same run on the bare store. -/
def runStore : (KeyCall → V) → List (CacheOp V) → List V × (KeyCall → V)
  | db, [] => ([], db)
  | db, .get a :: ops => (db a :: (runStore db ops).1, (runStore db ops).2)
  | db, .write a v _ :: ops => runStore (fun b => if b = a then v else db b) ops

/-- Every entry under a well-keyed record's key is that record's stored value. -/
def Coherent (s : CacheState V) : Prop :=
  ∀ a : KeyCall, a.WellKeyed → ∀ v, s.entries a.key = some v → v = s.db a

/-- A read of a well-keyed record, or a write whose batch deletes its record's key. -/
def CacheOp.Valid : CacheOp V → Prop
  | .get a => a.WellKeyed
  | .write a _ keys => a.key ∈ keys

instance : DecidablePred (CacheOp.Valid (V := V))
  | .get a => inferInstanceAs (Decidable a.WellKeyed)
  | .write a _ keys => inferInstanceAs (Decidable (a.key ∈ keys))

theorem coherent_empty (db : KeyCall → V) : Coherent ⟨fun _ => none, db⟩ :=
  fun _ _ _ h => by cases h

/-- A read of a well-keyed record returns its stored value, keeps the store,
and keeps the cache coherent. -/
theorem getCache_coherent {s : CacheState V} {a : KeyCall} (hs : Coherent s)
    (ha : a.WellKeyed) :
    (getCache s a).1 = s.db a ∧ (getCache s a).2.db = s.db ∧ Coherent (getCache s a).2 := by
  unfold getCache
  cases he : s.entries a.key with
  | some v => exact ⟨hs a ha v he, rfl, hs⟩
  | none =>
    refine ⟨rfl, rfl, fun b hb w hw => ?_⟩
    dsimp only at hw ⊢
    split at hw
    · next hk =>
      obtain rfl := KeyCall.eq_of_key_eq_of_wellKeyed hk hb ha
      exact (Option.some.inj hw).symm
    · exact hs b hb w hw

/-- A write whose batch deletes its record's key keeps the cache coherent. -/
theorem writeThenDel_coherent {s : CacheState V} {a : KeyCall} {v : V} {keys : List String}
    (hs : Coherent s) (hk : a.key ∈ keys) : Coherent (writeThenDel s a v keys) := by
  intro b hb w hw
  simp only [writeThenDel] at hw ⊢
  split at hw
  · cases hw
  · next hbk =>
    rw [if_neg fun (hba : b = a) => hbk (hba ▸ hk)]
    exact hs b hb w hw

/-- **The cache serves what the store holds.** From a coherent cache, a run of
reads of well-keyed records and of writes that delete their record's key
returns what the same run on the bare store returns, ends with the same store,
and leaves the cache coherent. -/
theorem runCache_eq_runStore (s : CacheState V) (ops : List (CacheOp V)) (hs : Coherent s)
    (hops : ∀ op ∈ ops, op.Valid) :
    (runCache s ops).1 = (runStore s.db ops).1 ∧ (runCache s ops).2.db = (runStore s.db ops).2 ∧
      Coherent (runCache s ops).2 := by
  induction ops generalizing s with
  | nil => exact ⟨rfl, rfl, hs⟩
  | cons op ops ih =>
    have hrest : ∀ op ∈ ops, op.Valid := fun op h => hops op (List.mem_cons_of_mem _ h)
    have hop : op.Valid := hops op (List.mem_cons_self _ _)
    cases op with
    | get a =>
      obtain ⟨hv, hdb, hs'⟩ := getCache_coherent hs hop
      obtain ⟨h₁, h₂, h₃⟩ := ih _ hs' hrest
      rw [hdb] at h₁ h₂
      exact ⟨by simp only [runCache, runStore, hv, h₁], h₂, h₃⟩
    | write a v keys => exact ih _ (writeThenDel_coherent hs hop) hrest

end

/-- An empty cache over a store that holds `1` for every record. -/
def emptyCache : CacheState Nat := ⟨fun _ => none, fun _ => 1⟩

/-- A read of conversation `c` of `u`, its rewrite to `2` followed by `ExecDel`
of the `DelConvsersations` batch, and the read again. -/
def rewriteConversation : List (CacheOp Nat) :=
  [.get (.conversation "u" "c"), .write (.conversation "u" "c") 2 (delConvsersations "u" ["c"]),
   .get (.conversation "u" "c")]

theorem runCache_eq_runStore_rewrite :
    Coherent emptyCache ∧ (∀ op ∈ rewriteConversation, op.Valid) ∧
      ((runCache emptyCache rewriteConversation).1 =
          (runStore emptyCache.db rewriteConversation).1 ∧
        (runCache emptyCache rewriteConversation).2.db =
          (runStore emptyCache.db rewriteConversation).2 ∧
        Coherent (runCache emptyCache rewriteConversation).2) :=
  have hs : Coherent emptyCache := coherent_empty _
  have hops : ∀ op ∈ rewriteConversation, op.Valid := by decide
  ⟨hs, hops, runCache_eq_runStore emptyCache rewriteConversation hs hops⟩

/-! ## The batches and the batch reads -/

/-- A batch of the keys of well-keyed records holds a well-keyed record's key
exactly when it names that record. -/
theorem mem_keys_iff {α : Type} (f : α → KeyCall) (hf : ∀ x, (f x).WellKeyed) (xs : List α)
    {b : KeyCall} (hb : b.WellKeyed) :
    b.key ∈ xs.map (fun x => (f x).key) ↔ ∃ x ∈ xs, b = f x := by
  simp only [List.mem_map]
  constructor
  · rintro ⟨x, hx, hkey⟩
    exact ⟨x, hx, (KeyCall.eq_of_key_eq_of_wellKeyed hkey (hf x) hb).symm⟩
  · rintro ⟨x, hx, rfl⟩
    exact ⟨x, hx, rfl⟩

/-- **`DelConvsersations` invalidates exactly its conversations.** For an owner
without `:`, the batch holds a well-keyed record's key exactly when the record
is one of the owner's named conversations. -/
theorem mem_delConvsersations {ownerUserID : String} (hown : ':' ∉ ownerUserID.data)
    (convsersationIDs : List String) {b : KeyCall} (hb : b.WellKeyed) :
    b.key ∈ delConvsersations ownerUserID convsersationIDs ↔
      ∃ c ∈ convsersationIDs, b = .conversation ownerUserID c :=
  mem_keys_iff (KeyCall.conversation ownerUserID) (fun _ _ h => Option.some.inj h ▸ hown)
    convsersationIDs hb

theorem mem_delConvsersations_second :
    ':' ∉ "u".data ∧ (KeyCall.conversation "u" "c2").WellKeyed ∧
      ((KeyCall.conversation "u" "c2").key ∈ delConvsersations "u" ["c1", "c2"] ↔
        ∃ c ∈ ["c1", "c2"], KeyCall.conversation "u" "c2" = .conversation "u" c) :=
  have hown : ':' ∉ "u".data := by decide
  have hb : (KeyCall.conversation "u" "c2").WellKeyed := by decide
  ⟨hown, hb, mem_delConvsersations hown ["c1", "c2"] hb⟩

/-- `DelUsersConversation` invalidates exactly its owners' conversation. -/
theorem mem_delUsersConversation {ownerUserIDs : List String}
    (hown : ∀ o ∈ ownerUserIDs, ':' ∉ o.data) (conversationID : String) {b : KeyCall}
    (hb : b.WellKeyed) :
    b.key ∈ delUsersConversation ownerUserIDs conversationID ↔
      ∃ o ∈ ownerUserIDs, b = .conversation o conversationID := by
  simp only [delUsersConversation, List.mem_map]
  constructor
  · rintro ⟨o, ho, hkey⟩
    exact ⟨o, ho, (KeyCall.eq_of_key_eq_of_wellKeyed (a := .conversation o conversationID) hkey
      (fun _ h => Option.some.inj h ▸ hown o ho) hb).symm⟩
  · rintro ⟨o, ho, rfl⟩
    exact ⟨o, ho, rfl⟩

theorem mem_delUsersConversation_second :
    (∀ o ∈ ["u1", "u2"], ':' ∉ o.data) ∧ (KeyCall.conversation "u2" "c").WellKeyed ∧
      ((KeyCall.conversation "u2" "c").key ∈ delUsersConversation ["u1", "u2"] "c" ↔
        ∃ o ∈ ["u1", "u2"], KeyCall.conversation "u2" "c" = .conversation o "c") :=
  have hown : ∀ o ∈ ["u1", "u2"], ':' ∉ o.data := by decide
  have hb : (KeyCall.conversation "u2" "c").WellKeyed := by decide
  ⟨hown, hb, mem_delUsersConversation hown "c" hb⟩

theorem getConversationKey_inj {ownerUserID c₁ c₂ : String} :
    getConversationKey ownerUserID c₁ = getConversationKey ownerUserID c₂ ↔ c₁ = c₂ := by
  constructor
  · intro h
    have hd := congrArg String.data h
    simp only [getConversationKey, String.data_append, List.append_assoc,
      List.append_cancel_left_eq] at hd
    exact String.ext hd
  · rintro rfl
    rfl

/-- **A batch read places each conversation at its request position.** Among
the keys `GetConversations` reads for one owner, a conversation of that owner is
found at the first position of its ID, and one whose ID was not requested is
not found. -/
theorem getConversationIndex_conversationKeys (ownerUserID : String)
    (conversationIDs : List String) (conversationID : String) :
    getConversationIndex ⟨ownerUserID, conversationID⟩
        (conversationKeys ownerUserID conversationIDs) =
      (conversationIDs.findIdx? (· == conversationID)).elim
        (.error (.other ("not found key:" ++ getConversationKey ownerUserID conversationID ++
          " in keys"))) .ok := by
  have hp : ((· == getConversationKey ownerUserID conversationID) ∘
      getConversationKey ownerUserID) = (· == conversationID) := by
    funext c
    by_cases hc : c = conversationID
    · simp [hc]
    · have hk : getConversationKey ownerUserID c ≠ getConversationKey ownerUserID conversationID :=
        fun h => hc (getConversationKey_inj.mp h)
      simp only [Function.comp, beq_false_of_ne hc, beq_false_of_ne hk]
  dsimp only [getConversationIndex, conversationKeys]
  rw [List.findIdx?_map, hp]
  cases conversationIDs.findIdx? (· == conversationID) <;> rfl

/-- The first position of a string in a list, as `findIdx?` finds it. -/
theorem findIdx?_beq_eq_some_iff {l : List String} {c : String} {i : Nat} :
    l.findIdx? (· == c) = some i ↔ l[i]? = some c ∧ ∀ j < i, l[j]? ≠ some c := by
  simp only [List.findIdx?_eq_some_iff_getElem, List.getElem?_eq_some_iff, beq_iff_eq, ne_eq]
  constructor
  · rintro ⟨hi, hc, hbefore⟩
    exact ⟨⟨hi, hc⟩, fun j hj ⟨_, h⟩ => hbefore j hj h⟩
  · rintro ⟨⟨hi, hc⟩, hbefore⟩
    exact ⟨hi, hc, fun j hj h => hbefore j hj ⟨_, h⟩⟩

/-- **Each fetched row goes to its own conversation's first slot.** For every
owner, every list of conversation IDs (repeats allowed) and every conversation
of that owner, `GetConversationIndex` over the keys `GetConversations` builds
returns `i` exactly when `i` is the first position of the conversation's ID,
and fails exactly when that ID was not requested. -/
theorem getConversationIndex_first_occurrence (ownerUserID : String)
    (conversationIDs : List String) (m : ConversationModel) (hm : m.ownerUserID = ownerUserID) :
    (∀ i, getConversationIndex m (conversationKeys ownerUserID conversationIDs) = .ok i ↔
      conversationIDs[i]? = some m.conversationID ∧
        ∀ j < i, conversationIDs[j]? ≠ some m.conversationID) ∧
    ((∃ err, getConversationIndex m (conversationKeys ownerUserID conversationIDs) = .error err) ↔
      m.conversationID ∉ conversationIDs) := by
  obtain ⟨owner, c⟩ := m
  subst hm
  rw [getConversationIndex_conversationKeys]
  refine ⟨fun i => ?_, ?_⟩
  · rw [← findIdx?_beq_eq_some_iff]
    cases conversationIDs.findIdx? (· == c) <;> simp
  · cases h : conversationIDs.findIdx? (· == c) with
    | none => simpa using fun hc => by simpa using List.findIdx?_eq_none_iff.mp h c hc
    | some i => simpa using List.getElem?_mem (findIdx?_beq_eq_some_iff.mp h).1

/-- A repeated ID: the row of `c2` goes to its first slot, `1`. -/
theorem getConversationIndex_first_occurrence_repeat :
    (⟨"u", "c2"⟩ : ConversationModel).ownerUserID = "u" ∧
    ((∀ i, getConversationIndex ⟨"u", "c2"⟩ (conversationKeys "u" ["c1", "c2", "c2"]) = .ok i ↔
        ["c1", "c2", "c2"][i]? = some "c2" ∧ ∀ j < i, ["c1", "c2", "c2"][j]? ≠ some "c2") ∧
      ((∃ err, getConversationIndex ⟨"u", "c2"⟩ (conversationKeys "u" ["c1", "c2", "c2"]) =
          .error err) ↔ "c2" ∉ ["c1", "c2", "c2"])) :=
  ⟨rfl, getConversationIndex_first_occurrence "u" ["c1", "c2", "c2"] ⟨"u", "c2"⟩ rfl⟩

end OpenIMServer.Cache

import OpenIMServer.Common.Base
import Mathlib.Data.List.Sort
import Mathlib.Data.String.Basic

/-!
# The conversation cache: keys and the not-notify hash

`pkg/common/db/cache/conversation.go`. Every cache entry lives under a key built
from a constant stem and the record's IDs; the two-ID keys put a `:` between the
owner and the conversation. `KeyCall` names one call of a builder, so that "two
calls collide" is a statement about two values.

The stems are pairwise incomparable (none is a start of another), so keys of
different builders never meet, and one-ID keys are injective. A two-ID key is
injective for a fixed owner, and for owners without a `:`; an owner with a `:`
collides with a shorter owner whose conversation ID takes the rest.

The invalidations (`Del…`) add the keys of the records they name to a deletion
batch, and the batch reads look a fetched conversation up among their keys
(`GetConversationIndex`). The last part is the hash of the super group's
not-notify list: sorting before the join makes it a function of the multiset
of IDs.
-/

namespace OpenIMServer.Cache

def conversationKey : String := "CONVERSATION:"
def conversationIDsKey : String := "CONVERSATION_IDS:"
def recvMsgOptKey : String := "RECV_MSG_OPT:"
def superGroupRecvMsgNotNotifyUserIDsKey : String := "SUPER_GROUP_RECV_MSG_NOT_NOTIFY_USER_IDS:"
def superGroupRecvMsgNotNotifyUserIDsHashKey : String :=
  "SUPER_GROUP_RECV_MSG_NOT_NOTIFY_USER_IDS_HASH:"

def getConversationKey (ownerUserID conversationID : String) : String :=
  conversationKey ++ ownerUserID ++ ":" ++ conversationID

def getConversationIDsKey (ownerUserID : String) : String :=
  conversationIDsKey ++ ownerUserID

def getSuperGroupRecvNotNotifyUserIDsKey (groupID : String) : String :=
  superGroupRecvMsgNotNotifyUserIDsKey ++ groupID

def getRecvMsgOptKey (ownerUserID conversationID : String) : String :=
  recvMsgOptKey ++ ownerUserID ++ ":" ++ conversationID

def getSuperGroupRecvNotNotifyUserIDsHashKey (groupID : String) : String :=
  superGroupRecvMsgNotNotifyUserIDsHashKey ++ groupID

/-! ## Key builders are separated by their stems -/

/-- One call of a key builder, with its arguments. -/
inductive KeyCall where
  | conversation (ownerUserID conversationID : String)
  | conversationIDs (ownerUserID : String)
  | superGroupRecvNotNotifyUserIDs (groupID : String)
  | recvMsgOpt (ownerUserID conversationID : String)
  | superGroupRecvNotNotifyUserIDsHash (groupID : String)
  deriving DecidableEq, Repr

namespace KeyCall

/-- The key the call returns. -/
def key : KeyCall → String
  | conversation o c => getConversationKey o c
  | conversationIDs o => getConversationIDsKey o
  | superGroupRecvNotNotifyUserIDs g => getSuperGroupRecvNotNotifyUserIDsKey g
  | recvMsgOpt o c => getRecvMsgOptKey o c
  | superGroupRecvNotNotifyUserIDsHash g => getSuperGroupRecvNotNotifyUserIDsHashKey g

/-- The builder's constant stem. -/
def stem : KeyCall → String
  | conversation .. => conversationKey
  | conversationIDs _ => conversationIDsKey
  | superGroupRecvNotNotifyUserIDs _ => superGroupRecvMsgNotNotifyUserIDsKey
  | recvMsgOpt .. => recvMsgOptKey
  | superGroupRecvNotNotifyUserIDsHash _ => superGroupRecvMsgNotNotifyUserIDsHashKey

/-- What follows the stem. -/
def body : KeyCall → String
  | conversation o c | recvMsgOpt o c => o ++ ":" ++ c
  | conversationIDs g | superGroupRecvNotNotifyUserIDs g | superGroupRecvNotNotifyUserIDsHash g => g

/-- The owner of a two-ID key. -/
def owner : KeyCall → Option String
  | conversation o _ | recvMsgOpt o _ => some o
  | _ => none

theorem key_data (a : KeyCall) : a.key.data = a.stem.data ++ a.body.data := by
  cases a <;> simp [key, stem, body, getConversationKey, getConversationIDsKey,
    getSuperGroupRecvNotNotifyUserIDsKey, getRecvMsgOptKey,
    getSuperGroupRecvNotNotifyUserIDsHashKey]

/-- No stem starts another one: comparable stems are equal. -/
theorem stem_eq_of_start {a b : KeyCall} (h : ∃ t, b.stem.data = a.stem.data ++ t) :
    a.stem = b.stem := by
  obtain ⟨t, ht⟩ := h
  have hp : a.stem.data <+: b.stem.data := ⟨t, ht.symm⟩
  cases a <;> cases b <;> simp only [stem] at hp ⊢ <;> revert hp <;> decide

theorem stem_eq_of_key_eq {a b : KeyCall} (h : a.key = b.key) : a.stem = b.stem := by
  have hd := congrArg String.data h
  rw [key_data, key_data, List.append_eq_append_iff] at hd
  rcases hd with ⟨t, ht, -⟩ | ⟨t, ht, -⟩
  · exact stem_eq_of_start ⟨t, ht⟩
  · exact (stem_eq_of_start ⟨t, ht⟩).symm

theorem body_eq_of_key_eq {a b : KeyCall} (h : a.key = b.key) : a.body = b.body := by
  have hd := congrArg String.data h
  rw [key_data, key_data, stem_eq_of_key_eq h] at hd
  exact String.ext (List.append_cancel_left hd)

end KeyCall

/-- Splitting at the first `:` recovers a `:`-free owner. -/
theorem split_colon {o₁ o₂ c₁ c₂ : List Char} (h₁ : ':' ∉ o₁) (h₂ : ':' ∉ o₂)
    (h : o₁ ++ ':' :: c₁ = o₂ ++ ':' :: c₂) : o₁ = o₂ ∧ c₁ = c₂ := by
  -- a `:`-free owner is what precedes the first `:`
  have upto : ∀ o c, ':' ∉ o → (o ++ ':' :: c).takeWhile (· != ':') = o := fun o c ho => by
    rw [List.takeWhile_append_of_pos fun a ha => by simpa using ne_of_mem_of_not_mem ha ho]
    simp
  obtain rfl : o₁ = o₂ := by rw [← upto o₁ c₁ h₁, ← upto o₂ c₂ h₂, h]
  exact ⟨rfl, (List.cons.inj (List.append_cancel_left h)).2⟩

theorem owner_body_eq {o₁ o₂ c₁ c₂ : String} (h : o₁ ++ ":" ++ c₁ = o₂ ++ ":" ++ c₂)
    (ho : o₁ = o₂ ∨ (':' ∉ o₁.data ∧ ':' ∉ o₂.data)) : o₁ = o₂ ∧ c₁ = c₂ := by
  have hd : o₁.data ++ ':' :: c₁.data = o₂.data ++ ':' :: c₂.data := by
    simpa using congrArg String.data h
  rcases ho with rfl | ⟨h₁, h₂⟩
  · exact ⟨rfl, String.ext (List.append_cancel_left hd |> List.cons.inj |>.2)⟩
  · obtain ⟨ho, hc⟩ := split_colon h₁ h₂ hd
    exact ⟨String.ext ho, String.ext hc⟩

/-- Two calls with one key are one call when their owners (if any) are equal
or free of `:`. -/
theorem KeyCall.eq_of_key_eq {a b : KeyCall} (h : a.key = b.key)
    (hown : ∀ o₁ ∈ a.owner, ∀ o₂ ∈ b.owner, o₁ = o₂ ∨ (':' ∉ o₁.data ∧ ':' ∉ o₂.data)) :
    a = b := by
  have hs := KeyCall.stem_eq_of_key_eq h
  have hbody := KeyCall.body_eq_of_key_eq h
  cases a <;> cases b <;>
    simp only [KeyCall.stem, KeyCall.body, KeyCall.owner, KeyCall.conversation.injEq,
      KeyCall.recvMsgOpt.injEq, KeyCall.conversationIDs.injEq,
      KeyCall.superGroupRecvNotNotifyUserIDs.injEq,
      KeyCall.superGroupRecvNotNotifyUserIDsHash.injEq] at hs hbody hown ⊢ <;>
    first
    | exact absurd hs (by decide)
    | exact hbody
    | exact owner_body_eq hbody (hown _ rfl _ rfl)

/-- **What the key encoding guarantees.** Two builder calls with the same key
are calls of the same builder (same stem); and they are the same call when
their owners are equal or contain no `:` (one-ID calls have no owner). -/
theorem keyCall_eq_of_key_eq (a b : KeyCall) :
    (a.key = b.key → a.stem = b.stem) ∧
    (a.key = b.key → a.owner = b.owner → a = b) ∧
    (a.key = b.key → (∀ o ∈ a.owner, ':' ∉ o.data) → (∀ o ∈ b.owner, ':' ∉ o.data) → a = b) :=
  ⟨KeyCall.stem_eq_of_key_eq,
   fun h hown => KeyCall.eq_of_key_eq h fun _ h₁ _ h₂ => .inl (Option.mem_unique (hown ▸ h₁) h₂),
   fun h ha hb => KeyCall.eq_of_key_eq h fun _ h₁ _ h₂ => .inr ⟨ha _ h₁, hb _ h₂⟩⟩

/-- An owner ID holding the separator collides with a shorter owner. -/
theorem getConversationKey_collides :
    (KeyCall.conversation "a:b" "c").key = (KeyCall.conversation "a" "b:c").key ∧
      KeyCall.conversation "a:b" "c" ≠ KeyCall.conversation "a" "b:c" := by
  decide

/-! ## Invalidation and batch reads -/

/-- `DelConversationIDs(userIDs)`: the keys it adds to the deletion batch. -/
def delConversationIDs (userIDs : List String) : List String :=
  userIDs.map getConversationIDsKey

def delConvsersations (ownerUserID : String) (convsersationIDs : List String) : List String :=
  convsersationIDs.map (getConversationKey ownerUserID)

def delUsersConversation (ownerUserIDs : List String) (conversationID : String) : List String :=
  ownerUserIDs.map (getConversationKey · conversationID)

def delUserRecvMsgOpt (ownerUserID conversationID : String) : List String :=
  [getRecvMsgOptKey ownerUserID conversationID]

def delSuperGroupRecvMsgNotNotifyUserIDs (groupID : String) : List String :=
  [getSuperGroupRecvNotNotifyUserIDsKey groupID]

def delSuperGroupRecvMsgNotNotifyUserIDsHash (groupID : String) : List String :=
  [getSuperGroupRecvNotNotifyUserIDsHashKey groupID]

/-- The keys `GetConversations` and `GetUserAllConversations` read, in order. -/
def conversationKeys (ownerUserID : String) (conversationIDs : List String) : List String :=
  conversationIDs.map (getConversationKey ownerUserID)

/-- `relationTb.ConversationModel`: the fields `GetConversationIndex` reads. -/
structure ConversationModel where
  ownerUserID : String
  conversationID : String
  deriving DecidableEq, Repr

/-- `GetConversationIndex`: the first position of the conversation's key. -/
def getConversationIndex (convsation : ConversationModel) (keys : List String) :
    Except Err Nat :=
  let key := getConversationKey convsation.ownerUserID convsation.conversationID
  match keys.findIdx? (· == key) with
  | some i => .ok i
  | none => .error (.other ("not found key:" ++ key ++ " in keys"))

/-! ## The not-notify hash -/

/-- `utils.Sort(userIDs, true)`, which is not under `src/`: a sort into ascending
order. Go compares strings bytewise on UTF-8, which orders them as `String`'s
`≤` does (by code point). -/
structure AscendingSort where
  sort : List String → List String
  perm : ∀ l, (sort l).Perm l
  sorted : ∀ l, (sort l).Sorted (· ≤ ·)

/-- The value of one hexadecimal digit. -/
def hexDigit (c : Char) : Option Nat :=
  if '0' ≤ c ∧ c ≤ '9' then some (c.toNat - '0'.toNat)
  else if 'a' ≤ c ∧ c ≤ 'f' then some (c.toNat - 'a'.toNat + 10)
  else if 'A' ≤ c ∧ c ≤ 'F' then some (c.toNat - 'A'.toNat + 10)
  else none

/-- `big.Int.SetString(s, 16)` on an unsigned digit string; `none` is the failed
parse, after which Go leaves the value undefined. -/
def hexValue (s : String) : Option Nat :=
  if s.isEmpty then none
  else s.foldl (fun acc c => acc.bind fun a => (hexDigit c).map (16 * a + ·)) (some 0)

/-- The function `GetSuperGroupRecvMsgNotNotifyUserIDsHash` caches, run on what
`GetSuperGroupRecvMsgNotNotifyUserIDs` returned; `md5` is `utils.Md5`, a
lowercase hex digest. -/
def superGroupRecvMsgNotNotifyUserIDsHash (utilsSort : AscendingSort) (md5 : String → String)
    (fetched : Except Err (List String)) : Except Err (Option UInt64) :=
  match fetched with
  | .error err => .error err
  | .ok userIDs =>
    let userIDs := utilsSort.sort userIDs
    .ok ((hexValue ((md5 (";".intercalate userIDs)).take 8)).map UInt64.ofNat)

/-- Every ascending sort sends permutations of a list to one list. -/
theorem AscendingSort.sort_eq_of_perm (utilsSort : AscendingSort) {l₁ l₂ : List String}
    (h : l₁.Perm l₂) : utilsSort.sort l₁ = utilsSort.sort l₂ :=
  List.eq_of_perm_of_sorted (((utilsSort.perm l₁).trans h).trans (utilsSort.perm l₂).symm)
    (utilsSort.sorted l₁) (utilsSort.sorted l₂)

/-- **The hash depends only on the multiset of IDs.** For every sort into
ascending order and every digest function, two fetched lists that are
permutations of each other hash alike. -/
theorem superGroupRecvMsgNotNotifyUserIDsHash_perm (utilsSort : AscendingSort)
    (md5 : String → String) {l₁ l₂ : List String} (h : l₁.Perm l₂) :
    superGroupRecvMsgNotNotifyUserIDsHash utilsSort md5 (.ok l₁) =
      superGroupRecvMsgNotNotifyUserIDsHash utilsSort md5 (.ok l₂) := by
  simp [superGroupRecvMsgNotNotifyUserIDsHash, utilsSort.sort_eq_of_perm h]

/-- Insertion sort by `≤`, an ascending sort. -/
def insertionAscendingSort : AscendingSort where
  sort := List.insertionSort (· ≤ ·)
  perm := List.perm_insertionSort (· ≤ ·)
  sorted := List.sorted_insertionSort (· ≤ ·)

theorem superGroupRecvMsgNotNotifyUserIDsHash_swap :
    (["u2", "u1"].Perm ["u1", "u2"]) ∧
    superGroupRecvMsgNotNotifyUserIDsHash insertionAscendingSort id (.ok ["u2", "u1"]) =
      superGroupRecvMsgNotNotifyUserIDsHash insertionAscendingSort id (.ok ["u1", "u2"]) :=
  ⟨List.Perm.swap _ _ _,
    superGroupRecvMsgNotNotifyUserIDsHash_perm insertionAscendingSort id (List.Perm.swap _ _ _)⟩

/-! ### The hash fits in 32 bits -/

theorem hexDigit_lt {c : Char} {d : Nat} (h : hexDigit c = some d) : d < 16 := by
  unfold hexDigit at h
  have h0 : '0'.toNat = 48 := rfl
  have ha : 'a'.toNat = 97 := rfl
  have hA : 'A'.toNat = 65 := rfl
  split_ifs at h with h1 h2 h3 <;> simp only [Option.some.injEq, reduceCtorEq] at h <;> subst h
  · have : c.toNat ≤ 57 := h1.2
    omega
  · have : c.toNat ≤ 102 := h2.2
    omega
  · have : c.toNat ≤ 70 := h3.2
    omega

/-- A failed digit fails the rest of the parse. -/
theorem hexFold_none (l : List Char) :
    l.foldl (fun acc c => acc.bind fun a => (hexDigit c).map (16 * a + ·)) none = none := by
  induction l with
  | nil => rfl
  | cons c l ih => exact ih

/-- Each digit read multiplies the bound by 16. -/
theorem hexFold_lt (l : List Char) (k a v : Nat) (ha : a < 16 ^ k)
    (h : l.foldl (fun acc c => acc.bind fun a => (hexDigit c).map (16 * a + ·)) (some a) = some v) :
    v < 16 ^ (k + l.length) := by
  induction l generalizing k a with
  | nil => simpa using (Option.some.inj h) ▸ ha
  | cons c l ih =>
    cases hd : hexDigit c with
    | none => simp [hd, hexFold_none] at h
    | some d =>
      simp only [List.foldl_cons, hd, Option.bind_some, Option.map_some'] at h
      have hd16 := hexDigit_lt hd
      have := ih (k + 1) (16 * a + d) (by rw [pow_succ]; omega) h
      simpa [Nat.add_assoc, Nat.add_comm 1] using this

theorem hexValue_lt {s : String} {v : Nat} (h : hexValue s = some v) : v < 16 ^ s.length := by
  unfold hexValue at h
  split at h
  · cases h
  · rw [String.foldl_eq] at h
    simpa using hexFold_lt s.data 0 0 v (by decide) h

/-- **The hash fits in 32 bits.** Whatever the digest function, a hash that
`GetSuperGroupRecvMsgNotNotifyUserIDsHash` computes is the value of at most
eight hexadecimal digits, so it is below `2 ^ 32`: the upper half of the
`uint64` is always zero. -/
theorem superGroupRecvMsgNotNotifyUserIDsHash_lt (utilsSort : AscendingSort)
    (md5 : String → String) (fetched : Except Err (List String)) (hash : UInt64)
    (h : superGroupRecvMsgNotNotifyUserIDsHash utilsSort md5 fetched = .ok (some hash)) :
    hash.toNat < 2 ^ 32 := by
  unfold superGroupRecvMsgNotNotifyUserIDsHash at h
  cases fetched with
  | error err => cases h
  | ok userIDs =>
    simp only [Except.ok.injEq, Option.map_eq_some'] at h
    obtain ⟨v, hv, rfl⟩ := h
    have hlen (d : String) : (d.take 8).length ≤ 8 := by
      rw [← String.length_data, String.data_take]
      exact List.length_take_le _ _
    have h32 : v < 2 ^ 32 :=
      calc v < 16 ^ _ := hexValue_lt hv
        _ ≤ 16 ^ 8 := Nat.pow_le_pow_right (by decide) (hlen _)
        _ = 2 ^ 32 := by decide
    have h64 : v < UInt64.size := h32.trans (by decide)
    rwa [UInt64.toNat_ofNat_of_lt h64]

/-- The bound is reached: a digest beginning with eight `f`s hashes to `2 ^ 32 - 1`. -/
theorem superGroupRecvMsgNotNotifyUserIDsHash_lt_ffffffff :
    superGroupRecvMsgNotNotifyUserIDsHash insertionAscendingSort (fun _ => "ffffffff") (.ok []) =
        .ok (some 4294967295) ∧ (4294967295 : UInt64).toNat < 2 ^ 32 := by
  have hv : hexValue ("ffffffff".take 8) = some 4294967295 := by
    rw [hexValue, String.foldl_eq]
    decide
  have h : superGroupRecvMsgNotNotifyUserIDsHash insertionAscendingSort (fun _ => "ffffffff")
      (.ok []) = .ok (some 4294967295) := by
    simp only [superGroupRecvMsgNotNotifyUserIDsHash, hv]
    rfl
  exact ⟨h, superGroupRecvMsgNotNotifyUserIDsHash_lt _ _ _ _ h⟩

end OpenIMServer.Cache

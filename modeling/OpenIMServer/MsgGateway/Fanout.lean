import OpenIMServer.MsgGateway.Presence

/-!
# Fanout: SuperGroupOnlineBatchPushOneMsg against its spec

The spec classifies each live client on its own: a background client is
suppressed (`-3`) and never pushed; a foreground one is pushed, and records
`-2` when the push failed, `0` when it succeeded on a push terminal, and nothing
otherwise. The handler interleaves that with three accumulators (the items, the
`OnlinePush` flag, the success counter) and a world of `PushMessage` calls.
The loop lemmas `pushToClients_eq` and `pushToUsers_eq` show the run computes
exactly the spec's entries, makes exactly the spec's calls in order, and counts
exactly the `0` items.

The success counter rises once per successful push to a push terminal
(`superGroupOnlineBatchPushOneMsg_onlinePushSuccess`). The last section
compares fanout with presence: they report the same users only when no registry
answer is a found user without a live session; fanout lists such a user with an
empty `Resp`, and presence leaves it out.
-/

namespace OpenIMServer.MsgGateway

/-- The clients a lookup's fanout pushes, in registry order: the live foreground ones. -/
def foregroundClients (clients : List (Option Client)) : List Client :=
  clients.reduceOption.filter (!·.isBackground)

/-- The `PushMessage` calls of a fanout over `userIDs`, in order, each with its target. -/
def pushCalls (lookup : String → Option (List (Option Client))) (userIDs : List String) :
    List (String × Client) :=
  userIDs.flatMap fun v => (foregroundClients ((lookup v).getD [])).map (v, ·)

/-- The code recorded for a live client, `none` when no item is recorded. -/
def resultCodeOf (pushTerminal : List Int) (client : Client) (failed : Bool) : Option Int :=
  if client.isBackground then some (-3)
  else if failed then some (-2)
  else if client.platformID ∈ pushTerminal then some 0
  else none

/-- The items of target `v`: one per live client that records one, in registry
order, the `j`-th foreground client's push being call `n + j`. -/
def respSpec (pushTerminal : List Int) (pushMessage : Nat → Option Err) (v : String) :
    Nat → List (Option Client) → List SingleMsgToUserPlatform
  | _, [] => []
  | n, none :: clients => respSpec pushTerminal pushMessage v n clients
  | n, some client :: clients =>
    ((resultCodeOf pushTerminal client (pushMessage n).isSome).map fun code =>
        { resultCode := code, recvID := v, recvPlatFormID := int32 client.platformID }).toList ++
      respSpec pushTerminal pushMessage v (if client.isBackground then n else n + 1) clients

/-- A target's entry: its items, and `OnlinePush` exactly when one of them is a `0`. -/
def entrySpec (pushTerminal : List Int) (pushMessage : Nat → Option Err) (v : String) (n : Nat)
    (clients : List (Option Client)) : SingleMsgToUserResults :=
  { userID := v
    resp := respSpec pushTerminal pushMessage v n clients
    onlinePush := (respSpec pushTerminal pushMessage v n clients).any (·.resultCode == 0) }

/-- The fanout spec: one entry per target position whose lookup succeeds, in
input order, the first push being call `n`. -/
def fanoutSpec (pushTerminal : List Int) (lookup : String → Option (List (Option Client)))
    (pushMessage : Nat → Option Err) : Nat → List String → List SingleMsgToUserResults
  | _, [] => []
  | n, v :: vs =>
    match lookup v with
    | none => fanoutSpec pushTerminal lookup pushMessage n vs
    | some clients =>
      entrySpec pushTerminal pushMessage v n clients ::
        fanoutSpec pushTerminal lookup pushMessage (n + (foregroundClients clients).length) vs

/-- The number of `0` items of a list of entries: the success counter's increase. -/
def deliveredCount (entries : List SingleMsgToUserResults) : Nat :=
  (entries.flatMap (·.resp)).countP (·.resultCode == 0)

@[simp] theorem isContainInt_iff (target : Int) (list : List Int) :
    isContainInt target list = true ↔ target ∈ list := by
  simp [isContainInt]

@[simp] theorem foregroundClients_nil : foregroundClients [] = [] := rfl

@[simp] theorem foregroundClients_cons_none (clients : List (Option Client)) :
    foregroundClients (none :: clients) = foregroundClients clients := by
  simp [foregroundClients]

@[simp] theorem foregroundClients_cons_some (client : Client) (clients : List (Option Client)) :
    foregroundClients (some client :: clients) =
      if client.isBackground then foregroundClients clients
      else client :: foregroundClients clients := by
  cases h : client.isBackground <;> simp [foregroundClients, h]

/-! ## The per-target loop -/

/-- **The client loop = the items spec.** Run from any accumulators and world,
the loop appends the spec's items, raises the flag exactly on a `0` item, pushes
exactly the foreground clients in order, and counts exactly the `0` items. -/
theorem pushToClients_eq (s : Server) (pushMessage : Nat → Option Err) (v : String)
    (clients : List (Option Client)) (resp : List SingleMsgToUserPlatform) (onlinePush : Bool)
    (w : PushWorld) :
    pushToClients s pushMessage v clients resp onlinePush w =
      (resp ++ respSpec s.pushTerminal pushMessage v w.calls.length clients,
       onlinePush || (respSpec s.pushTerminal pushMessage v w.calls.length clients).any
         (·.resultCode == 0),
       { calls := w.calls ++ (foregroundClients clients).map (v, ·)
         onlinePushSuccess := w.onlinePushSuccess +
           (respSpec s.pushTerminal pushMessage v w.calls.length clients).countP
             (·.resultCode == 0) }) := by
  induction clients generalizing resp onlinePush w with
  | nil => simp [pushToClients, respSpec]
  | cons client clients ih =>
    cases client with
    | none => simpa [pushToClients, respSpec] using ih resp onlinePush w
    | some client =>
      cases hb : client.isBackground
      · cases hp : pushMessage w.calls.length with
        | some err => simp [pushToClients, respSpec, resultCodeOf, hb, hp, ih]
        | none =>
          by_cases ht : client.platformID ∈ s.pushTerminal
          · simp [pushToClients, respSpec, resultCodeOf, hb, hp, ht, ih]; omega
          · simp [pushToClients, respSpec, resultCodeOf, hb, hp, ht, ih]
      · simp [pushToClients, respSpec, resultCodeOf, hb, ih]

/-! ## The target loop -/

theorem pushToUsers_eq (s : Server) (pushMessage : Nat → Option Err) (vs : List String)
    (acc : List SingleMsgToUserResults) (w : PushWorld) :
    pushToUsers s pushMessage vs acc w =
      (acc ++ fanoutSpec s.pushTerminal s.longConnServer.getUserAllCons pushMessage
          w.calls.length vs,
       { calls := w.calls ++ pushCalls s.longConnServer.getUserAllCons vs
         onlinePushSuccess := w.onlinePushSuccess + deliveredCount
           (fanoutSpec s.pushTerminal s.longConnServer.getUserAllCons pushMessage
             w.calls.length vs) }) := by
  induction vs generalizing acc w with
  | nil => simp [pushToUsers, fanoutSpec, pushCalls, deliveredCount]
  | cons v vs ih =>
    cases h : s.longConnServer.getUserAllCons v with
    | none => simpa [pushToUsers, fanoutSpec, pushCalls, h] using ih acc w
    | some clients =>
      simp only [pushToUsers, h, pushToClients_eq, ih, fanoutSpec]
      simp [entrySpec, pushCalls, deliveredCount, h]
      omega

/-- **Fanout = spec.** For every registry state, target list and pattern of push
failures, the handler returns a nil error and the spec's entries, calls
`PushMessage` once for each foreground live client of each found target
position, in order and on no other client, and raises the success counter once
per `0` item. -/
theorem superGroupOnlineBatchPushOneMsg_eq_spec (s : Server) (pushMessage : Nat → Option Err)
    (req : OnlineBatchPushOneMsgReq) (w : PushWorld) :
    superGroupOnlineBatchPushOneMsg s pushMessage req w =
      (.ok { singlePushResult := fanoutSpec s.pushTerminal s.longConnServer.getUserAllCons
               pushMessage w.calls.length req.pushToUserIDs },
       { calls := w.calls ++ pushCalls s.longConnServer.getUserAllCons req.pushToUserIDs
         onlinePushSuccess := w.onlinePushSuccess + deliveredCount
           (fanoutSpec s.pushTerminal s.longConnServer.getUserAllCons pushMessage
             w.calls.length req.pushToUserIDs) }) := by
  simp [superGroupOnlineBatchPushOneMsg, pushToUsers_eq]

/-- The users fanout reports, in order: the target positions whose lookup succeeds. -/
theorem fanoutSpec_userIDs (pushTerminal : List Int)
    (lookup : String → Option (List (Option Client))) (pushMessage : Nat → Option Err)
    (n : Nat) (vs : List String) :
    (fanoutSpec pushTerminal lookup pushMessage n vs).map (·.userID) =
      vs.filter fun v => (lookup v).isSome := by
  induction vs generalizing n with
  | nil => rfl
  | cons v vs ih =>
    cases h : lookup v <;> simp [fanoutSpec, h, ih, List.filter_cons, entrySpec]

/-- A target with no live session gets no item. -/
theorem respSpec_eq_nil (pushTerminal : List Int) (pushMessage : Nat → Option Err) (v : String)
    (n : Nat) (clients : List (Option Client)) (h : clients.reduceOption = []) :
    respSpec pushTerminal pushMessage v n clients = [] := by
  induction clients generalizing n with
  | nil => rfl
  | cons client clients ih =>
    cases client with
    | none => exact ih n (by simpa [List.reduceOption_cons_of_none] using h)
    | some client => simp [List.reduceOption_cons_of_some] at h

/-- Every entry of a target found with no live session has an empty `Resp`. -/
theorem fanoutSpec_resp_nil (pushTerminal : List Int)
    (lookup : String → Option (List (Option Client))) (pushMessage : Nat → Option Err)
    (n : Nat) (vs : List String) :
    ∀ r ∈ fanoutSpec pushTerminal lookup pushMessage n vs,
      isOnline lookup r.userID = false → r.resp = [] := by
  induction vs generalizing n with
  | nil => simp [fanoutSpec]
  | cons v vs ih =>
    cases h : lookup v with
    | none => simpa [fanoutSpec, h] using ih n
    | some clients =>
      simp only [fanoutSpec, h, List.mem_cons, forall_eq_or_imp]
      refine ⟨fun hoff => respSpec_eq_nil _ _ _ _ _ ?_, ih _⟩
      simpa [isOnline, h, entrySpec, List.isEmpty_iff] using hoff

/-- A registry whose one user has one background session with a platform ID
outside the `int32` range. -/
def wideSession : Server where
  longConnServer :=
    { getUserAllCons := fun _ => some [some { platformID := 2 ^ 31, isBackground := true,
                                              connID := "c1" }]
      getUserPlatformCons := fun _ _ => none }
  pushTerminal := []

/-- The item of a session with platform `2^31` carries `RecvPlatFormID = -2^31`:
the handler stores `int32(client.platformID)`. -/
theorem recvPlatFormID_wraps :
    superGroupOnlineBatchPushOneMsg wideSession (fun _ => none) { pushToUserIDs := ["u"] }
        { calls := [], onlinePushSuccess := 0 } =
      (.ok { singlePushResult :=
               [{ userID := "u"
                  resp := [{ resultCode := -3, recvID := "u", recvPlatFormID := -2 ^ 31 }]
                  onlinePush := false }] },
       { calls := [], onlinePushSuccess := 0 }) :=
  rfl

/-! ## What the success counter counts -/

/-- A push call the success counter counts: it returned no error, on a client
of a push-terminal platform. The call is numbered as the world numbers it. -/
def countedPush (pushTerminal : List Int) (pushMessage : Nat → Option Err)
    (call : Nat × String × Client) : Bool :=
  (pushMessage call.1).isNone && decide (call.2.2.platformID ∈ pushTerminal)

/-- The `0` items of a target are its counted pushes. -/
theorem respSpec_countP_zero (pushTerminal : List Int) (pushMessage : Nat → Option Err)
    (v : String) (n : Nat) (clients : List (Option Client)) :
    (respSpec pushTerminal pushMessage v n clients).countP (·.resultCode == 0) =
      (((foregroundClients clients).map (v, ·)).enumFrom n).countP
        (countedPush pushTerminal pushMessage) := by
  induction clients generalizing n with
  | nil => rfl
  | cons client clients ih =>
    cases client with
    | none => simpa [respSpec] using ih n
    | some client =>
      cases hb : client.isBackground
      · cases hp : pushMessage n <;>
        by_cases ht : client.platformID ∈ pushTerminal <;>
          simp [respSpec, resultCodeOf, countedPush, hb, hp, ht, ih]
      · simp [respSpec, resultCodeOf, hb, ih]

theorem deliveredCount_fanoutSpec (pushTerminal : List Int)
    (lookup : String → Option (List (Option Client))) (pushMessage : Nat → Option Err)
    (n : Nat) (vs : List String) :
    deliveredCount (fanoutSpec pushTerminal lookup pushMessage n vs) =
      ((pushCalls lookup vs).enumFrom n).countP (countedPush pushTerminal pushMessage) := by
  induction vs generalizing n with
  | nil => rfl
  | cons v vs ih =>
    cases h : lookup v with
    | none => simpa [fanoutSpec, pushCalls, deliveredCount, h] using ih n
    | some clients =>
      have := ih (n + (foregroundClients clients).length)
      simp only [deliveredCount, pushCalls] at this ⊢
      simp [fanoutSpec, entrySpec, h, List.enumFrom_append, respSpec_countP_zero, this]

/-- **What the success counter counts.** For every registry state, request and
pattern of push failures, `MsgOnlinePushSuccessCounter` rises by the number of
this request's `PushMessage` calls that returned no error on a client of a
push-terminal platform (iOS or Android), and by nothing else. -/
theorem superGroupOnlineBatchPushOneMsg_onlinePushSuccess (s : Server)
    (pushMessage : Nat → Option Err) (req : OnlineBatchPushOneMsgReq) (w : PushWorld) :
    (superGroupOnlineBatchPushOneMsg s pushMessage req w).2.onlinePushSuccess =
      w.onlinePushSuccess +
        ((pushCalls s.longConnServer.getUserAllCons req.pushToUserIDs).enumFrom
          w.calls.length).countP (countedPush s.pushTerminal pushMessage) := by
  simp [superGroupOnlineBatchPushOneMsg, pushToUsers_eq, deliveredCount_fanoutSpec]

/-! ## Fanout against presence -/

theorem isOnline_isSome {lookup : String → Option (List (Option Client))} {v : String}
    (h : isOnline lookup v = true) : (lookup v).isSome := by
  cases hv : lookup v <;> simp_all [isOnline]

theorem isOnline_eq_isSome {lookup : String → Option (List (Option Client))}
    (h : ∀ v clients, lookup v = some clients → clients.reduceOption ≠ []) (v : String) :
    isOnline lookup v = (lookup v).isSome := by
  cases hv : lookup v with
  | none => simp [isOnline, hv]
  | some clients => simpa [isOnline, hv, List.isEmpty_iff] using h v clients hv

/-- **Presence reports the fanout's users that are online.** For an app-manager
requester, the users presence reports are, in order, the users fanout reports
with those whose registry answer holds no live session left out; so the two
lists agree whenever no found answer lacks a live session. Fanout reports each
found user, in order, and one found with no live session with an empty
`Resp`. -/
theorem online_userIDs_eq_pushed_filter (k : Constant) (isAppManagerUid : Ctx → Bool)
    (s : Server) (ctx : Ctx) (hctx : isAppManagerUid ctx = true)
    (pushMessage : Nat → Option Err) (userIDs : List String) (w : PushWorld) :
    (getUsersOnlineStatus k isAppManagerUid s ctx ⟨userIDs⟩).map
        (·.successResult.map (·.userID)) =
      (superGroupOnlineBatchPushOneMsg s pushMessage ⟨userIDs⟩ w).1.map
        (fun r => (r.singlePushResult.map (·.userID)).filter
          (isOnline s.longConnServer.getUserAllCons)) ∧
    ((∀ v clients, s.longConnServer.getUserAllCons v = some clients →
        clients.reduceOption ≠ []) →
      (getUsersOnlineStatus k isAppManagerUid s ctx ⟨userIDs⟩).map
          (·.successResult.map (·.userID)) =
        (superGroupOnlineBatchPushOneMsg s pushMessage ⟨userIDs⟩ w).1.map
          (·.singlePushResult.map (·.userID))) ∧
    ∃ resp, (superGroupOnlineBatchPushOneMsg s pushMessage ⟨userIDs⟩ w).1 = .ok resp ∧
      resp.singlePushResult.map (·.userID) =
        userIDs.filter (fun v => (s.longConnServer.getUserAllCons v).isSome) ∧
      ∀ r ∈ resp.singlePushResult,
        isOnline s.longConnServer.getUserAllCons r.userID = false → r.resp = [] := by
  simp only [getUsersOnlineStatus, hctx, Bool.not_true, Bool.false_eq_true, if_false,
    collectOnline_eq, List.nil_append,
    superGroupOnlineBatchPushOneMsg, pushToUsers_eq, Except.map, onlineStatusSpec_userIDs,
    fanoutSpec_userIDs, List.filter_filter]
  refine ⟨?_, fun h => ?_, _, rfl, fanoutSpec_userIDs _ _ _ _ _, fanoutSpec_resp_nil _ _ _ _ _⟩
  · congr 1
    exact List.filter_congr fun v _ => (Bool.and_iff_left_iff_imp.mpr isOnline_isSome).symm
  · congr 1
    exact List.filter_congr fun v _ => isOnline_eq_isSome h v

/-- A registry that reports every user as found with no session at all. -/
def foundWithoutSessions : Server where
  longConnServer := { getUserAllCons := fun _ => some [], getUserPlatformCons := fun _ _ => none }
  pushTerminal := []

/-- A registry where `u` has one live session and no other user is found. -/
def oneSession : Server where
  longConnServer :=
    { getUserAllCons := fun v => if v = "u" then some [some ⟨1, false, "c1"⟩] else none
      getUserPlatformCons := fun _ _ => none }
  pushTerminal := []

/-- An app manager asks about `u` and the unknown `x` in `oneSession`, where
every found user has a live session. -/
theorem online_userIDs_eq_pushed_filter_admin :
    (fun _ : Ctx => true) ⟨"imAdmin"⟩ = true ∧
    (∀ v clients, oneSession.longConnServer.getUserAllCons v = some clients →
      clients.reduceOption ≠ []) ∧
    ((getUsersOnlineStatus Constant.openIM (fun _ => true) oneSession ⟨"imAdmin"⟩
          ⟨["u", "x"]⟩).map (·.successResult.map (·.userID)) =
        (superGroupOnlineBatchPushOneMsg oneSession (fun _ => none) ⟨["u", "x"]⟩
          ⟨[], 0⟩).1.map (fun r => (r.singlePushResult.map (·.userID)).filter
            (isOnline oneSession.longConnServer.getUserAllCons)) ∧
      ((∀ v clients, oneSession.longConnServer.getUserAllCons v = some clients →
          clients.reduceOption ≠ []) →
        (getUsersOnlineStatus Constant.openIM (fun _ => true) oneSession
            ⟨"imAdmin"⟩ ⟨["u", "x"]⟩).map (·.successResult.map (·.userID)) =
          (superGroupOnlineBatchPushOneMsg oneSession (fun _ => none) ⟨["u", "x"]⟩
            ⟨[], 0⟩).1.map (·.singlePushResult.map (·.userID))) ∧
      ∃ resp, (superGroupOnlineBatchPushOneMsg oneSession (fun _ => none) ⟨["u", "x"]⟩
          ⟨[], 0⟩).1 = .ok resp ∧
        resp.singlePushResult.map (·.userID) =
          ["u", "x"].filter (fun v => (oneSession.longConnServer.getUserAllCons v).isSome) ∧
        ∀ r ∈ resp.singlePushResult,
          isOnline oneSession.longConnServer.getUserAllCons r.userID = false → r.resp = []) :=
  have hlive : ∀ v clients, oneSession.longConnServer.getUserAllCons v = some clients →
      clients.reduceOption ≠ [] := fun v clients h => by
    by_cases hv : v = "u" <;> simp [oneSession, hv] at h
    subst h
    decide
  ⟨rfl, hlive, online_userIDs_eq_pushed_filter Constant.openIM (fun _ => true) oneSession
    ⟨"imAdmin"⟩ rfl (fun _ => none) ["u", "x"] ⟨[], 0⟩⟩

/-- A user found with no session is reported by fanout and not by presence. -/
theorem online_userIDs_ne_pushed_userIDs :
    (getUsersOnlineStatus Constant.openIM (fun _ => true) foundWithoutSessions ⟨"imAdmin"⟩
        ⟨["u"]⟩).map (·.successResult.map (·.userID)) = .ok [] ∧
    (superGroupOnlineBatchPushOneMsg foundWithoutSessions (fun _ => none) ⟨["u"]⟩
        ⟨[], 0⟩).1.map (·.singlePushResult.map (·.userID)) = .ok ["u"] :=
  ⟨rfl, rfl⟩

end OpenIMServer.MsgGateway

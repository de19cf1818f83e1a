import OpenIMServer.Notification.Broadcast

/-!
# Runs of the group notification sender

`GroupNotificationSender` as the group service uses it: a sequence of calls of
its exported handlers, each with its own context and request, against one
store, one user service and one `msgClient`, whose messages accumulate in one
log. `SenderCall` names the eighteen handlers that send group notifications
(`SuperGroupNotification` sends a one-to-one message through `SendMsg` and is
not one of them).

Whatever the calls, the store's reads and `Notification` answer, every message a run
sends is from the operator of the call that sent it, and goes to the group as
a whole (the empty receiver ID), to that operator, or to an owner or admin of
the call's group (`runSender_addressed`). One step (`SenderCall.run_appends`)
is shown per handler from the lemmas of `Broadcast` and `Recipients`; the run
follows by induction. A handler that panics (a nil dereference in
`mergeGroupFull`) does so before it sends anything; the run then goes on with
the next call, which covers a process that stops there as well.
-/

namespace OpenIMServer.Notification

/-- A call of one of the handlers, with its context and arguments. -/
inductive SenderCall where
  | groupCreated (ctx : Ctx) (group : GroupModel) (members : List GroupMemberModel)
      (userMap : GoMap UserInfo)
  | groupInfoSet (ctx : Ctx) (group : GroupModel) (members : List GroupMemberModel)
      (needVerification : Option Int)
  | joinGroupApplication (ctx : Ctx) (req : JoinGroupReq)
  | memberQuit (ctx : Ctx) (req : QuitGroupReq)
  | groupApplicationAccepted (ctx : Ctx) (req : GroupApplicationResponseReq)
  | groupApplicationRejected (ctx : Ctx) (req : GroupApplicationResponseReq)
  | groupOwnerTransferred (ctx : Ctx) (req : TransferGroupOwnerReq)
  | memberKicked (ctx : Ctx) (req : KickGroupMemberReq)
  | memberInvited (ctx : Ctx) (groupID : String) (invitedUserIDList : List String)
  | memberEnter (ctx : Ctx) (groupID fromUserID : String)
  | groupDismissed (ctx : Ctx) (req : DismissGroupReq)
  | groupMemberMuted (ctx : Ctx) (groupID groupMemberUserID : String) (mutedSeconds : Nat)
  | groupMemberCancelMuted (ctx : Ctx) (groupID groupMemberUserID : String)
  | groupMuted (ctx : Ctx) (groupID : String)
  | groupCancelMuted (ctx : Ctx) (groupID : String)
  | groupMemberInfoSet (ctx : Ctx) (groupID groupMemberUserID : String)
  | groupMemberSetToAdmin (ctx : Ctx) (groupID groupMemberUserID : String)
      (notificationType : Int)
  | memberEnterDirectly (ctx : Ctx) (groupID entrantUserID : String)

namespace SenderCall

/-- The context the call runs in. -/
def ctx : SenderCall → Ctx
  | groupCreated ctx .. | groupInfoSet ctx .. | joinGroupApplication ctx _ | memberQuit ctx _
  | groupApplicationAccepted ctx _ | groupApplicationRejected ctx _
  | groupOwnerTransferred ctx _ | memberKicked ctx _ | memberInvited ctx .. | memberEnter ctx ..
  | groupDismissed ctx _ | groupMemberMuted ctx .. | groupMemberCancelMuted ctx ..
  | groupMuted ctx _ | groupCancelMuted ctx _ | groupMemberInfoSet ctx ..
  | groupMemberSetToAdmin ctx .. | memberEnterDirectly ctx .. => ctx

/-- The group the call is about. -/
def groupID : SenderCall → String
  | groupCreated _ group .. | groupInfoSet _ group .. => group.groupID
  | joinGroupApplication _ req => req.groupID
  | memberQuit _ req => req.groupID
  | groupApplicationAccepted _ req | groupApplicationRejected _ req => req.groupID
  | groupOwnerTransferred _ req => req.groupID
  | memberKicked _ req => req.groupID
  | groupDismissed _ req => req.groupID
  | memberInvited _ groupID _ | memberEnter _ groupID _ | groupMemberMuted _ groupID ..
  | groupMemberCancelMuted _ groupID _ | groupMuted _ groupID | groupCancelMuted _ groupID
  | groupMemberInfoSet _ groupID _ | groupMemberSetToAdmin _ groupID .. |
    memberEnterDirectly _ groupID _ => groupID

/-- The handler the call runs, on the log of the messages sent so far. -/
def run (k : Constant) (g : GroupNotificationSender) (notify : Nat → Option Err) :
    SenderCall → List NotificationMsg → GoRun (Except Err Unit × List NotificationMsg)
  | groupCreated ctx group members userMap, log =>
    groupCreatedNotification k g notify ctx group members userMap log
  | groupInfoSet ctx group members needVerification, log =>
    groupInfoSetNotification k g notify ctx group members needVerification log
  | joinGroupApplication ctx req, log =>
    pure (joinGroupApplicationNotification k g notify ctx req log)
  | memberQuit ctx req, log => pure (memberQuitNotification k g notify ctx req log)
  | groupApplicationAccepted ctx req, log =>
    pure (groupApplicationAcceptedNotification k g notify ctx req log)
  | groupApplicationRejected ctx req, log =>
    pure (groupApplicationRejectedNotification k g notify ctx req log)
  | groupOwnerTransferred ctx req, log =>
    pure (groupOwnerTransferredNotification k g notify ctx req log)
  | memberKicked ctx req, log => pure (memberKickedNotification k g notify ctx req log)
  | memberInvited ctx groupID invitedUserIDList, log =>
    pure (memberInvitedNotification k g notify ctx groupID invitedUserIDList log)
  | memberEnter ctx groupID fromUserID, log =>
    pure (memberEnterNotification k g notify ctx groupID fromUserID log)
  | groupDismissed ctx req, log => pure (groupDismissedNotification k g notify ctx req log)
  | groupMemberMuted ctx groupID groupMemberUserID mutedSeconds, log =>
    pure (groupMemberMutedNotification k g notify ctx groupID groupMemberUserID mutedSeconds log)
  | groupMemberCancelMuted ctx groupID groupMemberUserID, log =>
    pure (groupMemberCancelMutedNotification k g notify ctx groupID groupMemberUserID log)
  | groupMuted ctx groupID, log => pure (groupMutedNotification k g notify ctx groupID log)
  | groupCancelMuted ctx groupID, log =>
    pure (groupCancelMutedNotification k g notify ctx groupID log)
  | groupMemberInfoSet ctx groupID groupMemberUserID, log =>
    pure (groupMemberInfoSetNotification k g notify ctx groupID groupMemberUserID log)
  | groupMemberSetToAdmin ctx groupID groupMemberUserID notificationType, log =>
    pure (groupMemberSetToAdminNotification k g notify ctx groupID groupMemberUserID
      notificationType log)
  | memberEnterDirectly ctx groupID entrantUserID, log =>
    pure (memberEnterDirectlyNotification k g notify ctx groupID entrantUserID log)

end SenderCall

/-- A run of calls: the log after each call, a panicking call sending nothing. -/
def runSender (k : Constant) (g : GroupNotificationSender) (notify : Nat → Option Err) :
    List SenderCall → List NotificationMsg → List NotificationMsg
  | [], log => log
  | call :: calls, log =>
    match call.run k g notify log with
    | .ret (_, log') => runSender k g notify calls log'
    | .nilDeref => runSender k g notify calls log

/-- The receivers a call may address: the group as a whole (the empty
receiver ID), its operator, and the owners and admins the store holds for its
group. -/
def SenderCall.receivers (k : Constant) (g : GroupNotificationSender) (call : SenderCall) :
    List String :=
  "" :: call.ctx.opUserID :: ownerAndAdminUserIDs k g call.groupID

/-- The log grew by messages from `sendID` to receivers among `recvIDs`. -/
def Appends (log log' : List NotificationMsg) (sendID : String) (recvIDs : List String) :
    Prop :=
  ∃ sent, log' = log ++ sent ∧ ∀ msg ∈ sent, msg.sendID = sendID ∧ msg.recvID ∈ recvIDs

/-! ## One call -/

section

variable {log log' : List NotificationMsg} {sendID : String} {recvIDs : List String}

theorem Appends.refl (log : List NotificationMsg) (sendID : String) (recvIDs : List String) :
    Appends log log sendID recvIDs :=
  ⟨[], by simp, by simp⟩

theorem Appends.mono {recvIDs' : List String} (h : Appends log log' sendID recvIDs)
    (hsub : ∀ u ∈ recvIDs, u ∈ recvIDs') : Appends log log' sendID recvIDs' :=
  let ⟨sent, hs, hmsg⟩ := h
  ⟨sent, hs, fun msg hm => ⟨(hmsg msg hm).1, hsub _ (hmsg msg hm).2⟩⟩

/-- A log extended by messages from `sendID` to each of `userIDs`. -/
theorem appends_map (log : List NotificationMsg) (sendID : String) (userIDs : List String)
    (f : String → NotificationMsg) (hf : ∀ u, (f u).sendID = sendID ∧ (f u).recvID = u) :
    Appends log (log ++ userIDs.map f) sendID userIDs :=
  ⟨_, rfl, fun msg hm => by
    obtain ⟨u, hu, rfl⟩ := List.mem_map.mp hm
    exact ⟨(hf u).1, by rw [(hf u).2]; exact hu⟩⟩

theorem appends_of_pure {x : Except Err Unit × List NotificationMsg}
    {r : Except Err Unit} (h : (pure x : GoRun _) = .ret (r, log'))
    (hx : Appends log x.2 sendID recvIDs) : Appends log log' sendID recvIDs := by
  cases h
  exact hx

end

section

variable (k : Constant) (g : GroupNotificationSender) (notify : Nat → Option Err)
  {log log' : List NotificationMsg} {r : Except Err Unit}

theorem notifyGroup_appends {α : Type} {ctx : Ctx} {groupID : String} {lookup : Except Err α}
    {contentType : Int} {mkTips : GroupInfo → α → Tips}
    (h : notifyGroup k g notify ctx groupID lookup contentType mkTips log = (r, log')) :
    Appends log log' ctx.opUserID [""] := by
  obtain ⟨sent, hs, -, hmsg⟩ :=
    notifyGroup_sent k g notify ctx groupID lookup contentType mkTips log
  rw [h] at hs
  exact ⟨sent, hs, fun msg hm => ⟨(hmsg msg hm).1, by simp [(hmsg msg hm).2.1]⟩⟩

/-- A handler built on `mergeGroupFull` sends at most one message, to the group. -/
theorem mergeThenSend_appends {tips : GroupCreatedTips → Tips} {contentType : Int} {ctx : Ctx}
    {merged : GoRun (Except Err GroupCreatedTips)}
    (h : (do
        match ← merged with
        | .error err => pure (.error err, log)
        | .ok groupInfo =>
          pure (sendGroupNotification notify contentType (tips groupInfo) ctx.opUserID log) :
        GoRun (Except Err Unit × List NotificationMsg)) = .ret (r, log')) :
    Appends log log' ctx.opUserID [""] := by
  obtain ⟨res, -, h⟩ := GoRun.bind_eq_ret.mp h
  cases res with
  | error err =>
    cases (GoRun.ret.inj h : (_, _) = (r, log'))
    exact Appends.refl _ _ _
  | ok groupInfo =>
    have h := congrArg Prod.snd (GoRun.ret.inj h)
    rw [sendGroupNotification_eq] at h
    exact ⟨_, h.symm, by simp⟩

theorem joinGroupApplicationNotification_appends (ctx : Ctx) (req : JoinGroupReq) :
    Appends log (joinGroupApplicationNotification k g notify ctx req log).2 ctx.opUserID
      (ownerAndAdminUserIDs k g req.groupID) := by
  rw [joinGroupApplicationNotification_log]
  split
  · next hids =>
    rw [← getGroupOwnerAndAdminUserID_eq_ok hids]
    exact appends_map _ _ _ _ fun _ => ⟨rfl, rfl⟩
  · exact Appends.refl _ _ _

/-- The fail-fast loop sends to a leading part of its recipients. -/
theorem notifyFailFast_appends {contentType : Int} {tips : Tips} {sendID : String}
    {userIDs : List String} {r : Option Err}
    (h : notifyFailFast notify contentType tips sendID userIDs log = (r, log')) :
    Appends log log' sendID userIDs := by
  obtain ⟨n, hn⟩ := notifyFailFast_prefix notify contentType tips sendID userIDs log
  rw [h] at hn
  dsimp only at hn
  rw [hn]
  refine (appends_map log sendID (userIDs.take n) _ ?_).mono fun u hu => List.mem_of_mem_take hu
  exact fun _ => ⟨rfl, rfl⟩

theorem memberQuitNotification_appends (ctx : Ctx) (req : QuitGroupReq) :
    Appends log (memberQuitNotification k g notify ctx req log).2 ctx.opUserID
      (ownerAndAdminUserIDs k g req.groupID ++ [ctx.opUserID]) := by
  unfold memberQuitNotification
  split
  · exact Appends.refl _ _ _
  split
  · exact Appends.refl _ _ _
  split
  · exact Appends.refl _ _ _
  · next hids =>
    rw [getGroupOwnerAndAdminUserID_eq_ok hids]
    dsimp only
    split <;> (rename_i h; exact notifyFailFast_appends notify h)

theorem applicationResponseNotification_appends (contentType : Int)
    (mkTips : GroupInfo → GroupMemberFullInfo → String → Tips) (ctx : Ctx)
    (req : GroupApplicationResponseReq) :
    Appends log (applicationResponseNotification k g notify contentType mkTips ctx req log).2
      ctx.opUserID (ownerAndAdminUserIDs k g req.groupID ++ [ctx.opUserID]) := by
  rw [applicationResponseNotification_log]
  split
  · next hids =>
    rw [← getGroupOwnerAndAdminUserID_eq_ok hids]
    exact appends_map _ _ _ _ fun _ => ⟨rfl, rfl⟩
  · exact Appends.refl _ _ _

/-- **One call.** Every handler appends to the log only messages from its
operator to one of its receivers. -/
theorem SenderCall.run_appends (call : SenderCall) (h : call.run k g notify log = .ret (r, log')) :
    Appends log log' call.ctx.opUserID (call.receivers k g) := by
  -- the handlers that notify the group as a whole
  have toGroup : Appends log log' call.ctx.opUserID [""] → Appends log log' call.ctx.opUserID
      (call.receivers k g) := fun ha => ha.mono fun _ hu =>
    (List.singleton_sublist.mpr (List.mem_cons_self _ _)).subset hu
  -- the handlers that notify the owners and admins, and the operator
  have toStaff : Appends log log' call.ctx.opUserID
      (ownerAndAdminUserIDs k g call.groupID ++ [call.ctx.opUserID]) →
      Appends log log' call.ctx.opUserID (call.receivers k g) := fun ha => ha.mono fun _ hu =>
    List.mem_cons_of_mem _ ((List.perm_append_singleton _ _).subset hu)
  cases call with
  | groupCreated ctx group members userMap => exact toGroup (mergeThenSend_appends notify h)
  | groupInfoSet ctx group members needVerification =>
    exact toGroup (mergeThenSend_appends notify h)
  | joinGroupApplication ctx req =>
    exact toStaff (appends_of_pure h ((joinGroupApplicationNotification_appends k g notify ctx
      req).mono fun u hu => List.mem_append_left _ hu))
  | memberQuit ctx req =>
    exact toStaff (appends_of_pure h (memberQuitNotification_appends k g notify ctx req))
  | groupApplicationAccepted ctx req | groupApplicationRejected ctx req =>
    exact toStaff (appends_of_pure h (applicationResponseNotification_appends k g notify _ _ ctx
      req))
  | groupOwnerTransferred | memberKicked | memberInvited | memberEnter | groupDismissed
  | groupMemberMuted | groupMemberCancelMuted | groupMuted | groupCancelMuted
  | groupMemberInfoSet | groupMemberSetToAdmin | memberEnterDirectly =>
    exact toGroup (notifyGroup_appends k g notify (GoRun.ret.inj h))

end

/-! ## Whole runs -/

section

variable (k : Constant) (g : GroupNotificationSender) (notify : Nat → Option Err)

/-- What each call's messages satisfy, the messages of a whole run satisfy,
each for a call of the run. -/
theorem runSender_sent (P : SenderCall → NotificationMsg → Prop)
    (hstep : ∀ call log r log', call.run k g notify log = .ret (r, log') →
      ∃ sent, log' = log ++ sent ∧ ∀ msg ∈ sent, P call msg)
    (calls : List SenderCall) (log : List NotificationMsg) :
    ∃ sent, runSender k g notify calls log = log ++ sent ∧
      ∀ msg ∈ sent, ∃ call ∈ calls, P call msg := by
  induction calls generalizing log with
  | nil => exact ⟨[], by simp [runSender], by simp⟩
  | cons call calls ih =>
    -- the messages of the first call, then those of the rest
    have step : ∃ log', runSender k g notify (call :: calls) log =
        runSender k g notify calls log' ∧
          ∃ first, log' = log ++ first ∧ ∀ msg ∈ first, P call msg := by
      simp only [runSender]
      split
      · next r log' h => exact ⟨log', rfl, hstep call log r log' h⟩
      · exact ⟨log, rfl, [], by simp, by simp⟩
    obtain ⟨log', hrun, first, hfirst, hmsg⟩ := step
    obtain ⟨rest, hrest, hmsgs⟩ := ih log'
    refine ⟨first ++ rest, by rw [hrun, hrest, hfirst, List.append_assoc], fun msg hm => ?_⟩
    rcases List.mem_append.mp hm with hm | hm
    · exact ⟨call, List.mem_cons_self _ _, hmsg msg hm⟩
    · obtain ⟨c, hc, hc'⟩ := hmsgs msg hm
      exact ⟨c, List.mem_cons_of_mem _ hc, hc'⟩

end

/-- **Whom the sender notifies.** For every store, user service and pattern of
`Notification` failures, and every sequence of handler calls, each message the
run sends is from the operator of one of the calls, to the group as a whole, to
that operator, or to an owner or admin of that call's group: no member is ever
notified on their own for being a member. -/
theorem runSender_addressed (k : Constant) (g : GroupNotificationSender)
    (notify : Nat → Option Err) (calls : List SenderCall) (log : List NotificationMsg) :
    ∃ sent, runSender k g notify calls log = log ++ sent ∧
      ∀ msg ∈ sent, ∃ call ∈ calls,
        msg.sendID = call.ctx.opUserID ∧ msg.recvID ∈ call.receivers k g :=
  runSender_sent k g notify
    (fun call msg => msg.sendID = call.ctx.opUserID ∧ msg.recvID ∈ call.receivers k g)
    (fun call _ _ _ h => call.run_appends k g notify h) calls log

end OpenIMServer.Notification

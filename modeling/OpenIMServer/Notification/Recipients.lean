import OpenIMServer.Notification.MergeGroupFull

/-!
# Who the application and quit notifications reach

`MemberQuitNotification`, `GroupApplicationAcceptedNotification` and
`GroupApplicationRejectedNotification` read the group, the operator and the
owners and admins, and then send one message to each user of
`append(getGroupOwnerAndAdminUserID(groupID), opUserID)`: the application
handlers whatever `Notification` answers, the quit handler up to its first
failed call. The store lists each member once, so the owners and admins are
distinct; nothing removes the operator from them. An operator who is an owner
or an admin (the usual one for an application's answer) therefore receives the
tips twice in one call.
-/

namespace OpenIMServer.Notification

/-! ## The loops -/

theorem notifyEach_eq (notify : Nat → Option Err) (contentType : Int) (tips : Tips)
    (sendID : String) (userIDs : List String) (log : List NotificationMsg) :
    notifyEach notify contentType tips sendID userIDs log =
      log ++ userIDs.map fun userID =>
        { sendID := sendID, recvID := userID, contentType := contentType, content := tips } := by
  induction userIDs generalizing log with
  | nil => simp [notifyEach]
  | cons userID userIDs ih => simp [notifyEach, groupNotification, ih]

/-- The fail-fast loop sends to a prefix of its recipients. -/
theorem notifyFailFast_prefix (notify : Nat → Option Err) (contentType : Int) (tips : Tips)
    (sendID : String) (userIDs : List String) (log : List NotificationMsg) :
    ∃ n, (notifyFailFast notify contentType tips sendID userIDs log).2 =
      log ++ (userIDs.take n).map fun userID =>
        { sendID := sendID, recvID := userID, contentType := contentType, content := tips } := by
  induction userIDs generalizing log with
  | nil => exact ⟨0, by simp [notifyFailFast]⟩
  | cons userID userIDs ih =>
    cases h : notify log.length with
    | some err => exact ⟨1, by simp [notifyFailFast, groupNotification, h]⟩
    | none =>
      obtain ⟨n, hn⟩ := ih (log ++ [{ sendID := sendID, recvID := userID
                                      contentType := contentType, content := tips }])
      exact ⟨n + 1, by simp [notifyFailFast, groupNotification, h, hn]⟩

/-- With no failing call, the fail-fast loop sends to every recipient and ends
without error. -/
theorem notifyFailFast_ok (notify : Nat → Option Err) (contentType : Int) (tips : Tips)
    (sendID : String) (userIDs : List String) (log : List NotificationMsg)
    (h : ∀ i < userIDs.length, notify (log.length + i) = none) :
    notifyFailFast notify contentType tips sendID userIDs log =
      (none, log ++ userIDs.map fun userID =>
        { sendID := sendID, recvID := userID, contentType := contentType, content := tips }) := by
  induction userIDs generalizing log with
  | nil => simp [notifyFailFast]
  | cons userID userIDs ih =>
    have h0 : notify log.length = none := by simpa using h 0 (by simp)
    simp only [notifyFailFast, groupNotification, h0]
    rw [ih _ fun i hi => by
      simpa [Nat.add_assoc, Nat.add_comm 1] using h (i + 1) (by simpa using hi)]
    simp

/-- The fail-fast loop stops at the first failing call `i`, after sending to the
first `i + 1` recipients, with that call's error. -/
theorem notifyFailFast_error (notify : Nat → Option Err) (contentType : Int) (tips : Tips)
    (sendID : String) (userIDs : List String) (log : List NotificationMsg) (i : Nat) (err : Err)
    (hi : i < userIDs.length) (he : notify (log.length + i) = some err)
    (hbefore : ∀ j < i, notify (log.length + j) = none) :
    notifyFailFast notify contentType tips sendID userIDs log =
      (some err, log ++ (userIDs.take (i + 1)).map fun userID =>
        { sendID := sendID, recvID := userID, contentType := contentType, content := tips }) := by
  induction userIDs generalizing log i with
  | nil => simp at hi
  | cons userID userIDs ih =>
    cases i with
    | zero => simp_all [notifyFailFast, groupNotification]
    | succ i =>
      have h0 : notify log.length = none := by simpa using hbefore 0 (by omega)
      simp only [notifyFailFast, groupNotification, h0]
      rw [ih _ i (by simpa using hi) (by simpa [Nat.add_assoc, Nat.add_comm 1] using he)
        fun j hj => by simpa [Nat.add_assoc, Nat.add_comm 1] using hbefore (j + 1) (by omega)]
      simp

/-! ## The recipients -/

/-- The user IDs of a group's owner and admin rows in the store. -/
def ownerAndAdminUserIDs (k : Constant) (g : GroupNotificationSender) (groupID : String) :
    List String :=
  (g.db.groupMemberRows [groupID] [] [k.groupOwner, k.groupAdmin]).map (·.userID)

/-- `getGroupOwnerAndAdminUserID` answers, unless its read fails, the group's
owner and admin rows. -/
theorem getGroupOwnerAndAdminUserID_eq_ok {k : Constant} {g : GroupNotificationSender}
    {groupID : String} {userIDs : List String}
    (h : getGroupOwnerAndAdminUserID k g groupID = .ok userIDs) :
    userIDs = ownerAndAdminUserIDs k g groupID := by
  unfold getGroupOwnerAndAdminUserID at h
  cases hrows : g.db.findGroupMember [groupID] [] [k.groupOwner, k.groupAdmin] with
  | error err => simp [hrows, Except.map] at h
  | ok rows =>
    simp only [hrows, Except.map, Except.ok.injEq] at h
    rw [← h, GroupDatabase.findGroupMember_eq_ok hrows, ownerAndAdminUserIDs]

/-- The owners and admins the store lists are distinct users. -/
theorem getGroupOwnerAndAdminUserID_nodup {k : Constant} {g : GroupNotificationSender}
    {groupID : String} {userIDs : List String}
    (h : getGroupOwnerAndAdminUserID k g groupID = .ok userIDs) : userIDs.Nodup :=
  getGroupOwnerAndAdminUserID_eq_ok h ▸ g.db.groupMemberRows_userIDs_nodup groupID [] _

/-- **Who an application answer reaches.** Once the group, the operator's
member record and the owners and admins are read, the handler sends the tips to
every owner and admin and then to the operator, whatever `Notification`
answers; a failed read sends nothing. -/
theorem applicationResponseNotification_log (k : Constant) (g : GroupNotificationSender)
    (notify : Nat → Option Err) (contentType : Int)
    (mkTips : GroupInfo → GroupMemberFullInfo → String → Tips) (ctx : Ctx)
    (req : GroupApplicationResponseReq) (log : List NotificationMsg) :
    (applicationResponseNotification k g notify contentType mkTips ctx req log).2 =
      match getGroupInfo k g req.groupID, getGroupMember k g req.groupID ctx.opUserID,
          getGroupOwnerAndAdminUserID k g req.groupID with
      | .ok group, .ok user, .ok userIDs =>
        log ++ (userIDs ++ [ctx.opUserID]).map fun userID =>
          { sendID := ctx.opUserID, recvID := userID, contentType := contentType
            content := mkTips group user req.handledMsg }
      | _, _, _ => log := by
  unfold applicationResponseNotification
  cases getGroupInfo k g req.groupID <;> cases getGroupMember k g req.groupID ctx.opUserID <;>
    cases getGroupOwnerAndAdminUserID k g req.groupID <;> simp [notifyEach_eq]

/-- Group `g` with owner `o`, admin `a` and ordinary member `u`; every user is
an ordinary app user. -/
def withAdmin : GroupNotificationSender :=
  { db := { groups := [groupG]
            members := [memberOf "o" 100, memberOf "a" 60, memberOf "u" 20]
            members_unique := by decide }
    getUsersInfo := fun userIDs => .ok (userIDs.map ordinaryUser) }

/-- **An operator who is an owner or admin gets the answer twice.** Once the
handler's three reads answer, an operator among the owners and admins the
store lists receives two more messages, whatever `Notification` answers. -/
theorem applicationResponseNotification_operator_count (k : Constant)
    (g : GroupNotificationSender) (notify : Nat → Option Err) (contentType : Int)
    (mkTips : GroupInfo → GroupMemberFullInfo → String → Tips) (ctx : Ctx)
    (req : GroupApplicationResponseReq) (log : List NotificationMsg) (group : GroupInfo)
    (user : GroupMemberFullInfo) (userIDs : List String)
    (hgroup : getGroupInfo k g req.groupID = .ok group)
    (huser : getGroupMember k g req.groupID ctx.opUserID = .ok user)
    (hids : getGroupOwnerAndAdminUserID k g req.groupID = .ok userIDs)
    (hop : ctx.opUserID ∈ userIDs) :
    ((applicationResponseNotification k g notify contentType mkTips ctx req log).2.map
        (·.recvID)).count ctx.opUserID = (log.map (·.recvID)).count ctx.opUserID + 2 := by
  rw [applicationResponseNotification_log, hgroup, huser, hids]
  have hone : userIDs.count ctx.opUserID = 1 :=
    List.count_eq_one_of_mem (getGroupOwnerAndAdminUserID_nodup hids) hop
  simp [List.count_append, Function.comp_def, hone]

/-- The owner `o` accepting an application in `withAdmin`. -/
theorem applicationResponseNotification_operator_count_owner :
    getGroupInfo Constant.openIM withAdmin "g" = .ok (groupDB2PB groupG "o" 3) ∧
    getGroupMember Constant.openIM withAdmin "g" "o" =
      .ok (groupMemberDB2PB { memberOf "o" 100 with nickname := "o" } 1) ∧
    getGroupOwnerAndAdminUserID Constant.openIM withAdmin "g" = .ok ["o", "a"] ∧ "o" ∈ ["o", "a"] ∧
    ((applicationResponseNotification Constant.openIM withAdmin (fun _ => none)
        Constant.openIM.groupApplicationAcceptedNotification
        (fun group user handleMsg => .groupApplicationAccepted group user handleMsg 1) ⟨"o"⟩
        ⟨"g", "ok"⟩ []).2.map (·.recvID)).count "o" =
      (([] : List NotificationMsg).map (·.recvID)).count "o" + 2 :=
  have hgroup : getGroupInfo Constant.openIM withAdmin "g" = .ok (groupDB2PB groupG "o" 3) := rfl
  have huser : getGroupMember Constant.openIM withAdmin "g" "o" =
      .ok (groupMemberDB2PB { memberOf "o" 100 with nickname := "o" } 1) := rfl
  have hids : getGroupOwnerAndAdminUserID Constant.openIM withAdmin "g" = .ok ["o", "a"] := rfl
  have hop : "o" ∈ ["o", "a"] := by decide
  ⟨hgroup, huser, hids, hop, applicationResponseNotification_operator_count Constant.openIM
    withAdmin (fun _ => none) _ _ ⟨"o"⟩ ⟨"g", "ok"⟩ [] _ _ _ hgroup huser hids hop⟩

/-- **The quit notification stops at the first failed call.** Once the group,
the operator's user record and the owners and admins are read, the handler
sends to the owners and admins and then to the operator, in order: to all of
them, answering with no error, when no `Notification` call fails; otherwise up
to and including the first failed call, answering with its error. -/
theorem memberQuitNotification_recipients (k : Constant) (g : GroupNotificationSender)
    (notify : Nat → Option Err) (ctx : Ctx) (req : QuitGroupReq) (log : List NotificationMsg)
    (group : GroupInfo) (user : PublicUserInfo) (userIDs : List String)
    (hgroup : getGroupInfo k g req.groupID = .ok group) (huser : getUser g ctx.opUserID = .ok user)
    (hids : getGroupOwnerAndAdminUserID k g req.groupID = .ok userIDs) :
    ((∀ i < userIDs.length + 1, notify (log.length + i) = none) →
      ∃ sent, memberQuitNotification k g notify ctx req log = (.ok (), log ++ sent) ∧
        sent.map (·.recvID) = userIDs ++ [ctx.opUserID]) ∧
    (∀ i err, i < userIDs.length + 1 → notify (log.length + i) = some err →
      (∀ j < i, notify (log.length + j) = none) →
      ∃ sent, memberQuitNotification k g notify ctx req log = (.error err, log ++ sent) ∧
        sent.map (·.recvID) = (userIDs ++ [ctx.opUserID]).take (i + 1)) := by
  simp only [memberQuitNotification, hgroup, huser, hids]
  refine ⟨fun h => ?_, fun i err hi he hbefore => ?_⟩
  · rw [notifyFailFast_ok _ _ _ _ _ _ (by simpa using h)]
    exact ⟨_, rfl, by simp [Function.comp_def]⟩
  · rw [notifyFailFast_error _ _ _ _ _ _ i err (by simpa using hi) he hbefore]
    exact ⟨_, rfl, by simp [Function.comp_def, List.map_take]⟩

/-- A `Notification` whose second call fails. -/
def secondCallFails (n : Nat) : Option Err :=
  if n = 1 then some (.other "unavailable") else none

/-- The admin `a` of `withAdmin` leaves the group while the second call fails:
the loop calls for the owner `o` and for `a` as an admin, whose call fails, and
makes no call for `a` as the operator. -/
theorem memberQuitNotification_recipients_second_fails :
    getGroupInfo Constant.openIM withAdmin "g" = .ok (groupDB2PB groupG "o" 3) ∧
    getUser withAdmin "a" = .ok ⟨"a", "a", "", ""⟩ ∧
    getGroupOwnerAndAdminUserID Constant.openIM withAdmin "g" = .ok ["o", "a"] ∧
    ((∀ i < ["o", "a"].length + 1,
        secondCallFails (([] : List NotificationMsg).length + i) = none) →
      ∃ sent, memberQuitNotification Constant.openIM withAdmin secondCallFails ⟨"a"⟩ ⟨"g"⟩ [] =
          (.ok (), [] ++ sent) ∧ sent.map (·.recvID) = ["o", "a"] ++ ["a"]) ∧
    (∀ i err, i < ["o", "a"].length + 1 →
      secondCallFails (([] : List NotificationMsg).length + i) = some err →
      (∀ j < i, secondCallFails (([] : List NotificationMsg).length + j) = none) →
      ∃ sent, memberQuitNotification Constant.openIM withAdmin secondCallFails ⟨"a"⟩ ⟨"g"⟩ [] =
          (.error err, [] ++ sent) ∧
        sent.map (·.recvID) = (["o", "a"] ++ ["a"]).take (i + 1)) :=
  have hgroup : getGroupInfo Constant.openIM withAdmin "g" = .ok (groupDB2PB groupG "o" 3) := rfl
  have huser : getUser withAdmin "a" = .ok ⟨"a", "a", "", ""⟩ := rfl
  have hids : getGroupOwnerAndAdminUserID Constant.openIM withAdmin "g" = .ok ["o", "a"] := rfl
  ⟨hgroup, huser, hids, memberQuitNotification_recipients Constant.openIM withAdmin
    secondCallFails ⟨"a"⟩ ⟨"g"⟩ [] _ _ _ hgroup huser hids⟩

/-- The owner `o` answering an application is notified twice, and so is the
admin `a` leaving the group. -/
theorem operator_notified_twice :
    (groupApplicationAcceptedNotification Constant.openIM withAdmin (fun _ => none) ⟨"o"⟩
        ⟨"g", "ok"⟩ []).2.map (·.recvID) = ["o", "a", "o"] ∧
    (groupApplicationRejectedNotification Constant.openIM withAdmin (fun _ => none) ⟨"o"⟩
        ⟨"g", "no"⟩ []).2.map (·.recvID) = ["o", "a", "o"] ∧
    (memberQuitNotification Constant.openIM withAdmin (fun _ => none) ⟨"a"⟩ ⟨"g"⟩ []).2.map
        (·.recvID) = ["o", "a", "a"] :=
  ⟨rfl, rfl, rfl⟩

end OpenIMServer.Notification

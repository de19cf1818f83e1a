import OpenIMServer.Notification.Group

/-!
# Whom getGroupMembers returns

`getGroupMembers(groupID, userIDs)` asks the store for the requested rows of the
group with role levels `[GroupOwner]`, so a requested member of any other level
never comes back from the store; it comes back only through the second loop,
as a bare entry, when its user record has level `AppAdmin`.
`getGroupMembers_userIDs` states the whole answer for every store and user
service, failing reads included: the requested owners, then the requested users
left in the map whose level is `AppAdmin`. `getGroupMember`, used for the
operator and the entrant of most notifications, inherits it. No user comes
back twice (`getGroupMembers_nodup`), which `getGroupMemberMap` relies on.
-/

namespace OpenIMServer.Notification

/-! ## The two loops -/

theorem addGroupMembers_userIDs (members : List GroupMemberModel)
    (res : List GroupMemberFullInfo) (users : GoMap UserInfo) :
    (addGroupMembers members res users).1.map (·.userID) =
      res.map (·.userID) ++ members.map (·.userID) := by
  induction members generalizing res users with
  | nil => simp [addGroupMembers]
  | cons member members ih =>
    cases h : users.get member.userID <;> simp [addGroupMembers, h, ih, groupMemberDB2PB]

/-- The first loop deletes exactly the members' user IDs from the map. -/
theorem addGroupMembers_users (members : List GroupMemberModel)
    (res : List GroupMemberFullInfo) (users : GoMap UserInfo) :
    (addGroupMembers members res users).2.entries =
      users.entries.filter fun e => !(members.map (·.userID)).contains e.1 := by
  induction members generalizing res users with
  | nil => simp [addGroupMembers]
  | cons member members ih =>
    cases h : users.get member.userID <;>
      simp [addGroupMembers, h, ih, GoMap.delete, Bool.and_comm]

theorem addAppAdmins_userIDs (k : Constant) (groupID : String)
    (entries : List (String × UserInfo)) (res : List GroupMemberFullInfo) :
    (addAppAdmins k groupID entries res).map (·.userID) =
      res.map (·.userID) ++
        (entries.filter fun e => e.2.appMangerLevel = k.appAdmin).map (·.1) := by
  induction entries generalizing res with
  | nil => simp [addAppAdmins]
  | cons e entries ih =>
    obtain ⟨userID, info⟩ := e
    by_cases h : info.appMangerLevel = k.appAdmin <;> simp [addAppAdmins, h, ih]

/-- **Whom `getGroupMembers` returns.** For every store and user service: when
both reads answer, the requested owners of the group, in store order, then every
user of the service's answer that is not one of them and has level `AppAdmin`;
otherwise the error of the first read that failed. A requested member of any
other role level is absent unless it is an app admin. -/
theorem getGroupMembers_userIDs (k : Constant) (g : GroupNotificationSender)
    (groupID : String) (userIDs : List String) :
    (getGroupMembers k g groupID userIDs).map (·.map (·.userID)) =
      (g.db.findGroupMember [groupID] userIDs [k.groupOwner]).bind fun members =>
        (getUsersInfoMap g userIDs).map fun users =>
          members.map (·.userID) ++
            (users.entries.filter fun e =>
              !(members.map (·.userID)).contains e.1 && e.2.appMangerLevel = k.appAdmin).map
              (·.1) := by
  unfold getGroupMembers
  cases g.db.findGroupMember [groupID] userIDs [k.groupOwner] with
  | error err => rfl
  | ok members =>
    cases getUsersInfoMap g userIDs with
    | error err => rfl
    | ok users =>
      simp [Except.map, Except.bind, addAppAdmins_userIDs, addGroupMembers_userIDs,
        addGroupMembers_users, List.filter_filter, Bool.and_comm]

/-! ## An ordinary member is not found -/

/-- A group record. -/
def groupG : GroupModel :=
  { groupID := "g", groupName := "group", notification := "", introduction := ""
    faceURL := "", createTime := 0, ex := "", status := 0, creatorUserID := "o"
    groupType := 2, needVerification := 0, lookMemberInfo := 0, applyMemberFriend := 0
    notificationUpdateTime := 0, notificationUserID := "" }

/-- A member row of group `g`. -/
def memberOf (userID : String) (roleLevel : Int) : GroupMemberModel :=
  { groupID := "g", userID := userID, nickname := "", faceURL := "", roleLevel := roleLevel
    joinTime := 0, joinSource := 0, inviterUserID := "", operatorUserID := ""
    muteEndTime := 0, ex := "" }

/-- A user record of level `1`, an ordinary app user. -/
def ordinaryUser (userID : String) : UserInfo :=
  { userID := userID, nickname := userID, faceURL := "", ex := "", appMangerLevel := 1 }

/-- Group `g` with owner `o` and member `u` of level 20 (an ordinary member);
the user service knows every user as an ordinary app user. -/
def ownerAndMember : GroupNotificationSender :=
  { db := { groups := [groupG], members := [memberOf "o" 100, memberOf "u" 20]
            members_unique := by decide }
    getUsersInfo := fun userIDs => .ok (userIDs.map ordinaryUser) }

/-- The ordinary member `u` is not returned, so `getGroupMember` fails for it. -/
theorem getGroupMember_misses_ordinary_member :
    getGroupMembers Constant.openIM ownerAndMember "g" ["u"] = .ok [] ∧
      getGroupMember Constant.openIM ownerAndMember "g" "u" =
        .error (.code .internalServer "group g member u not found") :=
  ⟨rfl, rfl⟩

/-- **`getGroupMembers` names each user once.** For every store and user
service, the members it returns have distinct user IDs: the rows of one group
are distinct, the keys of the user map are distinct, and the first loop deletes
each row's user from the map before the second reads it. -/
theorem getGroupMembers_nodup (k : Constant) (g : GroupNotificationSender) (groupID : String)
    (userIDs : List String) {members : List GroupMemberFullInfo}
    (h : getGroupMembers k g groupID userIDs = .ok members) : (members.map (·.userID)).Nodup := by
  have hids := getGroupMembers_userIDs k g groupID userIDs
  rw [h] at hids
  cases hrows : g.db.findGroupMember [groupID] userIDs [k.groupOwner] with
  | error err => simp [hrows, Except.map, Except.bind] at hids
  | ok rows =>
    cases hu : getUsersInfoMap g userIDs with
    | error err => simp [hrows, hu, Except.map, Except.bind] at hids
    | ok users =>
      simp only [hrows, hu, Except.bind, Except.map, Except.ok.injEq] at hids
      rw [hids, List.nodup_append, GroupDatabase.findGroupMember_eq_ok hrows]
      refine ⟨g.db.groupMemberRows_userIDs_nodup groupID userIDs _,
        users.keys_nodup.sublist ((List.filter_sublist _).map _), fun u hrow hadmin => ?_⟩
      -- an app admin of the second loop is no row of the first
      obtain ⟨e, he, rfl⟩ := List.mem_map.mp hadmin
      simpa [hrow] using (List.mem_filter.mp he).2

end OpenIMServer.Notification

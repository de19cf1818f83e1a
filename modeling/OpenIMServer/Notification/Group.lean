import OpenIMServer.Notification.GroupDatabase

/-!
# The group notification sender

`GroupNotificationSender` of `pkg/rpcclient/notification2/group.go`: the
tips it sends, the helpers that read the store and the user service,
`mergeGroupFull`, and the three handlers that notify the group's owners and
admins together with the operator (the other senders are in `Handlers`).
`msgClient.Notification` answers by call number, and a run threads the log of
the messages sent.

The log lines and `defer` hooks only log; `json.Marshal` of a tips message does
not fail; `groupNotification`'s `groupID` argument is not read by its body.
The `*ms = members` and `*users = userMap` write-backs of `mergeGroupFull` are
not read by any caller in `src/` and are not modelled.
-/

namespace OpenIMServer.Notification

/-- The sender's collaborators: the group store and `getUsersInfo`, whose
answers are `sdkws.UserInfo` records (the cast in `getUsersInfoMap`). -/
structure GroupNotificationSender where
  db : GroupDatabase
  getUsersInfo : List String → Except Err (List UserInfo)

/-- `sdkws.GroupCreatedTips`: the fields `mergeGroupFull` sets. -/
structure GroupCreatedTips where
  group : GroupInfo
  opUser : Option GroupMemberFullInfo
  groupOwnerUser : Option GroupMemberFullInfo
  deriving DecidableEq, Repr

/-- A tips message the handlers send; a field read from a map is `none` when
the map has no entry (a nil pointer). -/
inductive Tips where
  | groupCreated (tips : GroupCreatedTips)
  | groupInfoSet (group : GroupInfo) (opUser : Option GroupMemberFullInfo)
  | joinGroupApplication (group : GroupInfo) (applicant : PublicUserInfo) (reqMsg : String)
  | memberQuit (group : GroupInfo) (quitUser : GroupMemberFullInfo)
  | groupApplicationAccepted (group : GroupInfo) (opUser : GroupMemberFullInfo)
      (handleMsg : String) (receiverAs : Int)
  | groupApplicationRejected (group : GroupInfo) (opUser : GroupMemberFullInfo)
      (handleMsg : String)
  | groupOwnerTransferred (group : GroupInfo) (opUser newGroupOwner : Option GroupMemberFullInfo)
  | memberKicked (group : GroupInfo) (opUser : GroupMemberFullInfo)
  | memberInvited (group : GroupInfo) (opUser : GroupMemberFullInfo)
      (invitedUserList : List GroupMemberFullInfo)
  | memberEnter (group : GroupInfo) (entrantUser : GroupMemberFullInfo)
  | groupDismissed (group : GroupInfo) (opUser : GroupMemberFullInfo)
  | groupMemberMuted (group : GroupInfo) (mutedSeconds : Nat)
      (opUser mutedUser : Option GroupMemberFullInfo)
  | groupMemberCancelMuted (group : GroupInfo) (opUser mutedUser : Option GroupMemberFullInfo)
  | groupMuted (group : GroupInfo) (opUser : GroupMemberFullInfo)
  | groupCancelMuted (group : GroupInfo) (opUser : GroupMemberFullInfo)
  | groupMemberInfoSet (group : GroupInfo) (opUser changedUser : Option GroupMemberFullInfo)
  deriving DecidableEq, Repr

/-- `rpcclient.NotificationMsg`: the fields that vary between the calls. -/
structure NotificationMsg where
  sendID : String
  recvID : String
  contentType : Int
  content : Tips
  deriving DecidableEq, Repr

structure QuitGroupReq where
  groupID : String

structure GroupApplicationResponseReq where
  groupID : String
  handledMsg : String

/-! ## Helpers -/

def groupDB2PB (group : GroupModel) (ownerUserID : String) (memberCount : Nat) : GroupInfo :=
  { groupID := group.groupID, groupName := group.groupName
    notification := group.notification, introduction := group.introduction
    faceURL := group.faceURL, ownerUserID := ownerUserID, createTime := group.createTime
    memberCount := memberCount, ex := group.ex, status := group.status
    creatorUserID := group.creatorUserID, groupType := group.groupType
    needVerification := group.needVerification, lookMemberInfo := group.lookMemberInfo
    applyMemberFriend := group.applyMemberFriend
    notificationUpdateTime := group.notificationUpdateTime
    notificationUserID := group.notificationUserID }

def groupMemberDB2PB (member : GroupMemberModel) (appMangerLevel : Int) : GroupMemberFullInfo :=
  { groupID := member.groupID, userID := member.userID, roleLevel := member.roleLevel
    joinTime := member.joinTime, nickname := member.nickname, faceURL := member.faceURL
    appMangerLevel := appMangerLevel, joinSource := member.joinSource
    operatorUserID := member.operatorUserID, ex := member.ex
    muteEndTime := member.muteEndTime, inviterUserID := member.inviterUserID }

/-- The map `getUsersInfoMap` builds from the service's answer. -/
def usersMap (users : List UserInfo) : GoMap UserInfo :=
  users.foldl (fun m user => m.set user.userID user) GoMap.empty

def getUsersInfoMap (g : GroupNotificationSender) (userIDs : List String) :
    Except Err (GoMap UserInfo) :=
  (g.getUsersInfo userIDs).map usersMap

def getUser (g : GroupNotificationSender) (userID : String) : Except Err PublicUserInfo :=
  match g.getUsersInfo [userID] with
  | .error err => .error err
  | .ok [] => .error (.code .userIDNotFound ("user " ++ userID ++ " not found"))
  | .ok (user :: _) =>
    .ok { userID := user.userID, nickname := user.nickname, faceURL := user.faceURL
          ex := user.ex }

/-- `getGroupInfo`; its `GroupInfo` literal is `groupDB2PB`'s, field for field. -/
def getGroupInfo (k : Constant) (g : GroupNotificationSender) (groupID : String) :
    Except Err GroupInfo :=
  match g.db.takeGroup groupID with
  | .error err => .error err
  | .ok gm =>
    match g.db.findGroupMemberUserID groupID with
    | .error err => .error err
    | .ok userIDs =>
      match g.db.findGroupMember [groupID] [] [k.groupOwner] with
      | .error err => .error err
      | .ok [] => .error (.code .internalServer ("group " ++ groupID ++ " owner not found"))
      | .ok (owner :: _) => .ok (groupDB2PB gm owner.userID (uint32 userIDs.length))

/-- The first loop of `getGroupMembers`: each member found, completed from its
user record, whose entry is then deleted from `users`. -/
def addGroupMembers : List GroupMemberModel → List GroupMemberFullInfo → GoMap UserInfo →
    List GroupMemberFullInfo × GoMap UserInfo
  | [], res, users => (res, users)
  | member :: members, res, users =>
    let (member, appMangerLevel) :=
      match users.get member.userID with
      | some user =>
        ({ member with
            nickname := if member.nickname = "" then user.nickname else member.nickname
            faceURL := if member.faceURL = "" then user.faceURL else member.faceURL },
         user.appMangerLevel)
      | none => (member, 0)
    addGroupMembers members (res ++ [groupMemberDB2PB member appMangerLevel])
      (users.delete member.userID)

/-- The second loop of `getGroupMembers`: a user left in the map whose level is
`AppAdmin` gets a bare entry. -/
def addAppAdmins (k : Constant) (groupID : String) :
    List (String × UserInfo) → List GroupMemberFullInfo → List GroupMemberFullInfo
  | [], res => res
  | (userID, info) :: users, res =>
    if info.appMangerLevel = k.appAdmin then
      addAppAdmins k groupID users
        (res ++ [{ groupID := groupID, userID := userID, nickname := info.nickname
                   faceURL := info.faceURL, appMangerLevel := info.appMangerLevel }])
    else addAppAdmins k groupID users res

def getGroupMembers (k : Constant) (g : GroupNotificationSender) (groupID : String)
    (userIDs : List String) : Except Err (List GroupMemberFullInfo) :=
  match g.db.findGroupMember [groupID] userIDs [k.groupOwner] with
  | .error err => .error err
  | .ok members =>
    match getUsersInfoMap g userIDs with
    | .error err => .error err
    | .ok users =>
      let (res, users) := addGroupMembers members [] users
      .ok (addAppAdmins k groupID users.entries res)

def getGroupMember (k : Constant) (g : GroupNotificationSender) (groupID userID : String) :
    Except Err GroupMemberFullInfo :=
  match getGroupMembers k g groupID [userID] with
  | .error err => .error err
  | .ok [] =>
    .error (.code .internalServer ("group " ++ groupID ++ " member " ++ userID ++ " not found"))
  | .ok (member :: _) => .ok member

def getGroupOwnerAndAdminUserID (k : Constant) (g : GroupNotificationSender) (groupID : String) :
    Except Err (List String) :=
  (g.db.findGroupMember [groupID] [] [k.groupOwner, k.groupAdmin]).map (·.map (·.userID))

/-- `groupNotification`: one `msgClient.Notification` call, number `log.length`. -/
def groupNotification (notify : Nat → Option Err) (contentType : Int) (tips : Tips)
    (sendID recvUserID : String) (log : List NotificationMsg) :
    Option Err × List NotificationMsg :=
  (notify log.length,
   log ++ [{ sendID := sendID, recvID := recvUserID, contentType := contentType
             content := tips }])

/-! ## mergeGroupFull -/

/-- One assignment in the loop of `mergeGroupFull`:
`if cond { x = g.groupMemberDB2PB(member, userMap[member.UserID].AppMangerLevel) }`. -/
def pickMember (userMap : GoMap UserInfo) (member : GroupMemberModel) (cond : Bool)
    (current : Option GroupMemberFullInfo) : GoRun (Option GroupMemberFullInfo) :=
  if cond then do
    let user ← deref (userMap.get member.userID)
    pure (some (groupMemberDB2PB member user.appMangerLevel))
  else pure current

/-- The loop of `mergeGroupFull` over the members, looking for the operator and
the owner and breaking once both are found. -/
def findOpAndOwner (k : Constant) (userMap : GoMap UserInfo) (opUserID : String) :
    List GroupMemberModel → Option GroupMemberFullInfo → Option GroupMemberFullInfo →
      GoRun (Option GroupMemberFullInfo × Option GroupMemberFullInfo)
  | [], opUserMember, groupOwnerMember => pure (opUserMember, groupOwnerMember)
  | member :: members, opUserMember, groupOwnerMember => do
    let opUserMember ← pickMember userMap member (member.userID == opUserID) opUserMember
    let groupOwnerMember ←
      pickMember userMap member (member.roleLevel == k.groupOwner) groupOwnerMember
    if opUserMember.isSome && groupOwnerMember.isSome then
      pure (opUserMember, groupOwnerMember)
    else findOpAndOwner k userMap opUserID members opUserMember groupOwnerMember

/-- The group `mergeGroupFull` works on: the caller's, unless nil. -/
def mergeGroup (g : GroupNotificationSender) (groupID : String) (group : Option GroupModel) :
    Except Err GroupModel :=
  match group with
  | some group => .ok group
  | none => g.db.takeGroup groupID

/-- The members `mergeGroupFull` works on: the caller's, unless nil or empty. -/
def mergeMembers (g : GroupNotificationSender) (groupID : String)
    (ms : Option (List GroupMemberModel)) : Except Err (List GroupMemberModel) :=
  match ms with
  | some ms@(_ :: _) => .ok ms
  | _ => g.db.findGroupMember [groupID] [] []

/-- The user map `mergeGroupFull` works on: the caller's, unless nil or empty. -/
def mergeUsers (g : GroupNotificationSender) (members : List GroupMemberModel)
    (opUserID : String) (users : Option (GoMap UserInfo)) : Except Err (GoMap UserInfo) :=
  match users with
  | some users =>
    if users.entries = [] then getUsersInfoMap g (members.map (·.userID) ++ [opUserID])
    else .ok users
  | none => getUsersInfoMap g (members.map (·.userID) ++ [opUserID])

/-- The tips once the loop has run: the operator falls back to its user record,
and `groupOwnerMember.UserID` is dereferenced. -/
def buildGroupCreatedTips (group : GroupModel) (members : List GroupMemberModel)
    (userMap : GoMap UserInfo) (opUserID : String)
    (found : Option GroupMemberFullInfo × Option GroupMemberFullInfo) :
    GoRun GroupCreatedTips := do
  let opUserMember :=
    match userMap.get opUserID, found.1 with
    | some opUser, none =>
      some { groupID := group.groupID, userID := opUser.userID, nickname := opUser.nickname
             faceURL := opUser.faceURL, appMangerLevel := opUser.appMangerLevel }
    | _, opUserMember => opUserMember
  let groupOwnerMember ← deref found.2
  pure { group := groupDB2PB group groupOwnerMember.userID (uint32 members.length)
         opUser := opUserMember, groupOwnerUser := some groupOwnerMember }

/-- `mergeGroupFull(ctx, groupID, group, ms, users)`; `none` is a nil pointer. -/
def mergeGroupFull (k : Constant) (g : GroupNotificationSender) (ctx : Ctx) (groupID : String)
    (group : Option GroupModel) (ms : Option (List GroupMemberModel))
    (users : Option (GoMap UserInfo)) : GoRun (Except Err GroupCreatedTips) :=
  match mergeGroup g groupID group with
  | .error err => pure (.error err)
  | .ok group =>
    match mergeMembers g groupID ms with
    | .error err => pure (.error err)
    | .ok members =>
      match mergeUsers g members ctx.opUserID users with
      | .error err => pure (.error err)
      | .ok userMap => do
        let found ← findOpAndOwner k userMap ctx.opUserID members none none
        let tips ← buildGroupCreatedTips group members userMap ctx.opUserID found
        pure (.ok tips)

/-! ## Handlers notifying owners, admins and the operator -/

/-- The `MemberQuitNotification` loop: stops at the first failed call. -/
def notifyFailFast (notify : Nat → Option Err) (contentType : Int) (tips : Tips)
    (sendID : String) : List String → List NotificationMsg → Option Err × List NotificationMsg
  | [], log => (none, log)
  | userID :: userIDs, log =>
    match groupNotification notify contentType tips sendID userID log with
    | (some err, log') => (some err, log')
    | (none, log') => notifyFailFast notify contentType tips sendID userIDs log'

/-- The `GroupApplication…Notification` loop: a failed call is only logged. -/
def notifyEach (notify : Nat → Option Err) (contentType : Int) (tips : Tips)
    (sendID : String) : List String → List NotificationMsg → List NotificationMsg
  | [], log => log
  | userID :: userIDs, log =>
    notifyEach notify contentType tips sendID userIDs
      (groupNotification notify contentType tips sendID userID log).2

def memberQuitNotification (k : Constant) (g : GroupNotificationSender)
    (notify : Nat → Option Err) (ctx : Ctx) (req : QuitGroupReq) (log : List NotificationMsg) :
    Except Err Unit × List NotificationMsg :=
  match getGroupInfo k g req.groupID with
  | .error err => (.error err, log)
  | .ok group =>
    match getUser g ctx.opUserID with
    | .error err => (.error err, log)
    | .ok user =>
      match getGroupOwnerAndAdminUserID k g req.groupID with
      | .error err => (.error err, log)
      | .ok userIDs =>
        let tips := Tips.memberQuit group
          { groupID := group.groupID, userID := user.userID, nickname := user.nickname
            faceURL := user.faceURL, appMangerLevel := 0 }
        match notifyFailFast notify k.memberQuitNotification tips ctx.opUserID
            (userIDs ++ [ctx.opUserID]) log with
        | (some err, log') => (.error err, log')
        | (none, log') => (.ok (), log')

/-- The body shared by `GroupApplicationAcceptedNotification` and
`GroupApplicationRejectedNotification`, which differ only in the tips and the
content type. -/
def applicationResponseNotification (k : Constant) (g : GroupNotificationSender)
    (notify : Nat → Option Err) (contentType : Int)
    (mkTips : GroupInfo → GroupMemberFullInfo → String → Tips) (ctx : Ctx)
    (req : GroupApplicationResponseReq) (log : List NotificationMsg) :
    Except Err Unit × List NotificationMsg :=
  match getGroupInfo k g req.groupID with
  | .error err => (.error err, log)
  | .ok group =>
    match getGroupMember k g req.groupID ctx.opUserID with
    | .error err => (.error err, log)
    | .ok user =>
      match getGroupOwnerAndAdminUserID k g req.groupID with
      | .error err => (.error err, log)
      | .ok userIDs =>
        (.ok (), notifyEach notify contentType (mkTips group user req.handledMsg) ctx.opUserID
          (userIDs ++ [ctx.opUserID]) log)

def groupApplicationAcceptedNotification (k : Constant) (g : GroupNotificationSender)
    (notify : Nat → Option Err) (ctx : Ctx) (req : GroupApplicationResponseReq)
    (log : List NotificationMsg) : Except Err Unit × List NotificationMsg :=
  applicationResponseNotification k g notify k.groupApplicationAcceptedNotification
    (fun group user handleMsg => .groupApplicationAccepted group user handleMsg 1) ctx req log

def groupApplicationRejectedNotification (k : Constant) (g : GroupNotificationSender)
    (notify : Nat → Option Err) (ctx : Ctx) (req : GroupApplicationResponseReq)
    (log : List NotificationMsg) : Except Err Unit × List NotificationMsg :=
  applicationResponseNotification k g notify k.groupApplicationRejectedNotification
    (fun group user handleMsg => .groupApplicationRejected group user handleMsg) ctx req log

end OpenIMServer.Notification

import OpenIMServer.Notification.Group

/-!
# The other group notification senders

The rest of `GroupNotificationSender`. Twelve handlers share one body: they
look the group up, then the users their tips name, and return the error of one
`g.groupNotification(ctx, contentType, tips, opUserID, groupID, "")` call
(`notifyGroup`, with the handler's lookup, content type and tips as
parameters). `GroupCreatedNotification` and `GroupInfoSetNotification` build
their tips with `mergeGroupFull`, and `JoinGroupApplicationNotification`
notifies each owner and admin, logging failed calls.

Each handler keeps the content type the source sends, which is not always the
one its name says: `GroupCancelMutedNotification` sends
`GroupMutedNotification`, and `GroupMemberInfoSetNotification`,
`GroupMemberSetToAdminNotification` and `MemberEnterDirectlyNotification` send
`GroupMemberCancelMutedNotification`. Arguments no body reads (the kicked user
list, the invitation reason) are left out; `GroupMemberSetToAdminNotification`
keeps its unread `notificationType`.
-/

namespace OpenIMServer.Notification

structure JoinGroupReq where
  groupID : String
  reqMessage : String
  inviterUserID : String

structure TransferGroupOwnerReq where
  groupID : String
  newOwnerUserID : String

structure KickGroupMemberReq where
  groupID : String

structure DismissGroupReq where
  groupID : String

/-! ## Helpers -/

/-- `getGroupMemberMap`: the members `getGroupMembers` returns, by user ID. -/
def getGroupMemberMap (k : Constant) (g : GroupNotificationSender) (groupID : String)
    (userIDs : List String) : Except Err (GoMap GroupMemberFullInfo) :=
  (getGroupMembers k g groupID userIDs).map
    (·.foldl (fun m member => m.set member.userID member) GoMap.empty)

/-- `groupMemberFullInfo`: the first member with that user ID, with the level of
its user record, or `0` when it has none. -/
def groupMemberFullInfo (members : List GroupMemberModel) (userMap : GoMap UserInfo)
    (userID : String) : Option GroupMemberFullInfo :=
  match members.find? (·.userID == userID) with
  | none => none
  | some member =>
    match userMap.get member.userID with
    | some user => some (groupMemberDB2PB member user.appMangerLevel)
    | none => some (groupMemberDB2PB member 0)

/-- `getFromToUserNickname`: a failed lookup is answered with two empty
nicknames and a nil error; a user missing from the answer is a nil
dereference. -/
def getFromToUserNickname (g : GroupNotificationSender) (fromUserID toUserID : String) :
    GoRun (Except Err (String × String)) :=
  match getUsersInfoMap g [fromUserID, toUserID] with
  | .error _ => pure (.ok ("", ""))
  | .ok users => do
    let fromUser ← deref (users.get fromUserID)
    let toUser ← deref (users.get toUserID)
    pure (.ok (fromUser.nickname, toUser.nickname))

/-- `return g.groupNotification(ctx, contentType, tips, opUserID, groupID, "")`. -/
def sendGroupNotification (notify : Nat → Option Err) (contentType : Int) (tips : Tips)
    (sendID : String) (log : List NotificationMsg) : Except Err Unit × List NotificationMsg :=
  match groupNotification notify contentType tips sendID "" log with
  | (some err, log') => (.error err, log')
  | (none, log') => (.ok (), log')

/-- The body the single-message handlers share: `getGroupInfo`, then the lookup
of the users the tips name, then the message. -/
def notifyGroup {α : Type} (k : Constant) (g : GroupNotificationSender)
    (notify : Nat → Option Err) (ctx : Ctx) (groupID : String) (lookup : Except Err α)
    (contentType : Int) (mkTips : GroupInfo → α → Tips) (log : List NotificationMsg) :
    Except Err Unit × List NotificationMsg :=
  match getGroupInfo k g groupID with
  | .error err => (.error err, log)
  | .ok group =>
    match lookup with
    | .error err => (.error err, log)
    | .ok users => sendGroupNotification notify contentType (mkTips group users) ctx.opUserID log

/-! ## The single-message handlers -/

section

variable (k : Constant) (g : GroupNotificationSender) (notify : Nat → Option Err) (ctx : Ctx)

def groupOwnerTransferredNotification (req : TransferGroupOwnerReq)
    (log : List NotificationMsg) : Except Err Unit × List NotificationMsg :=
  notifyGroup k g notify ctx req.groupID
    (getGroupMemberMap k g req.groupID [ctx.opUserID, req.newOwnerUserID])
    k.groupOwnerTransferredNotification
    (fun group member =>
      .groupOwnerTransferred group (member.get ctx.opUserID) (member.get req.newOwnerUserID))
    log

def memberKickedNotification (req : KickGroupMemberReq) (log : List NotificationMsg) :
    Except Err Unit × List NotificationMsg :=
  notifyGroup k g notify ctx req.groupID (getGroupMember k g req.groupID ctx.opUserID)
    k.memberKickedNotification .memberKicked log

def memberInvitedNotification (groupID : String) (invitedUserIDList : List String)
    (log : List NotificationMsg) : Except Err Unit × List NotificationMsg :=
  notifyGroup k g notify ctx groupID
    (do
      let opUser ← getGroupMember k g groupID ctx.opUserID
      let users ← getGroupMembers k g groupID invitedUserIDList
      pure (opUser, users))
    k.memberInvitedNotification (fun group found => .memberInvited group found.1 found.2) log

/-- `MemberEnterNotification(ctx, req)`: it reads `req.GroupID` and `req.FromUserID`. -/
def memberEnterNotification (groupID fromUserID : String) (log : List NotificationMsg) :
    Except Err Unit × List NotificationMsg :=
  notifyGroup k g notify ctx groupID (getGroupMember k g groupID fromUserID)
    k.memberEnterNotification .memberEnter log

def groupDismissedNotification (req : DismissGroupReq) (log : List NotificationMsg) :
    Except Err Unit × List NotificationMsg :=
  notifyGroup k g notify ctx req.groupID (getGroupMember k g req.groupID ctx.opUserID)
    k.groupDismissedNotification .groupDismissed log

def groupMemberMutedNotification (groupID groupMemberUserID : String) (mutedSeconds : Nat)
    (log : List NotificationMsg) : Except Err Unit × List NotificationMsg :=
  notifyGroup k g notify ctx groupID
    (getGroupMemberMap k g groupID [ctx.opUserID, groupMemberUserID])
    k.groupMemberMutedNotification
    (fun group user =>
      .groupMemberMuted group mutedSeconds (user.get ctx.opUserID) (user.get groupMemberUserID))
    log

def groupMemberCancelMutedNotification (groupID groupMemberUserID : String)
    (log : List NotificationMsg) : Except Err Unit × List NotificationMsg :=
  notifyGroup k g notify ctx groupID
    (getGroupMemberMap k g groupID [ctx.opUserID, groupMemberUserID])
    k.groupMemberCancelMutedNotification
    (fun group user =>
      .groupMemberCancelMuted group (user.get ctx.opUserID) (user.get groupMemberUserID))
    log

def groupMutedNotification (groupID : String) (log : List NotificationMsg) :
    Except Err Unit × List NotificationMsg :=
  notifyGroup k g notify ctx groupID (getGroupMember k g groupID ctx.opUserID)
    k.groupMutedNotification .groupMuted log

/-- Sends `GroupMutedNotification`'s content type. -/
def groupCancelMutedNotification (groupID : String) (log : List NotificationMsg) :
    Except Err Unit × List NotificationMsg :=
  notifyGroup k g notify ctx groupID (getGroupMember k g groupID ctx.opUserID)
    k.groupMutedNotification .groupCancelMuted log

/-- Sends `GroupMemberCancelMutedNotification`'s content type. -/
def groupMemberInfoSetNotification (groupID groupMemberUserID : String)
    (log : List NotificationMsg) : Except Err Unit × List NotificationMsg :=
  notifyGroup k g notify ctx groupID
    (getGroupMemberMap k g groupID [ctx.opUserID, groupMemberUserID])
    k.groupMemberCancelMutedNotification
    (fun group user =>
      .groupMemberInfoSet group (user.get ctx.opUserID) (user.get groupMemberUserID))
    log

/-- Sends `GroupMemberInfoSetTips` under `GroupMemberCancelMutedNotification`'s
content type; `notificationType` is not read. -/
def groupMemberSetToAdminNotification (groupID groupMemberUserID : String)
    (notificationType : Int) (log : List NotificationMsg) :
    Except Err Unit × List NotificationMsg :=
  notifyGroup k g notify ctx groupID
    (getGroupMemberMap k g groupID [ctx.opUserID, groupMemberUserID])
    k.groupMemberCancelMutedNotification
    (fun group user =>
      .groupMemberInfoSet group (user.get ctx.opUserID) (user.get groupMemberUserID))
    log

/-- Sends `MemberEnterTips` under `GroupMemberCancelMutedNotification`'s content type. -/
def memberEnterDirectlyNotification (groupID entrantUserID : String)
    (log : List NotificationMsg) : Except Err Unit × List NotificationMsg :=
  notifyGroup k g notify ctx groupID (getGroupMember k g groupID entrantUserID)
    k.groupMemberCancelMutedNotification .memberEnter log

/-! ## The other handlers -/

/-- `JoinGroupApplicationNotification`: the applicant is `req.InviterUserID`;
each owner and admin is notified, and a failed call is only logged. -/
def joinGroupApplicationNotification (req : JoinGroupReq) (log : List NotificationMsg) :
    Except Err Unit × List NotificationMsg :=
  match getGroupInfo k g req.groupID with
  | .error err => (.error err, log)
  | .ok group =>
    match getUser g req.inviterUserID with
    | .error err => (.error err, log)
    | .ok user =>
      match getGroupOwnerAndAdminUserID k g req.groupID with
      | .error err => (.error err, log)
      | .ok userIDs =>
        (.ok (), notifyEach notify k.joinGroupApplicationNotification
          (.joinGroupApplication group user req.reqMessage) ctx.opUserID userIDs log)

/-- `GroupCreatedNotification(ctx, group, members, userMap)`, with `&members`
and `&userMap` passed to `mergeGroupFull`. -/
def groupCreatedNotification (group : GroupModel) (members : List GroupMemberModel)
    (userMap : GoMap UserInfo) (log : List NotificationMsg) :
    GoRun (Except Err Unit × List NotificationMsg) := do
  match ← mergeGroupFull k g ctx group.groupID (some group) (some members) (some userMap) with
  | .error err => pure (.error err, log)
  | .ok groupInfo =>
    pure (sendGroupNotification notify k.groupCreatedNotification (.groupCreated groupInfo)
      ctx.opUserID log)

/-- `GroupInfoSetNotification(ctx, group, members, needVerification)`: the tips'
`OpUser` is the `GroupOwnerUser` of `mergeGroupFull`'s answer. -/
def groupInfoSetNotification (group : GroupModel) (members : List GroupMemberModel)
    (needVerification : Option Int) (log : List NotificationMsg) :
    GoRun (Except Err Unit × List NotificationMsg) := do
  match ← mergeGroupFull k g ctx group.groupID (some group) (some members) none with
  | .error err => pure (.error err, log)
  | .ok groupInfo =>
    let tipsGroup :=
      match needVerification with
      | some v => { groupInfo.group with needVerification := v }
      | none => groupInfo.group
    pure (sendGroupNotification notify k.groupInfoSetNotification
      (.groupInfoSet tipsGroup groupInfo.groupOwnerUser) ctx.opUserID log)

end

end OpenIMServer.Notification

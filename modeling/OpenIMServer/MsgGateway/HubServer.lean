import OpenIMServer.Common.Base

/-!
# The hub server: presence, fanout and kick

`internal/msggateway/hub_server.go`. The connection registry (`LongConnServer`)
is not under `src/`: it is read only through its two lookups, which are free
functions here, so every registry state (found users with empty lists, nil
entries, repeated IDs) is covered. The collaborators a handler calls once per
session, `PushMessage` and `KickOnlineMessage`, answer by call number: the
`k`-th call of the world answers `push k`. A run threads the log of the calls it
made, which is what the handlers do to the world besides their reply.

`OnlinePushMsg`, `OnlineBatchPushOneMsg` and `MultiTerminalLoginCheck` only
`panic("implement me")` and are not modelled.
-/

namespace OpenIMServer.MsgGateway

/-- One registered session: the fields of `*Client` the hub reads
(`client.ctx.GetConnID()` is `connID`). -/
structure Client where
  platformID : Int
  isBackground : Bool
  connID : String
  deriving DecidableEq, Repr

/-- The registry's lookups: `GetUserAllCons(userID)` and
`GetUserPlatformCons(userID, platformID)` (whose platform label the hub ignores).
`none` is `ok == false`; a `none` entry of a list is a nil `*Client`. -/
structure LongConnServer where
  getUserAllCons : String → Option (List (Option Client))
  getUserPlatformCons : String → Int → Option (List (Option Client))

structure Server where
  longConnServer : LongConnServer
  pushTerminal : List Int

def newServer (k : Constant) (longConnServer : LongConnServer) : Server :=
  { longConnServer := longConnServer
    pushTerminal := [k.iosPlatformID, k.androidPlatformID] }

/-- `utils.IsContainInt(target, list)`. -/
def isContainInt (target : Int) (list : List Int) : Bool := list.contains target

/-! ## GetUsersOnlineStatus -/

structure SuccessDetail where
  platform : String
  status : String
  connID : String
  isBackground : Bool
  deriving DecidableEq, Repr

structure SuccessResult where
  userID : String
  status : String
  detailPlatformStatus : List SuccessDetail
  deriving DecidableEq, Repr

structure GetUsersOnlineStatusReq where
  userIDs : List String

structure GetUsersOnlineStatusResp where
  successResult : List SuccessResult
  deriving DecidableEq, Repr

/-- The detail `ps` of one non-nil client. -/
def successDetail (k : Constant) (client : Client) : SuccessDetail :=
  { platform := k.platformIDToName client.platformID, status := k.onlineStatus,
    connID := client.connID, isBackground := client.isBackground }

/-- The loop over one user's clients, filling `temp`. -/
def addDetails (k : Constant) (temp : SuccessResult) : List (Option Client) → SuccessResult
  | [] => temp
  | none :: clients => addDetails k temp clients
  | some client :: clients =>
    addDetails k
      { temp with
        status := k.onlineStatus
        detailPlatformStatus := temp.detailPlatformStatus ++ [successDetail k client] }
      clients

/-- The loop over `req.UserIDs`, appending to `resp.SuccessResult`. -/
def collectOnline (k : Constant) (s : Server) :
    List String → List SuccessResult → List SuccessResult
  | [], acc => acc
  | userID :: userIDs, acc =>
    match s.longConnServer.getUserAllCons userID with
    | none => collectOnline k s userIDs acc
    | some clients =>
      let temp := addDetails k { userID := userID, status := "", detailPlatformStatus := [] }
        clients
      if temp.status = k.onlineStatus then collectOnline k s userIDs (acc ++ [temp])
      else collectOnline k s userIDs acc

/-- `GetUsersOnlineStatus`; `isAppManagerUid` is `tokenverify.IsAppManagerUid`. -/
def getUsersOnlineStatus (k : Constant) (isAppManagerUid : Ctx → Bool) (s : Server)
    (ctx : Ctx) (req : GetUsersOnlineStatusReq) : Except Err GetUsersOnlineStatusResp :=
  if !isAppManagerUid ctx then .error (.code .noPermission "only app manager")
  else .ok { successResult := collectOnline k s req.userIDs [] }

/-! ## SuperGroupOnlineBatchPushOneMsg -/

structure SingleMsgToUserPlatform where
  resultCode : Int
  recvID : String
  recvPlatFormID : Int
  deriving DecidableEq, Repr

structure SingleMsgToUserResults where
  userID : String
  resp : List SingleMsgToUserPlatform
  onlinePush : Bool
  deriving DecidableEq, Repr

structure OnlineBatchPushOneMsgReq where
  pushToUserIDs : List String

structure OnlineBatchPushOneMsgResp where
  singlePushResult : List SingleMsgToUserResults
  deriving DecidableEq, Repr

/-- The world outside the registry as the fanout leaves it: every `PushMessage`
call made so far with the target it was made for, and
`prome.MsgOnlinePushSuccessCounter`. -/
structure PushWorld where
  calls : List (String × Client)
  onlinePushSuccess : Nat
  deriving DecidableEq, Repr

/-- The loop over the clients of target `v`, with the accumulators `resp` and
`tempT.OnlinePush`. A foreground client's push is call number `w.calls.length`. -/
def pushToClients (s : Server) (pushMessage : Nat → Option Err) (v : String) :
    List (Option Client) → List SingleMsgToUserPlatform → Bool → PushWorld →
      List SingleMsgToUserPlatform × Bool × PushWorld
  | [], resp, onlinePush, w => (resp, onlinePush, w)
  | none :: clients, resp, onlinePush, w =>
    pushToClients s pushMessage v clients resp onlinePush w
  | some client :: clients, resp, onlinePush, w =>
    let temp : SingleMsgToUserPlatform :=
      { resultCode := 0, recvID := v, recvPlatFormID := int32 client.platformID }
    if !client.isBackground then
      let w' := { w with calls := w.calls ++ [(v, client)] }
      match pushMessage w.calls.length with
      | some _ =>
        pushToClients s pushMessage v clients (resp ++ [{ temp with resultCode := -2 }])
          onlinePush w'
      | none =>
        if isContainInt client.platformID s.pushTerminal then
          pushToClients s pushMessage v clients (resp ++ [temp]) true
            { w' with onlinePushSuccess := w'.onlinePushSuccess + 1 }
        else pushToClients s pushMessage v clients resp onlinePush w'
    else
      pushToClients s pushMessage v clients (resp ++ [{ temp with resultCode := -3 }])
        onlinePush w

/-- The loop over `req.PushToUserIDs`, appending to `singleUserResult`. -/
def pushToUsers (s : Server) (pushMessage : Nat → Option Err) :
    List String → List SingleMsgToUserResults → PushWorld →
      List SingleMsgToUserResults × PushWorld
  | [], acc, w => (acc, w)
  | v :: vs, acc, w =>
    match s.longConnServer.getUserAllCons v with
    | none => pushToUsers s pushMessage vs acc w
    | some clients =>
      let (resp, onlinePush, w') := pushToClients s pushMessage v clients [] false w
      pushToUsers s pushMessage vs
        (acc ++ [{ userID := v, resp := resp, onlinePush := onlinePush }]) w'

def superGroupOnlineBatchPushOneMsg (s : Server) (pushMessage : Nat → Option Err)
    (req : OnlineBatchPushOneMsgReq) (w : PushWorld) :
    Except Err OnlineBatchPushOneMsgResp × PushWorld :=
  let (singleUserResult, w') := pushToUsers s pushMessage req.pushToUserIDs [] w
  (.ok { singlePushResult := singleUserResult }, w')

/-! ## KickUserOffline -/

structure KickUserOfflineReq where
  platformID : Int
  kickUserIDList : List String

structure KickUserOfflineResp where
  deriving DecidableEq, Repr

/-- The loop over the clients of one user; the log holds every `KickOnlineMessage`
call made so far, and the next call is number `log.length`. Stops at the first
error. -/
def kickClients (kickOnlineMessage : Nat → Option Err) :
    List (Option Client) → List (Option Client) → Option Err × List (Option Client)
  | [], log => (none, log)
  | client :: clients, log =>
    match kickOnlineMessage log.length with
    | some err => (some err, log ++ [client])
    | none => kickClients kickOnlineMessage clients (log ++ [client])

/-- The loop over `req.KickUserIDList`. -/
def kickUsers (s : Server) (kickOnlineMessage : Nat → Option Err) (platformID : Int) :
    List String → List (Option Client) → Option Err × List (Option Client)
  | [], log => (none, log)
  | v :: vs, log =>
    match s.longConnServer.getUserPlatformCons v platformID with
    | none => kickUsers s kickOnlineMessage platformID vs log
    | some clients =>
      match kickClients kickOnlineMessage clients log with
      | (some err, log') => (some err, log')
      | (none, log') => kickUsers s kickOnlineMessage platformID vs log'

def kickUserOffline (s : Server) (kickOnlineMessage : Nat → Option Err)
    (req : KickUserOfflineReq) (log : List (Option Client)) :
    Except Err KickUserOfflineResp × List (Option Client) :=
  match kickUsers s kickOnlineMessage req.platformID req.kickUserIDList log with
  | (some err, log') => (.error err, log')
  | (none, log') => (.ok {}, log')

end OpenIMServer.MsgGateway

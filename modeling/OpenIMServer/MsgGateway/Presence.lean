import OpenIMServer.MsgGateway.HubServer
import Mathlib.Data.List.ReduceOption

/-!
# Presence: GetUsersOnlineStatus against its snapshot spec

The spec says what presence is for: a snapshot per requested position whose
registry answer holds at least one live (non-nil) session, listing every live
session in registry order with its platform's name, its connection ID, its
background flag and the online status. The handler builds it with two accumulator loops and
a status flag that starts at the zero string. The loop lemmas show they compute
exactly the snapshots; a requester who is not an app manager gets the
permission error whatever it asked for.
-/

namespace OpenIMServer.MsgGateway

/-- The registry answer for `userID` holds a live session. -/
def isOnline (lookup : String → Option (List (Option Client))) (userID : String) : Bool :=
  match lookup userID with
  | some clients => !clients.reduceOption.isEmpty
  | none => false

/-- The snapshot of one requested user: present only when a live session exists,
with one detail per live session: its platform's name, its connection ID, its
background flag and the online status. -/
def onlineSnapshot (k : Constant) (lookup : String → Option (List (Option Client)))
    (userID : String) : Option SuccessResult :=
  if isOnline lookup userID then
    some { userID := userID, status := k.onlineStatus
           detailPlatformStatus := ((lookup userID).getD []).reduceOption.map fun client =>
             { platform := k.platformIDToName client.platformID, status := k.onlineStatus
               connID := client.connID, isBackground := client.isBackground } }
  else none

/-- The presence spec: one snapshot per qualifying position, in request order. -/
def onlineStatusSpec (k : Constant) (lookup : String → Option (List (Option Client)))
    (userIDs : List String) : List SuccessResult :=
  userIDs.filterMap (onlineSnapshot k lookup)

/-! ## The per-user loop -/

/-- The loop over one user's clients sets the status exactly when a live client
exists, and appends one detail per live client in registry order. -/
theorem addDetails_eq (k : Constant) (temp : SuccessResult) (clients : List (Option Client)) :
    addDetails k temp clients =
      if clients.reduceOption = [] then temp
      else { temp with
        status := k.onlineStatus
        detailPlatformStatus :=
          temp.detailPlatformStatus ++ clients.reduceOption.map (successDetail k) } := by
  induction clients generalizing temp with
  | nil => rfl
  | cons client clients ih =>
    cases client with
    | none => simpa [addDetails] using ih temp
    | some client =>
      rw [addDetails, ih]
      split <;> simp_all

/-! ## The request loop -/

theorem collectOnline_eq (k : Constant) (s : Server) (userIDs : List String)
    (acc : List SuccessResult) :
    collectOnline k s userIDs acc =
      acc ++ onlineStatusSpec k s.longConnServer.getUserAllCons userIDs := by
  induction userIDs generalizing acc with
  | nil => simp [collectOnline, onlineStatusSpec]
  | cons userID userIDs ih =>
    have hne : ("" : String) ≠ k.onlineStatus := k.onlineStatus_ne_empty.symm
    simp only [collectOnline, onlineStatusSpec, List.filterMap_cons, onlineSnapshot, isOnline]
    split
    · next h => simp [h, ih, onlineStatusSpec]
    · next clients h =>
      rw [addDetails_eq]
      by_cases hc : clients.reduceOption = []
      · simp [h, hc, hne, ih, onlineStatusSpec]
      · simp [h, hc, ih, onlineStatusSpec, List.isEmpty_iff, successDetail]

/-- **Presence = snapshots.** A requester who is not an app manager gets
`ErrNoPermission` and no data, whatever it asked for; an app manager gets one
snapshot per requested position whose registry answer holds a live session, in
request order, and nothing for any other position. -/
theorem getUsersOnlineStatus_eq_spec (k : Constant) (isAppManagerUid : Ctx → Bool)
    (s : Server) (ctx : Ctx) (req : GetUsersOnlineStatusReq) :
    getUsersOnlineStatus k isAppManagerUid s ctx req =
      if isAppManagerUid ctx then
        .ok { successResult := onlineStatusSpec k s.longConnServer.getUserAllCons req.userIDs }
      else .error (.code .noPermission "only app manager") := by
  cases h : isAppManagerUid ctx <;> simp [getUsersOnlineStatus, h, collectOnline_eq]

/-- The users presence reports, in order: the requested positions that are online. -/
theorem onlineStatusSpec_userIDs (k : Constant) (lookup : String → Option (List (Option Client)))
    (userIDs : List String) :
    (onlineStatusSpec k lookup userIDs).map (·.userID) = userIDs.filter (isOnline lookup) := by
  induction userIDs with
  | nil => rfl
  | cons userID userIDs ih =>
    by_cases h : isOnline lookup userID <;>
      simpa [onlineStatusSpec, List.filterMap_cons, onlineSnapshot, h, List.filter_cons] using ih

end OpenIMServer.MsgGateway

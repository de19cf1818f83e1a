import Mathlib.Algebra.Group.Int

/-!
# Shared vocabulary: errors, request context, constants

The pieces of `pkg/errs`, `pkg/common/mcontext` and `pkg/common/constant` that the
modelled handlers read. None of these packages is under `src/`: errors keep the
code and the message the handlers wrap them with, the context keeps the operator
it carries, and the constants are a record of parameters rather than fixed
values, with the one fact about them the presence code relies on stated as a
field.
-/

namespace OpenIMServer

/-- The codes of `pkg/errs` that the modelled handlers return. -/
inductive ErrCode where
  | args
  | noPermission
  | tokenUnknown
  | tokenNotExist
  | tokenKicked
  | internalServer
  | userIDNotFound
  deriving DecidableEq, Repr

/-- An error value: `errs.ErrX.Wrap(msg)` (`Wrap()` wraps the empty message),
`errs.ErrX.WithDetail(detail).Wrap()`, or an error some collaborator (a store, a
socket, an RPC) returned, named by its text. -/
inductive Err where
  | code (c : ErrCode) (msg : String)
  | withDetail (c : ErrCode) (detail : String)
  | other (msg : String)
  deriving DecidableEq, Repr

/-- The request context: `mcontext.GetOpUserID(ctx)`. -/
structure Ctx where
  opUserID : String
  deriving DecidableEq, Repr

/-- Go's `int32(x)` on a 64-bit `int`: the value wrapped into `[-2^31, 2^31)`. -/
def int32 (x : Int) : Int := x.bmod (2 ^ 32)

/-- Go's `uint32(n)` on a length. -/
def uint32 (n : Nat) : Nat := n % 2 ^ 32

/-- The values of `pkg/common/constant` that the modelled code reads. A fresh
presence result starts with the zero string as its status and is kept only once
it has been set to `OnlineStatus`, so the two must differ. -/
structure Constant where
  onlineStatus : String
  onlineStatus_ne_empty : onlineStatus ≠ ""
  platformIDToName : Int → String
  platformNameToID : String → Int
  iosPlatformID : Int
  androidPlatformID : Int
  normalToken : Int
  kickedToken : Int
  groupOwner : Int
  groupAdmin : Int
  appAdmin : Int
  groupCreatedNotification : Int
  groupInfoSetNotification : Int
  joinGroupApplicationNotification : Int
  memberQuitNotification : Int
  groupApplicationAcceptedNotification : Int
  groupApplicationRejectedNotification : Int
  groupOwnerTransferredNotification : Int
  memberKickedNotification : Int
  memberInvitedNotification : Int
  memberEnterNotification : Int
  groupDismissedNotification : Int
  groupMemberMutedNotification : Int
  groupMemberCancelMutedNotification : Int
  groupMutedNotification : Int
  groupCancelMutedNotification : Int

/-- The platform names of `constant.PlatformID2Name`, by ID. -/
def platformNames : List (Int × String) :=
  [(1, "IOS"), (2, "Android"), (3, "Windows"), (4, "OSX"), (5, "Web"),
   (6, "MiniWebApp"), (7, "Linux"), (8, "AndroidPad"), (9, "IPad")]

/-- The constant package with the values the upstream repository gives it. -/
def Constant.openIM : Constant where
  onlineStatus := "online"
  onlineStatus_ne_empty := by decide
  platformIDToName id := ((platformNames.find? (·.1 == id)).map (·.2)).getD ""
  platformNameToID name := ((platformNames.find? (·.2 == name)).map (·.1)).getD 0
  iosPlatformID := 1
  androidPlatformID := 2
  normalToken := 0
  kickedToken := 2
  groupOwner := 100
  groupAdmin := 60
  appAdmin := 2
  groupCreatedNotification := 1501
  groupInfoSetNotification := 1502
  joinGroupApplicationNotification := 1503
  memberQuitNotification := 1504
  groupApplicationAcceptedNotification := 1505
  groupApplicationRejectedNotification := 1506
  groupOwnerTransferredNotification := 1507
  memberKickedNotification := 1508
  memberInvitedNotification := 1509
  memberEnterNotification := 1510
  groupDismissedNotification := 1511
  groupMemberMutedNotification := 1512
  groupMemberCancelMutedNotification := 1513
  groupMutedNotification := 1514
  groupCancelMutedNotification := 1515

end OpenIMServer

import OpenIMServer.Common.Base

/-!
# The operation-ID and token middlewares

`GinParseOperationID` and `GinParseToken` of `pkg/common/mw/gin.go`. The first
passes a POST request on only with a non-empty operation ID, taken from its
header or else from the `operationID` field of its JSON body, and answers every
other POST with a 400 and one of three texts. For `GinParseToken`, a POST
request is let through only after four checks: a token header, a parsable
token, a token-store lookup for the token's user and platform, and a status
check. The status check reads the
token's status only when the store lists the token: a parsable token missing
from a non-empty store falls through to `c.Next()`, where the empty-store
check just above rejects the same token with `ErrTokenNotExist`
(`ginParseToken_accepts_unlisted_token`).
-/

namespace OpenIMServer.Mw

/-- The fields of `tokenverify.GetClaimFromToken`'s claims the middleware reads. -/
structure Claims where
  uid : String
  platform : String
  deriving DecidableEq, Repr

/-- What the middleware does to a request's gin context. -/
inductive TokenOutcome where
  /-- `c.Set(OpUserIDPlatformID, …)`, `c.Set(OpUserID, …)`, then `c.Next()`. -/
  | next (opUserID : String) (opUserIDPlatformID : Int)
  /-- `apiresp.GinError(c, err)`, then `c.Abort()`. -/
  | abort (err : Err)
  /-- A method other than POST: the handler touches nothing. -/
  | untouched
  deriving DecidableEq, Repr

/-- `GinParseToken(rdb)` applied to a request with method `method` and token
header `token`. `getTokensWithoutError uid platform` is the token store's map
from each token of that user and platform to its status. -/
def ginParseToken (k : Constant) (getClaimFromToken : String → Except Err Claims)
    (getTokensWithoutError : String → String → Except Err (List (String × Int)))
    (method token : String) : TokenOutcome :=
  if method = "POST" then
    if token = "" then .abort (.code .args "")
    else
      match getClaimFromToken token with
      | .error _ => .abort (.code .tokenUnknown "")
      | .ok claims =>
        match getTokensWithoutError claims.uid claims.platform with
        | .error _ => .abort (.code .tokenNotExist "")
        | .ok m =>
          if m.length = 0 then .abort (.code .tokenNotExist "")
          else
            let next := TokenOutcome.next claims.uid (k.platformNameToID claims.platform)
            match m.lookup token with
            | some v =>
              if v = k.normalToken then next
              else if v = k.kickedToken then .abort (.code .tokenKicked "")
              else .abort (.code .tokenUnknown "")
            | none => next
  else .untouched

/-- A parsable token that the non-empty store does not list is let through. -/
theorem ginParseToken_accepts_unlisted_token :
    ginParseToken Constant.openIM (fun _ => .ok { uid := "u1", platform := "Web" })
        (fun _ _ => .ok [("t2", 0)]) "POST" "t1" = .next "u1" 5 := by
  decide

/-! ## GinParseOperationID -/

/-- What `GinParseOperationID` does to a request's gin context. -/
inductive OperationIDOutcome where
  /-- `c.Set(constant.OperationID, …)` for a POST request (`none` otherwise),
  then `c.Next()`. -/
  | next (operationID : Option String)
  /-- `c.String(status, body)`, then `c.Abort()`. -/
  | abort (status : Nat) (body : String)
  deriving DecidableEq, Repr

/-- `GinParseOperationID()` applied to a request with method `method` and
`operationID` header `header`. `readBody` is `io.ReadAll(c.Request.Body)` and
`unmarshal` is `json.Unmarshal` into the one-field request struct, giving its
`operationID` (`""` when absent); an error is given by its text. -/
def ginParseOperationID (method header : String) (readBody : Except String String)
    (unmarshal : String → Except String String) : OperationIDOutcome :=
  if method = "POST" then
    if header = "" then
      match readBody with
      | .error err => .abort 400 ("read request body error: " ++ err)
      | .ok body =>
        match unmarshal body with
        | .error err => .abort 400 ("get operationID error: " ++ err)
        | .ok operationID =>
          if operationID = "" then .abort 400 "operationID empty"
          else .next (some operationID)
    else .next (some header)
  else .next none

end OpenIMServer.Mw

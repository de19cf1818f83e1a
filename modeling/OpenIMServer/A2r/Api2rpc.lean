import OpenIMServer.Common.Base

/-!
# The API-to-RPC call

`a2r.Call` of `pkg/a2r/api2rpc.go`: bind the JSON body, validate it, call the
RPC, run the `after` hooks on the answer, respond; the hooks reach the answer
through its pointer, so each sees what the hooks before it made of it.
`a2r.List`, which swaps a nil slice for an empty one, changes only the JSON
encoding (`null` against `[]`), and is not modelled.
-/

namespace OpenIMServer.A2r

/-- What `Call` writes to the gin context. -/
inductive CallOutcome (B : Type) where
  /-- `apiresp.GinError(c, err)`. -/
  | ginError (err : Err)
  /-- `apiresp.GinSuccess(c, data)`. -/
  | ginSuccess (data : B)
  deriving DecidableEq, Repr

/-- `Call(rpc, client, c, after...)`. `bindJSON` is `c.BindJSON(&req)` and
`validate` is `checker.Validate(&req)`, each failing with its error's text; a
hook is what it does to the answer through `*B`. -/
def call {A B : Type} (bindJSON : Except String A) (validate : A → Except String Unit)
    (rpc : A → Except Err B) (after : List (B → B)) : CallOutcome B :=
  match bindJSON with
  | .error err => .ginError (.withDetail .args err)
  | .ok req =>
    match validate req with
    | .error err => .ginError (.code .args err)
    | .ok () =>
      match rpc req with
      | .error err => .ginError err
      | .ok data => .ginSuccess (after.foldl (fun data fn => fn data) data)

end OpenIMServer.A2r

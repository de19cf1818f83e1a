import OpenIMServer.MsgGateway.HubServer

/-!
# Eviction: KickUserOffline is fail-fast over one session list

The handler nests a loop over the requested users inside a loop over each
user's platform sessions, and returns on the first `KickOnlineMessage` error.
`kickUsers_eq` flattens the nesting: the run is the inner loop over the
concatenation of every user's lookup. On that list the behaviour is read off
the first failing call: everything before it is kicked, the failing session
is the last one kicked, and its error is the handler's.
-/

namespace OpenIMServer.MsgGateway

/-- The sessions a kick walks, in order: the found platform lookups of the
requested users, concatenated (a user not found contributes nothing). -/
def kickTargets (s : Server) (platformID : Int) (userIDs : List String) : List (Option Client) :=
  userIDs.flatMap fun v => (s.longConnServer.getUserPlatformCons v platformID).getD []

/-- The client loop over a concatenation runs the second part only when the
first ends without error. -/
theorem kickClients_append (kickOnlineMessage : Nat → Option Err)
    (clients rest log : List (Option Client)) :
    kickClients kickOnlineMessage (clients ++ rest) log =
      match kickClients kickOnlineMessage clients log with
      | (some err, log') => (some err, log')
      | (none, log') => kickClients kickOnlineMessage rest log' := by
  induction clients generalizing log with
  | nil => rfl
  | cons client clients ih =>
    simp only [List.cons_append, kickClients]
    split <;> simp [ih]

theorem kickUsers_eq (s : Server) (kickOnlineMessage : Nat → Option Err) (platformID : Int)
    (userIDs : List String) (log : List (Option Client)) :
    kickUsers s kickOnlineMessage platformID userIDs log =
      kickClients kickOnlineMessage (kickTargets s platformID userIDs) log := by
  induction userIDs generalizing log with
  | nil => rfl
  | cons v vs ih =>
    cases h : s.longConnServer.getUserPlatformCons v platformID with
    | none => simpa [kickUsers, kickTargets, h] using ih log
    | some clients =>
      simp only [kickUsers, h, kickTargets, List.flatMap_cons, Option.getD_some,
        kickClients_append]
      rcases kickClients kickOnlineMessage clients log with ⟨_ | err, log'⟩
      · exact ih log'
      · rfl

/-- With no failing call, the loop kicks every client and ends without error. -/
theorem kickClients_ok (kickOnlineMessage : Nat → Option Err) (clients log : List (Option Client))
    (h : ∀ i < clients.length, kickOnlineMessage (log.length + i) = none) :
    kickClients kickOnlineMessage clients log = (none, log ++ clients) := by
  induction clients generalizing log with
  | nil => simp [kickClients]
  | cons client clients ih =>
    have h0 : kickOnlineMessage log.length = none := by simpa using h 0 (by simp)
    have hrest : ∀ i < clients.length,
        kickOnlineMessage ((log ++ [client]).length + i) = none := fun i hi => by
      simpa [Nat.add_assoc, Nat.add_comm 1] using h (i + 1) (by simpa using hi)
    simp [kickClients, h0, ih _ hrest]

/-- The loop stops at the first failing call `i`, after kicking the first `i + 1`
clients, with that call's error. -/
theorem kickClients_error (kickOnlineMessage : Nat → Option Err)
    (clients log : List (Option Client)) (i : Nat) (err : Err) (hi : i < clients.length)
    (he : kickOnlineMessage (log.length + i) = some err)
    (hbefore : ∀ j < i, kickOnlineMessage (log.length + j) = none) :
    kickClients kickOnlineMessage clients log = (some err, log ++ clients.take (i + 1)) := by
  induction clients generalizing log i with
  | nil => simp at hi
  | cons client clients ih =>
    cases i with
    | zero => simp_all [kickClients]
    | succ i =>
      have h0 : kickOnlineMessage log.length = none := by simpa using hbefore 0 (by omega)
      have := ih (log ++ [client]) i (by simpa using hi)
        (by simpa [Nat.add_assoc, Nat.add_comm 1] using he)
        (fun j hj => by simpa [Nat.add_assoc, Nat.add_comm 1] using hbefore (j + 1) (by omega))
      simp [kickClients, h0, this]

/-- **Fail-fast kick.** Let `S` be the sessions of the requested users'
platform lookups, concatenated in request order. If no `KickOnlineMessage`
call on `S` fails, every session of `S` is kicked once, in order, and the
handler answers with a response and no error. Otherwise, with `i` the first
failing call, exactly the first `i + 1` sessions of `S` are kicked and the
handler answers with no response and that call's error. -/
theorem kickUserOffline_fail_fast (s : Server) (kickOnlineMessage : Nat → Option Err)
    (req : KickUserOfflineReq) (log : List (Option Client)) :
    ((∀ i < (kickTargets s req.platformID req.kickUserIDList).length,
        kickOnlineMessage (log.length + i) = none) →
      kickUserOffline s kickOnlineMessage req log =
        (.ok {}, log ++ kickTargets s req.platformID req.kickUserIDList)) ∧
    (∀ i err, i < (kickTargets s req.platformID req.kickUserIDList).length →
      kickOnlineMessage (log.length + i) = some err →
      (∀ j < i, kickOnlineMessage (log.length + j) = none) →
      kickUserOffline s kickOnlineMessage req log =
        (.error err, log ++ (kickTargets s req.platformID req.kickUserIDList).take (i + 1))) := by
  refine ⟨fun h => ?_, fun i err hi he hbefore => ?_⟩
  · simp [kickUserOffline, kickUsers_eq, kickClients_ok _ _ _ h]
  · simp [kickUserOffline, kickUsers_eq, kickClients_error _ _ _ i err hi he hbefore]

end OpenIMServer.MsgGateway

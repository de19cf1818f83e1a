import OpenIMServer.Notification.Handlers
import OpenIMServer.Notification.Recipients

/-!
# What the other senders send

The single-message handlers share one body, so what they send is stated once,
for `notifyGroup`: at most one message, from the operator, to the empty
receiver ID (`groupNotification` does not read the group ID it is passed), and
only once the group and the users of the tips are found. The handlers that name
their users through `getGroupMemberMap` inherit `getGroupMembers`' owner
filter: an admin muting an ordinary member sends tips that name neither.

`JoinGroupApplicationNotification` reaches each owner and admin once, and the
tips of `GroupInfoSetNotification` give the owner as the operator.
-/

namespace OpenIMServer.Notification

/-! ## The shared body -/

theorem sendGroupNotification_eq (notify : Nat → Option Err) (contentType : Int) (tips : Tips)
    (sendID : String) (log : List NotificationMsg) :
    sendGroupNotification notify contentType tips sendID log =
      ((notify log.length).elim (.ok ()) .error,
       log ++ [{ sendID := sendID, recvID := "", contentType := contentType
                 content := tips }]) := by
  unfold sendGroupNotification groupNotification
  cases notify log.length <;> rfl

theorem notifyGroup_eq {α : Type} (k : Constant) (g : GroupNotificationSender)
    (notify : Nat → Option Err) (ctx : Ctx) (groupID : String) (lookup : Except Err α)
    (contentType : Int) (mkTips : GroupInfo → α → Tips) (log : List NotificationMsg) :
    notifyGroup k g notify ctx groupID lookup contentType mkTips log =
      match getGroupInfo k g groupID, lookup with
      | .error err, _ => (.error err, log)
      | .ok _, .error err => (.error err, log)
      | .ok group, .ok users =>
        ((notify log.length).elim (.ok ()) .error,
         log ++ [{ sendID := ctx.opUserID, recvID := "", contentType := contentType
                   content := mkTips group users }]) := by
  unfold notifyGroup
  cases getGroupInfo k g groupID <;> cases lookup <;> simp [sendGroupNotification_eq]

/-- **One message, to no user.** A single-message handler sends at most one
message, from the operator, with its content type and the empty receiver ID. -/
theorem notifyGroup_sent {α : Type} (k : Constant) (g : GroupNotificationSender)
    (notify : Nat → Option Err) (ctx : Ctx) (groupID : String) (lookup : Except Err α)
    (contentType : Int) (mkTips : GroupInfo → α → Tips) (log : List NotificationMsg) :
    ∃ sent, (notifyGroup k g notify ctx groupID lookup contentType mkTips log).2 = log ++ sent ∧
      sent.length ≤ 1 ∧ ∀ msg ∈ sent,
        msg.sendID = ctx.opUserID ∧ msg.recvID = "" ∧ msg.contentType = contentType := by
  rw [notifyGroup_eq]
  cases getGroupInfo k g groupID with
  | error err => exact ⟨[], by simp, by simp, by simp⟩
  | ok group =>
    cases lookup with
    | error err => exact ⟨[], by simp, by simp, by simp⟩
    | ok users => exact ⟨_, rfl, by simp, by simp⟩

/-! ## Whom the member lookups name -/

/-- A user `getGroupMembers` leaves out: no owner row of the group is theirs,
and the user service reports no record of theirs with level `AppAdmin`. -/
def OrdinaryFor (k : Constant) (g : GroupNotificationSender) (groupID : String)
    (userIDs : List String) (u : String) : Prop :=
  (∀ m ∈ g.db.members, m.groupID = groupID → m.userID = u → m.roleLevel ≠ k.groupOwner) ∧
  ∀ users, g.getUsersInfo userIDs = .ok users →
    ∀ info ∈ users, info.userID = u → info.appMangerLevel ≠ k.appAdmin

theorem not_mem_getGroupMembers {k : Constant} {g : GroupNotificationSender} {groupID : String}
    {userIDs : List String} {members : List GroupMemberFullInfo} {u : String}
    (h : getGroupMembers k g groupID userIDs = .ok members)
    (hu : OrdinaryFor k g groupID userIDs u) : u ∉ members.map (·.userID) := by
  have hids := getGroupMembers_userIDs k g groupID userIDs
  rw [h] at hids
  unfold getUsersInfoMap at hids
  cases hrows : g.db.findGroupMember [groupID] userIDs [k.groupOwner] with
  | error err => simp [hrows, Except.bind, Except.map] at hids
  | ok rows =>
    cases hget : g.getUsersInfo userIDs with
    | error err => simp [hrows, hget, Except.bind, Except.map] at hids
    | ok users =>
      simp only [hrows, hget, Except.bind, Except.map, Except.ok.injEq] at hids
      rw [hids, List.mem_append, not_or]
      constructor
      · -- the store rows: owners of the group
        simp only [List.mem_map, not_exists, not_and]
        intro m hm hmu
        rw [GroupDatabase.findGroupMember_eq_ok hrows] at hm
        simp [GroupDatabase.groupMemberRows, GroupDatabase.admits] at hm
        exact hu.1 m hm.1 hm.2.1.1 hmu hm.2.2
      · -- the map entries: app admins the service reported
        simp only [List.mem_map, List.mem_filter, not_exists, not_and, Bool.and_eq_true,
          decide_eq_true_eq]
        intro e he heu
        rcases GoMap.mem_foldl_set _ users GoMap.empty e he.1 with h0 | ⟨hmem, hkey⟩
        · simp [GoMap.empty] at h0
        · exact hu.2 users hget e.2 hmem (by simpa [hkey] using heu) he.2.2

/-- **`getGroupMemberMap` finds each member under its user ID.** For every
store and user service, a lookup in the map is a search of the members
`getGroupMembers` returns; as none comes back twice, the member found is the
only one with that user ID. -/
theorem getGroupMemberMap_get_eq_find (k : Constant) (g : GroupNotificationSender)
    (groupID : String) (userIDs : List String) (u : String) :
    (getGroupMemberMap k g groupID userIDs).map (·.get u) =
      (getGroupMembers k g groupID userIDs).map (·.find? (·.userID == u)) := by
  unfold getGroupMemberMap
  cases h : getGroupMembers k g groupID userIDs with
  | error err => rfl
  | ok members =>
    simp only [Except.map]
    rw [GoMap.get_foldl_set_of_nodup _ _ _ (getGroupMembers_nodup k g groupID userIDs h)]
    exact congrArg Except.ok Option.or_none

/-- **`getGroupMemberMap` is a round trip.** Whenever `getGroupMembers`
answers, no user is in its answer twice, and the map built from it holds
exactly its members, each under its own user ID. -/
theorem getGroupMemberMap_get_iff (k : Constant) (g : GroupNotificationSender) (groupID : String)
    (userIDs : List String) {members : List GroupMemberFullInfo}
    (h : getGroupMembers k g groupID userIDs = .ok members) :
    (members.map (·.userID)).Nodup ∧ ∃ m, getGroupMemberMap k g groupID userIDs = .ok m ∧
      ∀ u x, m.get u = some x ↔ x ∈ members ∧ x.userID = u := by
  have hnd := getGroupMembers_nodup k g groupID userIDs h
  have hmap : getGroupMemberMap k g groupID userIDs =
      .ok (members.foldl (fun m member => m.set member.userID member) GoMap.empty) := by
    simp [getGroupMemberMap, h, Except.map]
  refine ⟨hnd, _, hmap, fun u x => ?_⟩
  have hget := getGroupMemberMap_get_eq_find k g groupID userIDs u
  simp only [hmap, h, Except.map, Except.ok.injEq] at hget
  rw [hget]
  constructor
  · intro hf
    exact ⟨List.mem_of_find?_eq_some hf, by simpa using List.find?_some hf⟩
  · rintro ⟨hx, rfl⟩
    obtain ⟨y, hy⟩ := Option.isSome_iff_exists.mp
      (List.find?_isSome (p := (·.userID == x.userID)).mpr ⟨x, hx, beq_self_eq_true _⟩)
    have hyx : y.userID = x.userID := by simpa using List.find?_some hy
    rw [hy, List.inj_on_of_nodup_map hnd (List.mem_of_find?_eq_some hy) hx hyx]

/-- Asked for the owner `o` and the member `u`, `getGroupMembers` returns the
owner alone, its nickname completed from its user record. -/
theorem getGroupMemberMap_get_iff_owner :
    getGroupMembers Constant.openIM ownerAndMember "g" ["o", "u"] =
        .ok [groupMemberDB2PB { memberOf "o" 100 with nickname := "o" } 1] ∧
      (([groupMemberDB2PB { memberOf "o" 100 with nickname := "o" } 1].map (·.userID)).Nodup ∧
        ∃ m, getGroupMemberMap Constant.openIM ownerAndMember "g" ["o", "u"] = .ok m ∧
          ∀ u x, m.get u = some x ↔
            x ∈ [groupMemberDB2PB { memberOf "o" 100 with nickname := "o" } 1] ∧ x.userID = u) :=
  ⟨rfl, getGroupMemberMap_get_iff Constant.openIM ownerAndMember "g" ["o", "u"] rfl⟩

theorem getGroupMemberMap_get {k : Constant} {g : GroupNotificationSender} {groupID : String}
    {userIDs : List String} {m : GoMap GroupMemberFullInfo} {u : String}
    (h : getGroupMemberMap k g groupID userIDs = .ok m)
    (hu : OrdinaryFor k g groupID userIDs u) : m.get u = none := by
  unfold getGroupMemberMap at h
  cases hm : getGroupMembers k g groupID userIDs with
  | error err => simp [hm, Except.map] at h
  | ok members =>
    simp only [hm, Except.map, Except.ok.injEq] at h
    subst h
    exact (GoMap.get_foldl_set _ members GoMap.empty u (not_mem_getGroupMembers hm hu)).trans rfl

/-- **A muted ordinary member is named by no one.** When neither the operator
nor the muted user owns the group or is an app admin (an admin muting an
ordinary member), the tips `GroupMemberMutedNotification` sends have a nil
`OpUser` and a nil `MutedUser`. -/
theorem groupMemberMutedNotification_users_nil (k : Constant) (g : GroupNotificationSender)
    (notify : Nat → Option Err) (ctx : Ctx) (groupID groupMemberUserID : String)
    (mutedSeconds : Nat) (log : List NotificationMsg)
    (hop : OrdinaryFor k g groupID [ctx.opUserID, groupMemberUserID] ctx.opUserID)
    (hmuted : OrdinaryFor k g groupID [ctx.opUserID, groupMemberUserID] groupMemberUserID) :
    ∀ msg ∈ (groupMemberMutedNotification k g notify ctx groupID groupMemberUserID mutedSeconds
        log).2.drop log.length,
      ∃ group, msg.content = .groupMemberMuted group mutedSeconds none none := by
  unfold groupMemberMutedNotification
  rw [notifyGroup_eq]
  cases getGroupInfo k g groupID with
  | error err => simp
  | ok group =>
    cases hm : getGroupMemberMap k g groupID [ctx.opUserID, groupMemberUserID] with
    | error err => simp
    | ok users =>
      simp only [List.drop_left, List.mem_singleton, forall_eq]
      exact ⟨group, by rw [getGroupMemberMap_get hm hop, getGroupMemberMap_get hm hmuted]⟩

/-- The admin `a` of `withAdmin` mutes the ordinary member `u`. -/
theorem groupMemberMutedNotification_users_nil_admin :
    OrdinaryFor Constant.openIM withAdmin "g" ["a", "u"] "a" ∧
    OrdinaryFor Constant.openIM withAdmin "g" ["a", "u"] "u" ∧
    ∀ msg ∈ (groupMemberMutedNotification Constant.openIM withAdmin (fun _ => none) ⟨"a"⟩ "g" "u"
        60 []).2.drop ([] : List NotificationMsg).length,
      ∃ group, msg.content = .groupMemberMuted group 60 none none :=
  have hfor : ∀ u, u = "a" ∨ u = "u" → OrdinaryFor Constant.openIM withAdmin "g" ["a", "u"] u :=
    fun u hu => ⟨by rcases hu with rfl | rfl <;> decide, fun users h info hinfo _ => by
      cases h
      simp only [List.map_cons, List.map_nil, List.mem_cons, List.mem_singleton,
        List.not_mem_nil, or_false] at hinfo
      rcases hinfo with rfl | rfl <;> decide⟩
  have hop := hfor "a" (.inl rfl)
  have hmuted := hfor "u" (.inr rfl)
  ⟨hop, hmuted, groupMemberMutedNotification_users_nil Constant.openIM withAdmin (fun _ => none)
    ⟨"a"⟩ "g" "u" 60 [] hop hmuted⟩

/-! ## The application and the info change -/

theorem joinGroupApplicationNotification_log (k : Constant) (g : GroupNotificationSender)
    (notify : Nat → Option Err) (ctx : Ctx) (req : JoinGroupReq) (log : List NotificationMsg) :
    (joinGroupApplicationNotification k g notify ctx req log).2 =
      match getGroupInfo k g req.groupID, getUser g req.inviterUserID,
          getGroupOwnerAndAdminUserID k g req.groupID with
      | .ok group, .ok user, .ok userIDs =>
        log ++ userIDs.map fun userID =>
          { sendID := ctx.opUserID, recvID := userID
            contentType := k.joinGroupApplicationNotification
            content := .joinGroupApplication group user req.reqMessage }
      | _, _, _ => log := by
  unfold joinGroupApplicationNotification
  cases getGroupInfo k g req.groupID <;> cases getUser g req.inviterUserID <;>
    cases getGroupOwnerAndAdminUserID k g req.groupID <;> simp [notifyEach_eq]

/-- **An application reaches each owner and admin once.** Its messages go to
distinct users, the owners and admins of the group. -/
theorem joinGroupApplicationNotification_recipients_nodup (k : Constant)
    (g : GroupNotificationSender) (notify : Nat → Option Err) (ctx : Ctx) (req : JoinGroupReq)
    (log : List NotificationMsg) :
    (((joinGroupApplicationNotification k g notify ctx req log).2.drop log.length).map
      (·.recvID)).Nodup := by
  rw [joinGroupApplicationNotification_log]
  split
  · next hids => simpa [Function.comp_def] using getGroupOwnerAndAdminUserID_nodup hids
  · simp

/-- **The info-change tips give the owner as the operator.** Whoever the
operator is, the tips `GroupInfoSetNotification` sends have an `OpUser` built
from a member of role `GroupOwner`, and a group with the `NeedVerification`
asked for. -/
theorem groupInfoSetNotification_opUser (k : Constant) (g : GroupNotificationSender)
    (notify : Nat → Option Err) (ctx : Ctx) (group : GroupModel)
    (members : List GroupMemberModel) (needVerification : Option Int)
    (log : List NotificationMsg) (r : Except Err Unit) (log' : List NotificationMsg)
    (h : groupInfoSetNotification k g notify ctx group members needVerification log =
      .ret (r, log'))
    (msg : NotificationMsg) (hmsg : msg ∈ log'.drop log.length) :
    ∃ tipsGroup m level, msg.content = .groupInfoSet tipsGroup (some (groupMemberDB2PB m level)) ∧
      (∃ ms, mergeMembers g group.groupID (some members) = .ok ms ∧ m ∈ ms) ∧
      m.roleLevel = k.groupOwner ∧
      ∀ v, needVerification = some v → tipsGroup.needVerification = v := by
  unfold groupInfoSetNotification at h
  obtain ⟨res, hres, h⟩ := GoRun.bind_eq_ret.mp h
  cases res with
  | error err =>
    simp only [GoRun.pure_eq, GoRun.ret.injEq, Prod.mk.injEq] at h
    simp [← h.2] at hmsg
  | ok tips =>
    obtain ⟨ms, hms, m, hm, hrole, level, howner, -⟩ := mergeGroupFull_ok k g ctx _ _ _ _ tips hres
    simp only [GoRun.pure_eq, GoRun.ret.injEq, sendGroupNotification_eq, Prod.mk.injEq] at h
    rw [← h.2, List.drop_left, List.mem_singleton] at hmsg
    subst hmsg
    exact ⟨_, m, level, by rw [howner], ⟨ms, hms, hm⟩, hrole, fun v hv => by simp [hv]⟩

/-- The message `GroupInfoSetNotification` sends when the admin `a` sets
`NeedVerification` to `1` in `withAdmin`: the owner `o` is its operator. -/
def infoSetMsg : NotificationMsg :=
  { sendID := "a", recvID := "", contentType := Constant.openIM.groupInfoSetNotification
    content := .groupInfoSet { groupDB2PB groupG "o" 3 with needVerification := 1 }
      (some (groupMemberDB2PB (memberOf "o" 100) 1)) }

theorem groupInfoSetNotification_opUser_admin :
    groupInfoSetNotification Constant.openIM withAdmin (fun _ => none) ⟨"a"⟩ groupG
        withAdmin.db.members (some 1) [] = .ret (.ok (), [infoSetMsg]) ∧
      infoSetMsg ∈ [infoSetMsg].drop ([] : List NotificationMsg).length ∧
      ∃ tipsGroup m level, infoSetMsg.content =
          .groupInfoSet tipsGroup (some (groupMemberDB2PB m level)) ∧
        (∃ ms, mergeMembers withAdmin groupG.groupID (some withAdmin.db.members) = .ok ms ∧
          m ∈ ms) ∧
        m.roleLevel = Constant.openIM.groupOwner ∧
        ∀ v, some (1 : Int) = some v → tipsGroup.needVerification = v :=
  have h : groupInfoSetNotification Constant.openIM withAdmin (fun _ => none) ⟨"a"⟩ groupG
      withAdmin.db.members (some 1) [] = .ret (.ok (), [infoSetMsg]) := rfl
  have hmsg : infoSetMsg ∈ [infoSetMsg].drop ([] : List NotificationMsg).length :=
    List.mem_singleton_self _
  ⟨h, hmsg, groupInfoSetNotification_opUser Constant.openIM withAdmin (fun _ => none) ⟨"a"⟩ groupG
    withAdmin.db.members (some 1) [] (.ok ()) [infoSetMsg] h infoSetMsg hmsg⟩

end OpenIMServer.Notification

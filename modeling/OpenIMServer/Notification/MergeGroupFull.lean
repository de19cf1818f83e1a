import OpenIMServer.Notification.GroupMembers

/-!
# mergeGroupFull and its nil dereferences

`mergeGroupFull` looks for the operator and the owner among the members and
then reads `groupOwnerMember.UserID`. What it returns is right: tips always
carry an owner built from a member of role `GroupOwner`, whose ID is the
group's owner ID (`mergeGroupFull_ok`). But it has no branch for a member list
without an owner, which `getGroupInfo` turns into `ErrInternalServer`: there the
read of `groupOwnerMember.UserID` panics (`mergeGroupFull_no_owner`). Reading
`userMap[member.UserID].AppMangerLevel` for the operator or the owner panics
too when that member has no user record, a case `groupMemberFullInfo` guards.
-/

namespace OpenIMServer.Notification

/-- An assignment keeps the current value, or, when its condition holds, builds
the member from its user record. -/
theorem pickMember_ret {userMap : GoMap UserInfo} {member : GroupMemberModel} {cond : Bool}
    {current x : Option GroupMemberFullInfo}
    (h : pickMember userMap member cond current = .ret x) :
    x = current ∨ cond = true ∧ ∃ user, userMap.get member.userID = some user ∧
      x = some (groupMemberDB2PB member user.appMangerLevel) := by
  unfold pickMember at h
  cases cond with
  | false => exact .inl (by simpa using h.symm)
  | true =>
    simp only [if_true, GoRun.bind_eq_ret, deref_eq_ret, GoRun.pure_eq, GoRun.ret.injEq] at h
    obtain ⟨user, hu, rfl⟩ := h
    exact .inr ⟨rfl, user, hu, rfl⟩

/-- The owner the loop ends with is the one it started with, or is built from a
member of role `GroupOwner` that has a user record. -/
theorem findOpAndOwner_owner (k : Constant) (userMap : GoMap UserInfo) (opUserID : String)
    (members : List GroupMemberModel)
    (opUserMember groupOwnerMember op owner : Option GroupMemberFullInfo)
    (h : findOpAndOwner k userMap opUserID members opUserMember groupOwnerMember =
      .ret (op, owner)) :
    owner = groupOwnerMember ∨ ∃ m ∈ members, m.roleLevel = k.groupOwner ∧
      ∃ user, userMap.get m.userID = some user ∧
        owner = some (groupMemberDB2PB m user.appMangerLevel) := by
  induction members generalizing opUserMember groupOwnerMember with
  | nil =>
    simp only [findOpAndOwner, GoRun.pure_eq, GoRun.ret.injEq, Prod.mk.injEq] at h
    exact .inl h.2.symm
  | cons member members ih =>
    simp only [findOpAndOwner, GoRun.bind_eq_ret] at h
    obtain ⟨op₁, -, owner₁, h2, h⟩ := h
    -- the owner after the rest of the list is the one after this member, or one of the rest
    have later : owner = owner₁ ∨ ∃ m ∈ members, m.roleLevel = k.groupOwner ∧
        ∃ user, userMap.get m.userID = some user ∧
          owner = some (groupMemberDB2PB m user.appMangerLevel) := by
      split at h
      · simp only [GoRun.pure_eq, GoRun.ret.injEq, Prod.mk.injEq] at h
        exact .inl h.2.symm
      · exact ih _ _ h
    rcases later with rfl | ⟨m, hm, hr, user, hu, rfl⟩
    · rcases pickMember_ret h2 with h2 | ⟨hr, user, hu, rfl⟩
      · exact .inl h2
      · exact .inr ⟨member, List.mem_cons_self _ _, by simpa using hr, user, hu, rfl⟩
    · exact .inr ⟨m, List.mem_cons_of_mem _ hm, hr, user, hu, rfl⟩

/-- **Tips carry the owner.** Whenever `mergeGroupFull` returns tips, their
owner is built from a member of role `GroupOwner` of the list it worked on, the
group's owner ID is that member's, and the member count is the list's length
as a `uint32`. -/
theorem mergeGroupFull_ok (k : Constant) (g : GroupNotificationSender) (ctx : Ctx)
    (groupID : String) (group : Option GroupModel) (ms : Option (List GroupMemberModel))
    (users : Option (GoMap UserInfo)) (tips : GroupCreatedTips)
    (h : mergeGroupFull k g ctx groupID group ms users = .ret (.ok tips)) :
    ∃ members, mergeMembers g groupID ms = .ok members ∧
      ∃ m ∈ members, m.roleLevel = k.groupOwner ∧ ∃ level,
        tips.groupOwnerUser = some (groupMemberDB2PB m level) ∧
        tips.group.ownerUserID = m.userID ∧ tips.group.memberCount = uint32 members.length := by
  unfold mergeGroupFull at h
  cases hg : mergeGroup g groupID group with
  | error err => simp [hg] at h
  | ok group =>
    cases hms : mergeMembers g groupID ms with
    | error err => simp [hg, hms] at h
    | ok members =>
      cases hu : mergeUsers g members ctx.opUserID users with
      | error err => simp [hg, hms, hu] at h
      | ok userMap =>
        simp only [hg, hms, hu, GoRun.bind_eq_ret, GoRun.pure_eq, GoRun.ret.injEq,
          Except.ok.injEq] at h
        obtain ⟨⟨op, owner⟩, hf, _, hb, rfl⟩ := h
        rcases findOpAndOwner_owner k userMap ctx.opUserID _ none none op owner hf with
          rfl | ⟨m, hm, hr, user, -, rfl⟩
        · simp [buildGroupCreatedTips, deref] at hb
        · simp only [buildGroupCreatedTips, deref, GoRun.ret_bind, GoRun.pure_eq,
            GoRun.ret.injEq] at hb
          subst hb
          exact ⟨members, rfl, m, hm, hr, user.appMangerLevel, rfl, rfl, rfl⟩

/-- Group `g` whose only member `u` is an ordinary one. -/
def withoutOwner : GroupNotificationSender :=
  { db := { groups := [groupG], members := [memberOf "u" 20], members_unique := by decide }
    getUsersInfo := fun userIDs => .ok (userIDs.map ordinaryUser) }

/-- Two panics. The operator `u` of a group without an owner row: the fetched
member list has no owner. A passed-in owner `o` without a user record. -/
theorem mergeGroupFull_nil_deref :
    mergeGroupFull Constant.openIM withoutOwner ⟨"u"⟩ "g" none none none = .nilDeref ∧
      mergeGroupFull Constant.openIM withoutOwner ⟨"u"⟩ "g" (some groupG)
        (some [memberOf "o" 100]) (some (usersMap [ordinaryUser "u"])) = .nilDeref :=
  ⟨rfl, rfl⟩

end OpenIMServer.Notification

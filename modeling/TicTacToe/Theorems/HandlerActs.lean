import TicTacToe.Theorems.RoomActs

/-! # Command handlers drive the room machine

A handler either refuses the command or answers it from the cache, and then nothing happens to any room, or
it processes the command as one step of the room machine for its room. -/

namespace TicTacToe
namespace Server
variable {s t u : Server} {r r' : RoomId} {G : IdSource} {c : ConnectionId} {commandId : CommandId}
  {token : SessionToken} {p : PlayerId}

/-! ### Joining -/

theorem rejoinRoom_acts {room : RoomRecord} {slot : PlayerSlot} (hc : s.cached commandId = none)
    (hroom : s.getRoom r = some room) (hslot : getSlotByPlayerId room p = some slot) :
    Acts G s (s.rejoinRoom c commandId r p slot).server r (.rejoined p) := by
  refine .respond ?_ hc c _ _
  refine .of_view rfl (Nat.le_refl _) rfl (.rejoined (p := p) (view_room_of_getRoom hroom) (by simp [hslot]))
    (fun r' => ?_) (by simp [allocateSequence]) (fun _ => rfl) id
    (fun _ => Option.isSome_of_eq_some hroom)
  rw [view_allocateSequence]
  split
  · rename_i hr
    subst hr
    rfl
  · rfl

theorem enterRoom_acts {room room' : RoomRecord} {name : Option PlayerName} {symbol : PlayerSymbol}
    {session : PlayerSession} (hc : s.cached commandId = none) (hsession : s.getSession token = some session)
    (hassoc : session.roomId.any (· ≠ r) = false) (hroom : s.getRoom r = some room)
    (hslot : getSlotByPlayerId room session.playerId = none)
    (hadd : room.addPlayer s.now session.playerId name = some (symbol, room')) :
    Acts G s (s.enterRoom c commandId r token session.playerId name symbol room').server r
      (.entered session.playerId) := by
  have hhas : s.HasSession session.playerId none ∨ s.HasSession session.playerId (some r) := by
    have h := HasSession.of_getSession hsession
    cases hr : session.roomId with
    | none => exact Or.inl (hr ▸ h)
    | some r' =>
      obtain rfl : r' = r := by simpa [hr] using hassoc
      exact Or.inr (hr ▸ h)
  have hview : ∀ r', (((s.putRoom r (room'.touch s.now)).setSessionRoom token (some r)).ensureGameSession r).view r' =
      if r = r' then ⟨some (room'.touch s.now), some ((s.view r').gameOrNew r), (s.view r').records⟩ else s.view r' := by
    intro r'
    have hs : ∀ r, ((s.putRoom r (room'.touch s.now)).setSessionRoom token (some r)).view r' =
        (s.putRoom r (room'.touch s.now)).view r' := fun _ => rfl
    rw [view_ensureGameSession, hs, view_putRoom]
    split <;> rfl
  have hlive : SameLive s (((s.putRoom r (room'.touch s.now)).setSessionRoom token (some r)).ensureGameSession r) :=
    fun r' => (congrArg Option.isSome (getRoom_ensureGameSession _ r r')).trans
      (putRoom_live hroom (RoomRecord.touch_live _ _) r')
  -- `k` sequence numbers are drawn: one for ROOM_JOINED, one more for PLAYER_JOINED when somebody is there.
  have hdraw : ∀ (t : Server) (k : Nat), t.now = s.now → t.nextId = s.nextId →
      t.sessions = s.sessions.setRoom token (some r) → t.sendLog = s.sendLog → SameLive s t →
      (∀ r', t.view r' = if r = r' then
        ⟨some (room'.touch s.now), some (((s.view r).gameOrNew r).bump k), (s.view r).records⟩ else s.view r') →
      Acts G s t r (.entered session.playerId) := by
    intro t k hnow hid hs hlog hl hv
    exact .of_setRoom hnow (Nat.le_of_eq hid.symm) (stored_of_getSession hsession) hs
      (.entered (view_room_of_getRoom hroom) hslot hadd) hv (by simp [hlog]) hl (fun h => ⟨hhas, h⟩)
      (fun _ => Option.isSome_of_eq_some hroom)
  unfold enterRoom
  dsimp only
  split
  · refine .respond ?_ hc c _ _
    refine hdraw _ 1 ?_ ?_ ?_ ?_ hlive fun r' => ?_
    · simp [allocateSequence, setSessionRoom, putRoom]
    · simp [allocateSequence, setSessionRoom, putRoom]
    · simp [allocateSequence, setSessionRoom, putRoom]
    · simp [allocateSequence, setSessionRoom, putRoom]
    · rw [view_allocateSequence, hview]
      split
      · rename_i hr
        subst hr
        rfl
      · rfl
  · refine .respond ?_ hc c _ _
    refine hdraw _ 2 ?_ ?_ ?_ ?_ hlive fun r' => ?_
    · simp [allocateSequence, setSessionRoom, putRoom]
    · simp [allocateSequence, setSessionRoom, putRoom]
    · simp [allocateSequence, setSessionRoom, putRoom]
    · simp [allocateSequence, setSessionRoom, putRoom]
    · rw [view_allocateSequence, view_allocateSequence, hview]
      split
      · rename_i hr
        subst hr
        rfl
      · rfl

theorem enterRoom_records {room : RoomRecord} {symbol : PlayerSymbol} {name : Option PlayerName}
    (hnow : t.now = s.now) : Records s commandId (t.enterRoom c commandId r token p name symbol room) := by
  have hsame : (((t.putRoom r (room.touch t.now)).setSessionRoom token (some r)).ensureGameSession r).now = s.now := by
    rw [ensureGameSession_now]
    exact hnow
  unfold enterRoom
  dsimp only
  have hgame : (((((t.putRoom r (room.touch t.now)).setSessionRoom token (some r)).ensureGameSession r).allocateSequence
      r).gameSessions.get r) ≠ none := by
    simp [allocateSequence, JsMap.get_modify, ensureGameSession_game]
  -- The second number that is drawn leaves the games as they are.
  split
  · exact .respond hsame fun _ => .of_snapshot rfl (buildRoomSnapshot_history hgame rfl)
  · exact .respond hsame fun _ => .of_snapshot rfl (buildRoomSnapshot_history hgame (allocateSequence_history _ r r))

theorem rejoinRoom_records {room : RoomRecord} {slot : PlayerSlot} (hnow : t.now = s.now)
    (hequipped : s.Equipped → t.Equipped) (hroom : t.getRoom r = some room)
    (hslot : getSlotByPlayerId room p = some slot) : Records s commandId (t.rejoinRoom c commandId r p slot) := by
  refine .respond hnow fun hs => .of_snapshot rfl ?_
  have hgame := hequipped hs r room p hroom (by simp [hslot])
  exact buildRoomSnapshot_history hgame (allocateSequence_history t r r)

/-- A processed `JOIN_ROOM` sends the state again to a player who holds a slot, and gives a slot to another one. -/
theorem handleJoinRoom_handling (s : Server) (c : ConnectionId) (commandId : CommandId) (r : RoomId)
    (playerName : Option PlayerName) (token : SessionToken) :
    Handling s c commandId token (resend c) (fun p result =>
      (Acts G s result.server r (.rejoined p) ∨ Acts G s result.server r (.entered p)) ∧ Records s commandId result)
      (s.handleJoinRoom c commandId r playerName token) := by
  unfold handleJoinRoom
  refine sessionCommand_handling _ fun session hs hc => ?_
  have hq := afterLookup_quiet s commandId
  have hsx : (s.afterLookup commandId).getSession token = some session := hs
  have hw : (s.afterLookup commandId).wire = s.wire := rfl
  generalize s.afterLookup commandId = x at hq hsx hw
  have hcx : x.cached commandId = none := (hq.cached commandId).trans hc
  split
  · exact Or.inl (.refuse hq hw _)
  rename_i hassoc
  rcases withRoom_cases x c commandId r _ with ⟨-, h⟩ | ⟨room, hroom, he⟩
  · exact Or.inl (h.of_quiet hq hw)
  rw [he]
  cases hslot : getSlotByPlayerId room session.playerId with
  | some slot =>
    exact Or.inr ⟨Or.inl (hq.still.trans_acts (rejoinRoom_acts hcx hroom hslot)),
      rejoinRoom_records hq.now (Equipped.to_quiet hq) hroom hslot⟩
  | none =>
    dsimp only
    split
    · exact Or.inl (.refuse hq hw _)
    cases hadd : room.addPlayer x.now session.playerId (sanitiseName playerName) with
    | none => exact Or.inl (.refuse hq hw _)
    | some added =>
      obtain ⟨symbol, room'⟩ := added
      have hentered := enterRoom_acts (G := G) (c := c) hcx hsx (Bool.eq_false_iff.mpr hassoc) hroom hslot hadd
      exact Or.inr ⟨Or.inr (hq.still.trans_acts hentered), enterRoom_records hq.now⟩

/-! ### Leaving -/

theorem vacateRoom_view (s : Server) (room : RoomRecord) (r' : RoomId) :
    ((((s.allocateSequence r).allocateSequence r).putRoom r (room.removePlayer s.now p)).setSessionRoom token none).view
      r' =
      if r = r' then ⟨some (room.removePlayer s.now p), (s.view r).game.map (·.bump 2), (s.view r).records⟩
      else s.view r' := by
  have h : ∀ u : Server, (u.setSessionRoom token none).view r' = u.view r' := fun _ => rfl
  rw [h, view_putRoom, view_allocateSequence, view_allocateSequence]
  split
  · rename_i hr
    subst hr
    simp only [Option.map_map]
    rfl
  · rfl

/-- The view after a session's method that may save a game of its own room. -/
theorem view_applyEffect_self (s : Server) {e : GameEffect}
    (hother : ∀ r', r' ≠ r → e.historyRepository.loadCompletedGames r' = s.historyRepository.loadCompletedGames r')
    (r' : RoomId) : (s.applyEffect r e).view r' =
      if r = r' then ⟨(s.view r).room, some e.session, e.historyRepository.loadCompletedGames r⟩ else s.view r' := by
  rw [view_applyEffect]
  split
  · rename_i hr
    subst hr
    rfl
  · rename_i hr
    rw [hother r' (Ne.symm hr)]
    rfl

theorem applyEffect_live (s : Server) (r : RoomId) (e : GameEffect) : SameLive s (s.applyEffect r e) :=
  fun r' => congrArg Option.isSome (getRoom_applyEffect s r r' e)

theorem applyEmitted_live (s : Server) (r : RoomId) (e : Emitted) : SameLive s (s.applyEmitted r e) :=
  fun r' => congrArg Option.isSome (getRoom_applyEmitted s r r' e)

/-- The end of a leave, in a state `t` with the same sessions and live rooms. -/
theorem vacateRoom_acts {room : RoomRecord} {session : PlayerSession} {slot : PlayerSlot} {v' : RoomView}
    {sends : List SendCall} (hc : s.cached commandId = none) (hsession : s.getSession token = some session)
    (hroom : s.getRoom r = some room) (hnow : t.now = s.now) (hid : t.nextId = s.nextId)
    (hs : t.sessions = s.sessions) (hlog : t.sendLog = s.sendLog ++ sends.map (r, ·))
    (hlive : ∀ r', t.getRoom r' = s.getRoom r')
    (hview : ∀ r', ((((t.allocateSequence r).allocateSequence r).putRoom r
      (room.removePlayer t.now session.playerId)).setSessionRoom token none).view r' =
      if r = r' then v' else s.view r')
    (hstep : RoomStep G s.now r s.nextId s.nextId (s.view r) (.left session.playerId) sends v') :
    Acts G s (t.vacateRoom c commandId r token session.playerId slot room).server r (.left session.playerId) := by
  have hl : SameLive t (t.putRoom r (room.removePlayer t.now session.playerId)) :=
    putRoom_live ((hlive r).trans hroom) (RoomRecord.removePlayer_live _ _ _)
  refine .respond ?_ hc c _ _
  refine .of_setRoom (x := none) hnow (Nat.le_of_eq hid.symm) (stored_of_getSession hsession) ?_ ?_ hview hlog ?_ id
    (fun _ => Option.isSome_of_eq_some hroom)
  · simp [allocateSequence, setSessionRoom, putRoom, hs]
  · simpa [allocateSequence, setSessionRoom, putRoom, hid] using hstep
  · exact fun r' => (hl r').trans (congrArg Option.isSome (hlive r'))

theorem handleLeaveRoom_handling (hk : s.Keyed) (c : ConnectionId) (commandId : CommandId) (r : RoomId)
    (token : SessionToken) (diskFails : Bool) :
    Handling s c commandId token (resend c) (fun p result =>
      (Acts G s result.server r (.left p) ∨ diskFails = true ∧ Acts G s result.server r (.leaveThrew p)) ∧
        Records s commandId result)
      (s.handleLeaveRoom c commandId r token diskFails) := by
  unfold handleLeaveRoom
  refine roomCommand_handling fun t session room hq hw hst hlive hct => ?_
  have hroom : (t.view r).room = some room := view_room_of_getRoom hlive
  cases hslot : getSlotByPlayerId room session.playerId with
  | none => exact Or.inl (.refuse hq hw _)
  | some slot =>
    right
    have hslot : getSlotByPlayerId room session.playerId ≠ none := by simp [hslot]
    dsimp only
    cases hg : t.gameSessions.get r with
    | none =>
      have hgame : (t.view r).game = none := hg
      refine ⟨Or.inl (hq.still.trans_acts ?_), .respond hq.now fun _ => .of_plain rfl⟩
      refine vacateRoom_acts hct hst hlive rfl rfl rfl (by simp) (fun _ => rfl) (fun r' => ?_)
        (.leftIdleRoom hroom hslot hgame)
      rw [vacateRoom_view, hgame]
      rfl
    | some gs =>
      have hid : gs.roomId = r := hk r gs (hq.gameSessions ▸ hg)
      have hgame : (t.view r).game = some gs := hg
      have hview := view_applyEffect_self (r := r) t
        (e := gs.handleForfeit t.now t.historyRepository diskFails session.playerId)
        fun r' hr => GameSession.handleEnd_load_other _ _ (hid ▸ Ne.symm hr)
      dsimp only
      split
      · rename_i hthrew
        obtain rfl : diskFails = true := by
          cases diskFails
          · exact absurd hthrew (by simp [GameSession.handleForfeit_threw_false])
          · rfl
        have hsessions : (t.applyEffect r (gs.handleForfeit t.now t.historyRepository true session.playerId)).sessions =
            t.sessions := by simp [applyEffect, applyEmitted, putGame]
        have hnow : (t.applyEffect r (gs.handleForfeit t.now t.historyRepository true session.playerId)).now =
            t.now := by simp [applyEffect, applyEmitted, putGame]
        refine ⟨Or.inr ⟨rfl, hq.still.trans_acts ?_⟩, .of_threw fun id => ?_⟩
        swap
        · exact (cached_of_sessions hnow hsessions id).trans (hq.cached id)
        exact .of_view (by simp [applyEffect, applyEmitted, putGame]) (by simp [applyEffect, applyEmitted, putGame])
          (by simp [applyEffect, applyEmitted, putGame]) (.leaveThrew hroom hslot hgame rfl hthrew) hview
          (by simp [applyEffect, applyEmitted, putGame]) (applyEffect_live _ _ _) id
          (fun _ => Option.isSome_of_eq_some hlive)
      · rename_i hthrew
        have hnow : (t.applyEffect r (gs.handleForfeit t.now t.historyRepository diskFails session.playerId)).now =
            t.now := by simp [applyEffect, applyEmitted, putGame]
        refine ⟨Or.inl (hq.still.trans_acts ?_), .respond (hnow.trans hq.now) fun _ => .of_plain rfl⟩
        refine vacateRoom_acts hct hst hlive hnow (by simp [applyEffect, applyEmitted, putGame])
          (by simp [applyEffect, applyEmitted, putGame]) (by simp [applyEffect, applyEmitted, putGame])
          (fun r' => getRoom_applyEffect _ _ _ _) (fun r' => ?_)
          (.left hroom hslot hgame rfl (Bool.eq_false_iff.mpr hthrew))
        rw [vacateRoom_view, hview, hview]
        split
        · simp [applyEffect, applyEmitted, putGame]
        · rfl

end Server
end TicTacToe

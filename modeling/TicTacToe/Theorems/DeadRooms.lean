import TicTacToe.Theorems.Processing
import TicTacToe.Theorems.Wire

/-! # Associations with dead rooms

A room that has expired leaves the sessions associated with it as they are. `AUTH` clears such an association,
`JOIN_ROOM` takes it for a room that the player is still in. -/

namespace TicTacToe

/-- A room with fewer than two players has a free slot for a new one. -/
theorem RoomRecord.addPlayer_free {room : RoomRecord} (h : playerCount room < 2) (now : Millis) (p : PlayerId)
    (name : Option PlayerName) : ∃ x room', room.slot x = none ∧ room.addPlayer now p name = some (x, room') ∧
      slotHolds (room'.slot x) p = true := by
  by_cases hX : room.playerX = none
  · exact ⟨.X, _, hX, if_pos hX, by simp [slot, slotHolds]⟩
  · have hO : room.playerO = none := by
      by_contra hO
      simp [playerCount, Option.isSome_iff_ne_none.mpr hX, Option.isSome_iff_ne_none.mpr hO] at h
    exact ⟨.O, _, hO, by rw [addPlayer, if_neg hX, if_pos hO], by simp [slot, slotHolds]⟩

/-- The session after a change of its association. -/
theorem SessionStore.getSession_setRoom {store : SessionStore} {now : Millis} {token : SessionToken}
    {session : PlayerSession} (h : store.getSession now token = some session) (x : Option RoomId) :
    (store.setRoom token x).getSession now token = some { session with roomId := x } := by
  obtain ⟨hget, hlive⟩ := JsMap.lookup_eq_some.mp h
  refine JsMap.lookup_eq_some.mpr ⟨?_, hlive⟩
  rw [setRoom, JsMap.get_modify, if_pos rfl, hget]
  rfl

namespace Server
variable {s t : Server} {G : IdSource} {i : Input} {c : ConnectionId} {r : RoomId} {id : CommandId}
  {token : SessionToken} {session : PlayerSession} {room room' : RoomRecord} {name : Option PlayerName}
  {x : PlayerSymbol} {p : PlayerId}

/-- The player has no slot in any live room. -/
def Slotless (s : Server) (p : PlayerId) : Prop := ∀ r room, s.getRoom r = some room → getSlotByPlayerId room p = none

theorem slotless_of_entries {p : PlayerId} (h : s.rooms.rooms.entries.all (fun e =>
    e.2.isExpired s.now || (getSlotByPlayerId e.2 p).isNone) = true) : s.Slotless p := by
  intro r room hroom
  obtain ⟨hget, hlive⟩ := RoomStore.getRoom_eq_some.mp hroom
  have hentry := List.all_eq_true.mp h _ ((JsMap.mem_entries_iff _).mpr hget)
  simpa [hlive] using hentry

/-- Player `p` has taken the free slot `x` of room `r`, the session is associated with the room, and connection `c` has
been told so. -/
structure HasJoined (s t : Server) (c : ConnectionId) (id : CommandId) (token : SessionToken) (p : PlayerId)
    (r : RoomId) (room : RoomRecord) (x : PlayerSymbol) : Prop where
  free : room.slot x = none
  slot : ∃ room', t.getRoom r = some room' ∧ slotHolds (room'.slot x) p = true
  session : ∃ session, t.getSession token = some session ∧ session.roomId = some r
  told : ∃ roomState seq rest,
    t.wire = s.wire ++ (c, .event (.room (makeRoomJoined r p x roomState seq id))) :: rest

/-! ### The handler -/

/-- A processed `JOIN_ROOM` of a session that is not associated with another room, for a live room with a free slot. -/
theorem handleJoinRoom_eq (hs : s.getSession token = some session) (hc : s.cached id = none)
    (hroom : s.getRoom r = some room) (hslot : getSlotByPlayerId room session.playerId = none)
    (hcount : playerCount room < 2) (hadd : room.addPlayer s.now session.playerId (sanitiseName name) = some (x, room')) :
    s.handleJoinRoom c id r name token = if session.roomId.any (· ≠ r) then (s.afterLookup id).refuse c .ALREADY_IN_ROOM id
      else (s.afterLookup id).enterRoom c id r token session.playerId (sanitiseName name) x room' := by
  unfold handleJoinRoom
  rcases withSession_cases s c id token _ with ⟨hnone, -⟩ | ⟨session', hs', he⟩
  · rw [hs] at hnone
    cases hnone
  obtain rfl := Option.some.inj (hs.symm.trans hs')
  rw [he]
  rcases unlessCached_cases s id (resend c) _ with ⟨entry, hcached, -⟩ | ⟨-, he⟩
  · rw [hc] at hcached
    cases hcached
  rw [he]
  split
  · rfl
  have hroom' : (s.afterLookup id).getRoom r = some room := hroom
  rcases withRoom_cases (s.afterLookup id) c id r _ with ⟨hnone, -⟩ | ⟨live, hlive, he⟩
  · rw [hroom'] at hnone
    cases hnone
  obtain rfl := Option.some.inj (hroom'.symm.trans hlive)
  have hadd' : room.addPlayer (s.afterLookup id).now session.playerId (sanitiseName name) = some (x, room') := hadd
  rw [he]
  simp only [hslot, if_neg (Nat.not_le.mpr hcount), hadd']

/-- A new slot: the response follows from a state in which room and session are up to date. -/
theorem enterRoom_responds (s : Server) (c : ConnectionId) (id : CommandId) (r : RoomId) (token : SessionToken)
    (p : PlayerId) (name : Option PlayerName) (x : PlayerSymbol) (room : RoomRecord) :
    ∃ (u : Server) (roomState : RoomStateSnapshot) (seq : Nat) (others : List Delivery),
    s.enterRoom c id r token p name x room = u.respond c id (.room (makeRoomJoined r p x roomState seq id)) others ∧
    u.getRoom r = some (room.touch s.now) ∧ u.sessions = s.sessions.setRoom token (some r) ∧ u.now = s.now ∧
    u.connections = s.connections ∧ u.wire = s.wire := by
  have hput : (s.putRoom r (room.touch s.now)).getRoom r = some (room.touch s.now) := by
    rw [getRoom_putRoom, if_pos rfl, if_neg (Bool.eq_false_iff.mp (RoomRecord.touch_live room s.now))]
  have hensured : ∀ u : Server, (u.ensureGameSession r).sessions = u.sessions ∧ (u.ensureGameSession r).wire = u.wire := by
    intro u
    unfold ensureGameSession
    split <;> exact ⟨rfl, rfl⟩
  have hroom := getRoom_ensureGameSession ((s.putRoom r (room.touch s.now)).setSessionRoom token (some r)) r r
  have hapart := ensureGameSession_apart ((s.putRoom r (room.touch s.now)).setSessionRoom token (some r)) r
  have hrest := hensured ((s.putRoom r (room.touch s.now)).setSessionRoom token (some r))
  unfold enterRoom
  dsimp only
  split
  · exact ⟨_, _, _, _, rfl, hroom.trans hput, hrest.1, hapart.now, hapart.connections, hrest.2⟩
  · exact ⟨_, _, _, _, rfl, hroom.trans hput, hrest.1, hapart.now, hapart.connections, hrest.2⟩

end Server

open Server

/-- A player without a slot in any live room who sends `JOIN_ROOM` for a live room with a free slot gets the slot exactly
if the session is associated with no room or with that very room. -/
theorem free_slot_joined {G : IdSource} {s t : Server} {i : Input} {c : ConnectionId} {rec : ConnectionRecord}
    {id : CommandId} {r : RoomId} {name : Option PlayerName} {token : SessionToken} {session : PlayerSession}
    {room : RoomRecord} (hrouted : s.Routed i c rec ⟨id, .joinRoom r name⟩) (htoken : rec.sessionToken = some token)
    (hsession : s.getSession token = some session) (hfresh : s.cached id = none)
    (hslotless : s.Slotless session.playerId) (hroom : s.getRoom r = some room) (hfree : playerCount room < 2)
    (hstep : s.step G i = some t) :
    (∃ x, HasJoined s t c id token session.playerId r room x) ↔ session.roomId = none ∨ session.roomId = some r := by
  obtain ⟨frame, diskFails, rfl, -, -⟩ := hrouted.frame
  have ht : t = _ := (Option.some.inj hstep).symm.trans (handleFrame_routed hrouted)
  have hq := arrived_quiet s c rec
  have hopen := hrouted.arrived_open
  have hwire := arrived_wire s c rec
  obtain ⟨session', hs, hp, hassoc⟩ := hq.session_to_some hsession
  have hlive := (hq.getRoom r).trans hroom
  have hc := (hq.cached id).trans hfresh
  have hslot := hslotless r room hroom
  obtain ⟨x, room', hx, hadd, hholds⟩ := RoomRecord.addPlayer_free hfree (s.arrived c rec).now session.playerId
    (sanitiseName name)
  have hdispatch : (s.arrived c rec).dispatch G c rec ⟨id, .joinRoom r name⟩ diskFails =
      (s.arrived c rec).handleJoinRoom c id r name token := by simp only [dispatch, htoken]
  rw [← hp] at hslot hadd
  rw [hdispatch, handleJoinRoom_eq hs hc hlive hslot hfree hadd, hassoc, hp] at ht
  by_cases hother : session.roomId.any (· ≠ r) = true
  · -- The association with another room stands in the way, and nothing happens.
    rw [if_pos hother] at ht
    have hsame : t.getRoom r = s.getRoom r := by
      rw [ht, (conclude_quiet G c id _).getRoom]
      exact hq.getRoom r
    constructor
    · rintro ⟨y, hjoined⟩
      obtain ⟨room'', hroom'', hholds'⟩ := hjoined.slot
      obtain rfl := Option.some.inj (hroom.symm.trans (hsame.symm.trans hroom''))
      rw [hjoined.free] at hholds'
      cases hholds'
    · rintro (hr | hr) <;> simp [hr] at hother
  · rw [if_neg hother] at ht
    obtain ⟨u, roomState, seq, others, he, hroom', hsessions, hnow, hconnections, hwire'⟩ :=
      enterRoom_responds ((s.arrived c rec).afterLookup id) c id r token session.playerId (sanitiseName name) x room'
    rw [he] at ht
    have hlast :=
      conclude_quiet G c id (u.respond c id (.room (makeRoomJoined r session.playerId x roomState seq id)) others)
    rw [← ht] at hlast
    refine ⟨fun _ => ?_, fun _ => ⟨x, hx, ⟨_, (hlast.getRoom r).trans hroom', ?_⟩, ?_, roomState, seq, ?_⟩⟩
    · cases hr : session.roomId with
      | none => exact Or.inl rfl
      | some r' =>
        rw [hr] at hother
        exact Or.inr (by simpa using hother)
    · cases x <;> exact hholds
    · have hset : (u.respond c id (.room (makeRoomJoined r session.playerId x roomState seq id)) others).server.getSession
          token = some { session' with roomId := some r } := by
        have hkept :
            (u.respond c id (.room (makeRoomJoined r session.playerId x roomState seq id)) others).server.getSession token =
              ((s.arrived c rec).sessions.setRoom token (some r)).getSession (s.arrived c rec).now token := by
          simp only [getSession, respond, ok, recordCommand, SessionStore.recordCommand, hsessions, hnow]
          rfl
        exact hkept.trans (SessionStore.getSession_setRoom hs (some r))
      obtain ⟨session'', hs'', -, hassoc'⟩ := hlast.session_to_some hset
      exact ⟨session'', hs'', hassoc'⟩
    · have hopen' : u.connections.has c = true := hconnections ▸ hopen
      obtain ⟨rest, hrest⟩ :=
        conclude_respond_wire hopen' (.room (makeRoomJoined r session.playerId x roomState seq id)) others
      refine ⟨rest, ?_⟩
      rw [ht, hrest, hwire', ← hwire]
      rfl

/-- Player 1 enters the first room. -/
theorem free_slot_joined_first : ∃ s t, Runs tallies (fun _ _ => True) fresh s ∧
    s.step tallies (asks 0 "join1" (.joinRoom (tally 'r' 2) none)) = some t ∧
    ∃ room x, s.getRoom (tally 'r' 2) = some room ∧
      HasJoined s t (tally 'c' 0) "join1" (tally 't' 1) (tally 'p' 1) (tally 'r' 2) room x := by
  have hcheck : (Transition.run (step tallies) (fun _ _ => true) fresh
      [.connect, asks 0 "auth1" (.auth none), .createRoom]).any (fun s =>
      ((s.routes 0).any fun rec => rec.sessionToken = some (tally 't' 1)) &&
      ((s.getSession (tally 't' 1)).any fun session => session.playerId = tally 'p' 1 && session.roomId.isNone) &&
      (s.cached "join1").isNone && ((s.getRoom (tally 'r' 2)).any fun room => playerCount room < 2) &&
      (s.step tallies (asks 0 "join1" (.joinRoom (tally 'r' 2) none))).isSome &&
      s.rooms.rooms.entries.all fun e => e.2.isExpired s.now || (getSlotByPlayerId e.2 (tally 'p' 1)).isNone) = true := by
    decide +kernel
  obtain ⟨s, hrun, hs⟩ := Transition.exists_run (C := fun _ _ => True) (fun _ _ _ => trivial) hcheck
  simp only [Option.any_eq_true, Bool.and_eq_true, decide_eq_true_eq, Option.isNone_iff_eq_none,
    Option.isSome_iff_exists] at hs
  obtain ⟨⟨⟨⟨⟨⟨rec, hrec, htoken⟩, session, hsession, hp, hnone⟩, hfresh⟩, room, hroom, hfree⟩, t, hstep⟩, hall⟩ := hs
  obtain ⟨x, hjoined⟩ := (free_slot_joined (routed_of_routes hrec "join1" _) htoken hsession hfresh
    (hp ▸ slotless_of_entries hall) hroom hfree hstep).mpr (Or.inl hnone)
  exact ⟨s, t, hrun, hstep, room, x, hroom, hp ▸ hjoined⟩

/-- Player 1's room has been idle for more than a day. The session still names it, and the next room refuses the player. -/
theorem dead_room_locks_out : ∃ s t rec token session room, Runs tallies (fun _ _ => True) fresh s ∧
    s.Routed (asks 0 "join3" (.joinRoom (tally 'r' 3) none)) (tally 'c' 0) rec ⟨"join3", .joinRoom (tally 'r' 3) none⟩ ∧
    rec.sessionToken = some token ∧ s.getSession token = some session ∧ s.cached "join3" = none ∧
    session.roomId = some (tally 'r' 2) ∧ s.getRoom (tally 'r' 2) = none ∧ s.Slotless session.playerId ∧
    s.getRoom (tally 'r' 3) = some room ∧ playerCount room < 2 ∧
    s.step tallies (asks 0 "join3" (.joinRoom (tally 'r' 3) none)) = some t ∧
    ¬∃ x, HasJoined s t (tally 'c' 0) "join3" token session.playerId (tally 'r' 3) room x := by
  have hcheck : (Transition.run (step tallies) (fun _ _ => true) fresh
      [.connect, asks 0 "auth1" (.auth none), .createRoom, asks 0 "join2" (.joinRoom (tally 'r' 2) none),
        .tick 86400001, .createRoom]).any (fun s =>
      ((s.routes 0).any fun rec => rec.sessionToken = some (tally 't' 1)) &&
      ((s.getSession (tally 't' 1)).any fun session =>
        session.playerId = tally 'p' 1 && session.roomId = some (tally 'r' 2)) &&
      (s.cached "join3").isNone && (s.getRoom (tally 'r' 2)).isNone &&
      ((s.getRoom (tally 'r' 3)).any fun room => playerCount room < 2) &&
      ((s.step tallies (asks 0 "join3" (.joinRoom (tally 'r' 3) none))).any fun t =>
        (t.getRoom (tally 'r' 3)).any fun room => room.playerX.isNone && room.playerO.isNone) &&
      s.rooms.rooms.entries.all fun e => e.2.isExpired s.now || (getSlotByPlayerId e.2 (tally 'p' 1)).isNone) = true := by
    decide +kernel
  obtain ⟨s, hrun, hs⟩ := Transition.exists_run (C := fun _ _ => True) (fun _ _ _ => trivial) hcheck
  simp only [Option.any_eq_true, Bool.and_eq_true, decide_eq_true_eq, Option.isNone_iff_eq_none] at hs
  obtain ⟨⟨⟨⟨⟨⟨⟨rec, hrec, htoken⟩, session, hsession, hp, hassoc⟩, hfresh⟩, hdead⟩, room, hroom, hfree⟩, t, hstep,
    room', hroom', hX, hO⟩, hall⟩ := hs
  refine ⟨s, t, rec, _, session, room, hrun, routed_of_routes hrec "join3" _, htoken, hsession, hfresh, hassoc, hdead,
    hp ▸ slotless_of_entries hall, hroom, hfree, hstep, ?_⟩
  rintro ⟨x, hjoined⟩
  obtain ⟨room'', hroom'', hholds⟩ := hjoined.slot
  obtain rfl := Option.some.inj (hroom'.symm.trans hroom'')
  cases x <;> simp [RoomRecord.slot, hX, hO, slotHolds] at hholds

end TicTacToe

import TicTacToe.Theorems.FailingSave
import TicTacToe.Theorems.Letters

/-! # The reason of a PLAYER_LEFT

A leave during a game ends it by forfeit, and the reason is then read off the result of the room's last game, whoever
has forfeited that game. What is written is the end of the game to the connected slots, `ROOM_LEFT` to the leaving
player, and `PLAYER_LEFT` to the opponent. -/

namespace TicTacToe

/-- The reason that a `PLAYER_LEFT` carries. -/
def WireEvent.leftReason : WireEvent → Option PlayerLeftReason
  | .event (.room ⟨_, _, _, .playerLeft _ _ reason⟩) => some reason
  | _ => none

/-- The `GAME_FINISHED` of the given game in room `r`. -/
def WireEvent.announcesEnd (r : RoomId) (state : GameState) : WireEvent → Bool
  | .event (.room ⟨roomId, _, _, .gameFinished gameId _ _ _ _⟩) => roomId = r && gameId = state.gameId
  | _ => false

namespace GameSession
variable {gs : GameSession} {now : Millis} {repository : HistoryRepository} {diskFails : Bool} {p : PlayerId}

/-- A forfeit does nothing without a running game; a running game is ended and announced, unless saving it throws. -/
theorem handleForfeit_cases (gs : GameSession) (now : Millis) (repository : HistoryRepository) (diskFails : Bool)
    (p : PlayerId) :
    let e := gs.handleForfeit now repository diskFails p
    (gs.isActive = false ∧ e = ⟨⟨gs, []⟩, repository, false⟩) ∨
    ∃ state, gs.gameState = some state ∧ state.status = .active ∧
      e.session.gameState = some (forfeit state ⟨p, now⟩).newState ∧
      (e.threw = true ∧ e.sends = [] ∨
        e.threw = false ∧ ∃ event, e.sends = [⟨.broadcast, p, .room event⟩] ∧
          (WireEvent.event (.room event)).announcesEnd gs.roomId state = true) := by
  have h := handleEnd_cases gs repository diskFails p .forfeit .playerForfeited now
  unfold handleForfeit forfeit
  dsimp only at h ⊢
  generalize (gs.handleEnd repository diskFails p fun state => endGame state .forfeit .playerForfeited p now) = e at h ⊢
  refine h.imp id ?_
  rintro ⟨state, result, hstate, hactive, -, h⟩
  refine ⟨state, hstate, hactive, h.fields.2.1, ?_⟩
  have hannounces : ∀ seq, (WireEvent.event (.room (finishedEvent gs.roomId
      (endGame state .forfeit .playerForfeited p now).newState result seq))).announcesEnd gs.roomId state = true := by
    intro seq
    simp [WireEvent.announcesEnd, finishedEvent, makeGameFinished, endGame, buildFinishedState]
  cases h with
  | known => exact Or.inr ⟨rfl, _, rfl, hannounces _⟩
  | failed => exact Or.inl ⟨rfl, rfl⟩
  | recorded => exact Or.inr ⟨rfl, _, rfl, hannounces _⟩

end GameSession

namespace Server
variable {s t u : Server} {G : IdSource} {i : Input} {c c' : ConnectionId} {r : RoomId} {id : CommandId}
  {token : SessionToken} {p : PlayerId} {room : RoomRecord} {e : WireEvent}

/-- The last game of the room has ended with the leave of a player. -/
def wasForfeited (s : Server) (r : RoomId) : Bool :=
  (s.gameState r).any fun state => state.status = .finished && state.result.any fun result =>
    result.reason = .playerForfeited

/-- The connection is registered for a player whose slot in the live room is connected. -/
def HearsRoom (s : Server) (r : RoomId) (c : ConnectionId) : Prop :=
  ∃ room x slot, s.getRoom r = some room ∧ room.slot x = some slot ∧ slot.connected = true ∧
    c ∈ s.getPlayerConnectionIds slot.playerId

theorem wasForfeited_forfeit {state : GameState} {now : Millis}
    (h : s.gameState r = some (forfeit state ⟨p, now⟩).newState) :
    s.wasForfeited r = true := by
  rw [wasForfeited, h]
  rfl

/-! ### What is written -/

/-- The end of a leave writes to the leaving player and to the opponent. -/
theorem vacateRoom_wire (G : IdSource) (u : Server) (c : ConnectionId) (id : CommandId) (r : RoomId)
    (token : SessionToken) (p : PlayerId) (slot : PlayerSlot) (room : RoomRecord) : ∃ own left,
    (conclude G c id (u.vacateRoom c id r token p slot room)).wire = u.wire ++ own ++ left ∧
    (∀ entry ∈ own, entry.2.leftReason = none ∧ ∀ state, entry.2.announcesEnd r state = false) ∧
    ∀ entry ∈ left, entry.2.leftReason = some (if u.wasForfeited r then .forfeit else .voluntary) ∧
      u.connections.has entry.1 = true := by
  have hstate : ((u.allocateSequence r).gameSessions.get r).bind GameSession.gameState = u.gameState r := by
    rw [allocateSequence_get, gameState]
    cases u.gameSessions.get r <;> rfl
  obtain ⟨v, hv⟩ : ∃ v, v = (u.vacateRoom c id r token p slot room).server := ⟨_, rfl⟩
  have hconnections : v.connections = u.connections := by rw [hv]; rfl
  have hwire : v.wire = u.wire := by rw [hv]; rfl
  obtain ⟨own, left, hdeliveries, hown, hleft⟩ : ∃ own left,
      (u.vacateRoom c id r token p slot room).deliveries = .connection c own :: left ∧
      (own.leftReason = none ∧ ∀ state, own.announcesEnd r state = false) ∧
      ∀ d ∈ left, ∃ q e, d = .broadcast q e ∧
        e.leftReason = some (if u.wasForfeited r then .forfeit else .voluntary) := by
    refine ⟨_, _, rfl, ⟨rfl, fun state => rfl⟩, fun d hd => ?_⟩
    obtain ⟨opponentSlot, -, rfl⟩ := List.mem_map.mp hd
    refine ⟨_, _, rfl, ?_⟩
    rw [hstate]
    rfl
  refine ⟨v.delivered (.connection c own), left.flatMap v.delivered, ?_, fun entry hentry => ?_, fun entry hentry => ?_⟩
  · have hconclude : conclude G c id (u.vacateRoom c id r token p slot room) =
        v.deliver (u.vacateRoom c id r token p slot room).deliveries := by rw [hv]; rfl
    rw [hconclude, deliver_wire, hdeliveries, List.flatMap_cons, hwire, List.append_assoc]
  · simp only [delivered] at hentry
    split at hentry
    · obtain rfl := List.mem_singleton.mp hentry
      exact hown
    · cases hentry
  · obtain ⟨d, hd, hentry⟩ := List.mem_flatMap.mp hentry
    obtain ⟨q, e, rfl, he⟩ := hleft d hd
    obtain ⟨rfl, -, hopen⟩ := mem_mailed hentry
    exact ⟨he, hconnections ▸ hopen⟩

/-- What the step of a processed `LEAVE_ROOM` writes: no `PLAYER_LEFT`, or the calls of the room's session, something
for the leaving player, and `PLAYER_LEFT`. -/
inductive LeaveWritten (s : Server) (r : RoomId) (written : List (ConnectionId × WireEvent)) : Prop
  | untold (h : ∀ entry ∈ written, entry.2.leftReason = none)
  | told {room : RoomRecord} {calls : List SendCall} {reason : PlayerLeftReason}
    {own left : List (ConnectionId × WireEvent)} (hroom : s.getRoom r = some room)
    (hwritten : written = calls.flatMap (s.posted room) ++ own ++ left)
    (hown : ∀ entry ∈ own, entry.2.leftReason = none ∧ ∀ state, entry.2.announcesEnd r state = false)
    (hleft : ∀ entry ∈ left, entry.2.leftReason = some reason ∧ s.connections.has entry.1 = true)
    (hends : s.inStatus r .active = false ∧ calls = [] ∧ reason = (if s.wasForfeited r then .forfeit else .voluntary) ∨
      reason = .forfeit ∧ ∃ state q event, s.gameState r = some state ∧ state.status = .active ∧
        calls = [⟨.broadcast, q, .room event⟩] ∧ (WireEvent.event (.room event)).announcesEnd r state = true)

theorem inStatus_of_isActive {gs : GameSession} (hgame : s.gameSessions.get r = some gs) :
    s.inStatus r .active = gs.isActive := by
  simp [inStatus, gameState, hgame, GameSession.isActive]

theorem Quiet.has (hq : Quiet s u) (c : ConnectionId) : u.connections.has c = s.connections.has c := by
  have h := congrArg Option.isSome (hq.connections c)
  rwa [Option.isSome_map, Option.isSome_map] at h

theorem Quiet.posted (hq : Quiet s u) (room : RoomRecord) : u.posted room = s.posted room := by
  funext call
  simp only [Server.posted, mailed, getPlayerConnectionIds, hq.registry, funext hq.has]

/-- Nothing has happened before the handler. -/
theorem LeaveWritten.of_quiet {written : List (ConnectionId × WireEvent)} (hq : Quiet s u)
    (h : LeaveWritten u r written) : LeaveWritten s r written := by
  have hstate : u.gameState r = s.gameState r := by rw [gameState, gameState, hq.gameSessions]
  cases h with
  | untold h => exact .untold h
  | told hroom hwritten hown hleft hends =>
    refine .told ((hq.getRoom r).symm.trans hroom) (hq.posted _ ▸ hwritten) hown
      (fun entry hentry => ⟨(hleft entry hentry).1, hq.has entry.1 ▸ (hleft entry hentry).2⟩) ?_
    rwa [inStatus, wasForfeited, hstate] at hends

/-- A command about a room that is gone. -/
theorem roomCommand_dead (hc : s.cached id = none) (hroom : s.getRoom r = none) (reply : WireEvent → List Delivery)
    (handle : Server → PlayerSession → RoomRecord → HandlerResult) :
    Refuses s c id (s.roomCommand c id token r reply handle) := by
  unfold roomCommand
  rcases withSession_cases s c id token (fun s session => s.unlessCached id reply fun s =>
    s.withRoom c id r fun s room => handle s session room) with ⟨-, h⟩ | ⟨session, -, he⟩
  · exact h
  rw [he]
  rcases unlessCached_cases s id reply (fun s => s.withRoom c id r fun s room => handle s session room) with
    ⟨entry, hcached, -⟩ | ⟨-, he⟩
  · rw [hc] at hcached
    cases hcached
  rw [he]
  have hroom' : (s.afterLookup id).getRoom r = none := hroom
  rcases withRoom_cases (s.afterLookup id) c id r (fun s room => handle s session room) with ⟨-, h⟩ | ⟨room, hlive, -⟩
  · exact h.of_quiet (afterLookup_quiet s id) rfl
  · rw [hroom'] at hlive
    cases hlive

/-- A leave from a live room, after the checks. -/
theorem leave_written {gs : GameSession} (hk : s.Keyed) (hroom : s.getRoom r = some room)
    (hgame : s.gameSessions.get r = some gs) (G : IdSource) (c : ConnectionId) (id : CommandId) (token : SessionToken)
    (p : PlayerId) (slot : PlayerSlot) (diskFails : Bool) :
    let ended := gs.handleForfeit s.now s.historyRepository diskFails p
    let u := s.applyEffect r ended
    ∃ written, (conclude G c id (if ended.threw then ⟨u, [], true⟩ else u.vacateRoom c id r token p slot room)).wire =
      s.wire ++ written ∧ LeaveWritten s r written := by
  intro ended u
  have hposts : Posts r (some room) s u ended.sends := applyEffect_posts hroom ended
  have hstate : u.gameState r = ended.session.gameState := by
    rw [gameState, show u.gameSessions.get r = some ended.session from applyEmitted_game s r ended.toEmitted]
    rfl
  have hstate₀ : s.gameState r = gs.gameState := by rw [gameState, hgame, Option.bind_some]
  obtain ⟨hidle, hended⟩ | ⟨state, hrunning, hactive, hover, hends⟩ :=
    GameSession.handleForfeit_cases gs s.now s.historyRepository diskFails p
  · have hthrew : ended.threw = false := congrArg GameEffect.threw hended
    have hsends : ended.sends = [] := congrArg (fun e : GameEffect => e.sends) hended
    have hsame : u.gameState r = s.gameState r := by
      rw [hstate, hstate₀]
      exact congrArg (fun e : GameEffect => e.session.gameState) hended
    obtain ⟨own, left, hwire, hown, hleft⟩ := vacateRoom_wire G u c id r token p slot room
    rw [if_neg (by rw [hthrew]; exact Bool.false_ne_true), hwire, hposts.wire, hsends]
    have hsilent : own ++ left = [].flatMap (s.posted room) ++ own ++ left := rfl
    refine ⟨own ++ left, by simp, .told hroom hsilent hown ?_ (Or.inl ⟨?_, rfl, rfl⟩)⟩
    · rwa [wasForfeited, hsame, hposts.connections] at hleft
    · rw [inStatus_of_isActive hgame, hidle]
  · obtain ⟨hthrew, hsends⟩ | ⟨hthrew, event, hsends, hannounces⟩ := hends
    · have hwire : u.wire = s.wire := by
        rw [hposts.wire, show ended.sends = [] from hsends, List.flatMap_nil, List.append_nil]
      rw [if_pos hthrew, conclude, if_pos rfl, send]
      split
      · refine ⟨_, congrArg (· ++ _) hwire, .untold fun entry hentry => ?_⟩
        obtain rfl := List.mem_singleton.mp hentry
        rfl
      · refine ⟨[], ?_, .untold fun entry hentry => by cases hentry⟩
        rw [List.append_nil]
        exact hwire
    · have hforfeited : u.wasForfeited r = true := wasForfeited_forfeit (hstate.trans hover)
      have hposted : s.postedIn (some room) = s.posted room := rfl
      obtain ⟨own, left, hwire, hown, hleft⟩ := vacateRoom_wire G u c id r token p slot room
      rw [if_neg (by rw [hthrew]; exact Bool.false_ne_true), hwire, hposts.wire, hposted]
      refine ⟨ended.sends.flatMap (s.posted room) ++ own ++ left, by simp, .told hroom rfl hown ?_ (Or.inr
        ⟨rfl, state, p, event, hstate₀.trans hrunning, hactive, hsends, hk r gs hgame ▸ hannounces⟩)⟩
      simpa [hforfeited, hposts.connections] using hleft

/-- The handler of a leave. -/
theorem handleLeaveRoom_written (hk : s.Keyed) (hp : s.Processed token id p) (c : ConnectionId) (r : RoomId)
    (diskFails : Bool) : ∃ written,
      (conclude G c id (s.handleLeaveRoom c id r token diskFails)).wire = s.wire ++ written ∧
      LeaveWritten s r written := by
  obtain ⟨session, hs, rfl⟩ := hp.session
  have hrefused : ∀ result, Refuses s c id result → ∃ written,
      (conclude G c id result).wire = s.wire ++ written ∧ LeaveWritten s r written := by
    rintro result ⟨u, code, -, hwire, rfl⟩
    refine ⟨_, (deliver_wire u _).trans (congrArg (· ++ _) hwire), .untold fun entry hentry => ?_⟩
    simp only [refuse, ok, List.flatMap_cons, List.flatMap_nil, List.append_nil, delivered] at hentry
    split at hentry
    · obtain rfl := List.mem_singleton.mp hentry
      rfl
    · cases hentry
  cases hroom : s.getRoom r with
  | none => exact hrefused _ (roomCommand_dead hp.uncached hroom _ _)
  | some room =>
  have hq := afterLookup_quiet s id
  have hk' : (s.afterLookup id).Keyed := hk
  unfold handleLeaveRoom
  rw [roomCommand_eq hs hp.uncached hroom]
  dsimp only
  split
  · exact hrefused _ (.refuse hq rfl _)
  rename_i slot hslot
  split
  · rename_i hnone
    have hidle : (s.afterLookup id).inStatus r .active = false := by simp [inStatus, gameState, hnone]
    obtain ⟨own, left, hwire, hown, hleft⟩ :=
      vacateRoom_wire G (s.afterLookup id) c id r token session.playerId slot room
    have hsilent : own ++ left = [].flatMap ((s.afterLookup id).posted room) ++ own ++ left := rfl
    exact ⟨own ++ left, hwire.trans (List.append_assoc ..), .of_quiet hq
      (.told hroom hsilent hown hleft (Or.inl ⟨hidle, rfl, rfl⟩))⟩
  · rename_i gs hgame
    obtain ⟨written, hwire, hwritten⟩ :=
      leave_written hk' hroom hgame G c id token session.playerId slot diskFails
    exact ⟨written, hwire, hwritten.of_quiet hq⟩

/-- The step of a processed leave. -/
theorem Handles.leave_written (hk : s.Keyed) (h : s.Handles i ⟨id, .leaveRoom r⟩ p) (hstep : s.step G i = some t) :
    ∃ written, t.wire = s.wire ++ written ∧ LeaveWritten s r written := by
  obtain ⟨c, rec, token, htoken, hp, ht⟩ := h.step hstep
  have hdispatch : (s.arrived c rec).dispatch G c rec ⟨id, .leaveRoom r⟩ i.diskFails =
      (s.arrived c rec).handleLeaveRoom c id r token i.diskFails := by
    simp only [dispatch, htoken]
  obtain ⟨written, hwire, hwritten⟩ := handleLeaveRoom_written (G := G) (hk.arrived c rec) hp c r i.diskFails
  exact ⟨written, by rw [ht, hdispatch, hwire, arrived_wire], hwritten.of_quiet (arrived_quiet s c rec)⟩

/-- The last entry that it writes. -/
theorem Handles.written_last {entry : ConnectionId × WireEvent} (hk : s.Keyed)
    (h : s.Handles i ⟨id, .leaveRoom r⟩ p) (hstep : s.step G i = some t)
    (hlast : (t.wire.drop s.wire.length).getLast? = some entry) : ∃ before, t.wire = s.wire ++ before ++ [entry] := by
  obtain ⟨written, hwire, -⟩ := h.leave_written hk hstep
  rw [hwire, List.drop_left] at hlast
  obtain ⟨before, rfl⟩ := List.getLast?_eq_some_iff.mp hlast
  exact ⟨before, hwire.trans (List.append_assoc ..).symm⟩

/-! ### The reason -/

theorem announcesEnd_of_left {state : GameState} (h : e.leftReason ≠ none) : e.announcesEnd r state = false := by
  cases hend : e.announcesEnd r state with
  | false => rfl
  | true =>
    refine absurd ?_ h
    unfold WireEvent.announcesEnd at hend
    split at hend
    · rfl
    · cases hend

/-- What a `PLAYER_LEFT` on connection `c` gives as the reason is true of the game of room `r` in `s`; it has been written
after `before`. -/
structure TruthfulLeft (s : Server) (r : RoomId) (c : ConnectionId) (reason : PlayerLeftReason)
    (before : List (ConnectionId × WireEvent)) : Prop where
  tells : reason = if s.inStatus r .active then .forfeit else .voluntary
  announced : reason = .forfeit → ∃ state e, s.gameState r = some state ∧ (c, e) ∈ before ∧ e.announcesEnd r state = true

/-- A broadcast of the room is written to the connection of a `PLAYER_LEFT` if the connection is registered for a player
whose slot is connected. -/
theorem mem_posted_broadcast (hroom : s.getRoom r = some room) (hopen : s.connections.has c = true) (q : PlayerId)
    (event : RoomEvent) :
    (c, .event (.room event)) ∈ s.posted room ⟨.broadcast, q, .room event⟩ ↔ s.HearsRoom r c := by
  have hmail : ∀ q', (c, WireEvent.event (.room event)) ∈ s.mailed q' (.event (.room event)) ↔
      c ∈ s.getPlayerConnectionIds q' := by
    intro q'
    simp [mailed, hopen]
  have hrecipients : ∀ q', q' ∈ recipients room ⟨.broadcast, q, .room event⟩ ↔
      ∃ x slot, room.slot x = some slot ∧ slot.connected = true ∧ slot.playerId = q' := by
    intro q'
    simp only [recipients, List.mem_map, List.mem_filter, List.mem_filterMap, id]
    constructor
    · rintro ⟨slot, ⟨⟨slot', hslot', rfl⟩, hconnected⟩, rfl⟩
      simp only [List.mem_cons, List.not_mem_nil, or_false] at hslot'
      rcases hslot' with hX | hO
      · exact ⟨.X, slot, hX.symm, hconnected, rfl⟩
      · exact ⟨.O, slot, hO.symm, hconnected, rfl⟩
    · rintro ⟨x, slot, hslot, hconnected, rfl⟩
      refine ⟨slot, ⟨⟨some slot, ?_, rfl⟩, hconnected⟩, rfl⟩
      cases x with
      | X => simp [show room.playerX = some slot from hslot]
      | O => simp [show room.playerO = some slot from hslot]
  simp only [posted, List.mem_flatMap, hmail, hrecipients]
  constructor
  · rintro ⟨q', ⟨x, slot, hslot, hconnected, rfl⟩, hc⟩
    exact ⟨room, x, slot, hroom, hslot, hconnected, hc⟩
  · rintro ⟨room', x, slot, hroom', hslot, hconnected, hc⟩
    obtain rfl := Option.some.inj (hroom.symm.trans hroom')
    exact ⟨_, ⟨x, slot, hslot, hconnected, rfl⟩, hc⟩

/-- Of what has been written before a `PLAYER_LEFT`, only the session's calls can announce the end of a game. -/
theorem announced_iff {before front own middle : List (ConnectionId × WireEvent)} {state : GameState}
    (hbefore : before = front ++ own ++ middle) (hown : ∀ entry ∈ own, entry.2.announcesEnd r state = false)
    (hmiddle : ∀ entry ∈ middle, entry.2.leftReason ≠ none) :
    (∃ e, (c, e) ∈ before ∧ e.announcesEnd r state = true) ↔ ∃ e, (c, e) ∈ front ∧ e.announcesEnd r state = true := by
  refine exists_congr fun e => and_congr_left fun hend => ⟨fun hmem => ?_, fun hmem => ?_⟩
  · rw [hbefore, List.mem_append, List.mem_append] at hmem
    rcases hmem with (hfront | hmine) | hother
    · exact hfront
    · rw [hown _ hmine] at hend
      cases hend
    · rw [announcesEnd_of_left (hmiddle _ hother)] at hend
      cases hend
  · exact hbefore ▸ List.mem_append_left _ (List.mem_append_left _ hmem)

/-- The calls that announce the end of a game tell nobody that a player has left. -/
theorem posted_unleft {state : GameState} {q : PlayerId} {event : RoomEvent}
    (hend : (WireEvent.event (.room event)).announcesEnd r state = true) :
    ∀ entry ∈ s.posted room ⟨.broadcast, q, .room event⟩, entry.2 = .event (.room event) ∧ entry.2.leftReason = none := by
  intro entry hentry
  obtain ⟨q', -, hentry⟩ := List.mem_flatMap.mp hentry
  obtain ⟨hevent, -⟩ := mem_mailed hentry
  refine ⟨hevent, ?_⟩
  by_contra hnot
  rw [← hevent, announcesEnd_of_left hnot] at hend
  cases hend

/-- If no game is running, the reason is true unless the last game had been forfeited. -/
theorem truthful_idle_iff {before : List (ConnectionId × WireEvent)} {reason : PlayerLeftReason}
    (hidle : s.inStatus r .active = false) (htells : reason = if s.wasForfeited r then .forfeit else .voluntary) :
    TruthfulLeft s r c reason before ↔ s.wasForfeited r = false := by
  cases hforfeited : s.wasForfeited r with
  | false =>
    rw [hforfeited, if_neg Bool.false_ne_true] at htells
    subst htells
    exact iff_of_true ⟨by rw [hidle]; rfl, fun hforfeit => by cases hforfeit⟩ rfl
  | true =>
    rw [hforfeited, if_pos rfl] at htells
    subst htells
    refine iff_of_false (fun htrue => ?_) (by simp)
    have htells := htrue.tells
    rw [hidle] at htells
    cases htells

/-- If the leave has ended a running game, its end has been announced to the connections of connected slots. -/
theorem truthful_forfeit_iff {before own middle : List (ConnectionId × WireEvent)} {state : GameState} {q : PlayerId}
    {event : RoomEvent} (hroom : s.getRoom r = some room) (hopen : s.connections.has c = true)
    (hstate : s.gameState r = some state) (hactive : state.status = .active)
    (hend : (WireEvent.event (.room event)).announcesEnd r state = true)
    (hbefore : before = s.posted room ⟨.broadcast, q, .room event⟩ ++ own ++ middle)
    (hown : ∀ entry ∈ own, entry.2.announcesEnd r state = false) (hmiddle : ∀ entry ∈ middle, entry.2.leftReason ≠ none) :
    TruthfulLeft s r c .forfeit before ↔ s.HearsRoom r c := by
  have hannounced := announced_iff (c := c) hbefore hown hmiddle
  rw [← mem_posted_broadcast hroom hopen q event]
  constructor
  · intro htrue
    obtain ⟨state', e', hstate', hmem', hend'⟩ := htrue.announced rfl
    obtain rfl := Option.some.inj (hstate.symm.trans hstate')
    obtain ⟨e', hposted, -⟩ := hannounced.mp ⟨e', hmem', hend'⟩
    obtain rfl : e' = .event (.room event) := (posted_unleft hend _ hposted).1
    exact hposted
  · intro hposted
    obtain ⟨e', hmem', hend'⟩ := hannounced.mpr ⟨_, hposted, hend⟩
    have hruns : s.inStatus r .active = true := by simp [inStatus, hstate, hactive]
    exact ⟨by rw [hruns]; rfl, fun _ => ⟨state, e', hstate, hmem', hend'⟩⟩

end Server

/-- What comes before an entry that only the second part of a list can have. -/
theorem before_of_append {α : Type} {before after front left : List α} {x : α}
    (h : before ++ x :: after = front ++ left) (hx : x ∉ front) : ∃ middle, before = front ++ middle ∧ middle ⊆ left := by
  rcases List.append_eq_append_iff.mp h with ⟨rest, hfront, hleft⟩ | ⟨rest, hbefore, hleft⟩
  · cases rest with
    | nil => exact ⟨[], by rw [hfront, List.append_nil, List.append_nil], List.nil_subset _⟩
    | cons y rest =>
      obtain ⟨rfl, -⟩ := List.cons.inj hleft
      exact absurd (hfront ▸ List.mem_append_right before List.mem_cons_self) hx
  · exact ⟨rest, hbefore, hleft ▸ List.subset_append_left _ _⟩

open Server

/-- The reason of a `PLAYER_LEFT` is true, and a forfeit has been announced on the connection before, if and only if the
leave has ended a running game and the connection is one of a connected slot, or no game was running and the last one had
not been forfeited. -/
theorem leave_reason_iff {G : IdSource} {now : Millis} {version : String} {repository : HistoryRepository}
    {s t : Server} {i : Input} {id : CommandId} {r : RoomId} {p : PlayerId} {c : ConnectionId} {e : WireEvent}
    {reason : PlayerLeftReason} {before after : List (ConnectionId × WireEvent)}
    (hrun : Server.Runs G (fun _ _ => True) (.start now version repository) s)
    (h : s.Handles i ⟨id, .leaveRoom r⟩ p) (hstep : s.step G i = some t)
    (hwire : t.wire = s.wire ++ before ++ (c, e) :: after) (hleft : e.leftReason = some reason) :
    TruthfulLeft s r c reason before ↔
      s.inStatus r .active = true ∧ s.HearsRoom r c ∨ s.inStatus r .active = false ∧ s.wasForfeited r = false := by
  obtain ⟨written, hwritten, hcases⟩ := h.leave_written (runs_keyed (start_keyed now version repository) hrun) hstep
  have hsplit : written = before ++ (c, e) :: after := by
    rw [hwritten, List.append_assoc] at hwire
    exact List.append_cancel_left hwire
  have hmem : (c, e) ∈ written := hsplit ▸ List.mem_append_right _ List.mem_cons_self
  cases hcases with
  | untold hnone => exact absurd (hleft.symm.trans (hnone _ hmem)) (by simp)
  | told hroom hparts hown htold hends =>
    rename_i room calls reason' own left
    have hsent : ∀ entry ∈ calls.flatMap (s.posted room), entry.2.leftReason = none := by
      intro entry hentry
      obtain ⟨call, hcall, hentry⟩ := List.mem_flatMap.mp hentry
      rcases hends with ⟨-, rfl, -⟩ | ⟨-, state, q, event, -, -, rfl, hend⟩
      · cases hcall
      · obtain rfl := List.mem_singleton.mp hcall
        exact (posted_unleft hend entry hentry).2
    have hnew : (c, e) ∉ calls.flatMap (s.posted room) ++ own := by
      intro hold
      have hnone : e.leftReason = none :=
        (List.mem_append.mp hold).elim (hsent (c, e)) fun hmine => (hown (c, e) hmine).1
      exact absurd (hleft.symm.trans hnone) (by simp)
    obtain ⟨middle, hbefore, hmiddle⟩ := before_of_append (hsplit.symm.trans hparts) hnew
    have hlast : (c, e) ∈ left := (List.mem_append.mp (hparts ▸ hmem)).resolve_left hnew
    obtain ⟨hreason, hopen⟩ := htold (c, e) hlast
    obtain rfl := Option.some.inj (hleft.symm.trans hreason)
    rcases hends with ⟨hidle, -, htells⟩ | ⟨rfl, state, q, event, hstate, hactive, rfl, hend⟩
    · rw [truthful_idle_iff hidle htells, hidle]
      simp
    · have hruns : s.inStatus r .active = true := by simp [inStatus, hstate, hactive]
      rw [List.flatMap_cons, List.flatMap_nil, List.append_nil] at hbefore
      rw [truthful_forfeit_iff hroom hopen hstate hactive hend hbefore (fun entry hentry => (hown entry hentry).2 state)
        fun entry hentry => by rw [(htold entry (hmiddle hentry)).1]; simp, hruns]
      simp

/-- Player 1 leaves in the middle of the game. -/
theorem leave_reason_iff_forfeit : ∃ (s t : Server) (before : List (ConnectionId × WireEvent)) (e : WireEvent),
    Server.Runs tallies (fun _ _ => True) fresh s ∧
    s.Handles (asks 0 "leave1" (.leaveRoom (tally 'r' 4))) ⟨"leave1", .leaveRoom (tally 'r' 4)⟩ (tally 'p' 1) ∧
    s.step tallies (asks 0 "leave1" (.leaveRoom (tally 'r' 4))) = some t ∧
    t.wire = s.wire ++ before ++ [(tally 'c' 2, e)] ∧ e.leftReason = some .forfeit ∧
    TruthfulLeft s (tally 'r' 4) (tally 'c' 2) .forfeit before := by
  have hcheck : (Transition.run (step tallies) (fun _ _ => true) fresh opening).any (fun s =>
      s.asker 0 "leave1" = some (tally 'p' 1) && s.inStatus (tally 'r' 4) .active &&
        (s.getRoom (tally 'r' 4)).any (fun room => (room.slot .O).any fun slot =>
          slot.connected && tally 'c' 2 ∈ s.getPlayerConnectionIds slot.playerId) &&
        (s.step tallies (asks 0 "leave1" (.leaveRoom (tally 'r' 4)))).any fun t =>
          (t.wire.drop s.wire.length).getLast?.any fun entry =>
            entry.1 = tally 'c' 2 && entry.2.leftReason = some .forfeit) = true := by decide +kernel
  obtain ⟨s, hrun, hs⟩ := Transition.exists_run (C := fun _ _ => True) (fun _ _ _ => trivial) hcheck
  simp only [Option.any_eq_true, Bool.and_eq_true, decide_eq_true_eq] at hs
  obtain ⟨⟨⟨hasker, hactive⟩, room, hroom, slot, hslot, hconnected, hc⟩, t, hstep, ⟨_, e⟩, hlast, rfl, hleft⟩ := hs
  have h := handles_of_asker hasker (.leaveRoom (tally 'r' 4))
  obtain ⟨before, hwire⟩ := h.written_last (runs_keyed (start_keyed _ _ _) hrun) hstep hlast
  exact ⟨s, t, before, e, hrun, h, hstep, hwire, hleft, (leave_reason_iff hrun h hstep hwire hleft).mpr
    (Or.inl ⟨hactive, room, .O, slot, hroom, hslot, hconnected, hc⟩)⟩

/-- After this forfeit player 7 takes the slot and leaves again: player 3 is told that player 7 has forfeited, while no
game was running. -/
theorem newcomer_said_to_forfeit : ∃ (s t : Server) (before : List (ConnectionId × WireEvent)) (e : WireEvent),
    Server.Runs tallies (fun _ _ => True) fresh s ∧
    s.Handles (asks 6 "leave7" (.leaveRoom (tally 'r' 4))) ⟨"leave7", .leaveRoom (tally 'r' 4)⟩ (tally 'p' 7) ∧
    s.step tallies (asks 6 "leave7" (.leaveRoom (tally 'r' 4))) = some t ∧
    t.wire = s.wire ++ before ++ [(tally 'c' 2, e)] ∧ e.leftReason = some .forfeit ∧
    s.inStatus (tally 'r' 4) .active = false ∧ ¬TruthfulLeft s (tally 'r' 4) (tally 'c' 2) .forfeit before := by
  have hcheck : (Transition.run (step tallies) (fun _ _ => true) fresh
      (opening ++ [asks 0 "leave1" (.leaveRoom (tally 'r' 4)), .connect, asks 6 "auth7" (.auth none),
        asks 6 "join7" (.joinRoom (tally 'r' 4) none)])).any (fun s =>
      s.asker 6 "leave7" = some (tally 'p' 7) && !s.inStatus (tally 'r' 4) .active &&
        (s.step tallies (asks 6 "leave7" (.leaveRoom (tally 'r' 4)))).any fun t =>
          (t.wire.drop s.wire.length).getLast?.any fun entry =>
            entry.1 = tally 'c' 2 && entry.2.leftReason = some .forfeit) = true := by decide +kernel
  obtain ⟨s, hrun, hs⟩ := Transition.exists_run (C := fun _ _ => True) (fun _ _ _ => trivial) hcheck
  simp only [Option.any_eq_true, Bool.and_eq_true, Bool.not_eq_true', decide_eq_true_eq] at hs
  obtain ⟨⟨hasker, hidle⟩, t, hstep, ⟨_, e⟩, hlast, rfl, hleft⟩ := hs
  have h := handles_of_asker hasker (.leaveRoom (tally 'r' 4))
  obtain ⟨before, hwire⟩ := h.written_last (runs_keyed (start_keyed _ _ _) hrun) hstep hlast
  refine ⟨s, t, before, e, hrun, h, hstep, hwire, hleft, hidle, fun htrue => ?_⟩
  have htells := htrue.tells
  rw [hidle] at htells
  cases htells

end TicTacToe

import TicTacToe.Theorems.Closing
import TicTacToe.Theorems.RoomRecords

/-! # Who wants to play can play

Whatever has happened before, two players who hold the slots of a live room can start a game when none is running, and
two players without a room can get to a game of their own, and to its end. -/

namespace TicTacToe
namespace Server
variable {s t : Server} {G : IdSource} {r : RoomId} {p q : PlayerId} {c : ConnectionId} {id : CommandId} {room : RoomRecord}
  {rec : ConnectionRecord} {token : SessionToken} {frame : RawFrame} {diskFails : Bool} {command : Command}
  {symbol : PlayerSymbol} {a : RoomAction} {n : Nat}

/-! ### One command -/

/-- What the handler of a routed command does to a room is done in the step. -/
theorem Routed.does (h : s.Routed (.frame c frame diskFails) c rec command)
    (hacts : Acts G (s.arrived c rec) ((s.arrived c rec).dispatch G c rec command diskFails).server r a) :
    Acts G s (s.handleFrame G c frame diskFails) r a := by
  rw [handleFrame_routed h]
  exact ((arrived_quiet s c rec).still.trans_acts hacts).trans_still (conclude_quiet G c command.commandId _).still

theorem Routed.connections (h : s.Routed (.frame c frame diskFails) c rec command)
    (hbody : ∀ guestToken, command.body ≠ .auth guestToken) :
    (s.handleFrame G c frame diskFails).connections = ((s.touchConnection c).countFrame c).connections := by
  rw [handleFrame_routed h, conclude_connections, dispatch_connections_same hbody, arrived_connections]

/-- A `PLAYER_READY` of a player who is not ready yet, in a live room with two players. -/
theorem Routed.readies (h : s.Routed (.frame c frame diskFails) c rec ⟨id, .playerReady r⟩)
    (htoken : rec.sessionToken = some token) (hp : s.Processed token id p) (hroom : s.getRoom r = some room)
    (hcount : 2 ≤ playerCount room) (hsymbol : getSymbolForPlayer room p = some symbol)
    (hready : symbol ∉ room.readySymbols) : Acts G s (s.handleFrame G c frame diskFails) r (.readied p) := by
  refine h.does ?_
  have hq := arrived_quiet s c rec
  obtain ⟨session, hs, rfl⟩ := (hp.to_quiet hq).session
  have huncached := (hp.to_quiet hq).uncached
  have hroom' : (s.arrived c rec).getRoom r = some room := (hq.getRoom r).trans hroom
  have hlooked := afterLookup_quiet (s.arrived c rec) id
  have hdispatch : (s.arrived c rec).dispatch G c rec ⟨id, .playerReady r⟩ diskFails =
      (s.arrived c rec).handlePlayerReady G c id r token := by
    simp only [dispatch, htoken]
  rw [hdispatch, handlePlayerReady, roomCommand_eq hs huncached hroom']
  dsimp only
  rw [if_neg (Nat.not_lt.mpr hcount), hsymbol]
  dsimp only
  rw [if_neg hready]
  exact hlooked.still.trans_acts
    (becomeReady_acts ((hlooked.cached id).trans huncached) ((hlooked.getRoom r).trans hroom') hcount hsymbol hready)

/-- A `JOIN_ROOM` of a player without a room, for a live room with a free slot. -/
theorem Routed.joins {session : PlayerSession} {name : Option PlayerName}
    (h : s.Routed (.frame c frame diskFails) c rec ⟨id, .joinRoom r name⟩) (htoken : rec.sessionToken = some token)
    (hs : s.getSession token = some session) (hc : s.cached id = none) (hnone : session.roomId = none)
    (hroom : s.getRoom r = some room) (hslot : getSlotByPlayerId room session.playerId = none)
    (hfree : playerCount room < 2) : Acts G s (s.handleFrame G c frame diskFails) r (.entered session.playerId) := by
  refine h.does ?_
  have hq := arrived_quiet s c rec
  obtain ⟨session', hs', hplayer, hassoc⟩ := hq.session_to_some hs
  rw [← hplayer] at hslot ⊢
  have huncached := (hq.cached id).trans hc
  have hdispatch : (s.arrived c rec).dispatch G c rec ⟨id, .joinRoom r name⟩ diskFails =
      (s.arrived c rec).handleJoinRoom c id r name token := by
    simp only [dispatch, htoken]
  rw [hdispatch, handleJoinRoom]
  have hlooked := afterLookup_quiet (s.arrived c rec) id
  have hroom' : ((s.arrived c rec).afterLookup id).getRoom r = some room :=
    (hlooked.getRoom r).trans ((hq.getRoom r).trans hroom)
  have hadd : ∃ symbol room', room.addPlayer ((s.arrived c rec).afterLookup id).now session'.playerId
      (sanitiseName name) = some (symbol, room') := by
    unfold RoomRecord.addPlayer
    split
    · exact ⟨_, _, rfl⟩
    · split
      · exact ⟨_, _, rfl⟩
      · rename_i hX hO
        simp [playerCount, Option.isSome_iff_ne_none.mpr hX, Option.isSome_iff_ne_none.mpr hO] at hfree
  obtain ⟨symbol, room', hadd⟩ := hadd
  rcases withSession_cases (s.arrived c rec) c id token _ with ⟨hgone, -⟩ | ⟨session'', hs'', he⟩
  · rw [hs'] at hgone
    cases hgone
  obtain rfl := Option.some.inj (hs'.symm.trans hs'')
  rw [he]
  rcases unlessCached_cases (s.arrived c rec) id (resend c) _ with ⟨entry, hcached, -⟩ | ⟨-, he⟩
  · rw [huncached] at hcached
    cases hcached
  rw [he]
  rw [hassoc, hnone, if_neg (by simp)]
  rcases withRoom_cases ((s.arrived c rec).afterLookup id) c id r _ with ⟨hgone, -⟩ | ⟨room'', hroom'', he⟩
  · rw [hroom'] at hgone
    cases hgone
  obtain rfl := Option.some.inj (hroom'.symm.trans hroom'')
  rw [he]
  rw [hslot]
  dsimp only
  rw [if_neg (Nat.not_le.mpr hfree), hadd]
  exact hlooked.still.trans_acts (enterRoom_acts ((hlooked.cached id).trans huncached) hs'
    (by rw [hassoc, hnone]; rfl) hroom' hslot hadd)

/-! ### What it makes of the room -/

/-- A room that is live before a step other than its creation is live afterwards. -/
theorem Acts.getRoom (h : Acts G s t r a) (ha : a ≠ .created) (hroom : s.getRoom r = some room) {room' : RoomRecord}
    (hview : (t.view r).room = some room') : t.getRoom r = some room' := by
  have hlive : (t.getRoom r).isSome = true := by
    rcases h.alive r with ⟨-, hcreated⟩ | hsame
    · exact absurd hcreated ha
    · rw [hsame, hroom, Option.isSome_some]
  obtain ⟨room'', hroom''⟩ := Option.isSome_iff_exists.mp hlive
  rw [hroom'', ← hview, view_room_of_getRoom hroom'']

theorem bothReady_markReady : (room.markReady symbol).bothReady = true ↔ opponent symbol ∈ room.readySymbols := by
  cases symbol <;> simp [RoomRecord.bothReady, RoomRecord.markReady, JsSet.mem_add, opponent]

/-- The first player to get ready is marked. -/
theorem Acts.ready_marks (h : Acts G s t r (.readied p)) (hroom : s.getRoom r = some room)
    (hsymbol : getSymbolForPlayer room p = some symbol) (hready : symbol ∉ room.readySymbols)
    (hother : opponent symbol ∉ room.readySymbols) : t.getRoom r = some (room.markReady symbol) := by
  obtain ⟨sends, hstep, -⟩ := h.step
  have hview := view_room_of_getRoom hroom
  refine h.getRoom (by simp) hroom ?_
  generalize t.view r = v' at hstep ⊢
  cases hstep with
  | readiedAgain hroom' hsymbol' hready' =>
    obtain rfl := Option.some.inj (hview.symm.trans hroom')
    obtain rfl := Option.some.inj (hsymbol.symm.trans hsymbol')
    exact absurd hready' hready
  | readied hroom' hsymbol' =>
    obtain rfl := Option.some.inj (hview.symm.trans hroom')
    obtain rfl := Option.some.inj (hsymbol.symm.trans hsymbol')
    rfl
  | startedReady hroom' hcount hsymbol' hready' hboth =>
    obtain rfl := Option.some.inj (hview.symm.trans hroom')
    obtain rfl := Option.some.inj (hsymbol.symm.trans hsymbol')
    exact absurd (bothReady_markReady.mp hboth) hother

/-- A new game of the players `x` and `o` runs in room `r`, with an id drawn in `s` or later. -/
structure Begins (G : IdSource) (s : Server) (r : RoomId) (x o : PlayerId) (t : Server) (state : GameState) : Prop where
  gameState : t.gameState r = some state
  active : state.status = .active
  players : state.playerX = x ∧ state.playerO = o
  board : state.board = EMPTY_BOARD
  drawn : ∃ n, s.nextId ≤ n ∧ state.gameId = G.gameId n

/-- The game starts when the second player gets ready. -/
theorem Acts.ready_starts {x o : PlayerSlot} (h : Acts G s t r (.readied p)) (hroom : s.getRoom r = some room)
    (hX : room.playerX = some x) (hO : room.playerO = some o) (hsymbol : getSymbolForPlayer room p = some symbol)
    (hready : symbol ∉ room.readySymbols) (hother : opponent symbol ∈ room.readySymbols) :
    (t.getRoom r).isSome ∧ ∃ state, Begins G s r x.playerId o.playerId t state := by
  obtain ⟨sends, hstep, -⟩ := h.step
  have hview := view_room_of_getRoom hroom
  have hboth : (room.markReady symbol).bothReady = true := bothReady_markReady.mpr hother
  have hstarts : ∃ room' state n, (t.view r).room = some room' ∧ (t.view r).state = some state ∧ s.nextId ≤ n ∧
      state.status = .active ∧ state.playerX = x.playerId ∧ state.playerO = o.playerId ∧ state.board = EMPTY_BOARD ∧
      state.gameId = G.gameId n := by
    generalize t.view r = v' at hstep ⊢
    cases hstep with
    | readiedAgain hroom' hsymbol' hready' =>
      obtain rfl := Option.some.inj (hview.symm.trans hroom')
      obtain rfl := Option.some.inj (hsymbol.symm.trans hsymbol')
      exact absurd hready' hready
    | readied hroom' hsymbol' hready' hboth' =>
      obtain rfl := Option.some.inj (hview.symm.trans hroom')
      obtain rfl := Option.some.inj (hsymbol.symm.trans hsymbol')
      rw [hboth] at hboth'
      cases hboth'
    | @startedReady _ _ _ k n hroom' hcount hsymbol' hready' hboth' hlo hhi =>
      obtain rfl := Option.some.inj (hview.symm.trans hroom')
      obtain rfl := Option.some.inj (hsymbol.symm.trans hsymbol')
      have hX' : (room.markReady symbol).resetReady.playerX = some x := hX
      have hO' : (room.markReady symbol).resetReady.playerO = some o := hO
      have hstart : ((((s.view r).gameOrNew r).bump k).startGame s.now (G.gameId n) (room.markReady symbol).resetReady
          (readyFirstTurn (s.view r).state)).session.gameState = some ((((s.view r).gameOrNew r).bump k).openingState s.now
            (G.gameId n) x o (readyFirstTurn (s.view r).state)) := by
        unfold GameSession.startGame
        rw [hX', hO']
        rfl
      exact ⟨_, _, n, rfl, hstart, hlo, rfl, rfl, rfl, rfl, rfl⟩
  obtain ⟨room', state, n, hroom', hstate, hlo, hactive, hx, ho, hboard, hid⟩ := hstarts
  refine ⟨Option.isSome_of_eq_some (h.getRoom (by simp) hroom hroom'), state, ?_⟩
  exact ⟨hstate, hactive, ⟨hx, ho⟩, hboard, n, hlo, hid⟩

/-- What joining makes of the room. -/
theorem Acts.entered_room (h : Acts G s t r (.entered p)) (hroom : s.getRoom r = some room) :
    ∃ name symbol room', room.addPlayer s.now p name = some (symbol, room') ∧ t.getRoom r = some (room'.touch s.now) := by
  obtain ⟨sends, hstep, -⟩ := h.step
  have hview := view_room_of_getRoom hroom
  have hentered : ∃ name symbol room', room.addPlayer s.now p name = some (symbol, room') ∧
      (t.view r).room = some (room'.touch s.now) := by
    generalize t.view r = v' at hstep ⊢
    cases hstep with
    | entered hroom' hslot hadd =>
      obtain rfl := Option.some.inj (hview.symm.trans hroom')
      exact ⟨_, _, _, hadd, rfl⟩
  obtain ⟨name, symbol, room', hadd, hroom'⟩ := hentered
  exact ⟨name, symbol, room', hadd, h.getRoom (by simp) hroom hroom'⟩

theorem CanSend.mono {m : Nat} (h : s.CanSend n p) (hm : m ≤ n) : s.CanSend m p := by
  obtain ⟨c, rec, token, session, hrec, hauth, htoken, hsession, hp, hcount⟩ := h
  exact ⟨c, rec, token, session, hrec, hauth, htoken, hsession, hp, by omega⟩

/-- A player who can send a command, and is not ready yet, gets ready. -/
theorem Seats.gets_ready (hn : G.NeverRepeats) (hs : s.Seats G) (hsend : s.CanSend (n + 1) p)
    (hroom : s.getRoom r = some room) (hcount : 2 ≤ playerCount room) (hsymbol : getSymbolForPlayer room p = some symbol)
    (hready : symbol ∉ room.readySymbols) :
    ∃ i t id, s.Handles i ⟨id, .playerReady r⟩ p ∧ s.step G i = some t ∧ Acts G s t r (.readied p) ∧
      ∀ q m, s.CanSend (m + 1) q → t.CanSend m q := by
  obtain ⟨id, hid⟩ := s.exists_uncached
  obtain ⟨c, rec, token, frame, hrouted, htoken, hp⟩ := hsend.routed hid (.playerReady r)
  have hacts := hrouted.readies (G := G) htoken hp hroom hcount hsymbol hready
  refine ⟨_, _, id, ⟨c, rec, token, hrouted, htoken, hp⟩, rfl, hacts, fun q m hq => ?_⟩
  have hsession : ∀ token, (s.handleFrame G c frame false).session token = s.session token := hacts.session hn hs.issuing
  exact hq.later (hrouted.connections fun _ h => by cases h) fun token =>
    congrArg (Option.map PlayerSession.playerId) (hsession token)

/-- A `PLAYER_READY` for room `r` is handled, of one of two players. -/
def ReadyingIn (r : RoomId) (p q : PlayerId) (s : Server) (i : Input) : Prop :=
  ∃ id, s.Handles i ⟨id, .playerReady r⟩ p ∨ s.Handles i ⟨id, .playerReady r⟩ q

theorem two_le_playerCount {x o : PlayerSlot} (hX : room.playerX = some x) (hO : room.playerO = some o) :
    2 ≤ playerCount room := by
  simp [playerCount, hX, hO]

/-- One player is ready, and the other one gets ready. -/
theorem Seats.second_ready {x o : PlayerSlot} (hn : G.NeverRepeats) (hs : s.Seats G) (hroom : s.getRoom r = some room)
    (hX : room.playerX = some x) (hO : room.playerO = some o) (hsymbol : getSymbolForPlayer room p = some symbol)
    (hready : symbol ∉ room.readySymbols) (hother : opponent symbol ∈ room.readySymbols) (hsend : s.CanSend (n + 1) p)
    (hp : p = x.playerId ∨ p = o.playerId) :
    ∃ t state, Runs G (ReadyingIn r x.playerId o.playerId) s t ∧ (t.getRoom r).isSome ∧
      Begins G s r x.playerId o.playerId t state ∧ ∀ q m, s.CanSend (m + 1) q → t.CanSend m q := by
  obtain ⟨i, t, id, hhandles, hstep, hacts, hlater⟩ :=
    hs.gets_ready hn hsend hroom (two_le_playerCount hX hO) hsymbol hready
  obtain ⟨hlive, state, hbegins⟩ := hacts.ready_starts hroom hX hO hsymbol hready hother
  have hinput : ReadyingIn r x.playerId o.playerId s i := by
    rcases hp with rfl | rfl
    · exact ⟨id, Or.inl hhandles⟩
    · exact ⟨id, Or.inr hhandles⟩
  exact ⟨t, state, .tail .refl hinput hstep, hlive, hbegins, hlater⟩

/-- Whoever of the two players is ready already, the game can be started. -/
theorem Seats.starts {x o : PlayerSlot} (hn : G.NeverRepeats) (hs : s.Seats G) (hroom : s.getRoom r = some room)
    (hsound : room.Sound) (hX : room.playerX = some x) (hO : room.playerO = some o) (hsendX : s.CanSend (n + 2) x.playerId)
    (hsendO : s.CanSend (n + 2) o.playerId) :
    ∃ t state, Runs G (ReadyingIn r x.playerId o.playerId) s t ∧ (t.getRoom r).isSome ∧
      Begins G s r x.playerId o.playerId t state ∧ ∀ q m, s.CanSend (m + 2) q → t.CanSend m q := by
  have hsymbolX : getSymbolForPlayer room x.playerId = some .X :=
    RoomRecord.getSymbolForPlayer_of_slot hsound.distinct (RoomRecord.slotHolds_iff.mpr ⟨x, hX, rfl⟩)
  have hsymbolO : getSymbolForPlayer room o.playerId = some .O :=
    RoomRecord.getSymbolForPlayer_of_slot hsound.distinct (RoomRecord.slotHolds_iff.mpr ⟨o, hO, rfl⟩)
  by_cases hreadyX : PlayerSymbol.X ∈ room.readySymbols
  · have hreadyO : PlayerSymbol.O ∉ room.readySymbols := fun h => hsound.incomplete ⟨hreadyX, h⟩
    obtain ⟨t, state, hrun, hlive, hbegins, hlater⟩ := hs.second_ready hn hroom hX hO hsymbolO hreadyO hreadyX
      hsendO (Or.inr rfl)
    exact ⟨t, state, hrun, hlive, hbegins, fun q m hq => hlater q m (hq.mono (by omega))⟩
  · by_cases hreadyO : PlayerSymbol.O ∈ room.readySymbols
    · obtain ⟨t, state, hrun, hlive, hbegins, hlater⟩ := hs.second_ready hn hroom hX hO hsymbolX hreadyX hreadyO
        hsendX (Or.inl rfl)
      exact ⟨t, state, hrun, hlive, hbegins, fun q m hq => hlater q m (hq.mono (by omega))⟩
    · obtain ⟨i, u, id, hhandles, hstep, hacts, hlater⟩ :=
        hs.gets_ready hn hsendX hroom (two_le_playerCount hX hO) hsymbolX hreadyX
      have hroom' := hacts.ready_marks hroom hsymbolX hreadyX hreadyO
      have hmarked : PlayerSymbol.X ∈ (room.markReady .X).readySymbols := JsSet.mem_add.mpr (Or.inl rfl)
      have hunmarked : PlayerSymbol.O ∉ (room.markReady .X).readySymbols := by
        intro h
        rcases JsSet.mem_add.mp h with h | h
        · cases h
        · exact hreadyO h
      obtain ⟨t, state, hrun, hlive, hbegins, hlater'⟩ :=
        (hs.step hn hstep).second_ready hn hroom' hX hO hsymbolO hunmarked hmarked (hlater _ _ hsendO)
          (Or.inr rfl)
      obtain ⟨k, hk, hdrawn⟩ := hbegins.drawn
      have hnext : s.nextId ≤ u.nextId := hacts.nextId
      refine ⟨t, state, (Transition.Runs.tail .refl ⟨id, Or.inl hhandles⟩ hstep).trans hrun, hlive, ?_, fun q m hq => ?_⟩
      · exact { hbegins with drawn := ⟨k, hnext.trans hk, hdrawn⟩ }
      · exact hlater' q m (hlater q (m + 1) hq)

theorem runs_roomsSound {C : Server → Input → Prop} {now : Millis} {version : String} {repository : HistoryRepository}
    (h : Runs G C (start now version repository) s) : s.Keyed ∧ ∀ r, (s.view r).Sound := by
  refine h.invariant (P := fun s => s.Keyed ∧ ∀ r, (s.view r).Sound)
    ⟨start_keyed now version repository, fun r room hroom => by cases hroom⟩
    fun s t i hs _ hstep => ⟨hs.1.step hstep, fun r => ?_⟩
  rcases step_view hs.1 hstep r with hview | ⟨a, hacts, -⟩
  · exact hview ▸ hs.2 r
  · obtain ⟨sends, hroomStep, -⟩ := hacts.step
    exact hroomStep.sound (hs.2 r)

/-! ### From a new room to the end of a game -/

end Server

open Server

/-- Whatever has happened in a live room with two players: when each of them can send two commands, they can start a game
by getting ready. -/
theorem seated_players_can_start {G : IdSource} (hn : G.NeverRepeats) {C : Server → Input → Prop} {now : Millis}
    {version : String} {repository : HistoryRepository} {s : Server} {r : RoomId} {room : RoomRecord} {x o : PlayerSlot}
    (hrun : Runs G C (start now version repository) s) (hroom : s.getRoom r = some room) (hX : room.playerX = some x)
    (hO : room.playerO = some o) (hsendX : s.CanSend 2 x.playerId) (hsendO : s.CanSend 2 o.playerId) :
    ∃ t state, Runs G (ReadyingIn r x.playerId o.playerId) s t ∧ Begins G s r x.playerId o.playerId t state := by
  have hsound : room.Sound := (runs_roomsSound hrun).2 r room (view_room_of_getRoom hroom)
  obtain ⟨t, state, hready, -, hbegins, -⟩ := (runs_seats hn hrun).starts hn hroom hsound hX hO hsendX hsendO
  exact ⟨t, state, hready, hbegins⟩

/-- The two players of the opening start their game. -/
theorem seated_players_can_start_opening : ∃ s t state, Runs tallies (fun _ _ => True) fresh s ∧
    s.gameState (tally 'r' 4) = none ∧ Runs tallies (ReadyingIn (tally 'r' 4) (tally 'p' 1) (tally 'p' 3)) s t ∧
    Begins tallies s (tally 'r' 4) (tally 'p' 1) (tally 'p' 3) t state := by
  have hcheck : (Transition.run (step tallies) (fun _ _ => true) fresh (opening.take 7)).any (fun s =>
      (s.gameState (tally 'r' 4)).isNone && s.sends 0 2 (tally 'p' 1) && s.sends 2 2 (tally 'p' 3) &&
        (s.getRoom (tally 'r' 4)).any fun room => room.playerX.any (fun x => x.playerId = tally 'p' 1) &&
          room.playerO.any fun o => o.playerId = tally 'p' 3) = true := by decide +kernel
  obtain ⟨s, hrun, hs⟩ := Transition.exists_run (C := fun _ _ => True) (fun _ _ _ => trivial) hcheck
  simp only [Bool.and_eq_true, Option.any_eq_true, decide_eq_true_eq, Option.isNone_iff_eq_none] at hs
  obtain ⟨⟨⟨hnone, hsendX⟩, hsendO⟩, room, hroom, ⟨x, hX, hx⟩, o, hO, ho⟩ := hs
  obtain ⟨t, state, hready, hbegins⟩ := seated_players_can_start tallies_neverRepeats hrun hroom hX hO
    (canSend_of_sends (hx ▸ hsendX)) (canSend_of_sends (ho ▸ hsendO))
  rw [hx, ho] at hready hbegins
  exact ⟨s, t, state, hrun, hnone, hready, hbegins⟩

end TicTacToe

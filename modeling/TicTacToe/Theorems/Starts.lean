import TicTacToe.Theorems.Emissions

/-! # Starts of games

A game is started by the last ready mark or by the last accept of a rematch, and announced once. Both ways
give the first turn to the symbol that did not have it in the game before. -/

namespace TicTacToe

/-- What identifies a started game. -/
structure GameStart where
  gameId : GameId
  firstTurn : PlayerSymbol
  playerX : PlayerId
  playerO : PlayerId
  deriving DecidableEq

def GameState.asStart (state : GameState) : GameStart :=
  ⟨state.gameId, state.firstTurn, state.playerX, state.playerO⟩

/-- The game whose start a call announces to the room. -/
def SendCall.started (call : SendCall) : Option GameStart :=
  match call.target, call.event with
  | .broadcast, .room ⟨_, _, _, .gameStarted gameId _ firstTurn players _⟩ =>
    some ⟨gameId, firstTurn, players.X.playerId, players.O.playerId⟩
  | _, _ => none

/-- The games whose start the calls announce. -/
def startedGames (sends : List SendCall) : List GameStart := sends.filterMap SendCall.started

/-- Calls without a `GAME_STARTED` announce no start. -/
theorem startedGames_nil {allowed : RoomPayload → Bool} {sends : List SendCall} (h : SendsOnly allowed sends)
    (hno : ∀ gameId board firstTurn players startedAt,
      allowed (.gameStarted gameId board firstTurn players startedAt) = false) : startedGames sends = [] := by
  refine List.filterMap_eq_nil_iff.mpr fun call hcall => ?_
  unfold SendCall.started
  split
  · rename_i gameId board firstTurn players startedAt _ hevent
    have hallowed := h call hcall _ (by rw [SendCall.payload, hevent])
    rw [hno] at hallowed
    cases hallowed
  · rfl

namespace GameSession

/-- With both players there, the start is announced. -/
theorem startGame_started {room : RoomRecord} {playerX playerO : PlayerSlot} (gs : GameSession) (now : Millis)
    (gameId : GameId) (firstTurn : PlayerSymbol) (hX : room.playerX = some playerX) (hO : room.playerO = some playerO) :
    (gs.startGame now gameId room firstTurn).session.gameState =
        some (gs.openingState now gameId playerX playerO firstTurn) ∧
      startedGames (gs.startGame now gameId room firstTurn).sends =
        [(gs.openingState now gameId playerX playerO firstTurn).asStart] := by
  rcases startGame_cases gs now gameId room firstTurn with h | ⟨playerX', playerO', hX', hO', h⟩
  · simp only [startGame, hX, hO] at h
    have hsends := congrArg Emitted.sends h
    simp at hsends
  · obtain rfl := Option.some.inj (hX.symm.trans hX')
    obtain rfl := Option.some.inj (hO.symm.trans hO')
    rw [h]
    exact ⟨(emit_same _ _ _ _).gameState, rfl⟩

end GameSession

/-! ### Steps -/

/-- What action `a` starts in the room. -/
inductive StartStep (G : IdSource) (lo hi : Nat) (v : RoomView) (a : RoomAction) (sends : List SendCall)
    (v' : RoomView) : Prop
  | none (hgame : v'.state.map GameState.asStart = v.state.map GameState.asStart) (hsends : startedGames sends = [])
  | started {state : GameState} {n : Nat}
    (hcause : (∃ p, a = .readied p) ∨ ∃ p gameId, a = .rematchAccepted p gameId) (hlo : lo ≤ n) (hhi : n < hi)
    (hid : state.gameId = G.gameId n) (hfirst : state.firstTurn = Server.readyFirstTurn v.state)
    (hstate : v'.state = some state) (hsends : startedGames sends = [state.asStart])

theorem EndsBy.firstTurn {now : Millis} {v : RoomView} {state t : GameState} {a : RoomAction}
    (h : EndsBy now v state a t) : t.firstTurn = state.firstTurn := by
  cases h with
  | move ha hid hmove => exact hmove.firstTurn
  | forfeit | abandon => rfl

/-- Other actions leave the game the same game. -/
theorem GameStep.asStart {G : IdSource} {now : Millis} {r : RoomId} {lo hi : Nat} {v v' : RoomView} {a : RoomAction}
    {sends : List SendCall} (h : GameStep G now r lo hi v a sends v') (hready : ∀ p, a ≠ .readied p)
    (haccept : ∀ p gameId, a ≠ .rematchAccepted p gameId) :
    v'.state.map GameState.asStart = v.state.map GameState.asStart := by
  have hkept : ∀ {state t : GameState}, t.gameId = state.gameId → t.firstTurn = state.firstTurn →
      t.playerX = state.playerX → t.playerO = state.playerO → t.asStart = state.asStart := by
    intro state t hid hfirst hX hO
    rw [GameState.asStart, GameState.asStart, hid, hfirst, hX, hO]
  cases h with
  | same hstate => rw [hstate]
  | started hcause =>
    rcases hcause with ⟨p, room, ha, -⟩ | ⟨⟨p, gameId, ha⟩, -⟩
    · exact absurd ha (hready p)
    · exact absurd ha (haccept p gameId)
  | moved ha hstate hmove hstate' =>
    rw [hstate, hstate', Option.map_some, Option.map_some,
      hkept hmove.gameId hmove.firstTurn hmove.playerX hmove.playerO]
  | ended hend hstate hactive hstate' | failed hend hstate hactive hstate' =>
    obtain ⟨hid, hX, hO, -⟩ := hend.fields
    rw [hstate, hstate', Option.map_some, Option.map_some, hkept hid hend.firstTurn hX hO]

theorem RoomStep.starts {G : IdSource} {now : Millis} {r : RoomId} {lo hi : Nat} {v v' : RoomView} {a : RoomAction}
    {sends : List SendCall} (hk : ∀ gs, v.game = some gs → gs.roomId = r) (h : RoomStep G now r lo hi v a sends v') :
    StartStep G lo hi v a sends v' := by
  have hgame := h.gameStep hk
  -- A start with a slot missing does nothing.
  have hstart : ∀ (gs : GameSession) (n : Nat) (room : RoomRecord) (firstTurn : PlayerSymbol),
      ((∃ p, a = .readied p) ∨ ∃ p gameId, a = .rematchAccepted p gameId) → lo ≤ n → n < hi →
      gs.gameState = v.state → firstTurn = Server.readyFirstTurn v.state →
      v'.game = some (gs.startGame now (G.gameId n) room firstTurn).session →
      StartStep G lo hi v a (gs.startGame now (G.gameId n) room firstTurn).sends v' := by
    intro gs n room firstTurn hcause hlo hhi hstate hfirst hgame'
    rcases GameSession.startGame_cases gs now (G.gameId n) room firstTurn with h | ⟨playerX, playerO, hX, hO, -⟩
    · rw [h] at hgame' ⊢
      exact .none (by rw [RoomView.state_of_game hgame', hstate]) rfl
    · obtain ⟨hnew, hsends⟩ := GameSession.startGame_started gs now (G.gameId n) firstTurn hX hO
      exact .started hcause hlo hhi rfl hfirst ((RoomView.state_of_game hgame').trans hnew) hsends
  by_cases hready : ∃ p, a = .readied p
  · obtain ⟨p, rfl⟩ := hready
    cases h with
    | readiedAgain hroom hsymbol hready => exact .none (by rw [← RoomView.bump_gameState v r 0]; rfl) rfl
    | @readied p room symbol k hroom hsymbol hready hboth =>
      exact .none (by rw [← RoomView.bump_gameState v r k]; rfl) rfl
    | @startedReady p room symbol k n hroom hcount hsymbol hready hboth hlo hhi =>
      exact hstart _ n _ _ (Or.inl ⟨p, rfl⟩) hlo hhi (RoomView.bump_gameState v r k) rfl rfl
  by_cases haccept : ∃ p gameId, a = .rematchAccepted p gameId
  · obtain ⟨p, gameId, rfl⟩ := haccept
    cases h with
    | @rematchAccepted p room gs gameId unused n hroom hgame' hlo hhi =>
      have hstate := RoomView.state_of_game hgame'
      rcases GameSession.handleRematchAccept_cases gs now (unused, G.gameId n) room p gameId with
        h | ⟨state, proposal, symbol, hgs, -, -, -, -, ⟨-, h⟩ | ⟨-, h⟩⟩
      · rw [h]
        exact .none (by rw [hstate]; rfl) rfl
      · rw [h]
        exact .none (by rw [hstate]; rfl) rfl
      · have hfirst : opponent state.firstTurn = Server.readyFirstTurn v.state := by
          rw [hstate, hgs]
          cases ht : state.firstTurn <;> simp [Server.readyFirstTurn, opponent, ht]
        generalize gs.handleRematchAccept now (unused, G.gameId n) room p gameId = outcome at h hstart ⊢
        subst h
        exact hstart { gs with rematch := none } n room.resetReady _ (Or.inr ⟨p, gameId, rfl⟩) hlo hhi hstate.symm hfirst
          rfl
  -- No other action starts a game.
  have hready' : ∀ p, a ≠ .readied p := fun p ha => hready ⟨p, ha⟩
  have haccept' : ∀ p gameId, a ≠ .rematchAccepted p gameId := fun p gameId ha => haccept ⟨p, gameId, ha⟩
  refine .none (hgame.asStart hready' haccept') (startedGames_nil h.sendsOnly fun _ _ _ _ _ => ?_)
  cases a with
  | readied p => exact absurd rfl (hready' p)
  | rematchAccepted p gameId => exact absurd rfl (haccept' p gameId)
  | _ => rfl

/-! ### Runs -/

namespace Server
variable {s t : Server} {G : IdSource} {i : Input} {r : RoomId}

/-- The next game does not give the first turn to the symbol that has it. -/
theorem readyFirstTurn_ne (state : GameState) : state.firstTurn ≠ readyFirstTurn (some state) := by
  cases hturn : state.firstTurn <;> simp [readyFirstTurn, hturn]

/-- The games started in room `r`, in order. -/
def starts (s : Server) (r : RoomId) : List GameStart :=
  s.sendLog.filterMap fun (r', call) => if r' = r then call.started else none

theorem starts_append {sends : List SendCall} (h : t.sendLog = s.sendLog ++ sends.map (r, ·)) :
    t.starts r = s.starts r ++ startedGames sends := by
  simp [starts, startedGames, h, List.filterMap_append, List.filterMap_map]

theorem starts_append_other {r' : RoomId} {sends : List SendCall} (h : t.sendLog = s.sendLog ++ sends.map (r', ·))
    (hr : r' ≠ r) : t.starts r = s.starts r := by
  simp [starts, h, List.filterMap_append, List.filterMap_map, hr]

/-- A step starts no game in room `r`, or it starts one and gives the first turn to the other symbol. -/
theorem step_starts (hk : s.Keyed) (h : s.step G i = some t) (r : RoomId) :
    (t.starts r = s.starts r ∧
      (t.gameState r).map GameState.asStart = (s.gameState r).map GameState.asStart) ∨
    ∃ state, t.gameState r = some state ∧ state.firstTurn = readyFirstTurn (s.gameState r) ∧
      t.starts r = s.starts r ++ [state.asStart] := by
  rcases step_acts hk h with ⟨elapsed, -, rfl⟩ | ⟨r', a, hacts, -⟩
  · exact Or.inl ⟨rfl, rfl⟩
  obtain ⟨sends, hstep, hlog⟩ := hacts.step
  by_cases hr : r' = r
  · subst hr
    have happend := starts_append hlog
    cases hstep.starts (hk.view _) with
    | none hgame hsends => exact Or.inl ⟨by rw [happend, hsends, List.append_nil], hgame⟩
    | @started state n hcause hlo hhi hid hfirst hstate hsends =>
      exact Or.inr ⟨state, hstate, hfirst, by rw [happend, hsends]⟩
  · have hsame := congrArg (fun v => v.state.map GameState.asStart) (hacts.other r (Ne.symm hr))
    exact Or.inl ⟨starts_append_other hlog hr, hsame⟩

/-- The games started in a room so far: the last one is the room's game, and the first turn alternates. -/
structure Alternates (s : Server) (r : RoomId) : Prop where
  last : (s.gameState r).map GameState.asStart = (s.starts r).getLast?
  turns : ∀ n game, (s.starts r)[n]? = some game → game.firstTurn = expectedSymbol .X n

/-- The first turn of the next game. -/
theorem Alternates.next (ha : s.Alternates r) :
    readyFirstTurn (s.gameState r) = expectedSymbol .X (s.starts r).length := by
  cases hstate : s.gameState r with
  | none =>
    have hnil : (s.starts r).getLast? = none := by rw [← ha.last, hstate, Option.map_none]
    simp [List.getLast?_eq_none_iff.mp hnil, readyFirstTurn, expectedSymbol]
  | some state =>
    have hlast : (s.starts r).getLast? = some state.asStart := by rw [← ha.last, hstate, Option.map_some]
    have hne : s.starts r ≠ [] := fun hnil => by simp [hnil] at hlast
    have hpos := List.length_pos_iff.mpr hne
    have hturn := ha.turns ((s.starts r).length - 1) state.asStart (by rw [← hlast, List.getLast?_eq_getElem?])
    have hfirst : state.firstTurn = expectedSymbol .X ((s.starts r).length - 1) := hturn
    obtain ⟨k, hk⟩ : ∃ k, (s.starts r).length = k + 1 := ⟨_, (Nat.sub_add_cancel hpos).symm⟩
    rw [hk, Nat.add_sub_cancel] at hfirst
    rw [hk, readyFirstTurn, hfirst, expectedSymbol, expectedSymbol]
    rcases Nat.mod_two_eq_zero_or_one k with h | h
    · have h' : (k + 1) % 2 = 1 := by omega
      simp [h, h', opponent]
    · have h' : (k + 1) % 2 = 0 := by omega
      simp [h, h', opponent]

theorem Alternates.step (ha : s.Alternates r) (hk : s.Keyed) (h : s.step G i = some t) : t.Alternates r := by
  rcases step_starts hk h r with ⟨hstarts, hgame⟩ | ⟨state, hstate, hfirst, hstarts⟩
  · exact ⟨by rw [hstarts, hgame, ha.last], fun n game hn => ha.turns n game (hstarts ▸ hn)⟩
  · refine ⟨by rw [hstarts, hstate, List.getLast?_concat, Option.map_some], fun n game hn => ?_⟩
    rw [hstarts] at hn
    rcases Nat.lt_trichotomy n (s.starts r).length with hlt | rfl | hgt
    · rw [List.getElem?_append_left hlt] at hn
      exact ha.turns n game hn
    · rw [List.getElem?_concat_length] at hn
      obtain rfl := Option.some.inj hn
      exact hfirst.trans ha.next
    · have hlength : (s.starts r ++ [state.asStart]).length ≤ n := by
        rw [List.length_append]
        exact hgt
      rw [List.getElem?_eq_none hlength] at hn
      cases hn

theorem runs_alternates {C : Server → Input → Prop} {now : Millis} {version : String} {repository : HistoryRepository}
    (h : Runs G C (start now version repository) s) : s.Keyed ∧ ∀ r, s.Alternates r := by
  refine h.invariant (P := fun s => s.Keyed ∧ ∀ r, s.Alternates r)
    ⟨start_keyed now version repository, fun r => ⟨rfl, fun n game hn => ?_⟩⟩ fun s t i hs _ hstep =>
      ⟨hs.1.step hstep, fun r => (hs.2 r).step hs.1 hstep⟩
  simp [starts, start] at hn

end Server

open Server

/-- The `n`-th game of a room (from 0) gives the first turn to `X` when `n` is even and to `O` otherwise, and so
does its `GAME_STARTED`: a step starts no game in the room, or announces the game that the room has then. -/
theorem first_turn_alternates {G : IdSource} {C : Server → Input → Prop} {now : Millis} {version : String}
    {repository : HistoryRepository} {s t : Server} {i : Input} (hrun : Runs G C (start now version repository) s)
    (hstep : s.step G i = some t) (r : RoomId) :
    (∀ n game, (t.starts r)[n]? = some game → game.firstTurn = if n % 2 = 0 then .X else .O) ∧
    (t.gameState r).map GameState.asStart = (t.starts r).getLast? ∧
    (t.starts r = s.starts r ∧ (t.gameState r).map GameState.asStart = (s.gameState r).map GameState.asStart ∨
      ∃ state, t.gameState r = some state ∧ t.starts r = s.starts r ++ [state.asStart]) := by
  obtain ⟨hk, halternates⟩ := runs_alternates hrun
  have hnext := (halternates r).step hk hstep
  refine ⟨fun n game hn => ?_, hnext.last, ?_⟩
  · rw [hnext.turns n game hn]
    rfl
  · rcases step_starts hk hstep r with h | ⟨state, hstate, -, hstarts⟩
    · exact Or.inl h
    · exact Or.inr ⟨state, hstate, hstarts⟩

/-- Two games, the second one started by ready marks as well. -/
theorem first_turn_alternates_restart : ∃ s t, Runs tallies (fun _ _ => True) fresh s ∧
    s.step tallies (asks 2 "again3" (.playerReady (tally 'r' 4))) = some t ∧
    (t.starts (tally 'r' 4)).length = 2 ∧
    ∀ n game, (t.starts (tally 'r' 4))[n]? = some game → game.firstTurn = if n % 2 = 0 then .X else .O := by
  have hcheck : (Transition.run (step tallies) (fun _ _ => true) fresh
      (opening ++ [asks 0 "again1" (.playerReady (tally 'r' 4))])).any (fun s =>
        (s.step tallies (asks 2 "again3" (.playerReady (tally 'r' 4)))).any fun t =>
          (t.starts (tally 'r' 4)).length = 2) = true := by decide +kernel
  obtain ⟨s, hrun, hs⟩ := Transition.exists_run (C := fun _ _ => True) (fun _ _ _ => trivial) hcheck
  simp only [Option.any_eq_true, decide_eq_true_eq] at hs
  obtain ⟨t, hstep, hlength⟩ := hs
  exact ⟨s, t, hrun, hstep, hlength, (first_turn_alternates hrun hstep _).1⟩

end TicTacToe

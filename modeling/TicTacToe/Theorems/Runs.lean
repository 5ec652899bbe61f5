import TicTacToe.Theorems.SlotStep
import TicTacToe.Theorems.StepActs

/-! # Runs of the server

What one step preserves in every room it preserves along every run. -/

namespace TicTacToe

/-- A session stays the session of its room. -/
theorem RoomStep.roomId {G : IdSource} {now : Millis} {r : RoomId} {lo hi : Nat} {v v' : RoomView} {a : RoomAction}
    {sends : List SendCall} (hk : ∀ gs, v.game = some gs → gs.roomId = r) (h : RoomStep G now r lo hi v a sends v') :
    ∀ gs, v'.game = some gs → gs.roomId = r := by
  have hnew : ∀ k, ((v.gameOrNew r).bump k).roomId = r := by
    intro k
    unfold RoomView.gameOrNew GameSession.bump
    cases hg : v.game with
    | none => rfl
    | some gs => exact hk gs hg
  have hstart : ∀ (gs : GameSession) gameId room firstTurn, gs.roomId = r →
      (gs.startGame now gameId room firstTurn).session.roomId = r := by
    intro gs gameId room firstTurn hgs
    rcases GameSession.startGame_cases gs now gameId room firstTurn with h | ⟨_, _, -, -, h⟩ <;> rw [h]
    · exact hgs
    · exact (GameSession.emit_same _ _ _ _).roomId.trans hgs
  have hend : ∀ (gs : GameSession) repository diskFails p outcome reason, gs.roomId = r →
      (gs.handleEnd repository diskFails p fun state => endGame state outcome reason p now).session.roomId = r := by
    intro gs repository diskFails p outcome reason hgs
    rcases GameSession.handleEnd_cases gs repository diskFails p outcome reason now with ⟨-, h⟩ | ⟨_, _, -, -, -, h⟩
    · rw [h]
      exact hgs
    · exact h.fields.1.trans hgs
  have hmove : ∀ (gs : GameSession) repository diskFails p gameId position commandId, gs.roomId = r →
      (gs.handleMove now repository diskFails p gameId position commandId).session.roomId = r := by
    intro gs repository diskFails p gameId position commandId hgs
    have hm := GameSession.handleMove_moving gs now repository diskFails p gameId position commandId
    generalize gs.handleMove now repository diskFails p gameId position commandId = o at hm
    cases hm with
    | refused => exact hgs
    | rejected => exact hgs
    | continued => exact (GameSession.announced_same _ _ _ _ _ _).roomId.trans hgs
    | finished hstate hid hmove hresult he =>
      exact he.fields.1.trans ((GameSession.announced_same _ _ _ _ _ _).roomId.trans hgs)
  cases h with
  | idle | created | leftIdleRoom | disconnected | reconnectedIdle => exact hk
  | rejoined =>
    intro gs' hgs'
    obtain ⟨gs, hg, rfl⟩ := Option.map_eq_some_iff.mp hgs'
    exact hk gs hg
  | entered | readied => exact fun gs hgs => Option.some.inj hgs ▸ hnew _
  | readiedAgain => exact fun gs hgs => Option.some.inj hgs ▸ hnew 0
  | startedReady => exact fun gs hgs => Option.some.inj hgs ▸ hstart _ _ _ _ (hnew _)
  | left hroom hslot hgame | leaveThrew hroom hslot hgame =>
    exact fun gs' hgs => Option.some.inj hgs ▸ hend _ _ _ _ _ _ (hk _ hgame)
  | moved hroom hgame | moveThrew hroom hgame =>
    exact fun gs' hgs => Option.some.inj hgs ▸ hmove _ _ _ _ _ _ _ (hk _ hgame)
  | @rematchRequested p room gs gameId hroom hgame =>
    intro gs' hgs
    obtain rfl := Option.some.inj hgs
    rcases GameSession.handleRematchRequest_cases gs now room p gameId with h | ⟨symbol, -, -, -, h⟩ <;> rw [h] <;>
      exact hk gs hgame
  | @rematchAccepted p room gs gameId unused n hroom hgame hlo hhi =>
    intro gs' hgs
    obtain rfl := Option.some.inj hgs
    rcases GameSession.handleRematchAccept_cases gs now (unused, G.gameId n) room p gameId with
      h | ⟨_, _, _, -, -, -, -, -, ⟨-, h⟩ | ⟨-, h⟩⟩ <;> rw [h]
    · exact hk gs hgame
    · exact hk gs hgame
    · exact hstart _ _ _ _ (hk gs hgame)
  | @rematchDeclined p room gs gameId hroom hgame =>
    intro gs' hgs
    obtain rfl := Option.some.inj hgs
    rcases GameSession.handleRematchDecline_cases gs room p gameId with h | ⟨symbol, -, -, h⟩ <;> rw [h] <;>
      exact hk gs hgame
  | @reconnected p room gs hroom hslot hgame =>
    exact fun gs' hgs => Option.some.inj hgs ▸ (GameSession.tellOpponent_same _ _ _ _).roomId.trans (hk gs hgame)
  | @windowArmed p room gs hroom hgame =>
    exact fun gs' hgs => Option.some.inj hgs ▸
      (GameSession.startReconnectWindow_fields gs now (room.setConnected now p false) p).1.trans (hk gs hgame)
  | @windowFired p gs timer repository diskFails room' hgame htimer hdue hload hroom hthrew =>
    intro gs' hgs
    obtain rfl := Option.some.inj hgs
    have ha : (gs.handleAbandon now repository diskFails p).session.roomId = r := hend _ _ _ _ _ _ (hk gs hgame)
    rcases GameSession.expireReconnectWindow_cases gs now repository diskFails p timer.symbol with
      ⟨ht, he⟩ | ⟨-, -, he⟩ | ⟨x, -, -, he⟩
    · exact nomatch (he ▸ hthrew : _ = false).symm.trans ht
    · rw [he]
      exact ha
    · rw [he]
      exact ha
  | @rematchFired gs room proposal hroom hgame =>
    intro gs' hgs
    obtain rfl := Option.some.inj hgs
    rcases GameSession.expireRematch_cases gs room proposal.gameId with h | h | ⟨anyPlayer, h⟩ <;> rw [h] <;>
      exact hk gs hgame

namespace Server
variable {s t : Server} {G : IdSource} {i : Input} {r : RoomId}

theorem Keyed.view (h : s.Keyed) (r : RoomId) : ∀ gs, (s.view r).game = some gs → gs.roomId = r := h r

theorem Keyed.step (hk : s.Keyed) (h : s.step G i = some t) : t.Keyed := by
  rcases step_acts hk h with ⟨elapsed, -, rfl⟩ | ⟨r, a, hacts, -⟩
  · exact hk
  · intro r' gs hgs
    obtain ⟨sends, hstep, -⟩ := hacts.step
    by_cases hr : r' = r
    · subst hr
      exact hstep.roomId (hk.view _) gs hgs
    · exact hk r' gs ((congrArg RoomView.game (hacts.other r' hr)).symm.trans hgs)

theorem start_keyed (now : Millis) (version : String) (repository : HistoryRepository) :
    (start now version repository).Keyed := fun r gs h => by simp [start] at h

theorem runs_keyed {C : Server → Input → Prop} (hk : s.Keyed) (h : Runs G C s t) : t.Keyed :=
  h.invariant hk fun _ _ _ hk _ hstep => hk.step hstep

/-- Every step is a step of one room or of the clock; the view of all other rooms stays. -/
theorem step_view (hk : s.Keyed) (h : s.step G i = some t) (r : RoomId) :
    t.view r = s.view r ∨ ∃ a, Acts G s t r a ∧ s.Cause i r a := by
  rcases step_acts hk h with ⟨elapsed, -, rfl⟩ | ⟨r', a, hacts, hcause⟩
  · exact Or.inl rfl
  · by_cases hr : r = r'
    · exact Or.inr ⟨a, hr ▸ hacts, hr ▸ hcause⟩
    · exact Or.inl (hacts.other r hr)

theorem nextId_le_step (hk : s.Keyed) (h : s.step G i = some t) : s.nextId ≤ t.nextId := by
  rcases step_acts hk h with ⟨elapsed, -, rfl⟩ | ⟨r, a, hacts, -⟩
  · exact Nat.le_refl _
  · exact hacts.nextId

/-- The game of room `r`. -/
def gameState (s : Server) (r : RoomId) : Option GameState := (s.gameSessions.get r).bind GameSession.gameState

theorem view_state (s : Server) (r : RoomId) : (s.view r).state = s.gameState r := rfl

/-- A step leaves the game of a room, or does something to it for a reason. -/
theorem step_game (hk : s.Keyed) (h : s.step G i = some t) (r : RoomId) :
    t.view r = s.view r ∨ ∃ a sends, Acts G s t r a ∧ s.Cause i r a ∧ t.sendLog = s.sendLog ++ sends.map (r, ·) ∧
      GameStep G s.now r s.nextId t.nextId (s.view r) a sends (t.view r) := by
  refine (step_view hk h r).imp id fun ⟨a, hacts, hcause⟩ => ?_
  obtain ⟨sends, hstep, hlog⟩ := hacts.step
  exact ⟨a, sends, hacts, hcause, hlog, hstep.gameStep (hk.view r)⟩

/-! ### Processed commands, computed -/

/-- The command that an input brings to its handler and the player of its session, unless the command has been
answered before. -/
def processed (s : Server) : Input → Option (Command × PlayerId)
  | .frame c frame _ =>
    match s.connections.get c, frame.parseResult with
    | some rec, .ok command =>
      match rec.sessionToken.bind s.getSession with
      | some session =>
        if frame.byteLength ≤ MAX_FRAME_BYTES ∧ (s.touchConnection c).withinRateLimit c = true ∧
            rec.authenticated = true ∧ (s.cached command.commandId).isNone then
          some (command, session.playerId)
        else none
      | none => none
    | _, _ => none
  | _ => none

theorem Handles.processed {command : Command} {p : PlayerId} (h : s.Handles i command p)
    (hbody : isAuthExempt command.body = false) : s.processed i = some (command, p) := by
  obtain ⟨c, rec, token, hrouted, htoken, hp⟩ := h
  obtain ⟨frame, diskFails, rfl, hsize, hparse⟩ := hrouted.frame
  obtain ⟨session, hs, rfl⟩ := hp.session
  have hauth : rec.authenticated = true := hrouted.permitted.resolve_right (by simp [hbody])
  simp [Server.processed, hrouted.connection, hparse, htoken, hs, hsize, hrouted.withinRateLimit, hauth, hp.uncached]

theorem handles_of_processed {command : Command} {p : PlayerId} (h : s.processed i = some (command, p)) :
    s.Handles i command p := by
  unfold Server.processed at h
  split at h
  · rename_i c frame diskFails
    split at h
    · rename_i rec command' hrec hparse
      split at h
      · rename_i session hsession
        split at h
        · rename_i hchecks
          obtain ⟨hsize, hrate, hauth, hcached⟩ := hchecks
          obtain ⟨rfl, rfl⟩ := Prod.mk.inj (Option.some.inj h)
          obtain ⟨token, htoken, hs⟩ := Option.bind_eq_some_iff.mp hsession
          refine ⟨c, rec, token, ⟨⟨frame, diskFails, rfl, hsize, hparse⟩, hrate, hrec, Or.inl hauth, fun token' _ ht => ?_⟩,
            htoken, ⟨session, hs, rfl⟩, Option.isNone_iff_eq_none.mp hcached⟩
          obtain rfl := Option.some.inj (htoken.symm.trans ht)
          exact Option.isSome_of_eq_some hs
        · cases h
      · cases h
    · cases h
  · cases h

/-- What has caused a ready mark. -/
theorem Acts.readied {p : PlayerId} (hacts : Acts G s t r (.readied p)) (hcause : s.Cause i r (.readied p)) :
    ∃ id room, s.processed i = some (⟨id, .playerReady r⟩, p) ∧ s.getRoom r = some room ∧ (s.view r).room = some room := by
  obtain ⟨id, hhandles⟩ := hcause
  obtain ⟨room, hroom⟩ := Option.isSome_iff_exists.mp (hacts.onLive rfl)
  exact ⟨id, room, hhandles.processed rfl, hroom, view_room_of_getRoom hroom⟩

/-! ### A run with a game -/

/-- `n + 1` times the character `c`. -/
def tally (c : Char) (n : Nat) : String := String.ofList (List.replicate (n + 1) c)

/-- Ids that count the draws. -/
def tallies : IdSource where
  roomId := tally 'r'
  gameId := tally 'g'
  playerId := tally 'p'
  sessionToken := tally 't'
  connectionId := tally 'c'
  traceId := tally 'x'

theorem tally_injective (c : Char) : Function.Injective (tally c) := by
  intro m n h
  have hl := congrArg (List.length ∘ String.toList) h
  simpa [tally] using hl

theorem tallies_neverRepeats : tallies.NeverRepeats :=
  ⟨tally_injective _, tally_injective _, tally_injective _, tally_injective _, tally_injective _⟩

/-- Connection `n` sends a command. -/
def asks (n : Nat) (commandId : CommandId) (body : CommandBody) : Input :=
  .frame (tally 'c' n) ⟨100, .ok ⟨commandId, body⟩⟩ false

/-- The record of connection `n` when its commands are brought to their handlers. -/
def routes (s : Server) (n : Nat) : Option ConnectionRecord :=
  (s.connections.get (tally 'c' n)).filter fun rec =>
    rec.authenticated && rec.sessionToken.any (fun token => (s.getSession token).isSome) &&
      (s.touchConnection (tally 'c' n)).withinRateLimit (tally 'c' n)

theorem routed_of_routes {n : Nat} {rec : ConnectionRecord} (h : s.routes n = some rec) (commandId : CommandId)
    (body : CommandBody) : s.Routed (asks n commandId body) (tally 'c' n) rec ⟨commandId, body⟩ := by
  obtain ⟨hrec, hcheck⟩ := Option.filter_eq_some_iff.mp h
  simp only [Bool.and_eq_true, Option.any_eq_true] at hcheck
  obtain ⟨⟨hauth, token, htoken, hvalid⟩, hrate⟩ := hcheck
  refine ⟨⟨_, _, rfl, by simp [MAX_FRAME_BYTES], rfl⟩, hrate, hrec, Or.inl hauth, fun token' _ htoken' => ?_⟩
  obtain rfl := Option.some.inj (htoken.symm.trans htoken')
  exact hvalid

/-- The player for whom connection `n` acts, if a command `id` from it is processed. -/
def asker (s : Server) (n : Nat) (id : CommandId) : Option PlayerId :=
  (s.routes n).bind fun rec => rec.sessionToken.bind fun token => (s.getSession token).bind fun session =>
    if (s.cached id).isNone then some session.playerId else none

theorem handles_of_asker {n : Nat} {id : CommandId} {p : PlayerId} (h : s.asker n id = some p) (body : CommandBody) :
    s.Handles (asks n id body) ⟨id, body⟩ p := by
  obtain ⟨rec, hrec, h⟩ := Option.bind_eq_some_iff.mp h
  obtain ⟨token, htoken, h⟩ := Option.bind_eq_some_iff.mp h
  obtain ⟨session, hsession, h⟩ := Option.bind_eq_some_iff.mp h
  split at h
  · rename_i hcached
    exact ⟨_, rec, token, routed_of_routes hrec id body, htoken, ⟨session, hsession, Option.some.inj h⟩,
      Option.isNone_iff_eq_none.mp hcached⟩
  · cases h

/-- Players 1 and 3 start game 5 in room 4. -/
def opening : List Input :=
  [.connect, asks 0 "auth1" (.auth none), .connect, asks 2 "auth3" (.auth none), .createRoom,
    asks 0 "join1" (.joinRoom (tally 'r' 4) none), asks 2 "join3" (.joinRoom (tally 'r' 4) none),
    asks 0 "ready1" (.playerReady (tally 'r' 4)), asks 2 "ready3" (.playerReady (tally 'r' 4))]

/-- Connection `n` moves in the game of the opening. -/
def plays (n : Nat) (commandId : CommandId) (row col : Nat) : Input :=
  asks n commandId (.makeMove (tally 'r' 4) (tally 'g' 5) ⟨.ofNat row, .ofNat col⟩)

/-- Player 1 wins the game of the opening. -/
def won : List Input :=
  opening ++ [plays 0 "move1" 0 0, plays 2 "move2" 1 0, plays 0 "move3" 0 1, plays 2 "move4" 1 1, plays 0 "move5" 0 2]

/-- The server as it starts up without a history. -/
def fresh : Server := start 0 "1.0.0" .empty

end Server
end TicTacToe

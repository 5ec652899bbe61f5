import TicTacToe.Theorems.HandlerActs

/-! # Game commands drive the room machine

Ready marks, moves and rematches leave all sessions as they are. -/

namespace TicTacToe
namespace Server
variable {s t u : Server} {r r' : RoomId} {G : IdSource} {c : ConnectionId} {commandId : CommandId}
  {token : SessionToken} {p : PlayerId}

/-! ### Ready -/

/-- The first part of `becomeReady`: the mark and one or two sequence numbers. -/
theorem view_marked (s : Server) (r r' : RoomId) (room : RoomRecord) :
    ((((s.ensureGameSession r).putRoom r room).allocateSequence r).view r' =
      if r = r' then ⟨some room, some (((s.view r).gameOrNew r).bump 1), (s.view r).records⟩ else s.view r') ∧
    (((((s.ensureGameSession r).putRoom r room).allocateSequence r).allocateSequence r).view r' =
      if r = r' then ⟨some room, some (((s.view r).gameOrNew r).bump 2), (s.view r).records⟩ else s.view r') := by
  simp only [view_allocateSequence, view_putRoom, view_ensureGameSession]
  by_cases hr : r = r'
  · subst hr
    simp only [↓reduceIte, Option.map_some, true_and]
    rfl
  · simp only [hr, ↓reduceIte, and_self]

/-- Both players are ready in `t`, which has marked the second one and drawn `k` sequence numbers. -/
theorem startReadyGame_acts {room : RoomRecord} {symbol : PlayerSymbol} {k : Nat} (hlive : s.getRoom r = some room)
    (hcount : 2 ≤ playerCount room) (hsymbol : getSymbolForPlayer room p = some symbol)
    (hready : symbol ∉ room.readySymbols) (hboth : (room.markReady symbol).bothReady = true) (hnow : t.now = s.now)
    (hid : t.nextId = s.nextId) (hs : t.sessions = s.sessions) (hlog : t.sendLog = s.sendLog) (hl : SameLive s t)
    (hview : ∀ r', t.view r' = if r = r' then
      ⟨some (room.markReady symbol), some (((s.view r).gameOrNew r).bump k), (s.view r).records⟩ else s.view r')
    (htroom : t.getRoom r = some (room.markReady symbol)) :
    Acts G s (t.startReadyGame G r (room.markReady symbol)) r (.readied p) := by
  have hg : t.gameSessions.get r = some (((s.view r).gameOrNew r).bump k) :=
    congrArg RoomView.game ((hview r).trans (if_pos rfl))
  have hstate : (((s.view r).gameOrNew r).bump k).gameState = (s.view r).state := by
    unfold RoomView.gameOrNew RoomView.state GameSession.bump
    cases (s.view r).game <;> rfl
  have hstart : t.startReadyGame G r (room.markReady symbol) =
      ((t.putRoom r (room.markReady symbol).resetReady).drawIds 1).applyEmitted r
        ((((s.view r).gameOrNew r).bump k).startGame s.now (G.gameId s.nextId) (room.markReady symbol).resetReady
          (readyFirstTurn (s.view r).state)) := by
    unfold startReadyGame
    simp only [hg, hnow, hid, hstate]
  have hnext : (t.startReadyGame G r (room.markReady symbol)).nextId = s.nextId + 1 := by
    simp [hstart, applyEmitted, putGame, drawIds, putRoom, hid]
  have hroomlive : (room.markReady symbol).resetReady.isExpired t.now = false :=
    (RoomStore.getRoom_eq_some.mp htroom).2
  refine .of_view ?_ (by omega) ?_ (.startedReady (k := k) (view_room_of_getRoom hlive) hcount hsymbol hready hboth
    (Nat.le_refl _) (by omega)) (fun r' => ?_) ?_ ?_ id (fun _ => Option.isSome_of_eq_some hlive)
  · simp [hstart, applyEmitted, putGame, drawIds, putRoom, hnow]
  · simp [hstart, applyEmitted, putGame, drawIds, putRoom, hs]
  · rw [hstart, view_applyEmitted, (drawIds_quiet _ _).view, view_putRoom, hview]
    split <;> rfl
  · simp [hstart, applyEmitted, putGame, drawIds, putRoom, hlog]
  · rw [hstart]
    exact (hl.trans (putRoom_live htroom hroomlive)).trans (applyEmitted_live _ _ _)

theorem becomeReady_acts {room : RoomRecord} {symbol : PlayerSymbol} (hc : s.cached commandId = none)
    (hlive : s.getRoom r = some room) (hcount : 2 ≤ playerCount room)
    (hsymbol : getSymbolForPlayer room p = some symbol) (hready : symbol ∉ room.readySymbols) :
    Acts G s ((s.ensureGameSession r).becomeReady G c commandId r symbol (room.markReady symbol)).server r
      (.readied p) := by
  have hmark := fun r' => view_marked s r r' (room.markReady symbol)
  have hput : ((s.ensureGameSession r).putRoom r (room.markReady symbol)).getRoom r = some (room.markReady symbol) := by
    have hx : (room.markReady symbol).isExpired (s.ensureGameSession r).now = false := by
      rw [ensureGameSession_now]
      exact (RoomStore.getRoom_eq_some.mp hlive).2
    rw [getRoom_putRoom, if_pos rfl, hx]
    rfl
  have hl : SameLive s ((s.ensureGameSession r).putRoom r (room.markReady symbol)) := by
    intro r'
    by_cases hr : r = r'
    · subst hr
      rw [hput, hlive]
      rfl
    · rw [getRoom_putRoom, if_neg hr, getRoom_ensureGameSession]
  -- The response is recorded last, in either branch.
  have hfinish : ∀ {t : Server} {k : Nat} {event : RoomEvent} {others : List Delivery}, t.now = s.now →
      t.nextId = s.nextId → t.sessions = s.sessions → t.sendLog = s.sendLog → SameLive s t →
      t.getRoom r = some (room.markReady symbol) →
      (∀ r', t.view r' = if r = r' then
        ⟨some (room.markReady symbol), some (((s.view r).gameOrNew r).bump k), (s.view r).records⟩ else s.view r') →
      Acts G s ((if (room.markReady symbol).bothReady then t.startReadyGame G r (room.markReady symbol) else t).respond
        c commandId (.room event) others).server r (.readied p) := by
    intro t k event others hnow hid hs hlog hl hroom hview
    refine .respond ?_ hc c _ _
    split
    · rename_i hboth
      exact startReadyGame_acts hlive hcount hsymbol hready hboth hnow hid hs hlog hl hview hroom
    · rename_i hboth
      exact .of_view hnow (Nat.le_of_eq hid.symm) hs
        (.readied (view_room_of_getRoom hlive) hsymbol hready (Bool.eq_false_iff.mpr hboth)) hview (by simp [hlog]) hl id
        (fun _ => Option.isSome_of_eq_some hlive)
  unfold becomeReady
  dsimp only
  split
  · exact hfinish (by simp [putRoom, allocateSequence]) (by simp [putRoom, allocateSequence])
      (by simp [putRoom, allocateSequence]) (by simp [putRoom, allocateSequence]) hl hput (fun r' => (hmark r').1)
  · exact hfinish (by simp [putRoom, allocateSequence]) (by simp [putRoom, allocateSequence])
      (by simp [putRoom, allocateSequence]) (by simp [putRoom, allocateSequence]) hl hput (fun r' => (hmark r').2)

theorem startReadyGame_now {room : RoomRecord} : (s.startReadyGame G r room).now = s.now := by
  unfold startReadyGame
  split
  · rfl
  · simp [applyEmitted, putGame, drawIds, putRoom]

theorem becomeReady_records {room : RoomRecord} {symbol : PlayerSymbol} (hnow : t.now = s.now) :
    Records s commandId (t.becomeReady G c commandId r symbol room) := by
  have hfinish : ∀ {u : Server} {readyPlayers seq} {others : List Delivery}, u.now = s.now → Records s commandId
      ((if room.bothReady then u.startReadyGame G r room else u).respond c commandId
        (.room (makePlayerReadyAck r readyPlayers seq commandId)) others) := by
    intro u readyPlayers seq others hu
    refine .respond ?_ fun _ => .of_plain rfl
    split
    · exact startReadyGame_now.trans hu
    · exact hu
  unfold becomeReady
  dsimp only
  split
  · exact hfinish hnow
  · exact hfinish hnow

theorem handlePlayerReady_handling (s : Server) (c : ConnectionId) (commandId : CommandId) (r : RoomId)
    (token : SessionToken) :
    Handling s c commandId token (resend c) (fun p result =>
      Acts G s result.server r (.readied p) ∧ Records s commandId result)
      (s.handlePlayerReady G c commandId r token) := by
  unfold handlePlayerReady
  refine roomCommand_handling fun t session room hq hw _ hlive hct => ?_
  split
  · exact Or.inl (.refuse hq hw _)
  rename_i hcount
  cases hsymbol : getSymbolForPlayer room session.playerId with
  | none => exact Or.inl (.refuse hq hw _)
  | some symbol =>
    right
    dsimp only
    split
    · rename_i hready
      have hnow : (t.ensureGameSession r).now = s.now := by rw [ensureGameSession_now, hq.now]
      refine ⟨hq.still.trans_acts (.respond ?_ hct c _ _), .respond hnow fun _ => .of_plain rfl⟩
      refine .of_view (by simp) (by simp) (by simp) (.readiedAgain (view_room_of_getRoom hlive) hsymbol hready)
        (fun r' => ?_) (by simp) (fun r' => congrArg Option.isSome (getRoom_ensureGameSession t r r')) id
        (fun _ => Option.isSome_of_eq_some hlive)
      rw [view_ensureGameSession]
      split
      · rename_i hr
        subst hr
        rfl
      · rfl
    · rename_i hready
      have hacts := becomeReady_acts (G := G) (c := c) hct hlive (Nat.not_lt.mp hcount) hsymbol hready
      refine ⟨hq.still.trans_acts hacts, becomeReady_records ?_⟩
      rw [ensureGameSession_now, hq.now]

/-! ### Moves -/

theorem handleMakeMove_handling (hk : s.Keyed) (c : ConnectionId) (commandId : CommandId) (r : RoomId)
    (gameId : GameId) (position : RawPosition) (token : SessionToken) (diskFails : Bool) :
    Handling s c commandId token (resend c) (fun p result =>
      (result.threw = false ∧ Acts G s result.server r (.moved p commandId gameId position) ∨
        diskFails = true ∧ Acts G s result.server r (.moveThrew p commandId gameId position)) ∧
        Records s commandId result ∧ result.deliveries = [])
      (s.handleMakeMove c commandId r gameId position token diskFails) := by
  unfold handleMakeMove
  refine roomCommand_handling fun t session room hq hw _ hlive hct => ?_
  have hroom : (t.view r).room = some room := view_room_of_getRoom hlive
  dsimp only
  cases hg : t.gameSessions.get r with
  | none => exact Or.inl (.refuse hq hw _)
  | some gs =>
    right
    have hid : gs.roomId = r := hk r gs (hq.gameSessions ▸ hg)
    have hgame : (t.view r).game = some gs := hg
    dsimp only
    generalize hout : gs.handleMove t.now t.historyRepository diskFails session.playerId gameId position commandId = out
    have hview := view_applyEffect_self (r := r) t (e := out.toGameEffect)
      fun r' hr => hout ▸ GameSession.handleMove_load_other (hid ▸ Ne.symm hr)
    have hnow : (t.applyEffect r out.toGameEffect).now = t.now := by simp [applyEffect, applyEmitted, putGame]
    have hnext : (t.applyEffect r out.toGameEffect).nextId = t.nextId := by simp [applyEffect, applyEmitted, putGame]
    have hsess : (t.applyEffect r out.toGameEffect).sessions = t.sessions := by
      simp [applyEffect, applyEmitted, putGame]
    have hlog : (t.applyEffect r out.toGameEffect).sendLog = t.sendLog ++ out.sends.map (r, ·) := by
      simp [applyEffect, applyEmitted, putGame]
    split
    · rename_i hthrew
      obtain rfl : diskFails = true := by
        cases diskFails
        · exact absurd hthrew (by simp [← hout, GameSession.handleMove_threw_false])
        · rfl
      refine ⟨Or.inr ⟨rfl, hq.still.trans_acts ?_⟩, .of_threw fun id => ?_, rfl⟩
      swap
      · exact (cached_of_sessions hnow hsess id).trans (hq.cached id)
      subst hout
      exact .of_view hnow (Nat.le_of_eq hnext.symm) hsess (.moveThrew hroom hgame rfl hthrew) hview hlog
        (applyEffect_live _ _ _) id (fun _ => Option.isSome_of_eq_some hlive)
    · rename_i hthrew
      have hthrew : out.threw = false := Bool.eq_false_iff.mpr hthrew
      have hacts : Acts G t (t.applyEffect r out.toGameEffect) r (.moved session.playerId commandId gameId position) := by
        subst hout
        exact .of_view hnow (Nat.le_of_eq hnext.symm) hsess (.moved hroom hgame rfl hthrew) hview hlog
          (applyEffect_live _ _ _) id (fun _ => Option.isSome_of_eq_some hlive)
      have htold : ∃ e rest, out.sends = ⟨.player, session.playerId, e⟩ :: rest ∧
          (out.response = none ∧ (WireEvent.event e).isError = true ∨
            ∃ event, e = .room event ∧ event.payload.roomState = none ∧
              out.response = some (.room event)) := by
        subst hout
        exact GameSession.handleMove_told hthrew
      obtain ⟨e, rest, hsends, hresponse⟩ := htold
      have hlog' : (t.applyEffect r out.toGameEffect).sendLog =
          s.sendLog ++ (⟨.player, session.playerId, e⟩ :: rest).map (r, ·) := by rw [hlog, hsends, hq.sendLog]
      rcases hresponse with ⟨hnone, herror⟩ | ⟨event, rfl, hplain, hsome⟩
      · simp only [hnone]
        exact ⟨Or.inl ⟨rfl, hq.still.trans_acts hacts⟩,
          .erred hlog' herror fun id => (cached_of_sessions hnow hsess id).trans (hq.cached id), rfl⟩
      · simp only [hsome]
        have hrecorded := hacts.record (e := .event (.room event)) hct (by simp [WireEvent.acknowledged])
        exact ⟨Or.inl ⟨rfl, hq.still.trans_acts hrecorded⟩,
          .told (hnow.trans hq.now) hlog' (.of_plain hplain), rfl⟩

/-! ### Rematch -/

/-- A handler that has changed the game session of `r` has marked its command as processed. -/
def Marks (s : Server) (r : RoomId) (commandId : CommandId) (result : HandlerResult) : Prop :=
  result.server.gameSessions.get r ≠ s.gameSessions.get r →
    result.server.cached commandId = some ⟨commandId, .processed, s.now⟩

/-- The three rematch handlers run a method of the room's session and may draw ids. -/
theorem rematchCommand_handling {drawn : Nat} {refusal : Option GameSession → Option ErrorCode}
    {method : Server → GameSession → RoomRecord → PlayerId → GameSession.RematchOutcome} {a : PlayerId → RoomAction}
    (hrefusal : refusal none ≠ none)
    (hmethod : ∀ t : Server, ∀ gs room p, s.now = t.now → (t.view r).room = some room → (t.view r).game = some gs →
      RoomStep G t.now r t.nextId (t.nextId + drawn) (t.view r) (a p) (method t gs room p).sends
        ⟨some (method t gs room p).room, some (method t gs room p).session, (t.view r).records⟩)
    (hroom : ∀ t gs room p, (method t gs room p).room.lastActivityAt = room.lastActivityAt)
    (htargets : ∀ t gs room p, ∀ call ∈ (method t gs room p).sends, call.target = .broadcast)
    (htaken : ∀ t gs room p, (method t gs room p).taken = false → (method t gs room p).session = gs)
    (ha : ∀ (t u : Server) p, (∀ token, u.session token = t.session token) → SessionStep G t u r (a p)) :
    Handling s c commandId token (fun _ => []) (fun p result =>
      Acts G s result.server r (a p) ∧ Records s commandId result ∧ Marks s r commandId result)
      (s.rematchCommand c commandId r token drawn refusal method) := by
  unfold rematchCommand
  refine roomCommand_handling fun t session room hq hw _ hlive hct => ?_
  dsimp only
  split
  · exact Or.inl (.refuse hq hw _)
  · rename_i hg hnone
    rw [hg] at hnone
    exact absurd hnone hrefusal
  · rename_i gs hg _
    right
    generalize hout : method t gs room session.playerId = outcome
    have hstep := hmethod t gs room session.playerId hq.now.symm (view_room_of_getRoom hlive) hg
    have hx : outcome.room.isExpired t.now = false := by
      have hl := (RoomStore.getRoom_eq_some.mp hlive).2
      rwa [RoomRecord.isExpired, ← hout, hroom]
    generalize hu : ((t.putRoom r outcome.room).drawIds drawn).applyEmitted r outcome.toEmitted = u
    have hlog : u.sendLog = t.sendLog ++ outcome.sends.map (r, ·) := by
      simp [← hu, applyEmitted, putGame, drawIds, putRoom]
    have hnext : u.nextId = t.nextId + drawn := by simp [← hu, applyEmitted, putGame, drawIds, putRoom]
    have hacts : Acts G t u r (a session.playerId) := by
      rw [← hnext, hout] at hstep
      refine .of_view (by simp [← hu, applyEmitted, putGame, drawIds, putRoom]) (by omega)
        (by simp [← hu, applyEmitted, putGame, drawIds, putRoom]) hstep (fun r' => ?_) hlog ?_ (ha _ _ _)
        (fun _ => Option.isSome_of_eq_some hlive)
      · rw [← hu, view_applyEmitted, (drawIds_quiet _ _).view, view_putRoom]
        split
        · rename_i hr
          subst hr
          rfl
        · rfl
      · rw [← hu]
        exact (putRoom_live hlive hx).trans (applyEmitted_live _ _ _)
    have hcalls : ∀ call ∈ outcome.sends, call.target = .broadcast := hout ▸ htargets t gs room session.playerId
    have hlog' : u.sendLog = s.sendLog ++ outcome.sends.map (r, ·) := by rw [hlog, hq.sendLog]
    split
    · have hrecorded := hacts.record (e := .processed) hct (by simp [WireEvent.acknowledged])
      have hlog'' : (u.recordCommand commandId .processed).sendLog = s.sendLog ++ outcome.sends.map (r, ·) := hlog'
      have hmark := cached_recordCommand u commandId .processed
      refine ⟨hq.still.trans_acts hrecorded, .broadcasts hlog'' hcalls fun entry hentry => ?_, fun _ => ?_⟩
      · obtain rfl := Option.some.inj (hmark.symm.trans hentry)
        exact Or.inr rfl
      · exact hmark.trans (by rw [hacts.now.trans hq.now])
    · rename_i hnot
      have hsame : u.sessions = t.sessions := by simp [← hu, applyEmitted, putGame, drawIds, putRoom]
      have hcached := (cached_of_sessions hacts.now hsame commandId).trans (hq.cached commandId)
      refine ⟨hq.still.trans_acts hacts, .broadcasts hlog' hcalls fun entry hentry => Or.inl (hcached.symm.trans hentry),
        fun hchanged => absurd ?_ hchanged⟩
      have hsame : outcome.session = gs := hout ▸ htaken t gs room session.playerId (hout ▸ Bool.eq_false_iff.mpr hnot)
      have hgame : (u.view r).game = some outcome.session := by rw [← hu, view_applyEmitted, if_pos rfl]
      exact hgame.trans (hsame ▸ hg.symm.trans (congrArg (fun m => m.get r) hq.gameSessions))

theorem handleRequestRematch_handling (s : Server) (c : ConnectionId) (commandId : CommandId) (r : RoomId)
    (gameId : GameId) (token : SessionToken) :
    Handling s c commandId token (fun _ => []) (fun p result =>
      Acts G s result.server r (.rematchRequested p gameId) ∧ Records s commandId result ∧ Marks s r commandId result)
      (s.handleRequestRematch c commandId r gameId token) := by
  refine rematchCommand_handling (a := fun p => .rematchRequested p gameId) (by simp)
    (fun _ gs room p _ hroom hgame => .rematchRequested hroom hgame) (fun _ gs room p => ?_)
    (fun _ _ _ _ => GameSession.handleRematchRequest_broadcasts _ _ _ _ _)
    (fun _ _ _ _ => GameSession.handleRematchRequest_notTaken) fun _ _ _ h => h
  rcases GameSession.handleRematchRequest_cases gs _ room p gameId with h | ⟨symbol, -, -, -, h⟩
  · rw [h]
    rfl
  · rw [h]

theorem handleAcceptRematch_handling (s : Server) (c : ConnectionId) (commandId : CommandId) (r : RoomId)
    (gameId : GameId) (token : SessionToken) :
    Handling s c commandId token (fun _ => []) (fun p result =>
      Acts G s result.server r (.rematchAccepted p gameId) ∧ Records s commandId result ∧ Marks s r commandId result)
      (s.handleAcceptRematch G c commandId r gameId token) := by
  refine rematchCommand_handling (a := fun p => .rematchAccepted p gameId) (by simp)
    (fun _ gs room p _ hroom hgame => .rematchAccepted hroom hgame (Nat.le_succ _) (Nat.lt_succ_self _))
    (fun _ gs room p => ?_) (fun _ _ _ _ => GameSession.handleRematchAccept_broadcasts _ _ _ _ _ _)
    (fun _ _ _ _ => GameSession.handleRematchAccept_notTaken) fun _ _ _ h => h
  rcases GameSession.handleRematchAccept_cases gs _ _ room p gameId with h | ⟨_, _, _, -, -, -, -, -, ⟨-, h⟩ | ⟨-, h⟩⟩ <;>
    rw [h] <;> rfl

theorem handleDeclineRematch_handling (s : Server) (c : ConnectionId) (commandId : CommandId) (r : RoomId)
    (gameId : GameId) (token : SessionToken) :
    Handling s c commandId token (fun _ => []) (fun p result =>
      Acts G s result.server r (.rematchDeclined p gameId) ∧ Records s commandId result ∧ Marks s r commandId result)
      (s.handleDeclineRematch c commandId r gameId token) := by
  refine rematchCommand_handling (a := fun p => .rematchDeclined p gameId) (by simp)
    (fun _ gs room p _ hroom hgame => .rematchDeclined hroom hgame) (fun _ gs room p => ?_)
    (fun _ _ _ _ => GameSession.handleRematchDecline_broadcasts _ _ _ _)
    (fun _ _ _ _ => GameSession.handleRematchDecline_notTaken) fun _ _ _ h => h
  rcases GameSession.handleRematchDecline_cases gs room p gameId with h | ⟨symbol, -, -, h⟩
  · rw [h]
    rfl
  · rw [h]

end Server
end TicTacToe

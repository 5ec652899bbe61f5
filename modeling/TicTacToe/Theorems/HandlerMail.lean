import TicTacToe.Theorems.Processing
import TicTacToe.Theorems.RoomMail

/-! # The mail of each handler

One lemma for each command about a room: it is refused, or its handler mails. -/

namespace TicTacToe
namespace Server
variable {s t u : Server} {r : RoomId} {G : IdSource} {c : ConnectionId} {id : CommandId} {token : SessionToken}
  {p : PlayerId} {room : RoomRecord} {found : Option RoomRecord} {calls : List SendCall} {free : Bool} {gs : GameSession}
  {P : PlayerId → Prop}

/-- A response and events for others, of which none is a start, after such calls. -/
theorem reply_starts {event : RoomEvent} {others : List Delivery}
    (hcalls : ∀ e ∈ calls.filterMap SendCall.roomEvent, e.payload.isStart = false)
    (hevent : event.payload.isSync = false ∧ event.payload.isStart = false)
    (hothers : ∀ e ∈ numberedEvents [] others, e.payload.isStart = false) :
    ∀ e ∈ numberedEvents calls (.connection c (.event (.room event)) :: others), e.payload.isStart = false := by
  intro e he
  rw [numberedEvents_reply hevent.1] at he
  rcases List.mem_append.mp he with he | he
  · exact hcalls e he
  · rcases List.mem_cons.mp he with rfl | he
    · exact hevent.2
    · exact hothers e he

/-- A numbered response, after numbered calls and before numbered events for others. -/
theorem Numbering.reply {event : RoomEvent} {others : List Delivery}
    (hcalls : ∀ e ∈ calls.filterMap SendCall.roomEvent, e.payload.isStart = false)
    (hevent : event.payload.isSync = false ∧ event.payload.isStart = false)
    (hothers : ∀ e ∈ numberedEvents [] others, e.payload.isStart = false)
    (h : Draws r s t (calls.filterMap SendCall.roomEvent ++ event :: numberedEvents [] others)) :
    Numbering s r P t calls (.connection c (.event (.room event)) :: others) := by
  refine .counted ?_ (reply_starts hcalls hevent hothers)
  rw [numberedEvents_reply hevent.1]
  exact h

theorem allocateSequence_none (h : s.gameSessions.get r = none) : (s.allocateSequence r).gameSessions.get r = none := by
  rw [allocateSequence_get, h, Option.map_none]

/-- A method of the session of `r` that starts no game, when the send function looks up `room`. -/
structure Speaks (s : Server) (r : RoomId) (p : PlayerId) (room : RoomRecord) (e : Emitted) : Prop where
  game : ∃ gs, s.gameSessions.get r = some gs ∧ gs.Draws e
  sent : SendsFor r (fun q => q = p ∨ room.Holds q) e.sends
  only : SendsOnly (fun x => !x.isStart) e.sends

namespace Speaks
variable {e : Emitted}

/-- From the lemmas about the method. -/
theorem of_method (hk : s.Keyed) (hb : s.Backed) (hg : s.gameSessions.get r = some gs) (hhands : gs.Hands e)
    (hsent : SendsFor gs.roomId (fun q => q = p ∨ room.Holds q) e.sends)
    (honly : SendsOnly (fun x => !x.isStart) e.sends) : s.Speaks r p room e :=
  ⟨⟨gs, hg, hhands.draws ((hb r).some gs hg) honly⟩, hk r gs hg ▸ hsent, honly⟩

theorem draws (h : s.Speaks r p room e) : Draws r s (s.applyEmitted r e) (e.sends.filterMap SendCall.roomEvent) := by
  obtain ⟨gs, hg, hdraws⟩ := h.game
  exact applyEmitted_draws hg hdraws

theorem applyEffect_draws {e : GameEffect} (h : s.Speaks r p room e.toEmitted) :
    Draws r s (s.applyEffect r e) (e.sends.filterMap SendCall.roomEvent) := h.draws.then_none (.of_same rfl)

end Speaks

/-- A handler that leaves everything to the session's calls. -/
theorem Mail.calls_only (hposts : Posts r found s t calls) (hfinds : s.Finds r found)
    (hsent : SendsFor r (fun q => q = p ∨ s.InRoom r q) calls) (honly : SendsOnly (fun x => !x.isStart) calls)
    (hdraws : Draws r s t (calls.filterMap SendCall.roomEvent)) (hseated : free = true ∨ s.InRoom r p ∨ calls = []) :
    Mail s r c p free found t calls [] where
  posts := hposts
  finds := hfinds
  sent := hsent
  delivered d hd := by simp at hd
  numbering := by
    refine .counted ?_ ?_
    · rw [numberedEvents_nil]
      exact hdraws
    · rw [numberedEvents_nil]
      exact starts_of_sendsOnly honly
  seated := hseated.imp_right fun h => h.imp_right fun h => ⟨h, rfl⟩

theorem sent_of_room {sends : List SendCall} (hroom : s.getRoom r = some room)
    (h : SendsFor r (fun q => q = p ∨ room.Holds q) sends) : SendsFor r (fun q => q = p ∨ s.InRoom r q) sends :=
  h.mono fun _ hq => hq.imp_right fun hq => ⟨room, hroom, hq⟩

/-! ### Joining -/

theorem rejoinRoom_mail {slot : PlayerSlot} (hroom : s.getRoom r = some room)
    (hslot : getSlotByPlayerId room p = some slot) :
    Mail s r c p free none (s.rejoinRoom c id r p slot).server [] (s.rejoinRoom c id r p slot).deliveries := by
  refine .respond (allocateSequence_posts s) finds_none .nil rfl (by simp) ?_
    (Or.inr ⟨room, hroom, RoomRecord.holds_of_getSlot hslot⟩)
  by_cases hg : s.gameSessions.get r = none
  · exact .unnumbered hg (allocateSequence_none hg) rfl (reply_starts (by simp) ⟨rfl, rfl⟩ (by simp))
  · exact .reply (by simp) ⟨rfl, rfl⟩ (by simp) (allocateSequence_draws hg rfl)

theorem enterRoom_mail {room' : RoomRecord} {name name' : Option PlayerName} {symbol : PlayerSymbol}
    (hroom : s.getRoom r = some room) (hadd : room.addPlayer s.now p name' = some (symbol, room')) :
    Mail s r c p true none (s.enterRoom c id r token p name symbol room').server []
      (s.enterRoom c id r token p name symbol room').deliveries := by
  generalize hx : (((s.putRoom r (room'.touch s.now)).setSessionRoom token (some r)).ensureGameSession r) = x
  have hposts : Posts r none s x [] := by
    have hset : Posts r none s ((s.putRoom r (room'.touch s.now)).setSessionRoom token (some r)) [] :=
      (putRoom_posts s _).then_silent (store_posts rfl rfl rfl rfl rfl rfl)
    exact hx ▸ hset.then_silent (ensureGameSession_posts _)
  have hgame : x.gameSessions.get r ≠ none := hx ▸ ensureGameSession_game _ r
  have hensured : Draws r s x [] := by
    have hset : Draws r s ((s.putRoom r (room'.touch s.now)).setSessionRoom token (some r)) [] := .of_same rfl
    exact hx ▸ hset.then_none (ensureGameSession_draws _ r)
  have hone : Posts r none s (x.allocateSequence r) [] := hposts.then_silent (allocateSequence_posts x)
  unfold enterRoom
  simp only [hx]
  split
  · refine .respond hone finds_none .nil rfl (by simp) ?_ (Or.inl rfl)
    exact .reply (by simp) ⟨rfl, rfl⟩ (by simp) (hensured.trans (allocateSequence_draws hgame rfl))
  · rename_i otherSlot hother
    have hheld : room.slot (opponent symbol) = some otherSlot := by
      have hslots := (RoomRecord.addPlayer_slot hadd).2 (opponent symbol)
      rw [if_neg (by cases symbol <;> simp [opponent])] at hslots
      exact hslots.symm.trans hother
    refine .respond (hone.then_silent (allocateSequence_posts _)) finds_none .nil rfl (fun d hd => ?_) ?_ (Or.inl rfl)
    · obtain rfl := List.mem_singleton.mp hd
      exact ⟨⟨room, hroom, RoomRecord.holds_of_slot hheld⟩, fun e he => Option.some.inj he ▸ rfl⟩
    · refine .reply (by simp) ⟨rfl, rfl⟩ (fun e he => ?_) ?_
      · rw [numberedEvents_told rfl] at he
        obtain rfl := List.mem_singleton.mp he
        rfl
      · exact hensured.trans (.cons (allocateSequence_draws hgame rfl)
          (allocateSequence_draws (allocateSequence_game hgame) rfl))

theorem handleJoinRoom_mailing (hc : s.cached id = none) (hk : s.Keyed) (hb : s.Backed) (c : ConnectionId) (r : RoomId)
    (name : Option PlayerName) (token : SessionToken) :
    Mailing s r c token true (s.handleJoinRoom c id r name token) := by
  refine sessionCommand_mailing hc hk hb fun u session _ hk hb hs => ?_
  split
  · exact .refuse (.refl u) rfl _
  refine withRoom_mailing fun room hroom => ?_
  split
  · rename_i slot hslot
    exact .mails ⟨session, hs, rfl⟩ (rejoinRoom_mail hroom hslot)
  · split
    · exact .refuse (.refl u) rfl _
    · split
      · exact .refuse (.refl u) rfl _
      · rename_i symbol room' hadd
        exact .mails ⟨session, hs, rfl⟩ (enterRoom_mail hroom hadd)

/-! ### Leaving -/

/-- The end of a leave, after the session has been silent or has announced the end of its game. -/
theorem vacateRoom_mail {slot : PlayerSlot} (hroom : s.getRoom r = some room)
    (hslot : getSlotByPlayerId room p = some slot) (hposts : Posts r found s u calls)
    (hfinds : s.Finds r found) (hsent : SendsFor r (fun q => q = p ∨ s.InRoom r q) calls)
    (hdrawn : s.gameSessions.get r = none ∧ u.gameSessions.get r = none ∧ calls = [] ∨
      u.gameSessions.get r ≠ none ∧ Draws r s u (calls.filterMap SendCall.roomEvent) ∧
        SendsOnly (fun x => !x.isStart) calls) :
    Mail s r c p free found (u.vacateRoom c id r token p slot room).server calls
      (u.vacateRoom c id r token p slot room).deliveries := by
  have hheld : s.InRoom r p := ⟨room, hroom, RoomRecord.holds_of_getSlot hslot⟩
  have hvacated : Posts r found ((u.allocateSequence r).allocateSequence r)
      ((((u.allocateSequence r).allocateSequence r).putRoom r (room.removePlayer u.now p)).setSessionRoom token none) [] :=
    (putRoom_posts _ _).then_silent (store_posts rfl rfl rfl rfl rfl rfl)
  have hall := ((hposts.then_silent (allocateSequence_posts u)).then_silent (allocateSequence_posts _)).then_silent hvacated
  refine .respond hall hfinds hsent rfl (fun d hd => ?_) ?_ (Or.inr hheld)
  · obtain ⟨opponentSlot, hopponent, rfl⟩ := List.mem_map.mp hd
    have hother : room.Holds opponentSlot.playerId := RoomRecord.holds_opponent (Option.mem_toList.mp hopponent)
    exact ⟨⟨room, hroom, hother⟩, fun e he => Option.some.inj he ▸ rfl⟩
  -- Whether or not there is an opponent to tell, no game starts.
  have hothers : ∀ (told : Option PlayerSlot) (reason : PlayerLeftReason) (seq : Nat),
      ∀ e ∈ numberedEvents [] (told.toList.map fun opponentSlot => Delivery.broadcast opponentSlot.playerId
        (.event (.room (makePlayerLeft r p slot.symbol reason seq)))), e.payload.isStart = false := by
    intro told reason seq e he
    cases told with
    | none => cases he
    | some opponentSlot =>
      obtain rfl := List.mem_singleton.mp he
      rfl
  rcases hdrawn with ⟨hs, hu, hcalls⟩ | ⟨hgame, hdraws, honly⟩
  · exact .unnumbered hs (allocateSequence_none (allocateSequence_none hu)) hcalls
      (reply_starts (by simp) ⟨rfl, rfl⟩ (hothers _ _ _))
  -- The second number is drawn for PLAYER_LEFT.
  refine Numbering.of_games (t := (u.allocateSequence r).allocateSequence r) ?_ rfl
  refine .reply (starts_of_sendsOnly honly) ⟨rfl, rfl⟩ (hothers _ _ _) (hdraws.trans ?_)
  cases getOpponentSlot room p with
  | none => exact (allocateSequence_draws hgame rfl).then_none (allocateSequence_skips _ r)
  | some opponentSlot =>
    exact .cons (allocateSequence_draws hgame rfl) (allocateSequence_draws (allocateSequence_game hgame) rfl)

theorem handleLeaveRoom_mailing (hc : s.cached id = none) (hk : s.Keyed) (hb : s.Backed) (c : ConnectionId) (r : RoomId)
    (token : SessionToken) (diskFails : Bool) :
    Mailing s r c token false (s.handleLeaveRoom c id r token diskFails) := by
  refine roomCommand_mailing hc hk hb fun u session room hk hb hs hroom => ?_
  split
  · exact .refuse (.refl u) rfl _
  rename_i slot hslot
  split
  · rename_i hg
    exact .mails ⟨session, hs, rfl⟩ (vacateRoom_mail hroom hslot (.refl u) finds_none .nil (Or.inl ⟨hg, hg, rfl⟩))
  · rename_i gs hg
    generalize hended : gs.handleForfeit u.now u.historyRepository diskFails session.playerId = ended
    have hspeaks : u.Speaks r session.playerId room ended.toEmitted := by
      subst hended
      exact .of_method hk hb hg (GameSession.handleEnd_hands _ _ _ _ _ _ _) (GameSession.handleEnd_for _ _ _ _ _ _ _)
        (GameSession.handleEnd_sendsOnly _ _ fun _ _ _ _ _ => rfl)
    have hposts : Posts r (some room) u (u.applyEffect r ended) ended.sends := applyEffect_posts hroom ended
    have hsent := sent_of_room hroom hspeaks.sent
    dsimp only
    split
    · refine .mails ⟨session, hs, rfl⟩ (.calls_only hposts (finds_room hroom) hsent hspeaks.only
        hspeaks.applyEffect_draws ?_)
      exact Or.inr (Or.inl ⟨room, hroom, RoomRecord.holds_of_getSlot hslot⟩)
    · refine .mails ⟨session, hs, rfl⟩ (vacateRoom_mail hroom hslot hposts (finds_room hroom) hsent (Or.inr ?_))
      have hgame : (u.applyEffect r ended).gameSessions.get r = some ended.session := applyEmitted_game u r ended.toEmitted
      exact ⟨by simp [hgame], hspeaks.applyEffect_draws, hspeaks.only⟩

/-! ### Ready -/

/-- A method that announces a new game and starts the numbers again. -/
structure Opens (e : Emitted) : Prop where
  calls : ∃ q event, e.sends = [⟨.broadcast, q, .room event⟩] ∧ event.payload.isStart = true ∧ event.sessionSeq = 1
  counter : e.session.sessionSeq = 1

theorem startGame_opens {playerX playerO : PlayerSlot} (gs : GameSession) (now : Millis) (gameId : GameId)
    (firstTurn : PlayerSymbol) (hX : room.playerX = some playerX) (hO : room.playerO = some playerO) :
    Opens (gs.startGame now gameId room firstTurn) := by
  rcases GameSession.startGame_cases gs now gameId room firstTurn with h | ⟨_, _, -, -, h⟩
  · unfold GameSession.startGame at h
    simp [hX, hO, GameSession.emit] at h
  · rw [h]
    exact ⟨⟨_, _, rfl, rfl, rfl⟩, GameSession.emit_sessionSeq _ _ _ _⟩

theorem Opens.restart {e : Emitted} (h : Opens e) : Restart r (u.applyEmitted r e) e.sends :=
  ⟨h.calls, (counter_of_game (applyEmitted_game u r e)).trans h.counter⟩

/-- Both players are ready in `t`. -/
theorem startReadyGame_restart {marked : RoomRecord} {playerX playerO : PlayerSlot} {P : PlayerId → Prop}
    (hX : room.playerX = some playerX) (hO : room.playerO = some playerO)
    (hmarked : t.getRoom r = some marked) (hmX : marked.playerX = room.playerX) (hmO : marked.playerO = room.playerO)
    (hgame : t.gameSessions.get r = some gs) (hkey : gs.roomId = r) :
    ∃ calls, Posts r (some marked.resetReady) t (t.startReadyGame G r marked) calls ∧
      Restart r (t.startReadyGame G r marked) calls ∧ SendsFor r P calls := by
  generalize he : gs.startGame t.now (G.gameId t.nextId) marked.resetReady (readyFirstTurn gs.gameState) = e
  have hstart : t.startReadyGame G r marked = ((t.putRoom r marked.resetReady).drawIds 1).applyEmitted r e := by
    unfold startReadyGame
    simp only [hgame, he]
  have hfound : ((t.putRoom r marked.resetReady).drawIds 1).getRoom r = some marked.resetReady := by
    have hlive : marked.resetReady.isExpired t.now = false := (RoomStore.getRoom_eq_some.mp hmarked).2
    have hput := getRoom_putRoom t r r marked.resetReady
    rw [if_pos rfl, hlive] at hput
    exact hput
  have hopens : Opens e := he ▸ startGame_opens gs t.now _ _ (hmX.trans hX) (hmO.trans hO)
  have hput : Posts r (some marked.resetReady) t ((t.putRoom r marked.resetReady).drawIds 1) [] :=
    (putRoom_posts t _).then_silent (store_posts rfl rfl rfl rfl rfl rfl)
  rw [hstart]
  refine ⟨e.sends, hput.after_silent (applyEmitted_posts hfound e), hopens.restart, ?_⟩
  exact he ▸ hkey ▸ GameSession.startGame_for gs t.now _ _ _

theorem gameOrNew_roomId (hk : s.Keyed) (r : RoomId) : ((s.view r).gameOrNew r).roomId = r := by
  unfold RoomView.gameOrNew
  cases hg : (s.view r).game with
  | none => rfl
  | some gs => exact hk r gs hg

theorem becomeReady_mail {symbol : PlayerSymbol} (hk : s.Keyed) (hroom : s.getRoom r = some room)
    (hcount : 2 ≤ playerCount room) (hsymbol : getSymbolForPlayer room p = some symbol)
    (hready : symbol ∉ room.readySymbols) (G : IdSource) (c : ConnectionId) (id : CommandId) (free : Bool) :
    ∃ found calls, Mail s r c p free found
      ((s.ensureGameSession r).becomeReady G c id r symbol (room.markReady symbol)).server calls
      ((s.ensureGameSession r).becomeReady G c id r symbol (room.markReady symbol)).deliveries ∧
      1 ≤ ((s.ensureGameSession r).becomeReady G c id r symbol (room.markReady symbol)).server.counter r := by
  obtain ⟨playerX, playerO, hX, hO⟩ : ∃ playerX playerO, room.playerX = some playerX ∧ room.playerO = some playerO := by
    unfold playerCount at hcount
    cases hX : room.playerX <;> cases hO : room.playerO <;> simp [hX, hO] at hcount ⊢
  obtain ⟨oppSlot, hopp⟩ : ∃ oppSlot, room.slot (opponent symbol) = some oppSlot := by
    cases symbol with
    | X => exact ⟨playerO, hO⟩
    | O => exact ⟨playerX, hX⟩
  have hmarkedSlot : (room.markReady symbol).slot (opponent symbol) = some oppSlot := by
    cases symbol <;> exact hopp
  have hheld : s.InRoom r p := ⟨room, hroom, RoomRecord.holds_of_symbol hsymbol⟩
  generalize hx : (s.ensureGameSession r).putRoom r (room.markReady symbol) = x
  generalize hy : (x.allocateSequence r).allocateSequence r = y
  have hposts : ∀ found, Posts r found s y [] := by
    intro found
    have hput : Posts r found s x [] := hx ▸ (ensureGameSession_posts s).then_silent (putRoom_posts _ _)
    exact hy ▸ (hput.then_silent (allocateSequence_posts x)).then_silent (allocateSequence_posts _)
  have hgame : x.gameSessions.get r ≠ none := hx ▸ ensureGameSession_game s r
  have hmarked : Draws r s x [] := hx ▸ (ensureGameSession_draws s r).then_none (.of_same rfl)
  -- The two replies take the next two numbers, whether or not the game starts now.
  have hdraws : ∀ ack told : RoomEvent, ack.sessionSeq = (x.allocateSequence r).sequenceOr r 1 →
      told.sessionSeq = y.sequenceOr r 1 → Draws r s y [ack, told] := by
    intro ack told hack htold
    subst hy
    exact hmarked.trans (.cons (allocateSequence_draws hgame hack)
      (allocateSequence_draws (allocateSequence_game hgame) htold))
  have hothers : ∀ ready seq, ∀ d ∈ [Delivery.broadcast oppSlot.playerId
      (.event (.room (makeOpponentReady r symbol ready seq)))], d.For r c (s.InRoom r) := by
    intro ready seq d hd
    obtain rfl := List.mem_singleton.mp hd
    exact ⟨⟨room, hroom, RoomRecord.holds_of_slot hopp⟩, fun e he => Option.some.inj he ▸ rfl⟩
  unfold becomeReady
  simp only [hx, hmarkedSlot, hy]
  cases hboth : (room.markReady symbol).bothReady with
  | false =>
    refine ⟨none, [], .respond (hposts none) finds_none .nil rfl (hothers _ _) ?_ (Or.inr hheld), ?_⟩
    · refine .reply (by simp) ⟨rfl, rfl⟩ (fun e he => ?_) (hdraws _ _ rfl rfl)
      obtain rfl := List.mem_singleton.mp he
      rfl
    · have hnumbers := hdraws (makePlayerReadyAck r (room.markReady symbol).readySymbols _ id)
        (makeOpponentReady r symbol (room.markReady symbol).readySymbols _) rfl rfl
      have habove := hnumbers.above _ List.mem_cons_self
      have hle := hnumbers.numbered.le _ List.mem_cons_self
      exact Nat.lt_of_le_of_lt (Nat.zero_le _) (Nat.lt_of_lt_of_le habove hle)
  | true =>
    have hlive : y.getRoom r = some (room.markReady symbol) := by
      have hexpired : (room.markReady symbol).isExpired (s.ensureGameSession r).now = false := by
        rw [ensureGameSession_now]
        exact (RoomStore.getRoom_eq_some.mp hroom).2
      have hput := getRoom_putRoom (s.ensureGameSession r) r r (room.markReady symbol)
      rw [if_pos rfl, hexpired] at hput
      subst hy hx
      exact hput
    have hsession : y.gameSessions.get r = some (((s.view r).gameOrNew r).bump 2) := by
      have hview := congrArg RoomView.game (view_marked s r r (room.markReady symbol)).2
      rw [if_pos rfl] at hview
      subst hy hx
      exact hview
    obtain ⟨calls, hstart, hrestart, hsent⟩ := startReadyGame_restart (P := fun q => q = p ∨ s.InRoom r q) (G := G)
      hX hO hlive rfl rfl hsession (gameOrNew_roomId hk r)
    refine ⟨_, calls, .respond ((hposts _).after_silent hstart) ?_ hsent rfl (hothers _ _) ?_ (Or.inr hheld),
      hrestart.counter.ge⟩
    · exact finds_of_samePlayers hroom (.of_slots rfl rfl)
    · refine .late rfl hroom hsymbol hready hboth hrestart (u := y) ?_ ?_
      · rw [numberedEvents_reply rfl, numberedEvents_told rfl]
        exact hdraws _ _ rfl rfl
      · refine reply_starts (by simp) ⟨rfl, rfl⟩ fun e he => ?_
        obtain rfl := List.mem_singleton.mp he
        rfl

theorem handlePlayerReady_mailing (hc : s.cached id = none) (hk : s.Keyed) (hb : s.Backed) (c : ConnectionId)
    (r : RoomId) (token : SessionToken) : Mailing s r c token false (s.handlePlayerReady G c id r token) := by
  refine roomCommand_mailing hc hk hb fun u session room hk hb hs hroom => ?_
  split
  · exact .refuse (.refl u) rfl _
  rename_i hcount
  split
  · exact .refuse (.refl u) rfl _
  rename_i symbol hsymbol
  dsimp only
  split
  · rename_i hready
    have hheld : u.InRoom r session.playerId := ⟨room, hroom, RoomRecord.holds_of_symbol hsymbol⟩
    have hposts : Posts r none u (u.ensureGameSession r) [] := ensureGameSession_posts u
    refine .mails ⟨session, hs, rfl⟩ (.respond hposts finds_none .nil rfl (by simp) ?_ (Or.inr hheld))
    refine .again rfl hroom hsymbol hready (ensureGameSession_draws u r) rfl fun e he => ?_
    obtain rfl := List.mem_singleton.mp he
    rfl
  · rename_i hready
    obtain ⟨found, calls, hmail, -⟩ := becomeReady_mail hk hroom (Nat.not_lt.mp hcount) hsymbol hready G c id false
    exact .mails ⟨session, hs, rfl⟩ hmail

/-! ### Moves -/

/-- A move starts no game. -/
theorem handleMove_starts_none (gs : GameSession) (now : Millis) (repository : HistoryRepository) (diskFails : Bool)
    (p : PlayerId) (gameId : GameId) (position : RawPosition) (id : CommandId) :
    SendsOnly (fun x => !x.isStart) (gs.handleMove now repository diskFails p gameId position id).sends := by
  intro call hcall x hx
  have hkind := GameSession.handleMove_sendsOnly gameId position id (Or.inl rfl) call hcall x hx
  cases x with
  | gameStarted => cases hkind
  | _ => rfl

theorem handleMakeMove_mailing (hc : s.cached id = none) (hk : s.Keyed) (hb : s.Backed) (c : ConnectionId) (r : RoomId)
    (gameId : GameId) (position : RawPosition) (token : SessionToken) (diskFails : Bool) :
    Mailing s r c token true (s.handleMakeMove c id r gameId position token diskFails) := by
  refine roomCommand_mailing hc hk hb fun u session room hk hb hs hroom => ?_
  split
  · exact .refuse (.refl u) rfl _
  rename_i gs hg
  generalize hmoved : gs.handleMove u.now u.historyRepository diskFails session.playerId gameId position id = moved
  have hspeaks : u.Speaks r session.playerId room moved.toEmitted := by
    subst hmoved
    exact .of_method hk hb hg (GameSession.handleMove_hands _ _ _ _ _ _ _ _)
      (GameSession.handleMove_for _ _ _ _ _ _ _ _ (Or.inl rfl)) (handleMove_starts_none _ _ _ _ _ _ _ _)
  have hposts : Posts r (some room) u (u.applyEffect r moved.toGameEffect) moved.sends := applyEffect_posts hroom _
  have hmail : ∀ t : Server, Posts r (some room) (u.applyEffect r moved.toGameEffect) t [] →
      Draws r (u.applyEffect r moved.toGameEffect) t [] →
      Mail u r c session.playerId true (some room) t moved.sends [] := by
    intro t ht hd
    exact .calls_only (hposts.then_silent ht) (finds_room hroom) (sent_of_room hroom hspeaks.sent) hspeaks.only
      (hspeaks.applyEffect_draws.then_none hd) (Or.inl rfl)
  dsimp only
  split
  · exact .mails ⟨session, hs, rfl⟩ (hmail _ (.refl _) (.of_same rfl))
  · split
    · exact .mails ⟨session, hs, rfl⟩ (hmail _ (.refl _) (.of_same rfl))
    · exact .mails ⟨session, hs, rfl⟩ (hmail _ (recordCommand_posts _ _ _) (.of_same rfl))

/-! ### Rematch -/

/-- A rematch method that has sent something has found the player's slot, and it has started no game or a new one. -/
structure Agrees (gs : GameSession) (room : RoomRecord) (p : PlayerId) (outcome : GameSession.RematchOutcome) : Prop where
  sent : SendsFor gs.roomId (fun q => q = p ∨ room.Holds q) outcome.sends
  numbers : Opens outcome.toEmitted ∨ gs.Hands outcome.toEmitted ∧ SendsOnly (fun x => !x.isStart) outcome.sends
  seated : room.Holds p ∨ outcome.sends = []
  slots : outcome.room.playerX = room.playerX ∧ outcome.room.playerO = room.playerO
  lastActivityAt : outcome.room.lastActivityAt = room.lastActivityAt

theorem rematchCommand_mailing {drawn : Nat} {refusal : Option GameSession → Option ErrorCode}
    {method : Server → GameSession → RoomRecord → PlayerId → GameSession.RematchOutcome} (hc : s.cached id = none)
    (hk : s.Keyed) (hb : s.Backed) (hmethod : ∀ u gs room p, Agrees gs room p (method u gs room p)) (c : ConnectionId)
    (r : RoomId) (token : SessionToken) :
    Mailing s r c token false (s.rematchCommand c id r token drawn refusal method) := by
  refine roomCommand_mailing hc hk hb fun u session room hk hb hs hroom => ?_
  split
  · exact .refuse (.refl u) rfl _
  · exact .errs (.refl u) rfl fun d hd => by simp [ok] at hd
  rename_i gs hg _
  have hagrees := hmethod u gs room session.playerId
  generalize method u gs room session.playerId = outcome at hagrees
  generalize hx : (u.putRoom r outcome.room).drawIds drawn = x
  have hput : Posts r (some outcome.room) u x [] :=
    hx ▸ (putRoom_posts u _).then_silent (store_posts rfl rfl rfl rfl rfl rfl)
  have hfound : x.getRoom r = some outcome.room := by
    have hlive : outcome.room.isExpired u.now = false := by
      have h := (RoomStore.getRoom_eq_some.mp hroom).2
      rwa [RoomRecord.isExpired, ← hagrees.lastActivityAt] at h
    have h := getRoom_putRoom u r r outcome.room
    rw [if_pos rfl, hlive] at h
    exact hx ▸ h
  have hposts := hput.after_silent (applyEmitted_posts hfound outcome.toEmitted)
  have hmail : Mail u r c session.playerId false (some outcome.room) (x.applyEmitted r outcome.toEmitted) outcome.sends
      [] := by
    have hsent := sent_of_room hroom (hk r gs hg ▸ hagrees.sent)
    have hfinds := finds_of_samePlayers hroom (.of_slots hagrees.slots.1 hagrees.slots.2)
    have hseated : u.InRoom r session.playerId ∨ outcome.sends = [] := hagrees.seated.imp_left fun h => ⟨room, hroom, h⟩
    rcases hagrees.numbers with hopens | ⟨hhands, honly⟩
    · have hrestart := hopens.restart (u := x) (r := r)
      exact ⟨hposts, hfinds, hsent, fun d hd => by simp at hd, .started hrestart rfl,
        Or.inr (hseated.imp_right fun h => ⟨h, rfl⟩)⟩
    · have hgame : x.gameSessions.get r = some gs := hx ▸ hg
      have hput : Draws r u x [] := .of_same (by rw [← hx]; rfl)
      have hdraws := hput.trans (applyEmitted_draws hgame (hhands.draws ((hb r).some gs hg) honly))
      exact .calls_only hposts hfinds hsent honly hdraws (Or.inr hseated)
  simp only [hx]
  split
  · have hrecorded : Mail u r c session.playerId false (some outcome.room)
        ((x.applyEmitted r outcome.toEmitted).recordCommand id .processed) outcome.sends [] :=
      { hmail with
        posts := hmail.posts.then_silent (recordCommand_posts _ _ _)
        numbering := hmail.numbering.of_games rfl }
    exact .mails ⟨session, hs, rfl⟩ hrecorded
  · exact .mails ⟨session, hs, rfl⟩ hmail

theorem notTaken_agrees (gs : GameSession) (room : RoomRecord) (p : PlayerId) : Agrees gs room p (gs.notTaken room) :=
  ⟨.nil, Or.inr ⟨.silent rfl (Nat.le_refl _), .nil⟩, Or.inr rfl, ⟨rfl, rfl⟩, rfl⟩

theorem handleRematchRequest_agrees (gs : GameSession) (now : Millis) (room : RoomRecord) (p : PlayerId)
    (gameId : GameId) : Agrees gs room p (gs.handleRematchRequest now room p gameId) := by
  have hsent := GameSession.handleRematchRequest_for (P := fun q => q = p ∨ room.Holds q) gs now room p gameId
  have hhands := GameSession.handleRematchRequest_hands gs now room p gameId
  rcases GameSession.handleRematchRequest_cases gs now room p gameId with h | ⟨symbol, -, -, hsymbol, h⟩
  · rw [h]
    exact notTaken_agrees gs room p
  · rw [h] at hsent hhands ⊢
    exact ⟨hsent, Or.inr ⟨hhands, .one rfl⟩, Or.inl (RoomRecord.holds_of_symbol hsymbol), ⟨rfl, rfl⟩, rfl⟩

theorem handleRematchDecline_agrees (gs : GameSession) (room : RoomRecord) (p : PlayerId) (gameId : GameId) :
    Agrees gs room p (gs.handleRematchDecline room p gameId) := by
  have hsent := GameSession.handleRematchDecline_for (P := fun q => q = p ∨ room.Holds q) gs room p gameId
  have hhands := GameSession.handleRematchDecline_hands gs room p gameId
  rcases GameSession.handleRematchDecline_cases gs room p gameId with h | ⟨symbol, -, hsymbol, h⟩
  · rw [h]
    exact notTaken_agrees gs room p
  · rw [h] at hsent hhands ⊢
    exact ⟨hsent, Or.inr ⟨hhands, .one rfl⟩, Or.inl (RoomRecord.holds_of_symbol hsymbol), ⟨rfl, rfl⟩, rfl⟩

/-- Only the accept that completes a proposal starts a game, if both slots are taken. -/
theorem handleRematchAccept_agrees (gs : GameSession) (now : Millis) (gameIds : GameId × GameId) (room : RoomRecord)
    (p : PlayerId) (gameId : GameId) : Agrees gs room p (gs.handleRematchAccept now gameIds room p gameId) := by
  have hsent := GameSession.handleRematchAccept_for (P := fun q => q = p ∨ room.Holds q) gs now gameIds room p gameId
  have hhands := GameSession.handleRematchAccept_hands gs now gameIds room p gameId
  rcases GameSession.handleRematchAccept_cases gs now gameIds room p gameId with
    h | ⟨state, proposal, symbol, -, -, -, -, hsymbol, ⟨-, h⟩ | ⟨-, h⟩⟩
  · rw [h]
    exact notTaken_agrees gs room p
  · rw [h] at hsent hhands ⊢
    exact ⟨hsent, Or.inr ⟨hhands, .nil⟩, Or.inr rfl, ⟨rfl, rfl⟩, rfl⟩
  · rw [h] at hsent hhands ⊢
    refine ⟨hsent, ?_, Or.inl (RoomRecord.holds_of_symbol hsymbol), ⟨rfl, rfl⟩, rfl⟩
    rcases GameSession.startGame_cases { gs with rematch := none } now gameIds.2 room.resetReady (opponent state.firstTurn)
      with hnone | ⟨playerX, playerO, hX, hO, -⟩
    · right
      rw [hnone] at hhands ⊢
      exact ⟨hhands, .nil⟩
    · exact Or.inl (startGame_opens _ now _ _ hX hO)

/-! ### Reconnecting -/

/-- A returning player is announced to a connected opponent, if the room has a session. -/
theorem restorePresence_mail (hk : s.Keyed) (hb : s.Backed) (hroom : s.getRoom r = some room)
    (token : SessionToken) : ∃ calls,
      Posts r (some (room.setConnected s.now p true)) s (s.restorePresence r token p room) calls ∧
      SendsFor r (fun q => q = p ∨ s.InRoom r q) calls ∧
      (s.gameSessions.get r = none ∧ (s.restorePresence r token p room).gameSessions.get r = none ∧ calls = [] ∨
        (s.restorePresence r token p room).gameSessions.get r ≠ none ∧
          Draws r s (s.restorePresence r token p room) (calls.filterMap SendCall.roomEvent) ∧
          SendsOnly (fun x => !x.isStart) calls) := by
  generalize hx : (s.putRoom r (room.setConnected s.now p true)).setSessionRoom token (some r) = x
  have hput : Posts r (some (room.setConnected s.now p true)) s x [] :=
    hx ▸ (putRoom_posts s _).then_silent (store_posts rfl rfl rfl rfl rfl rfl)
  have hfound : x.getRoom r = some (room.setConnected s.now p true) := by
    have h := getRoom_putRoom s r r (room.setConnected s.now p true)
    rw [if_pos rfl, RoomRecord.setConnected_live (RoomStore.getRoom_eq_some.mp hroom).2] at h
    exact hx ▸ h
  unfold restorePresence
  simp only [hx]
  cases hg : s.gameSessions.get r with
  | none =>
    have hgx : x.gameSessions.get r = none := hx ▸ hg
    simp only [hgx]
    exact ⟨[], hput, .nil, Or.inl (by simp)⟩
  | some gs =>
    have hgx : x.gameSessions.get r = some gs := hx ▸ hg
    simp only [hgx]
    generalize he : (gs.clearReconnectWindow p).notifyOpponentReconnected (room.setConnected s.now p true) p = e
    have hhands : gs.Hands e := by
      subst he
      exact (GameSession.notifyOpponentReconnected_hands (gs.clearReconnectWindow p) _ p).congr rfl rfl
    have hsent : SendsFor gs.roomId (room.setConnected s.now p true).Holds e.sends := by
      subst he
      exact GameSession.tellOpponent_for (gs.clearReconnectWindow p) _ p _ fun _ _ => rfl
    have honly : SendsOnly (fun x => !x.isStart) e.sends := by
      subst he
      exact GameSession.tellOpponent_sendsOnly _ _ _ _ fun _ _ => rfl
    have hsame : Draws r s x [] := .of_same (by rw [← hx]; rfl)
    have hdraws := hsame.trans (applyEmitted_draws hgx (hhands.draws ((hb r).some gs hg) honly))
    refine ⟨e.sends, hput.after_silent (applyEmitted_posts hfound e), ?_, Or.inr ⟨?_, hdraws, honly⟩⟩
    · refine (hk r gs hg ▸ hsent).mono fun q hq => Or.inr ⟨room, hroom, (room.setConnected_samePlayers _ _ _).holds hq⟩
    · simp [applyEmitted_game x r e]

theorem handleReconnect_mailing (hc : s.cached id = none) (hk : s.Keyed) (hb : s.Backed) (c : ConnectionId) (r : RoomId)
    (lastReceivedSeq : Nat) (token : SessionToken) :
    Mailing s r c token false (s.handleReconnect c id r lastReceivedSeq token) := by
  refine roomCommand_mailing hc hk hb fun u session room hk hb hs hroom => ?_
  split
  · exact .refuse (.refl u) rfl _
  rename_i slot hslot
  have hheld : u.InRoom r session.playerId := ⟨room, hroom, RoomRecord.holds_of_getSlot hslot⟩
  obtain ⟨calls, hposts, hsent, hnumbers⟩ :=
    restorePresence_mail (p := session.playerId) hk hb hroom token
  generalize u.restorePresence r token session.playerId room = x at hposts hnumbers
  have hfinds := finds_of_samePlayers hroom (room.setConnected_samePlayers u.now session.playerId true)
  -- Whatever STATE_SYNC follows the response, it repeats numbers.
  have hmail : ∀ (ack sync : RoomEvent) (q : Prop) [Decidable q],
      ack = makeReconnectAck r session.playerId slot.symbol ((x.allocateSequence r).buildRoomSnapshot r)
        ((x.allocateSequence r).sequenceOr r 1) id → sync.roomId = r → sync.payload.isSync = true →
      Mailing u r c token false ((x.allocateSequence r).respond c id (.room ack)
        (if q then [.connection c (.event (.room sync))] else [])) := by
    rintro ack sync q _ rfl hroomId hsync
    have hnone : numberedEvents [] (if q then [Delivery.connection c (.event (.room sync))] else []) = [] := by
      split
      · simp [numberedEvents, Delivery.event, WireEvent.roomEvent, hsync]
      · simp
    have hothers : ∀ e ∈ numberedEvents [] (if q then [Delivery.connection c (.event (.room sync))] else []),
        e.payload.isStart = false := by
      rw [hnone]
      simp
    refine .mails ⟨session, hs, rfl⟩ (.respond (hposts.then_silent (allocateSequence_posts x)) hfinds hsent rfl
      (fun d hd => ?_) ?_ (Or.inr hheld))
    · split at hd
      · obtain rfl := List.mem_singleton.mp hd
        exact ⟨rfl, fun e he => Option.some.inj he ▸ hroomId⟩
      · simp at hd
    rcases hnumbers with ⟨hnos, hnox, hcalls⟩ | ⟨hgame, hdraws, honly⟩
    · exact .unnumbered hnos (allocateSequence_none hnox) hcalls (reply_starts (by simp) ⟨rfl, rfl⟩ hothers)
    · refine .reply (starts_of_sendsOnly honly) ⟨rfl, rfl⟩ hothers ?_
      rw [hnone]
      exact hdraws.trans (allocateSequence_draws hgame rfl)
  dsimp only
  cases (x.allocateSequence r).replayFor r (lastReceivedSeq + 1) session.playerId with
  | some replay => exact hmail _ _ _ rfl rfl rfl
  | none => exact hmail _ _ _ rfl rfl rfl

theorem handleSyncRequest_mailing (hc : s.cached id = none) (hk : s.Keyed) (hb : s.Backed) (c : ConnectionId)
    (r : RoomId) (fromSeq : Nat) (token : SessionToken) :
    Mailing s r c token false (s.handleSyncRequest c id r fromSeq token) := by
  refine roomCommand_mailing hc hk hb fun u session room hk hb hs hroom => ?_
  split
  · exact .refuse (.refl u) rfl _
  rename_i slot hslot
  have hheld : u.InRoom r session.playerId := ⟨room, hroom, RoomRecord.holds_of_getSlot hslot⟩
  have hnumbering : ∀ sync : RoomEvent, sync.payload.isSync = true →
      Numbering u r (· = session.playerId) u [] [.connection c (.event (.room sync))] := by
    intro sync hsync
    have hnone : numberedEvents [] [.connection c (.event (.room sync))] = [] := by
      simp [numberedEvents, Delivery.event, WireEvent.roomEvent, hsync]
    refine .counted ?_ ?_
    · rw [hnone]
      exact .of_same rfl
    · rw [hnone]
      simp
  dsimp only
  split
  · exact .mails ⟨session, hs, rfl⟩ (.respond (.refl u) finds_none .nil rfl (by simp) (hnumbering _ rfl) (Or.inr hheld))
  · exact .mails ⟨session, hs, rfl⟩ (.respond (.refl u) finds_none .nil rfl (by simp) (hnumbering _ rfl) (Or.inr hheld))

/-! ### Every command about a room -/

/-- Without a slot one enters a room, or tries a move. -/
def asksFreely : CommandBody → Bool
  | .joinRoom .. => true
  | .makeMove .. => true
  | _ => false

/-- What the router dispatches for a command about room `r` that has no earlier answer. -/
theorem dispatch_mailing {rec : ConnectionRecord} {command : Command} (hc : s.cached command.commandId = none)
    (hk : s.Keyed) (hb : s.Backed) (htoken : rec.sessionToken = some token) (hr : command.body.concerns = some r)
    (c : ConnectionId) (diskFails : Bool) : ∃ result, Mailing s r c token (asksFreely command.body) result ∧
      s.dispatch G c rec command diskFails = linked c rec command.body result := by
  obtain ⟨id, body⟩ := command
  unfold dispatch
  rw [htoken]
  cases body with
  | auth guestToken | ping clientTime => cases hr
  | joinRoom r' name =>
    obtain rfl := Option.some.inj hr
    exact ⟨_, handleJoinRoom_mailing hc hk hb c r' name token, rfl⟩
  | leaveRoom r' =>
    obtain rfl := Option.some.inj hr
    exact ⟨_, handleLeaveRoom_mailing hc hk hb c r' token diskFails, rfl⟩
  | playerReady r' =>
    obtain rfl := Option.some.inj hr
    exact ⟨_, handlePlayerReady_mailing (G := G) hc hk hb c r' token, rfl⟩
  | makeMove r' gameId position =>
    obtain rfl := Option.some.inj hr
    exact ⟨_, handleMakeMove_mailing hc hk hb c r' gameId position token diskFails, rfl⟩
  | requestRematch r' gameId =>
    obtain rfl := Option.some.inj hr
    exact ⟨_, rematchCommand_mailing hc hk hb (fun u gs room p => handleRematchRequest_agrees gs u.now room p gameId) c r'
      token, rfl⟩
  | acceptRematch r' gameId =>
    obtain rfl := Option.some.inj hr
    exact ⟨_, rematchCommand_mailing hc hk hb (fun u gs room p => handleRematchAccept_agrees gs u.now _ room p gameId) c
      r' token, rfl⟩
  | declineRematch r' gameId =>
    obtain rfl := Option.some.inj hr
    exact ⟨_, rematchCommand_mailing hc hk hb (fun u gs room p => handleRematchDecline_agrees gs room p gameId) c r'
      token, rfl⟩
  | reconnect r' lastReceivedSeq =>
    obtain rfl := Option.some.inj hr
    exact ⟨_, handleReconnect_mailing hc hk hb c r' lastReceivedSeq token, rfl⟩
  | syncRequest r' fromSeq =>
    obtain rfl := Option.some.inj hr
    exact ⟨_, handleSyncRequest_mailing hc hk hb c r' fromSeq token, rfl⟩

end Server
end TicTacToe

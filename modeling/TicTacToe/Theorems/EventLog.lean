import TicTacToe.Lib.NumberedLog
import TicTacToe.Theorems.Emissions

/-! # The log behind the replay buffer

The numbered events that a game session has handed to its send function since the latest start of a game. The
replay buffer has the last ones of those that went through `emit`. -/

namespace TicTacToe

/-! ### The log -/

namespace BufferEntry

def number (entry : BufferEntry) : Nat := entry.event.sessionSeq

/-- `GAME_STARTED` is the first event after `resetSeq`, which only `startGame` calls. -/
def restarts (entry : BufferEntry) : Bool :=
  match entry.event.payload with
  | .gameStarted .. => true
  | _ => false

/-- `REMATCH_DECLINED` is passed to the `SendFn` itself, every other numbered event to `emit`. -/
def emitted (entry : BufferEntry) : Bool :=
  match entry.event.payload with
  | .rematchDeclined .. => false
  | _ => true

end BufferEntry

/-- A call with a numbered event, as a buffer entry. -/
def SendCall.entry (call : SendCall) : Option BufferEntry :=
  match call.event with
  | .room event => some ⟨event, call.target, call.playerId⟩
  | _ => none

/-- The log with one more entry. -/
def enlog (log : List BufferEntry) (entry : BufferEntry) : List BufferEntry :=
  if entry.restarts then [entry] else log ++ [entry]

/-- The log after some calls of the send function. -/
def handOver (log : List BufferEntry) (calls : List SendCall) : List BufferEntry :=
  (calls.filterMap SendCall.entry).foldl enlog log

theorem handOver_append (log : List BufferEntry) (calls calls' : List SendCall) :
    handOver log (calls ++ calls') = handOver (handOver log calls) calls' := by
  simp only [handOver, List.filterMap_append, List.foldl_append]

@[simp] theorem handOver_nil (log : List BufferEntry) : handOver log [] = log := rfl

@[simp] theorem handOver_room (log : List BufferEntry) (target : SendTarget) (p : PlayerId) (event : RoomEvent) :
    handOver log [⟨target, p, .room event⟩] = enlog log ⟨event, target, p⟩ := rfl

namespace GameSession
variable {gs t : GameSession} {log : List BufferEntry} {now : Millis} {room : RoomRecord} {p : PlayerId}
  {repository : HistoryRepository} {diskFails : Bool}

/-- The log is numbered up to the session's counter, and the buffer has its last emitted entries. -/
structure Backed (gs : GameSession) (log : List BufferEntry) : Prop where
  buffer : gs.replayBuffer = (log.filter BufferEntry.emitted).rtake EVENT_BUFFER_SIZE
  numbered : Numbered BufferEntry.number gs.sessionSeq log

/-- What a method has sent extends the log of its session. -/
def Hands (gs : GameSession) (e : Emitted) : Prop := ∀ log, gs.Backed log → e.session.Backed (handOver log e.sends)

theorem Backed.of_same (h : gs.Backed log) (hbuffer : t.replayBuffer = gs.replayBuffer)
    (hseq : gs.sessionSeq ≤ t.sessionSeq) : t.Backed log := ⟨hbuffer.trans h.buffer, h.numbered.mono hseq⟩

theorem Backed.bump (h : gs.Backed log) (k : Nat) : (gs.bump k).Backed log := h.of_same rfl (Nat.le_add_right _ _)

theorem Hands.silent (hbuffer : t.replayBuffer = gs.replayBuffer) (hseq : gs.sessionSeq ≤ t.sessionSeq) :
    gs.Hands ⟨t, []⟩ := fun _ h => h.of_same hbuffer hseq

/-- Fields other than counter and buffer do not matter. -/
theorem Hands.congr {e : Emitted} (h : t.Hands e) (hbuffer : t.replayBuffer = gs.replayBuffer)
    (hseq : t.sessionSeq = gs.sessionSeq) : gs.Hands e := fun log hb => h log (hb.of_same hbuffer hseq.ge)

theorem Hands.relabel {e e' : Emitted} (h : gs.Hands e) (hsends : e'.sends = e.sends)
    (hbuffer : e'.session.replayBuffer = e.session.replayBuffer) (hseq : e.session.sessionSeq ≤ e'.session.sessionSeq) :
    gs.Hands e' := by
  intro log hb
  rw [hsends]
  exact (h log hb).of_same hbuffer hseq

theorem Hands.trans {e e' : Emitted} (h : gs.Hands e) (h' : e.session.Hands e') :
    gs.Hands ⟨e'.session, e.sends ++ e'.sends⟩ := by
  intro log hb
  rw [handOver_append]
  exact h' _ (h log hb)

theorem push_replayBuffer (gs : GameSession) (entry : BufferEntry) :
    (gs.push entry).replayBuffer = (gs.replayBuffer ++ [entry]).rtake EVENT_BUFFER_SIZE := by
  simp only [push, trimBuffer, List.rtake]

theorem emit_sessionSeq (gs : GameSession) (target : SendTarget) (p : PlayerId) (event : RoomEvent) :
    (gs.emit target p event).session.sessionSeq = gs.sessionSeq := by simp only [emit, push]

/-- The next event, buffered. -/
theorem emit_hands (gs : GameSession) (target : SendTarget) (p : PlayerId) (event : RoomEvent)
    (hseq : event.sessionSeq = gs.sessionSeq + 1) (hstart : (BufferEntry.mk event target p).restarts = false)
    (hemit : (BufferEntry.mk event target p).emitted = true) : gs.Hands (gs.nextSeq.emit target p event) := by
  intro log h
  have hnumber : (BufferEntry.mk event target p).number = gs.sessionSeq + 1 := hseq
  rw [emit_sends, handOver_room, enlog, if_neg (Bool.eq_false_iff.mp hstart)]
  refine ⟨?_, ?_⟩
  · have hbuffer : gs.nextSeq.replayBuffer = _ := h.buffer
    rw [emit, push_replayBuffer, hbuffer, rtake_append_rtake, List.filter_append, List.filter_cons_of_pos hemit,
      List.filter_nil]
  · have hcount : (gs.nextSeq.emit target p event).session.sessionSeq = (BufferEntry.mk event target p).number :=
      hnumber.symm
    rw [hcount]
    exact h.numbered.concat (by omega)

/-- The first event of a game. -/
theorem restart_hands (gs : GameSession) (target : SendTarget) (p : PlayerId) (event : RoomEvent)
    (hseq : event.sessionSeq = 1) (hstart : (BufferEntry.mk event target p).restarts = true)
    (hemit : (BufferEntry.mk event target p).emitted = true) (hs : t.sessionSeq = 1) (hb : t.replayBuffer = []) :
    gs.Hands (t.emit target p event) := by
  intro log h
  have hnumber : (BufferEntry.mk event target p).number = 1 := hseq
  rw [emit_sends, handOver_room, enlog, if_pos hstart]
  refine ⟨?_, ?_⟩
  · have hfirst : [BufferEntry.mk event target p].filter BufferEntry.emitted = [] ++ [BufferEntry.mk event target p] :=
      List.filter_cons_of_pos hemit
    rw [emit, push_replayBuffer, hb, hfirst]
  · rw [emit_sessionSeq, hs]
    exact .one hnumber.le

/-! ### The methods -/

theorem tellOpponent_hands (gs : GameSession) (room : RoomRecord) (p : PlayerId)
    (makeEvent : PlayerSymbol → Nat → RoomEvent) (hseq : ∀ symbol seq, (makeEvent symbol seq).sessionSeq = seq)
    (hstart : ∀ symbol seq target q, (BufferEntry.mk (makeEvent symbol seq) target q).restarts = false)
    (hemit : ∀ symbol seq target q, (BufferEntry.mk (makeEvent symbol seq) target q).emitted = true) :
    gs.Hands (gs.tellOpponent room p makeEvent) := by
  rcases tellOpponent_cases gs room p makeEvent with h | ⟨symbol, opponent, -, -, -, h⟩ <;> rw [h]
  · exact .silent rfl (Nat.le_refl _)
  · exact emit_hands gs _ _ _ (hseq _ _) (hstart _ _ _ _) (hemit _ _ _ _)

theorem startGame_hands (gs : GameSession) (now : Millis) (gameId : GameId) (room : RoomRecord)
    (firstTurn : PlayerSymbol) : gs.Hands (gs.startGame now gameId room firstTurn) := by
  rcases startGame_cases gs now gameId room firstTurn with h | ⟨playerX, playerO, -, -, h⟩ <;> rw [h]
  · exact .silent rfl (Nat.le_refl _)
  · exact restart_hands gs _ _ _ rfl rfl rfl rfl rfl

theorem Ending.hands {state : GameState} {result : GameResult} {e : GameEffect}
    (h : Ending gs repository diskFails p state result e) : gs.Hands e.toEmitted := by
  cases h with
  | known => exact emit_hands gs _ _ _ rfl rfl rfl
  | failed => exact .silent rfl (Nat.le_succ _)
  | recorded =>
    have hrecorded := emit_hands { gs with completedGames := recordOf state result :: gs.completedGames } .broadcast p
      (finishedEvent gs.roomId state result (gs.sessionSeq + 1)) rfl rfl rfl
    exact hrecorded.congr rfl rfl

theorem handleEnd_hands (gs : GameSession) (repository : HistoryRepository) (diskFails : Bool) (p : PlayerId)
    (outcome : GameOutcome) (reason : GameEndReason) (now : Millis) :
    gs.Hands (gs.handleEnd repository diskFails p fun state => endGame state outcome reason p now).toEmitted := by
  rcases handleEnd_cases gs repository diskFails p outcome reason now with ⟨-, h⟩ | ⟨_, _, -, -, -, h⟩
  · rw [h]
    exact .silent rfl (Nat.le_refl _)
  · exact h.hands.congr rfl rfl

theorem announced_hands (gs : GameSession) (p : PlayerId) (gameId : GameId) (position : RawPosition)
    (commandId : CommandId) (made : MoveMade) : gs.Hands (gs.announced p gameId position commandId made) := by
  have hack := emit_hands gs .player p (gs.ackEvent gameId position commandId made) rfl rfl rfl
  refine hack.trans ?_
  exact emit_hands _ .others p (gs.broadcastEvent p gameId position made) rfl rfl rfl

theorem handleMove_hands (gs : GameSession) (now : Millis) (repository : HistoryRepository) (diskFails : Bool)
    (p : PlayerId) (gameId : GameId) (position : RawPosition) (commandId : CommandId) :
    gs.Hands (gs.handleMove now repository diskFails p gameId position commandId).toEmitted := by
  have hm := handleMove_moving gs now repository diskFails p gameId position commandId
  generalize gs.handleMove now repository diskFails p gameId position commandId = o at hm
  cases hm with
  | refused => exact fun log h => h
  | rejected => exact emit_hands gs _ _ _ rfl rfl rfl
  | continued => exact (announced_hands _ _ _ _ _ _).congr rfl rfl
  | finished hstate hid hmove hresult he =>
    exact ((announced_hands _ _ _ _ _ _).trans he.hands).congr rfl rfl

theorem handleRematchRequest_hands (gs : GameSession) (now : Millis) (room : RoomRecord) (p : PlayerId)
    (gameId : GameId) : gs.Hands (gs.handleRematchRequest now room p gameId).toEmitted := by
  rcases handleRematchRequest_cases gs now room p gameId with h | ⟨symbol, -, -, -, h⟩ <;> rw [h]
  · exact .silent rfl (Nat.le_refl _)
  · have hrequested := emit_hands
      { gs with rematch := some ⟨symbol, now, now + REMATCH_TIMEOUT_MS, [symbol], gameId⟩ } .broadcast p
      (makeRematchRequested gs.roomId gameId symbol (now + REMATCH_TIMEOUT_MS) (gs.sessionSeq + 1)) rfl rfl rfl
    exact hrequested.congr rfl rfl

theorem handleRematchAccept_hands (gs : GameSession) (now : Millis) (gameIds : GameId × GameId) (room : RoomRecord)
    (p : PlayerId) (gameId : GameId) : gs.Hands (gs.handleRematchAccept now gameIds room p gameId).toEmitted := by
  rcases handleRematchAccept_cases gs now gameIds room p gameId with
    h | ⟨state, _, _, -, -, -, -, -, ⟨-, h⟩ | ⟨-, h⟩⟩ <;> rw [h]
  · exact .silent rfl (Nat.le_refl _)
  · exact .silent rfl (Nat.le_refl _)
  · have hstarted := startGame_hands { gs with rematch := none } now gameIds.2 room.resetReady (opponent state.firstTurn)
    exact hstarted.congr rfl rfl

/-- The one event that is logged but not buffered. -/
theorem handleRematchDecline_hands (gs : GameSession) (room : RoomRecord) (p : PlayerId) (gameId : GameId) :
    gs.Hands (gs.handleRematchDecline room p gameId).toEmitted := by
  rcases handleRematchDecline_cases gs room p gameId with h | ⟨symbol, -, -, h⟩ <;> rw [h]
  · exact .silent rfl (Nat.le_refl _)
  · intro log hb
    generalize hentry :
      BufferEntry.mk (makeRematchDeclined gs.roomId gameId symbol (gs.sessionSeq + 1)) .broadcast p = entry
    have hnumber : entry.number = gs.sessionSeq + 1 := hentry ▸ rfl
    have hstart : entry.restarts = false := hentry ▸ rfl
    have hemit : entry.emitted = false := hentry ▸ rfl
    have hlog : handOver log [⟨.broadcast, p, .room (makeRematchDeclined gs.roomId gameId symbol (gs.sessionSeq + 1))⟩] =
        log ++ [entry] := by
      rw [handOver_room, enlog, hentry, if_neg (Bool.eq_false_iff.mp hstart)]
    have hfilter : (log ++ [entry]).filter BufferEntry.emitted = log.filter BufferEntry.emitted := by
      rw [List.filter_append, List.filter_cons_of_neg (Bool.eq_false_iff.mp hemit), List.filter_nil, List.append_nil]
    have hcount : ({ gs with rematch := none } : GameSession).nextSeq.sessionSeq = entry.number := hnumber.symm
    refine ⟨?_, ?_⟩
    · rw [hlog, hfilter]
      exact hb.buffer
    · rw [hlog, hcount]
      exact hb.numbered.concat (by omega)

theorem expireRematch_hands (gs : GameSession) (room : RoomRecord) (gameId : GameId) :
    gs.Hands (gs.expireRematch room gameId) := by
  rcases expireRematch_cases gs room gameId with h | h | ⟨anyPlayer, h⟩ <;> rw [h]
  · exact .silent rfl (Nat.le_refl _)
  · exact .silent rfl (Nat.le_refl _)
  · have hexpired := emit_hands { gs with rematch := none } .broadcast anyPlayer
      (makeRematchExpired gs.roomId gameId (gs.sessionSeq + 1)) rfl rfl rfl
    exact hexpired.congr rfl rfl

theorem clearReconnectWindow_replayBuffer (gs : GameSession) (p : PlayerId) :
    (gs.clearReconnectWindow p).replayBuffer = gs.replayBuffer := rfl

theorem startReconnectWindow_hands (gs : GameSession) (now : Millis) (room : RoomRecord) (p : PlayerId) :
    gs.Hands (gs.startReconnectWindow now room p) := by
  have htold := tellOpponent_hands (gs.clearReconnectWindow p) room p
    (fun symbol seq => makeOpponentDisconnected gs.roomId symbol (now + RECONNECT_WINDOW_MS) seq)
    (fun _ _ => rfl) (fun _ _ _ _ => rfl) fun _ _ _ _ => rfl
  have hcleared : gs.Hands ((gs.clearReconnectWindow p).tellOpponent room p fun symbol seq =>
      makeOpponentDisconnected gs.roomId symbol (now + RECONNECT_WINDOW_MS) seq) := htold.congr rfl rfl
  exact hcleared.relabel rfl rfl (Nat.le_refl _)

theorem notifyOpponentReconnected_hands (gs : GameSession) (room : RoomRecord) (p : PlayerId) :
    gs.Hands (gs.notifyOpponentReconnected room p) :=
  tellOpponent_hands gs room p _ (fun _ _ => rfl) (fun _ _ _ _ => rfl) fun _ _ _ _ => rfl

theorem expireReconnectWindow_hands (gs : GameSession) (now : Millis) (repository : HistoryRepository)
    (diskFails : Bool) (p : PlayerId) (symbol : Option PlayerSymbol) :
    gs.Hands (gs.expireReconnectWindow now repository diskFails p symbol).toEmitted := by
  have habandoned : gs.Hands (gs.handleAbandon now repository diskFails p).toEmitted :=
    handleEnd_hands gs repository diskFails p _ _ now
  rcases expireReconnectWindow_cases gs now repository diskFails p symbol with
    ⟨-, he⟩ | ⟨-, -, he⟩ | ⟨x, -, -, he⟩ <;> rw [he]
  · exact habandoned
  · exact habandoned.relabel rfl rfl (Nat.le_refl _)
  · have hleft := emit_hands (gs.handleAbandon now repository diskFails p).session .broadcast p
      (makePlayerLeft (gs.handleAbandon now repository diskFails p).session.roomId p x .disconnectTimeout
        ((gs.handleAbandon now repository diskFails p).session.sessionSeq + 1)) rfl rfl rfl
    exact (habandoned.trans hleft).relabel rfl (clearReconnectWindow_replayBuffer _ p) (Nat.le_refl _)

end GameSession

/-! ### Steps of a room -/

/-- The room's session is backed by the log, which is empty as long as there is no session. -/
structure RoomView.Backed (v : RoomView) (log : List BufferEntry) : Prop where
  none : v.game = none → log = []
  some : ∀ gs, v.game = some gs → gs.Backed log

section Steps
variable {G : IdSource} {now : Millis} {r : RoomId} {lo hi : Nat} {v v' : RoomView} {a : RoomAction}
  {sends : List SendCall} {log : List BufferEntry}

theorem RoomView.Backed.of_game (h : v.Backed log) (hgame : v'.game = v.game) : v'.Backed log :=
  ⟨fun hn => h.none (hgame ▸ hn), fun gs hgs => h.some gs (hgame ▸ hgs)⟩

/-- A session that is created now has sent nothing. -/
theorem RoomView.Backed.gameOrNew (h : v.Backed log) (r : RoomId) : (v.gameOrNew r).Backed log := by
  unfold RoomView.gameOrNew
  cases hg : v.game with
  | some gs => exact h.some gs hg
  | none =>
    obtain rfl := h.none hg
    exact ⟨rfl, .nil⟩

/-- A view with the session after a method. -/
theorem GameSession.Hands.backed {gs : GameSession} {e : Emitted} (h : gs.Hands e) (hb : gs.Backed log)
    (hgame : v'.game = some e.session) : v'.Backed (handOver log e.sends) := by
  refine ⟨fun hn => by simp [hgame] at hn, fun gs' hgs' => ?_⟩
  obtain rfl := Option.some.inj (hgame.symm.trans hgs')
  exact h log hb

/-- The same with numbers that are drawn after the method. -/
theorem GameSession.Hands.backed_bump {gs : GameSession} {e : Emitted} {k : Nat} (h : gs.Hands e) (hb : gs.Backed log)
    (hgame : v'.game = some (e.session.bump k)) : v'.Backed (handOver log e.sends) :=
  GameSession.Hands.backed (e := ⟨e.session.bump k, e.sends⟩) (h.relabel rfl rfl (Nat.le_add_right _ _)) hb hgame

theorem RoomStep.backed (h : RoomStep G now r lo hi v a sends v') (hb : v.Backed log) :
    v'.Backed (handOver log sends) := by
  have hdrawn : ∀ k, v'.game = some ((v.gameOrNew r).bump k) → v'.Backed log := by
    intro k hgame
    refine ⟨fun hn => by simp [hgame] at hn, fun gs hgs => ?_⟩
    obtain rfl := Option.some.inj (hgame.symm.trans hgs)
    exact (hb.gameOrNew r).bump k
  cases h with
  | idle | created | leftIdleRoom | reconnectedIdle | disconnected => exact hb.of_game rfl
  | rejoined =>
    refine ⟨fun hn => hb.none (Option.map_eq_none_iff.mp hn), fun gs' hgs' => ?_⟩
    obtain ⟨gs, hgs, rfl⟩ := Option.map_eq_some_iff.mp hgs'
    exact (hb.some gs hgs).bump 1
  | entered => exact hdrawn _ rfl
  | readied => exact hdrawn _ rfl
  | readiedAgain => exact hdrawn 0 rfl
  | startedReady =>
    exact (GameSession.startGame_hands _ _ _ _ _).backed ((hb.gameOrNew r).bump _) rfl
  | left hroom hslot hgame => exact (GameSession.handleEnd_hands _ _ _ _ _ _ _).backed_bump (hb.some _ hgame) rfl
  | leaveThrew hroom hslot hgame => exact (GameSession.handleEnd_hands _ _ _ _ _ _ _).backed (hb.some _ hgame) rfl
  | moved hroom hgame | moveThrew hroom hgame =>
    exact (GameSession.handleMove_hands _ _ _ _ _ _ _ _).backed (hb.some _ hgame) rfl
  | rematchRequested hroom hgame =>
    exact (GameSession.handleRematchRequest_hands _ _ _ _ _).backed (hb.some _ hgame) rfl
  | rematchAccepted hroom hgame =>
    exact (GameSession.handleRematchAccept_hands _ _ _ _ _ _).backed (hb.some _ hgame) rfl
  | rematchDeclined hroom hgame =>
    exact (GameSession.handleRematchDecline_hands _ _ _ _).backed (hb.some _ hgame) rfl
  | @reconnected p room gs hroom hslot hgame =>
    have hcleared : (gs.clearReconnectWindow p).Backed log := (hb.some gs hgame).of_same rfl (Nat.le_refl _)
    exact (GameSession.notifyOpponentReconnected_hands _ _ _).backed_bump hcleared rfl
  | windowArmed hroom hgame => exact (GameSession.startReconnectWindow_hands _ _ _ _).backed (hb.some _ hgame) rfl
  | windowFired hgame => exact (GameSession.expireReconnectWindow_hands _ _ _ _ _ _).backed (hb.some _ hgame) rfl
  | rematchFired hroom hgame => exact (GameSession.expireRematch_hands _ _ _).backed (hb.some _ hgame) rfl

end Steps

/-! ### Runs -/

namespace Server
variable {s t : Server} {G : IdSource} {i : Input} {r r' : RoomId}

/-- The calls of room `r`'s send function. -/
def callsOf (r : RoomId) (log : List (RoomId × SendCall)) : List SendCall := (log.filter (·.1 = r)).map Prod.snd

/-- The numbered events that the session of `r` has handed to its send function since the latest start of a game. -/
def handed (s : Server) (r : RoomId) : List BufferEntry := handOver [] (callsOf r s.sendLog)

/-- Those of them that went through `emit`. -/
def emitted (s : Server) (r : RoomId) : List BufferEntry := (s.handed r).filter BufferEntry.emitted

theorem callsOf_sent (sends : List SendCall) : callsOf r (sends.map (r', ·)) = if r' = r then sends else [] := by
  induction sends with
  | nil => simp [callsOf]
  | cons call sends ih =>
    by_cases hr : r' = r
    · simp only [callsOf, hr, ↓reduceIte] at ih ⊢
      simp [ih]
    · simp only [callsOf, hr, ↓reduceIte] at ih ⊢
      simp [hr]

theorem handed_append {sends : List SendCall} (h : t.sendLog = s.sendLog ++ sends.map (r', ·)) :
    t.handed r = if r' = r then handOver (s.handed r) sends else s.handed r := by
  have hcalls : callsOf r t.sendLog = callsOf r s.sendLog ++ callsOf r (sends.map (r', ·)) := by
    simp only [h, callsOf, List.filter_append, List.map_append]
  rw [handed, hcalls, handOver_append, callsOf_sent]
  split <;> rfl

/-- The session of every room is backed by its log. -/
def Backed (s : Server) : Prop := ∀ r, (s.view r).Backed (s.handed r)

theorem start_backed (now : Millis) (version : String) (repository : HistoryRepository) :
    (start now version repository).Backed :=
  fun _ => ⟨fun _ => rfl, fun gs h => by simp [view, start] at h⟩

theorem Backed.of_quiet (hb : s.Backed) (hq : Quiet s t) : t.Backed := by
  intro r
  rw [hq.view, handed, hq.sendLog]
  exact hb r

theorem Acts.backed {a : RoomAction} (h : Acts G s t r a) (hb : s.Backed) : t.Backed := by
  obtain ⟨sends, hstep, hlog⟩ := h.step
  intro r'
  by_cases hr : r = r'
  · subst hr
    rw [handed_append hlog, if_pos rfl]
    exact hstep.backed (hb r)
  · rw [handed_append hlog, if_neg hr]
    exact (hb r').of_game (congrArg RoomView.game (h.other r' (Ne.symm hr)))

theorem Backed.step (hb : s.Backed) (hk : s.Keyed) (h : s.step G i = some t) : t.Backed := by
  rcases step_acts hk h with ⟨elapsed, -, rfl⟩ | ⟨r, a, hacts, -⟩
  · exact hb
  · exact hacts.backed hb

theorem backed_of_run {C : Server → Input → Prop} {now : Millis} {version : String} {repository : HistoryRepository}
    (hrun : Runs G C (start now version repository) s) : s.Keyed ∧ s.Backed :=
  hrun.invariant (P := fun s => s.Keyed ∧ s.Backed)
    ⟨start_keyed now version repository, start_backed now version repository⟩
    fun _ _ _ hs _ hstep => ⟨hs.1.step hstep, hs.2.step hs.1 hstep⟩

end Server
end TicTacToe

import TicTacToe.Theorems.HandlerMail
import TicTacToe.Theorems.Processing
import TicTacToe.Theorems.RoomRecords

/-! # Ready marks and numbers

A player has been marked as ready with two numbered replies, so the counter of a room with a ready mark is positive. It
stays so: the counter only grows, and a game starts with number 1. -/

namespace TicTacToe

/-! ### Marks -/

theorem RoomRecord.readySymbols_removePlayer {room : RoomRecord} {now : Millis} {p : PlayerId}
    (h : (room.removePlayer now p).readySymbols ≠ []) : room.readySymbols ≠ [] := by
  intro hnone
  refine h ?_
  unfold RoomRecord.removePlayer
  split
  · simp [hnone, JsSet.delete]
  · split
    · simp [hnone, JsSet.delete]
    · exact hnone

section Steps
variable {G : IdSource} {now : Millis} {r : RoomId} {lo hi : Nat} {v v' : RoomView} {a : RoomAction}
  {sends : List SendCall} {log : List BufferEntry} {room' : RoomRecord} {gs : GameSession}

/-- Only a `PLAYER_READY` marks a room without marks. -/
theorem RoomStep.marks (h : RoomStep G now r lo hi v a sends v') (hroom' : v'.room = some room')
    (hready : room'.readySymbols ≠ []) :
    (∃ p, a = .readied p) ∨ ∃ room, v.room = some room ∧ room.readySymbols ≠ [] := by
  cases h with
  | readiedAgain | readied | startedReady => exact Or.inl ⟨_, rfl⟩
  | idle | rejoined | rematchFired | leaveThrew | moved | moveThrew => exact Or.inr ⟨room', hroom', hready⟩
  | created =>
    obtain rfl := Option.some.inj hroom'
    exact absurd rfl hready
  | entered hroom hslot hadd =>
    obtain rfl := Option.some.inj hroom'
    exact Or.inr ⟨_, hroom, RoomRecord.readySymbols_addPlayer hadd ▸ hready⟩
  | leftIdleRoom hroom | left hroom =>
    obtain rfl := Option.some.inj hroom'
    exact Or.inr ⟨_, hroom, RoomRecord.readySymbols_removePlayer hready⟩
  | windowFired hgame htimer hdue hload hroom =>
    rcases hroom with hsame | ⟨room, hroom, hremoved⟩
    · exact Or.inr ⟨room', hsame.symm.trans hroom', hready⟩
    · obtain rfl := Option.some.inj (hremoved.symm.trans hroom')
      exact Or.inr ⟨room, hroom, RoomRecord.readySymbols_removePlayer hready⟩
  | reconnectedIdle hroom | reconnected hroom | disconnected hroom | windowArmed hroom =>
    obtain rfl := Option.some.inj hroom'
    exact Or.inr ⟨_, hroom, RoomRecord.readySymbols_setConnected _ _ _ _ ▸ hready⟩
  | @rematchRequested p room gs gameId hroom =>
    obtain rfl := Option.some.inj hroom'
    refine Or.inr ⟨room, hroom, ?_⟩
    rcases GameSession.handleRematchRequest_cases gs now room p gameId with he | ⟨_, -, -, -, he⟩
    · rwa [he] at hready
    · rwa [he] at hready
  | @rematchAccepted p room gs gameId unused n hroom =>
    obtain rfl := Option.some.inj hroom'
    refine Or.inr ⟨room, hroom, ?_⟩
    rcases GameSession.handleRematchAccept_cases gs now (unused, G.gameId n) room p gameId with
      he | ⟨_, _, _, -, -, -, -, -, ⟨-, he⟩ | ⟨-, he⟩⟩
    · rwa [he] at hready
    · rwa [he] at hready
    · rw [he] at hready
      exact absurd rfl hready
  | @rematchDeclined p room gs gameId hroom =>
    obtain rfl := Option.some.inj hroom'
    refine Or.inr ⟨room, hroom, ?_⟩
    rcases GameSession.handleRematchDecline_cases gs room p gameId with he | ⟨_, -, -, he⟩
    · rwa [he] at hready
    · rwa [he] at hready

/-! ### Counters -/

theorem GameSession.startGame_counter (gs : GameSession) (now : Millis) (gameId : GameId) (room : RoomRecord)
    (firstTurn : PlayerSymbol) : (gs.startGame now gameId room firstTurn).session.sessionSeq = gs.sessionSeq ∨
      (gs.startGame now gameId room firstTurn).session.sessionSeq = 1 := by
  rcases GameSession.startGame_cases gs now gameId room firstTurn with h | ⟨_, _, -, -, h⟩ <;> rw [h]
  · exact Or.inl rfl
  · rw [GameSession.emit_sessionSeq]
    exact Or.inr rfl

/-- A step without a start keeps the last number. -/
theorem RoomStep.counter_le (h : RoomStep G now r lo hi v a sends v') (hb : v.Backed log) (hgame : v.game = some gs)
    (honly : SendsOnly (fun x => !x.isStart) sends) : ∃ gs', v'.game = some gs' ∧ gs.sessionSeq ≤ gs'.sessionSeq := by
  obtain ⟨gs', hgs'⟩ := Option.ne_none_iff_exists'.mp (h.keeps.2.1 (hgame ▸ Option.some_ne_none gs))
  obtain ⟨log', hlog', last, hmem, hnumber⟩ := (hb.some gs hgame).ended
  have hbacked : v.Backed log' := by
    refine ⟨fun hnone => ?_, fun gs₁ hgs₁ => ?_⟩
    · rw [hgame] at hnone
      cases hnone
    · rwa [Option.some.inj (hgs₁.symm.trans hgame)]
  have hafter := (h.backed hbacked).some gs' hgs'
  rw [GameSession.handOver_of_not_restarts (GameSession.restarts_of_sendsOnly honly)] at hafter
  exact ⟨gs', hgs', hnumber ▸ hafter.numbered.le last (List.mem_append_left _ hmem)⟩

/-- A counter grows, or starts again with 1. -/
theorem RoomStep.counter (h : RoomStep G now r lo hi v a sends v') (hb : v.Backed log) (hgame : v.game = some gs) :
    ∃ gs', v'.game = some gs' ∧ (gs.sessionSeq ≤ gs'.sessionSeq ∨ gs'.sessionSeq = 1) := by
  have hgrows : SendsOnly (fun x => !x.isStart) sends →
      ∃ gs', v'.game = some gs' ∧ (gs.sessionSeq ≤ gs'.sessionSeq ∨ gs'.sessionSeq = 1) := by
    intro honly
    obtain ⟨gs', hgs', hle⟩ := h.counter_le hb hgame honly
    exact ⟨gs', hgs', Or.inl hle⟩
  have hkinds : (∀ x, a.emits x = true → x.isStart = false) → SendsOnly (fun x => !x.isStart) sends := by
    intro hkind call hcall x hx
    simp [hkind x (h.sendsOnly call hcall x hx)]
  cases h with
  | readiedAgain | readied => exact hgrows .nil
  | @startedReady p room symbol k n =>
    have hnew : gs.sessionSeq ≤ ((v.gameOrNew r).bump k).sessionSeq := by
      rw [RoomView.gameOrNew, hgame]
      exact Nat.le_add_right _ _
    refine ⟨_, rfl, ?_⟩
    rcases ((v.gameOrNew r).bump k).startGame_counter now (G.gameId n) (room.markReady symbol).resetReady
      (Server.readyFirstTurn v.state) with hsame | hone
    · exact Or.inl (hnew.trans hsame.ge)
    · exact Or.inr hone
  | @rematchAccepted p room gs' gameId unused n hroom hgame' =>
    obtain rfl := Option.some.inj (hgame.symm.trans hgame')
    refine ⟨_, rfl, ?_⟩
    rcases GameSession.handleRematchAccept_cases gs now (unused, G.gameId n) room p gameId with
      he | ⟨_, _, _, -, -, -, -, -, ⟨-, he⟩ | ⟨-, he⟩⟩ <;> rw [he]
    · exact Or.inl (Nat.le_refl _)
    · exact Or.inl (Nat.le_refl _)
    · rcases GameSession.startGame_counter { gs with rematch := none } now (G.gameId n) room.resetReady _ with hsame | hone
      · exact Or.inl hsame.ge
      · exact Or.inr hone
  | _ => exact hgrows (hkinds fun x hx => by cases x <;> first | rfl | cases hx)

end Steps

namespace Server
variable {s t : Server} {G : IdSource} {i : Input} {r : RoomId} {p : PlayerId} {token : SessionToken} {id : CommandId}
  {session : PlayerSession} {room room' : RoomRecord}

/-- Whoever has been marked as ready in room `r` has been answered with a number. -/
def Marked (s : Server) (r : RoomId) : Prop :=
  ∀ room, (s.view r).room = some room → room.readySymbols ≠ [] → 1 ≤ s.counter r

theorem start_marked (now : Millis) (version : String) (repository : HistoryRepository) (r : RoomId) :
    (start now version repository).Marked r := fun room h => by simp [view, start, RoomStore.object, RoomStore.empty] at h

theorem Quiet.marked (hq : Quiet s t) (hm : s.Marked r) : t.Marked r := by
  intro room hroom hready
  rw [hq.view] at hroom
  rw [hq.counter]
  exact hm room hroom hready

/-- A `PLAYER_READY` that is processed. -/
theorem handlePlayerReady_marked (hk : s.Keyed) (hm : s.Marked r) (hs : s.getSession token = some session)
    (hc : s.cached id = none) (hroom : s.getRoom r = some room) (G : IdSource) (c : ConnectionId) :
    (s.handlePlayerReady G c id r token).server.Marked r := by
  have hlookup := afterLookup_quiet s id
  have hm' := hlookup.marked hm
  have hk' : (s.afterLookup id).Keyed := hk
  have hlive := (hlookup.getRoom r).trans hroom
  unfold handlePlayerReady
  rw [roomCommand_eq hs hc hroom]
  generalize s.afterLookup id = u at *
  split
  · exact hm'
  rename_i hcount
  split
  · exact hm'
  rename_i symbol hsymbol
  dsimp only
  split
  · rename_i hready
    intro room' hroom' hready'
    have hview := congrArg RoomView.room (view_ensureGameSession u r r)
    rw [if_pos rfl] at hview
    have hsame : ((u.ensureGameSession r).view r).room = (u.view r).room := hview
    exact (hm' room' (hsame.symm.trans hroom') hready').trans (ensureGameSession_draws u r).le
  · rename_i hready
    obtain ⟨found, calls, -, hpos⟩ := becomeReady_mail hk' hlive (Nat.not_lt.mp hcount) hsymbol hready G c id false
    exact fun _ _ _ => hpos

/-- What has marked a player has answered. -/
theorem Acts.readied_marked (hk : s.Keyed) (hm : s.Marked r) (hacts : Acts G s t r (.readied p))
    (hcause : s.Cause i r (.readied p)) (hstep : s.step G i = some t) : t.Marked r := by
  obtain ⟨room, hroom⟩ := Option.isSome_iff_exists.mp (hacts.onLive rfl)
  obtain ⟨id, hhandles⟩ := hcause
  obtain ⟨c, rec, token, htoken, ⟨⟨session, hsession, -⟩, hc⟩, rfl⟩ := hhandles.step hstep
  have hq := arrived_quiet s c rec
  have hdispatch : (s.arrived c rec).dispatch G c rec ⟨id, .playerReady r⟩ i.diskFails =
      (s.arrived c rec).handlePlayerReady G c id r token := by simp only [dispatch, htoken]
  rw [hdispatch]
  refine (conclude_quiet G c id _).marked ?_
  exact handlePlayerReady_marked (hk.arrived c rec) (hq.marked hm) hsession hc ((hq.getRoom r).trans hroom) G c

theorem counter_of_view (hview : t.view r = s.view r) : t.counter r = s.counter r := by
  have hgame : t.gameSessions.get r = s.gameSessions.get r := congrArg RoomView.game hview
  rw [counter, counter, sequenceOr, sequenceOr, hgame]

theorem step_counter (hk : s.Keyed) (hb : s.Backed) (h : s.step G i = some t) (r : RoomId) :
    s.counter r ≤ t.counter r ∨ t.counter r = 1 := by
  rcases step_view hk h r with hview | ⟨a, hacts, -⟩
  · exact Or.inl (counter_of_view hview).ge
  obtain ⟨sends, hstep, -⟩ := hacts.step
  cases hg : s.gameSessions.get r with
  | none =>
    have hnone : s.counter r = 0 := by simp [counter, sequenceOr, hg]
    exact Or.inl (hnone ▸ Nat.zero_le _)
  | some gs =>
    obtain ⟨gs', hgs', hcounter⟩ := hstep.counter (hb r) hg
    rw [counter_of_game hg, counter_of_game hgs']
    exact hcounter

theorem step_counter_pos (hk : s.Keyed) (hb : s.Backed) (h : s.step G i = some t) (hpos : 1 ≤ s.counter r) :
    1 ≤ t.counter r := by
  rcases step_counter hk hb h r with hle | hone
  · exact hpos.trans hle
  · exact hone.ge

theorem Marked.step (hm : s.Marked r) (hk : s.Keyed) (hb : s.Backed) (h : s.step G i = some t) : t.Marked r := by
  intro room' hroom' hready'
  rcases step_view hk h r with hview | ⟨a, hacts, hcause⟩
  · rw [hview] at hroom'
    rw [counter_of_view hview]
    exact hm room' hroom' hready'
  · obtain ⟨sends, hstep, -⟩ := hacts.step
    rcases hstep.marks hroom' hready' with ⟨p, rfl⟩ | ⟨room, hroom, hready⟩
    · exact hacts.readied_marked hk hm hcause h room' hroom' hready'
    · exact step_counter_pos hk hb h (hm room hroom hready)

end Server
end TicTacToe

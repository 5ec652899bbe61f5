import TicTacToe.Lib.Simulation
import TicTacToe.Theorems.EngineLog
import TicTacToe.Theorems.Tables

/-! # Rooms are tables

What the server does to a room is what can be done at a table: two players sit down, get ready, and play one match after
another by the rules of the game. -/

namespace TicTacToe
open Labelled

/-! ### Steps -/

/-- What an action in a room is at its table. -/
inductive RoomAction.Does : RoomAction → Table.Action (BoardIndex × BoardIndex) PlayerSymbol PlayerId → Prop
  | sit {p : PlayerId} {x : PlayerSymbol} : Does (.entered p) (.sit p x)
  | stand {p : PlayerId} : Does (.left p) (.stand p)
  | resign {p : PlayerId} : Does (.left p) (.resign p)
  /-- The leave has failed after it has ended the game. -/
  | resignOnly {p : PlayerId} : Does (.leaveThrew p) (.resign p)
  | away {p : PlayerId} : Does (.windowFired p) (.away p)
  | removed {p : PlayerId} : Does (.windowFired p) (.stand p)
  | ready {p : PlayerId} : Does (.readied p) (.ready p)
  | mark {p : PlayerId} {id : CommandId} {g : GameId} {position : RawPosition} :
    Does (.moved p id g position) (.mark p (toBoardIndex position.row, toBoardIndex position.col))
  | markOnly {p : PlayerId} {id : CommandId} {g : GameId} {position : RawPosition} :
    Does (.moveThrew p id g position) (.mark p (toBoardIndex position.row, toBoardIndex position.col))
  | ask {p : PlayerId} {g : GameId} : Does (.rematchRequested p g) (.ask p)
  | agree {p : PlayerId} {g : GameId} : Does (.rematchAccepted p g) (.agree p)
  | decline {p : PlayerId} {g : GameId} : Does (.rematchDeclined p g) (.decline p)
  | lapse : Does .rematchFired .lapse

namespace RoomView
variable {v u v' : RoomView} {a : RoomAction} {b : Table.Action (BoardIndex × BoardIndex) PlayerSymbol PlayerId}

/-- The room gets from one view to the other by what action `a` does at its table. -/
def Follows (v : RoomView) (a : RoomAction) (v' : RoomView) : Prop :=
  ∃ log, Run (Table.Step tableRules) v.table log v'.table ∧ ∀ b ∈ log, a.Does b

theorem Follows.of_same (h : v'.table = v.table) : v.Follows a v' :=
  ⟨[], h ▸ .nil, fun _ hb => absurd hb List.not_mem_nil⟩

theorem Follows.of_step (h : Table.Step tableRules v.table b v'.table) (hb : a.Does b) : v.Follows a v' :=
  ⟨[b], .one h, fun _ hb' => List.mem_singleton.mp hb' ▸ hb⟩

theorem Follows.trans (h₁ : v.Follows a u) (h₂ : u.Follows a v') : v.Follows a v' := by
  obtain ⟨log₁, hrun₁, hdoes₁⟩ := h₁
  obtain ⟨log₂, hrun₂, hdoes₂⟩ := h₂
  refine ⟨log₁ ++ log₂, hrun₁.append hrun₂, fun b hb => ?_⟩
  exact (List.mem_append.mp hb).elim (hdoes₁ b) (hdoes₂ b)

end RoomView

namespace RoomStep
variable {G : IdSource} {now : Millis} {r : RoomId} {lo hi : Nat} {v v' u : RoomView} {a : RoomAction}
  {sends : List SendCall} {p : PlayerId} {gs : GameSession} {repository : HistoryRepository} {diskFails : Bool}
  {b : Table.Action (BoardIndex × BoardIndex) PlayerSymbol PlayerId}

/-- What ends the running game is done at the table, and without a running game nothing is done there. -/
theorem follows_end {outcome : GameOutcome} {reason : GameEndReason} (hv : v.Tidy) (hgame : v.game = some gs)
    (hroom : u.room = v.room) (hproposal : u.proposal = v.proposal)
    (hstate : u.state = (gs.handleEnd repository diskFails p
      fun state => endGame state outcome reason p now).session.gameState)
    (hstep : ∀ state, v.state = some state → state.status = .active →
      u.state = some (endGame state outcome reason p now).newState → Table.Step tableRules v.table b u.table)
    (ha : a.Does b) : v.Follows a u ∧ u.table.running = none := by
  rcases GameSession.handleEnd_cases gs repository diskFails p outcome reason now with
    ⟨hidle, he⟩ | ⟨state, result, hold, hactive, -, he⟩
  · have htable : u.table = v.table := by
      refine RoomView.table_congr hroom hproposal ?_
      rw [hstate, he, RoomView.state_of_game hgame]
    refine ⟨.of_same htable, ?_⟩
    rw [htable]
    exact hv.idle ((RoomView.active_of_game hgame).trans hidle)
  · have hended : u.state = some (endGame state outcome reason p now).newState := hstate.trans he.fields.2.1
    have hrunning : v.state = some state := (RoomView.state_of_game hgame).trans hold
    exact ⟨.of_step (hstep state hrunning hactive hended) ha, RoomView.running_ended hended⟩

/-- A leave ends the running game, if there is one. -/
theorem follows_forfeit (hv : v.Tidy) (hholds : v.Holds p) (hgame : v.game = some gs)
    (hroom : u.room = v.room) (hproposal : u.proposal = v.proposal)
    (hstate : u.state = (gs.handleForfeit now repository diskFails p).session.gameState)
    (ha : a.Does (.resign p)) : v.Follows a u ∧ u.table.running = none :=
  follows_end hv hgame hroom hproposal hstate
    (fun _ hold hactive hended => RoomView.table_resigned hv hholds hroom hproposal hold hactive hended) ha

/-- An expired window does so too. -/
theorem follows_abandon (hv : v.Tidy) (hgame : v.game = some gs) (hroom : u.room = v.room)
    (hproposal : u.proposal = v.proposal)
    (hstate : u.state = (gs.handleAbandon now repository diskFails p).session.gameState) :
    v.Follows (.windowFired p) u ∧ u.table.running = none :=
  follows_end hv hgame hroom hproposal hstate
    (fun _ hold hactive hended => RoomView.table_away hv hroom hproposal hold hactive hended) .away

theorem follows_move {id : CommandId} {g : GameId} {position : RawPosition} (hv : v.Tidy) (hgame : v.game = some gs)
    (hroom : v'.room = v.room)
    (hgame' : v'.game = some (gs.handleMove now repository diskFails p g position id).session)
    (ha : a.Does (.mark p (toBoardIndex position.row, toBoardIndex position.col))) : v.Follows a v' := by
  have hproposal : v'.proposal = v.proposal := by
    rw [RoomView.proposal_of_game hgame', RoomView.proposal_of_game hgame, GameSession.handleMove_rematch]
  have hmark : ∀ state t made ended, gs.gameState = some state →
      AcceptedMove state ⟨p, position.row, position.col, id, now⟩ t made ended → v'.state = some t → v.Follows a v' :=
    fun state t made ended hold hmove hstate' => .of_step
      (RoomView.table_marked hv hroom hproposal ((RoomView.state_of_game hgame).trans hold) hmove hstate') ha
  have hm := GameSession.handleMove_moving gs now repository diskFails p g position id
  generalize gs.handleMove now repository diskFails p g position id = o at hm hgame'
  have hstate' := RoomView.state_of_game hgame'
  cases hm with
  | refused => exact .of_same (RoomView.table_congr hroom hproposal (hstate'.trans (RoomView.state_of_game hgame).symm))
  | rejected =>
    refine .of_same (RoomView.table_congr hroom hproposal ?_)
    rw [hstate', (GameSession.emit_same _ _ _ _).gameState, RoomView.state_of_game hgame]
    rfl
  | continued hold hid hmove =>
    exact hmark _ _ _ _ hold hmove (hstate'.trans (GameSession.announced_same _ _ _ _ _ _).gameState)
  | finished hold hid hmove hresult he =>
    exact hmark _ _ _ _ hold hmove (hstate'.trans (he.fields.2.1.trans (GameSession.announced_same _ _ _ _ _ _).gameState))

/-- Every step of a room is one of its table, or some, or none. -/
theorem follows (hv : v.Tidy) (hnew : a = .created → v.room = none) (h : RoomStep G now r lo hi v a sends v') :
    v.Follows a v' := by
  have hholds : ∀ {p room}, v.room = some room → getSlotByPlayerId room p ≠ none → v.Holds p :=
    fun hroom hslot => RoomView.holds_iff.mpr (RoomView.slotOf_of_room hroom _ ▸ hslot)
  cases h with
  | idle => exact .of_same rfl
  | created =>
    refine .of_same (Table.State.ext (funext fun x => ?_) ?_ rfl rfl)
    · rw [RoomView.table_seat rfl]
      cases x <;> simp [RoomView.table, hnew rfl, RoomRecord.fresh, RoomRecord.slot]
    · rw [RoomView.table_ready rfl]
      simp [RoomView.table, hnew rfl, RoomRecord.fresh]
  | rejoined =>
    refine .of_same (RoomView.table_congr rfl ?_ ?_)
    · cases hg : v.game <;> simp [RoomView.proposal, hg, GameSession.bump]
    · cases hg : v.game <;> simp [RoomView.state, hg, GameSession.bump]
  | entered hroom hslot hadd =>
    exact .of_step (RoomView.table_addPlayer hroom hslot hadd rfl (RoomView.bump_rematch v r _)
      (RoomView.bump_gameState v r _)) .sit
  | leftIdleRoom hroom hslot hgame =>
    have hidle : v.active = false := by simp [RoomView.active, RoomView.state, hgame]
    exact .of_step (RoomView.table_removePlayer (hv.distinct _ hroom) hroom hslot (hv.idle hidle) rfl rfl rfl) .stand
  | @left p room gs repository diskFails hroom hslot hgame hload hthrew =>
    have hproposal : (gs.handleForfeit now repository diskFails p).session.rematch = v.proposal :=
      (GameSession.handleEnd_rematch _ _).trans (RoomView.proposal_of_game hgame).symm
    -- The game ends before the slot is freed.
    let u : RoomView := { v with game := some (gs.handleForfeit now repository diskFails p).session }
    obtain ⟨hended, hidle⟩ : v.Follows (.left p) u ∧ u.table.running = none :=
      follows_forfeit hv (hholds hroom hslot) hgame rfl hproposal rfl .resign
    exact hended.trans (.of_step (RoomView.table_removePlayer (hv.distinct _ hroom) hroom hslot hidle rfl rfl rfl) .stand)
  | @leaveThrew p room gs repository hroom hslot hgame =>
    have hproposal : (gs.handleForfeit now repository true p).session.rematch = v.proposal :=
      (GameSession.handleEnd_rematch _ _).trans (RoomView.proposal_of_game hgame).symm
    let u : RoomView := ⟨v.room, some (gs.handleForfeit now repository true p).session,
      (gs.handleForfeit now repository true p).historyRepository.loadCompletedGames r⟩
    have hended : v.Follows (.leaveThrew p) u ∧ u.table.running = none :=
      follows_forfeit hv (hholds hroom hslot) hgame rfl hproposal rfl .resignOnly
    exact hended.1
  | readiedAgain =>
    exact .of_same (RoomView.table_congr rfl (RoomView.bump_rematch v r 0) (RoomView.bump_gameState v r 0))
  | readied hroom hsymbol hready hboth =>
    exact .of_step (RoomView.table_readied hroom hsymbol hready hboth rfl (RoomView.bump_rematch v r _)
      (RoomView.bump_gameState v r _)) .ready
  | @startedReady p room symbol k n hroom hcount hsymbol hready hboth =>
    obtain ⟨playerX, playerO, hX, hO⟩ : ∃ playerX playerO, room.playerX = some playerX ∧ room.playerO = some playerO := by
      unfold playerCount at hcount
      cases hX : room.playerX <;> cases hO : room.playerO <;> simp_all
    have hX' : (room.markReady symbol).resetReady.playerX = some playerX := hX
    have hproposal := (GameSession.startGame_rematch ((v.gameOrNew r).bump k) now (G.gameId n)
      (room.markReady symbol).resetReady (Server.readyFirstTurn v.state)).trans (RoomView.bump_rematch v r _)
    exact .of_step (RoomView.table_started (RoomView.nextFirst_eq v) hroom hX hO hsymbol hready hboth rfl hproposal
      (GameSession.startGame_started _ _ _ _ hX' hO).1) .ready
  | moved hroom hgame => exact follows_move hv hgame rfl rfl .mark
  | moveThrew hroom hgame => exact follows_move hv hgame rfl rfl .markOnly
  | @rematchRequested p room gs gameId hroom hgame =>
    rcases GameSession.handleRematchRequest_cases gs now room p gameId with he | ⟨x, hfinished, hnone, hx, he⟩
    · rw [he]
      exact .of_same (RoomView.table_congr hroom.symm (RoomView.proposal_of_game hgame).symm
        (RoomView.state_of_game hgame).symm)
    · rw [he]
      obtain ⟨state, hold, hmatch⟩ := (Option.any_eq_true _ _).mp hfinished
      obtain ⟨hstatus, -⟩ : state.status = .finished ∧ state.gameId = gameId := by simpa using hmatch
      exact .of_step (RoomView.table_asked hv hroom hx (.of_session hgame hold hstatus)
        ((RoomView.proposal_of_game hgame).trans hnone) hroom.symm rfl rfl (RoomView.state_of_game hgame).symm) .ask
  | @rematchAccepted p room gs gameId unused n hroom hgame =>
    rcases GameSession.handleRematchAccept_cases gs now (unused, G.gameId n) room p gameId with
      he | ⟨state, proposal, x, hold, hstatus, -, hproposal, hx, ⟨hone, he⟩ | ⟨hboth, he⟩⟩
    · rw [he]
      exact .of_same (RoomView.table_congr hroom.symm (RoomView.proposal_of_game hgame).symm
        (RoomView.state_of_game hgame).symm)
    · rw [he]
      exact .of_step (RoomView.table_noted hv hroom hx (.of_session hgame hold hstatus)
        ((RoomView.proposal_of_game hgame).trans hproposal) hone hroom.symm rfl rfl (RoomView.state_of_game hgame).symm)
        .agree
    · rw [he]
      have hstate := (RoomView.state_of_game hgame).trans hold
      have hfirst : v.table.nextFirst tableRules = opponent state.firstTurn := by
        rw [Table.State.nextFirst, RoomView.table_current hstate]
        rfl
      have hrematch : ({ gs with rematch := none } : GameSession).rematch = none := rfl
      exact .of_step (RoomView.table_accepted hv hfirst hroom hx (.of_session hgame hold hstatus)
        ((RoomView.proposal_of_game hgame).trans hproposal) hboth hrematch (RoomView.state_of_game hgame).symm rfl rfl)
        .agree
  | @rematchDeclined p room gs gameId hroom hgame =>
    rcases GameSession.handleRematchDecline_cases gs room p gameId with he | ⟨x, hsome, hx, he⟩
    · rw [he]
      exact .of_same (RoomView.table_congr hroom.symm (RoomView.proposal_of_game hgame).symm
        (RoomView.state_of_game hgame).symm)
    · rw [he]
      obtain ⟨proposal, hproposal⟩ := Option.ne_none_iff_exists'.mp hsome
      have hasked := hv.asked ((RoomView.proposal_of_game hgame).trans hproposal)
      exact .of_step (RoomView.table_declined hroom hx hasked hroom.symm rfl (RoomView.state_of_game hgame).symm) .decline
  | reconnectedIdle hroom =>
    exact .of_same (RoomView.table_setConnected (hv.distinct _ hroom) true hroom rfl rfl rfl)
  | @reconnected p room gs hroom hslot hgame =>
    have h := GameSession.tellOpponent_same (gs.clearReconnectWindow p) (room.setConnected now p true) p
      fun symbol seq => makeOpponentReconnected gs.roomId symbol seq
    refine .of_same (RoomView.table_setConnected (hv.distinct _ hroom) true hroom rfl ?_ ?_)
    · exact h.rematch.trans (RoomView.proposal_of_game hgame).symm
    · exact h.gameState.trans (RoomView.state_of_game hgame).symm
  | disconnected hroom =>
    exact .of_same (RoomView.table_setConnected (hv.distinct _ hroom) false hroom rfl rfl rfl)
  | @windowArmed p room gs hroom hgame hactive =>
    have h := GameSession.startReconnectWindow_fields gs now (room.setConnected now p false) p
    refine .of_same (RoomView.table_setConnected (hv.distinct _ hroom) false hroom rfl ?_ ?_)
    · exact h.2.2.1.trans (RoomView.proposal_of_game hgame).symm
    · exact h.2.1.trans (RoomView.state_of_game hgame).symm
  | @windowFired p gs timer repository diskFails room' hgame htimer hdue hload hroom hthrew =>
    have hproposal : (gs.expireReconnectWindow now repository diskFails p timer.symbol).session.rematch = v.proposal :=
      (GameSession.expireReconnectWindow_rematch _).trans (RoomView.proposal_of_game hgame).symm
    let u : RoomView := { v with game := some (gs.expireReconnectWindow now repository diskFails p timer.symbol).session }
    have hgameState := (GameSession.expireReconnectWindow_performs gs now repository diskFails p timer.symbol).trans
      (GameSession.handleEnd_performs gs repository diskFails p .abandoned .playerAbandoned now).symm
    obtain ⟨hended, hidle⟩ : v.Follows (.windowFired p) u ∧ u.table.running = none :=
      follows_abandon hv hgame rfl hproposal hgameState
    refine hended.trans ?_
    rcases hroom with hsame | ⟨room, hroom, hremoved⟩
    · exact .of_same (RoomView.table_congr hsame rfl rfl)
    · by_cases hslot : getSlotByPlayerId room p = none
      · refine .of_same (RoomView.table_eq (v := u) hroom hremoved (fun x => ?_) ?_ rfl rfl)
        · rw [RoomView.removePlayer_of_stranger hslot]
          cases x <;> rfl
        · rw [RoomView.removePlayer_of_stranger hslot]
          rfl
      · exact .of_step (RoomView.table_removePlayer (hv.distinct _ hroom) hroom hslot hidle hremoved rfl rfl) .removed
  | @rematchFired gs room proposal hroom hgame hproposal hdue =>
    have hasked := hv.asked ((RoomView.proposal_of_game hgame).trans hproposal)
    rcases GameSession.expireRematch_cases gs room proposal.gameId with he | he | ⟨anyPlayer, he⟩
    · rw [he]
      exact .of_same (RoomView.table_congr rfl (RoomView.proposal_of_game hgame).symm (RoomView.state_of_game hgame).symm)
    · rw [he]
      exact .of_step (RoomView.table_lapsed hasked rfl rfl (RoomView.state_of_game hgame).symm) .lapse
    · rw [he]
      exact .of_step (RoomView.table_lapsed hasked rfl rfl (RoomView.state_of_game hgame).symm) .lapse

theorem counted (hv : v.Tidy) (h : RoomStep G now r lo hi v a sends v') :
    ∀ proposal, v'.proposal = some proposal → proposal.acceptedBy ≠ [] ∧ proposal.acceptedBy.Nodup := by
  intro proposal hproposal
  cases h.proposals with
  | same hsame => exact hv.counted proposal (hsame ▸ hproposal)
  | requested ha hroom hx hnone hfinished hstate hnew =>
    obtain rfl := Option.some.inj (hnew.symm.trans hproposal)
    exact ⟨List.cons_ne_nil _ _, List.nodup_singleton _⟩
  | @noted p g x room old ha hroom hx hold hfinished hstate hnew =>
    obtain rfl := Option.some.inj (hnew.symm.trans hproposal)
    have hmem : x ∈ JsSet.add old.acceptedBy x := JsSet.mem_add.mpr (Or.inl rfl)
    exact ⟨List.ne_nil_of_mem hmem, JsSet.nodup_add (hv.counted old hold).2⟩
  | accepted ha hroom hx hold hfinished hboth hnone =>
    cases hnone.symm.trans hproposal
  | declined ha hroom hx hsome hnone =>
    cases hnone.symm.trans hproposal
  | expired ha hsome hnone =>
    cases hnone.symm.trans hproposal

theorem decided (hk : ∀ gs, v.game = some gs → gs.roomId = r) (hv : v.Tidy) (h : RoomStep G now r lo hi v a sends v') :
    ∀ state, v'.state = some state →
      (state.status = .active ∧ state.result = none) ∨ (state.status = .finished ∧ state.result ≠ none) := by
  intro state hstate
  cases h.gameStep hk with
  | same hsame => exact hv.decided state (hsame ▸ hstate)
  | started hcause hlo hhi hroom hX hO hnew =>
    obtain rfl := Option.some.inj (hnew.symm.trans hstate)
    exact Or.inl ⟨rfl, rfl⟩
  | moved ha hold hmove hnew =>
    obtain rfl := Option.some.inj (hnew.symm.trans hstate)
    rcases hmove.outcome with ⟨hactive, hsame, -⟩ | ⟨result, hfinished, hresult, -⟩
    · refine Or.inl ⟨hactive, hsame.trans ?_⟩
      refine ((hv.decided _ hold).resolve_right fun hfinished => ?_).2
      cases hmove.active.symm.trans hfinished.1
    · exact Or.inr ⟨hfinished, hresult ▸ Option.some_ne_none result⟩
  | ended hend hold hactive hnew | failed hend hold hactive hnew =>
    obtain rfl := Option.some.inj (hnew.symm.trans hstate)
    obtain ⟨-, -, -, hfinished, result, hresult⟩ := hend.fields
    exact Or.inr ⟨hfinished, hresult ▸ Option.some_ne_none result⟩

theorem tidy (hk : ∀ gs, v.game = some gs → gs.roomId = r) (hnew : a = .created → v.game = none) (hv : v.Tidy)
    (h : RoomStep G now r lo hi v a sends v') : v'.Tidy where
  distinct := h.distinct hv.distinct
  seated := h.seated hk hv.distinct hnew hv.seated
  counted := h.counted hv
  decided := h.decided hk hv

end RoomStep

namespace Server
variable {s t : Server} {G : IdSource} {i : Input} {r : RoomId} {now : Millis} {version : String}
  {repository : HistoryRepository}

/-- All rooms are in order, and so are the seats. -/
structure Tidy (G : IdSource) (s : Server) : Prop where
  seats : s.Seats G
  rooms : ∀ r, (s.view r).Tidy

theorem start_tidy : (start now version repository).Tidy G where
  seats := start_seats now version repository
  rooms r := {
    distinct := (start_seats (G := G) now version repository).distinct r
    seated := (start_seats (G := G) now version repository).seated r
    counted := by
      intro proposal h
      cases h
    decided := by
      intro state h
      cases h }

theorem Tidy.step (hs : s.Tidy G) (hn : G.NeverRepeats) (h : s.step G i = some t) : t.Tidy G where
  seats := hs.seats.step hn h
  rooms r := by
    rcases step_view hs.seats.keyed h r with hview | ⟨a, hacts, -⟩
    · exact hview ▸ hs.rooms r
    · obtain ⟨sends, hroomStep, -⟩ := hacts.step
      exact hroomStep.tidy (hs.seats.keyed.view r) (fun ha => (hs.seats.created_fresh hn (ha ▸ hacts)).2) (hs.rooms r)

/-- A step of the server at the table that a room is. -/
theorem Tidy.table_step (hs : s.Tidy G) (hn : G.NeverRepeats) (h : s.step G i = some t) (r : RoomId) :
    ∃ log, Run (Table.Step tableRules) (s.view r).table log (t.view r).table ∧
      ∀ b ∈ log, ∃ a, s.Cause i r a ∧ a.Does b := by
  rcases step_view hs.seats.keyed h r with hview | ⟨a, hacts, hcause⟩
  · rw [hview]
    exact ⟨[], .nil, fun b hb => absurd hb List.not_mem_nil⟩
  · obtain ⟨sends, hroomStep, -⟩ := hacts.step
    have hnew : a = .created → (s.view r).room = none := fun ha => (hs.seats.created_fresh hn (ha ▸ hacts)).1
    obtain ⟨log, hrun, hdoes⟩ := hroomStep.follows (hs.rooms r) hnew
    exact ⟨log, hrun, fun b hb => ⟨a, hcause, hdoes b hb⟩⟩

theorem start_table : ((start now version repository).view r).table = Table.empty :=
  Table.State.ext rfl (Set.eq_empty_of_forall_notMem fun x ⟨room, hroom, _⟩ => by cases hroom)
    (RoomView.table_agreed_none rfl) rfl

end Server

open Server

/-- In every run each room is a table at which two players sit down and get up, get ready, play one match after another
by the rules of the game, and agree on rematches. A step of the server is there what its input stands for, or nothing. -/
theorem rooms_are_tables {G : IdSource} (hn : G.NeverRepeats) {C : Server → Input → Prop} {now : Millis}
    {version : String} {repository : HistoryRepository} {s : Server}
    (hrun : Runs G C (start now version repository) s) (r : RoomId) :
    (∃ log, Run (Table.Step tableRules) Table.empty log (s.view r).table) ∧
    ∀ i t, s.step G i = some t → ∃ log, Run (Table.Step tableRules) (s.view r).table log (t.view r).table ∧
      ∀ b ∈ log, ∃ a, s.Cause i r a ∧ a.Does b := by
  have hkeep : ∀ s t i, Tidy G s → s.step G i = some t → Tidy G t := fun s t i hs hstep => hs.step hn hstep
  have htidy : s.Tidy G := hrun.invariant start_tidy fun s t i hs _ hstep => hkeep s t i hs hstep
  refine ⟨?_, fun i t hstep => htidy.table_step hn hstep r⟩
  obtain ⟨log, hlog⟩ := Run.of_runs (f := fun s => (s.view r).table) hrun start_tidy hkeep fun s t i hs hstep =>
    let ⟨log, hlog, _⟩ := hs.table_step hn hstep r
    ⟨log, hlog⟩
  exact ⟨log, start_table (r := r) ▸ hlog⟩

/-- The table at which player 1 has won. -/
theorem rooms_are_tables_won : ∃ s m log, Runs tallies (fun _ _ => True) fresh s ∧
    Run (Table.Step tableRules) Table.empty log (s.view (tally 'r' 4)).table ∧
    (s.view (tally 'r' 4)).table.current = some m ∧ m.verdict = some (.won .X) := by
  have hcheck : (Transition.run (step tallies) (fun _ _ => true) fresh won).any (fun s =>
      (s.view (tally 'r' 4)).state.any fun state => state.result.any fun result =>
        result.outcome = .win ∧ result.winner = some .X) = true := by decide +kernel
  obtain ⟨s, hrun, hs⟩ := Transition.exists_run (C := fun _ _ => True) (fun _ _ _ => trivial) hcheck
  obtain ⟨state, hstate, hwon⟩ := (Option.any_eq_true _ _).mp hs
  obtain ⟨result, hresult, hboth⟩ := (Option.any_eq_true _ _).mp hwon
  obtain ⟨houtcome, hwinner⟩ := of_decide_eq_true hboth
  obtain ⟨⟨log, hlog⟩, -⟩ := rooms_are_tables tallies_neverRepeats hrun (tally 'r' 4)
  refine ⟨s, state.toMatch, log, hrun, hlog, RoomView.table_current hstate, ?_⟩
  have hverdict : result.verdict = .won .X := by
    unfold GameResult.verdict
    rw [houtcome, hwinner]
  exact (congrArg (Option.map GameResult.verdict) hresult).trans (congrArg some hverdict)

end TicTacToe

import TicTacToe.Theorems.RoomRecords
import TicTacToe.Theorems.Starts

/-! # Consent to a game

A ready mark is the holder's own: it is set by a `PLAYER_READY` of the player who holds the slot, and goes with the
player or with the start of a game. So ready marks start a game between players who have both asked for it. -/

namespace TicTacToe

/-- The player of a symbol in a started game. -/
def GameStart.player (game : GameStart) : PlayerSymbol → PlayerId
  | .X => game.playerX
  | .O => game.playerO

/-- Player `p` holds slot `x` of the room and is marked as ready. -/
def RoomView.Ready (v : RoomView) (x : PlayerSymbol) (p : PlayerId) : Prop :=
  ∃ room, v.room = some room ∧ x ∈ room.readySymbols ∧ slotHolds (room.slot x) p = true

section Steps
variable {G : IdSource} {now : Millis} {r : RoomId} {lo hi : Nat} {v v' : RoomView} {a : RoomAction}
  {sends : List SendCall} {x : PlayerSymbol} {p : PlayerId}

theorem ready_of_removed {room : RoomRecord} {q : PlayerId} (hd : room.Distinct) (hroom : v.room = some room)
    (hx : x ∈ (room.removePlayer now q).readySymbols) (hp : slotHolds ((room.removePlayer now q).slot x) p = true) :
    v.Ready x p := by
  obtain ⟨hold, hother⟩ := RoomRecord.mem_readySymbols_removePlayer hd hx
  rw [RoomRecord.removePlayer_slot hd, hother] at hp
  exact ⟨room, hroom, hold, hp⟩

theorem ready_of_connected {room : RoomRecord} {q : PlayerId} {b : Bool} (hd : room.Distinct) (hroom : v.room = some room)
    (hx : x ∈ (room.setConnected now q b).readySymbols) (hp : slotHolds ((room.setConnected now q b).slot x) p = true) :
    v.Ready x p := by
  refine ⟨room, hroom, RoomRecord.readySymbols_setConnected room now q b ▸ hx, ?_⟩
  rw [RoomRecord.setConnected_slot hd] at hp
  split at hp
  · rwa [slotHolds_setConnected] at hp
  · exact hp

/-- Only a `PLAYER_READY` of the holder marks a slot. -/
theorem RoomStep.readies (h : RoomStep G now r lo hi v a sends v') (hs : v.Sound) (hnew : v'.Ready x p) :
    a = .readied p ∨ v.Ready x p := by
  obtain ⟨room', hroom', hx, hp⟩ := hnew
  cases h with
  | idle | rejoined | rematchFired | leaveThrew | moved | moveThrew | readiedAgain =>
    exact Or.inr ⟨room', hroom', hx, hp⟩
  | created =>
    obtain rfl := Option.some.inj hroom'
    cases hx
  | @entered q room room₁ name symbol k hroom hslot hadd =>
    obtain rfl := Option.some.inj hroom'
    have hold : x ∈ room.readySymbols := RoomRecord.readySymbols_addPlayer hadd ▸ hx
    obtain ⟨hfree, hslots⟩ := RoomRecord.addPlayer_slot hadd
    have hne : x ≠ symbol := by
      rintro rfl
      exact (hs room hroom).occupied x hold hfree
    have hsame : (room₁.touch now).slot x = room.slot x := by
      have htouch : (room₁.touch now).slot x = room₁.slot x := by cases x <;> rfl
      rw [htouch, hslots, if_neg hne]
    exact Or.inr ⟨room, hroom, hold, hsame ▸ hp⟩
  | leftIdleRoom hroom | left hroom =>
    obtain rfl := Option.some.inj hroom'
    exact Or.inr (ready_of_removed (hs _ hroom).distinct hroom hx hp)
  | @readied q room symbol k hroom hsymbol hready hboth =>
    obtain rfl := Option.some.inj hroom'
    have hslot : (room.markReady symbol).slot x = room.slot x := by cases x <;> rfl
    rw [hslot] at hp
    rcases JsSet.mem_add.mp hx with rfl | hold
    · exact Or.inl (by rw [slotHolds_unique hp (RoomRecord.slotHolds_of_symbol hsymbol)])
    · exact Or.inr ⟨room, hroom, hold, hp⟩
  | startedReady =>
    obtain rfl := Option.some.inj hroom'
    cases hx
  | windowFired hgame htimer hdue hload hroom =>
    rcases hroom with hsame | ⟨room, hroom, hremoved⟩
    · exact Or.inr ⟨room', hsame.symm.trans hroom', hx, hp⟩
    · obtain rfl := Option.some.inj (hremoved.symm.trans hroom')
      exact Or.inr (ready_of_removed (hs _ hroom).distinct hroom hx hp)
  | reconnectedIdle hroom | reconnected hroom | disconnected hroom | windowArmed hroom =>
    obtain rfl := Option.some.inj hroom'
    exact Or.inr (ready_of_connected (hs _ hroom).distinct hroom hx hp)
  | @rematchRequested q room gs gameId hroom =>
    obtain rfl := Option.some.inj hroom'
    refine Or.inr ⟨room, hroom, ?_⟩
    rcases GameSession.handleRematchRequest_cases gs now room q gameId with he | ⟨_, -, -, -, he⟩
    · rw [he] at hx hp
      exact ⟨hx, hp⟩
    · rw [he] at hx hp
      exact ⟨hx, hp⟩
  | @rematchAccepted q room gs gameId unused n hroom =>
    obtain rfl := Option.some.inj hroom'
    refine Or.inr ⟨room, hroom, ?_⟩
    rcases GameSession.handleRematchAccept_cases gs now (unused, G.gameId n) room q gameId with
      he | ⟨_, _, _, -, -, -, -, -, ⟨-, he⟩ | ⟨-, he⟩⟩
    · rw [he] at hx hp
      exact ⟨hx, hp⟩
    · rw [he] at hx hp
      exact ⟨hx, hp⟩
    · rw [he] at hx
      cases hx
  | @rematchDeclined q room gs gameId hroom =>
    obtain rfl := Option.some.inj hroom'
    refine Or.inr ⟨room, hroom, ?_⟩
    rcases GameSession.handleRematchDecline_cases gs room q gameId with he | ⟨_, -, -, he⟩
    · rw [he] at hx hp
      exact ⟨hx, hp⟩
    · rw [he] at hx hp
      exact ⟨hx, hp⟩

/-- A game that a `PLAYER_READY` starts is one between its sender and the holder of the other slot, who is marked. -/
theorem RoomStep.started_ready {game : GameStart} (h : RoomStep G now r lo hi v (.readied p) sends v')
    (hstarted : game ∈ startedGames sends) :
    ∃ y, game.player y = p ∧ v.Ready (opponent y) (game.player (opponent y)) := by
  cases h with
  | readiedAgain | readied => cases hstarted
  | @startedReady p room symbol k n hroom hcount hsymbol hready hboth hlo hhi =>
    rcases GameSession.startGame_cases ((v.gameOrNew r).bump k) now (G.gameId n) (room.markReady symbol).resetReady
        (Server.readyFirstTurn v.state) with he | ⟨slotX, slotO, hX, hO, -⟩
    · rw [he] at hstarted
      cases hstarted
    rw [(GameSession.startGame_started _ now (G.gameId n) _ hX hO).2, List.mem_singleton] at hstarted
    subst hstarted
    have hheld : ∀ x, slotHolds (room.slot x) (((v.gameOrNew r).bump k).openingState now (G.gameId n) slotX slotO
        (Server.readyFirstTurn v.state) |>.asStart.player x) = true := by
      intro x
      cases x with
      | X => exact RoomRecord.slotHolds_iff.mpr ⟨slotX, hX, rfl⟩
      | O => exact RoomRecord.slotHolds_iff.mpr ⟨slotO, hO, rfl⟩
    have hmarked : opponent symbol ∈ (room.markReady symbol).readySymbols := by
      simp only [RoomRecord.bothReady, Bool.and_eq_true, decide_eq_true_eq] at hboth
      cases symbol with
      | X => exact hboth.2
      | O => exact hboth.1
    have hother : opponent symbol ≠ symbol := by cases symbol <;> decide
    refine ⟨symbol, slotHolds_unique (hheld symbol) (RoomRecord.slotHolds_of_symbol hsymbol), room, hroom, ?_, hheld _⟩
    exact (JsSet.mem_add.mp hmarked).resolve_left hother

/-- An accepted rematch starts a game after the finished game that it names. -/
theorem RoomStep.started_rematch {g : GameId} {game : GameStart}
    (h : RoomStep G now r lo hi v (.rematchAccepted p g) sends v') (hstarted : game ∈ startedGames sends) :
    ∃ state, v.state = some state ∧ state.status = .finished ∧ state.gameId = g := by
  cases h with
  | @rematchAccepted _ room gs _ unused n hroom hgame =>
    rcases GameSession.handleRematchAccept_cases gs now (unused, G.gameId n) room p g with
      he | ⟨state, _, _, hstate, hfinished, hid, -⟩
    · rw [he] at hstarted
      cases hstarted
    · exact ⟨state, (RoomView.state_of_game hgame).trans hstate, hfinished, hid⟩

end Steps

namespace Server
variable {s t : Server} {G : IdSource} {i : Input} {r : RoomId} {p : PlayerId} {x : PlayerSymbol}

theorem runs_rooms_sound {C : Server → Input → Prop} {now : Millis} {version : String} {repository : HistoryRepository}
    (h : Runs G C (start now version repository) s) : s.Keyed ∧ ∀ r, (s.view r).Sound := by
  refine h.invariant (P := fun s => s.Keyed ∧ ∀ r, (s.view r).Sound)
    ⟨start_keyed now version repository, fun r room hroom => ?_⟩ fun s t i hs _ hstep => ⟨hs.1.step hstep, fun r => ?_⟩
  · cases hroom
  · rcases step_view hs.1 hstep r with hview | ⟨a, hacts, -⟩
    · exact hview ▸ hs.2 r
    · obtain ⟨sends, hroomStep, -⟩ := hacts.step
      exact hroomStep.sound (hs.2 r)

/-- A new ready mark is set by a `PLAYER_READY` of the holder. -/
theorem step_ready (hk : s.Keyed) (hs : (s.view r).Sound) (h : s.step G i = some t) (hold : ¬(s.view r).Ready x p)
    (hnew : (t.view r).Ready x p) : ∃ id, s.Handles i ⟨id, .playerReady r⟩ p := by
  rcases step_view hk h r with hview | ⟨a, hacts, hcause⟩
  · rw [hview] at hnew
    exact absurd hnew hold
  · obtain ⟨sends, hstep, -⟩ := hacts.step
    obtain rfl := (hstep.readies hs hnew).resolve_right hold
    exact hcause

end Server

open Server

/-- A game is started by an `ACCEPT_REMATCH` for the room's finished game, or by a `PLAYER_READY` of one of its two
players. In that case the other one has sent `PLAYER_READY` before, and has been marked, and has held the slot, ever
since. -/
theorem started_by_both {G : IdSource} {C : Server → Input → Prop} {now : Millis} {version : String}
    {repository : HistoryRepository} {s t : Server} {i : Input} {r : RoomId}
    (hrun : Runs G C (start now version repository) s) (hstep : s.step G i = some t) (hstart : t.starts r ≠ s.starts r) :
    ∃ game, t.starts r = s.starts r ++ [game] ∧
      ((∃ id p state, s.Handles i ⟨id, .acceptRematch r state.gameId⟩ p ∧ s.gameState r = some state ∧
          state.status = .finished) ∨
        ∃ id p y, s.Handles i ⟨id, .playerReady r⟩ p ∧ game.player y = p ∧
          (s.view r).Ready (opponent y) (game.player (opponent y)) ∧
          ∃ u j v id, Runs G C (start now version repository) u ∧ C u j ∧ u.step G j = some v ∧
            Runs G (fun s i => C s i ∧ (s.view r).Ready (opponent y) (game.player (opponent y))) v s ∧
            u.Handles j ⟨id, .playerReady r⟩ (game.player (opponent y))) := by
  obtain ⟨hk, hs⟩ := runs_rooms_sound hrun
  rcases step_view hk hstep r with hview | ⟨a, hacts, hcause⟩
  · rcases step_starts hk hstep r with ⟨hsame, -⟩ | ⟨state, hnew, hfirst, -⟩
    · exact absurd hsame hstart
    · have hstate : t.gameState r = s.gameState r := by rw [← view_state, hview, view_state]
      rw [← hstate, hnew] at hfirst
      exact absurd hfirst (readyFirstTurn_ne state)
  obtain ⟨sends, hroomStep, hlog⟩ := hacts.step
  have hstarts := starts_append hlog
  cases hroomStep.starts (hk.view r) with
  | none hsame hnone =>
    rw [hnone, List.append_nil] at hstarts
    exact absurd hstarts hstart
  | @started state n hway hlo hhi hid hfirst hstate hsends =>
    have hmem : state.asStart ∈ startedGames sends := by rw [hsends]; exact List.mem_singleton_self _
    refine ⟨state.asStart, by rw [hstarts, hsends], ?_⟩
    rcases hway with ⟨p, rfl⟩ | ⟨p, g, rfl⟩
    · obtain ⟨id, hready⟩ := hcause
      obtain ⟨y, hy, hmarked⟩ := hroomStep.started_ready hmem
      refine Or.inr ⟨id, p, y, hready, hy, hmarked, ?_⟩
      -- The mark has been set in the run, and stands ever since it was set last.
      obtain ⟨u, j, v, hu, hc, huv, hv, hold, hnew⟩ :=
        hrun.brought_about (P := fun s => (s.view r).Ready (opponent y) (state.asStart.player (opponent y)))
          (by rintro ⟨room, hroom, -⟩; cases hroom) hmarked
      obtain ⟨hku, hsu⟩ := runs_rooms_sound hu
      obtain ⟨id', hready'⟩ := step_ready hku (hsu r) huv hold hnew
      exact ⟨u, j, v, id', hu, hc, huv, hv, hready'⟩
    · obtain ⟨id, haccept⟩ := hcause
      obtain ⟨before, hbefore, hfinished, rfl⟩ := hroomStep.started_rematch hmem
      exact Or.inl ⟨id, p, before, haccept, hbefore, hfinished⟩

/-- Player 3's `PLAYER_READY` in the opening, after that of player 1. -/
theorem started_by_both_opening : ∃ s t game, Runs tallies (fun _ _ => True) fresh s ∧
    s.step tallies (asks 2 "ready3" (.playerReady (tally 'r' 4))) = some t ∧
    t.starts (tally 'r' 4) = s.starts (tally 'r' 4) ++ [game] ∧
    ∃ id y u j id', s.Handles (asks 2 "ready3" (.playerReady (tally 'r' 4))) ⟨id, .playerReady (tally 'r' 4)⟩
        (game.player y) ∧
      Server.Handles u j ⟨id', .playerReady (tally 'r' 4)⟩ (game.player (opponent y)) := by
  have hcheck : (Transition.run (step tallies) (fun _ _ => true) fresh (opening.take 8)).any (fun s =>
      (s.gameState (tally 'r' 4)).isNone && (s.step tallies (asks 2 "ready3" (.playerReady (tally 'r' 4)))).any fun t =>
        t.starts (tally 'r' 4) ≠ s.starts (tally 'r' 4)) = true := by decide +kernel
  obtain ⟨s, hrun, hs⟩ := Transition.exists_run (C := fun _ _ => True) (fun _ _ _ => trivial) hcheck
  simp only [Bool.and_eq_true, Option.isNone_iff_eq_none, Option.any_eq_true, decide_eq_true_eq] at hs
  obtain ⟨hnone, t, hstep, hstart⟩ := hs
  obtain ⟨game, hstarts, hway⟩ := started_by_both hrun hstep hstart
  rcases hway with ⟨-, -, state, -, hstate, -⟩ | ⟨id, p, y, hready, rfl, -, u, j, _, id', _, _, _, _, hready'⟩
  · rw [hnone] at hstate
    cases hstate
  · exact ⟨s, t, game, hrun, hstep, hstarts, id, y, u, j, id', hready, hready'⟩

end TicTacToe

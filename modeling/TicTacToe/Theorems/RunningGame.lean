import TicTacToe.Theorems.Processing
import TicTacToe.Theorems.Seats

/-! # The players of a running game

While a game runs, its two players hold the slots of their symbols. A player who leaves forfeits the game
first, and nobody else gets a slot. -/

namespace TicTacToe

/-- The game that a leave has forfeited: the leaver held the slot of `x`. -/
structure ForfeitedBy (state : GameState) (x : PlayerSymbol) (t : Option GameState) : Prop where
  ended : ∃ state' result, t = some state' ∧ state'.gameId = state.gameId ∧ state'.status = .finished ∧
    state'.result = some result ∧ result.outcome = .forfeit ∧ result.winner = some (opponent x)

section Forfeit
variable {G : IdSource} {now : Millis} {r : RoomId} {lo hi : Nat} {v v' : RoomView} {a : RoomAction}
  {sends : List SendCall} {p : PlayerId} {state : GameState} {x : PlayerSymbol}

theorem resolveSymbol_of_seat (hne : state.playerX ≠ state.playerO)
    (hp : p = match x with | .X => state.playerX | .O => state.playerO) : resolveSymbol state p = some x := by
  cases x with
  | X => simp [resolveSymbol, hp]
  | O => simp [resolveSymbol, hp, Ne.symm hne]

theorem forfeitedBy_endGame (hp : resolveSymbol state p = some x) :
    ForfeitedBy state x (some (forfeit state ⟨p, now⟩).newState) :=
  ⟨_, _, rfl, rfl, rfl, rfl, rfl, by simp [buildEndResult, hp]⟩

/-- A leave during a game forfeits it, whether or not saving it throws. -/
theorem RoomStep.forfeits (h : RoomStep G now r lo hi v a sends v') (ha : a = .left p ∨ a = .leaveThrew p)
    (hstate : v.state = some state) (hactive : state.status = .active) :
    v'.state = some (forfeit state ⟨p, now⟩).newState := by
  have hend : ∀ (gs : GameSession) repository diskFails, v.game = some gs →
      (gs.handleForfeit now repository diskFails p).session.gameState = some (forfeit state ⟨p, now⟩).newState := by
    intro gs repository diskFails hgame
    have hgs : gs.gameState = some state := (RoomView.state_of_game hgame).symm.trans hstate
    rcases GameSession.handleEnd_cases gs repository diskFails p .forfeit .playerForfeited now with
      ⟨hidle, -⟩ | ⟨state', result, hstate', -, -, he⟩
    · simp [GameSession.isActive, hgs, hactive] at hidle
    · obtain rfl := Option.some.inj (hgs.symm.trans hstate')
      exact he.fields.2.1
  rcases ha with rfl | rfl
  · cases h with
    | leftIdleRoom hroom hslot hgame => simp [RoomView.state, hgame] at hstate
    | left hroom hslot hgame =>
      refine (RoomView.state_of_game rfl).trans ?_
      exact hend _ _ _ hgame
  · cases h with
    | leaveThrew hroom hslot hgame => exact (RoomView.state_of_game rfl).trans (hend _ _ _ hgame)

/-- With both slots taken, every slot keeps its holder or is freed. -/
theorem RoomStep.nobody_enters {room room' : RoomRecord} (h : RoomStep G now r lo hi v a sends v') (hd : v.Distinct)
    (ha : a ≠ .created) (hroom : v.room = some room) (hroom' : v'.room = some room')
    (hfull : ∀ y, room.slot y ≠ none) (hheld : slotHolds (room'.slot x) p = true) : slotHolds (room.slot x) p = true := by
  obtain ⟨room₀, hroom₀, hslots⟩ := h.slots hd ha hroom'
  obtain rfl := Option.some.inj (hroom.symm.trans hroom₀)
  cases hslots with
  | entered ha hnew hfree => exact absurd hfree (hfull _)
  | other ha hslot => exact slotHolds_of_slotAfter (hslot x ▸ hheld)
  | dead ha hsame => exact hsame ▸ hheld

end Forfeit

open Server

/-- In a live room with a running game both slots are taken, by the players of the game. A slot holder who leaves
loses the game, even when saving it throws, and whoever holds a slot after a step has held it before. -/
theorem running_game_seated {G : IdSource} (hn : G.NeverRepeats) {C : Server → Input → Prop} {now : Millis}
    {version : String} {repository : HistoryRepository} {s : Server} {r : RoomId} {room : RoomRecord}
    {state : GameState} (hrun : Runs G C (start now version repository) s) (hroom : s.getRoom r = some room)
    (hstate : s.gameState r = some state) (hactive : state.status = .active) :
    (∃ slotX slotO, room.playerX = some slotX ∧ slotX.playerId = state.playerX ∧
      room.playerO = some slotO ∧ slotO.playerId = state.playerO) ∧
    (∀ i t id p x, s.step G i = some t → s.Handles i ⟨id, .leaveRoom r⟩ p → getSymbolForPlayer room p = some x →
      ForfeitedBy state x (t.gameState r)) ∧
    ∀ i t room' p x, s.step G i = some t → t.getRoom r = some room' → slotHolds (room'.slot x) p = true →
      slotHolds (room.slot x) p = true := by
  have hs := runs_seats hn hrun
  have hview : (s.view r).room = some room := view_room_of_getRoom hroom
  obtain ⟨room₀, hroom₀, hX, hO⟩ := hs.seated r state hstate hactive
  obtain rfl := Option.some.inj (hview.symm.trans hroom₀)
  obtain ⟨slotX, hslotX, hpX⟩ := RoomRecord.slotHolds_iff.mp hX
  obtain ⟨slotO, hslotO, hpO⟩ := RoomRecord.slotHolds_iff.mp hO
  refine ⟨⟨slotX, slotO, hslotX, hpX, hslotO, hpO⟩, fun i t id p x hstep hleave hx => ?_,
    fun i t room' p x hstep hroom' hheld => ?_⟩
  · have hheld := RoomRecord.slotHolds_of_symbol hx
    have hslot : getSlotByPlayerId room p ≠ none := fun hnone => by
      rw [RoomRecord.getSymbolForPlayer_none.mpr hnone] at hx
      cases hx
    -- Nobody plays against oneself, as nobody holds both slots.
    have hne : state.playerX ≠ state.playerO := by
      intro heq
      have hother := hs.distinct r room hview _ (heq ▸ hX)
      rw [hO] at hother
      cases hother
    have hp : resolveSymbol state p = some x := by
      refine resolveSymbol_of_seat hne ?_
      cases x with
      | X => exact slotHolds_unique hheld hX
      | O => exact slotHolds_unique hheld hO
    have hend : t.gameState r = some (forfeit state ⟨p, s.now⟩).newState := by
      rcases hleave.leaves hs.keyed hstep hroom hslot with hacts | hacts
      · obtain ⟨sends, hroomStep, -⟩ := hacts.step
        exact hroomStep.forfeits (Or.inl rfl) hstate hactive
      · obtain ⟨sends, hroomStep, -⟩ := hacts.step
        exact hroomStep.forfeits (Or.inr rfl) hstate hactive
    rw [hend]
    exact forfeitedBy_endGame hp
  · have hview' : (t.view r).room = some room' := view_room_of_getRoom hroom'
    rcases step_view hs.keyed hstep r with hsame | ⟨a, hacts, -⟩
    · rw [hsame] at hview'
      obtain rfl := Option.some.inj (hview.symm.trans hview')
      exact hheld
    · obtain ⟨sends, hroomStep, -⟩ := hacts.step
      have ha : a ≠ .created := by
        rintro rfl
        have hfresh := (hs.created_fresh hn hacts).1
        rw [hview] at hfresh
        cases hfresh
      refine hroomStep.nobody_enters (hs.distinct r) ha hview hview' (fun y => ?_) hheld
      cases y with
      | X => simp [RoomRecord.slot, hslotX]
      | O => simp [RoomRecord.slot, hslotO]

/-- The game that the opening has started. -/
theorem running_game_seated_opening : ∃ s room state, Runs tallies (fun _ _ => True) fresh s ∧
    s.getRoom (tally 'r' 4) = some room ∧ s.gameState (tally 'r' 4) = some state ∧ state.status = .active ∧
    ∃ slotX slotO, room.playerX = some slotX ∧ slotX.playerId = state.playerX ∧
      room.playerO = some slotO ∧ slotO.playerId = state.playerO := by
  have hcheck : (Transition.run (step tallies) (fun _ _ => true) fresh opening).any (fun s =>
      (s.getRoom (tally 'r' 4)).isSome && (s.gameState (tally 'r' 4)).any fun state => state.status = .active) = true := by
    decide +kernel
  obtain ⟨s, hrun, hs⟩ := Transition.exists_run (C := fun _ _ => True) (fun _ _ _ => trivial) hcheck
  simp only [Bool.and_eq_true, Option.isSome_iff_exists, Option.any_eq_true, decide_eq_true_eq] at hs
  obtain ⟨⟨room, hroom⟩, state, hstate, hactive⟩ := hs
  exact ⟨s, room, state, hrun, hroom, hstate, hactive,
    (running_game_seated tallies_neverRepeats hrun hroom hstate hactive).1⟩

end TicTacToe

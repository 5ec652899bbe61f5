import TicTacToe.Theorems.Seats

/-! # Reconnect windows

A pending window belongs to a player who holds a disconnected slot, as long as nobody leaves with a window
pending: `LEAVE_ROOM` does not cancel it. -/

namespace TicTacToe

namespace RoomView

/-- The player holds a slot of the room that is not connected. -/
def Absent (v : RoomView) (p : PlayerId) : Prop := ∃ slot, v.slotOf p = some slot ∧ slot.connected = false

theorem Absent.holds {v : RoomView} {p : PlayerId} (h : v.Absent p) : v.Holds p := by
  obtain ⟨slot, hslot, -⟩ := h
  exact holds_iff.mpr (by simp [hslot])

/-- A slot of the room, by its symbol. -/
theorem absent_iff {v : RoomView} {p : PlayerId} (hd : v.Distinct) :
    v.Absent p ↔ ∃ room x slot, v.room = some room ∧ room.slot x = some slot ∧ slot.playerId = p ∧
      slot.connected = false := by
  constructor
  · rintro ⟨slot, hslot, hconnected⟩
    obtain ⟨room, hroom, hslot⟩ := Option.bind_eq_some_iff.mp hslot
    obtain ⟨hp, x, hx⟩ := RoomRecord.getSlotByPlayerId_some hslot
    exact ⟨room, x, slot, hroom, hx, hp, hconnected⟩
  · rintro ⟨room, x, slot, hroom, hx, hp, hconnected⟩
    refine ⟨slot, (slotOf_of_room hroom p).trans ?_, hconnected⟩
    exact RoomRecord.getSlotByPlayerId_of_slot (hd room hroom) hx hp

end RoomView

/-- A disconnected slot stays one until its player comes back or goes. -/
theorem slotAfter_absent {now : Millis} {a : RoomAction} {slot : PlayerSlot} (hconnected : slot.connected = false)
    (hleft : a ≠ .left slot.playerId) (hfired : a ≠ .windowFired slot.playerId)
    (hback : a ≠ .reconnected slot.playerId) :
    ∃ slot', slotAfter now a (some slot) = some slot' ∧ slot'.playerId = slot.playerId ∧ slot'.connected = false := by
  have hheld : ∀ {p}, slotHolds (some slot) p = true → slot.playerId = p := fun h => by simpa [slotHolds] using h
  unfold slotAfter
  split
  · split
    · rename_i h
      exact absurd (hheld h ▸ rfl) hleft
    · exact ⟨slot, rfl, rfl, hconnected⟩
  · split
    · rename_i h
      exact absurd (hheld h ▸ rfl) hfired
    · exact ⟨slot, rfl, rfl, hconnected⟩
  · split
    · rename_i h
      exact absurd (hheld h ▸ rfl) hback
    · exact ⟨slot, rfl, rfl, hconnected⟩
  · split
    · exact ⟨_, rfl, rfl, rfl⟩
    · exact ⟨slot, rfl, rfl, hconnected⟩
  · exact ⟨slot, rfl, rfl, hconnected⟩

namespace RoomStep
variable {G : IdSource} {now : Millis} {r : RoomId} {lo hi : Nat} {v v' : RoomView} {a : RoomAction}
  {sends : List SendCall} {p q : PlayerId}

theorem absent (h : RoomStep G now r lo hi v a sends v') (hd : v.Distinct) (ha : a ≠ .created) (hq : v.Absent q)
    (hleft : a ≠ .left q) (hfired : a ≠ .windowFired q) (hback : a ≠ .reconnected q) : v'.Absent q := by
  obtain ⟨room, x, slot, hroom, hx, rfl, hconnected⟩ := (RoomView.absent_iff hd).mp hq
  obtain ⟨room', hroom'⟩ := Option.ne_none_iff_exists'.mp (h.keeps.1 (by simp [hroom]))
  obtain ⟨room₀, hroom₀, hslots⟩ := h.slots hd ha hroom'
  obtain rfl := Option.some.inj (hroom.symm.trans hroom₀)
  refine (RoomView.absent_iff (h.distinct hd)).mpr ?_
  cases hslots with
  | @entered p name symbol ha hnew hfree hslot =>
    have hne : x ≠ symbol := by
      rintro rfl
      rw [hfree] at hx
      cases hx
    exact ⟨room', x, slot, hroom', (hslot x).trans (by rw [if_neg hne, hx]), rfl, hconnected⟩
  | other ha hslot =>
    obtain ⟨slot', hslot', hp, hconnected'⟩ := slotAfter_absent hconnected hleft hfired hback
    exact ⟨room', x, slot', hroom', (hslot x).trans (hx ▸ hslot'), hp, hconnected'⟩
  | dead ha he => exact ⟨room', x, slot, hroom', he ▸ hx, rfl, hconnected⟩

theorem disconnected_absent (h : RoomStep G now r lo hi v (.disconnected q) sends v') (hd : v.Distinct)
    (hq : v.Holds q) : v'.Absent q := by
  obtain ⟨room, x, hroom, hx⟩ := hq
  obtain ⟨room', hroom'⟩ := Option.ne_none_iff_exists'.mp (h.keeps.1 (by simp [hroom]))
  obtain ⟨room₀, hroom₀, hslots⟩ := h.slots hd (by simp) hroom'
  obtain rfl := Option.some.inj (hroom.symm.trans hroom₀)
  refine (RoomView.absent_iff (h.distinct hd)).mpr ?_
  cases hslots with
  | entered ha => cases ha
  | other ha hslot =>
    obtain ⟨slot, hslot', rfl⟩ := RoomRecord.slotHolds_iff.mp hx
    refine ⟨room', x, { slot with connected := false, lastSeenAt := now }, hroom', ?_, rfl, rfl⟩
    rw [hslot x, slotAfter, if_pos hx, hslot', Option.map_some]
  | dead ha => cases ha

end RoomStep

/-- A `LEAVE_ROOM` from a player who holds a slot and for whom a window is pending. -/
def Server.leavesWindow (s : Server) (i : Input) : Bool :=
  match s.processed i with
  | some (⟨_, .leaveRoom r⟩, p) => (s.slot r p).isSome && (s.window r p).isSome
  | _ => false

namespace Server
variable {s t : Server} {r : RoomId} {G : IdSource} {p : PlayerId} {a : RoomAction} {i : Input}

/-- Windows are pending for players who hold a disconnected slot only. -/
def WindowsHeld (s : Server) : Prop := ∀ r p, (s.view r).pending p ≠ none → (s.view r).Absent p

theorem leavesWindow_of_left (h : Acts G s t r (.left p)) (hcause : s.Cause i r (.left p))
    (hpending : (s.view r).pending p ≠ none) (habsent : (s.view r).Absent p) : s.leavesWindow i = true := by
  obtain ⟨id, hhandles⟩ := hcause
  obtain ⟨slot, hslot, -⟩ := habsent
  obtain ⟨timer, htimer⟩ := Option.ne_none_iff_exists'.mp hpending
  have hs : s.slot r p = some slot := (h.slots rfl p).1.trans hslot
  have hw : s.window r p = some timer := htimer
  simp [leavesWindow, hhandles.processed rfl, hs, hw]

theorem WindowsHeld.step (hw : s.WindowsHeld) (hs : s.Seats G) (hn : G.NeverRepeats)
    (hi : s.leavesWindow i = false) (h : s.step G i = some t) : t.WindowsHeld := by
  rcases step_acts hs.keyed h with ⟨elapsed, -, rfl⟩ | ⟨r, a, hacts, hcause⟩
  · exact hw
  intro r' q hpending
  by_cases hr : r' = r
  swap
  · rw [hacts.other r' hr] at hpending ⊢
    exact hw r' q hpending
  subst hr
  obtain ⟨sends, hstep, -⟩ := hacts.step
  have hd := hs.distinct r'
  cases hstep.windows q with
  | cleared ha hnone => exact absurd hnone hpending
  | armed ha hactive harmed =>
    subst ha
    obtain ⟨⟨token, session, hsession, rfl, hroom⟩, -⟩ := hacts.session hn hs.issuing
    exact hstep.disconnected_absent hd (hs.session token session r' hsession hroom)
  | same hback hfired harmed hsame =>
    have hold : (s.view r').pending q ≠ none := hsame ▸ hpending
    have habsent := hw r' q hold
    refine hstep.absent hd ?_ habsent ?_ hfired hback
    · rintro rfl
      obtain ⟨room, x, hroom, -⟩ := habsent.holds
      rw [(hs.created_fresh hn hacts).1] at hroom
      cases hroom
    · rintro rfl
      rw [leavesWindow_of_left hacts hcause hold habsent] at hi
      cases hi

/-- Every game satisfies the invariants of the engine. -/
def GamesConsistent (s : Server) : Prop := ∀ r state, s.gameState r = some state → Consistent state

theorem GamesConsistent.step (hc : s.GamesConsistent) (hs : s.Seats G) (hw : s.WindowsHeld)
    (h : s.step G i = some t) : t.GamesConsistent := by
  intro r state' hstate'
  rcases step_game hs.keyed h r with hview | ⟨a, sends, -, -, -, hgame⟩
  · exact hc r state' ((congrArg RoomView.state hview).symm.trans hstate')
  have hended : ∀ {state t}, EndsBy s.now (s.view r) state a t → s.gameState r = some state →
      state.status = .active → Consistent t := by
    intro state t hend hstate hactive
    have hold := hc r state hstate
    cases hend with
    | move ha hid hmove => exact hmove.state ▸ applyMove_consistent hold _
    | forfeit ha hroom hslot =>
      have hheld : (s.view r).Holds _ := RoomView.holds_iff.mpr (by rwa [RoomView.slotOf_of_room hroom])
      exact endGame_consistent hold (Or.inl rfl) ((hs.seated r).player hstate hactive hheld) s.now
    | @abandon p gs timer ha hgame htimer =>
      have hheld := (hw r p (by simp [RoomView.pending_of_game hgame, htimer])).holds
      exact endGame_consistent hold (Or.inr rfl) ((hs.seated r).player hstate hactive hheld) s.now
  cases hgame with
  | same hsame => exact hc r state' (hsame.symm.trans hstate')
  | started hcause hlo hhi hroom hX hO hstarted =>
    obtain rfl := Option.some.inj (hstarted.symm.trans hstate')
    exact startGame_consistent _
  | moved ha hstate hmove hmoved =>
    obtain rfl := Option.some.inj (hmoved.symm.trans hstate')
    exact hmove.state ▸ applyMove_consistent (hc r _ hstate) _
  | ended hend hstate hactive hnew | failed hend hstate hactive hnew =>
    obtain rfl := Option.some.inj (hnew.symm.trans hstate')
    exact hended hend hstate hactive

/-- The window of `p` has ended the game `state` of room `r`: the player held a disconnected slot in it, and the other
player of the game is announced and recorded as the winner. -/
structure EndedByWindow (s t : Server) (r : RoomId) (p : PlayerId) (state : GameState) (symbol : PlayerSymbol)
    (slot : PlayerSlot) (state' : GameState) (result : GameResult) : Prop where
  player : resolveSymbol state p = some symbol
  holds : (s.rooms.object r).bind (fun room => getSlotByPlayerId room p) = some slot
  absent : slot.connected = false
  ended : t.gameState r = some state'
  gameId : state'.gameId = state.gameId
  hasResult : state'.result = some result
  outcome : result.outcome = .abandoned
  winner : result.winner = some (opponent symbol)
  announced : ∃ q seq, (r, ⟨.broadcast, q, .room (GameSession.finishedEvent r state' result seq)⟩) ∈ t.sendLog
  recorded : ∃ gs gs', s.gameSessions.get r = some gs ∧ t.gameSessions.get r = some gs' ∧
    (state.gameId ∈ gs.completedGames.map (·.gameId) ∧ gs'.completedGames = gs.completedGames ∨
      gs'.completedGames = GameSession.recordOf state' result :: gs.completedGames)

/-- What a window does that expires during a game. -/
theorem ended_by_window {state : GameState} {diskFails : Bool} (hs : s.Seats G) (hw : s.WindowsHeld)
    (h : s.step G (.reconnectWindow r p diskFails) = some t) (hstate : s.gameState r = some state)
    (hactive : state.status = .active) :
    ∃ symbol slot state' result, EndedByWindow s t r p state symbol slot state' result := by
  have hacts : Acts G s t r (.windowFired p) := reconnectWindow_acts hs.keyed h
  obtain ⟨sends, hstep, hlog⟩ := hacts.step
  have hpending : (s.view r).pending p ≠ none := by
    generalize t.view r = v' at hstep
    cases hstep with
    | windowFired hgame htimer => simp [RoomView.pending_of_game hgame, htimer]
  obtain ⟨slot, hslot, habsent⟩ := hw r p hpending
  have hplayer := (hs.seated r).player hstate hactive (hw r p hpending).holds
  obtain ⟨symbol, hsymbol⟩ : ∃ symbol, resolveSymbol state p = some symbol := by
    unfold resolveSymbol
    split
    · exact ⟨.X, rfl⟩
    · rename_i hX
      exact ⟨.O, if_pos (hplayer.resolve_left hX)⟩
  have hended := hstep.inactive_of_removed (Or.inr rfl)
  cases hstep.gameStep (hs.keyed.view r) with
  | same hsame =>
    rw [RoomView.active_iff.mpr ⟨state, hsame.trans hstate, hactive⟩] at hended
    cases hended
  | started hcause =>
    rcases hcause with ⟨q, room, ha, -⟩ | ⟨⟨q, gameId, ha⟩, -⟩ <;> cases ha
  | moved ha => cases ha
  | failed hend hold ha hnew hthrew =>
    rcases hthrew with ⟨q, ha⟩ | ⟨q, id, gameId, position, ha⟩ <;> cases ha
  | ended hend hold ha hnew hresult hrecorded =>
    obtain rfl := Option.some.inj (hstate.symm.trans hold)
    obtain ⟨gs, hgs, -⟩ := Option.bind_eq_some_iff.mp hstate
    obtain ⟨gs', hgs', -⟩ := Option.bind_eq_some_iff.mp hnew
    obtain ⟨q, seq, hsent⟩ := hrecorded.announced
    have hid := hend.fields.1
    cases hend with
    | move ha => rcases ha with ha | ha <;> cases ha
    | forfeit ha => rcases ha with ha | ha <;> cases ha
    | abandon ha =>
      cases ha
      obtain rfl := Option.some.inj (show some (buildEndResult .abandoned .playerAbandoned
        ((resolveSymbol state p).map opponent) none s.now) = some _ from hresult)
      refine ⟨symbol, slot, _, _, hsymbol, hslot, habsent, hnew, hid, hresult, rfl, ?_, ⟨q, seq, ?_⟩, gs, gs', hgs,
        hgs', ?_⟩
      · simp [buildEndResult, hsymbol]
      · rw [hlog]
        exact List.mem_append_right _ (List.mem_map.mpr ⟨_, hsent, rfl⟩)
      · have hc := RoomView.completed_of_game (v := s.view r) hgs
        have hc' := RoomView.completed_of_game (v := t.view r) hgs'
        rw [← hc, ← hc', ← hid]
        exact hrecorded.records.imp (fun h => ⟨h.1, h.2.1⟩) fun h => h.2.1

end Server

open Server in
/-- In a run in which nobody leaves with a window pending, a window ends its own player's game only, and every game
satisfies the invariants of the engine. -/
theorem window_ends_own_game {G : IdSource} (hn : G.NeverRepeats) {now : Millis} {version : String}
    {repository : HistoryRepository} {s : Server}
    (hrun : Runs G (fun s i => s.leavesWindow i = false) (start now version repository) s) :
    (∀ r p diskFails t state, s.step G (.reconnectWindow r p diskFails) = some t → s.gameState r = some state →
      state.status = .active → ∃ symbol slot state' result, EndedByWindow s t r p state symbol slot state' result) ∧
    ∀ r state, s.gameState r = some state → verifyInvariants state = [] := by
  have hinv : s.Seats G ∧ s.WindowsHeld ∧ s.GamesConsistent := by
    refine hrun.invariant (P := fun s => s.Seats G ∧ s.WindowsHeld ∧ s.GamesConsistent)
      ⟨start_seats now version repository, fun r p h => ?_, fun r state h => ?_⟩ fun s t i hs hi hstep => ?_
    · simp [RoomView.pending, view, start] at h
    · simp [gameState, start] at h
    · obtain ⟨hseats, hwindows, hgames⟩ := hs
      exact ⟨hseats.step hn hstep, hwindows.step hseats hn hi hstep, hgames.step hseats hwindows hstep⟩
  obtain ⟨hseats, hwindows, hgames⟩ := hinv
  refine ⟨fun r p diskFails t state hstep hstate hactive => ?_, fun r state hstate => ?_⟩
  · exact ended_by_window hseats hwindows hstep hstate hactive
  · exact verifyInvariants_eq_nil_iff.mpr (hgames r state hstate)

open Server

/-- The window of player 1, who drops out of the game of the opening and does not come back. -/
theorem window_ends_own_game_opening : ∃ s t state symbol slot state' result,
    Runs tallies (fun s i => s.leavesWindow i = false) fresh s ∧
    s.step tallies (.reconnectWindow (tally 'r' 4) (tally 'p' 1) false) = some t ∧
    EndedByWindow s t (tally 'r' 4) (tally 'p' 1) state symbol slot state' result ∧ verifyInvariants state = [] := by
  let fired := Input.reconnectWindow (tally 'r' 4) (tally 'p' 1) false
  have hcheck : (Transition.run (step tallies) (fun s i => !s.leavesWindow i) fresh
      (opening ++ [.socketClosed (tally 'c' 0), .tick 300000])).any (fun s => (s.step tallies fired).isSome &&
        (s.gameState (tally 'r' 4)).any fun state => state.status = .active) = true := by decide +kernel
  obtain ⟨s, hrun, hs⟩ := Transition.exists_run (fun s i h => by simpa using h) hcheck
  simp only [Bool.and_eq_true, Option.any_eq_true, decide_eq_true_eq] at hs
  obtain ⟨hfires, state, hstate, hactive⟩ := hs
  obtain ⟨t, ht⟩ := Option.isSome_iff_exists.mp hfires
  obtain ⟨hends, hvalid⟩ := window_ends_own_game tallies_neverRepeats hrun
  obtain ⟨symbol, slot, state', result, hended⟩ := hends _ _ _ _ _ ht hstate hactive
  exact ⟨s, t, state, symbol, slot, state', result, hrun, ht, hended, hvalid _ _ hstate⟩

/-- Player 1 drops out of the opening's game, comes back with a new connection only to leave, and another player takes
the slot. The window of player 1 ends the game that the others have started, and nobody wins it. -/
def leftWithWindow : List Input :=
  opening ++ [.socketClosed (tally 'c' 0), .connect, asks 6 "auth1again" (.auth (some (tally 't' 1))),
    asks 6 "leave1" (.leaveRoom (tally 'r' 4)), .connect, asks 7 "auth8" (.auth none),
    asks 7 "join8" (.joinRoom (tally 'r' 4) none), asks 7 "ready8" (.playerReady (tally 'r' 4)),
    asks 2 "ready3again" (.playerReady (tally 'r' 4)), .tick 300000]

theorem stale_window_ends_game : ∃ s t state state' result, Runs tallies (fun _ _ => True) fresh s ∧
    s.step tallies (.reconnectWindow (tally 'r' 4) (tally 'p' 1) false) = some t ∧
    s.gameState (tally 'r' 4) = some state ∧ state.status = .active ∧ resolveSymbol state (tally 'p' 1) = none ∧
    t.gameState (tally 'r' 4) = some state' ∧ state'.gameId = state.gameId ∧ state'.result = some result ∧
    result.outcome = .abandoned ∧ result.winner = none ∧ verifyInvariants state' ≠ [] := by
  have hcheck : (Transition.run (step tallies) (fun _ _ => true) fresh leftWithWindow).any (fun s =>
      (s.step tallies (.reconnectWindow (tally 'r' 4) (tally 'p' 1) false)).any fun t =>
        (s.gameState (tally 'r' 4)).any fun state => (t.gameState (tally 'r' 4)).any fun state' =>
          state'.result.any fun result => state.status = .active && resolveSymbol state (tally 'p' 1) = none &&
            state'.gameId = state.gameId && result.outcome = .abandoned && result.winner = none &&
            verifyInvariants state' ≠ []) = true := by decide +kernel
  obtain ⟨s, hrun, hs⟩ := Transition.exists_run (C := fun _ _ => True) (fun _ _ _ => trivial) hcheck
  simp only [Bool.and_eq_true, Option.any_eq_true, decide_eq_true_eq] at hs
  obtain ⟨t, ht, state, hstate, state', hstate', result, hresult,
    ⟨⟨⟨⟨hactive, hnone⟩, hid⟩, houtcome⟩, hwinner⟩, hinv⟩ := hs
  exact ⟨s, t, state, state', result, hrun, ht, hstate, hactive, hnone, hstate', hid, hresult, houtcome, hwinner, hinv⟩

end TicTacToe

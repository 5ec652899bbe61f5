import TicTacToe.Theorems.Runs

/-! # A running game is kept

A game that runs is replaced only by a `PLAYER_READY` that completes the ready marks, which the handler
accepts during a game as well. -/

namespace TicTacToe

/-- A `PLAYER_READY` that completes the ready marks of a room whose game is running. -/
def Server.restartsGame (s : Server) (i : Input) : Bool :=
  match s.processed i with
  | some (⟨_, .playerReady r⟩, p) =>
    (s.gameState r).any (·.status = .active) && (s.getRoom r).any fun room => room.lastReady p
  | _ => false

namespace Server
variable {s t : Server} {G : IdSource} {i : Input} {r : RoomId}

/-- No game waits: a session has no game, a running one or a finished one. -/
def Played (s : Server) : Prop := ∀ r state, s.gameState r = some state → state.status ≠ .waiting

theorem Played.step (hp : s.Played) (hk : s.Keyed) (h : s.step G i = some t) : t.Played := by
  intro r state hstate
  rcases step_game hk h r with hview | ⟨a, sends, -, -, -, hgame⟩
  · exact hp r state ((congrArg RoomView.state hview).symm.trans hstate)
  · cases hgame with
    | same hsame => exact hp r state (hsame.symm.trans hstate)
    | started hcause hlo hhi hroom hX hO hnew =>
      obtain rfl := Option.some.inj (hnew.symm.trans hstate)
      exact nofun
    | moved ha hold hmove hnew =>
      obtain rfl := Option.some.inj (hnew.symm.trans hstate)
      rcases hmove.outcome with ⟨hactive, -⟩ | ⟨_, hfinished, -⟩
      · simp [hactive]
      · simp [hfinished]
    | ended hend hold hactive hnew | failed hend hold hactive hnew =>
      obtain rfl := Option.some.inj (hnew.symm.trans hstate)
      simp [hend.fields.2.2.2.1]

/-- A step that starts a game while another one runs is a restart. -/
theorem restartsGame_of_started {a : RoomAction} {state : GameState} (hacts : Acts G s t r a) (hcause : s.Cause i r a)
    (hstate : s.gameState r = some state) (hactive : state.status = .active)
    (hstart : (∃ p room, a = .readied p ∧ (s.view r).room = some room ∧ room.lastReady p = true) ∨
      (∃ p gameId, a = .rematchAccepted p gameId) ∧ ∃ state, (s.view r).state = some state ∧ state.status = .finished) :
    s.restartsGame i = true := by
  rcases hstart with ⟨p, room, rfl, hroom, hlast⟩ | ⟨-, other, hother, hfinished⟩
  · obtain ⟨id, live, hprocessed, hlive, hview⟩ := hacts.readied hcause
    obtain rfl := Option.some.inj (hroom.symm.trans hview)
    simp [restartsGame, hprocessed, hstate, hactive, hlive, hlast]
  · obtain rfl := Option.some.inj (hstate.symm.trans hother)
    rw [hactive] at hfinished
    cases hfinished

/-- What a step that does not restart it does to a running game. -/
theorem active_game_step (hk : s.Keyed) (h : s.step G i = some t) (hi : s.restartsGame i = false) {state : GameState}
    (hstate : s.gameState r = some state) (hactive : state.status = .active) :
    ∃ state', t.gameState r = some state' ∧ state'.gameId = state.gameId ∧
      (state'.status = .active ∨ state'.status = .finished ∧ (i.diskFails = false →
        (∃ sends, t.sendLog = s.sendLog ++ sends.map (r, ·) ∧ finishedGames sends = [state.gameId]) ∧
        state.gameId ∈ (t.view r).completed.map (·.gameId))) := by
  rcases step_game hk h r with hview | ⟨a, sends, hacts, hcause, hlog, hgame⟩
  · exact ⟨state, (congrArg RoomView.state hview).trans hstate, rfl, Or.inl hactive⟩
  · cases hgame with
    | same hsame => exact ⟨state, hsame.trans hstate, rfl, Or.inl hactive⟩
    | started hstart =>
      exact nomatch hi.symm.trans (restartsGame_of_started hacts hcause hstate hactive hstart)
    | moved ha hold hmove hnew =>
      obtain rfl := Option.some.inj (hold.symm.trans hstate)
      rcases hmove.outcome with ⟨ha, -⟩ | ⟨_, -, -, -, -, -, hended⟩
      · exact ⟨_, hnew, hmove.gameId, Or.inl ha⟩
      · cases hended
    | ended hend hold ha hnew hresult hrecorded =>
      obtain rfl := Option.some.inj (hold.symm.trans hstate)
      obtain ⟨hid, -, -, hfinished, -⟩ := hend.fields
      refine ⟨_, hnew, hid, Or.inr ⟨hfinished, fun _ => ⟨⟨sends, hlog, hid ▸ hrecorded.once⟩, ?_⟩⟩⟩
      rcases hrecorded.records with ⟨hknown, hsame, -⟩ | ⟨-, hnewRecord, -⟩
      · rw [hsame, ← hid]
        exact hknown
      · rw [hnewRecord, ← hid]
        exact List.mem_cons_self
    | failed hend hold ha hnew hthrew =>
      obtain rfl := Option.some.inj (hold.symm.trans hstate)
      obtain ⟨hid, -, -, hfinished, -⟩ := hend.fields
      refine ⟨_, hnew, hid, Or.inr ⟨hfinished, fun hdisk => ?_⟩⟩
      rcases hthrew with ⟨p, rfl⟩ | ⟨p, id, gameId, position, rfl⟩
      · exact nomatch hdisk.symm.trans hcause.1
      · exact nomatch hdisk.symm.trans hcause.1

end Server

open Server in
/-- In a run without restarts a running game stays the room's game until it has finished, and then its end is
broadcast and recorded; only a finished game is replaced by another one. -/
theorem active_game_kept {G : IdSource} {now : Millis} {version : String} {repository : HistoryRepository}
    {s t : Server} {i : Input} {r : RoomId}
    (hrun : Runs G (fun s i => s.restartsGame i = false) (start now version repository) s)
    (hi : s.restartsGame i = false) (hstep : s.step G i = some t) {state : GameState}
    (hstate : s.gameState r = some state) :
    (state.status = .active → ∃ state', t.gameState r = some state' ∧ state'.gameId = state.gameId ∧
      (state'.status = .active ∨ state'.status = .finished ∧ (i.diskFails = false →
        (∃ sends, t.sendLog = s.sendLog ++ sends.map (r, ·) ∧ finishedGames sends = [state.gameId]) ∧
        ∃ gs, t.gameSessions.get r = some gs ∧ state.gameId ∈ gs.completedGames.map (·.gameId)))) ∧
    ∀ state', t.gameState r = some state' → state'.gameId ≠ state.gameId → state.status = .finished := by
  have hinv : s.Keyed ∧ s.Played := by
    refine hrun.invariant (P := fun s => s.Keyed ∧ s.Played) ⟨start_keyed _ _ _, fun r state h => ?_⟩
      fun s t i hs _ hstep => ⟨hs.1.step hstep, hs.2.step hs.1 hstep⟩
    simp [gameState, start] at h
  refine ⟨fun hactive => ?_, fun state' hstate' hne => ?_⟩
  · obtain ⟨state', hstate', hid, hend⟩ := active_game_step hinv.1 hstep hi hstate hactive
    refine ⟨state', hstate', hid, ?_⟩
    rcases hend with hactive' | ⟨hfinished, hrecorded⟩
    · exact Or.inl hactive'
    refine Or.inr ⟨hfinished, fun hdisk => ?_⟩
    obtain ⟨hsends, hcompleted⟩ := hrecorded hdisk
    obtain ⟨gs, hgs, -⟩ := Option.bind_eq_some_iff.mp hstate'
    exact ⟨hsends, gs, hgs, RoomView.completed_of_game (v := t.view r) hgs ▸ hcompleted⟩
  · cases hstatus : state.status with
    | waiting => exact absurd hstatus (hinv.2 r state hstate)
    | active =>
      obtain ⟨kept, hkept, hid, -⟩ := active_game_step hinv.1 hstep hi hstate hstatus
      obtain rfl := Option.some.inj (hkept.symm.trans hstate')
      exact absurd hid hne
    | finished => rfl

open Server

/-- The game of the opening is kept by a first move. -/
theorem active_game_kept_move : ∃ s t state, Runs tallies (fun s i => s.restartsGame i = false) fresh s ∧
    s.step tallies (asks 0 "move1" (.makeMove (tally 'r' 4) (tally 'g' 5) ⟨.ofNat 1, .ofNat 1⟩)) = some t ∧
    t.gameState (tally 'r' 4) = some state ∧ state.gameId = tally 'g' 5 := by
  let move := asks 0 "move1" (.makeMove (tally 'r' 4) (tally 'g' 5) ⟨.ofNat 1, .ofNat 1⟩)
  have hcheck : (Transition.run (step tallies) (fun s i => !s.restartsGame i) fresh opening).any (fun s =>
      !s.restartsGame move && (s.step tallies move).isSome && (s.gameState (tally 'r' 4)).any fun state =>
        state.status = .active && state.gameId = tally 'g' 5) = true := by decide +kernel
  obtain ⟨s, hrun, hs⟩ := Transition.exists_run (fun s i h => by simpa using h) hcheck
  simp only [Bool.and_eq_true, Bool.not_eq_eq_eq_not, Bool.not_true, Option.any_eq_true, decide_eq_true_eq] at hs
  obtain ⟨⟨hi, hstep⟩, state, hstate, hactive, hid⟩ := hs
  obtain ⟨t, ht⟩ := Option.isSome_iff_exists.mp hstep
  obtain ⟨state', hstate', hid', -⟩ := (active_game_kept hrun hi ht hstate).1 hactive
  exact ⟨s, t, state', hrun, ht, hstate', hid'.trans hid⟩

/-- Two more `PLAYER_READY` commands replace the running game by a new one. -/
theorem ready_discards_game : ∃ s t i state state', Runs tallies (fun _ _ => True) fresh s ∧
    s.step tallies i = some t ∧ s.gameState (tally 'r' 4) = some state ∧ state.status = .active ∧
    t.gameState (tally 'r' 4) = some state' ∧ state'.gameId ≠ state.gameId := by
  let again := asks 2 "ready3again" (.playerReady (tally 'r' 4))
  have hcheck : (Transition.run (step tallies) (fun _ _ => true) fresh
      (opening ++ [asks 0 "ready1again" (.playerReady (tally 'r' 4))])).any (fun s =>
      (s.step tallies again).any fun t => (s.gameState (tally 'r' 4)).any fun state =>
        (t.gameState (tally 'r' 4)).any fun state' => state.status = .active && state'.gameId ≠ state.gameId) = true := by
    decide +kernel
  obtain ⟨s, hrun, hs⟩ := Transition.exists_run (C := fun _ _ => True) (fun _ _ _ => trivial) hcheck
  simp only [Bool.and_eq_true, Option.any_eq_true, decide_eq_true_eq] at hs
  obtain ⟨t, ht, state, hstate, state', hstate', hactive, hid⟩ := hs
  exact ⟨s, t, again, state, state', hrun, ht, hstate, hactive, hstate', hid⟩

end TicTacToe

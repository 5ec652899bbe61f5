import TicTacToe.Theorems.EngineLog
import TicTacToe.Theorems.FailingSave
import TicTacToe.Theorems.GameRecords

/-! # The times of a game

The engine takes its times from its callers, and `durationMs` is a difference of two of them. The server passes its clock,
which never goes back, so that the times of a game are in order and no duration is negative. -/

namespace TicTacToe

/-- The times of a game in the order in which they are set. -/
def GameState.times (state : GameState) : List Millis :=
  state.createdAt :: state.moveHistory.map MoveRecord.appliedAt ++ state.endedAt.toList

/-- The times of a game are in order, and none is later than `now`; there is a move for each mark on the board. -/
structure Chronological (now : Millis) (state : GameState) : Prop where
  ordered : (state.times ++ [now]).Pairwise (· ≤ ·)
  firstMove : state.firstMoveAt = state.moveHistory.head?.map MoveRecord.appliedAt
  ended : state.endedAt = state.result.map GameResult.endedAt
  running : state.status = .active → state.endedAt = none
  counted : state.moveHistory.length = markCount state.board

theorem pairwise_again {times : List Millis} {now : Millis} (h : (times ++ [now]).Pairwise (· ≤ ·)) :
    (times ++ [now] ++ [now]).Pairwise (· ≤ ·) := by
  rw [List.pairwise_append]
  refine ⟨h, List.pairwise_singleton _ _, fun x hx y hy => ?_⟩
  obtain rfl := List.mem_singleton.mp hy
  rcases List.mem_append.mp hx with hx | hx
  · exact (List.pairwise_append.mp h).2.2 x hx y (List.mem_singleton_self y)
  · exact (List.mem_singleton.mp hx).le

namespace Chronological
variable {now now' : Millis} {s : GameState} {symbol : PlayerSymbol} {row col : BoardIndex}

/-- Time passes. -/
theorem later (h : Chronological now s) (hnow : now ≤ now') : Chronological now' s where
  ordered := by
    obtain ⟨htimes, -, hpast⟩ := List.pairwise_append.mp h.ordered
    refine List.pairwise_append.mpr ⟨htimes, List.pairwise_singleton _ _, fun x hx y hy => ?_⟩
    obtain rfl := List.mem_singleton.mp hy
    exact (hpast x hx now (List.mem_singleton_self now)).trans hnow
  firstMove := h.firstMove
  ended := h.ended
  running := h.running
  counted := h.counted

theorem start (c : StartGameCommand) (hc : c.timestamp = now) : Chronological now (startGame c).newState where
  ordered := by
    subst hc
    exact List.pairwise_pair.mpr le_rfl
  firstMove := rfl
  ended := rfl
  running _ := rfl
  counted := rfl

/-- A mark on an empty cell of a running game, at time `now`. -/
theorem placeMark (h : Chronological now s) (hl : LegalMove s symbol row col) (turn : PlayerSymbol) :
    Chronological now (placeMark s symbol row col now turn) where
  ordered := by
    have hnone := h.running hl.active
    have htimes : (TicTacToe.placeMark s symbol row col now turn).times = s.times ++ [now] := by
      simp only [GameState.times, TicTacToe.placeMark, hnone, Option.toList_none, List.append_nil, List.map_append,
        List.map_cons, List.map_nil, List.cons_append, nextMoveRecord]
    rw [htimes]
    exact pairwise_again h.ordered
  firstMove := by
    have hfirst := h.firstMove
    simp only [TicTacToe.placeMark, hfirst]
    cases s.moveHistory <;> rfl
  ended := h.ended
  running := h.running
  counted := by
    simp only [TicTacToe.placeMark, List.length_append, List.length_singleton, markCount_applyMarkToBoard hl.cell,
      h.counted]

/-- The end of a running game at time `now`. -/
theorem finish (h : Chronological now s) (hnone : s.endedAt = none) {result : GameResult} (hresult : result.endedAt = now) :
    Chronological now (buildFinishedState s result now) where
  ordered := by
    have htimes : (buildFinishedState s result now).times = s.times ++ [now] := by
      simp only [GameState.times, buildFinishedState, hnone, Option.toList_none, Option.toList_some, List.append_nil]
    rw [htimes]
    exact pairwise_again h.ordered
  firstMove := h.firstMove
  ended := congrArg some hresult.symm
  running hactive := by cases hactive
  counted := h.counted

theorem applyMove (h : Chronological now s) (c : MakeMoveCommand) (hc : c.timestamp = now) :
    Chronological now (applyMove s c).newState := by
  subst hc
  rcases applyMove_cases s c with ⟨reason, he⟩ | ⟨symbol, -, -, hl, he⟩
  · rw [he]
    exact h
  · rw [he]
    rcases acceptMove_cases s symbol (toBoardIndex c.row) (toBoardIndex c.col) c.timestamp with
      ⟨line, -, he⟩ | ⟨-, -, he⟩ | ⟨-, -, he⟩
    · rw [he]
      exact (h.placeMark hl symbol).finish (h.running hl.active) rfl
    · rw [he]
      exact (h.placeMark hl symbol).finish (h.running hl.active) rfl
    · rw [he]
      exact h.placeMark hl (opponent symbol)

/-- The end of a game is not before its first move, nor this before its start. -/
theorem first_le_end (h : Chronological now s) {first last : Millis} (hfirst : s.firstMoveAt = some first)
    (hlast : s.endedAt = some last) : s.createdAt ≤ first ∧ first ≤ last := by
  have hordered := h.ordered
  rw [h.firstMove] at hfirst
  cases hhistory : s.moveHistory with
  | nil =>
    rw [hhistory] at hfirst
    cases hfirst
  | cons record history =>
    rw [hhistory] at hfirst
    obtain rfl := Option.some.inj hfirst
    simp only [GameState.times, hhistory, hlast, List.map_cons, Option.toList_some, List.cons_append,
      List.pairwise_cons] at hordered
    exact ⟨hordered.1 _ List.mem_cons_self, hordered.2.1 last (by simp)⟩

theorem created_le_end (h : Chronological now s) {last : Millis} (hlast : s.endedAt = some last) :
    s.createdAt ≤ last ∧ last ≤ now := by
  have hordered := h.ordered
  simp only [GameState.times, hlast, Option.toList_some, List.append_assoc, List.cons_append, List.nil_append,
    List.pairwise_cons, List.pairwise_append] at hordered
  exact ⟨hordered.1 last (by simp), hordered.2.2.1.1 now (List.mem_singleton_self now)⟩

/-- No duration is negative, and none is longer than its game. -/
theorem duration (h : Chronological now s) {last : Millis} (hlast : s.endedAt = some last) :
    0 ≤ GameSession.gameDuration s ∧ GameSession.gameDuration s ≤ last - s.createdAt := by
  have hcreated := (h.created_le_end hlast).1
  unfold GameSession.gameDuration
  rw [hlast]
  cases hfirst : s.firstMoveAt with
  | none => exact ⟨Int.le_refl 0, Int.sub_nonneg_of_le hcreated⟩
  | some first =>
    obtain ⟨hbefore, hafter⟩ := h.first_le_end hfirst hlast
    dsimp only
    split
    · exact ⟨Int.sub_nonneg_of_le hafter, Int.sub_le_sub_left hbefore last⟩
    · exact ⟨Int.le_refl 0, Int.sub_nonneg_of_le hcreated⟩

end Chronological

/-- The engine keeps the times in order when it is given the time. -/
theorem Chronological.kept (now : Millis) : EngineCall.Keeps (Chronological now) now where
  start c hc := .start c hc
  move _ c h hc := h.applyMove c hc
  finish _ _ _ _ h hactive := h.finish (h.running hactive) rfl

/-! ### Announced ends -/

/-- The call announces the end of a game in room `r` with times in order, of which none is later than `now`; the statistics
are those of its history. -/
def SendCall.EndsInTime (now : Millis) (r : RoomId) (call : SendCall) : Prop :=
  ∃ g result board history stats seq, call.event = .room (makeGameFinished r g result board history stats seq) ∧
    (history.map MoveRecord.appliedAt ++ [result.endedAt, now]).Pairwise (· ≤ ·) ∧ history.length ≤ 9 ∧
    stats.moveCount = history.length ∧ stats.firstMoveAt = history.head?.map MoveRecord.appliedAt ∧ 0 ≤ stats.durationMs ∧
    (stats.durationMs = 0 ∨ ∃ first, stats.firstMoveAt = some first ∧ stats.durationMs = result.endedAt - first)

/-- The announcement of a finished game. -/
theorem Chronological.endsInTime {now : Millis} {state : GameState} {result : GameResult} (h : Chronological now state)
    (hresult : state.result = some result) (r : RoomId) (p : PlayerId) (seq : Nat) :
    SendCall.EndsInTime now r ⟨.broadcast, p, .room (GameSession.finishedEvent r state result seq)⟩ := by
  have hended : state.endedAt = some result.endedAt := by rw [h.ended, hresult, Option.map_some]
  refine ⟨_, _, _, _, _, _, rfl, ?_, h.counted ▸ markCount_le state.board, rfl, h.firstMove, (h.duration hended).1, ?_⟩
  · have hordered := h.ordered
    simp only [GameState.times, hended, Option.toList_some, List.append_assoc, List.cons_append, List.nil_append,
      List.pairwise_cons] at hordered
    exact hordered.2
  · simp only [GameSession.gameDuration, hended]
    cases state.firstMoveAt with
    | none => exact Or.inl rfl
    | some first =>
      dsimp only
      split
      · exact Or.inr ⟨first, rfl, rfl⟩
      · exact Or.inl rfl

theorem SendCall.EndsInTime.later {now now' : Millis} {r : RoomId} {call : SendCall} (h : call.EndsInTime now r)
    (hnow : now ≤ now') : call.EndsInTime now' r := by
  obtain ⟨g, result, board, history, stats, seq, hevent, htimes, hrest⟩ := h
  refine ⟨g, result, board, history, stats, seq, hevent, ?_, hrest⟩
  rw [List.pairwise_append] at htimes ⊢
  obtain ⟨hmoves, hend, hpast⟩ := htimes
  have hlast : result.endedAt ≤ now := List.rel_of_pairwise_cons hend (List.mem_singleton_self now)
  refine ⟨hmoves, List.pairwise_pair.mpr (hlast.trans hnow), fun x hx y hy => ?_⟩
  have hx' := hpast x hx result.endedAt List.mem_cons_self
  rcases List.mem_cons.mp hy with rfl | hy
  · exact hx'
  · exact List.mem_singleton.mp hy ▸ hx'.trans (hlast.trans hnow)

section Steps
variable {G : IdSource} {now : Millis} {r : RoomId} {lo hi : Nat} {v v' : RoomView} {a : RoomAction}
  {sends : List SendCall} {call : SendCall} {g : GameId}

/-- An announced end is that of the room's game. -/
theorem RoomStep.announces (h : RoomStep G now r lo hi v a sends v') (hk : ∀ gs, v.game = some gs → gs.roomId = r)
    (hcall : call ∈ sends) (hg : call.finished = some g) : ∃ state result p seq, v'.state = some state ∧
      state.result = some result ∧ call = ⟨.broadcast, p, .room (GameSession.finishedEvent r state result seq)⟩ := by
  have hsilent : finishedGames sends ≠ [] := by
    intro hnone
    have hmem : g ∈ finishedGames sends := List.mem_filterMap.mpr ⟨call, hcall, hg⟩
    rw [hnone] at hmem
    cases hmem
  cases h.gameStep hk with
  | same _ _ _ hsends => exact absurd hsends hsilent
  | started _ _ _ _ _ _ _ _ _ hsends => exact absurd hsends hsilent
  | moved _ _ _ _ _ _ hsends => exact absurd hsends hsilent
  | @ended state t result hend hstate hactive hstate' hresult hrecorded =>
    obtain ⟨p, seq, hannounced⟩ := hrecorded.announced
    have honce := hrecorded.once
    have hmem : g ∈ finishedGames sends := List.mem_filterMap.mpr ⟨call, hcall, hg⟩
    rw [honce, List.mem_singleton] at hmem
    have honly := Server.filter_key (f := SendCall.finished) (by rw [← finishedGames, honce]; exact List.nodup_singleton _)
      hannounced (b := t.gameId) rfl
    have hin : call ∈ sends.filter fun call => call.finished = some t.gameId :=
      List.mem_filter.mpr ⟨hcall, by simp [hg, hmem]⟩
    rw [honly, List.mem_singleton] at hin
    exact ⟨t, result, p, seq, hstate', hresult, hin⟩
  | failed hend hstate hactive hstate' ha =>
    rcases ha with ⟨p, rfl⟩ | ⟨p, id, g', position, rfl⟩
    · cases h with
      | leaveThrew hroom hslot hgame hload hthrew =>
        exact absurd (GameSession.handleEnd_unannounced _ _ hthrew).silent hsilent
    · cases h with
      | moveThrew hroom hgame hload hthrew =>
        exact absurd (GameSession.handleMove_unannounced hthrew).silent hsilent

end Steps

open Server

/-- In every state of every run the times of a room's game are in order and not later than the clock, and so are those of
every `GAME_FINISHED` that has been broadcast: at most nine moves, each not before the one before it, an end not before
the last of them, and a duration that is not negative. -/
theorem games_chronological {G : IdSource} {C : Server → Input → Prop} {now : Millis} {version : String}
    {repository : HistoryRepository} {s : Server} (hrun : Runs G C (start now version repository) s) :
    (∀ r state, s.gameState r = some state → Chronological s.now state) ∧
    ∀ r call g, (r, call) ∈ s.sendLog → call.finished = some g → call.EndsInTime s.now r := by
  have htimely : ∀ {s}, Runs G C (start now version repository) s →
      s.Keyed ∧ ∀ r state, s.gameState r = some state → Chronological s.now state := runs_games Chronological.kept .later
  refine ⟨(htimely hrun).2, ?_⟩
  induction hrun with
  | refl =>
    intro r call g hcall
    cases hcall
  | @tail s t i hrun hi hstep hlog =>
    have hk := (htimely hrun).1
    have hle := now_le_step hk hstep
    intro r call g hcall hg
    rcases step_acts hk hstep with ⟨elapsed, -, rfl⟩ | ⟨r', a, hacts, -⟩
    · exact (hlog r call g hcall hg).later hle
    · obtain ⟨sends, hroomStep, hsent⟩ := hacts.step
      rw [hsent] at hcall
      rcases List.mem_append.mp hcall with hcall | hcall
      · exact (hlog r call g hcall hg).later hle
      · obtain ⟨call', hcall', he⟩ := List.mem_map.mp hcall
        obtain ⟨rfl, rfl⟩ := Prod.mk.inj he
        obtain ⟨state, result, p, seq, hstate, hresult, rfl⟩ := hroomStep.announces (hk.view r') hcall' hg
        exact ((htimely (hrun.tail hi hstep)).2 r' state hstate).endsInTime hresult r' p seq

/-- The game that player 1 has won in the run of the opening. -/
theorem games_chronological_won : ∃ s state r call, Runs tallies (fun _ _ => True) fresh s ∧
    s.gameState (tally 'r' 4) = some state ∧ state.moveHistory.length = 5 ∧ Chronological s.now state ∧
    (r, call) ∈ s.sendLog ∧ call.EndsInTime s.now r := by
  have hcheck : (Transition.run (step tallies) (fun _ _ => true) fresh won).any (fun s =>
      ((s.gameState (tally 'r' 4)).any fun state => state.moveHistory.length = 5) &&
      s.sendLog.any fun sent => sent.2.finished = some (tally 'g' 5)) = true := by decide +kernel
  obtain ⟨s, hrun, hs⟩ := Transition.exists_run (C := fun _ _ => True) (fun _ _ _ => trivial) hcheck
  simp only [Bool.and_eq_true, Option.any_eq_true, List.any_eq_true, decide_eq_true_eq] at hs
  obtain ⟨⟨state, hstate, hlength⟩, ⟨r, call⟩, hcall, hg⟩ := hs
  obtain ⟨hgames, hends⟩ := games_chronological hrun
  exact ⟨s, state, r, call, hrun, hstate, hlength, hgames _ _ hstate, hcall, hends r call _ hcall hg⟩

end TicTacToe

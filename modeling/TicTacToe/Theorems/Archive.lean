import TicTacToe.Server.RoomsRouter
import TicTacToe.Theorems.Chronology
import TicTacToe.Theorems.RoomTables

/-! # The archive

What is on record about a game is a game by the rules: the marks are those of a match, in turn and on free cells, the
board is what they make, and the result is what the match has come to, or the game has been broken off. -/

namespace TicTacToe
open Labelled

/-! ### Games by the rules -/

def MoveRecord.asMark (record : MoveRecord) : PlayerSymbol × (BoardIndex × BoardIndex) :=
  (record.symbol, record.position.row, record.position.col)

/-- The result of a game fits the verdict on its marks: it has been won or drawn by the last mark, or broken off before
there was a verdict. -/
inductive GameResult.Fits (result : GameResult) : Option (Table.Verdict PlayerSymbol) → Prop
  | won {x : PlayerSymbol} (houtcome : result.outcome = .win) (hwinner : result.winner = some x) :
    Fits result (some (.won x))
  | drawn (houtcome : result.outcome = .draw) (hwinner : result.winner = none) : Fits result (some .drawn)
  | broken (houtcome : result.outcome = .forfeit ∨ result.outcome = .abandoned) : Fits result none

/-- The marks, put in turn, make a match with this board, on which the verdict is this. -/
def MarksMake (marks : List (PlayerSymbol × (BoardIndex × BoardIndex))) (board : BoardSnapshot)
    (verdict : Option (Table.Verdict PlayerSymbol)) : Prop :=
  ∃ (holder : PlayerSymbol → PlayerId) (first : PlayerSymbol)
    (m : Table.Match (BoardIndex × BoardIndex) PlayerSymbol PlayerId),
    Run (Table.Match.Marks tableRules) (Table.opening holder first) marks m ∧ m.board = marksOf board ∧ m.verdict = verdict

/-- The record is of a game by the rules, with times in order. -/
structure CompletedGameRecord.Legal (record : CompletedGameRecord) : Prop where
  played : ∃ verdict, MarksMake (record.moveHistory.map MoveRecord.asMark) record.finalBoard verdict ∧
    record.result.Fits verdict
  ordered : (record.startedAt :: record.moveHistory.map MoveRecord.appliedAt ++ [record.endedAt]).Pairwise (· ≤ ·)
  moveCount : record.moveCount = record.moveHistory.length
  outcome : record.outcome = record.result.outcome
  winner : record.winner = record.result.winner
  endedAt : record.endedAt = record.result.endedAt

/-- The game so far is one by the rules. -/
structure GameState.Played (state : GameState) : Prop where
  running : state.status = .active → state.result = none ∧
    Run (Table.Match.Marks tableRules) (Table.opening state.holder state.firstTurn)
      (state.moveHistory.map MoveRecord.asMark) state.toMatch
  decided : ∀ result, state.result = some result →
    ∃ verdict, MarksMake (state.moveHistory.map MoveRecord.asMark) state.board verdict ∧ result.Fits verdict

namespace GameState
variable {s t : GameState} {c : MakeMoveCommand} {made : MoveMade} {ended : Option GameEnded}

theorem Played.of_move (h : s.Played) (hmove : AcceptedMove s c t made ended) : t.Played := by
  obtain ⟨hnone, hrun⟩ := h.running hmove.active
  have hhistory : t.moveHistory.map MoveRecord.asMark = s.moveHistory.map MoveRecord.asMark ++
      [(made.symbol, (toBoardIndex c.row, toBoardIndex c.col))] := by
    rw [hmove.history, List.map_append]
    rfl
  have hopening : (Table.opening t.holder t.firstTurn : Table.Match (BoardIndex × BoardIndex) PlayerSymbol PlayerId) =
      Table.opening s.holder s.firstTurn := by
    have hholder : t.holder = s.holder := funext fun x => by
      cases x with
      | X => exact hmove.playerX
      | O => exact hmove.playerO
    rw [hholder, hmove.firstTurn]
  have hmark : Table.Match.Marks tableRules s.toMatch (made.symbol, (toBoardIndex c.row, toBoardIndex c.col))
      t.toMatch := by
    refine ⟨?_, hmove.legal.turn.symm, marksOf_eq_none.mpr hmove.free, hmove.mark hnone⟩
    exact congrArg (Option.map GameResult.verdict) hnone
  have hmatch := hrun.snoc hmark
  rw [← hhistory, ← hopening] at hmatch
  refine ⟨fun hactive => ?_, fun result hresult => ?_⟩
  · rcases hmove.outcome with ⟨-, hsame, -⟩ | ⟨result, hfinished, -⟩
    · exact ⟨hsame.trans hnone, hmatch⟩
    · rw [hactive] at hfinished
      cases hfinished
  · have hverdict : t.toMatch.verdict = some result.verdict := congrArg (Option.map GameResult.verdict) hresult
    have hfinished : t.status = .finished := by
      rcases hmove.outcome with ⟨-, hsame, -⟩ | ⟨_, hfinished, -⟩
      · rw [hresult, hnone] at hsame
        cases hsame
      · exact hfinished
    obtain ⟨result', hresult', -, hdecided⟩ := hmove.decides hfinished
    obtain rfl := Option.some.inj (hresult.symm.trans hresult')
    refine ⟨_, ⟨_, _, _, hmatch, rfl, hverdict⟩, ?_⟩
    rcases hdecided with ⟨houtcome, hwinner⟩ | ⟨houtcome, hwinner⟩
    · have hwon : result.verdict = .won made.symbol := by
        unfold GameResult.verdict
        rw [houtcome, hwinner]
      rw [hwon]
      exact .won houtcome hwinner
    · have hdrawn : result.verdict = .drawn := by
        unfold GameResult.verdict
        rw [houtcome, hwinner]
      rw [hdrawn]
      exact .drawn houtcome hwinner

/-- A game that is broken off. -/
theorem Played.of_end {outcome : GameOutcome} {reason : GameEndReason} {p : PlayerId} {now : Millis} (h : s.Played)
    (hactive : s.status = .active) (houtcome : outcome = .forfeit ∨ outcome = .abandoned) :
    (endGame s outcome reason p now).newState.Played := by
  obtain ⟨hnone, hrun⟩ := h.running hactive
  refine ⟨fun hactive' => (by cases hactive'), fun result hresult => ?_⟩
  obtain rfl := Option.some.inj hresult
  refine ⟨none, ⟨_, _, _, hrun, rfl, ?_⟩, .broken houtcome⟩
  exact congrArg (Option.map GameResult.verdict) hnone

/-- The record of a finished game. -/
theorem Played.legal {result : GameResult} {now : Millis} (h : s.Played) (htimes : Chronological now s)
    (hresult : s.result = some result) : (GameSession.recordOf s result).Legal where
  played := h.decided result hresult
  ordered := by
    have hended : s.endedAt = some result.endedAt := by rw [htimes.ended, hresult, Option.map_some]
    have hordered := (List.pairwise_append.mp htimes.ordered).1
    rw [times, hended] at hordered
    exact hordered
  moveCount := rfl
  outcome := rfl
  winner := rfl
  endedAt := rfl

end GameState

/-! ### What a step adds -/

theorem EndsBy.endedAt {now : Millis} {v : RoomView} {state t : GameState} {a : RoomAction} {result : GameResult}
    (h : EndsBy now v state a t) (hresult : t.result = some result) : result.endedAt = now := by
  cases h with
  | move ha hid hmove =>
    rcases hmove.outcome with ⟨-, -, -, hended⟩ | ⟨result', -, hresult', -, htime, -⟩
    · cases hended
    · obtain rfl := Option.some.inj (hresult.symm.trans hresult')
      exact htime
  | forfeit | abandon =>
    obtain rfl := Option.some.inj hresult
    rfl

/-- The list goes on as it is, or with the record of the room's game, which has just ended and has not been in it. -/
def Adds (now : Millis) (v' : RoomView) (before after : List CompletedGameRecord) : Prop :=
  after = before ∨ ∃ state result, v'.state = some state ∧ state.status = .finished ∧ state.result = some result ∧
    result.endedAt = now ∧ state.gameId ∉ before.map (·.gameId) ∧ after = GameSession.recordOf state result :: before

theorem HistoryRepository.save_adds {repository : HistoryRepository} {r : RoomId} {record : CompletedGameRecord}
    {diskFails : Bool} {records : List CompletedGameRecord} (hload : repository.loadCompletedGames r = records) :
    (repository.saveCompletedGame r record diskFails).1.loadCompletedGames r = records ∨
      record.gameId ∉ records.map (·.gameId) ∧
        (repository.saveCompletedGame r record diskFails).1.loadCompletedGames r = record :: records := by
  rw [HistoryRepository.loadCompletedGames_save, hload]
  by_cases hmem : record.gameId ∈ records.map (·.gameId)
  · rw [if_neg (fun h => h.2 hmem)]
    exact Or.inl rfl
  · rw [if_pos ⟨rfl, hmem⟩]
    exact Or.inr ⟨hmem, rfl⟩

/-- Whether or not the save throws, the game is added where it is missing. -/
theorem GameSession.Ending.adds {gs : GameSession} {repository : HistoryRepository} {diskFails : Bool} {p : PlayerId}
    {state : GameState} {result : GameResult} {e : GameEffect} {now : Millis} {v' : RoomView}
    {records : List CompletedGameRecord}
    (h : Ending gs repository diskFails p state result e) (hstate' : v'.state = some state)
    (hfinished : state.status = .finished) (hresult : state.result = some result) (htime : result.endedAt = now)
    (hload : repository.loadCompletedGames gs.roomId = records) :
    Adds now v' gs.completedGames e.session.completedGames ∧
      Adds now v' records (e.historyRepository.loadCompletedGames gs.roomId) := by
  have hsaved : Adds now v' records ((repository.saveCompletedGame gs.roomId (recordOf state result)
      diskFails).1.loadCompletedGames gs.roomId) := by
    refine (HistoryRepository.save_adds hload).imp_right fun ⟨hnew, hrecords⟩ => ?_
    exact ⟨state, result, hstate', hfinished, hresult, htime, hnew, hrecords⟩
  cases h with
  | known => exact ⟨Or.inl rfl, Or.inl hload⟩
  | failed hnew | recorded hnew => exact ⟨Or.inr ⟨state, result, hstate', hfinished, hresult, htime, hnew, rfl⟩, hsaved⟩

section Steps
variable {G : IdSource} {now : Millis} {r : RoomId} {lo hi : Nat} {v v' : RoomView} {a : RoomAction}
  {sends : List SendCall}

/-- A step that fails to save the game that it ends. -/
theorem RoomStep.failing {t : GameState} (hk : ∀ gs, v.game = some gs → gs.roomId = r)
    (h : RoomStep G now r lo hi v a sends v')
    (ha : (∃ p, a = .leaveThrew p) ∨ ∃ p id g position, a = .moveThrew p id g position) (hstate' : v'.state = some t) :
    ∃ gs repository p result e, GameSession.Ending gs repository true p t result e ∧ t.result = some result ∧
      gs.completedGames = v.completed ∧ repository.loadCompletedGames gs.roomId = v.records ∧ gs.roomId = r ∧
      v'.completed = e.session.completedGames ∧ v'.records = e.historyRepository.loadCompletedGames gs.roomId := by
  rcases ha with ⟨p, rfl⟩ | ⟨p, id, g, position, rfl⟩
  · cases h with
    | @leaveThrew _ room gs repository hroom hslot hgame hload hthrew =>
      rcases GameSession.handleEnd_cases gs repository true p .forfeit .playerForfeited now with
        ⟨-, he⟩ | ⟨old, result, hold, -, hresult, he⟩
      · have hnot : (gs.handleForfeit now repository true p).threw = false := congrArg (·.threw) he
        rw [hthrew] at hnot
        cases hnot
      · obtain rfl := Option.some.inj (hstate'.symm.trans he.fields.2.1)
        obtain rfl := hk gs hgame
        exact ⟨_, repository, p, result, _, he, hresult, (RoomView.completed_of_game hgame).symm, hload, rfl, rfl, rfl⟩
  · cases h with
    | @moveThrew _ room gs repository _ _ _ hroom hgame hload hthrew =>
      have hm := GameSession.handleMove_moving gs now repository true p g position id
      generalize gs.handleMove now repository true p g position id = o at hm hthrew hstate' ⊢
      cases hm with
      | refused | rejected | continued => cases hthrew
      | @finished old u made ended result e hold hid hmove hresult he =>
        have hsame := GameSession.announced_same { gs with gameState := some u } p g position id made
        obtain rfl := Option.some.inj (hstate'.symm.trans (he.fields.2.1.trans hsame.gameState))
        have hroomId : ({ gs with gameState := some t } : GameSession).roomId = r := hk gs hgame
        refine ⟨_, repository, p, result, e, he, hresult, ?_, ?_, hsame.roomId.trans hroomId, rfl, ?_⟩
        · exact hsame.completedGames.trans (RoomView.completed_of_game hgame).symm
        · rw [hsame.roomId, hroomId]
          exact hload
        · rw [hsame.roomId, hroomId]

theorem RoomStep.adds (hk : ∀ gs, v.game = some gs → gs.roomId = r) (h : RoomStep G now r lo hi v a sends v') :
    Adds now v' v.completed v'.completed ∧ Adds now v' v.records v'.records := by
  cases h.gameStep hk with
  | same hstate hcompleted hrecords => exact ⟨Or.inl hcompleted, Or.inl hrecords⟩
  | started hcause hlo hhi hroom hX hO hstate hcompleted hrecords => exact ⟨Or.inl hcompleted, Or.inl hrecords⟩
  | moved ha hstate hmove hstate' hcompleted hrecords => exact ⟨Or.inl hcompleted, Or.inl hrecords⟩
  | @ended state t result hend hstate hactive hstate' hresult hrecorded =>
    have htime := hend.endedAt hresult
    have hfinished := hend.fields.2.2.2.1
    rcases hrecorded.records with ⟨-, hcompleted, hrecords⟩ | ⟨hnew, hcompleted, hrecords⟩
    · exact ⟨Or.inl hcompleted, Or.inl hrecords⟩
    · refine ⟨Or.inr ⟨t, result, hstate', hfinished, hresult, htime, hnew, hcompleted⟩, ?_⟩
      by_cases hmem : t.gameId ∈ v.records.map (·.gameId)
      · rw [if_pos hmem] at hrecords
        exact Or.inl hrecords
      · rw [if_neg hmem] at hrecords
        exact Or.inr ⟨t, result, hstate', hfinished, hresult, htime, hmem, hrecords⟩
  | @failed state t hend hstate hactive hstate' ha =>
    obtain ⟨-, -, -, hfinished, result, hresult⟩ := hend.fields
    obtain ⟨gs, repository, p, result', e, he, hresult', hcompleted, hload, hid, hcompleted', hrecords'⟩ :=
      h.failing hk ha hstate'
    obtain rfl := Option.some.inj (hresult.symm.trans hresult')
    subst hid
    rw [hcompleted', hrecords', ← hcompleted]
    exact he.adds hstate' hfinished hresult (hend.endedAt hresult) hload

/-- The room's game so far is one by the rules. -/
theorem RoomStep.played (hk : ∀ gs, v.game = some gs → gs.roomId = r) (h : RoomStep G now r lo hi v a sends v')
    (hplayed : ∀ state, v.state = some state → state.Played) : ∀ state, v'.state = some state → state.Played := by
  intro state hstate'
  cases h.gameStep hk with
  | same hsame => exact hplayed state (hsame ▸ hstate')
  | started hcause hlo hhi hroom hX hO hnew =>
    obtain rfl := Option.some.inj (hnew.symm.trans hstate')
    exact ⟨fun _ => ⟨rfl, .nil⟩, fun result hresult => by cases hresult⟩
  | moved ha hold hmove hnew =>
    obtain rfl := Option.some.inj (hnew.symm.trans hstate')
    exact (hplayed _ hold).of_move hmove
  | ended hend hold hactive hnew | failed hend hold hactive hnew =>
    obtain rfl := Option.some.inj (hnew.symm.trans hstate')
    cases hend with
    | move ha hid hmove => exact (hplayed _ hold).of_move hmove
    | forfeit => exact (hplayed _ hold).of_end hactive (Or.inl rfl)
    | abandon => exact (hplayed _ hold).of_end hactive (Or.inr rfl)

end Steps

/-! ### The archive -/

/-- Games by the rules, none of them twice, the one that has ended last first. -/
structure Archive (now : Millis) (records : List CompletedGameRecord) : Prop where
  legal : ∀ record ∈ records, record.Legal
  once : (records.map (·.gameId)).Nodup
  newestFirst : records.Pairwise fun newer older => older.endedAt ≤ newer.endedAt
  past : ∀ record ∈ records, record.endedAt ≤ now

namespace Archive
variable {now now' : Millis} {records records' : List CompletedGameRecord} {v : RoomView}

theorem later (h : Archive now records) (hnow : now ≤ now') : Archive now' records :=
  { h with past := fun record hrecord => (h.past record hrecord).trans hnow }

theorem of_adds (h : Archive now records) (hadds : Adds now v records records')
    (hplayed : ∀ state, v.state = some state → state.Played ∧ Chronological now state) : Archive now records' := by
  rcases hadds with rfl | ⟨state, result, hstate, -, hresult, htime, hnew, rfl⟩
  · exact h
  · obtain ⟨hlegal, htimes⟩ := hplayed state hstate
    refine ⟨?_, ?_, ?_, ?_⟩
    · exact List.forall_mem_cons.mpr ⟨hlegal.legal htimes hresult, h.legal⟩
    · exact List.nodup_cons.mpr ⟨hnew, h.once⟩
    · exact List.pairwise_cons.mpr ⟨fun older holder => (h.past older holder).trans htime.symm.le, h.newestFirst⟩
    · exact List.forall_mem_cons.mpr ⟨htime.le, h.past⟩

end Archive

namespace Server
variable {s t : Server} {G : IdSource} {i : Input} {now : Millis} {version : String} {repository : HistoryRepository}

/-- All rooms' games are by the rules, those on record and those of the sessions. -/
structure Archived (s : Server) : Prop where
  keyed : s.Keyed
  played : ∀ r state, s.gameState r = some state → state.Played
  completed : ∀ r, Archive s.now (s.view r).completed
  records : ∀ r, Archive s.now (s.historyRepository.loadCompletedGames r)

theorem start_archived (h : ∀ r, Archive now (repository.loadCompletedGames r)) :
    (start now version repository).Archived where
  keyed := start_keyed now version repository
  played r state hstate := by cases hstate
  completed := h
  records := h

theorem Archived.step (hs : s.Archived) (htimes : ∀ r state, t.gameState r = some state → Chronological t.now state)
    (h : s.step G i = some t) : t.Archived := by
  have hkt := hs.keyed.step h
  rcases step_acts hs.keyed h with ⟨elapsed, -, rfl⟩ | ⟨r, a, hacts, -⟩
  · have hnow : s.now ≤ s.now + elapsed := Int.le_add_of_nonneg_right (Int.natCast_nonneg elapsed)
    exact ⟨hkt, hs.played, fun r => (hs.completed r).later hnow, fun r => (hs.records r).later hnow⟩
  · obtain ⟨sends, hstep, -⟩ := hacts.step
    have hnow : t.now = s.now := hacts.now
    obtain ⟨hcompleted, hrecords⟩ := hstep.adds (hs.keyed.view r)
    have hplayed := hstep.played (hs.keyed.view r) (hs.played r)
    have hboth : ∀ state, (t.view r).state = some state → state.Played ∧ Chronological s.now state :=
      fun state hstate => ⟨hplayed state hstate, hnow ▸ htimes r state hstate⟩
    refine ⟨hkt, fun r' state hstate => ?_, fun r' => ?_, fun r' => ?_⟩
    · by_cases hr : r' = r
      · subst hr
        exact hplayed state hstate
      · exact hs.played r' state ((congrArg RoomView.state (hacts.other r' hr)).symm.trans hstate)
    · rw [hnow]
      by_cases hr : r' = r
      · subst hr
        exact (hs.completed r').of_adds hcompleted hboth
      · rw [hacts.other r' hr]
        exact hs.completed r'
    · rw [hnow]
      by_cases hr : r' = r
      · subst hr
        exact (hs.records r').of_adds hrecords hboth
      · have hsame : t.historyRepository.loadCompletedGames r' = s.historyRepository.loadCompletedGames r' :=
          congrArg RoomView.records (hacts.other r' hr)
        rw [hsame]
        exact hs.records r'

theorem runs_archived {C : Server → Input → Prop} (hold : ∀ r, Archive now (repository.loadCompletedGames r))
    (h : Runs G C (start now version repository) s) : s.Archived := by
  induction h with
  | refl => exact start_archived hold
  | tail hrun hi hstep ih => exact ih.step (runs_games Chronological.kept .later (hrun.tail hi hstep)).2 hstep

theorem ofLiveRoom_ok {α : Type} {page : RoomRecord → Option GameSession → α} {id : RoomId} {x : α}
    (h : s.ofLiveRoom id page = .ok x) : isRoomCode (utf16 id) = true ∧
      ∃ room, s.getRoom id = some room ∧ x = page room (s.gameSessions.get room.roomId) := by
  unfold ofLiveRoom at h
  split at h
  · cases h
  · rename_i hcode
    split at h
    · cases h
    · rename_i room hroom
      exact ⟨by simpa using hcode, room, hroom, (Except.ok.inj h).symm⟩

theorem ofLiveRoom_of_room {α : Type} (page : RoomRecord → Option GameSession → α) {id : RoomId} {room : RoomRecord}
    (hcode : isRoomCode (utf16 id) = true) (hroom : s.getRoom id = some room) :
    s.ofLiveRoom id page = .ok (page room (s.gameSessions.get room.roomId)) := by
  unfold ofLiveRoom
  simp only [hcode, hroom, Bool.not_true, Bool.false_eq_true, ↓reduceIte]

end Server

open Server

/-- Whatever has happened, failing saves included: the history page of a room shows games by the rules, each once and the
last one first, and so does the repository keep them. -/
theorem archive_legal {G : IdSource} {C : Server → Input → Prop} {now : Millis} {version : String}
    {repository : HistoryRepository} {s : Server} (hold : ∀ r, Archive now (repository.loadCompletedGames r))
    (hrun : Runs G C (start now version repository) s) :
    (∀ id page, s.historyPage id = .ok page → Archive s.now page.games) ∧
    ∀ r, Archive s.now (s.historyRepository.loadCompletedGames r) := by
  have hs := runs_archived hold hrun
  refine ⟨fun id page hpage => ?_, hs.records⟩
  obtain ⟨-, room, -, rfl⟩ := ofLiveRoom_ok hpage
  have hcompleted := hs.completed room.roomId
  unfold RoomView.completed at hcompleted
  cases hgame : s.gameSessions.get room.roomId with
  | none =>
    exact ⟨fun record h => absurd h List.not_mem_nil, List.nodup_nil, .nil, fun record h => absurd h List.not_mem_nil⟩
  | some gs =>
    have hview : (s.view room.roomId).game = some gs := hgame
    rw [hview] at hcompleted
    exact hcompleted

/-! ### A game on record -/

/-- Ids that count the draws, but a room of draw 4 has a code for a room. -/
def coded : IdSource := { tallies with roomId := fun n => if n = 4 then "ABCD2345" else tally 'r' n }

/-- Connection `n` moves in the game of the room. -/
def marks (n : Nat) (commandId : CommandId) (row col : Nat) : Input :=
  asks n commandId (.makeMove "ABCD2345" (tally 'g' 5) ⟨.ofNat row, .ofNat col⟩)

/-- Player 1 wins a game in the room. -/
def wonInRoom : List Input :=
  [.connect, asks 0 "auth1" (.auth none), .connect, asks 2 "auth3" (.auth none), .createRoom,
    asks 0 "join1" (.joinRoom "ABCD2345" none), asks 2 "join3" (.joinRoom "ABCD2345" none),
    asks 0 "ready1" (.playerReady "ABCD2345"), asks 2 "ready3" (.playerReady "ABCD2345"),
    marks 0 "move1" 0 0, marks 2 "move2" 1 0, marks 0 "move3" 0 1, marks 2 "move4" 1 1, marks 0 "move5" 0 2]

theorem ok_of_toOption {ε α : Type} {e : Except ε α} {x : α} (h : e.toOption = some x) : e = .ok x := by
  cases e with
  | error refusal => cases h
  | ok found => exact congrArg Except.ok (Option.some.inj h)

/-- The page shows the game that player 1 has won in five moves. -/
theorem archive_legal_won : ∃ s page record, Runs coded (fun _ _ => True) fresh s ∧
    s.historyPage "ABCD2345" = .ok page ∧ Archive s.now page.games ∧ record ∈ page.games ∧
    record.winner = some .X ∧ record.moveHistory.length = 5 := by
  have hcheck : (Transition.run (step coded) (fun _ _ => true) fresh wonInRoom).any (fun s =>
      (s.historyPage "ABCD2345").toOption.any fun page => page.games.any fun record =>
        record.winner = some .X ∧ record.moveHistory.length = 5) = true := by decide +kernel
  obtain ⟨s, hrun, hs⟩ := Transition.exists_run (C := fun _ _ => True) (fun _ _ _ => trivial) hcheck
  obtain ⟨page, hsome, hgames⟩ := (Option.any_eq_true _ _).mp hs
  obtain ⟨record, hrecord, hboth⟩ := List.any_eq_true.mp hgames
  obtain ⟨hwinner, hlength⟩ := of_decide_eq_true hboth
  have hpage : s.historyPage "ABCD2345" = .ok page := ok_of_toOption hsome
  have hold : ∀ r, Archive 0 (HistoryRepository.empty.loadCompletedGames r) := fun r =>
    ⟨fun record h => absurd h List.not_mem_nil, List.nodup_nil, .nil, fun record h => absurd h List.not_mem_nil⟩
  exact ⟨s, page, record, hrun, hpage, (archive_legal hold hrun).1 _ _ hpage, hrecord, hwinner, hlength⟩

end TicTacToe

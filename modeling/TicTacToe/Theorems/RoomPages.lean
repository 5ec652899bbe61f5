import TicTacToe.Theorems.Archive
import TicTacToe.Theorems.BlindSpots
import TicTacToe.Theorems.Progress

/-! # The pages of a room agree

The page of a room and its history are about the same games: a running game is not on record yet, and a finished one is
the last on record. -/

namespace TicTacToe

section Steps
variable {G : IdSource} {now : Millis} {r : RoomId} {lo hi : Nat} {v v' : RoomView} {a : RoomAction}
  {sends : List SendCall} {state : GameState}

theorem GameSession.Ending.listed {gs : GameSession} {repository : HistoryRepository} {diskFails : Bool} {p : PlayerId}
    {result : GameResult} {e : GameEffect} (h : Ending gs repository diskFails p state result e) :
    state.gameId ∈ e.session.completedGames.map (·.gameId) := by
  cases h with
  | known hmem => exact hmem
  | failed | recorded => exact List.mem_cons_self

/-- A game that finishes is on record from then on. -/
theorem RoomStep.listed (hk : ∀ gs, v.game = some gs → gs.roomId = r) (h : RoomStep G now r lo hi v a sends v')
    (hstate' : v'.state = some state) (hfinished : state.status = .finished) :
    v.state = some state ∨ state.gameId ∈ v'.completed.map (·.gameId) := by
  cases h.gameStep hk with
  | same hsame => exact Or.inl (hsame ▸ hstate')
  | started hcause hlo hhi hroom hX hO hnew =>
    obtain rfl := Option.some.inj (hnew.symm.trans hstate')
    cases hfinished
  | moved ha hold hmove hnew =>
    obtain rfl := Option.some.inj (hnew.symm.trans hstate')
    rcases hmove.outcome with ⟨hactive, -⟩ | ⟨_, -, -, -, -, -, hended⟩
    · rw [hfinished] at hactive
      cases hactive
    · cases hended
  | ended hend hold hactive hnew hresult hrecorded =>
    obtain rfl := Option.some.inj (hnew.symm.trans hstate')
    refine Or.inr ?_
    rcases hrecorded.records with ⟨hmem, hcompleted, -⟩ | ⟨-, hcompleted, -⟩
    · exact hcompleted ▸ hmem
    · rw [hcompleted]
      exact List.mem_cons_self
  | failed hend hold hactive hnew ha =>
    obtain rfl := Option.some.inj (hnew.symm.trans hstate')
    obtain ⟨gs, repository, p, result, e, he, -, -, -, -, hcompleted', -⟩ := h.failing hk ha hnew
    exact Or.inr (hcompleted' ▸ he.listed)

/-- The game before the step is the same, or it has been a running one with the same id, or the game is new. -/
theorem RoomStep.before (hk : ∀ gs, v.game = some gs → gs.roomId = r) (h : RoomStep G now r lo hi v a sends v')
    (hstate' : v'.state = some state) : v.state = some state ∨
      (∃ old, v.state = some old ∧ old.status = .active ∧ old.gameId = state.gameId) ∨
      state.status = .active ∧ v'.completed = v.completed ∧ ∃ n, lo ≤ n ∧ n < hi ∧ state.gameId = G.gameId n := by
  cases h.gameStep hk with
  | same hsame => exact Or.inl (hsame ▸ hstate')
  | @started gs n room playerX playerO firstTurn hcause hlo hhi hroom hX hO hnew hcompleted =>
    obtain rfl := Option.some.inj (hnew.symm.trans hstate')
    exact Or.inr (Or.inr ⟨rfl, hcompleted, n, hlo, hhi, rfl⟩)
  | moved ha hold hmove hnew =>
    obtain rfl := Option.some.inj (hnew.symm.trans hstate')
    exact Or.inr (Or.inl ⟨_, hold, hmove.active, hmove.gameId.symm⟩)
  | ended hend hold hactive hnew | failed hend hold hactive hnew =>
    obtain rfl := Option.some.inj (hnew.symm.trans hstate')
    exact Or.inr (Or.inl ⟨_, hold, hactive, hend.fields.1.symm⟩)

/-- A room keeps its id. -/
theorem RoomStep.named (h : RoomStep G now r lo hi v a sends v') (hv : ∀ room, v.room = some room → room.roomId = r) :
    ∀ room, v'.room = some room → room.roomId = r := by
  have hremoved : ∀ (room : RoomRecord) p, (room.removePlayer now p).roomId = room.roomId := fun room p => by
    unfold RoomRecord.removePlayer
    split
    · rfl
    · split <;> rfl
  have hconnected : ∀ (room : RoomRecord) p b, (room.setConnected now p b).roomId = room.roomId := fun room p b => by
    unfold RoomRecord.setConnected
    dsimp only
    split
    · rfl
    · split <;> rfl
  intro room' hroom'
  cases h with
  | created => exact Option.some.inj hroom' ▸ rfl
  | idle | rejoined | readiedAgain | leaveThrew | moved | moveThrew | rematchFired => exact hv room' hroom'
  | @entered p room added name symbol k hroom hslot hadd =>
    obtain rfl := Option.some.inj hroom'
    refine Eq.trans ?_ (hv room hroom)
    unfold RoomRecord.addPlayer at hadd
    split at hadd
    · obtain ⟨-, rfl⟩ := Prod.mk.inj (Option.some.inj hadd)
      rfl
    · split at hadd
      · obtain ⟨-, rfl⟩ := Prod.mk.inj (Option.some.inj hadd)
        rfl
      · cases hadd
  | leftIdleRoom hroom | left hroom => exact Option.some.inj hroom' ▸ (hremoved _ _).trans (hv _ hroom)
  | windowFired hgame htimer hdue hload hroom =>
    rcases hroom with hsame | ⟨room, hroom, hafter⟩
    · exact hv room' (hsame.symm.trans hroom')
    · exact Option.some.inj (hafter.symm.trans hroom') ▸ (hremoved _ _).trans (hv _ hroom)
  | reconnectedIdle hroom | reconnected hroom | disconnected hroom | windowArmed hroom =>
    exact Option.some.inj hroom' ▸ (hconnected _ _ _).trans (hv _ hroom)
  | readied hroom | startedReady hroom =>
    obtain rfl := Option.some.inj hroom'
    have hid := hv _ hroom
    exact hid
  | @rematchRequested p room gs gameId hroom =>
    obtain rfl := Option.some.inj hroom'
    rcases GameSession.handleRematchRequest_cases gs now room p gameId with he | ⟨_, -, -, -, he⟩ <;> rw [he] <;>
      exact hv room hroom
  | @rematchAccepted p room gs gameId unused n hroom =>
    obtain rfl := Option.some.inj hroom'
    rcases GameSession.handleRematchAccept_cases gs now (unused, G.gameId n) room p gameId with
      he | ⟨_, _, _, -, -, -, -, -, ⟨-, he⟩ | ⟨-, he⟩⟩ <;> rw [he] <;> exact hv room hroom
  | @rematchDeclined p room gs gameId hroom =>
    obtain rfl := Option.some.inj hroom'
    rcases GameSession.handleRematchDecline_cases gs room p gameId with he | ⟨_, -, -, he⟩ <;> rw [he] <;>
      exact hv room hroom

/-- A running game is not among the completed games of the room, and a finished one heads them. Those have ids that have
been given before. -/
structure RoomView.Headed (given : GameId → Prop) (v : RoomView) : Prop where
  known : ∀ record ∈ v.completed, given record.gameId
  running : ∀ state, v.state = some state → state.status = .active → state.gameId ∉ v.completed.map (·.gameId)
  finished : ∀ state, v.state = some state → state.status = .finished →
    ∃ result rest, v.completed = GameSession.recordOf state result :: rest

theorem RoomStep.headed {given given' : GameId → Prop} (hk : ∀ gs, v.game = some gs → gs.roomId = r)
    (h : RoomStep G now r lo hi v a sends v') (hv : v.Headed given) (hlater : ∀ g, given g → given' g)
    (hfresh : ∀ n, lo ≤ n → ¬given (G.gameId n)) (hgame : ∀ state, v'.state = some state → given' state.gameId) :
    v'.Headed given' := by
  have hknown : ∀ record ∈ v.completed, given' record.gameId := fun record hrecord => hlater _ (hv.known record hrecord)
  have hnot : ∀ n, lo ≤ n → G.gameId n ∉ v.completed.map (·.gameId) := by
    intro n hn hmem
    obtain ⟨record, hrecord, hid⟩ := List.mem_map.mp hmem
    exact hfresh n hn (hid ▸ hv.known record hrecord)
  rcases (h.adds hk).1 with hsame | ⟨new, result, hnew, hover, -, -, hmissing, hcons⟩
  · refine ⟨hsame.symm ▸ hknown, fun state hstate hactive => ?_, fun state hstate hfinished => ?_⟩
    · rw [hsame]
      rcases h.before hk hstate with hold | ⟨old, hold, hrunning, hid⟩ | ⟨-, -, n, hlo, -, hid⟩
      · exact hv.running state hold hactive
      · exact hid ▸ hv.running old hold hrunning
      · exact hid ▸ hnot n hlo
    · rw [hsame]
      rcases h.listed hk hstate hfinished with hold | hmem
      · exact hv.finished state hold hfinished
      · rw [hsame] at hmem
        rcases h.before hk hstate with hold | ⟨old, hold, hrunning, hid⟩ | ⟨hactive, -⟩
        · exact hv.finished state hold hfinished
        · exact absurd (hid ▸ hmem) (hv.running old hold hrunning)
        · rw [hfinished] at hactive
          cases hactive
  · refine ⟨?_, fun state hstate hactive => ?_, fun state hstate _ => ?_⟩
    · rw [hcons]
      exact List.forall_mem_cons.mpr ⟨hgame new hnew, hknown⟩
    · obtain rfl := Option.some.inj (hnew.symm.trans hstate)
      rw [hover] at hactive
      cases hactive
    · obtain rfl := Option.some.inj (hnew.symm.trans hstate)
      exact ⟨result, _, hcons⟩

end Steps

/-- What the page of a room and its history say is the same: a running game has both its players in the room and a cell
left to play, and is not on record; a finished one is the last on record, with as many moves. -/
def RoomPage.Agrees (page : RoomPage) (history : HistoryPage) : Prop :=
  history.roomId = page.roomId ∧ ∀ game, page.currentGame = some game →
    (game.status = .active ∧ page.status = .full ∧ page.playerCount = 2 ∧ game.moveCount < 9 ∧
      game.gameId ∉ history.games.map (·.gameId)) ∨
    (game.status = .finished ∧ ∃ record rest, history.games = record :: rest ∧ record.gameId = game.gameId ∧
      record.moveCount = game.moveCount)

namespace Server
variable {s t : Server} {G : IdSource} {i : Input} {r : RoomId} {now : Millis} {version : String}
  {repository : HistoryRepository}

/-- The game id has been drawn before, or is one of the games that have been loaded. -/
def Given (G : IdSource) (repository : HistoryRepository) (s : Server) (g : GameId) : Prop :=
  s.GameIssued G g ∨ ∃ r, ∃ record ∈ repository.loadCompletedGames r, record.gameId = g

theorem not_given_fresh {n : Nat} (hG : Function.Injective G.gameId)
    (hnew : ∀ n r, ∀ record ∈ repository.loadCompletedGames r, record.gameId ≠ G.gameId n) (hn : s.nextId ≤ n) :
    ¬s.Given G repository (G.gameId n) := by
  rintro (hissued | ⟨r, record, hrecord, hid⟩)
  · exact hissued.ne_fresh hG hn rfl
  · exact hnew n r record hrecord hid

theorem runs_headed {C : Server → Input → Prop} (hG : Function.Injective G.gameId)
    (hnew : ∀ n r, ∀ record ∈ repository.loadCompletedGames r, record.gameId ≠ G.gameId n)
    (h : Runs G C (start now version repository) s) : ∀ r, (s.view r).Headed (s.Given G repository) := by
  induction h with
  | refl =>
    intro r
    exact ⟨fun record hrecord => Or.inr ⟨r, record, hrecord, rfl⟩, fun state hstate => (by cases hstate),
      fun state hstate => (by cases hstate)⟩
  | @tail s t i hrun hi hstep ih =>
    intro r
    obtain ⟨hk, -⟩ := runs_gamesIssued hrun
    have hissued := (runs_gamesIssued (hrun.tail hi hstep)).2
    have hlater : ∀ g, s.Given G repository g → t.Given G repository g := fun g hg => hg.imp_left (·.step hk hstep)
    rcases step_view hk hstep r with hview | ⟨a, hacts, -⟩
    · rw [hview]
      exact { ih r with known := fun record hrecord => hlater _ ((ih r).known record hrecord) }
    · obtain ⟨sends, hroomStep, -⟩ := hacts.step
      exact hroomStep.headed (hk.view r) (ih r) hlater (fun n hn => not_given_fresh hG hnew hn)
        fun state hstate => Or.inl (hissued r state hstate)

theorem runs_named {C : Server → Input → Prop} (h : Runs G C (start now version repository) s) :
    s.Keyed ∧ ∀ r room, (s.view r).room = some room → room.roomId = r := by
  refine h.invariant (P := fun s => s.Keyed ∧ ∀ r room, (s.view r).room = some room → room.roomId = r)
    ⟨start_keyed now version repository, fun r room hroom => by cases hroom⟩
    fun s t i hs _ hstep => ⟨hs.1.step hstep, fun r => ?_⟩
  rcases step_view hs.1 hstep r with hview | ⟨a, hacts, -⟩
  · exact hview ▸ hs.2 r
  · obtain ⟨sends, hroomStep, -⟩ := hacts.step
    exact hroomStep.named (hs.2 r)

theorem pages_agree {C : Server → Input → Prop} {id : RoomId} {page : RoomPage} {history : HistoryPage}
    (hn : G.NeverRepeats) (hnew : ∀ n r, ∀ record ∈ repository.loadCompletedGames r, record.gameId ≠ G.gameId n)
    (hrun : Runs G C (start now version repository) s) (hpage : s.roomPage id = .ok page)
    (hhistory : s.historyPage id = .ok history) : page.Agrees history := by
  obtain ⟨-, room, hroom, rfl⟩ := ofLiveRoom_ok hpage
  obtain ⟨-, room', hroom', rfl⟩ := ofLiveRoom_ok hhistory
  obtain rfl := Option.some.inj (hroom.symm.trans hroom')
  refine ⟨rfl, fun game hgame => ?_⟩
  obtain ⟨state, hstate, rfl⟩ := Option.map_eq_some_iff.mp hgame
  have hview := view_room_of_getRoom hroom
  obtain rfl := (runs_named hrun).2 id room hview
  obtain ⟨gs, hgs, hgameState⟩ := Option.bind_eq_some_iff.mp hstate
  have hcompleted : (s.view room.roomId).completed = gs.completedGames := RoomView.completed_of_game hgs
  have hheaded := runs_headed hn.gameId hnew hrun room.roomId
  have htidy : s.Tidy G := hrun.invariant start_tidy fun s t i hs _ hstep => hs.step hn hstep
  rcases (htidy.rooms room.roomId).decided state hstate with ⟨hactive, -⟩ | ⟨hfinished, -⟩
  · have hboth : room.playerX.isSome = true ∧ room.playerO.isSome = true := by
      obtain ⟨room', hroom', hX, hO⟩ := (htidy.rooms room.roomId).seated state hstate hactive
      obtain rfl := Option.some.inj (hview.symm.trans hroom')
      obtain ⟨slotX, hslotX, -⟩ := RoomRecord.slotHolds_iff.mp hX
      obtain ⟨slotO, hslotO, -⟩ := RoomRecord.slotHolds_iff.mp hO
      exact ⟨Option.isSome_of_eq_some hslotX, Option.isSome_of_eq_some hslotO⟩
    have hmoves : state.moveHistory.length < 9 := by
      have hcount := ((runs_games Chronological.kept .later hrun).2 room.roomId state hstate).counted
      have hcell : markCount state.board ≠ 9 := exists_empty_iff.mp
        ((runs_games GameState.undecided_kept (fun h _ => h) hrun).2 room.roomId state hstate hactive).2
      have hle := markCount_le state.board
      omega
    have hmissing := hheaded.running state hstate hactive
    rw [hcompleted] at hmissing
    refine Or.inl ⟨hactive, ?_, ?_, hmoves, ?_⟩
    · simp [roomStatus, hboth]
    · simp [playerCount, hboth]
    · rw [hgs]
      exact hmissing
  · obtain ⟨result, rest, hhead⟩ := hheaded.finished state hstate hfinished
    refine Or.inr ⟨hfinished, GameSession.recordOf state result, rest, ?_, rfl, rfl⟩
    rw [hgs]
    exact hcompleted.symm.trans hhead

/-- Whether a request is refused does not depend on what is made of the room. -/
theorem ofLiveRoom_refused {α β : Type} {id : RoomId} {refusal : HttpRefusal} (page : RoomRecord → Option GameSession → α)
    (page' : RoomRecord → Option GameSession → β) (h : s.ofLiveRoom id page = .error refusal) :
    s.ofLiveRoom id page' = .error refusal := by
  unfold ofLiveRoom at h ⊢
  split at h
  · rename_i hcode
    rw [if_pos hcode]
    cases h
    rfl
  · rename_i hcode
    rw [if_neg hcode]
    cases hroom : s.getRoom id with
    | none =>
      rw [hroom] at h
      cases h
      rfl
    | some room =>
      rw [hroom] at h
      cases h

end Server

open Server

/-- A room has a page exactly when it has a history, and the two agree; otherwise both requests are refused alike. -/
theorem room_pages_agree {G : IdSource} (hn : G.NeverRepeats) {C : Server → Input → Prop} {now : Millis} {version : String}
    {repository : HistoryRepository} {s : Server}
    (hnew : ∀ n r, ∀ record ∈ repository.loadCompletedGames r, record.gameId ≠ G.gameId n)
    (hrun : Runs G C (start now version repository) s) (id : RoomId) :
    (∀ page, s.roomPage id = .ok page → ∃ history, s.historyPage id = .ok history ∧ page.Agrees history) ∧
    (∀ history, s.historyPage id = .ok history → ∃ page, s.roomPage id = .ok page ∧ page.Agrees history) ∧
    ∀ refusal, s.roomPage id = .error refusal ↔ s.historyPage id = .error refusal := by
  refine ⟨fun page hpage => ?_, fun history hhistory => ?_, fun refusal => ⟨ofLiveRoom_refused _ _, ofLiveRoom_refused _ _⟩⟩
  · obtain ⟨hcode, room, hroom, -⟩ := ofLiveRoom_ok hpage
    obtain ⟨history, hhistory⟩ : ∃ history, s.historyPage id = .ok history := ⟨_, ofLiveRoom_of_room _ hcode hroom⟩
    exact ⟨history, hhistory, pages_agree hn hnew hrun hpage hhistory⟩
  · obtain ⟨hcode, room, hroom, -⟩ := ofLiveRoom_ok hhistory
    obtain ⟨page, hpage⟩ : ∃ page, s.roomPage id = .ok page := ⟨_, ofLiveRoom_of_room _ hcode hroom⟩
    exact ⟨page, hpage, pages_agree hn hnew hrun hpage hhistory⟩

theorem coded_neverRepeats : coded.NeverRepeats := by
  have hcode : ∀ n, tally 'r' n ≠ "ABCD2345" := by
    intro n h
    have hmem : 'A' ∈ (tally 'r' n).toList := by
      rw [h]
      decide
    rw [tally, String.toList_ofList] at hmem
    cases List.eq_of_mem_replicate hmem
  refine { tallies_neverRepeats with roomId := fun m n h => ?_ }
  dsimp only [coded] at h
  by_cases hm : m = 4 <;> by_cases hn : n = 4
  · exact hm.trans hn.symm
  · rw [if_pos hm, if_neg hn] at h
    exact absurd h.symm (hcode n)
  · rw [if_neg hm, if_pos hn] at h
    exact absurd h (hcode m)
  · rw [if_neg hm, if_neg hn] at h
    exact tally_injective 'r' h

/-- The page shows the game that player 1 has won, and the history begins with it. -/
theorem room_pages_agree_won : ∃ s page game history record rest, Runs coded (fun _ _ => True) fresh s ∧
    s.roomPage "ABCD2345" = .ok page ∧ page.currentGame = some game ∧ game.status = .finished ∧
    s.historyPage "ABCD2345" = .ok history ∧ history.games = record :: rest ∧ record.gameId = game.gameId ∧
    record.moveCount = game.moveCount := by
  have hcheck : (Transition.run (step coded) (fun _ _ => true) fresh wonInRoom).any (fun s =>
      (s.roomPage "ABCD2345").toOption.any fun page => page.currentGame.any fun game =>
        game.status = .finished) = true := by decide +kernel
  obtain ⟨s, hrun, hs⟩ := Transition.exists_run (C := fun _ _ => True) (fun _ _ _ => trivial) hcheck
  obtain ⟨page, hsome, hany⟩ := (Option.any_eq_true _ _).mp hs
  obtain ⟨game, hgame, hstatus⟩ := (Option.any_eq_true _ _).mp hany
  have hfinished : game.status = .finished := of_decide_eq_true hstatus
  have hpage : s.roomPage "ABCD2345" = .ok page := ok_of_toOption hsome
  have hnew : ∀ n r, ∀ record ∈ HistoryRepository.empty.loadCompletedGames r, record.gameId ≠ coded.gameId n :=
    fun n r record hrecord => absurd hrecord List.not_mem_nil
  obtain ⟨history, hhistory, -, hagree⟩ := (room_pages_agree coded_neverRepeats hnew hrun _).1 page hpage
  rcases hagree game hgame with ⟨hactive, -⟩ | ⟨-, record, rest, hgames, hid, hcount⟩
  · rw [hfinished] at hactive
    cases hactive
  · exact ⟨s, page, game, history, record, rest, hrun, hpage, hgame, hfinished, hhistory, hgames, hid, hcount⟩

end TicTacToe

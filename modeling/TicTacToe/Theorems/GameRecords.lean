import TicTacToe.Theorems.MoveOnce

/-! # Ended games are recorded

A game that ends is announced once and recorded once, in the session of its room and in the repository. -/

namespace TicTacToe

/-- The parts of a record agree with each other. -/
structure CompletedGameRecord.Sound (record : CompletedGameRecord) : Prop where
  finalBoard : record.finalBoard = boardFromHistory record.moveHistory
  moveCount : record.moveCount = record.moveHistory.length
  outcome : record.outcome = record.result.outcome
  winner : record.winner = record.result.winner
  endedAt : record.endedAt = record.result.endedAt

/-- The records are sound and no game is recorded twice. -/
structure RecordsSound (records : List CompletedGameRecord) : Prop where
  record : ∀ record ∈ records, record.Sound
  once : (records.map (·.gameId)).Nodup

/-- The completed games of every room are sound. -/
def HistoryRepository.Sound (repository : HistoryRepository) : Prop :=
  ∀ r, RecordsSound (repository.loadCompletedGames r)

theorem RecordsSound.cons {record : CompletedGameRecord} {records : List CompletedGameRecord} (h : RecordsSound records)
    (hrecord : record.Sound) (hnew : record.gameId ∉ records.map (·.gameId)) : RecordsSound (record :: records) := by
  refine ⟨fun record' hmem => ?_, ?_⟩
  · rcases List.mem_cons.mp hmem with rfl | hmem
    · exact hrecord
    · exact h.record record' hmem
  · rw [List.map_cons, List.nodup_cons]
    exact ⟨hnew, h.once⟩

theorem recordOf_sound {state : GameState} {result : GameResult} (h : state.Replays) :
    (GameSession.recordOf state result).Sound := ⟨h.symm, rfl, rfl, rfl, rfl⟩

/-! ### What a step does to the games of a room -/

theorem EndsBy.replays {now : Millis} {v : RoomView} {state t : GameState} {a : RoomAction}
    (h : EndsBy now v state a t) (hr : state.Replays) : t.Replays := by
  cases h with
  | move ha hid hmove => exact hmove.state ▸ hr.applyMove _
  | forfeit | abandon => exact hr

/-- The game `state` of a room in which a step ends no game, against the game before, if it is the same. -/
inductive GoesOn (G : IdSource) (lo hi : Nat) (v : RoomView) (state : GameState) : Prop
  | same (h : v.state = some state)
  | moved {before : GameState} (h : v.state = some before) (hid : state.gameId = before.gameId)
    (hactive : before.status = .active) (hactive' : state.status = .active)
    (hreplays : before.Replays → state.Replays)
  | fresh {k : Nat} (hlo : lo ≤ k) (hhi : k < hi) (hid : state.gameId = G.gameId k) (hactive : state.status = .active)
    (hreplays : state.Replays)

/-- What a step in which saving does not throw does to the games of its room. -/
inductive BookStep (G : IdSource) (r : RoomId) (lo hi : Nat) (v : RoomView) (sends : List SendCall) (v' : RoomView) :
    Prop
  | unended (hcompleted : v'.completed = v.completed) (hrecords : v'.records = v.records)
    (hsends : finishedGames sends = []) (hstate : ∀ state, v'.state = some state → GoesOn G lo hi v state)
  | ended {state t : GameState} {result : GameResult} (hstate : v.state = some state) (hid : t.gameId = state.gameId)
    (hactive : state.status = .active) (hstate' : v'.state = some t) (hfinished : t.status = .finished)
    (hresult : t.result = some result) (hreplays : state.Replays → t.Replays)
    (hrecorded : Recorded r v t result sends v')

theorem GameStep.book {G : IdSource} {now : Millis} {r : RoomId} {lo hi : Nat} {v v' : RoomView} {a : RoomAction}
    {sends : List SendCall} (h : GameStep G now r lo hi v a sends v') (hleave : ∀ p, a ≠ .leaveThrew p)
    (hmove : ∀ p id gameId position, a ≠ .moveThrew p id gameId position) : BookStep G r lo hi v sends v' := by
  cases h with
  | same hstate hcompleted hrecords hsends =>
    exact .unended hcompleted hrecords hsends fun state h => .same (hstate.symm.trans h)
  | started hcause hlo hhi hroom hX hO hstate hcompleted hrecords hsends =>
    refine .unended hcompleted hrecords hsends fun state h => ?_
    obtain rfl := Option.some.inj (hstate.symm.trans h)
    exact .fresh hlo hhi rfl rfl rfl
  | moved ha hstate hmoved hstate' hcompleted hrecords hsends =>
    refine .unended hcompleted hrecords hsends fun state h => ?_
    obtain rfl := Option.some.inj (hstate'.symm.trans h)
    rcases hmoved.outcome with ⟨hactive, -⟩ | ⟨_, -, -, -, -, -, hended⟩
    · exact .moved hstate hmoved.gameId hmoved.active hactive fun hr => hmoved.state ▸ hr.applyMove _
    · cases hended
  | ended hend hstate hactive hstate' hresult hrecorded =>
    obtain ⟨hid, -, -, hfinished, -⟩ := hend.fields
    exact .ended hstate hid hactive hstate' hfinished hresult hend.replays hrecorded
  | failed hend hstate hactive hstate' ha =>
    rcases ha with ⟨p, rfl⟩ | ⟨p, id, gameId, position, rfl⟩
    · exact absurd rfl (hleave p)
    · exact absurd rfl (hmove p id gameId position)

namespace Server
variable {s t u : Server} {r r' : RoomId} {G : IdSource} {i : Input} {gameId : GameId} {repository : HistoryRepository}

/-! ### Announcements -/

/-- The ends of games that have been announced, with their rooms. -/
def ends (s : Server) : List (RoomId × GameId) := s.sendLog.filterMap fun sent => sent.2.finished.map (sent.1, ·)

theorem ends_append {sends : List SendCall} (h : t.sendLog = s.sendLog ++ sends.map (r, ·)) :
    t.ends = s.ends ++ (finishedGames sends).map (r, ·) := by
  simp only [ends, h, List.filterMap_append, List.filterMap_map, finishedGames, List.map_filterMap]
  rfl

/-- A step in which saving does not throw is one of the games of one room. -/
theorem step_book (hk : s.Keyed) (h : s.step G i = some t) (hdisk : i.diskFails = false) : ∃ r sends,
    (∀ r', r' ≠ r → t.view r' = s.view r') ∧ t.sendLog = s.sendLog ++ sends.map (r, ·) ∧ s.nextId ≤ t.nextId ∧
      BookStep G r s.nextId t.nextId (s.view r) sends (t.view r) := by
  rcases step_acts hk h with ⟨elapsed, -, rfl⟩ | ⟨r, a, hacts, hcause⟩
  · exact ⟨"", [], fun _ _ => rfl, by simp, Nat.le_refl _, .unended rfl rfl rfl fun state h => .same h⟩
  · obtain ⟨sends, hstep, hlog⟩ := hacts.step
    refine ⟨r, sends, hacts.other, hlog, hacts.nextId, (hstep.gameStep (hk.view r)).book ?_ ?_⟩
    · rintro p rfl
      exact absurd hcause.1 (by simp [hdisk])
    · rintro p id gameId position rfl
      exact absurd hcause.1 (by simp [hdisk])

/-! ### The books are kept -/

theorem GameIssued.mono (h : s.GameIssued G gameId) (hid : s.nextId ≤ t.nextId) : t.GameIssued G gameId := by
  obtain ⟨k, hk, he⟩ := h
  exact ⟨k, Nat.lt_of_lt_of_le hk hid, he⟩

/-- The id of a later draw is new. -/
theorem GameIssued.ne_fresh {k : Nat} (hG : Function.Injective G.gameId) (h : s.GameIssued G gameId)
    (hk : s.nextId ≤ k) : gameId ≠ G.gameId k := by
  obtain ⟨j, hj, rfl⟩ := h
  intro he
  have hjk : j = k := hG he
  omega

/-- Sessions, repository and announcements agree about the games that have ended since the repository was loaded. -/
structure Booked (G : IdSource) (repository : HistoryRepository) (s : Server) : Prop where
  issued : s.GamesIssued G
  endsIssued : ∀ e ∈ s.ends, s.GameIssued G e.2
  /-- No two rooms have the same game. -/
  distinct : ∀ r r' state state', s.gameState r = some state → s.gameState r' = some state' →
    state.gameId = state'.gameId → r = r'
  replays : ∀ r state, s.gameState r = some state → state.Replays
  listed : ∀ r, (s.view r).completed = (s.view r).records
  sound : ∀ r, RecordsSound (s.view r).records
  /-- Newest first. -/
  records : ∀ r, ∃ ended, (s.view r).records = ended ++ repository.loadCompletedGames r ∧
    ended.map (·.gameId) = ((s.ends.filter (·.1 = r)).map Prod.snd).reverse
  once : (s.ends.map Prod.snd).Nodup
  running : ∀ r state, s.gameState r = some state → state.status ≠ .finished → state.gameId ∉ s.ends.map Prod.snd
  finished : ∀ r state, s.gameState r = some state → state.status = .finished →
    ∃ result, state.result = some result ∧ GameSession.recordOf state result ∈ (s.view r).records ∧
      ∃ p seq, (r, ⟨.broadcast, p, .room (GameSession.finishedEvent r state result seq)⟩) ∈ s.sendLog

/-- A game of this run is recorded where its end has been announced. -/
theorem Booked.announced {record : CompletedGameRecord} (h : s.Booked G repository)
    (hnew : ∀ r, ∀ record ∈ repository.loadCompletedGames r, record.gameId ≠ gameId)
    (hrecord : record ∈ (s.view r).records) (hid : record.gameId = gameId) : (r, gameId) ∈ s.ends := by
  obtain ⟨ended, hrecords, hids⟩ := h.records r
  rw [hrecords] at hrecord
  rcases List.mem_append.mp hrecord with hrecord | hrecord
  · have hmem : gameId ∈ ended.map (·.gameId) := List.mem_map.mpr ⟨record, hrecord, hid⟩
    rw [hids, List.mem_reverse] at hmem
    obtain ⟨e, he, rfl⟩ := List.mem_map.mp hmem
    obtain ⟨hin, hr⟩ := List.mem_filter.mp he
    obtain rfl := of_decide_eq_true hr
    exact hin
  · exact absurd hid (hnew r record hrecord)

theorem start_booked (now : Millis) (version : String) (hsound : repository.Sound) :
    (start now version repository).Booked G repository where
  issued := start_gamesIssued now version repository
  endsIssued e he := by simp [ends, start] at he
  distinct r r' state state' h := by simp [gameState, start] at h
  replays r state h := by simp [gameState, start] at h
  listed r := by simp [RoomView.completed, view, start]
  sound := hsound
  records r := ⟨[], by simp [view, start], by simp [ends, start]⟩
  once := by simp [ends, start]
  running r state h := by simp [gameState, start] at h
  finished r state h := by simp [gameState, start] at h

/-- A step that ends no game keeps the books as they are. -/
theorem Booked.goesOn {v' : RoomView} {sends : List SendCall} (hb : s.Booked G repository)
    (hG : Function.Injective G.gameId) (hother : ∀ r', r' ≠ r → t.view r' = s.view r') (hview : t.view r = v')
    (hid : s.nextId ≤ t.nextId) (hlog : t.sendLog = s.sendLog ++ sends.map (r, ·)) (hsends : finishedGames sends = [])
    (hcompleted : v'.completed = (s.view r).completed)
    (hrecords : v'.records = (s.view r).records)
    (hstate : ∀ state, v'.state = some state → GoesOn G s.nextId t.nextId (s.view r) state) :
    t.Booked G repository := by
  have hends : t.ends = s.ends := by rw [ends_append hlog, hsends, List.map_nil, List.append_nil]
  have hbooks : ∀ r', (t.view r').completed = (s.view r').completed ∧ (t.view r').records = (s.view r').records := by
    intro r'
    by_cases hr : r' = r
    · subst hr
      exact ⟨hview ▸ hcompleted, hview ▸ hrecords⟩
    · rw [hother r' hr]
      exact ⟨rfl, rfl⟩
  -- The game of a room is the one it had, or a new one of room `r`.
  have hgames : ∀ r' state', t.gameState r' = some state' → (∃ before, s.gameState r' = some before ∧
      state'.gameId = before.gameId ∧ (state' = before ∨ before.status = .active ∧ state'.status = .active) ∧
      state'.Replays) ∨
      r' = r ∧ state'.status = .active ∧ state'.Replays ∧
      ∃ k, s.nextId ≤ k ∧ k < t.nextId ∧ state'.gameId = G.gameId k := by
    intro r' state' hstate'
    by_cases hr : r' = r
    · subst hr
      have hv : v'.state = some state' := hview ▸ hstate'
      cases hstate state' hv with
      | same h => exact Or.inl ⟨state', h, rfl, Or.inl rfl, hb.replays r' state' h⟩
      | moved h hsame hactive hactive' hreplays =>
        exact Or.inl ⟨_, h, hsame, Or.inr ⟨hactive, hactive'⟩, hreplays (hb.replays r' _ h)⟩
      | fresh hlo hhi hfresh hactive hreplays => exact Or.inr ⟨rfl, hactive, hreplays, _, hlo, hhi, hfresh⟩
    · have hsame : s.gameState r' = some state' := (congrArg RoomView.state (hother r' hr)).symm.trans hstate'
      exact Or.inl ⟨state', hsame, rfl, Or.inl rfl, hb.replays r' state' hsame⟩
  refine ⟨fun r' state' h => ?_, fun e he => ?_, fun r₁ r₂ state₁ state₂ h₁ h₂ he => ?_, fun r' state' h => ?_,
    fun r' => ?_, fun r' => ?_, fun r' => ?_, ?_, fun r' state' h hstatus => ?_, fun r' state' h hstatus => ?_⟩
  · rcases hgames r' state' h with ⟨before, hbefore, hsame, -, -⟩ | ⟨-, -, -, k, -, hhi, hfresh⟩
    · exact hsame ▸ (hb.issued r' before hbefore).mono hid
    · exact ⟨k, hhi, hfresh⟩
  · exact (hb.endsIssued e (hends ▸ he)).mono hid
  · rcases hgames r₁ state₁ h₁ with ⟨b₁, hb₁, hid₁, -, -⟩ | ⟨hr₁, -, -, k₁, hlo₁, -, hf₁⟩ <;>
      rcases hgames r₂ state₂ h₂ with ⟨b₂, hb₂, hid₂, -, -⟩ | ⟨hr₂, -, -, k₂, hlo₂, -, hf₂⟩
    · exact hb.distinct r₁ r₂ b₁ b₂ hb₁ hb₂ (hid₁.symm.trans (he.trans hid₂))
    · exact absurd (hid₁.symm.trans (he.trans hf₂)) ((hb.issued r₁ b₁ hb₁).ne_fresh hG hlo₂)
    · exact absurd (hid₂.symm.trans (he.symm.trans hf₁)) ((hb.issued r₂ b₂ hb₂).ne_fresh hG hlo₁)
    · exact hr₁.trans hr₂.symm
  · rcases hgames r' state' h with ⟨-, -, -, -, hreplays⟩ | ⟨-, -, hreplays, -⟩
    · exact hreplays
    · exact hreplays
  · rw [(hbooks r').1, (hbooks r').2]
    exact hb.listed r'
  · exact (hbooks r').2 ▸ hb.sound r'
  · rw [(hbooks r').2, hends]
    exact hb.records r'
  · exact hends ▸ hb.once
  · rw [hends]
    rcases hgames r' state' h with ⟨before, hbefore, hsame, hstep, -⟩ | ⟨-, -, -, k, hlo, -, hfresh⟩
    · have hrunning : before.status ≠ .finished := by
        rcases hstep with rfl | ⟨hactive, -⟩
        · exact hstatus
        · simp [hactive]
      exact hsame ▸ hb.running r' before hbefore hrunning
    · intro hmem
      obtain ⟨e, he, hsame⟩ := List.mem_map.mp hmem
      exact (hb.endsIssued e he).ne_fresh hG hlo (hsame.trans hfresh)
  · rcases hgames r' state' h with ⟨before, hbefore, -, hstep, -⟩ | ⟨-, hactive, -⟩
    · rcases hstep with rfl | ⟨-, hactive⟩
      · obtain ⟨result, hresult, hrecord, p, seq, hsent⟩ := hb.finished r' state' hbefore hstatus
        exact ⟨result, hresult, (hbooks r').2 ▸ hrecord, p, seq, hlog ▸ List.mem_append_left _ hsent⟩
      · simp [hactive] at hstatus
    · simp [hactive] at hstatus

/-- A step that ends a game announces and records it. -/
theorem Booked.ended {v' : RoomView} {state state' : GameState} {result : GameResult} {sends : List SendCall}
    (hb : s.Booked G repository)
    (hnew : ∀ n r, ∀ record ∈ repository.loadCompletedGames r, record.gameId ≠ G.gameId n)
    (hother : ∀ r', r' ≠ r → t.view r' = s.view r') (hview : t.view r = v') (hid : s.nextId ≤ t.nextId)
    (hlog : t.sendLog = s.sendLog ++ sends.map (r, ·)) (hstate : s.gameState r = some state)
    (hsame : state'.gameId = state.gameId) (hactive : state.status = .active) (hstate' : v'.state = some state')
    (hfinished : state'.status = .finished) (hresult : state'.result = some result)
    (hreplays : state.Replays → state'.Replays) (hrecorded : Recorded r (s.view r) state' result sends v') :
    t.Booked G repository := by
  subst hview
  have hunannounced : state'.gameId ∉ s.ends.map Prod.snd := by
    rw [hsame]
    exact hb.running r state hstate (by simp [hactive])
  have hissued : s.GameIssued G state'.gameId := hsame ▸ hb.issued r state hstate
  have hunknown : ∀ r', state'.gameId ∉ ((s.view r').records).map (·.gameId) := by
    intro r' hmem
    obtain ⟨record, hrecord, hrid⟩ := List.mem_map.mp hmem
    obtain ⟨k, -, hk⟩ := hissued
    refine hunannounced (List.mem_map.mpr ⟨(r', state'.gameId), hb.announced (fun r₁ record₁ h₁ => ?_) hrecord hrid, rfl⟩)
    rw [hk]
    exact hnew k r₁ record₁ h₁
  have hrecord : (t.view r).completed = GameSession.recordOf state' result :: (s.view r).records ∧
      (t.view r).records = GameSession.recordOf state' result :: (s.view r).records := by
    have hlisted := hb.listed r
    rcases hrecorded.records with ⟨hknown, -, -⟩ | ⟨-, hcompleted, hrecords⟩
    · exact absurd (hlisted ▸ hknown) (hunknown r)
    · exact ⟨hlisted ▸ hcompleted, hrecords.trans (if_neg (hunknown r))⟩
  have hends : t.ends = s.ends ++ [(r, state'.gameId)] := by
    rw [ends_append hlog, hrecorded.once]
    rfl
  have hgame : ∀ {r₁ state₁}, r₁ ≠ r → t.gameState r₁ = some state₁ → s.gameState r₁ = some state₁ := fun hr h =>
    (congrArg RoomView.state (hother _ hr)).symm.trans h
  have hmine : ∀ {state₁}, t.gameState r = some state₁ → state₁ = state' := fun h =>
    Option.some.inj (h.symm.trans hstate')
  refine ⟨fun r' state₁ h => ?_, fun e he => ?_, fun r₁ r₂ state₁ state₂ h₁ h₂ he => ?_, fun r' state₁ h => ?_,
    fun r' => ?_, fun r' => ?_, fun r' => ?_, ?_, fun r' state₁ h hstatus => ?_, fun r' state₁ h hstatus => ?_⟩
  · by_cases hr : r' = r
    · subst hr
      exact hmine h ▸ hissued.mono hid
    · exact (hb.issued r' state₁ (hgame hr h)).mono hid
  · rw [hends] at he
    rcases List.mem_append.mp he with he | he
    · exact (hb.endsIssued e he).mono hid
    · exact List.mem_singleton.mp he ▸ hissued.mono hid
  · by_cases hr₁ : r₁ = r <;> by_cases hr₂ : r₂ = r
    · exact hr₁.trans hr₂.symm
    · subst hr₁
      exact hb.distinct r₁ r₂ state state₂ hstate (hgame hr₂ h₂) (hsame ▸ hmine h₁ ▸ he)
    · subst hr₂
      exact hb.distinct r₁ r₂ state₁ state (hgame hr₁ h₁) hstate (hsame ▸ hmine h₂ ▸ he)
    · exact hb.distinct r₁ r₂ state₁ state₂ (hgame hr₁ h₁) (hgame hr₂ h₂) he
  · by_cases hr : r' = r
    · subst hr
      exact hmine h ▸ hreplays (hb.replays r' state hstate)
    · exact hb.replays r' state₁ (hgame hr h)
  · by_cases hr : r' = r
    · subst hr
      exact hrecord.1.trans hrecord.2.symm
    · rw [hother r' hr]
      exact hb.listed r'
  · by_cases hr : r' = r
    · subst hr
      rw [hrecord.2]
      exact (hb.sound r').cons (recordOf_sound (hreplays (hb.replays r' state hstate))) (hunknown r')
    · rw [hother r' hr]
      exact hb.sound r'
  · obtain ⟨ended, hrecs, hids⟩ := hb.records r'
    by_cases hr : r' = r
    · subst hr
      refine ⟨GameSession.recordOf state' result :: ended, by rw [hrecord.2, hrecs, List.cons_append], ?_⟩
      rw [List.map_cons, hids, hends]
      simp only [List.filter_append, List.map_append, List.reverse_append]
      simp [GameSession.recordOf, GameSession.completedRecord]
    · refine ⟨ended, by rw [hother r' hr, hrecs], ?_⟩
      rw [hids, hends]
      simp [List.filter_append, Ne.symm hr]
  · rw [hends, List.map_append, List.nodup_append]
    refine ⟨hb.once, by simp, fun gameId hmem gameId' hmem' => ?_⟩
    rintro rfl
    obtain rfl : gameId = state'.gameId := List.mem_singleton.mp hmem'
    exact hunannounced hmem
  · by_cases hr : r' = r
    · subst hr
      exact absurd (hmine h ▸ hfinished) hstatus
    · have hs := hgame hr h
      rw [hends, List.map_append, List.mem_append, List.map_singleton, List.mem_singleton, not_or]
      refine ⟨hb.running r' state₁ hs hstatus, fun heq => hr ?_⟩
      exact hb.distinct r' r state₁ state hs hstate (heq.trans hsame)
  · by_cases hr : r' = r
    · subst hr
      obtain rfl := hmine h
      obtain ⟨p, seq, hsent⟩ := hrecorded.announced
      exact ⟨result, hresult, hrecord.2 ▸ List.mem_cons_self, p, seq, hlog ▸ List.mem_append_right _
        (List.mem_map_of_mem hsent)⟩
    · obtain ⟨result₁, hresult₁, hrec₁, p, seq, hsent⟩ := hb.finished r' state₁ (hgame hr h) hstatus
      exact ⟨result₁, hresult₁, by rwa [hother r' hr], p, seq, hlog ▸ List.mem_append_left _ hsent⟩

theorem Booked.step (hb : s.Booked G repository) (hG : Function.Injective G.gameId)
    (hnew : ∀ n r, ∀ record ∈ repository.loadCompletedGames r, record.gameId ≠ G.gameId n) (hk : s.Keyed)
    (h : s.step G i = some t) (hdisk : i.diskFails = false) : t.Booked G repository := by
  obtain ⟨r, sends, hother, hlog, hid, hbook⟩ := step_book hk h hdisk
  cases hbook with
  | unended hcompleted hrecords hsends hstate =>
    exact hb.goesOn hG hother rfl hid hlog hsends hcompleted hrecords hstate
  | ended hstate hsame hactive hstate' hfinished hresult hreplays hrecorded =>
    exact hb.ended hnew hother rfl hid hlog hstate hsame hactive hstate' hfinished hresult hreplays hrecorded

theorem runs_booked {now : Millis} {version : String} (hG : Function.Injective G.gameId) (hsound : repository.Sound)
    (hnew : ∀ n r, ∀ record ∈ repository.loadCompletedGames r, record.gameId ≠ G.gameId n)
    (h : Runs G (fun _ i => i.diskFails = false) (start now version repository) s) : s.Keyed ∧ s.Booked G repository :=
  h.invariant (P := fun s => s.Keyed ∧ s.Booked G repository) ⟨start_keyed _ _ _, start_booked now version hsound⟩
    fun _ _ _ hs hdisk hstep => ⟨hs.1.step hstep, hs.2.step hG hnew hs.1 hstep hdisk⟩

/-! ### Records stay -/

/-- Records and calls are only added, and a record is added when its game has finished. -/
theorem step_records (hk : s.Keyed) (h : s.step G i = some t) (hdisk : i.diskFails = false) :
    (∀ r, (s.view r).records <:+ (t.view r).records) ∧ s.sendLog <+: t.sendLog ∧
      ∀ r, ∀ record ∈ (t.view r).records, record ∈ (s.view r).records ∨ ∃ state result, t.gameState r = some state ∧
        state.status = .finished ∧ state.result = some result ∧ record = GameSession.recordOf state result := by
  obtain ⟨r, sends, hother, hlog, -, hbook⟩ := step_book hk h hdisk
  have hrecords : (t.view r).records = (s.view r).records ∨ ∃ state result, t.gameState r = some state ∧
      state.status = .finished ∧ state.result = some result ∧
        (t.view r).records = GameSession.recordOf state result :: (s.view r).records := by
    cases hbook with
    | unended _ hrecords => exact Or.inl hrecords
    | ended _ _ _ hstate' hfinished hresult _ hrecorded =>
      rcases hrecorded.records with ⟨-, -, hsame⟩ | ⟨-, -, hadded⟩
      · exact Or.inl hsame
      split at hadded
      · exact Or.inl hadded
      · exact Or.inr ⟨_, _, hstate', hfinished, hresult, hadded⟩
  refine ⟨fun r' => ?_, ⟨_, hlog.symm⟩, fun r' record hmem => ?_⟩
  · by_cases hr : r' = r
    · subst hr
      rcases hrecords with hsame | ⟨state, result, -, -, -, hadded⟩
      · exact hsame ▸ List.suffix_refl _
      · exact hadded ▸ List.suffix_cons _ _
    · exact hother r' hr ▸ List.suffix_refl _
  · by_cases hr : r' = r
    · subst hr
      rcases hrecords with hsame | ⟨state, result, hstate, hfinished, hresult, hadded⟩
      · exact Or.inl (hsame ▸ hmem)
      · rw [hadded] at hmem
        rcases List.mem_cons.mp hmem with rfl | hmem
        · exact Or.inr ⟨state, result, hstate, hfinished, hresult, rfl⟩
        · exact Or.inl hmem
    · exact Or.inl (by rwa [hother r' hr] at hmem)

theorem records_along (hk : s.Keyed) (h : Runs G (fun _ i => i.diskFails = false) s t) :
    (∀ r, (s.view r).records <:+ (t.view r).records) ∧ s.sendLog <+: t.sendLog := by
  induction h with
  | refl => exact ⟨fun _ => List.suffix_refl _, List.prefix_refl _⟩
  | @tail t u i hrun hdisk hstep ih =>
    obtain ⟨hrecords, hlog, -⟩ := step_records (runs_keyed hk hrun) hstep hdisk
    exact ⟨fun r => (ih.1 r).trans (hrecords r), ih.2.trans hlog⟩

/-- A record that is added in a run is that of a game that has finished in the run. -/
theorem records_from (hk : s.Keyed) (h : Runs G (fun _ i => i.diskFails = false) s t) :
    ∀ r, ∀ record ∈ (t.view r).records, record ∈ (s.view r).records ∨ ∃ u state result,
      Runs G (fun _ i => i.diskFails = false) s u ∧ Runs G (fun _ i => i.diskFails = false) u t ∧
        u.gameState r = some state ∧ state.status = .finished ∧ state.result = some result ∧
        record = GameSession.recordOf state result := by
  induction h with
  | refl => exact fun r record hmem => Or.inl hmem
  | @tail t u i hrun hdisk hstep ih =>
    intro r record hmem
    obtain ⟨-, -, hadded⟩ := step_records (runs_keyed hk hrun) hstep hdisk
    rcases hadded r record hmem with hold | ⟨state, result, hstate, hfinished, hresult, he⟩
    · rcases ih r record hold with hstart | ⟨v, state, result, hbefore, hafter, hrest⟩
      · exact Or.inl hstart
      · exact Or.inr ⟨v, state, result, hbefore, hafter.tail hdisk hstep, hrest⟩
    · exact Or.inr ⟨u, state, result, hrun.tail hdisk hstep, .refl, hstate, hfinished, hresult, he⟩

/-! ### Once -/

/-- The only element with its key. -/
theorem filter_key {α β : Type} [DecidableEq β] {f : α → Option β} {l : List α} {x : α} {b : β}
    (hn : (l.filterMap f).Nodup) (hx : x ∈ l) (hb : f x = some b) : l.filter (fun y => f y = some b) = [x] := by
  induction l with
  | nil => cases hx
  | cons y l ih =>
    have hrest : (l.filterMap f).Nodup := by
      cases hy : f y with
      | none => simpa [List.filterMap_cons, hy] using hn
      | some b' => exact (List.nodup_cons.mp (by simpa [List.filterMap_cons, hy] using hn)).2
    rcases List.mem_cons.mp hx with rfl | hx
    · have hnone : l.filter (fun y => f y = some b) = [] := by
        rw [List.filter_eq_nil_iff]
        intro z hz hfz
        have hmem : b ∈ l.filterMap f := List.mem_filterMap.mpr ⟨z, hz, of_decide_eq_true hfz⟩
        have hnot : b ∉ l.filterMap f := (List.nodup_cons.mp (by simpa [List.filterMap_cons, hb] using hn)).1
        exact hnot hmem
      rw [List.filter_cons_of_pos (by simp [hb]), hnone]
    · have hne : f y ≠ some b := by
        intro hy
        have hnot : b ∉ l.filterMap f := (List.nodup_cons.mp (by simpa [List.filterMap_cons, hy] using hn)).1
        exact hnot (List.mem_filterMap.mpr ⟨x, hx, hb⟩)
      rw [List.filter_cons_of_neg (by simp [hne]), ih hrest hx]

/-- The game `state` of room `r`, which has finished with `result`, has been announced once and is recorded once. -/
structure RecordedOnce (s : Server) (r : RoomId) (state : GameState) (result : GameResult) : Prop where
  broadcast : ∃ p seq, s.sendLog.filter (fun sent => sent.2.finished = some state.gameId) =
    [(r, ⟨.broadcast, p, .room (GameSession.finishedEvent r state result seq)⟩)]
  record : (s.historyRepository.loadCompletedGames r).filter (fun record => record.gameId = state.gameId) =
    [GameSession.recordOf state result]
  elsewhere : ∀ r', r' ≠ r → state.gameId ∉ (s.historyRepository.loadCompletedGames r').map (·.gameId)

theorem ends_snd (s : Server) : s.ends.map Prod.snd = s.sendLog.filterMap fun sent => sent.2.finished := by
  simp only [ends, List.map_filterMap, Option.map_map]
  refine List.filterMap_congr fun sent _ => ?_
  cases sent.2.finished <;> rfl

theorem ends_of_room (s : Server) (r : RoomId) :
    (s.ends.filter (·.1 = r)).map Prod.snd =
      finishedGames ((s.sendLog.filter (fun sent => sent.1 = r)).map Prod.snd) := by
  unfold ends finishedGames
  induction s.sendLog with
  | nil => rfl
  | cons sent log ih =>
    cases hf : sent.2.finished with
    | none => by_cases hr : sent.1 = r <;> simp [hf, hr, ih]
    | some gameId => by_cases hr : sent.1 = r <;> simp [hf, hr, ih]

theorem mem_ends {call : SendCall} (h : (r, call) ∈ s.sendLog) (hf : call.finished = some gameId) :
    (r, gameId) ∈ s.ends := List.mem_filterMap.mpr ⟨(r, call), h, by simp [hf]⟩

theorem Booked.recordedOnce {state : GameState} {result : GameResult} {p : PlayerId} {seq : Nat}
    (hb : s.Booked G repository) (hnew : ∀ r, ∀ record ∈ repository.loadCompletedGames r, record.gameId ≠ state.gameId)
    (hrecord : GameSession.recordOf state result ∈ (s.view r).records)
    (hsent : (r, ⟨.broadcast, p, .room (GameSession.finishedEvent r state result seq)⟩) ∈ s.sendLog) :
    s.RecordedOnce r state result := by
  have hmem : (r, state.gameId) ∈ s.ends := mem_ends hsent rfl
  refine ⟨⟨p, seq, filter_key (f := fun sent => sent.2.finished) (ends_snd s ▸ hb.once) hsent rfl⟩, ?_,
    fun r' hr hmem' => ?_⟩
  · have hkey := filter_key (f := fun record : CompletedGameRecord => some record.gameId) (b := state.gameId)
      (by simpa using (hb.sound r).once) hrecord rfl
    simp only [Option.some.injEq] at hkey
    exact hkey
  · obtain ⟨record, hin, hid⟩ := List.mem_map.mp hmem'
    have hother : (r', state.gameId) ∈ s.ends := hb.announced hnew hin hid
    exact hr (congrArg Prod.fst (List.inj_on_of_nodup_map hb.once hother hmem rfl))

end Server

open Server in
/-- While no save throws and no game id repeats, every game that has finished has been announced once and is recorded
once; every record is that of a game that has finished, in this run or before the history was loaded; the session of
a room lists the records of its room, newest first. The loaded history is sound, as the run leaves it for the next. -/
theorem game_end_recorded_once {G : IdSource} (hG : Function.Injective G.gameId) {now : Millis} {version : String}
    {repository : HistoryRepository} (hsound : repository.Sound)
    (hnew : ∀ n r, ∀ record ∈ repository.loadCompletedGames r, record.gameId ≠ G.gameId n) {s : Server}
    (hrun : Runs G (fun _ i => i.diskFails = false) (start now version repository) s) :
    (∀ u r state, Runs G (fun _ i => i.diskFails = false) (start now version repository) u →
      Runs G (fun _ i => i.diskFails = false) u s → u.gameState r = some state → state.status = .finished →
        ∃ result, state.result = some result ∧ s.RecordedOnce r state result) ∧
    (∀ r state, s.gameState r = some state → state.status ≠ .finished →
      (∀ r', state.gameId ∉ (s.historyRepository.loadCompletedGames r').map (·.gameId)) ∧
        ∀ sent ∈ s.sendLog, sent.2.finished ≠ some state.gameId) ∧
    (∀ r, ∀ record ∈ s.historyRepository.loadCompletedGames r, record ∈ repository.loadCompletedGames r ∨
      ∃ u state result, Runs G (fun _ i => i.diskFails = false) (start now version repository) u ∧
        Runs G (fun _ i => i.diskFails = false) u s ∧ u.gameState r = some state ∧ state.status = .finished ∧
        state.result = some result ∧ record = GameSession.recordOf state result) ∧
    s.historyRepository.Sound ∧
    (∀ r gs, s.gameSessions.get r = some gs → gs.completedGames = s.historyRepository.loadCompletedGames r) ∧
    ∀ r, ∃ ended, s.historyRepository.loadCompletedGames r = ended ++ repository.loadCompletedGames r ∧
      ended.map (·.gameId) =
        (finishedGames ((s.sendLog.filter (fun sent => sent.1 = r)).map Prod.snd)).reverse := by
  have hunissued : ∀ {t : Server} {gameId}, t.GameIssued G gameId →
      ∀ r, ∀ record ∈ repository.loadCompletedGames r, record.gameId ≠ gameId := by
    rintro t gameId ⟨k, -, rfl⟩ r record hrecord
    exact hnew k r record hrecord
  obtain ⟨hk, hb⟩ := runs_booked hG hsound hnew hrun
  refine ⟨fun u r state hbefore hafter hstate hfinished => ?_, fun r state hstate hstatus => ⟨fun r' hmem => ?_, ?_⟩,
    fun r record hrecord => ?_, hb.sound, fun r gs hgs => ?_, fun r => ?_⟩
  · obtain ⟨hku, hbu⟩ := runs_booked hG hsound hnew hbefore
    obtain ⟨result, hresult, hrecord, p, seq, hsent⟩ := hbu.finished r state hstate hfinished
    obtain ⟨hrecords, hlog⟩ := records_along hku hafter
    refine ⟨result, hresult, hb.recordedOnce (hunissued (hbu.issued r state hstate)) ?_ (hlog.subset hsent)⟩
    exact (hrecords r).subset hrecord
  · obtain ⟨record, hin, hid⟩ := List.mem_map.mp hmem
    have hend := hb.announced (hunissued (hb.issued r state hstate)) hin hid
    exact hb.running r state hstate hstatus (List.mem_map.mpr ⟨_, hend, rfl⟩)
  · intro sent hsent hf
    exact hb.running r state hstate hstatus (List.mem_map.mpr ⟨_, mem_ends hsent hf, rfl⟩)
  · exact records_from (start_keyed now version repository) hrun r record hrecord
  · exact (RoomView.completed_of_game (v := s.view r) hgs).symm.trans (hb.listed r)
  · obtain ⟨ended, hrecords, hids⟩ := hb.records r
    exact ⟨ended, hrecords, hids.trans (congrArg List.reverse (ends_of_room s r))⟩

open Server

theorem empty_sound : HistoryRepository.empty.Sound := fun r => by
  refine ⟨fun record h => ?_, ?_⟩
  · simp [HistoryRepository.empty, HistoryRepository.loadCompletedGames] at h
  · simp [HistoryRepository.empty, HistoryRepository.loadCompletedGames]

/-- A forfeit: player 1 leaves during game 5. -/
theorem game_end_recorded_once_forfeit : ∃ s state result, Runs tallies (fun _ i => i.diskFails = false) fresh s ∧
    s.gameState (tally 'r' 4) = some state ∧ state.gameId = tally 'g' 5 ∧
      s.RecordedOnce (tally 'r' 4) state result := by
  have hcheck : (Transition.run (step tallies) (fun _ i => !i.diskFails) fresh
      (opening ++ [asks 0 "leave1" (.leaveRoom (tally 'r' 4))])).any (fun s =>
      (s.gameState (tally 'r' 4)).any fun state => state.gameId = tally 'g' 5 && state.status = .finished) = true := by
    decide +kernel
  obtain ⟨s, hrun, hs⟩ := Transition.exists_run (C := fun _ i => i.diskFails = false)
    (fun _ i h => by simpa using h) hcheck
  simp only [Bool.and_eq_true, Option.any_eq_true, decide_eq_true_eq] at hs
  obtain ⟨state, hstate, hid, hfinished⟩ := hs
  have hnew : ∀ n r, ∀ record ∈ HistoryRepository.empty.loadCompletedGames r, record.gameId ≠ tallies.gameId n := by
    intro n r record h
    simp [HistoryRepository.empty, HistoryRepository.loadCompletedGames] at h
  obtain ⟨result, -, honce⟩ := (game_end_recorded_once tallies_neverRepeats.gameId empty_sound hnew hrun).1 s
    (tally 'r' 4) state hrun .refl hstate hfinished
  exact ⟨s, state, result, hrun, hstate, hid, honce⟩

end TicTacToe

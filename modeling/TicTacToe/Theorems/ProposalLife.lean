import TicTacToe.Theorems.Proposals

/-! # The life of a rematch proposal

A pending proposal is one for the room's finished game, as long as no game is started over it by ready marks:
`startGame` does not clear the proposal. -/

namespace TicTacToe

/-- A `PLAYER_READY` that completes the ready marks of a room with a pending rematch proposal. -/
def Server.startsOverProposal (s : Server) (i : Input) : Bool :=
  match s.processed i with
  | some (⟨_, .playerReady r⟩, p) => (s.view r).proposal.isSome && (s.getRoom r).any fun room => room.lastReady p
  | _ => false

/-- The game whose rematch proposal a call declares to be expired. -/
def SendCall.expired (call : SendCall) : Option GameId :=
  match call.payload with
  | some (.rematchExpired g) => some g
  | _ => none

theorem SendCall.payload_of_expired {call : SendCall} {g : GameId} (h : call.expired = some g) :
    call.payload = some (.rematchExpired g) := by
  unfold expired at h
  split at h
  · rename_i hpayload
    exact Option.some.inj h ▸ hpayload
  · cases h

/-- A pending proposal is one for the room's finished game. -/
def RoomView.Proposed (v : RoomView) : Prop := ∀ proposal, v.proposal = some proposal → v.Finished proposal.gameId

section Steps
variable {G : IdSource} {now : Millis} {r : RoomId} {lo hi : Nat} {v v' : RoomView} {a : RoomAction}
  {sends : List SendCall}

theorem RoomStep.proposed (h : RoomStep G now r lo hi v a sends v') (hk : ∀ gs, v.game = some gs → gs.roomId = r)
    (hp : v.Proposed)
    (hready : ∀ p room, a = .readied p → v.room = some room → v.proposal ≠ none → room.lastReady p = false) :
    v'.Proposed := by
  intro proposal hproposal
  cases h.proposals with
  | same hsame haccept =>
    have hold : v.proposal = some proposal := hsame.symm.trans hproposal
    obtain ⟨state, hstate, hfinished, hid⟩ := hp proposal hold
    have hover : ∀ state', v.state = some state' → state'.status ≠ .active := by
      intro state' hstate' hactive
      obtain rfl := Option.some.inj (hstate.symm.trans hstate')
      rw [hfinished] at hactive
      cases hactive
    cases h.gameStep hk with
    | same hkept => exact ⟨state, hkept.trans hstate, hfinished, hid⟩
    | started hcause =>
      rcases hcause with ⟨p, room, ha, hroom, hlast⟩ | ⟨haccepted, -⟩
      · have hnot := hready p room ha hroom (by simp [hold])
        rw [hlast] at hnot
        cases hnot
      · exact haccept haccepted ▸ ⟨state, hstate, hfinished, hid⟩
    | moved ha hstate' hmove => exact absurd hmove.active (hover _ hstate')
    | ended hend hstate' hactive | failed hend hstate' hactive => exact absurd hactive (hover _ hstate')
  | requested ha hroom hx hnone hfinished hstate hnew =>
    obtain rfl := Option.some.inj (hnew.symm.trans hproposal)
    obtain ⟨state, hold, hrest⟩ := hfinished
    exact ⟨state, hstate.trans hold, hrest⟩
  | noted ha hroom hx hold hfinished hstate hnew =>
    obtain rfl := Option.some.inj (hnew.symm.trans hproposal)
    obtain ⟨state, hstate', hrest⟩ := hp _ hold
    exact ⟨state, hstate.trans hstate', hrest⟩
  | accepted ha hroom hx hold hfinished hboth hnone | declined ha hroom hx hold hnone | expired ha hold hnone =>
    rw [hnone] at hproposal
    cases hproposal

/-- `REMATCH_EXPIRED` names the game of the proposal, and the room's game stays. -/
theorem RoomStep.expires {call : SendCall} {g : GameId} (h : RoomStep G now r lo hi v a sends v') (hcall : call ∈ sends)
    (hg : call.payload = some (.rematchExpired g)) :
    ∃ proposal, v.proposal = some proposal ∧ proposal.gameId = g ∧ v'.state = v.state := by
  have ha : a = .rematchFired := by
    have hemits := h.sendsOnly call hcall _ hg
    cases a <;> first | rfl | cases hemits
  subst ha
  cases h with
  | @rematchFired gs room proposal hroom hgame hproposal hdue =>
    refine ⟨proposal, (RoomView.proposal_of_game hgame).trans hproposal, ?_⟩
    have hstate := RoomView.state_of_game hgame
    rcases GameSession.expireRematch_cases gs room proposal.gameId with h | h | ⟨anyPlayer, h⟩
    · simp [h] at hcall
    · simp [h] at hcall
    · rw [h] at hcall ⊢
      obtain rfl := List.mem_singleton.mp hcall
      obtain ⟨rfl⟩ : proposal.gameId = g := by simpa [SendCall.payload, makeRematchExpired] using hg
      exact ⟨rfl, hstate.symm⟩

end Steps

namespace Server
variable {s t : Server} {G : IdSource} {i : Input} {r : RoomId}

theorem proposed_step (hk : s.Keyed) (hp : ∀ r, (s.view r).Proposed) (hi : s.startsOverProposal i = false)
    (h : s.step G i = some t) (r : RoomId) : (t.view r).Proposed := by
  rcases step_view hk h r with hview | ⟨a, hacts, hcause⟩
  · exact hview ▸ hp r
  obtain ⟨sends, hstep, -⟩ := hacts.step
  refine hstep.proposed (hk.view r) (hp r) fun p room ha hroom hproposal => Bool.eq_false_iff.mpr fun hlast => ?_
  subst ha
  obtain ⟨id, live, hprocessed, hlive, hview⟩ := hacts.readied hcause
  obtain rfl := Option.some.inj (hroom.symm.trans hview)
  have hstarts : s.startsOverProposal i = true := by
    simp [startsOverProposal, hprocessed, Option.isSome_iff_ne_none.mpr hproposal, hlive, hlast]
  rw [hi] at hstarts
  cases hstarts

end Server

open Server

/-- In a run without a start over a proposal, a pending proposal is one for the room's finished game. So
`REMATCH_EXPIRED` names the room's game, which is finished then, and an accept that has an effect names the game
that the proposal was made for. -/
theorem proposal_for_finished_game {G : IdSource} {now : Millis} {version : String} {repository : HistoryRepository}
    {s : Server} (hrun : Runs G (fun s i => s.startsOverProposal i = false) (start now version repository) s) :
    (∀ r gs proposal, s.gameSessions.get r = some gs → gs.rematch = some proposal →
      ∃ state, gs.gameState = some state ∧ state.status = .finished ∧ state.gameId = proposal.gameId) ∧
    ∀ i t, s.step G i = some t →
      (∀ r call sent g, t.sendLog = s.sendLog ++ sent → (r, call) ∈ sent → call.payload = some (.rematchExpired g) →
        ∃ state, t.gameState r = some state ∧ state.status = .finished ∧ state.gameId = g) ∧
      ∀ r id g p, s.Handles i ⟨id, .acceptRematch r g⟩ p → t.gameSessions.get r ≠ s.gameSessions.get r →
        ∃ proposal, (s.view r).proposal = some proposal ∧ proposal.gameId = g := by
  obtain ⟨hk, hp⟩ : s.Keyed ∧ ∀ r, (s.view r).Proposed := by
    refine hrun.invariant (P := fun s => s.Keyed ∧ ∀ r, (s.view r).Proposed)
      ⟨start_keyed now version repository, fun r proposal h => ?_⟩
      fun s t i hs hi hstep => ⟨hs.1.step hstep, proposed_step hs.1 hs.2 hi hstep⟩
    simp [RoomView.proposal, view, start] at h
  refine ⟨fun r gs proposal hgs hproposal => ?_, fun i t hstep => ⟨fun r call sent g hlog hcall hg => ?_,
    fun r id g p haccept hchanged => ?_⟩⟩
  · obtain ⟨state, hstate, hrest⟩ := hp r proposal ((RoomView.proposal_of_game hgs).trans hproposal)
    exact ⟨state, (RoomView.state_of_game (v := s.view r) hgs).symm.trans hstate, hrest⟩
  · rcases step_acts hk hstep with ⟨elapsed, -, rfl⟩ | ⟨r', a, hacts, -⟩
    · have hnil : sent = [] := List.self_eq_append_right.mp hlog
      rw [hnil] at hcall
      cases hcall
    · obtain ⟨sends, hroomStep, hsent⟩ := hacts.step
      obtain rfl := List.append_cancel_left (hlog.symm.trans hsent)
      obtain ⟨call', hcall', hpair⟩ := List.mem_map.mp hcall
      obtain ⟨rfl, rfl⟩ := Prod.mk.inj hpair
      obtain ⟨proposal, hproposal, rfl, hkept⟩ := hroomStep.expires hcall' hg
      obtain ⟨state, hstate, hrest⟩ := hp r' proposal hproposal
      exact ⟨state, hkept.trans hstate, hrest⟩
  · rcases haccept.accepts hk hstep with hunmoved | hacts
    · exact absurd (congrArg RoomView.game (hunmoved.1 r)) hchanged
    · obtain ⟨sends, hroomStep, -⟩ := hacts.step
      cases hroomStep.proposals with
      | same hsame hnoop => exact absurd (congrArg RoomView.game (hnoop ⟨p, g, rfl⟩)) hchanged
      | noted ha hroom hx hproposal hfinished | accepted ha hroom hx hproposal hfinished =>
        obtain ⟨rfl, rfl⟩ := RoomAction.rematchAccepted.inj ha
        obtain ⟨state, hstate, -, hid⟩ := hp r _ hproposal
        obtain ⟨state', hstate', -, hid'⟩ := hfinished
        obtain rfl := Option.some.inj (hstate.symm.trans hstate')
        exact ⟨_, hproposal, hid.symm.trans hid'⟩
      | requested ha | declined ha | expired ha => cases ha

/-- Player 1 has won and asks for a rematch. -/
theorem proposal_for_finished_game_request : ∃ s gs proposal state,
    Runs tallies (fun s i => s.startsOverProposal i = false) fresh s ∧
    s.gameSessions.get (tally 'r' 4) = some gs ∧ gs.rematch = some proposal ∧
    gs.gameState = some state ∧ state.status = .finished ∧ state.gameId = proposal.gameId := by
  have hcheck : (Transition.run (step tallies) (fun s i => !s.startsOverProposal i) fresh
      (won ++ [asks 0 "again" (.requestRematch (tally 'r' 4) (tally 'g' 5))])).any (fun s =>
        (s.gameSessions.get (tally 'r' 4)).any fun gs => gs.rematch.isSome) = true := by decide +kernel
  obtain ⟨s, hrun, hs⟩ := Transition.exists_run (fun s i h => by simpa using h) hcheck
  simp only [Option.any_eq_true, Option.isSome_iff_exists] at hs
  obtain ⟨gs, hgs, proposal, hproposal⟩ := hs
  obtain ⟨state, hstate, hrest⟩ := (proposal_for_finished_game hrun).1 _ gs proposal hgs hproposal
  exact ⟨s, gs, proposal, state, hrun, hgs, hproposal, hstate, hrest⟩

/-- Both players are ready while player 1's proposal is pending: the next game runs, and the proposal expires in it. -/
theorem proposal_outlives_game : ∃ s t gs proposal state, Runs tallies (fun _ _ => True) fresh s ∧
    s.gameSessions.get (tally 'r' 4) = some gs ∧ gs.rematch = some proposal ∧
    gs.gameState = some state ∧ state.status = .active ∧ state.gameId ≠ proposal.gameId ∧
    s.step tallies (.rematchTimer (tally 'r' 4)) = some t ∧
    (t.gameState (tally 'r' 4)).any (fun state => state.status = .active) = true ∧
    ∃ call ∈ t.sendLog.drop s.sendLog.length, call.2.payload = some (.rematchExpired proposal.gameId) := by
  have hcheck : (Transition.run (step tallies) (fun _ _ => true) fresh
      (won ++ [asks 0 "again" (.requestRematch (tally 'r' 4) (tally 'g' 5)), asks 0 "ready1b" (.playerReady (tally 'r' 4)),
        asks 2 "ready3b" (.playerReady (tally 'r' 4)), .tick 60000])).any (fun s =>
        (s.gameSessions.get (tally 'r' 4)).any fun gs => gs.rematch.any fun proposal => gs.gameState.any fun state =>
          state.status = .active && state.gameId ≠ proposal.gameId &&
            (s.step tallies (.rematchTimer (tally 'r' 4))).any fun t =>
              (t.gameState (tally 'r' 4)).any (fun state => state.status = .active) &&
                (t.sendLog.drop s.sendLog.length).any fun call => call.2.expired = some proposal.gameId) = true := by
    decide +kernel
  obtain ⟨s, hrun, hs⟩ := Transition.exists_run (C := fun _ _ => True) (fun _ _ _ => trivial) hcheck
  simp only [Bool.and_eq_true, Option.any_eq_true, List.any_eq_true, decide_eq_true_eq] at hs
  obtain ⟨gs, hgs, proposal, hproposal, state, hstate, ⟨hactive, hid⟩, t, ht, ⟨state', hstate', hactive'⟩, call, hcall,
    hexpired⟩ := hs
  exact ⟨s, t, gs, proposal, state, hrun, hgs, hproposal, hstate, hactive, hid, ht, by simp [hstate', hactive'], call,
    hcall, SendCall.payload_of_expired hexpired⟩

end TicTacToe

import TicTacToe.Theorems.Proposals

/-! # Rematch commands for another game

A request and an accept are checked against the room's finished game; a decline is not. -/

namespace TicTacToe

section Steps
variable {G : IdSource} {now : Millis} {r : RoomId} {lo hi : Nat} {v v' : RoomView} {sends : List SendCall}
  {p : PlayerId} {g : GameId}

theorem RoomView.Finished.of_hasFinished {gs : GameSession} (hgame : v.game = some gs) (h : gs.hasFinished g = true) :
    v.Finished g := by
  obtain ⟨state, hstate, hmatch⟩ := (Option.any_eq_true _ _).mp h
  obtain ⟨hstatus, hid⟩ : state.status = .finished ∧ state.gameId = g := by simpa using hmatch
  exact ⟨state, (RoomView.state_of_game hgame).trans hstate, hstatus, hid⟩

theorem RoomStep.request_stale (h : RoomStep G now r lo hi v (.rematchRequested p g) sends v') (hstale : ¬v.Finished g) :
    v'.game = v.game ∧ sends = [] := by
  cases h with
  | @rematchRequested p room gs g hroom hgame =>
    rcases GameSession.handleRematchRequest_cases gs now room p g with he | ⟨_, hfinished, -⟩
    · rw [he]
      exact ⟨hgame.symm, rfl⟩
    · exact absurd (.of_hasFinished hgame hfinished) hstale

theorem RoomStep.accept_stale (h : RoomStep G now r lo hi v (.rematchAccepted p g) sends v') (hstale : ¬v.Finished g) :
    v'.game = v.game ∧ sends = [] := by
  cases h with
  | @rematchAccepted p room gs g unused n hroom hgame =>
    rcases GameSession.handleRematchAccept_cases gs now (unused, G.gameId n) room p g with
      he | ⟨state, _, _, hstate, hstatus, rfl, -⟩
    · rw [he]
      exact ⟨hgame.symm, rfl⟩
    · exact absurd (.of_session hgame hstate hstatus) hstale

/-- Without a proposal a decline has no effect; with one, it is a member's right whatever game it names. -/
theorem RoomStep.declined {room : RoomRecord} (h : RoomStep G now r lo hi v (.rematchDeclined p g) sends v')
    (hroom : v.room = some room) (hmember : getSymbolForPlayer room p ≠ none) :
    v.proposal = none ∧ v'.game = v.game ∧ sends = [] ∨ v.proposal ≠ none ∧ v'.proposal = none ∧ sends ≠ [] := by
  cases h with
  | @rematchDeclined p room' gs g hroom' hgame =>
    obtain rfl := Option.some.inj (hroom.symm.trans hroom')
    rw [RoomView.proposal_of_game hgame]
    rcases GameSession.handleRematchDecline_cases gs room p g with he | ⟨x, hsome, hx, he⟩
    · cases hrematch : gs.rematch with
      | none =>
        rw [he]
        exact Or.inl ⟨rfl, hgame.symm, rfl⟩
      | some proposal =>
        obtain ⟨x, hx⟩ := Option.ne_none_iff_exists'.mp hmember
        have htaken := congrArg GameSession.RematchOutcome.taken he
        simp [GameSession.handleRematchDecline, GameSession.notTaken, hrematch, hx] at htaken
    · rw [he]
      exact Or.inr ⟨hsome, rfl, by simp⟩

end Steps

namespace Server
variable {s t : Server} {G : IdSource} {i : Input} {r : RoomId} {p : PlayerId} {g : GameId}

/-- A member's processed decline gets to the session when a proposal is pending. -/
theorem Handles.declines_pending {id : CommandId} {room : RoomRecord} (h : s.Handles i ⟨id, .declineRematch r g⟩ p)
    (hroom : s.getRoom r = some room) (hpending : (s.view r).proposal ≠ none) (hstep : s.step G i = some t) :
    Acts G s t r (.rematchDeclined p g) := by
  obtain ⟨c, rec, token, htoken, hp, ht⟩ := h.step hstep
  have hq := arrived_quiet s c rec
  have hdispatch : (s.arrived c rec).dispatch G c rec ⟨id, .declineRematch r g⟩ i.diskFails =
      (s.arrived c rec).handleDeclineRematch c id r g token := by
    simp only [dispatch, htoken]
  obtain ⟨session, hs, rfl⟩ := hp.session
  have hgame : ((s.arrived c rec).afterLookup id).gameSessions.get r = s.gameSessions.get r := by
    rw [(afterLookup_quiet (s.arrived c rec) id).gameSessions, hq.gameSessions]
  have hanswers : Answers ((s.arrived c rec).handleDeclineRematch c id r g token) := by
    obtain ⟨proposal, hproposal⟩ := Option.ne_none_iff_exists'.mp hpending
    obtain ⟨gs, hgs, hrematch⟩ := Option.bind_eq_some_iff.mp hproposal
    have hgs' : s.gameSessions.get r = some gs := hgs
    unfold handleDeclineRematch rematchCommand
    rw [roomCommand_eq hs hp.uncached ((hq.getRoom r).trans hroom)]
    simp only [hgame, hgs', hrematch, Option.isNone_some, Bool.false_eq_true, ↓reduceIte]
    refine Or.inr fun c' e rest hd => ?_
    split at hd <;> cases hd
  rw [hdispatch] at ht
  exact ((handleDeclineRematch_handling (G := G) (s.arrived c rec) c id r g token).done hp hanswers).1.of_arrived ht

/-- What the game session of `r` and the calls of its `SendFn` show of a step. -/
def Untouched (s t : Server) (r : RoomId) : Prop := t.gameSessions.get r = s.gameSessions.get r ∧ t.sendLog = s.sendLog

theorem Unmoved.untouched (h : Unmoved s t) (r : RoomId) : Untouched s t r := ⟨congrArg RoomView.game (h.1 r), h.2⟩

end Server

open Server

/-- A member's rematch command for a game that is not the room's finished one leaves the session as it is, and sends
nothing, unless it is a decline that is processed while a proposal is pending. -/
theorem stale_rematch_harmless {G : IdSource} {C : Server → Input → Prop} {now : Millis} {version : String}
    {repository : HistoryRepository} {s t : Server} {i : Input} {c : ConnectionId} {rec : ConnectionRecord}
    {id : CommandId} {body : CommandBody} {token : SessionToken} {session : PlayerSession} {r : RoomId} {g : GameId}
    {room : RoomRecord} (hrun : Runs G C (start now version repository) s) (hrouted : s.Routed i c rec ⟨id, body⟩)
    (htoken : rec.sessionToken = some token) (hsession : s.getSession token = some session)
    (hbody : body = .requestRematch r g ∨ body = .acceptRematch r g ∨ body = .declineRematch r g)
    (hroom : s.getRoom r = some room) (hmember : getSymbolForPlayer room session.playerId ≠ none)
    (hstale : ¬∃ state, s.gameState r = some state ∧ state.status = .finished ∧ state.gameId = g)
    (hstep : s.step G i = some t) :
    t.gameSessions.get r = s.gameSessions.get r ∧ t.sendLog = s.sendLog ↔
      ¬(body = .declineRematch r g ∧ s.cached id = none ∧ (s.view r).proposal ≠ none) := by
  have hk : s.Keyed := runs_keyed (start_keyed now version repository) hrun
  have hacts : ∀ {a sends}, RoomStep G s.now r s.nextId t.nextId (s.view r) a sends (t.view r) →
      t.sendLog = s.sendLog ++ sends.map (r, ·) → (t.view r).game = (s.view r).game ∧ sends = [] → Untouched s t r := by
    rintro a sends hroomStep hlog ⟨hgame, rfl⟩
    exact ⟨hgame, by simpa using hlog⟩
  have hstale' : ¬(s.view r).Finished g := hstale
  have hview := view_room_of_getRoom hroom
  cases hcached : s.cached id with
  | some entry =>
    have hexempt : isAuthExempt body = false := by rcases hbody with rfl | rfl | rfl <;> rfl
    exact ⟨fun _ h => (by cases h.2.1), fun _ =>
      (hrouted.recalled hk htoken hexempt (by simp [hcached]) hstep).untouched r⟩
  | none =>
    have hhandles : s.Handles i ⟨id, body⟩ session.playerId :=
      ⟨c, rec, token, hrouted, htoken, ⟨session, hsession, rfl⟩, hcached⟩
    rcases hbody with rfl | rfl | rfl
    · refine ⟨fun _ h => (by cases h.1), fun _ => ?_⟩
      rcases hhandles.requests hk hstep with h | h
      · exact h.untouched r
      · obtain ⟨sends, hroomStep, hlog⟩ := h.step
        exact hacts hroomStep hlog (hroomStep.request_stale hstale')
    · refine ⟨fun _ h => (by cases h.1), fun _ => ?_⟩
      rcases hhandles.accepts hk hstep with h | h
      · exact h.untouched r
      · obtain ⟨sends, hroomStep, hlog⟩ := h.step
        exact hacts hroomStep hlog (hroomStep.accept_stale hstale')
    · constructor
      · rintro ⟨-, hlog⟩ ⟨-, -, hpending⟩
        obtain ⟨sends, hroomStep, hlog'⟩ := (hhandles.declines_pending hroom hpending hstep).step
        rcases hroomStep.declined hview hmember with ⟨hnone, -⟩ | ⟨-, -, hsends⟩
        · exact hpending hnone
        · exact hsends (List.map_eq_nil_iff.mp (List.self_eq_append_right.mp (hlog.symm.trans hlog')))
      · intro hnot
        have hnone : (s.view r).proposal = none := by_contra fun hpending => hnot ⟨rfl, rfl, hpending⟩
        rcases hhandles.declines hk hstep with h | h
        · exact h.untouched r
        · obtain ⟨sends, hroomStep, hlog⟩ := h.step
          rcases hroomStep.declined hview hmember with ⟨-, hsame⟩ | ⟨hpending, -⟩
          · exact hacts hroomStep hlog hsame
          · exact absurd hnone hpending

/-- Player 1 has won and asks for a rematch of another game. -/
theorem stale_rematch_harmless_request : ∃ s t, Runs tallies (fun _ _ => True) fresh s ∧
    s.step tallies (asks 0 "late" (.requestRematch (tally 'r' 4) (tally 'g' 0))) = some t ∧
    t.gameSessions.get (tally 'r' 4) = s.gameSessions.get (tally 'r' 4) ∧ t.sendLog = s.sendLog := by
  have hcheck : (Transition.run (step tallies) (fun _ _ => true) fresh won).any (fun s =>
      (s.routes 0).any (fun rec => rec.sessionToken.any fun token => (s.getSession token).any fun session =>
        (s.getRoom (tally 'r' 4)).any fun room => (getSymbolForPlayer room session.playerId).isSome) &&
      (s.gameState (tally 'r' 4)).any (fun state => state.gameId ≠ tally 'g' 0) &&
      (s.step tallies (asks 0 "late" (.requestRematch (tally 'r' 4) (tally 'g' 0)))).isSome) = true := by decide +kernel
  obtain ⟨s, hrun, hs⟩ := Transition.exists_run (C := fun _ _ => True) (fun _ _ _ => trivial) hcheck
  simp only [Bool.and_eq_true, Option.any_eq_true, Option.isSome_iff_exists, decide_eq_true_eq] at hs
  obtain ⟨⟨⟨rec, hrec, token, htoken, session, hsession, room, hroom, x, hx⟩, state, hstate, hid⟩, t, ht⟩ := hs
  have hstale : ¬∃ state, s.gameState (tally 'r' 4) = some state ∧ state.status = .finished ∧
      state.gameId = tally 'g' 0 := by
    rintro ⟨state', hstate', -, hid'⟩
    obtain rfl := Option.some.inj (hstate.symm.trans hstate')
    exact hid hid'
  exact ⟨s, t, hrun, ht, (stale_rematch_harmless hrun (routed_of_routes hrec "late" _) htoken hsession (Or.inl rfl)
    hroom (by simp [hx]) hstale ht).mpr (by simp)⟩

/-- Player 3 has accepted a rematch of game 5 and won it as game 7. Then a decline for game 5 arrives late, and cancels
player 1's proposal for game 7. -/
theorem late_decline_cancels : ∃ s t rec token session room proposal, Runs tallies (fun _ _ => True) fresh s ∧
    s.Routed (asks 2 "late" (.declineRematch (tally 'r' 4) (tally 'g' 5))) (tally 'c' 2) rec
      ⟨"late", .declineRematch (tally 'r' 4) (tally 'g' 5)⟩ ∧
    rec.sessionToken = some token ∧ s.getSession token = some session ∧ s.getRoom (tally 'r' 4) = some room ∧
    getSymbolForPlayer room session.playerId ≠ none ∧
    (¬∃ state, s.gameState (tally 'r' 4) = some state ∧ state.status = .finished ∧ state.gameId = tally 'g' 5) ∧
    s.step tallies (asks 2 "late" (.declineRematch (tally 'r' 4) (tally 'g' 5))) = some t ∧
    (s.view (tally 'r' 4)).proposal = some proposal ∧ (t.view (tally 'r' 4)).proposal = none ∧
    ¬(t.gameSessions.get (tally 'r' 4) = s.gameSessions.get (tally 'r' 4) ∧ t.sendLog = s.sendLog) := by
  let plays (n : Nat) (id : CommandId) (row col : Nat) : Input :=
    asks n id (.makeMove (tally 'r' 4) (tally 'g' 7) ⟨.ofNat row, .ofNat col⟩)
  have hcheck : (Transition.run (step tallies) (fun _ _ => true) fresh
      (won ++ [asks 0 "again1" (.requestRematch (tally 'r' 4) (tally 'g' 5)),
        asks 2 "again3" (.acceptRematch (tally 'r' 4) (tally 'g' 5)), plays 2 "move6" 0 0, plays 0 "move7" 1 0,
        plays 2 "move8" 0 1, plays 0 "move9" 1 1, plays 2 "move10" 0 2,
        asks 0 "again7" (.requestRematch (tally 'r' 4) (tally 'g' 7))])).any (fun s =>
      (s.routes 2).any (fun rec => rec.sessionToken.any fun token => (s.getSession token).any fun session =>
        (s.getRoom (tally 'r' 4)).any fun room => (getSymbolForPlayer room session.playerId).isSome) &&
      (s.gameState (tally 'r' 4)).any (fun state => state.gameId ≠ tally 'g' 5) &&
      (s.step tallies (asks 2 "late" (.declineRematch (tally 'r' 4) (tally 'g' 5)))).any fun t =>
        (s.view (tally 'r' 4)).proposal.isSome && (t.view (tally 'r' 4)).proposal.isNone) = true := by decide +kernel
  obtain ⟨s, hrun, hs⟩ := Transition.exists_run (C := fun _ _ => True) (fun _ _ _ => trivial) hcheck
  simp only [Bool.and_eq_true, Option.any_eq_true, Option.isSome_iff_exists, Option.isNone_iff_eq_none,
    decide_eq_true_eq] at hs
  obtain ⟨⟨⟨rec, hrec, token, htoken, session, hsession, room, hroom, x, hx⟩, state, hstate, hid⟩, t, ht,
    ⟨proposal, hproposal⟩, hnone⟩ := hs
  refine ⟨s, t, rec, token, session, room, proposal, hrun, routed_of_routes hrec "late" _, htoken, hsession, hroom,
    by simp [hx], ?_, ht, hproposal, hnone, ?_⟩
  · rintro ⟨state', hstate', -, hid'⟩
    obtain rfl := Option.some.inj (hstate.symm.trans hstate')
    exact hid hid'
  · rintro ⟨hgame, -⟩
    have hsame := proposal_of_session hgame
    rw [hnone, hproposal] at hsame
    cases hsame

end TicTacToe

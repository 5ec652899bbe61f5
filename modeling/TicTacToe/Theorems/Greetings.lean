import TicTacToe.Theorems.ReadyMarks
import TicTacToe.Theorems.SoundServer

/-! # Greetings

Who takes a slot is answered with a number in the same step, so the counter of a room with a player is not 0. -/

namespace TicTacToe
open Server

/-- Whoever holds a slot after a step has held it before, or someone has entered. -/
theorem RoomStep.occupant {G : IdSource} {now : Millis} {r : RoomId} {lo hi : Nat} {v v' : RoomView} {a : RoomAction}
    {sends : List SendCall} {room' : RoomRecord} {p : PlayerId} (h : RoomStep G now r lo hi v a sends v')
    (hd : v.Distinct) (hroom' : v'.room = some room') (hheld : room'.Holds p) :
    (∃ q, a = .entered q) ∨ ∃ room, v.room = some room ∧ room.Holds p := by
  obtain ⟨x, hx⟩ := hheld
  by_cases ha : a = .created
  · subst ha
    cases h with
    | created =>
      obtain rfl := Option.some.inj hroom'
      cases x <;> cases hx
  · obtain ⟨room, hroom, hslots⟩ := h.slots hd ha hroom'
    cases hslots with
    | entered ha => exact Or.inl ⟨_, ha⟩
    | other ha hslot => exact Or.inr ⟨room, hroom, x, slotHolds_of_slotAfter (hslot x ▸ hx)⟩
    | dead ha hsame => exact Or.inr ⟨room, hroom, x, hsame ▸ hx⟩

namespace Server
variable {G : IdSource} {s t u : Server} {i : Input} {r : RoomId} {c : ConnectionId} {id : CommandId}
  {token : SessionToken} {p : PlayerId} {room : RoomRecord}

theorem start_greeted (now : Millis) (version : String) (repository : HistoryRepository) (r : RoomId) :
    (start now version repository).Greeted r := by
  intro room p h
  simp [view, start, RoomStore.object, RoomStore.empty] at h

theorem allocateSequence_greets (h : u.gameSessions.get r ≠ none) : 1 ≤ (u.allocateSequence r).counter r := by
  have hpos := allocateSequence_pos u r (Nat.le_refl 1)
  rwa [sequenceOr_counter (allocateSequence_game h)] at hpos

theorem enterRoom_greets (s : Server) (c : ConnectionId) (id : CommandId) (r : RoomId) (token : SessionToken)
    (p : PlayerId) (name : Option PlayerName) (symbol : PlayerSymbol) (room : RoomRecord) :
    1 ≤ (s.enterRoom c id r token p name symbol room).server.counter r := by
  unfold enterRoom
  dsimp only
  have hgame := ensureGameSession_game ((s.putRoom r (room.touch s.now)).setSessionRoom token (some r)) r
  generalize ((s.putRoom r (room.touch s.now)).setSessionRoom token (some r)).ensureGameSession r = u at hgame ⊢
  split
  · exact allocateSequence_greets hgame
  · exact allocateSequence_greets (allocateSequence_game hgame)

theorem rejoinRoom_greeted (hg : s.Greeted r) (c : ConnectionId) (id : CommandId) (p : PlayerId) (slot : PlayerSlot) :
    (s.rejoinRoom c id r p slot).server.Greeted r := by
  intro room q hroom hheld
  have hview := congrArg RoomView.room (view_allocateSequence s r r)
  rw [if_pos rfl] at hview
  have hsame : ((s.allocateSequence r).view r).room = (s.view r).room := hview
  have hpos := hg room q (hsame.symm.trans hroom) hheld
  refine allocateSequence_greets fun hnone => ?_
  simp [counter, sequenceOr, hnone] at hpos

theorem Refuses.greeted {result : HandlerResult} (h : Refuses s c id result) (hg : s.Greeted r) :
    result.server.Greeted r := by
  obtain ⟨u, code, hq, -, rfl⟩ := h
  exact hg.of_quiet hq

/-- A `JOIN_ROOM`, whatever comes of it. -/
theorem handleJoinRoom_greeted (hg : s.Greeted r) (c : ConnectionId) (id : CommandId) (name : Option PlayerName)
    (token : SessionToken) : (s.handleJoinRoom c id r name token).server.Greeted r := by
  unfold handleJoinRoom
  rcases withSession_cases s c id token _ with ⟨-, hrefused⟩ | ⟨session, -, he⟩
  · exact hrefused.greeted hg
  rw [he]
  rcases unlessCached_cases s id (resend c) _ with ⟨entry, -, he⟩ | ⟨-, he⟩ <;> rw [he]
  · exact hg
  have hu := hg.of_quiet (afterLookup_quiet s id)
  generalize s.afterLookup id = u at hu ⊢
  split
  · exact hu
  rcases withRoom_cases u c id r _ with ⟨-, hrefused⟩ | ⟨room, -, he⟩
  · exact hrefused.greeted hu
  rw [he]
  split
  · exact rejoinRoom_greeted hu c id session.playerId _
  split
  · exact hu
  split
  · exact hu
  · exact fun _ _ _ _ => enterRoom_greets _ _ _ _ _ _ _ _ _

/-- The step in which a player enters. -/
theorem Acts.entered_greeted (hg : s.Greeted r) (hcause : s.Cause i r (.entered p)) (hstep : s.step G i = some t) :
    t.Greeted r := by
  obtain ⟨id, name, hhandles⟩ := hcause
  obtain ⟨c, rec, token, htoken, -, rfl⟩ := hhandles.step hstep
  have hdispatch : (s.arrived c rec).dispatch G c rec ⟨id, .joinRoom r name⟩ i.diskFails =
      (s.arrived c rec).handleJoinRoom c id r name token := by simp only [dispatch, htoken]
  rw [hdispatch]
  exact (handleJoinRoom_greeted (hg.of_quiet (arrived_quiet s c rec)) c id name token).of_quiet (conclude_quiet G c id _)

theorem Greeted.step (hg : s.Greeted r) (hk : s.Keyed) (hb : s.Backed) (hd : (s.view r).Distinct)
    (h : s.step G i = some t) : t.Greeted r := by
  intro room' p hroom' hheld
  rcases step_view hk h r with hview | ⟨a, hacts, hcause⟩
  · rw [hview] at hroom'
    rw [counter_of_view hview]
    exact hg room' p hroom' hheld
  · obtain ⟨sends, hstep, -⟩ := hacts.step
    rcases hstep.occupant hd hroom' hheld with ⟨q, rfl⟩ | ⟨room, hroom, hheld₀⟩
    · exact Acts.entered_greeted hg hcause h room' p hroom' hheld
    · exact step_counter_pos hk hb h (hg room p hroom hheld₀)

/-- The two slots of a room are never held by one player. -/
theorem step_distinct (hk : s.Keyed) (hd : (s.view r).Distinct) (h : s.step G i = some t) : (t.view r).Distinct := by
  rcases step_view hk h r with hview | ⟨a, hacts, -⟩
  · rwa [hview]
  · obtain ⟨sends, hstep, -⟩ := hacts.step
    exact hstep.distinct hd

end Server
end TicTacToe

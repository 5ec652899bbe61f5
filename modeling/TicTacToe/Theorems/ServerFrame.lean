import TicTacToe.Server.MessageRouter

/-! # What the primitive operations change

Writing to sockets changes the wire only; a `SendFn` call also logs itself and may drop an expired room. -/

namespace TicTacToe
namespace Server
variable {s t : Server} {r r' : RoomId}

/-! ### Writing to sockets -/

theorem send_frame (s : Server) (c : ConnectionId) (e : WireEvent) : ∃ w, s.send c e = { s with wire := s.wire ++ w } := by
  unfold send
  split
  · exact ⟨_, rfl⟩
  · exact ⟨[], by simp⟩

theorem sendEach_frame (s : Server) (cs : List ConnectionId) (e : WireEvent) :
    ∃ w, cs.foldl (fun s c => s.send c e) s = { s with wire := s.wire ++ w } := by
  induction cs generalizing s with
  | nil => exact ⟨[], by simp⟩
  | cons c cs ih =>
    obtain ⟨w, hw⟩ := send_frame s c e
    obtain ⟨w', hw'⟩ := ih (s.send c e)
    exact ⟨w ++ w', by rw [List.foldl_cons, hw', hw, List.append_assoc]⟩

theorem sendToPlayerConnections_frame (s : Server) (p : PlayerId) (e : WireEvent) :
    ∃ w, s.sendToPlayerConnections p e = { s with wire := s.wire ++ w } := sendEach_frame s _ e

theorem sendToPlayers_frame (s : Server) (ps : List PlayerId) (e : WireEvent) :
    ∃ w, ps.foldl (fun s p => s.sendToPlayerConnections p e) s = { s with wire := s.wire ++ w } := by
  induction ps generalizing s with
  | nil => exact ⟨[], by simp⟩
  | cons p ps ih =>
    obtain ⟨w, hw⟩ := sendToPlayerConnections_frame s p e
    obtain ⟨w', hw'⟩ := ih (s.sendToPlayerConnections p e)
    exact ⟨w ++ w', by rw [List.foldl_cons, hw', hw, List.append_assoc]⟩

theorem deliver_frame (s : Server) (ds : List Delivery) : ∃ w, s.deliver ds = { s with wire := s.wire ++ w } := by
  induction ds generalizing s with
  | nil => exact ⟨[], by simp [deliver]⟩
  | cons d ds ih =>
    have hd : ∃ w, s.deliver [d] = { s with wire := s.wire ++ w } := by
      cases d with
      | connection c e => exact send_frame s c e
      | broadcast p e => exact sendToPlayerConnections_frame s p e
    obtain ⟨w, hw⟩ := hd
    obtain ⟨w', hw'⟩ := ih (s.deliver [d])
    refine ⟨w ++ w', ?_⟩
    calc s.deliver (d :: ds) = (s.deliver [d]).deliver ds := rfl
      _ = _ := by rw [hw', hw, List.append_assoc]

/-! ### Calls of the send function -/

theorem sendFn_frame (s : Server) (r : RoomId) (call : SendCall) : ∃ w, s.sendFn r call =
    { s.afterGetRoom r with sendLog := s.sendLog ++ [(r, call)], wire := s.wire ++ w } := by
  unfold sendFn
  dsimp only
  split
  · exact ⟨[], by simp [afterGetRoom]⟩
  · exact sendToPlayers_frame _ _ _

theorem sendAll_frame (s : Server) (r : RoomId) (calls : List SendCall) :
    ∃ rooms w, s.sendAll r calls =
      { s with rooms := rooms, sendLog := s.sendLog ++ calls.map (r, ·), wire := s.wire ++ w } ∧
      (rooms = s.rooms ∨ rooms = s.rooms.afterGetRoom s.now r) := by
  induction calls generalizing s with
  | nil => exact ⟨s.rooms, [], by simp [sendAll], Or.inl rfl⟩
  | cons call calls ih =>
    obtain ⟨w, hw⟩ := sendFn_frame s r call
    obtain ⟨rooms, w', hw', hrooms⟩ := ih (s.sendFn r call)
    refine ⟨rooms, w ++ w', ?_, Or.inr ?_⟩
    · calc s.sendAll r (call :: calls) = (s.sendFn r call).sendAll r calls := rfl
        _ = _ := by rw [hw', hw]; simp [afterGetRoom]
    · rw [hw] at hrooms
      rcases hrooms with h | h
      · exact h
      · exact h.trans (RoomStore.afterGetRoom_idem _ _ _)

end Server
end TicTacToe

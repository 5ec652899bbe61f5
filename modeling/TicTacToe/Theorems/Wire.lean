import TicTacToe.Theorems.HandlerScope

/-! # What is written to the sockets

A call of a room's send function reaches the open connections of the players that it is for. The slots that decide
about this are those the room has before or after the handler that makes the call. -/

namespace TicTacToe
namespace Server
variable {s t u : Server} {r : RoomId} {room : RoomRecord} {G : IdSource} {c : ConnectionId} {commandId : CommandId}
  {token : SessionToken} {i : Input} {id : CommandId}

/-- An event for all connections of a player, as it is written. -/
def mailed (s : Server) (p : PlayerId) (e : WireEvent) : List (ConnectionId × WireEvent) :=
  ((s.getPlayerConnectionIds p).filter s.connections.has).map (·, e)

/-- A call of the send function of a room with record `room`, as it is written. -/
def posted (s : Server) (room : RoomRecord) (call : SendCall) : List (ConnectionId × WireEvent) :=
  (recipients room call).flatMap fun p => s.mailed p (.event call.event)

/-- A delivery of a handler, as it is written. -/
def delivered (s : Server) : Delivery → List (ConnectionId × WireEvent)
  | .connection c e => if s.connections.has c then [(c, e)] else []
  | .broadcast p e => s.mailed p e

/-! ### Writing -/

theorem sendEach_wire (s : Server) (cs : List ConnectionId) (e : WireEvent) :
    (cs.foldl (fun s c => s.send c e) s).wire = s.wire ++ (cs.filter s.connections.has).map (·, e) := by
  induction cs generalizing s with
  | nil => simp
  | cons c cs ih =>
    have hconnections : (s.send c e).connections = s.connections := by
      obtain ⟨w, hw⟩ := send_frame s c e
      rw [hw]
    rw [List.foldl_cons, ih, hconnections, send]
    cases hc : s.connections.has c with
    | true => simp [hc]
    | false => simp [hc]

theorem sendToPlayerConnections_wire (s : Server) (p : PlayerId) (e : WireEvent) :
    (s.sendToPlayerConnections p e).wire = s.wire ++ s.mailed p e := sendEach_wire s _ e

theorem mailed_congr (hc : t.connections = s.connections) (hr : t.playerConnectionRegistry = s.playerConnectionRegistry)
    (p : PlayerId) (e : WireEvent) : t.mailed p e = s.mailed p e := by
  simp only [mailed, getPlayerConnectionIds, hc, hr]

theorem posted_congr (hc : t.connections = s.connections) (hr : t.playerConnectionRegistry = s.playerConnectionRegistry)
    (room : RoomRecord) : t.posted room = s.posted room := by
  funext call
  simp only [posted, mailed_congr hc hr]

theorem sendToPlayers_wire (s : Server) (ps : List PlayerId) (e : WireEvent) :
    (ps.foldl (fun s p => s.sendToPlayerConnections p e) s).wire = s.wire ++ ps.flatMap fun p => s.mailed p e := by
  induction ps generalizing s with
  | nil => simp
  | cons p ps ih =>
    have hsame : ∀ q, (s.sendToPlayerConnections p e).mailed q e = s.mailed q e := by
      intro q
      obtain ⟨w, hw⟩ := sendToPlayerConnections_frame s p e
      exact mailed_congr (by rw [hw]) (by rw [hw]) q e
    simp only [List.foldl_cons, ih, sendToPlayerConnections_wire, hsame, List.flatMap_cons, List.append_assoc]

theorem deliver_wire (s : Server) (ds : List Delivery) : (s.deliver ds).wire = s.wire ++ ds.flatMap s.delivered := by
  induction ds generalizing s with
  | nil => simp [deliver]
  | cons d ds ih =>
    have hd : ∃ w, s.deliver [d] = { s with wire := s.wire ++ w } ∧ w = s.delivered d := by
      cases d with
      | connection c e =>
        obtain ⟨w, hw⟩ := send_frame s c e
        refine ⟨w, hw, ?_⟩
        have hsent := sendEach_wire s [c] e
        have hwire : (s.send c e).wire = s.wire ++ w := by rw [hw]
        have hboth := List.append_cancel_left (hwire.symm.trans hsent)
        rw [hboth, delivered]
        cases hc : s.connections.has c <;> simp [hc]
      | broadcast p e =>
        obtain ⟨w, hw⟩ := sendToPlayerConnections_frame s p e
        have hwire : (s.sendToPlayerConnections p e).wire = s.wire ++ w := by rw [hw]
        exact ⟨w, hw, List.append_cancel_left (hwire.symm.trans (sendToPlayerConnections_wire s p e))⟩
    obtain ⟨w, hw, rfl⟩ := hd
    have hsame : (s.deliver [d]).delivered = s.delivered := by
      funext d'
      rw [hw]
      cases d' <;> rfl
    calc (s.deliver (d :: ds)).wire = ((s.deliver [d]).deliver ds).wire := rfl
      _ = (s.wire ++ s.delivered d) ++ ds.flatMap s.delivered := by rw [ih, hsame, hw]
      _ = s.wire ++ (d :: ds).flatMap s.delivered := by rw [List.flatMap_cons, List.append_assoc]

/-! ### The send function -/

theorem sendFn_wire (hroom : s.getRoom r = some room) (call : SendCall) :
    (s.sendFn r call).wire = s.wire ++ s.posted room call := by
  unfold sendFn
  simp only [hroom]
  rw [sendToPlayers_wire]
  rfl

theorem sendFn_wire_dead (hroom : s.getRoom r = none) (call : SendCall) : (s.sendFn r call).wire = s.wire := by
  unfold sendFn
  simp only [hroom]
  rfl

theorem sendFn_apart (s : Server) (r : RoomId) (call : SendCall) : Apart s (s.sendFn r call) := by
  obtain ⟨w, hw⟩ := sendFn_frame s r call
  rw [hw]
  exact ⟨rfl, rfl, rfl, rfl⟩

theorem sendAll_wire (hroom : s.getRoom r = some room) (calls : List SendCall) :
    (s.sendAll r calls).wire = s.wire ++ calls.flatMap (s.posted room) := by
  induction calls generalizing s with
  | nil => simp [sendAll]
  | cons call calls ih =>
    have hapart := sendFn_apart s r call
    have hroom' : (s.sendFn r call).getRoom r = some room := (getRoom_sendAll s r r [call]).trans hroom
    calc (s.sendAll r (call :: calls)).wire = ((s.sendFn r call).sendAll r calls).wire := rfl
      _ = (s.wire ++ s.posted room call) ++ calls.flatMap (s.posted room) := by
        rw [ih hroom', posted_congr hapart.connections hapart.registry, sendFn_wire hroom]
      _ = s.wire ++ (call :: calls).flatMap (s.posted room) := by rw [List.flatMap_cons, List.append_assoc]

theorem sendAll_wire_dead (hroom : s.getRoom r = none) (calls : List SendCall) : (s.sendAll r calls).wire = s.wire := by
  induction calls generalizing s with
  | nil => rfl
  | cons call calls ih =>
    have hroom' : (s.sendFn r call).getRoom r = none := (getRoom_sendAll s r r [call]).trans hroom
    calc (s.sendAll r (call :: calls)).wire = ((s.sendFn r call).sendAll r calls).wire := rfl
      _ = s.wire := by rw [ih hroom', sendFn_wire_dead hroom]

/-! ### The result of a handler -/

theorem Routed.arrived_open {rec : ConnectionRecord} {command : Command} (h : s.Routed i c rec command) :
    (s.arrived c rec).connections.has c = true := by
  obtain ⟨connections, sessions, harrived, hhas, -⟩ := arrived_frame s c rec
  rw [harrived, hhas, JsMap.has, h.connection]
  rfl

/-- The last delivery of a handler is the last thing written. -/
theorem conclude_last {result : HandlerResult} {e : WireEvent} (front : List Delivery) (hfine : result.threw = false)
    (hdeliveries : result.deliveries = front ++ [.connection c e]) (hopen : result.server.connections.has c = true) :
    (conclude G c commandId result).wire.getLast? = some (c, e) := by
  have hlast : result.server.delivered (.connection c e) = [(c, e)] := if_pos hopen
  rw [conclude, hfine, if_neg Bool.false_ne_true, deliver_wire, hdeliveries, List.flatMap_append, List.flatMap_singleton,
    hlast, ← List.append_assoc, List.getLast?_concat]

/-- The first delivery of a response goes to the asking connection. -/
theorem conclude_respond_wire (hopen : s.connections.has c = true) (event : Event) (others : List Delivery) :
    ∃ rest, (conclude G c id (s.respond c id event others)).wire = s.wire ++ (c, .event event) :: rest := by
  have hfirst : (s.recordCommand id (.event event)).delivered (.connection c (.event event)) = [(c, .event event)] :=
    if_pos hopen
  refine ⟨others.flatMap (s.recordCommand id (.event event)).delivered, ?_⟩
  have hconclude : conclude G c id (s.respond c id event others) =
      (s.recordCommand id (.event event)).deliver (.connection c (.event event) :: others) := rfl
  rw [hconclude, deliver_wire, List.flatMap_cons, hfirst]
  rfl

end Server
end TicTacToe

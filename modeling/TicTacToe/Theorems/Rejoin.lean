import TicTacToe.Theorems.ClientSends
import TicTacToe.Theorems.LeftRoom

/-! # Coming back into a room

The `RECONNECT` of a client is sent by the callback of the transport's state, before the event of the same frame has
brought the room: what is sent depends on the state that was rendered before the frame. -/

namespace TicTacToe
namespace Client
variable {uuid : Nat → CommandId} {tab tab' tab'' : Tab} {i : TabInput} {token playerId version id : String}
  {room : ExistingRoom}

/-- The `RECONNECT`s sent between two states of a tab. -/
def reconnectsSince (tab tab' : Tab) : List Message :=
  (tab'.sent.drop tab.sent.length).filter fun m => m.command.body.type = .RECONNECT

/-- Exactly one `RECONNECT` has been sent, for this room and with this token. -/
def Rejoins (roomId : RoomId) (token : SessionToken) (tab tab' : Tab) : Prop :=
  ∃ id seq, reconnectsSince tab tab' = [⟨some token, id, .reconnect roomId seq⟩]

/-- The rendered state has the room and the token already. -/
structure Remembers (tab : Tab) (roomId : RoomId) (token : SessionToken) : Prop where
  roomId : present tab.state.roomId = some roomId
  token : present tab.state.sessionToken = some token

/-- What the client sends when the transport is authenticated. -/
def rejoinMessage (uuid : Nat → CommandId) (tab : Tab) : Option Message :=
  (present tab.state.roomId).bind fun roomId => (present tab.state.sessionToken).map fun token =>
    ⟨some token, uuid tab.nextId, .reconnect roomId tab.state.lastReceivedSeq⟩

/-! ### The frame -/

theorem onStateChange_authenticated_sent (hopen : tab.client.isOpen = true) :
    (tab.onStateChange uuid .authenticated).sent = tab.sent ++ (rejoinMessage uuid tab).toList := by
  unfold Tab.onStateChange rejoinMessage
  simp only [if_true]
  cases hroom : present tab.state.roomId with
  | none => simp [Tab.dispatch, hroom]
  | some roomId =>
    cases htoken : present tab.state.sessionToken with
    | none => simp [Tab.dispatch, hroom, htoken]
    | some token => simp [Tab.sendNew, Tab.send, Tab.dispatch, hroom, htoken, hopen]

/-- In state `CONNECTED` the frame has the `RECONNECT` sent that the rendered state tells of. -/
theorem authAck_sent (hopen : tab.client.isOpen = true) (hconnected : tab.client.state = .connected)
    (existingRoom : Option ExistingRoom) :
    (tab.handleFrame uuid (.authAck token playerId version existingRoom id)).sent =
      tab.sent ++ (rejoinMessage uuid tab).toList := by
  rw [Tab.handleFrame, restoreHead_sent, dispatchEvent_sent, Tab.receive, Tab.setState, if_neg]
  · have hlinked : ((tab.updateClient fun client =>
        { client with sessionToken := some token }).updateClient fun client =>
          { client with state := .authenticated }).client.isOpen = true := hopen
    exact onStateChange_authenticated_sent hlinked
  · change tab.client.state ≠ .authenticated
    rw [hconnected]
    decide

theorem rejoinMessage_eq_some_iff {m : Message} : rejoinMessage uuid tab = some m ↔
    ∃ roomId token, Remembers tab roomId token ∧
      m = ⟨some token, uuid tab.nextId, .reconnect roomId tab.state.lastReceivedSeq⟩ := by
  unfold rejoinMessage
  constructor
  · intro h
    obtain ⟨roomId, hroom, h⟩ := Option.bind_eq_some_iff.mp h
    obtain ⟨token, htoken, h⟩ := Option.map_eq_some_iff.mp h
    exact ⟨roomId, token, ⟨hroom, htoken⟩, h.symm⟩
  · rintro ⟨roomId, token, ⟨hroom, htoken⟩, rfl⟩
    rw [hroom, htoken]
    rfl

/-! ### Afterwards -/

theorem setState_same {next : WsState} (h : tab.client.state = next) : tab.setState uuid next = tab := if_pos h

/-- An authenticated transport sends no further `RECONNECT`. -/
theorem authenticated_sends (h : tab.step uuid i = some tab') (ha : tab.client.state = .authenticated) :
    Sends (fun body => body.type ≠ .RECONNECT) tab tab' := by
  cases i with
  | received event =>
    obtain ⟨u, hu, rfl⟩ := Option.map_eq_some_iff.mp h
    simp only [Tab.callback, Option.ite_none_right_eq_some, Option.some.injEq] at hu
    obtain ⟨-, rfl⟩ := hu
    suffices hframe : Sends (fun body => body.type ≠ .RECONNECT) tab (event.elim tab (tab.handleFrame uuid)) from
      hframe.trans (.of_same rfl)
    cases event with
    | none => exact .refl tab
    | some event =>
      refine handleFrame_sends ?_
      cases event with
      | authAck =>
        -- The state is `AUTHENTICATED` already, so that nothing is called back.
        exact (Sends.updateClient tab _).trans (.of_same (congrArg Tab.sent (setState_same ha)))
      | pong => exact .of_same rfl
      | error => exact .refl tab
      | room event => exact receive_room_sends (fun _ _ => by simp [CommandBody.type]) tab event
  | _ =>
    refine (step_sends h).mono fun body hbody he => ?_
    rw [he] at hbody
    simp [TabInput.commandTypes] at hbody

theorem Sends.reconnectsSince_eq {origin : Tab} (h : Sends (fun body => body.type ≠ .RECONNECT) tab tab')
    (hle : origin.sent.length ≤ tab.sent.length) : reconnectsSince origin tab' = reconnectsSince origin tab := by
  obtain ⟨messages, hsent, hm⟩ := h
  rw [reconnectsSince, reconnectsSince, hsent, List.drop_append_of_le_length hle, List.filter_append]
  have hnone : (messages.filter fun m => m.command.body.type = .RECONNECT) = [] := by
    simpa [List.filter_eq_nil_iff] using hm
  rw [hnone, List.append_nil]

/-- From `AUTHENTICATED` on, and as long as the transport stays there, the `RECONNECT`s are those of before. -/
theorem authenticated_reconnects {origin : Tab} (hle : origin.sent.length ≤ tab.sent.length)
    (h : Tab.Runs uuid (fun t _ => t.client.state = .authenticated) tab tab') :
    reconnectsSince origin tab' = reconnectsSince origin tab := by
  have hboth := h.invariant
    (P := fun t => origin.sent.length ≤ t.sent.length ∧ reconnectsSince origin t = reconnectsSince origin tab)
    ⟨hle, rfl⟩ (by
      rintro t u i ⟨hlength, ht⟩ ha hstep
      have hsends := authenticated_sends hstep ha
      refine ⟨?_, (hsends.reconnectsSince_eq hlength).trans ht⟩
      obtain ⟨messages, hsent, -⟩ := hsends
      rw [hsent, List.length_append]
      omega)
  exact hboth.2

/-- The parts of an `AUTH_ACK` with a room that comes alone. -/
def loneAuthAck : List TabInput → Option (SessionToken × PlayerId × String × ExistingRoom × CommandId)
  | [.received (some (.authAck token playerId version (some room) id))] => some (token, playerId, version, room, id)
  | _ => none

theorem eq_of_loneAuthAck {inputs : List TabInput} (h : loneAuthAck inputs = some (token, playerId, version, room, id)) :
    inputs = [.received (some (.authAck token playerId version (some room) id))] := by
  unfold loneAuthAck at h
  split at h
  · simp only [Option.some.injEq, Prod.mk.injEq] at h
    obtain ⟨rfl, rfl, rfl, rfl, rfl⟩ := h
    rfl
  · cases h

end Client

open Client
open Server (tally tallies fresh opening asks)

/-- An `AUTH_ACK` with a room in state `CONNECTED`: as long as the transport stays authenticated, the client has sent
exactly one `RECONNECT`, for that room and with that token, if and only if the rendered state had both before. -/
theorem rejoin_iff {uuid : Nat → CommandId} {tab tab' tab'' : Tab} {token playerId version id : String}
    {room : ExistingRoom} (hconnected : tab.client.state = .connected)
    (hstep : tab.step uuid (.received (some (.authAck token playerId version (some room) id))) = some tab')
    (hrun : Tab.Runs uuid (fun t _ => t.client.state = .authenticated) tab' tab'') :
    Rejoins room.roomId token tab tab'' ↔ Remembers tab room.roomId token := by
  obtain ⟨u, hu, rfl⟩ := Option.map_eq_some_iff.mp hstep
  simp only [Tab.callback, Option.ite_none_right_eq_some, Option.some.injEq, Option.elim_some] at hu
  obtain ⟨hopen, rfl⟩ := hu
  have hsent : (tab.handleFrame uuid (.authAck token playerId version (some room) id)).render.sent =
      tab.sent ++ (rejoinMessage uuid tab).toList := authAck_sent hopen hconnected (some room)
  have hreconnects : reconnectsSince tab tab'' = (rejoinMessage uuid tab).toList := by
    rw [authenticated_reconnects (by rw [hsent, List.length_append]; omega) hrun, reconnectsSince, hsent,
      List.drop_left, List.filter_eq_self]
    intro m hm
    obtain ⟨roomId, token', -, rfl⟩ := rejoinMessage_eq_some_iff.mp (Option.mem_toList.mp hm)
    rfl
  rw [Rejoins, hreconnects]
  constructor
  · rintro ⟨id, seq, h⟩
    have hmessage : rejoinMessage uuid tab = some ⟨some token, id, .reconnect room.roomId seq⟩ := by
      rw [← Option.mem_toList, h]
      exact List.mem_singleton_self _
    obtain ⟨roomId, token', hremembers, he⟩ := rejoinMessage_eq_some_iff.mp hmessage
    simp only [Message.mk.injEq, Option.some.injEq, Command.mk.injEq, CommandBody.reconnect.injEq] at he
    obtain ⟨rfl, -, rfl, -⟩ := he
    exact hremembers
  · intro hremembers
    exact ⟨_, _, by rw [rejoinMessage_eq_some_iff.mpr ⟨_, _, hremembers, rfl⟩]; rfl⟩

/-- Player 1 loses the connection after the opening and comes back with the session. -/
def comesBack : List Input := opening ++
  [.socketClosed (tally 'c' 0), .connect, asks 6 "auth6" (.auth (some (tally 't' 1)))]

/-- The tab of player 1 has only lost its connection: it rejoins its room. -/
theorem rejoin_after_loss : ∃ (s : Server) (a b : Tab) (token playerId version id : String) (room : ExistingRoom),
    Server.Runs tallies (fun _ _ => True) fresh s ∧
    heard (tally 'c' 6) s.wire = [.received (some (.authAck token playerId version (some room) id))] ∧
    Tab.Runs (tally 'u') (fun _ _ => True) (.load .default 0 none none) a ∧
    a.step (tally 'u') (.received (some (.authAck token playerId version (some room) id))) = some b ∧
    Rejoins room.roomId token a b := by
  have hcheck : (Transition.run (Server.step tallies) (fun _ _ => true) fresh comesBack).any (fun s =>
      (loneAuthAck (heard (tally 'c' 6) s.wire)).any fun x =>
        (after (tally 'u') (.load .default 0 none none) ([.connect false, .opened] ++ heard (tally 'c' 0) s.wire ++
          [.socketClosed 1006, .retry false, .opened])).any fun a =>
          a.client.state = .connected && a.client.isOpen && present a.state.roomId = some x.2.2.2.1.roomId &&
            present a.state.sessionToken = some x.1) = true := by decide +kernel
  obtain ⟨s, hrun, hs⟩ := Transition.exists_run (C := fun _ _ => True) (fun _ _ _ => trivial) hcheck
  obtain ⟨⟨token, playerId, version, room, id⟩, hack, hs⟩ := (Option.any_eq_true _ _).mp hs
  obtain ⟨a, ha, hs⟩ := (Option.any_eq_true _ _).mp hs
  simp only [Bool.and_eq_true, decide_eq_true_eq] at hs
  obtain ⟨⟨⟨hconnected, hopen⟩, hroom⟩, htoken⟩ := hs
  have hstep : a.step (tally 'u') (.received (some (.authAck token playerId version (some room) id))) =
      some (a.handleFrame (tally 'u') (.authAck token playerId version (some room) id)).render := by
    simp [Tab.step, Tab.callback, hopen]
  exact ⟨s, a, _, token, playerId, version, id, room, hrun, eq_of_loneAuthAck hack,
    Transition.runs_of_run (fun _ _ _ => trivial) ha, hstep, (rejoin_iff hconnected hstep .refl).mpr ⟨hroom, htoken⟩⟩

/-- The tab of player 1 has been reloaded, with the session still in store: the `AUTH_ACK` tells it of its room, and it
does not rejoin. -/
theorem no_rejoin_after_reload : ∃ (s : Server) (a b : Tab) (token playerId version id : String) (room : ExistingRoom),
    Server.Runs tallies (fun _ _ => True) fresh s ∧
    heard (tally 'c' 6) s.wire = [.received (some (.authAck token playerId version (some room) id))] ∧
    after (tally 'u') (.load .default 0 (some token) (some room.roomId)) [.connect false, .opened] = some a ∧
    a.client.state = .connected ∧
    a.step (tally 'u') (.received (some (.authAck token playerId version (some room) id))) = some b ∧
    reconnectsSince a b = [] ∧ ¬Rejoins room.roomId token a b := by
  have hcheck : (Transition.run (Server.step tallies) (fun _ _ => true) fresh comesBack).any (fun s =>
      (loneAuthAck (heard (tally 'c' 6) s.wire)).any fun x =>
        (after (tally 'u') (.load .default 0 (some x.1) (some x.2.2.2.1.roomId)) [.connect false, .opened]).any fun a =>
          a.client.state = .connected && (a.step (tally 'u')
            (.received (some (.authAck x.1 x.2.1 x.2.2.1 (some x.2.2.2.1) x.2.2.2.2)))).any fun b =>
              (reconnectsSince a b).isEmpty) = true := by decide +kernel
  obtain ⟨s, hrun, hs⟩ := Transition.exists_run (C := fun _ _ => True) (fun _ _ _ => trivial) hcheck
  obtain ⟨⟨token, playerId, version, room, id⟩, hack, hs⟩ := (Option.any_eq_true _ _).mp hs
  obtain ⟨a, ha, hs⟩ := (Option.any_eq_true _ _).mp hs
  simp only [Bool.and_eq_true, decide_eq_true_eq, Option.any_eq_true, List.isEmpty_iff] at hs
  obtain ⟨hconnected, b, hb, hnone⟩ := hs
  refine ⟨s, a, b, token, playerId, version, id, room, hrun, eq_of_loneAuthAck hack, ha, hconnected, hb, hnone, ?_⟩
  rintro ⟨id', seq, h⟩
  rw [hnone] at h
  cases h

end TicTacToe

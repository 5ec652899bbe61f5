import TicTacToe.Theorems.ClientTab
import TicTacToe.Theorems.Runs

/-! # After leaving a room

The client forgets its room at once, while events of the room are still on their way. No case of the reducer looks at
the room of an event: those that set the phase bring the screen of a game or of a waiting room back. -/

namespace TicTacToe
namespace Client
variable {uuid : Nat → CommandId} {tab tab' : Tab} {state : ClientState} {i : TabInput} {config : WsClientConfig}

/-- The client is in no room, and shows the lobby unless its socket is recovering. -/
structure InLobby (state : ClientState) : Prop where
  phase : state.phase = .lobby ∨ state.phase = .reconnecting ∧ state.wsState = .reconnecting
  roomId : state.roomId = none
  gameStatus : state.gameStatus = .waiting

/-- A screen of a room is shown. -/
def OnScreen (state : ClientState) : Prop := state.phase ≠ .lobby ∧ state.phase ≠ .reconnecting

theorem InLobby.not_onScreen (h : InLobby state) : ¬OnScreen state := by
  rintro ⟨hlobby, hreconnecting⟩
  rcases h.phase with h | ⟨h, -⟩
  · exact hlobby h
  · exact hreconnecting h

/-! ### Actions -/

/-- The action puts the client into a room. -/
def GameAction.enters : GameAction → Bool
  | .authAck _ _ existingRoom => existingRoom.isSome
  | .roomJoined .. => true
  | _ => false

/-- The action shows a screen of a room. -/
def GameAction.shows : GameAction → Bool
  | .playerJoined .. => true
  | .playerLeft _ => true
  | .gameStarted .. => true
  | .gameFinished .. => true
  | .reconnectAck .. => true
  | _ => false

/-- The action is about the transport, or a command of the user. -/
def GameAction.isLocal : GameAction → Bool
  | .wsStateChanged _ => true
  | .leaveRoom => true
  | _ => false

theorem reducer_keeps_lobby {a : GameAction} (hs : InLobby state) (henters : a.enters = false) (hshows : a.shows = false) :
    InLobby (gameReducer state a) := by
  obtain ⟨hphase, hroom, hstatus⟩ := hs
  cases a with
  | wsStateChanged wsState =>
    refine ⟨?_, hroom, hstatus⟩
    by_cases hws : wsState = .reconnecting
    · exact Or.inr ⟨by simp [gameReducer, hws], hws⟩
    · left
      rcases hphase with hphase | ⟨hphase, -⟩
      · simp [gameReducer, hws, hphase]
      · simp [gameReducer, hws, hphase, derivePhase, hroom, present]
  | authAck token playerId existingRoom =>
    obtain rfl : existingRoom = none := Option.not_isSome_iff_eq_none.mp (Bool.eq_false_iff.mp henters)
    exact ⟨hphase, hroom, hstatus⟩
  | moveOptimistic id row col board =>
    unfold gameReducer
    dsimp only
    split
    · exact ⟨hphase, hroom, hstatus⟩
    · exact ⟨hphase, hroom, hstatus⟩
  | leaveRoom => exact ⟨Or.inl rfl, rfl, rfl⟩
  | roomJoined => cases henters
  | playerJoined | playerLeft | gameStarted | gameFinished | reconnectAck => cases hshows
  | _ => exact ⟨hphase, hroom, hstatus⟩

theorem reducer_shows {a : GameAction} (h : a.shows = true) (state : ClientState) : OnScreen (gameReducer state a) := by
  cases a with
  | playerJoined symbol info =>
    unfold gameReducer OnScreen
    dsimp only
    split <;> simp
  | reconnectAck fields seq =>
    unfold gameReducer OnScreen
    dsimp only
    split
    · simp
    · split
      · simp
      · split <;> simp
  | playerLeft | gameStarted | gameFinished => simp [gameReducer, OnScreen]
  | _ => cases h

/-- An action of an event keeps a screen. -/
theorem reducer_keeps_screen {a : GameAction} (hs : OnScreen state) (henters : a.enters = false)
    (hlocal : a.isLocal = false) : OnScreen (gameReducer state a) := by
  cases hshows : a.shows with
  | true => exact reducer_shows hshows state
  | false =>
    cases a with
    | wsStateChanged | leaveRoom => cases hlocal
    | roomJoined => cases henters
    | playerJoined | playerLeft | gameStarted | gameFinished | reconnectAck => cases hshows
    | moveOptimistic id row col board =>
      unfold gameReducer
      dsimp only
      split
      · exact hs
      · exact hs
    | _ => exact hs

/-- Once one of the actions has shown a screen, the others keep it. -/
theorem foldl_shows {actions : List GameAction} (hcalm : ∀ a ∈ actions, a.enters = false ∧ a.isLocal = false)
    (h : actions.any GameAction.shows = true) (state : ClientState) : OnScreen (actions.foldl gameReducer state) := by
  induction actions generalizing state with
  | nil => cases h
  | cons a actions ih =>
    have hrest : ∀ b ∈ actions, b.enters = false ∧ b.isLocal = false := fun b hb => hcalm b (List.mem_cons_of_mem _ hb)
    rw [List.any_cons, Bool.or_eq_true] at h
    rw [List.foldl_cons]
    rcases h with h | h
    · exact foldl_keeps (I := OnScreen) (P := fun b => b.enters = false ∧ b.isLocal = false) (reducer_shows h state)
        (fun _ _ hs hb => reducer_keeps_screen hs hb.1 hb.2) hrest
    · exact ih hrest h _

/-! ### Events -/

/-- The event puts the client into a room. -/
def enters : RoomPayload → Bool
  | .roomJoined .. => true
  | .reconnectAck .. => true
  | _ => false

/-- The event shows a screen of a room. -/
def shows : RoomPayload → Bool
  | .playerJoined .. => true
  | .playerLeft .. => true
  | .gameStarted .. => true
  | .gameFinished .. => true
  | .stateSyncSnapshot _ => true
  | _ => false

/-- The actions of room events: they show a screen if a part of the events does. -/
structure Shown (parts : List RoomPayload) (tab tab' : Tab) : Prop where
  state : tab'.state = tab.state
  queue : ∃ actions, tab'.queue = tab.queue ++ actions ∧ (∀ a ∈ actions, a.enters = false ∧ a.isLocal = false) ∧
    actions.any GameAction.shows = parts.any shows

namespace Shown
variable {parts parts' : List RoomPayload} {tab'' : Tab}

theorem trans (h₁ : Shown parts tab tab') (h₂ : Shown parts' tab' tab'') : Shown (parts ++ parts') tab tab'' := by
  obtain ⟨actions, hq, hcalm, hshows⟩ := h₁.queue
  obtain ⟨actions', hq', hcalm', hshows'⟩ := h₂.queue
  refine ⟨h₂.state.trans h₁.state, actions ++ actions', by rw [hq', hq, List.append_assoc], fun a ha => ?_, ?_⟩
  · rcases List.mem_append.mp ha with ha | ha
    · exact hcalm a ha
    · exact hcalm' a ha
  · rw [List.any_append, List.any_append, hshows, hshows']

theorem refl (tab : Tab) : Shown [] tab tab := ⟨rfl, [], by simp, by simp, rfl⟩

/-- A payload with one action of its own, if any. -/
theorem one {payload : RoomPayload} {a : GameAction} (hs : tab'.state = tab.state) (hq : tab'.queue = tab.queue ++ [a])
    (hcalm : a.enters = false ∧ a.isLocal = false) (hshows : a.shows = shows payload) : Shown [payload] tab tab' := by
  refine ⟨hs, [a], hq, fun b hb => List.mem_singleton.mp hb ▸ hcalm, ?_⟩
  simp [hshows]

end Shown

/-- The number of an event is applied after its payload. -/
theorem Shown.numbered {parts : List RoomPayload} (h : Shown parts tab tab') (seq : Nat) :
    Shown parts tab (tab'.dispatch (.seqAdvanced seq)) := by
  obtain ⟨actions, hq, hcalm, hshows⟩ := h.queue
  refine ⟨h.state, actions ++ [.seqAdvanced seq], ?_, fun a ha => ?_, ?_⟩
  · rw [Tab.dispatch, hq, List.append_assoc]
  · rcases List.mem_append.mp ha with ha | ha
    · exact hcalm a ha
    · obtain rfl := List.mem_singleton.mp ha
      exact ⟨rfl, rfl⟩
  · rw [List.any_append, hshows]
    simp [GameAction.shows]

mutual

/-- Along the events of a replay, by induction on the event. -/
theorem dispatchRoomEvent_shown : ∀ (event : EventEnvelope RoomPayload) (tab : Tab),
    (partsOf event).any enters = false → Shown (partsOf event) tab (Tab.dispatchRoomEvent event tab)
  | ⟨roomId, seq, correlationId, payload⟩, tab, h => by
    rw [Tab.dispatchRoomEvent]
    exact (dispatchPayload_shown payload roomId seq correlationId tab h).numbered seq

theorem dispatchPayload_shown : ∀ (payload : RoomPayload) (roomId : RoomId) (seq : Nat) (correlationId : Option CommandId)
    (tab : Tab), payload.parts.any enters = false →
    Shown payload.parts tab (Tab.dispatchPayload payload roomId seq correlationId tab)
  | .stateSyncReplay _ _ events, roomId, seq, correlationId, tab, h => by
    rw [Tab.dispatchPayload]
    exact dispatchEach_shown events tab h
  | .roomJoined .., _, _, _, _, h => by cases h
  | .reconnectAck .., _, _, _, _, h => by cases h
  | .roomLeft, _, _, _, tab, _ => ⟨rfl, [], by simp [Tab.dispatchPayload], by simp, rfl⟩
  | .playerJoined .., _, _, _, _, _ => .one rfl rfl ⟨rfl, rfl⟩ rfl
  | .playerLeft .., _, _, _, _, _ => .one rfl rfl ⟨rfl, rfl⟩ rfl
  | .playerReadyAck _, _, _, _, _, _ => .one rfl rfl ⟨rfl, rfl⟩ rfl
  | .opponentReady .., _, _, _, _, _ => .one rfl rfl ⟨rfl, rfl⟩ rfl
  | .gameStarted .., _, _, _, _, _ => .one rfl rfl ⟨rfl, rfl⟩ rfl
  | .moveAck .., _, _, _, _, _ => .one rfl rfl ⟨rfl, rfl⟩ rfl
  | .moveBroadcast .., _, _, _, _, _ => .one rfl rfl ⟨rfl, rfl⟩ rfl
  | .moveRejected .., _, _, _, _, _ => .one rfl rfl ⟨rfl, rfl⟩ rfl
  | .gameFinished .., _, _, _, _, _ => .one rfl rfl ⟨rfl, rfl⟩ rfl
  | .rematchRequested .., _, _, _, _, _ => .one rfl rfl ⟨rfl, rfl⟩ rfl
  | .rematchDeclined .., _, _, _, _, _ => .one rfl rfl ⟨rfl, rfl⟩ rfl
  | .rematchExpired _, _, _, _, _, _ => .one rfl rfl ⟨rfl, rfl⟩ rfl
  | .opponentDisconnected .., _, _, _, _, _ => .one rfl rfl ⟨rfl, rfl⟩ rfl
  | .opponentReconnected _, _, _, _, _, _ => .one rfl rfl ⟨rfl, rfl⟩ rfl
  | .stateSyncSnapshot _, _, _, _, _, _ => .one rfl rfl ⟨rfl, rfl⟩ rfl

theorem dispatchEach_shown : ∀ (events : List (EventEnvelope RoomPayload)) (tab : Tab),
    (partsOfEach events).any enters = false → Shown (partsOfEach events) tab (Tab.dispatchEach events tab)
  | [], tab, _ => .refl tab
  | event :: events, tab, h => by
    rw [partsOfEach, List.any_append, Bool.or_eq_false_iff] at h
    rw [Tab.dispatchEach, partsOfEach]
    exact (dispatchRoomEvent_shown event tab h.1).trans (dispatchEach_shown events _ h.2)

end

/-! ### Inputs -/

/-- The input makes the client enter a room: a `ROOM_JOINED`, a `RECONNECT_ACK` or an `AUTH_ACK` with a room. -/
def TabInput.enters : TabInput → Bool
  | .received (some (.authAck _ _ _ existingRoom _)) => existingRoom.isSome
  | .received (some (.room event)) => (partsOf event).any Client.enters
  | _ => false

/-- The input has the client handle an event that shows a screen of a room, on its own or in a replay. -/
def TabInput.shows : TabInput → Bool
  | .received (some (.room event)) => (partsOf event).any Client.shows
  | _ => false

/-- The actions of an input that neither enters a room nor shows a screen keep the lobby. -/
theorem callback_calm (henters : i.enters = false) (hshows : i.shows = false) (h : tab.callback uuid i = some tab') :
    Queues (fun a => a.enters = false ∧ a.shows = false) tab tab' := by
  have hws : ∀ wsState, (GameAction.wsStateChanged wsState).enters = false ∧
      (GameAction.wsStateChanged wsState).shows = false := fun _ => ⟨rfl, rfl⟩
  refine callback_queues hws ⟨rfl, rfl⟩ (fun event tab hi => ?_) (fun _ => ⟨rfl, rfl⟩) (fun _ _ _ _ _ => ⟨rfl, rfl⟩) h
  subst hi
  cases event with
  | authAck token playerId version existingRoom id =>
    obtain rfl : existingRoom = none := Option.not_isSome_iff_eq_none.mp (Bool.eq_false_iff.mp henters)
    exact .dispatch _ ⟨rfl, rfl⟩
  | pong | error => exact .refl _
  | room event =>
    obtain ⟨hstate, actions, hq, hcalm, hany⟩ := dispatchRoomEvent_shown event tab henters
    refine ⟨hstate, actions, hq, fun a ha => ⟨(hcalm a ha).1, ?_⟩⟩
    have hnone : actions.any GameAction.shows = false := hany.trans hshows
    simpa using List.any_eq_false.mp hnone a ha

/-- A step that neither enters a room nor shows a screen keeps the lobby. -/
theorem InLobby.step (hs : InLobby tab.state) (hempty : tab.queue = []) (henters : i.enters = false)
    (hshows : i.shows = false) (h : tab.step uuid i = some tab') : InLobby tab'.state := by
  obtain ⟨u, hu, rfl⟩ := Option.map_eq_some_iff.mp h
  exact (callback_calm henters hshows hu).render hempty hs fun _ _ hs ha => reducer_keeps_lobby hs ha.1 ha.2

/-- A step that handles an event of a room brings a screen back. -/
theorem onScreen_of_shows (hempty : tab.queue = []) (henters : i.enters = false) (hshows : i.shows = true)
    (h : tab.step uuid i = some tab') : OnScreen tab'.state := by
  obtain ⟨u, hu, rfl⟩ := Option.map_eq_some_iff.mp h
  obtain ⟨event, rfl⟩ : ∃ event, i = .received (some (.room event)) := by
    unfold TabInput.shows at hshows
    split at hshows
    · exact ⟨_, rfl⟩
    · cases hshows
  simp only [Tab.callback, Option.ite_none_right_eq_some, Option.some.injEq] at hu
  obtain ⟨-, rfl⟩ := hu
  obtain ⟨hstate, actions, hq, hcalm, hany⟩ := dispatchRoomEvent_shown event (tab.receive uuid (.room event)) henters
  -- The transport dispatches nothing for a room event.
  obtain ⟨-, before, hbefore, hnone⟩ := receive_room_queues (P := fun _ => False) uuid tab event
  obtain rfl : before = [] := List.eq_nil_iff_forall_not_mem.mpr hnone
  obtain ⟨-, behind, hbehind, hnone⟩ := restoreHead_queues (P := fun _ => False)
    (Tab.dispatchRoomEvent event (tab.receive uuid (.room event))) (.room event)
  obtain rfl : behind = [] := List.eq_nil_iff_forall_not_mem.mpr hnone
  have hqueue : (tab.handleFrame uuid (.room event)).queue = actions := by
    rw [Tab.handleFrame, Tab.dispatchEvent, hbehind, hq, hbefore, hempty]
    simp
  rw [Option.elim_some, Tab.render, hqueue]
  exact foldl_shows hcalm (hany.trans hshows) _

/-! ### Runs after leaving -/

/-- The tab after a list of inputs that can all happen. -/
abbrev after (uuid : Nat → CommandId) (tab : Tab) (inputs : List TabInput) : Option Tab :=
  Transition.run (Tab.step uuid) (fun _ _ => true) tab inputs

theorem after_cons (tab : Tab) (i : TabInput) (inputs : List TabInput) :
    after uuid tab (i :: inputs) = (tab.step uuid i).bind fun tab' => after uuid tab' inputs := rfl

/-- From the lobby, until the client enters a room: it stays there as long as no event shows a screen. -/
theorem lobby_iff {inputs : List TabInput} {u : Tab} (hempty : tab.queue = []) (hs : InLobby tab.state)
    (hinputs : ∀ i ∈ inputs, i.enters = false) (hafter : after uuid tab inputs = some u) :
    (∀ k v, after uuid tab (inputs.take k) = some v → InLobby v.state) ↔ ∀ i ∈ inputs, i.shows = false := by
  induction inputs generalizing tab with
  | nil =>
    refine ⟨fun _ i hi => by simp at hi, fun _ k v hv => ?_⟩
    rw [List.take_nil] at hv
    exact Option.some.inj hv ▸ hs
  | cons i inputs ih =>
    obtain ⟨tab', hstep, hafter⟩ := Option.bind_eq_some_iff.mp hafter
    have henters : i.enters = false := hinputs i List.mem_cons_self
    have hrest : ∀ j ∈ inputs, j.enters = false := fun j hj => hinputs j (List.mem_cons_of_mem _ hj)
    have hfront : ∀ k, after uuid tab ((i :: inputs).take (k + 1)) = after uuid tab' (inputs.take k) := by
      intro k
      rw [List.take_succ_cons, after_cons, hstep, Option.bind_some]
    constructor
    · intro hstays
      have hs' : InLobby tab'.state := hstays 1 tab' ((hfront 0).trans rfl)
      have hshows : i.shows = false := by
        by_contra h
        exact hs'.not_onScreen (onScreen_of_shows hempty henters (Bool.not_eq_false _ ▸ h) hstep)
      have hothers := (ih (step_queue hstep) hs' hrest hafter).mp fun k v hv => hstays (k + 1) v ((hfront k).trans hv)
      exact fun j hj => (List.mem_cons.mp hj).elim (fun he => he ▸ hshows) (hothers j)
    · intro hshows k v hv
      have hs' : InLobby tab'.state := hs.step hempty henters (hshows i List.mem_cons_self) hstep
      cases k with
      | zero => exact Option.some.inj hv ▸ hs
      | succ k =>
        exact (ih (step_queue hstep) hs' hrest hafter).mpr (fun j hj => hshows j (List.mem_cons_of_mem _ hj)) k v
          ((hfront k).symm.trans hv)

/-- The user can leave: the client has a session, and the state has a room. -/
def Tab.canLeave (tab : Tab) : Bool := tab.token.isSome && (present tab.state.roomId).isSome

theorem leaveRoom_inLobby (hempty : tab.queue = []) (hleaves : tab.canLeave = true)
    (h : tab.step uuid .leaveRoom = some tab') : InLobby tab'.state := by
  obtain ⟨u, hu, rfl⟩ := Option.map_eq_some_iff.mp h
  obtain ⟨htoken, hroom⟩ := Bool.and_eq_true_iff.mp hleaves
  obtain ⟨t, ht⟩ := Option.isSome_iff_exists.mp htoken
  obtain ⟨r, hr⟩ := Option.isSome_iff_exists.mp hroom
  obtain rfl := Option.some.inj hu
  have hqueue : (tab.leaveRoom uuid).queue = [.leaveRoom] := by
    obtain ⟨-, actions, hq, hnone⟩ := Queues.sendNew (P := fun _ => False) uuid tab (some t) (.leaveRoom r)
    obtain rfl : actions = [] := List.eq_nil_iff_forall_not_mem.mpr hnone
    rw [Tab.leaveRoom, Tab.roomCommand, ht, hr]
    simp only [Tab.updateClient, Tab.dispatch, hq, hempty, List.append_nil, List.nil_append]
  rw [Tab.render, hqueue]
  exact ⟨Or.inl rfl, rfl, rfl⟩

/-- What a connection hears, as the frames of its tab. -/
def heard (c : ConnectionId) (wire : List (ConnectionId × WireEvent)) : List TabInput :=
  wire.filterMap fun entry =>
    match entry.2 with
    | .event e => if entry.1 = c then some (.received (some e)) else none
    | .processed => none

end Client

open Client
open Server (tally tallies fresh opening asks)

/-- After leaving, until the client enters a room again, it is in the lobby in every state reached, if and only if it
handles no `PLAYER_JOINED`, `PLAYER_LEFT`, `GAME_STARTED` or `GAME_FINISHED` and no snapshot on its own or in a replay. -/
theorem leaving_is_final_iff {uuid : Nat → CommandId} {config : WsClientConfig} {now : Millis}
    {storedToken : Option SessionToken} {storedRoom : Option RoomId} {s t u : Tab}
    (hrun : Tab.Runs uuid (fun _ _ => True) (.load config now storedToken storedRoom) s) (hleaves : s.canLeave = true)
    (hstep : s.step uuid .leaveRoom = some t) {inputs : List TabInput} (hinputs : ∀ i ∈ inputs, i.enters = false)
    (hafter : after uuid t inputs = some u) :
    (∀ k v, after uuid t (inputs.take k) = some v → InLobby v.state) ↔ ∀ i ∈ inputs, i.shows = false :=
  lobby_iff (step_queue hstep) (leaveRoom_inLobby (runs_queue hrun) hleaves hstep) hinputs hafter

/-- Player 1 leaves a room without an opponent, and hears the `ROOM_LEFT` only. -/
theorem leaving_is_final_alone : ∃ (s s' : Server) (a b d : Tab),
    Server.Runs tallies (fun _ _ => True) fresh s ∧
    s.step tallies (asks 0 "leave1" (.leaveRoom (tally 'r' 2))) = some s' ∧
    (heard (tally 'c' 0) (s'.wire.drop s.wire.length)).length = 1 ∧
    Tab.Runs (tally 'u') (fun _ _ => True) (.load .default 0 none none) a ∧
    a.step (tally 'u') .leaveRoom = some b ∧
    after (tally 'u') b (heard (tally 'c' 0) (s'.wire.drop s.wire.length)) = some d ∧
    ∀ k v, after (tally 'u') b ((heard (tally 'c' 0) (s'.wire.drop s.wire.length)).take k) = some v →
      InLobby v.state := by
  have hcheck : (Transition.run (Server.step tallies) (fun _ _ => true) fresh
      [.connect, asks 0 "auth1" (.auth none), .createRoom, asks 0 "join1" (.joinRoom (tally 'r' 2) none)]).any (fun s =>
      (s.step tallies (asks 0 "leave1" (.leaveRoom (tally 'r' 2)))).any fun s' =>
        (after (tally 'u') (.load .default 0 none none) ([.connect false, .opened] ++ heard (tally 'c' 0) s.wire)).any
          fun a => a.canLeave && (a.step (tally 'u') .leaveRoom).any fun b =>
            (after (tally 'u') b (heard (tally 'c' 0) (s'.wire.drop s.wire.length))).any fun d =>
              (heard (tally 'c' 0) (s'.wire.drop s.wire.length)).all (fun i => !i.enters && !i.shows) &&
                (heard (tally 'c' 0) (s'.wire.drop s.wire.length)).length = 1) = true := by decide +kernel
  obtain ⟨s, hrun, hs⟩ := Transition.exists_run (C := fun _ _ => True) (fun _ _ _ => trivial) hcheck
  simp only [Option.any_eq_true, Bool.and_eq_true, List.all_eq_true, Bool.not_eq_true', decide_eq_true_eq] at hs
  obtain ⟨s', hstep, a, ha, hleaves, b, hb, d, hd, hcalm, hlength⟩ := hs
  have ha' : Tab.Runs (tally 'u') (fun _ _ => True) (.load .default 0 none none) a :=
    Transition.runs_of_run (fun _ _ _ => trivial) ha
  exact ⟨s, s', a, b, d, hrun, hstep, hlength, ha', hb, hd,
    (leaving_is_final_iff ha' hleaves hb (fun i hi => (hcalm i hi).1) hd).mpr fun i hi => (hcalm i hi).2⟩

/-- The tab of player 1 follows the opening, and the player leaves: the forfeit has been announced to the player's slot
before it is freed, and the result is shown where the lobby was. -/
theorem forfeit_shown_after_leaving : ∃ (s s' : Server) (a b d : Tab),
    Server.Runs tallies (fun _ _ => True) fresh s ∧
    s.step tallies (asks 0 "leave1" (.leaveRoom (tally 'r' 4))) = some s' ∧
    Tab.Runs (tally 'u') (fun _ _ => True) (.load .default 0 none none) a ∧
    after (tally 'u') (.load .default 0 none none) ([.connect false, .opened] ++ heard (tally 'c' 0) s.wire) = some a ∧
    a.canLeave = true ∧ a.step (tally 'u') .leaveRoom = some b ∧
    (∀ i ∈ heard (tally 'c' 0) (s'.wire.drop s.wire.length), i.enters = false) ∧
    after (tally 'u') b (heard (tally 'c' 0) (s'.wire.drop s.wire.length)) = some d ∧
    d.state.phase = .finished ∧ ¬InLobby d.state := by
  have hcheck : (Transition.run (Server.step tallies) (fun _ _ => true) fresh opening).any (fun s =>
      (s.step tallies (asks 0 "leave1" (.leaveRoom (tally 'r' 4)))).any fun s' =>
        (after (tally 'u') (.load .default 0 none none) ([.connect false, .opened] ++ heard (tally 'c' 0) s.wire)).any
          fun a => a.canLeave && (a.step (tally 'u') .leaveRoom).any fun b =>
            (heard (tally 'c' 0) (s'.wire.drop s.wire.length)).all (fun i => !i.enters) &&
              (after (tally 'u') b (heard (tally 'c' 0) (s'.wire.drop s.wire.length))).any fun d =>
                d.state.phase = .finished) = true := by decide +kernel
  obtain ⟨s, hrun, hs⟩ := Transition.exists_run (C := fun _ _ => True) (fun _ _ _ => trivial) hcheck
  simp only [Option.any_eq_true, Bool.and_eq_true, List.all_eq_true, Bool.not_eq_true', decide_eq_true_eq] at hs
  obtain ⟨s', hstep, a, ha, hleaves, b, hb, henters, d, hd, hphase⟩ := hs
  have hstays : ¬InLobby d.state := fun h => h.not_onScreen ⟨by simp [hphase], by simp [hphase]⟩
  exact ⟨s, s', a, b, d, hrun, hstep, Transition.runs_of_run (fun _ _ _ => trivial) ha, ha, hleaves, hb, henters, hd,
    hphase, hstays⟩

end TicTacToe

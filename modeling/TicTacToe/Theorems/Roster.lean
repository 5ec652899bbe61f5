import TicTacToe.Theorems.LeftRoom

/-! # The roster of a client

Who holds the slots of a room and who is ready: a client goes by the events, and a snapshot replaces what it knows. -/

namespace TicTacToe

/-- Who holds the slots, and who is ready. -/
structure Roster where
  players : Players (Option PlayerId)
  ready : List PlayerSymbol
  deriving DecidableEq

namespace Roster

def seat (v : Roster) (symbol : PlayerSymbol) (holder : Option PlayerId) : Roster :=
  match symbol with
  | .X => { v with players := { v.players with X := holder } }
  | .O => { v with players := { v.players with O := holder } }

end Roster

def RoomRecord.roster (room : RoomRecord) : Roster :=
  ⟨⟨room.playerX.map PlayerSlot.playerId, room.playerO.map PlayerSlot.playerId⟩, room.readySymbols⟩

def RoomStateSnapshot.roster (roomState : RoomStateSnapshot) : Roster :=
  ⟨⟨roomState.players.X.map PlayerInfo.playerId, roomState.players.O.map PlayerInfo.playerId⟩, roomState.readyPlayers⟩

namespace RoomPayload

/-- An event of a room that is not about slots and marks. -/
def passive : RoomPayload → Bool
  | roomLeft => true
  | moveAck .. => true
  | moveBroadcast .. => true
  | moveRejected .. => true
  | gameFinished .. => true
  | rematchRequested .. => true
  | rematchDeclined .. => true
  | rematchExpired _ => true
  | opponentDisconnected .. => true
  | opponentReconnected _ => true
  | _ => false

/-- An event without a start of a game, and without a replay of slots and marks. -/
def lobby : RoomPayload → Prop
  | gameStarted .. => False
  | stateSyncReplay _ _ events => ∀ event ∈ events, event.payload.passive = true
  | _ => True

/-- An event that lets a client into a room, with the state of the room. -/
def admits : RoomPayload → Bool
  | roomJoined .. => true
  | reconnectAck .. => true
  | _ => false

end RoomPayload

/-- The roster after an event of the lobby. -/
def Roster.hear (v : Roster) : RoomPayload → Roster
  | .roomJoined _ _ roomState => roomState.roster
  | .playerJoined playerId symbol _ _ => v.seat symbol (some playerId)
  | .playerLeft _ symbol _ => { v.seat symbol none with ready := v.ready.filter (· ≠ symbol) }
  | .playerReadyAck readyPlayers => { v with ready := readyPlayers }
  | .opponentReady _ readyPlayers => { v with ready := readyPlayers }
  | .reconnectAck _ _ roomState => roomState.roster
  | .stateSyncSnapshot roomState => roomState.roster
  | _ => v

theorem Roster.hear_passive {payload : RoomPayload} (h : payload.passive = true) (v : Roster) : v.hear payload = v := by
  cases payload with
  | roomJoined | playerJoined | playerLeft | playerReadyAck | opponentReady | gameStarted | reconnectAck | stateSyncReplay
  | stateSyncSnapshot => cases h
  | _ => rfl

/-- The room that a client has joined, and its roster, after an event. -/
def learn (known : Option (RoomId × Roster)) : Event → Option (RoomId × Roster)
  | .authAck .. => none
  | .pong .. => known
  | .error .. => known
  | .room event =>
    if event.payload.admits then some (event.roomId, Roster.hear ⟨⟨none, none⟩, []⟩ event.payload)
    else known.map fun k => (k.1, k.2.hear event.payload)

namespace Client
variable {uuid : Nat → CommandId} {tab tab' : Tab} {state : ClientState} {i : TabInput} {config : WsClientConfig}

def ClientState.roster (state : ClientState) : Roster :=
  ⟨⟨state.players.X.map PlayerInfo.playerId, state.players.O.map PlayerInfo.playerId⟩, state.readyPlayers⟩

/-! ### Actions -/

/-- The action changes slots or marks. -/
def GameAction.reseats : GameAction → Bool
  | .roomJoined .. => true
  | .playerJoined .. => true
  | .playerLeft _ => true
  | .playerReadyAck _ => true
  | .opponentReady _ => true
  | .gameStarted .. => true
  | .reconnectAck .. => true
  | .leaveRoom => true
  | _ => false

theorem reducer_roster {a : GameAction} (h : a.reseats = false) (state : ClientState) :
    (gameReducer state a).roster = state.roster := by
  cases a with
  | roomJoined | playerJoined | playerLeft | playerReadyAck | opponentReady | gameStarted | reconnectAck | leaveRoom =>
    cases h
  | moveOptimistic id row col board =>
    unfold gameReducer
    dsimp only
    split
    · rfl
    · rfl
  | _ => rfl

/-- The roster once the dispatched actions are applied. -/
def Tab.roster (tab : Tab) : Roster := (tab.queue.foldl gameReducer tab.state).roster

theorem dispatch_roster (tab : Tab) (a : GameAction) :
    (tab.dispatch a).roster = (gameReducer (tab.queue.foldl gameReducer tab.state) a).roster := by
  rw [Tab.roster, Tab.dispatch, List.foldl_append]
  rfl

theorem roster_of_queues (h : Queues (fun a => a.reseats = false) tab tab') : tab'.roster = tab.roster := by
  obtain ⟨actions, hq, ha⟩ := h.queue
  rw [Tab.roster, hq, h.state, List.foldl_append]
  exact foldl_keeps (I := fun state => state.roster = tab.roster) rfl
    (fun state a hs ha => (reducer_roster ha state).trans hs) ha

/-! ### Events -/

theorem dispatches_passive {payload : RoomPayload} (h : payload.passive = true) :
    Dispatches (fun a => a.reseats = false) payload := by
  intro roomId seq id tab
  cases payload with
  | roomLeft => exact .refl tab
  | moveAck | moveBroadcast | moveRejected | gameFinished | rematchRequested | rematchDeclined | rematchExpired
  | opponentDisconnected | opponentReconnected => exact .dispatch tab rfl
  | _ => cases h

theorem parts_passive {events : List RoomEvent} (h : ∀ event ∈ events, event.payload.passive = true) :
    ∀ payload ∈ partsOfEach events, payload.passive = true := by
  induction events with
  | nil =>
    intro payload hp
    cases hp
  | cons event events ih =>
    intro payload hp
    rw [partsOfEach] at hp
    rcases List.mem_append.mp hp with hp | hp
    · have hpassive := h event List.mem_cons_self
      obtain ⟨roomId, seq, id, own⟩ := event
      have hown : own.parts = [own] := by
        cases own with
        | stateSyncReplay => cases hpassive
        | _ => rfl
      rw [partsOf, hown] at hp
      rw [List.mem_singleton.mp hp]
      exact hpassive
    · exact ih (fun e he => h e (List.mem_cons_of_mem _ he)) payload hp

theorem dispatchPayload_roster {payload : RoomPayload} (h : payload.lobby) (roomId : RoomId) (seq : Nat)
    (id : Option CommandId) (tab : Tab) :
    (Tab.dispatchPayload payload roomId seq id tab).roster = tab.roster.hear payload := by
  cases hpassive : payload.passive with
  | true =>
    rw [Roster.hear_passive hpassive]
    exact roster_of_queues (dispatches_passive hpassive roomId seq id tab)
  | false =>
    cases payload with
    | gameStarted => exact h.elim
    | stateSyncReplay fromSeq toSeq events =>
      rw [Tab.dispatchPayload]
      refine roster_of_queues (dispatchEach_queues (fun _ => rfl) events tab fun payload hp _ => ?_)
      exact dispatches_passive (parts_passive h payload hp)
    | roomJoined | playerReadyAck | opponentReady | reconnectAck | stateSyncSnapshot =>
      rw [Tab.dispatchPayload, dispatch_roster]
      rfl
    | playerJoined playerId symbol name count =>
      rw [Tab.dispatchPayload, dispatch_roster]
      cases symbol <;> rfl
    | playerLeft playerId symbol reason =>
      rw [Tab.dispatchPayload, dispatch_roster]
      cases symbol <;> rfl
    | _ => cases hpassive

theorem roster_of_empty (h : tab.queue = []) : tab.roster = tab.state.roster := by
  rw [Tab.roster, h]
  rfl

/-- A room event in the lobby, on its way through the transport to the reducer. -/
theorem handleFrame_roster {event : RoomEvent} (h : event.payload.lobby) (tab : Tab) :
    (tab.handleFrame uuid (.room event)).roster = tab.roster.hear event.payload := by
  have hreceived := roster_of_queues (receive_room_queues uuid tab event)
  have hrestored := roster_of_queues
    (restoreHead_queues ((tab.receive uuid (.room event)).dispatchEvent (.room event)) (.room event))
  rw [Tab.handleFrame, hrestored, ← hreceived]
  obtain ⟨roomId, seq, id, payload⟩ := event
  exact (roster_of_queues (Queues.dispatch (P := fun a => a.reseats = false) _ rfl)).trans
    (dispatchPayload_roster h roomId seq id _)

/-! ### What a tab knows -/

/-- The event that an input brings. -/
def TabInput.event : TabInput → Option Event
  | .received event => event
  | _ => none

/-- The room that the tab has joined, and its roster, after an input. -/
def note (known : Option (RoomId × Roster)) : TabInput → Option (RoomId × Roster)
  | .leaveRoom => none
  | i => i.event.elim known (learn known)

/-- The input neither leaves room `r`, nor begins a new connection, nor joins another room. -/
def TabInput.stays (r : RoomId) : TabInput → Bool
  | .leaveRoom => false
  | .received (some (.authAck ..)) => false
  | .received (some (.room event)) => !event.payload.admits || event.roomId = r
  | _ => true

/-- The tab has handled a `ROOM_JOINED` or a `RECONNECT_ACK` of room `r`, and has stayed since. -/
def Joined (r : RoomId) (inputs : List TabInput) : Prop :=
  ∃ before event after, inputs = before ++ .received (some (.room event)) :: after ∧ event.payload.admits = true ∧
    event.roomId = r ∧ ∀ i ∈ after, i.stays r = true

theorem note_stays {r : RoomId} {v : Roster} (h : i.stays r = true) : ∃ v', note (some (r, v)) i = some (r, v') := by
  cases i with
  | leaveRoom => cases h
  | received event =>
    cases event with
    | none => exact ⟨v, rfl⟩
    | some event =>
      cases event with
      | authAck => cases h
      | pong | error => exact ⟨v, rfl⟩
      | room event =>
        simp only [TabInput.stays, Bool.or_eq_true, Bool.not_eq_true', decide_eq_true_eq] at h
        simp only [note, TabInput.event, Option.elim_some, learn]
        split
        · rename_i hjoined
          exact ⟨_, by rw [h.resolve_left (by simp [hjoined])]⟩
        · exact ⟨_, rfl⟩
  | _ => exact ⟨v, rfl⟩

theorem known_of_joined {r : RoomId} {inputs : List TabInput} (h : Joined r inputs) :
    ∃ v, inputs.foldl note none = some (r, v) := by
  obtain ⟨before, event, after, rfl, hjoined, hr, hstays⟩ := h
  have hstart : ∃ v, note (before.foldl note none) (.received (some (.room event))) = some (r, v) := by
    simp only [note, TabInput.event, Option.elim_some, learn, hjoined, if_true, hr]
    exact ⟨_, rfl⟩
  obtain ⟨v, hv⟩ := hstart
  rw [List.foldl_append, List.foldl_cons, hv]
  clear hv
  induction after generalizing v with
  | nil => exact ⟨v, rfl⟩
  | cons i after ih =>
    obtain ⟨v', hv'⟩ := note_stays (v := v) (hstays i List.mem_cons_self)
    rw [List.foldl_cons, hv']
    exact ih (fun j hj => hstays j (List.mem_cons_of_mem _ hj)) v'

/-- What the tab knows can be told from its frames. -/
theorem learned_of_noted {inputs : List TabInput} {known known' : Option (RoomId × Roster)} {k : RoomId × Roster}
    (hle : ∀ k, known = some k → known' = some k) (h : inputs.foldl note known = some k) :
    (inputs.filterMap TabInput.event).foldl learn known' = some k := by
  induction inputs generalizing known known' with
  | nil => exact hle k h
  | cons i inputs ih =>
    rw [List.foldl_cons] at h
    cases hevent : i.event with
    | none =>
      rw [List.filterMap_cons_none hevent]
      refine ih (fun k hk => hle k ?_) h
      cases i with
      | leaveRoom => cases hk
      | _ => simpa [note, hevent] using hk
    | some event =>
      rw [List.filterMap_cons_some hevent, List.foldl_cons]
      refine ih (fun k hk => ?_) h
      have hnote : note known i = learn known event := by
        cases i with
        | leaveRoom => cases hevent
        | _ => simp [note, hevent]
      rw [hnote] at hk
      cases event with
      | authAck => cases hk
      | pong | error => exact hle k hk
      | room event =>
        simp only [learn] at hk ⊢
        split
        · rename_i hjoined
          rwa [if_pos hjoined] at hk
        · rename_i hother
          rw [if_neg hother] at hk
          obtain ⟨k₀, hk₀, rfl⟩ := Option.map_eq_some_iff.mp hk
          rw [hle k₀ hk₀]
          rfl

/-- The frames of the tab are events of the lobby. -/
def TabInput.lobby (i : TabInput) : Prop := ∀ event, i.event = some (.room event) → event.payload.lobby

/-- One input: what is noted is what is rendered. -/
theorem step_roster {known : Option (RoomId × Roster)} {k : RoomId × Roster} (hempty : tab.queue = [])
    (hlobby : i.lobby) (hstep : tab.step uuid i = some tab') (hknown : ∀ k, known = some k → tab.state.roster = k.2)
    (h : note known i = some k) : tab'.state.roster = k.2 := by
  obtain ⟨u, hu, rfl⟩ := Option.map_eq_some_iff.mp hstep
  have hrender : u.render.state.roster = u.roster := rfl
  have hsame : Queues (fun a => a.reseats = false) tab u → known = some k → u.render.state.roster = k.2 := by
    intro hq hk
    rw [hrender, roster_of_queues hq, roster_of_empty hempty, hknown k hk]
  have hother : (∀ event, i.event ≠ some (.room event)) → i ≠ .leaveRoom → known = some k →
      u.render.state.roster = k.2 := by
    intro hevent hleave
    refine hsame (callback_queues (fun _ => rfl) rfl (fun event tab he => ?_) (fun he => absurd he hleave)
      (fun _ _ _ _ _ => rfl) hu)
    subst he
    cases event with
    | authAck token playerId version existingRoom id =>
      unfold Tab.dispatchEvent
      dsimp only
      split
      · exact .dispatch tab rfl
      · exact (Queues.dispatch (P := fun a => a.reseats = false) tab rfl).trans (.updateClient _ _)
    | pong | error => exact .refl _
    | room event => exact absurd rfl (hevent event)
  cases i with
  | leaveRoom => cases h
  | received event =>
    cases event with
    | none => exact hother (fun event he => by cases he) (fun he => by cases he) h
    | some event =>
      cases event with
      | authAck => cases h
      | pong | error => exact hother (fun event he => by cases he) (fun he => by cases he) h
      | room event =>
        simp only [Tab.callback, Option.ite_none_right_eq_some, Option.some.injEq, Option.elim_some] at hu
        obtain ⟨-, rfl⟩ := hu
        rw [hrender, handleFrame_roster (hlobby event rfl), roster_of_empty hempty]
        simp only [note, TabInput.event, Option.elim_some, learn] at h
        split at h
        · rename_i hjoined
          rw [← Option.some.inj h]
          obtain ⟨roomId, seq, id, payload⟩ := event
          cases payload with
          | roomJoined | reconnectAck => rfl
          | _ => cases hjoined
        · obtain ⟨k₀, hk₀, rfl⟩ := Option.map_eq_some_iff.mp h
          rw [hknown k₀ hk₀]
  | _ => exact hother (fun event he => by cases he) (fun he => by cases he) h

/-- A run of a tab whose frames are events of the lobby. -/
theorem run_roster {inputs : List TabInput} {known : Option (RoomId × Roster)} {k : RoomId × Roster}
    (hempty : tab.queue = []) (hlobby : ∀ i ∈ inputs, i.lobby)
    (hrun : Transition.run (Tab.step uuid) (fun _ _ => true) tab inputs = some tab')
    (hknown : ∀ k, known = some k → tab.state.roster = k.2) (h : inputs.foldl note known = some k) :
    tab'.state.roster = k.2 := by
  induction inputs generalizing tab known with
  | nil =>
    obtain rfl := Option.some.inj hrun
    exact hknown k h
  | cons i inputs ih =>
    obtain ⟨u, hu, hrest⟩ := Option.bind_eq_some_iff.mp hrun
    refine ih (step_queue hu) (fun j hj => hlobby j (List.mem_cons_of_mem _ hj)) hrest (fun k hk => ?_) h
    exact step_roster hempty (hlobby i List.mem_cons_self) hu hknown hk

end Client
end TicTacToe

import TicTacToe.Theorems.Cursors

/-! # The number that a `RECONNECT` carries

The store takes the number of every room event that is dispatched, also of one that the transport has found to be out of
order. In order, both cursors only reach numbers up to which everything has been received. -/

namespace TicTacToe
namespace Client
variable {uuid : Nat → CommandId} {tab tab' : Tab} {i : TabInput} {state : ClientState} {event : RoomEvent}

/-- The event is neither the next one for the transport nor one that sets its counter: a gap or a duplicate. -/
def WsClient.misplaced (client : WsClient) (event : RoomEvent) : Bool :=
  !resetsSequence event.payload && event.sessionSeq ≠ client.lastSeq + 1

/-- A gap or a duplicate has the number of the last room event that has been dispatched. -/
def inPlace (tab : Tab) : TabInput → Bool
  | .received (some (.room event)) => !tab.client.misplaced event || event.sessionSeq = tab.state.lastReceivedSeq
  | _ => true

/-- A gap or a duplicate leaves the number of the store alone. -/
def SeqKept (tab : Tab) (i : TabInput) (tab' : Tab) : Prop :=
  ∀ event, i = .received (some (.room event)) → tab.client.misplaced event = true →
    tab'.state.lastReceivedSeq = tab.state.lastReceivedSeq

/-! ### The number of the store -/

/-- The action sets the number of the store. -/
def GameAction.setsSeq : GameAction → Bool
  | .gameStarted .. => true
  | .reconnectAck .. => true
  | .seqAdvanced _ => true
  | .leaveRoom => true
  | _ => false

theorem reducer_seq {a : GameAction} (h : a.setsSeq = false) :
    (gameReducer state a).lastReceivedSeq = state.lastReceivedSeq := by
  cases a with
  | gameStarted | reconnectAck | seqAdvanced | leaveRoom => cases h
  | moveOptimistic =>
    unfold gameReducer
    dsimp only
    split <;> rfl
  | _ => rfl

theorem restoreHead_same (tab : Tab) (event : Event) :
    (tab.restoreHead event).state = tab.state ∧ (tab.restoreHead event).queue = tab.queue := by
  unfold Tab.restoreHead
  split <;> exact ⟨rfl, rfl⟩

/-- The last action of a room event takes its number, whatever the transport has made of it. -/
theorem handled_seq (tab : Tab) (event : RoomEvent) :
    (tab.handled uuid (.room event)).state.lastReceivedSeq = event.sessionSeq := by
  obtain ⟨roomId, seq, correlationId, payload⟩ := event
  have hqueue := (restoreHead_same ((tab.receive uuid (.room ⟨roomId, seq, correlationId, payload⟩)).dispatchEvent
    (.room ⟨roomId, seq, correlationId, payload⟩)) (.room ⟨roomId, seq, correlationId, payload⟩)).2
  rw [Tab.handled, Tab.render, Tab.handleFrame, hqueue, Tab.dispatchEvent, Tab.dispatchRoomEvent, Tab.dispatch,
    List.foldl_append]
  rfl

theorem step_received_room {tab' : Tab} (h : tab.step uuid (.received (some (.room event))) = some tab') :
    tab' = tab.handled uuid (.room event) := by
  obtain ⟨u, hu, rfl⟩ := Option.map_eq_some_iff.mp h
  simp only [Tab.callback, Option.ite_none_right_eq_some, Option.some.injEq] at hu
  obtain ⟨-, rfl⟩ := hu
  rfl

/-- A gap or a duplicate leaves the number of the store alone if and only if it has that number. -/
theorem seqKept_iff (h : tab.step uuid i = some tab') : SeqKept tab i tab' ↔ inPlace tab i = true := by
  unfold SeqKept inPlace
  split
  · rename_i event
    obtain rfl := step_received_room h
    simp only [handled_seq, Bool.or_eq_true, Bool.not_eq_true', decide_eq_true_eq]
    constructor
    · intro hkept
      cases hmisplaced : tab.client.misplaced event with
      | false => exact Or.inl rfl
      | true => exact Or.inr (hkept event rfl hmisplaced)
    · rintro hplace e he hmisplaced
      cases he
      exact hplace.resolve_left (by simp [hmisplaced])
  · rename_i hother
    exact iff_of_true (fun event he => absurd he (hother event)) rfl

/-! ### Other steps -/

/-- An input other than a room event does not raise the number of the store: leaving the room puts it back to zero. -/
theorem step_seq_le (hempty : tab.queue = []) (hother : ∀ event, i ≠ .received (some (.room event)))
    (h : tab.step uuid i = some tab') : tab'.state.lastReceivedSeq ≤ tab.state.lastReceivedSeq := by
  obtain ⟨u, hu, rfl⟩ := Option.map_eq_some_iff.mp h
  have hqueues : Queues (fun a => a.setsSeq = false ∨ a = .leaveRoom) tab u := by
    refine callback_queues (fun _ => Or.inl rfl) (Or.inl rfl) (fun event t hi => ?_) (fun _ => Or.inr rfl)
      (fun _ _ _ _ _ => Or.inl rfl) hu
    cases event with
    | room event => exact absurd hi (hother event)
    | authAck token playerId version existingRoom id =>
      have hack := Queues.dispatch (P := fun a => a.setsSeq = false ∨ a = .leaveRoom) t
        (a := .authAck token playerId existingRoom) (Or.inl rfl)
      cases existingRoom with
      | none => exact hack
      | some room => exact hack.trans (.of_same rfl rfl)
    | pong | error => exact .refl t
  refine hqueues.render (I := fun state => state.lastReceivedSeq ≤ tab.state.lastReceivedSeq) hempty (Nat.le_refl _) ?_
  rintro state a hs (ha | rfl)
  · rw [reducer_seq ha]
    exact hs
  · exact Nat.zero_le _

theorem react_lastSeq (client : WsClient) (i : TabInput) : (client.react i).lastSeq = client.lastSeq := by
  have hscheduled : ∀ c : WsClient, c.scheduled.lastSeq = c.lastSeq := by
    intro c
    unfold WsClient.scheduled
    split
    · rfl
    · split <;> rfl
  have hconnecting : ∀ (c : WsClient) (throws : Bool), (c.connecting throws).lastSeq = c.lastSeq := by
    intro c throws
    unfold WsClient.connecting
    split
    · exact hscheduled _
    · rfl
  unfold WsClient.react
  split
  · exact hconnecting client _
  · rfl
  · rfl
  · rfl
  · unfold WsClient.lost
    split
    · rfl
    split
    · rfl
    · exact hscheduled _
  · exact hconnecting _ _
  · split <;> rfl
  · rfl
  · rfl
  · rfl
  · rfl

theorem step_lastSeq (hother : ∀ event, i ≠ .received (some (.room event))) (h : tab.step uuid i = some tab') :
    tab'.client.lastSeq = tab.client.lastSeq := by
  obtain ⟨u, hu, rfl⟩ := Option.map_eq_some_iff.mp h
  obtain ⟨roomId, hclient⟩ := Tab.callback_client hother hu
  rw [Tab.render_client, hclient]
  exact react_lastSeq tab.client i

/-! ### What has been received -/

/-- The room event that an input has the client handle. -/
def roomFrame (_ : Tab) (i : TabInput) (_ : Tab) : List RoomEvent :=
  match i with
  | .received (some (.room event)) => [event]
  | _ => []

/-- The numbers that a history of room events leaves nothing missing for: those up to the last one that set the
counter, and those received since. -/
def received (events : List RoomEvent) : Nat → Bool :=
  events.foldl (fun known event n =>
    if WsClient.resetsSequence event.payload then n ≤ event.sessionSeq else known n || n = event.sessionSeq) (· = 0)

theorem received_append (events : List RoomEvent) (event : RoomEvent) (n : Nat) : received (events ++ [event]) n = true ↔
    if WsClient.resetsSequence event.payload then n ≤ event.sessionSeq
    else received events n = true ∨ n = event.sessionSeq := by
  have hstep : received (events ++ [event]) n =
      if WsClient.resetsSequence event.payload then decide (n ≤ event.sessionSeq)
      else received events n || decide (n = event.sessionSeq) := by
    rw [received, List.foldl_append]
    rfl
  rw [hstep]
  split <;> simp

/-- Both cursors are at numbers up to which everything has been received. -/
structure Followed (tab : Tab) (events : List RoomEvent) : Prop where
  queue : tab.queue = []
  lastSeq : ∀ n ≤ tab.client.lastSeq, received events n = true
  lastReceivedSeq : ∀ n ≤ tab.state.lastReceivedSeq, received events n = true

/-- In place, an event of any kind keeps both. -/
theorem Followed.handled {events : List RoomEvent} (hs : Followed tab events)
    (hplace : inPlace tab (.received (some (.room event))) = true) :
    Followed (tab.handled uuid (.room event)) (events ++ [event]) := by
  have hreceived := received_append events event
  refine ⟨rfl, ?_, ?_⟩
  · intro n hn
    rw [handled_lastSeq, WsClient.track, resetsSequence_eq] at hn
    rw [hreceived, resetsSequence_eq]
    cases hresets : event.payload.isStart || event.payload.isSync with
    | true =>
      rw [if_pos rfl]
      rw [hresets, if_pos rfl] at hn
      split at hn
      · omega
      · exact hn
    | false =>
      rw [if_neg (by simp)]
      rw [hresets, (Bool.or_eq_false_iff.mp hresets).1, if_neg (by simp), if_neg (by simp)] at hn
      split at hn
      · rename_i hnext
        by_cases hlast : n = event.sessionSeq
        · exact Or.inr hlast
        · refine Or.inl (hs.lastSeq n ?_)
          have hle : n ≤ event.sessionSeq := hn
          omega
      · exact Or.inl (hs.lastSeq n hn)
  · intro n hn
    rw [handled_seq] at hn
    rw [hreceived]
    cases hresets : WsClient.resetsSequence event.payload with
    | true => exact (if_pos rfl).mpr hn
    | false =>
      rw [if_neg (by simp)]
      by_cases hlast : n = event.sessionSeq
      · exact Or.inr hlast
      · left
        by_cases hnext : event.sessionSeq = tab.client.lastSeq + 1
        · exact hs.lastSeq n (by omega)
        · have hsame : event.sessionSeq = tab.state.lastReceivedSeq := by
            simpa [inPlace, WsClient.misplaced, hresets, hnext] using hplace
          exact hs.lastReceivedSeq n (by omega)

theorem Followed.step {events : List RoomEvent} (hs : Followed tab events) (hplace : inPlace tab i = true)
    (h : tab.step uuid i = some tab') : Followed tab' (events ++ roomFrame tab i tab') := by
  by_cases hroom : ∃ event, i = .received (some (.room event))
  · obtain ⟨event, rfl⟩ := hroom
    obtain rfl := step_received_room h
    exact hs.handled hplace
  · have hother : ∀ event, i ≠ .received (some (.room event)) := fun event he => hroom ⟨event, he⟩
    have hnone : roomFrame tab i tab' = [] := by
      unfold roomFrame
      split
      · exact absurd rfl (hother _)
      · rfl
    rw [hnone, List.append_nil]
    refine ⟨step_queue h, ?_, ?_⟩
    · intro n hn
      exact hs.lastSeq n (step_lastSeq hother h ▸ hn)
    · intro n hn
      exact hs.lastReceivedSeq n (Nat.le_trans hn (step_seq_le hs.queue hother h))

/-- The numbers of the `RECONNECT`s sent between two states of a tab. -/
def reconnectSeqs (tab tab' : Tab) : List Nat :=
  (tab'.sent.drop tab.sent.length).filterMap fun m =>
    match m.command.body with
    | .reconnect _ seq => some seq
    | _ => none

theorem Sends.reconnectSeqs {n : Nat}
    (h : Sends (fun body => ∀ roomId seq, body = .reconnect roomId seq → seq = n) tab tab') :
    ∀ seq ∈ reconnectSeqs tab tab', seq = n := by
  obtain ⟨messages, hsent, hm⟩ := h
  intro seq hseq
  rw [Client.reconnectSeqs, hsent, List.drop_left] at hseq
  obtain ⟨m, hmem, hbody⟩ := List.mem_filterMap.mp hseq
  split at hbody
  · rename_i roomId seq' he
    obtain rfl := Option.some.inj hbody
    exact hm m hmem roomId seq' he
  · cases hbody

/-- A `RECONNECT` carries the number in the state rendered before. -/
theorem step_reconnects (h : tab.step uuid i = some tab') :
    ∀ seq ∈ reconnectSeqs tab tab', seq = tab.state.lastReceivedSeq := by
  refine Sends.reconnectSeqs ?_
  cases i with
  | received frame =>
    obtain ⟨u, hu, rfl⟩ := Option.map_eq_some_iff.mp h
    simp only [Tab.callback, Option.ite_none_right_eq_some, Option.some.injEq] at hu
    obtain ⟨-, rfl⟩ := hu
    cases frame with
    | none => exact .of_same rfl
    | some frame =>
      refine (handleFrame_sends (receive_sends tab ?_ ?_ frame)).trans (.of_same rfl)
      · intro r r' seq hbody
        cases hbody
        rfl
      · intro r fromSeq r' seq hbody
        cases hbody
  | _ =>
    refine (step_sends h).mono fun body hbody roomId seq he => ?_
    rw [he] at hbody
    simp [TabInput.commandTypes, CommandBody.type] at hbody

end Client

open Client
open Server (tally)

section Run
variable {uuid : Nat → CommandId} {config : WsClientConfig} {now : Millis} {storedToken : Option SessionToken}
  {storedRoom : Option RoomId} {x y : Tab × List RoomEvent} {i : TabInput}

/-- In a run whose gaps and duplicates are all in place, the next one leaves the number of the store alone if and only if
it is in place too, and every `RECONNECT` carries a number up to which everything has been received. -/
theorem received_seq_kept_iff
    (hrun : Transition.Runs (Transition.logged (Tab.step uuid) roomFrame) (fun x i => inPlace x.1 i = true)
      (.load config now storedToken storedRoom, []) x)
    (hstep : Transition.logged (Tab.step uuid) roomFrame x i = some y) :
    (SeqKept x.1 i y.1 ↔ inPlace x.1 i = true) ∧
    ∀ seq ∈ reconnectSeqs x.1 y.1, ∀ n ≤ seq, received x.2 n = true := by
  have hfollowed : Followed x.1 x.2 := by
    refine hrun.invariant (P := fun x => Followed x.1 x.2) ⟨rfl, fun n hn => ?_, fun n hn => ?_⟩ ?_
    · obtain rfl := Nat.le_zero.mp hn
      rfl
    · obtain rfl := Nat.le_zero.mp hn
      rfl
    · intro u v j hs hplace hj
      obtain ⟨hstep, hlog⟩ := Transition.logged_eq_some.mp hj
      rw [hlog]
      exact hs.step hplace hstep
  have htab := (Transition.logged_eq_some.mp hstep).1
  refine ⟨seqKept_iff htab, fun seq hseq n hn => ?_⟩
  rw [step_reconnects htab seq hseq] at hn
  exact hfollowed.lastReceivedSeq n hn

end Run

/-- A greeting for a player who is in a room. -/
def greeting : Event :=
  .authAck "t" "00000000-0000-4000-8000-000000000002" "1" (some ⟨"ABCDEFGH", .X, .waiting⟩) "a"

/-- A client in a room hears two events, and its connection is lost and opened again. -/
def reopened (seq seq' : Nat) : List TabInput :=
  [.connect false, .opened, .received (some greeting),
    .received (some (.room ⟨"ABCDEFGH", seq, none, .opponentReconnected .O⟩)),
    .received (some (.room ⟨"ABCDEFGH", seq', none, .playerReadyAck [.X]⟩)), .socketClosed 1006, .retry false, .opened]

/-- Nothing is lost: the `RECONNECT` carries number 2. -/
theorem received_seq_kept_reopened : ∃ x y : Tab × List RoomEvent,
    Transition.logged (Tab.step (tally 'u')) roomFrame x (.received (some greeting)) = some y ∧
    reconnectSeqs x.1 y.1 = [2] ∧
    (SeqKept x.1 (.received (some greeting)) y.1 ↔ inPlace x.1 (.received (some greeting)) = true) ∧
    ∀ seq ∈ reconnectSeqs x.1 y.1, ∀ n ≤ seq, received x.2 n = true := by
  have hcheck : (Transition.run (Transition.logged (Tab.step (tally 'u')) roomFrame) (fun x i => inPlace x.1 i)
      (.load .default 0 none none, []) (reopened 1 2)).any (fun x =>
      (Transition.logged (Tab.step (tally 'u')) roomFrame x (.received (some greeting))).any fun y =>
        reconnectSeqs x.1 y.1 = [2]) = true := by
    decide +kernel
  obtain ⟨x, hrun, hx⟩ := Transition.exists_run (fun _ _ h => h) hcheck
  simp only [Option.any_eq_true, decide_eq_true_eq] at hx
  obtain ⟨y, hstep, hreconnect⟩ := hx
  exact ⟨x, y, hstep, hreconnect, received_seq_kept_iff hrun hstep⟩

/-- Number 2 is lost on the way to the client, which takes number 3 for a gap: the store takes that number all the same,
and the `RECONNECT` carries it. -/
theorem gap_skipped : ∃ (s t : Tab) (event : RoomEvent) (x y : Tab × List RoomEvent),
    after (tally 'u') (.load .default 0 none none) ((reopened 1 3).take 4) = some s ∧
    s.step (tally 'u') (.received (some (.room event))) = some t ∧ s.client.gapBefore event = some 2 ∧
    s.state.lastReceivedSeq = 1 ∧ t.state.lastReceivedSeq = 3 ∧
    Transition.Runs (Transition.logged (Tab.step (tally 'u')) roomFrame) (fun _ _ => True)
      (.load .default 0 none none, []) x ∧
    Transition.logged (Tab.step (tally 'u')) roomFrame x (.received (some greeting)) = some y ∧
    reconnectSeqs x.1 y.1 = [3] ∧ received x.2 2 = false := by
  have hgap : (after (tally 'u') (.load .default 0 none none) ((reopened 1 3).take 4)).any (fun s =>
      (s.step (tally 'u') (.received (some (.room ⟨"ABCDEFGH", 3, none, .playerReadyAck [.X]⟩)))).any fun t =>
        s.client.gapBefore ⟨"ABCDEFGH", 3, none, .playerReadyAck [.X]⟩ = some 2 && s.state.lastReceivedSeq = 1 &&
          t.state.lastReceivedSeq = 3) = true := by decide +kernel
  have hcheck : (Transition.run (Transition.logged (Tab.step (tally 'u')) roomFrame) (fun _ _ => true)
      (.load .default 0 none none, []) (reopened 1 3)).any (fun x =>
      (Transition.logged (Tab.step (tally 'u')) roomFrame x (.received (some greeting))).any fun y =>
        reconnectSeqs x.1 y.1 = [3] &&
          !received x.2 2) = true := by decide +kernel
  simp only [Option.any_eq_true, Bool.and_eq_true, decide_eq_true_eq] at hgap
  obtain ⟨s, hs, t, ht, ⟨hreported, hbefore⟩, hafter⟩ := hgap
  obtain ⟨x, hrun, hx⟩ := Transition.exists_run (C := fun _ _ => True) (fun _ _ _ => trivial) hcheck
  simp only [Option.any_eq_true, Bool.and_eq_true, Bool.not_eq_true', decide_eq_true_eq] at hx
  obtain ⟨y, hstep, hreconnect, hmissing⟩ := hx
  exact ⟨s, t, _, x, y, hs, ht, hreported, hbefore, hafter, hrun, hstep, hreconnect, hmissing⟩

end TicTacToe

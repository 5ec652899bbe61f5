import TicTacToe.Theorems.EventsDecode
import TicTacToe.Theorems.Postings
import TicTacToe.Theorems.ClientSends
import TicTacToe.Theorems.LeftRoom
import TicTacToe.Theorems.Transport

/-! # The two cursors of a client

The transport counts the room events in `lastSeq` and reports gaps by it; the store keeps `lastReceivedSeq`, which a
`RECONNECT` carries. The transport's counter is written before the event is handled, and by the hook while it is. -/

namespace TicTacToe

theorem resetsSequence_eq (payload : RoomPayload) :
    Client.WsClient.resetsSequence payload = (payload.isStart || payload.isSync) := by
  cases payload <;> rfl

namespace Client
variable {uuid : Nat → CommandId} {tab tab' : Tab} {event : RoomEvent} {frames : List Event}

/-! ### The counter of the transport -/

theorem dispatchPayload_lastSeq {payload : RoomPayload} (h : payload.isReplay = false) (roomId : RoomId) (seq : Nat)
    (correlationId : Option CommandId) (tab : Tab) :
    (Tab.dispatchPayload payload roomId seq correlationId tab).client.lastSeq =
      if payload.isStart then 0 else tab.client.lastSeq := by
  cases payload with
  | stateSyncReplay => cases h
  | _ => rfl

/-- The counter after a room event: a `GAME_STARTED` leaves it at zero, whatever its number. -/
theorem handleFrame_lastSeq (tab : Tab) (event : RoomEvent) : (tab.handleFrame uuid (.room event)).client.lastSeq =
    if event.payload.isStart then 0 else (tab.client.track event).lastSeq := by
  obtain ⟨roomId, seq, correlationId, payload⟩ := event
  cases hsync : payload.isSync with
  | true =>
    -- The head is restored, and it is the number that the event has been tracked with.
    cases payload with
    | stateSyncReplay | stateSyncSnapshot => rfl
    | _ => cases hsync
  | false =>
    have hreplay : payload.isReplay = false := by cases payload <;> first | rfl | cases hsync
    have hrestore : ∀ t : Tab, t.restoreHead (.room ⟨roomId, seq, correlationId, payload⟩) = t := by
      intro t
      cases payload <;> first | rfl | cases hsync
    rw [Tab.handleFrame, hrestore, Tab.dispatchEvent, Tab.dispatchRoomEvent, Tab.dispatch_client,
      dispatchPayload_lastSeq hreplay, Tab.receive_room_client]

theorem handleFrame_lastSeq_of_other {frame : Event} (h : ∀ event, frame ≠ .room event) (tab : Tab) :
    (tab.handleFrame uuid frame).client.lastSeq = tab.client.lastSeq := by
  cases frame with
  | room event => exact absurd rfl (h event)
  | authAck token playerId version existingRoom id =>
    cases existingRoom <;> simp [Tab.handleFrame, Tab.receive, Tab.dispatchEvent, Tab.restoreHead, WsClient.setRoom]
  | pong | error => rfl

/-! ### Streams without a hole -/

/-- Handle a frame, and render. -/
def Tab.handled (uuid : Nat → CommandId) (tab : Tab) (event : Event) : Tab := (tab.handleFrame uuid event).render

def eventsOf (frames : List Event) : List RoomEvent :=
  frames.filterMap fun frame =>
    match frame with
    | .room event => some event
    | _ => none

/-- The event starts a game with number 1, is a `STATE_SYNC`, or has the number after `seq`. -/
def Continues (seq : Nat) (event : RoomEvent) : Prop :=
  event.payload.isStart = true ∧ event.sessionSeq = 1 ∨ event.payload.isSync = true ∨ event.sessionSeq = seq + 1

/-- Each event goes on after the one before it, and the first after number `seq`. -/
def ContinuesFrom : Nat → List RoomEvent → Prop
  | _, [] => True
  | seq, event :: events => Continues seq event ∧ ContinuesFrom event.sessionSeq events

/-- The stream starts with a `GAME_STARTED` and has no hole. -/
def Contiguous : List RoomEvent → Prop
  | [] => False
  | event :: events =>
    (event.payload.isStart = true ∧ event.sessionSeq = 1) ∧ ContinuesFrom event.sessionSeq events

/-- No gap is reported before any of the room events, and after each the counter is at its number. -/
def NoFalseGaps (uuid : Nat → CommandId) : Tab → List Event → Prop
  | _, [] => True
  | tab, frame :: frames =>
    (∀ event, frame = .room event → tab.client.gapBefore event = none ∧
      (tab.handled uuid frame).client.lastSeq = event.sessionSeq) ∧ NoFalseGaps uuid (tab.handled uuid frame) frames

theorem handled_lastSeq (tab : Tab) (event : RoomEvent) : (tab.handled uuid (.room event)).client.lastSeq =
    if event.payload.isStart then 0 else (tab.client.track event).lastSeq :=
  handleFrame_lastSeq tab event

theorem handled_lastSeq_of_other {frame : Event} (h : ∀ event, frame ≠ .room event) (tab : Tab) :
    (tab.handled uuid frame).client.lastSeq = tab.client.lastSeq :=
  handleFrame_lastSeq_of_other h tab

theorem noFalseGaps_of_other {frame : Event} (h : ∀ event, frame ≠ .room event) :
    NoFalseGaps uuid tab (frame :: frames) ↔ NoFalseGaps uuid (tab.handled uuid frame) frames :=
  and_iff_right fun event he => absurd he (h event)

theorem eventsOf_cons (frame : Event) (frames : List Event) :
    eventsOf (frame :: frames) = eventsOf [frame] ++ eventsOf frames := by
  cases frame <;> rfl

/-- An event that goes on after the counter is no gap, and the counter follows it. -/
theorem Continues.tracked {client : WsClient} (h : Continues client.lastSeq event) :
    client.gapBefore event = none ∧ (client.track event).lastSeq = event.sessionSeq := by
  unfold WsClient.gapBefore WsClient.track
  rw [resetsSequence_eq]
  rcases h with ⟨hstart, -⟩ | hsync | hnext
  · simp [hstart]
  · simp [hsync]
  · split
    · exact ⟨rfl, rfl⟩
    · rw [if_neg (by omega)]
      exact ⟨rfl, rfl⟩

/-- A stream that goes on after the counter of the transport is handled without false gaps if and only if no game starts
in it: the events of a replay apart, for which the head is restored. -/
theorem noFalseGaps_iff (h : ContinuesFrom tab.client.lastSeq (eventsOf frames)) :
    NoFalseGaps uuid tab frames ↔ ∀ event ∈ eventsOf frames, event.payload.isStart = false := by
  induction frames generalizing tab with
  | nil => simp [NoFalseGaps, eventsOf]
  | cons frame frames ih =>
    rw [eventsOf_cons] at h ⊢
    cases frame with
    | room event =>
      obtain ⟨hevent, hrest⟩ : Continues tab.client.lastSeq event ∧ ContinuesFrom event.sessionSeq (eventsOf frames) := h
      obtain ⟨hgap, htrack⟩ := hevent.tracked
      have hall : (∀ e ∈ eventsOf [.room event] ++ eventsOf frames, e.payload.isStart = false) ↔
          event.payload.isStart = false ∧ ∀ e ∈ eventsOf frames, e.payload.isStart = false := List.forall_mem_cons
      rw [hall]
      cases hstart : event.payload.isStart with
      | true =>
        -- The hook resets the counter, and the number of the event is not zero.
        refine iff_of_false ?_ (by simp)
        rintro ⟨hfollows, -⟩
        have hzero := (hfollows event rfl).2
        rw [handled_lastSeq, hstart, if_pos rfl] at hzero
        rcases hevent with ⟨-, hone⟩ | hsync | hnext
        · omega
        · revert hstart hsync
          cases event.payload <;> simp [RoomPayload.isStart, RoomPayload.isSync]
        · omega
      | false =>
        have hseq : (tab.handled uuid (.room event)).client.lastSeq = event.sessionSeq := by
          rw [handled_lastSeq, hstart]
          exact htrack
        have hlater : ContinuesFrom (tab.handled uuid (.room event)).client.lastSeq (eventsOf frames) := hseq.symm ▸ hrest
        rw [← ih hlater, NoFalseGaps]
        simp [hgap, hseq]
    | authAck | pong | error =>
      refine (noFalseGaps_of_other (by simp)).trans (ih ?_)
      rw [handled_lastSeq_of_other (by simp)]
      exact h

/-- No stream that starts with a `GAME_STARTED` is handled without false gaps. -/
theorem contiguous_gaps (h : Contiguous (eventsOf frames)) : ¬NoFalseGaps uuid tab frames := by
  induction frames generalizing tab with
  | nil => exact h.elim
  | cons frame frames ih =>
    rintro ⟨hfollows, hrest⟩
    cases frame with
    | room event =>
      obtain ⟨⟨hstart, hone⟩, -⟩ :
          (event.payload.isStart = true ∧ event.sessionSeq = 1) ∧ ContinuesFrom event.sessionSeq (eventsOf frames) := h
      have hzero := (hfollows event rfl).2
      rw [handled_lastSeq, hstart, if_pos rfl, hone] at hzero
      cases hzero
    | authAck | pong | error => exact ih h hrest

/-- After a `GAME_STARTED` the next number is reported as a gap from 1 on, whoever has sent it. -/
theorem gap_after_start {next : RoomEvent} (hstart : event.payload.isStart = true) (hseq : 0 < event.sessionSeq)
    (hnext : next.sessionSeq = event.sessionSeq + 1) (hresets : WsClient.resetsSequence next.payload = false) :
    (tab.handled uuid (.room event)).client.gapBefore next = some 1 := by
  have hzero : (tab.handled uuid (.room event)).client.lastSeq = 0 := by rw [handled_lastSeq, if_pos hstart]
  rw [WsClient.gapBefore, hresets, hzero, if_neg (by simp), if_pos (by omega)]

end Client

open Client
open Server (tally)

/-- The start of a game, as player 1 hears it. -/
def firstStart : RoomEvent :=
  let player : PlayerSymbol → PlayerInfo :=
    fun symbol => ⟨"00000000-0000-4000-8000-000000000002", symbol, none, .connected, 0⟩
  ⟨"ABCDEFGH", 1, none,
    .gameStarted "00000000-0000-4000-8000-000000000001" EMPTY_BOARD .X ⟨player .X, player .O⟩ 0⟩

/-- The player has marked the first cell. -/
def firstAck : RoomEvent :=
  ⟨"ABCDEFGH", 2, some "m", .moveAck "00000000-0000-4000-8000-000000000001" ⟨.ofNat 0, .ofNat 0⟩ .X 1
    (fun index => if index = 0 then .mark .X else .empty) (some .O)⟩

def firstMove : List Event := [.room firstStart, .room firstAck]

theorem firstMove_sound : ∀ frame ∈ firstMove, frame.Sound := by
  have hroom : isRoomCode (utf16 "ABCDEFGH") = true := by decide +kernel
  have hgame : isUuid (utf16 "00000000-0000-4000-8000-000000000001") = true := by decide +kernel
  intro frame hframe
  simp only [firstMove, List.mem_cons, List.not_mem_nil, or_false] at hframe
  rcases hframe with rfl | rfl
  · exact ⟨hroom, by decide, hgame⟩
  · exact ⟨hroom, by decide, hgame, rfl, rfl⟩

/-- The first two events of a game. -/
theorem contiguous_gaps_first_move :
    ¬NoFalseGaps (tally 'u') (.load .default 0 none none) firstMove :=
  contiguous_gaps ⟨⟨rfl, rfl⟩, Or.inr (Or.inr rfl), trivial⟩

/-- The acknowledgement of the first move is taken for a gap from 1 on. -/
theorem first_move_reported : Contiguous (eventsOf firstMove) ∧ (∀ frame ∈ firstMove, frame.Sound) ∧
    ((Tab.load .default 0 none none).handled (tally 'u') (.room firstStart)).client.gapBefore firstAck = some 1 ∧
    ¬NoFalseGaps (tally 'u') (.load .default 0 none none) firstMove := by
  have hgap : ((Tab.load .default 0 none none).handled (tally 'u') (.room firstStart)).client.gapBefore firstAck =
      some 1 := gap_after_start rfl (by decide) rfl rfl
  refine ⟨⟨⟨rfl, rfl⟩, Or.inr (Or.inr rfl), trivial⟩, firstMove_sound, hgap, ?_⟩
  rintro ⟨-, hmove, -⟩
  rw [(hmove firstAck rfl).1] at hgap
  cases hgap

end TicTacToe

import TicTacToe.Theorems.Retries
import TicTacToe.Theorems.Seats

/-! # Coming back

A player comes back to a room by `RECONNECT` or by `JOIN_ROOM`. The former restores the player's presence; the
latter sends the state to a player who holds a slot and leaves the slot and the window as they are. -/

namespace TicTacToe

/-- A `ROOM_JOINED` or a `RECONNECT_ACK`. -/
def WireEvent.welcomes : WireEvent → Bool
  | .event (.room ⟨_, _, _, .roomJoined ..⟩) => true
  | .event (.room ⟨_, _, _, .reconnectAck ..⟩) => true
  | _ => false

theorem WireEvent.isError_of_welcomes {e : WireEvent} (h : e.welcomes = true) : e.isError = false := by
  cases e with
  | processed => rfl
  | event e =>
    cases e with
    | error => cases h
    | _ => rfl

/-! ### Presence -/

namespace Server
variable {s t : Server} {r : RoomId} {G : IdSource} {c : ConnectionId} {rec : ConnectionRecord} {command : Command}
  {diskFails : Bool} {token : SessionToken} {p : PlayerId} {a : RoomAction}

/-- The player's slot is connected and no window is pending for the player. -/
structure Present (s : Server) (r : RoomId) (p : PlayerId) : Prop where
  slot : ∃ slot, s.slot r p = some slot ∧ slot.connected = true
  window : s.window r p = none

/-- A present player receives the room's broadcasts. -/
theorem Present.receives (h : s.Present r p) {room : RoomRecord} (hroom : s.getRoom r = some room) {call : SendCall}
    (hcall : call.target = .broadcast) : p ∈ recipients room call := by
  obtain ⟨slot, hslot, hconnected⟩ := h.slot
  rw [Server.slot, hroom] at hslot
  obtain ⟨hp, x, hx⟩ := RoomRecord.getSlotByPlayerId_some hslot
  have hmem : slot ∈ [room.playerX, room.playerO].filterMap id := by
    cases x <;> exact List.mem_filterMap.mpr ⟨some slot, by simp [← hx, RoomRecord.slot], rfl⟩
  simp only [recipients, hcall, List.mem_map, List.mem_filter]
  exact ⟨slot, ⟨hmem, hconnected⟩, hp⟩

/-- No window of a present player can fire. -/
theorem Present.not_abandoned (h : s.Present r p) (diskFails : Bool) :
    s.step G (.reconnectWindow r p diskFails) = none := by
  have hw := h.window
  cases hg : s.gameSessions.get r with
  | none => simp only [step, hg]
  | some gs =>
    have hnone : gs.reconnectTimers.get p = none := by simpa [Server.window, hg] using hw
    simp only [step, hg, hnone]

/-- A second `JOIN_ROOM` changes nothing about the player's presence. -/
theorem Acts.rejoined_presence (h : Acts G s t r (.rejoined p)) :
    t.slot r p = s.slot r p ∧ t.window r p = s.window r p ∧ s.slot r p ≠ none := by
  obtain ⟨sends, hstep, -⟩ := h.step
  obtain ⟨hs, ht⟩ := h.slots rfl p
  obtain ⟨hroom, hslot⟩ := hstep.rejoined_room
  have hwindow := hstep.windows p
  refine ⟨?_, ?_, hs ▸ hslot⟩
  · rw [hs, ht, RoomView.slotOf, hroom, RoomView.slotOf]
  · cases hwindow with
    | cleared ha => simp at ha
    | armed ha => simp at ha
    | same _ _ _ hsame => exact hsame

/-- A new slot is connected; an old window stays. -/
theorem Acts.entered_presence (h : Acts G s t r (.entered p)) :
    s.slot r p = none ∧ (∃ slot, t.slot r p = some slot ∧ slot.connected = true) ∧ t.window r p = s.window r p := by
  obtain ⟨sends, hstep, -⟩ := h.step
  obtain ⟨hs, ht⟩ := h.slots rfl p
  obtain ⟨hslot, hslot'⟩ := hstep.entered_slot
  have hwindow := hstep.windows p
  refine ⟨hs ▸ hslot, ht ▸ hslot', ?_⟩
  cases hwindow with
  | cleared ha => simp at ha
  | armed ha => simp at ha
  | same _ _ _ hsame => exact hsame

/-- A `RECONNECT` restores the presence. -/
theorem Acts.reconnected_present (h : Acts G s t r (.reconnected p)) : t.Present r p := by
  obtain ⟨sends, hstep, -⟩ := h.step
  obtain ⟨-, ht⟩ := h.slots rfl p
  have hwindow := hstep.windows p
  refine ⟨ht ▸ hstep.reconnected_slot, ?_⟩
  cases hwindow with
  | cleared _ hcleared => exact hcleared
  | armed ha => simp at ha
  | same hback => exact absurd rfl hback

/-! ### Commands that come back -/

theorem Processed.player_unique {commandId : CommandId} {q : PlayerId} (h : s.Processed token commandId p)
    (h' : s.Processed token commandId q) : p = q := by
  obtain ⟨session, hs, hp⟩ := h.session
  obtain ⟨session', hs', hq⟩ := h'.session
  obtain rfl := Option.some.inj (hs.symm.trans hs')
  exact hp.symm.trans hq

/-- A processed command that is not answered by an error has been processed by its handler. -/
theorem handling_done {reply : WireEvent → List Delivery} {done : PlayerId → HandlerResult → Prop}
    {result : HandlerResult} (hp : s.Processed token command.commandId p)
    (hhandling : Handling (s.arrived c rec) c command.commandId token reply done result)
    {e : WireEvent} (he : s.answer result = some e) (hok : e.isError = false) : done p result := by
  have hp' := hp.to_quiet (arrived_quiet s c rec)
  cases hhandling with
  | refused h => exact absurd (h.answer_isError ((arrived_answer s c rec result).trans he)) (by simp [hok])
  | recalled hs hc => exact absurd hc (by simp [hp'.uncached])
  | processed hq h => exact hp'.player_unique hq ▸ h

/-- What a processed `JOIN_ROOM` or `RECONNECT` with a response does to its room. -/
theorem comingBack_acts {frame : RawFrame} (hrouted : s.Routed (.frame c frame diskFails) c rec command)
    (htoken : rec.sessionToken = some token) (hp : s.Processed token command.commandId p)
    {e : WireEvent} (he : s.response G c rec command diskFails = some e) (hok : e.isError = false)
    (hstep : s.step G (.frame c frame diskFails) = some t) :
    (∀ name, command.body = .joinRoom r name → Acts G s t r (.rejoined p) ∨ Acts G s t r (.entered p)) ∧
    ∀ lastReceivedSeq, command.body = .reconnect r lastReceivedSeq → Acts G s t r (.reconnected p) := by
  have hq := arrived_quiet s c rec
  have ht : t = conclude G c command.commandId ((s.arrived c rec).dispatch G c rec command diskFails) :=
    (Option.some.inj hstep).symm.trans (handleFrame_routed hrouted)
  have hmove : ∀ {result a}, Acts G (s.arrived c rec) result.server r a →
      (s.arrived c rec).dispatch G c rec command diskFails = linked c rec command.body result → Acts G s t r a := by
    intro result a hacts hdispatch
    rw [ht, hdispatch]
    exact ((hq.still.trans_acts hacts).trans_still (linked_still c rec command.body result)).trans_still
      (conclude_quiet G c command.commandId _).still
  have hanswer : s.answer ((s.arrived c rec).dispatch G c rec command diskFails) = some e := he
  obtain ⟨id, body⟩ := command
  refine ⟨fun name hbody => ?_, fun lastReceivedSeq hbody => ?_⟩
  · subst hbody
    have hdispatch : (s.arrived c rec).dispatch G c rec ⟨id, .joinRoom r name⟩ diskFails =
        linked c rec (.joinRoom r name) ((s.arrived c rec).handleJoinRoom c id r name token) := by
      simp only [dispatch, htoken]
      rfl
    rw [hdispatch, (linked_relinked c rec _ _).answer] at hanswer
    obtain ⟨hacts, -⟩ := handling_done hp (handleJoinRoom_handling (G := G) _ c id r name token) hanswer hok
    exact hacts.imp (hmove · hdispatch) (hmove · hdispatch)
  · subst hbody
    have hdispatch : (s.arrived c rec).dispatch G c rec ⟨id, .reconnect r lastReceivedSeq⟩ diskFails =
        linked c rec (.reconnect r lastReceivedSeq)
          ((s.arrived c rec).handleReconnect c id r lastReceivedSeq token) := by
      simp only [dispatch, htoken]
      rfl
    rw [hdispatch, (linked_relinked c rec _ _).answer] at hanswer
    obtain ⟨hacts, -⟩ := handling_done hp (handleReconnect_handling (G := G) _ c id r lastReceivedSeq token) hanswer hok
    exact hmove hacts hdispatch

/-- A command that leaves `p` present: a `RECONNECT`, or a `JOIN_ROOM` while no window is pending for `p` and the
slot of `p`, if there is one, is connected. -/
def ReturnsWhole (s : Server) (r : RoomId) (p : PlayerId) (body : CommandBody) : Prop :=
  (∃ lastReceivedSeq, body = .reconnect r lastReceivedSeq) ∨
    s.window r p = none ∧ ∀ slot, s.slot r p = some slot → slot.connected = true

end Server

open Server in
/-- In every state, a player who comes back with `RECONNECT` is present afterwards. One who comes back with `JOIN_ROOM` is
if and only if there was nothing to restore. A present player receives the room's broadcasts and is not abandoned. -/
theorem presence_restored {G : IdSource} {s t : Server} {c : ConnectionId} {rec : ConnectionRecord}
    {command : Command} {frame : RawFrame} {diskFails : Bool} {token : SessionToken} {p : PlayerId} {r : RoomId}
    {e : WireEvent}
    (hrouted : s.Routed (.frame c frame diskFails) c rec command) (htoken : rec.sessionToken = some token)
    (hp : s.Processed token command.commandId p)
    (hbody : (∃ name, command.body = .joinRoom r name) ∨ ∃ lastReceivedSeq, command.body = .reconnect r lastReceivedSeq)
    (hresponse : s.response G c rec command diskFails = some e) (hwelcomes : e.welcomes = true)
    (hstep : s.step G (.frame c frame diskFails) = some t) :
    (t.Present r p ↔ s.ReturnsWhole r p command.body) ∧
    (t.Present r p → (∀ room call, t.getRoom r = some room → call.target = .broadcast → p ∈ recipients room call) ∧
      ∀ diskFails, t.step G (.reconnectWindow r p diskFails) = none) := by
  refine ⟨?_, fun h => ⟨fun room call hroom hcall => h.receives hroom hcall, h.not_abandoned⟩⟩
  have hok := WireEvent.isError_of_welcomes hwelcomes
  obtain ⟨hjoin, hreconnect⟩ := comingBack_acts (r := r) hrouted htoken hp hresponse hok hstep
  rcases hbody with ⟨name, hbody⟩ | ⟨lastReceivedSeq, hbody⟩
  · have hnot : ¬ ∃ lastReceivedSeq, command.body = .reconnect r lastReceivedSeq := by simp [hbody]
    rcases hjoin name hbody with hacts | hacts
    · obtain ⟨hslot, hwindow, hheld⟩ := hacts.rejoined_presence
      obtain ⟨slot, hslot'⟩ := Option.ne_none_iff_exists'.mp hheld
      constructor
      · intro h
        obtain ⟨slot₁, hslot₁, hconnected⟩ := h.slot
        refine Or.inr ⟨hwindow ▸ h.window, fun slot₂ hslot₂ => ?_⟩
        obtain rfl := Option.some.inj ((hslot.symm.trans hslot₁).symm.trans hslot₂)
        exact hconnected
      · intro h
        obtain ⟨hnone, hconnected⟩ := h.resolve_left hnot
        exact ⟨⟨slot, hslot.trans hslot', hconnected slot hslot'⟩, hwindow.trans hnone⟩
    · obtain ⟨hnone, hslot, hwindow⟩ := hacts.entered_presence
      constructor
      · intro h
        exact Or.inr ⟨hwindow ▸ h.window, fun slot hslot => by simp [hnone] at hslot⟩
      · intro h
        exact ⟨hslot, hwindow.trans (h.resolve_left hnot).1⟩
  · have hpresent := (hreconnect lastReceivedSeq hbody).reconnected_present
    exact ⟨fun _ => Or.inl ⟨lastReceivedSeq, hbody⟩, fun _ => hpresent⟩

open Server

/-- Player 1 has lost the connection during game 5, and has authenticated on connection 6. -/
def reloaded : List Input :=
  opening ++ [.socketClosed (tally 'c' 0), .connect, asks 6 "auth6" (.auth (some (tally 't' 1)))]

/-- Player 1 comes back with `RECONNECT`. -/
theorem presence_restored_reconnect : ∃ s t, Runs tallies (fun _ _ => True) fresh s ∧
    s.step tallies (asks 6 "back6" (.reconnect (tally 'r' 4) 0)) = some t ∧ t.Present (tally 'r' 4) (tally 'p' 1) := by
  let body : CommandBody := .reconnect (tally 'r' 4) 0
  have hcheck : (Transition.run (step tallies) (fun _ _ => true) fresh reloaded).any (fun s =>
      (s.routes 6).any fun rec => decide (rec.sessionToken = some (tally 't' 1)) &&
        decide ((s.getSession (tally 't' 1)).map PlayerSession.playerId = some (tally 'p' 1)) &&
        (s.cached "back6").isNone && (s.response tallies (tally 'c' 6) rec ⟨"back6", body⟩ false).any WireEvent.welcomes &&
        (s.step tallies (asks 6 "back6" body)).isSome) = true := by
    decide +kernel
  obtain ⟨s, hrun, hs⟩ := Transition.exists_run (C := fun _ _ => True) (fun _ _ _ => trivial) hcheck
  obtain ⟨rec, hrec, hs⟩ := (Option.any_eq_true _ _).mp hs
  simp only [Bool.and_eq_true, Option.any_eq_true, decide_eq_true_eq, Option.isNone_iff_eq_none] at hs
  obtain ⟨⟨⟨⟨htoken, hplayer⟩, hcached⟩, e, he, hwelcomes⟩, hstep⟩ := hs
  obtain ⟨t, ht⟩ := Option.isSome_iff_exists.mp hstep
  have hprocessed : s.Processed (tally 't' 1) "back6" (tally 'p' 1) := ⟨Option.map_eq_some_iff.mp hplayer, hcached⟩
  refine ⟨s, t, hrun, ht, ?_⟩
  exact (presence_restored (routed_of_routes hrec _ _) htoken hprocessed (Or.inr ⟨0, rfl⟩) he hwelcomes ht).1.mpr
    (Or.inl ⟨0, rfl⟩)

/-- Player 1 comes back with `JOIN_ROOM`: the slot stays disconnected and the window stays pending. -/
theorem join_restores_nothing : ∃ s t rec e slot timer, Runs tallies (fun _ _ => True) fresh s ∧
    s.Routed (asks 6 "back6" (.joinRoom (tally 'r' 4) none)) (tally 'c' 6) rec ⟨"back6", .joinRoom (tally 'r' 4) none⟩ ∧
    rec.sessionToken = some (tally 't' 1) ∧ s.Processed (tally 't' 1) "back6" (tally 'p' 1) ∧
    s.response tallies (tally 'c' 6) rec ⟨"back6", .joinRoom (tally 'r' 4) none⟩ false = some e ∧ e.welcomes = true ∧
    s.step tallies (asks 6 "back6" (.joinRoom (tally 'r' 4) none)) = some t ∧
    t.slot (tally 'r' 4) (tally 'p' 1) = some slot ∧ slot.connected = false ∧
    t.window (tally 'r' 4) (tally 'p' 1) = some timer := by
  let body : CommandBody := .joinRoom (tally 'r' 4) none
  have hcheck : (Transition.run (step tallies) (fun _ _ => true) fresh reloaded).any (fun s =>
      (s.routes 6).any fun rec => decide (rec.sessionToken = some (tally 't' 1)) &&
        decide ((s.getSession (tally 't' 1)).map PlayerSession.playerId = some (tally 'p' 1)) &&
        (s.cached "back6").isNone && (s.response tallies (tally 'c' 6) rec ⟨"back6", body⟩ false).any WireEvent.welcomes &&
        (s.step tallies (asks 6 "back6" body)).any fun t =>
          (t.slot (tally 'r' 4) (tally 'p' 1)).any (fun slot => slot.connected = false) &&
            (t.window (tally 'r' 4) (tally 'p' 1)).isSome) = true := by
    decide +kernel
  obtain ⟨s, hrun, hs⟩ := Transition.exists_run (C := fun _ _ => True) (fun _ _ _ => trivial) hcheck
  obtain ⟨rec, hrec, hs⟩ := (Option.any_eq_true _ _).mp hs
  simp only [Bool.and_eq_true, Option.any_eq_true, decide_eq_true_eq, Option.isNone_iff_eq_none] at hs
  obtain ⟨⟨⟨⟨htoken, hplayer⟩, hcached⟩, e, he, hwelcomes⟩, t, ht, ⟨slot, hslot, hconnected⟩, htimer⟩ := hs
  obtain ⟨timer, htimer⟩ := Option.isSome_iff_exists.mp htimer
  exact ⟨s, t, rec, e, slot, timer, hrun, routed_of_routes hrec _ _, htoken,
    ⟨Option.map_eq_some_iff.mp hplayer, hcached⟩, he, hwelcomes, ht, hslot, hconnected, htimer⟩

end TicTacToe

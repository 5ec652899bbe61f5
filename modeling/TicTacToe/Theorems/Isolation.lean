import TicTacToe.Theorems.Letters

/-! # Rooms are isolated

A step about a room leaves the other rooms alone, and its events go to the sender and to the slots of the room only. -/

namespace TicTacToe
namespace Server
variable {s t : Server} {r : RoomId} {calls : List SendCall} {deliveries : List Delivery} {i : Input}

/-- Between `s` and `t` something has happened to room `r` alone: all that was sent carries the id of the room and was
written to connections that were registered for players who meet `P`. -/
structure Isolated (r : RoomId) (P : PlayerId → Prop) (s t : Server) : Prop extends Elsewhere r s t where
  sent : ∃ calls : List SendCall, t.sendLog = s.sendLog ++ calls.map (r, ·) ∧
    ∀ call ∈ calls, ∀ event, call.roomEvent = some event → event.roomId = r
  written : ∃ entries : List (ConnectionId × WireEvent), t.wire = s.wire ++ entries ∧
    ∀ c event, (c, WireEvent.event (.room event)) ∈ entries → event.roomId = r ∧ ∃ p, P p ∧ c ∈ s.getPlayerConnectionIds p

theorem Letters.isolated (h : Letters s i r t calls deliveries) :
    Isolated r (fun p => s.SentBy i p ∨ s.InRoom r p) s t := by
  obtain ⟨entries, hwire, hto⟩ := h.written
  refine ⟨h.toElsewhere, ⟨calls, h.sendLog, fun call hcall => (h.sent call hcall).room⟩, entries, hwire,
    fun c event hentry => ?_⟩
  obtain ⟨hroom, -, p, hp, hc⟩ := hto c _ event hentry rfl
  exact ⟨hroom, p, hp, hc⟩

end Server

open Server

/-! ### One room -/

/-- A step about room `r` changes the record and the session of no other room; all events of rooms that it sends or
delivers carry the id of `r`, and they are written to connections that are registered for the sender of the command or
for players who hold a slot of `r` before the step. -/
theorem room_isolation {G : IdSource} {s t : Server} {i : Input} {r : RoomId} (hn : G.NeverRepeats) {now : Millis}
    {version : String} {repository : HistoryRepository}
    (hrun : Runs G (fun _ _ => True) (start now version repository) s) (hc : s.Concerns i r)
    (hstep : s.step G i = some t) :
    Isolated r (fun p => s.SentBy i p ∨ s.InRoom r p) s t ∧
    ∀ c rec command, s.Routed i c rec command →
      ∀ d ∈ ((s.arrived c rec).dispatch G c rec command i.diskFails).deliveries,
        ∀ event, d.event.roomEvent = some event → event.roomId = r := by
  obtain ⟨hseats, hs⟩ := attached_of_run hn hrun
  obtain ⟨hk, hb⟩ := backed_of_run hrun
  obtain ⟨calls, deliveries, hletters, -⟩ := step_letters hs hn hseats.issuing hk hb hc hstep
  refine ⟨hletters.isolated, fun c rec command hrouted d hd event hevent => ?_⟩
  obtain ⟨frame, diskFails, rfl, -, hparse⟩ := hrouted.frame
  rcases hc with he | ⟨hr, hagain⟩
  · cases he
  have hconcerns : command.body.concerns = some r := by simpa [Input.concerns, hparse] using hr
  obtain ⟨calls', hletters', -⟩ := hrouted.letters hs hn hseats.issuing hk hb hconcerns hagain diskFails
  obtain ⟨c', p, -, -, hfor⟩ := hletters'.delivered d hd
  cases d with
  | connection c₁ e => exact hfor.2 event hevent
  | broadcast q e => exact hfor.2 event hevent

/-- Player 1 moves while another room waits for players. -/
theorem room_isolation_move : ∃ s t, Runs tallies (fun _ _ => True) fresh s ∧
    s.step tallies (plays 0 "move1" 0 0) = some t ∧
    t.rooms.rooms.get (tally 'r' 6) = s.rooms.rooms.get (tally 'r' 6) ∧ s.rooms.rooms.get (tally 'r' 6) ≠ none ∧
    Isolated (tally 'r' 4) (fun p => s.SentBy (plays 0 "move1" 0 0) p ∨ s.InRoom (tally 'r' 4) p) s t := by
  have hcheck : (Transition.run (step tallies) (fun _ _ => true) fresh (opening ++ [.createRoom])).any (fun s =>
      (s.rooms.rooms.get (tally 'r' 6)).isSome && !s.answeredAgain (plays 0 "move1" 0 0)) = true := by decide +kernel
  obtain ⟨s, hrun, hs⟩ := Transition.exists_run (C := fun _ _ => True) (fun _ _ _ => trivial) hcheck
  simp only [Bool.and_eq_true, Bool.not_eq_true'] at hs
  have hisolated := (room_isolation tallies_neverRepeats hrun (i := plays 0 "move1" 0 0) (r := tally 'r' 4)
    (Or.inr ⟨rfl, hs.2⟩) rfl).1
  exact ⟨s, _, hrun, rfl, hisolated.stored _ (by decide), Option.isSome_iff_ne_none.mp hs.1, hisolated⟩

end TicTacToe

import TicTacToe.Theorems.Processing
import TicTacToe.Theorems.Replay
import TicTacToe.Theorems.Wire

/-! # Holes and gaps

Numbers are given out for the whole room, so the stream of one player has holes: numbers of events for the other
player, and numbers that were never buffered. `getReplayEvents` takes a hole at the number it is asked for as the
sign of an evicted event. -/

namespace TicTacToe
namespace Server
variable {s t u : Server} {G : IdSource} {i : Input} {c : ConnectionId} {r : RoomId} {p : PlayerId} {fromSeq : Nat}
  {gs : GameSession} {commandId : CommandId} {events : List RoomEvent} {now : Millis} {version : String}
  {repository : HistoryRepository}

/-! ### Requests for a replay -/

/-- Connection `c` of slot holder `p` asks for the events of the live room `r` from `fromSeq` on, by `SYNC_REQUEST` or
by `RECONNECT`. -/
structure ReplayRequest (s : Server) (i : Input) (c : ConnectionId) (p : PlayerId) (r : RoomId) (fromSeq : Nat) :
    Prop where
  command : ∃ rec token id body, s.Routed i c rec ⟨id, body⟩ ∧ rec.sessionToken = some token ∧ s.Processed token id p ∧
    (body = .syncRequest r fromSeq ∨ ∃ lastReceivedSeq, fromSeq = lastReceivedSeq + 1 ∧ body = .reconnect r lastReceivedSeq)
  slot : ∃ room, s.getRoom r = some room ∧ getSlotByPlayerId room p ≠ none

theorem replayFor_eq (hgs : s.gameSessions.get r = some gs) (hevents : gs.getReplayEvents fromSeq p = some events)
    (hne : events ≠ []) : s.replayFor r fromSeq p = some events := by
  simp only [replayFor, hgs, Option.bind_some, hevents, Option.filter_some]
  exact if_pos (by simpa using hne)

theorem sequenceOr_eq (hgs : s.gameSessions.get r = some gs) (default : Nat) :
    s.sequenceOr r default = gs.sessionSeq := by simp [sequenceOr, hgs]

/-- A replay that is not empty is the last thing written to the asking connection. -/
theorem ReplayRequest.answered (h : s.ReplayRequest i c p r fromSeq) (hstep : s.step G i = some t)
    (hgs : t.gameSessions.get r = some gs) (hevents : gs.getReplayEvents fromSeq p = some events) (hne : events ≠ [])
    (hseq : fromSeq ≤ gs.sessionSeq) :
    t.wire.getLast? = some (c, .event (.room (makeStateSyncReplay r fromSeq gs.sessionSeq events))) := by
  obtain ⟨rec, token, id, body, hrouted, htoken, hp, hbody⟩ := h.command
  obtain ⟨room, hroom, hslot⟩ := h.slot
  obtain ⟨frame, diskFails, rfl, -, -⟩ := hrouted.frame
  have ht : t = _ := (Option.some.inj hstep).symm.trans (handleFrame_routed hrouted)
  have hq := arrived_quiet s c rec
  have hopen := hrouted.arrived_open
  obtain ⟨session, hs, rfl⟩ := (hp.to_quiet hq).session
  have hcached := (hp.to_quiet hq).uncached
  have hlive : (s.arrived c rec).getRoom r = some room := (hq.getRoom r).trans hroom
  obtain ⟨slot, hslot⟩ := Option.ne_none_iff_exists'.mp hslot
  have hgames := (conclude_quiet G c id ((s.arrived c rec).dispatch G c rec ⟨id, body⟩ diskFails)).gameSessions
  rw [ht] at hgs ⊢
  rw [hgames] at hgs
  generalize s.arrived c rec = u at *
  rcases hbody with rfl | ⟨lastReceivedSeq, rfl, rfl⟩
  · -- `SYNC_REQUEST`: the session is as before.
    have hdispatch : u.dispatch G c rec ⟨id, .syncRequest r fromSeq⟩ diskFails =
        u.handleSyncRequest c id r fromSeq token := by simp only [dispatch, htoken]
    have hconfined := handleSyncRequest_confined u c id r fromSeq token
    rw [hdispatch] at hgs ⊢
    rw [← hconfined.connections] at hopen
    rw [handleSyncRequest, roomCommand_eq hs hcached hlive] at hgs hopen ⊢
    simp only [hslot] at hgs hopen ⊢
    have hgs' : (u.afterLookup id).gameSessions.get r = some gs := hgs
    simp only [replayFor_eq hgs' hevents hne, sequenceOr_eq hgs'] at hopen ⊢
    exact conclude_last [] rfl rfl hopen
  · -- `RECONNECT`: the session has told the opponent and given out the number of the acknowledgement.
    have hdispatch : u.dispatch G c rec ⟨id, .reconnect r lastReceivedSeq⟩ diskFails =
        registerReconnected c rec.playerId (u.handleReconnect c id r lastReceivedSeq token) := by
      simp only [dispatch, htoken]
    have hconfined := handleReconnect_confined u c id r lastReceivedSeq token
    rw [hdispatch] at hgs ⊢
    rw [← hconfined.connections] at hopen
    have hlinked : ∀ result : HandlerResult, (registerReconnected c rec.playerId result).server.gameSessions =
        result.server.gameSessions ∧ (registerReconnected c rec.playerId result).server.connections =
          result.server.connections ∧ (registerReconnected c rec.playerId result).deliveries = result.deliveries ∧
        (registerReconnected c rec.playerId result).threw = result.threw := by
      intro result
      unfold registerReconnected
      split <;> exact ⟨rfl, rfl, rfl, rfl⟩
    rw [(hlinked _).1] at hgs
    rw [← (hlinked _).2.1] at hopen
    refine conclude_last ([.connection c (.event (.room (makeReconnectAck r session.playerId slot.symbol
      (((u.afterLookup id).restorePresence r token session.playerId room).allocateSequence r |>.buildRoomSnapshot r)
      gs.sessionSeq id)))]) ?_ ?_ hopen
    · rw [(hlinked _).2.2.2, handleReconnect, roomCommand_eq hs hcached hlive]
      simp only [hslot]
      rfl
    · rw [(hlinked _).2.2.1]
      rw [handleReconnect, roomCommand_eq hs hcached hlive] at hgs ⊢
      simp only [hslot] at hgs ⊢
      have hgs' : (((u.afterLookup id).restorePresence r token session.playerId room).allocateSequence r).gameSessions.get
          r = some gs := hgs
      have hbehind : lastReceivedSeq < gs.sessionSeq := hseq
      simp only [replayFor_eq hgs' hevents hne, sequenceOr_eq hgs', hbehind, ↓reduceIte]
      rfl

/-! ### The coverage test -/

/-- An event for the player from `fromSeq` on has been dropped from the buffer. -/
def EvictedFor (s : Server) (r : RoomId) (gs : GameSession) (p : PlayerId) (fromSeq : Nat) : Prop :=
  ∃ entry ∈ s.emitted r, missedBy p fromSeq entry = true ∧ entry ∉ gs.replayBuffer

/-- The answer is `null` exactly for a gap and everything buffered otherwise, and whoever asks and has missed
something is replayed it when nothing of it is gone. -/
structure TellsGaps (G : IdSource) (origin s : Server) (r : RoomId) (gs : GameSession) (p : PlayerId) (fromSeq : Nat) :
    Prop where
  null : gs.getReplayEvents fromSeq p = none ↔ s.EvictedFor r gs p fromSeq
  covered : ¬s.EvictedFor r gs p fromSeq →
    gs.getReplayEvents fromSeq p = some ((gs.missed p fromSeq).map BufferEntry.event)
  replayed : ∀ s₀ i c, Runs G (fun _ _ => True) origin s₀ → s₀.ReplayRequest i c p r fromSeq → s₀.step G i = some s →
    gs.missed p fromSeq ≠ [] → ¬s.EvictedFor r gs p fromSeq →
    s.wire.getLast? = some (c, .event (.room
      (makeStateSyncReplay r fromSeq gs.sessionSeq ((gs.missed p fromSeq).map BufferEntry.event))))

/-- The event with number `fromSeq` is buffered and for the player, or nothing from `fromSeq` on has been sent to the
player, or some of that is buffered and some has been dropped. -/
def GapVisible (s : Server) (r : RoomId) (gs : GameSession) (p : PlayerId) (fromSeq : Nat) : Prop :=
  (∃ entry ∈ gs.replayBuffer, entry.number = fromSeq ∧ GameSession.addressedTo p entry = true) ∨
  (∀ entry ∈ s.emitted r, missedBy p fromSeq entry = false) ∨
  gs.missed p fromSeq ≠ [] ∧ s.EvictedFor r gs p fromSeq

/-- What `getReplayEvents` has to say about a backed session, by what the buffer has for the player. -/
theorem replay_cases (hb : gs.Backed (s.handed r)) (p : PlayerId) (hseq : fromSeq ≤ gs.sessionSeq) :
    (gs.missed p fromSeq = [] ∧ gs.getReplayEvents fromSeq p = some [] ∧
      ¬∃ entry ∈ gs.replayBuffer, entry.number = fromSeq ∧ GameSession.addressedTo p entry = true) ∨
    (gs.missed p fromSeq ≠ [] ∧ ¬s.EvictedFor r gs p fromSeq ∧
      (∃ entry ∈ gs.replayBuffer, entry.number = fromSeq ∧ GameSession.addressedTo p entry = true) ∧
      gs.getReplayEvents fromSeq p = some ((gs.missed p fromSeq).map BufferEntry.event)) ∨
    (gs.missed p fromSeq ≠ [] ∧ gs.getReplayEvents fromSeq p = none ∧
      ¬∃ entry ∈ gs.replayBuffer, entry.number = fromSeq ∧ GameSession.addressedTo p entry = true) := by
  have heq := GameSession.getReplayEvents_eq (p := p) hseq
  cases hmissed : gs.missed p fromSeq with
  | nil =>
    rw [hmissed] at heq
    refine Or.inl ⟨rfl, heq, ?_⟩
    rintro ⟨entry, hentry, hnumber, haddressed⟩
    have hmem := GameSession.mem_missed.mpr ⟨hentry, hnumber.ge, haddressed⟩
    rw [hmissed] at hmem
    cases hmem
  | cons oldest rest =>
    have holdest : oldest ∈ gs.missed p fromSeq := hmissed ▸ List.mem_cons_self
    obtain ⟨hbuffered, hfrom, haddressed⟩ := GameSession.mem_missed.mp holdest
    simp only [hmissed] at heq
    by_cases hlate : oldest.number > fromSeq
    · rw [if_pos hlate] at heq
      refine Or.inr (Or.inr ⟨List.cons_ne_nil _ _, heq, ?_⟩)
      rintro ⟨entry, hentry, hnumber, haddressed'⟩
      have hmem := GameSession.mem_missed.mpr ⟨hentry, hnumber.ge, haddressed'⟩
      -- The first entry of an increasing list has the least number.
      have hsorted := (hb.buffered.sublist (List.filter_sublist (p := missedBy p fromSeq))).increasing
      have hmissed' : gs.replayBuffer.filter (missedBy p fromSeq) = oldest :: rest := hmissed
      rw [hmissed] at hmem
      rw [hmissed'] at hsorted
      rcases List.mem_cons.mp hmem with rfl | hmem
      · omega
      · have hlt := (List.pairwise_cons.mp hsorted).1 entry hmem
        omega
    · rw [if_neg hlate] at heq
      have hnumber : oldest.number = fromSeq := Nat.le_antisymm (Nat.not_lt.mp hlate) hfrom
      refine Or.inr (Or.inl ⟨List.cons_ne_nil _ _, ?_, ⟨oldest, hbuffered, hnumber, haddressed⟩, heq⟩)
      rintro ⟨entry, hentry, hmissedby, hgone⟩
      simp only [missedBy, Bool.and_eq_true, decide_eq_true_eq] at hmissedby
      exact hgone (hb.kept hbuffered hentry (hnumber.le.trans hmissedby.1))

end Server

open Server

/-- A session tells gaps exactly when no hole can be taken for one: the event with the number asked for is buffered and
for the player, nothing from there on was for the player, or something of it is indeed gone while something is left. -/
theorem replay_tells_gaps {G : IdSource} {s : Server} {r : RoomId} {gs : GameSession} {p : PlayerId} {fromSeq : Nat}
    {now : Millis} {version : String} {repository : HistoryRepository}
    (hrun : Runs G (fun _ _ => True) (start now version repository) s) (hgs : s.gameSessions.get r = some gs)
    (hseq : fromSeq ≤ gs.sessionSeq) :
    TellsGaps G (start now version repository) s r gs p fromSeq ↔ s.GapVisible r gs p fromSeq := by
  have hb := session_backed hrun hgs
  have hevicted : gs.missed p fromSeq = [] → ((∀ entry ∈ s.emitted r, missedBy p fromSeq entry = false) ↔
      ¬s.EvictedFor r gs p fromSeq) := by
    intro hnone
    have hempty := List.filter_eq_nil_iff.mp hnone
    constructor
    · rintro hall ⟨entry, hentry, hmissed, -⟩
      exact Bool.false_ne_true ((hall entry hentry).symm.trans hmissed)
    · intro hkept entry hentry
      by_contra hmissed
      refine hkept ⟨entry, hentry, Bool.not_eq_false _ ▸ hmissed, fun hbuffered => ?_⟩
      exact hempty entry hbuffered (Bool.not_eq_false _ ▸ hmissed)
  rcases replay_cases hb p hseq with ⟨hmissed, heq, hnot⟩ | ⟨hmissed, hkept, hentry, heq⟩ | ⟨hmissed, heq, hnot⟩
  · constructor
    · intro h
      have hkept : ¬s.EvictedFor r gs p fromSeq := fun hgone => by
        have hnull := h.null.mpr hgone
        rw [heq] at hnull
        cases hnull
      exact Or.inr (Or.inl ((hevicted hmissed).mpr hkept))
    · rintro (hbuffered | hnone | ⟨hsome, -⟩)
      · exact absurd hbuffered hnot
      · have hkept := (hevicted hmissed).mp hnone
        refine ⟨⟨fun hnull => ?_, fun hgone => absurd hgone hkept⟩, fun _ => ?_,
          fun _ _ _ _ _ _ hsome => absurd hmissed hsome⟩
        · rw [heq] at hnull
          cases hnull
        · rw [heq, hmissed]
          rfl
      · exact absurd hmissed hsome
  · refine ⟨fun _ => Or.inl hentry, fun _ => ⟨⟨fun hnull => ?_, fun hgone => absurd hgone hkept⟩, fun _ => heq, ?_⟩⟩
    · rw [heq] at hnull
      cases hnull
    · intro s₀ i c _ hrequest hstep hsome _
      exact hrequest.answered hstep hgs heq (by simpa using hsome) hseq
  · constructor
    · intro h
      exact Or.inr (Or.inr ⟨hmissed, h.null.mp heq⟩)
    · rintro (hbuffered | hnone | ⟨-, hgone⟩)
      · exact absurd hbuffered hnot
      · obtain ⟨entry, hentry⟩ := List.exists_mem_of_ne_nil _ hmissed
        obtain ⟨hbuffered, hfrom, haddressed⟩ := GameSession.mem_missed.mp hentry
        have hlogged : entry ∈ s.emitted r := mem_of_mem_rtake (hb.buffer ▸ hbuffered)
        have hfalse := hnone entry hlogged
        simp only [missedBy, hfrom, decide_true, haddressed, Bool.and_self] at hfalse
        cases hfalse
      · exact ⟨⟨fun _ => hgone, fun _ => heq⟩, fun hkept => absurd hgone hkept,
          fun _ _ _ _ _ _ _ hkept => absurd hgone hkept⟩

/-- After the first move of the opening's game, its player is told of every gap from number 2 on. -/
theorem replay_tells_gaps_mover : ∃ s gs, Runs tallies (fun _ _ => True) fresh s ∧
    s.gameSessions.get (tally 'r' 4) = some gs ∧ s.GapVisible (tally 'r' 4) gs (tally 'p' 1) 2 ∧
    TellsGaps tallies fresh s (tally 'r' 4) gs (tally 'p' 1) 2 := by
  have hcheck : (Transition.run (step tallies) (fun _ _ => true) fresh (opening ++ [plays 0 "move1" 0 0])).any (fun s =>
      (s.gameSessions.get (tally 'r' 4)).any fun gs => 2 ≤ gs.sessionSeq && gs.replayBuffer.any fun entry =>
        entry.number = 2 && GameSession.addressedTo (tally 'p' 1) entry) = true := by decide +kernel
  obtain ⟨s, hrun, hs⟩ := Transition.exists_run (C := fun _ _ => True) (fun _ _ _ => trivial) hcheck
  simp only [Option.any_eq_true, Bool.and_eq_true, decide_eq_true_eq, List.any_eq_true] at hs
  obtain ⟨gs, hgs, hseq, entry, hentry, hnumber, haddressed⟩ := hs
  have hvisible : s.GapVisible (tally 'r' 4) gs (tally 'p' 1) 2 := Or.inl ⟨entry, hentry, hnumber, haddressed⟩
  exact ⟨s, gs, hrun, hgs, hvisible, (replay_tells_gaps hrun hgs hseq).mpr hvisible⟩

/-- A snapshot of a room, written to a connection. -/
def isSnapshot (c : ConnectionId) : ConnectionId × WireEvent → Bool
  | (c', .event (.room ⟨_, _, _, .stateSyncSnapshot _⟩)) => c' = c
  | _ => false

/-- Number 2 of the opening's game is the `MOVE_ACK` of player 1. Player 3 has missed number 3 only, which is buffered,
and nothing has been dropped. Asked from number 2 on, the server answers with a snapshot. -/
theorem hole_taken_for_gap : ∃ s₀ s gs, Runs tallies (fun _ _ => True) fresh s₀ ∧
    s₀.ReplayRequest (asks 2 "sync3" (.syncRequest (tally 'r' 4) 2)) (tally 'c' 2) (tally 'p' 3) (tally 'r' 4) 2 ∧
    s₀.step tallies (asks 2 "sync3" (.syncRequest (tally 'r' 4) 2)) = some s ∧
    s.gameSessions.get (tally 'r' 4) = some gs ∧ 2 ≤ gs.sessionSeq ∧ gs.missed (tally 'p' 3) 2 ≠ [] ∧
    ¬s.EvictedFor (tally 'r' 4) gs (tally 'p' 3) 2 ∧ gs.getReplayEvents 2 (tally 'p' 3) = none ∧
    s.wire.getLast?.any (isSnapshot (tally 'c' 2)) = true ∧
    ¬TellsGaps tallies fresh s (tally 'r' 4) gs (tally 'p' 3) 2 := by
  have hcheck : (Transition.run (step tallies) (fun _ _ => true) fresh (opening ++ [plays 0 "move1" 0 0])).any (fun s =>
      s.asker 2 "sync3" = some (tally 'p' 3) &&
      ((s.getRoom (tally 'r' 4)).any fun room => (getSlotByPlayerId room (tally 'p' 3)).isSome) &&
      ((s.step tallies (asks 2 "sync3" (.syncRequest (tally 'r' 4) 2))).any fun t =>
        (t.gameSessions.get (tally 'r' 4)).any fun gs => 2 ≤ gs.sessionSeq && !(gs.missed (tally 'p' 3) 2).isEmpty &&
          (t.emitted (tally 'r' 4)).length ≤ 3 && (gs.getReplayEvents 2 (tally 'p' 3)).isNone &&
          t.wire.getLast?.any (isSnapshot (tally 'c' 2)))) = true := by decide +kernel
  obtain ⟨s₀, hrun, hs⟩ := Transition.exists_run (C := fun _ _ => True) (fun _ _ _ => trivial) hcheck
  simp only [Option.any_eq_true, Bool.and_eq_true, decide_eq_true_eq, Bool.not_eq_true', Option.isNone_iff_eq_none,
    List.isEmpty_eq_false_iff] at hs
  obtain ⟨⟨hasker, room, hroom, hslot⟩, s, hstep, gs, hgs, ⟨⟨⟨hseq, hmissed⟩, hshort⟩, hnull⟩, hsnapshot⟩ := hs
  obtain ⟨c, rec, token, hrouted, htoken, hp⟩ := handles_of_asker hasker (.syncRequest (tally 'r' 4) 2)
  obtain ⟨_, _, hframe, -⟩ := hrouted.frame
  obtain ⟨rfl, -⟩ := Input.frame.inj hframe
  have hb := session_backed (hrun.tail trivial hstep) hgs
  have hkept : ¬s.EvictedFor (tally 'r' 4) gs (tally 'p' 3) 2 := by
    rintro ⟨entry, hentry, -, hgone⟩
    refine hgone ?_
    have hall : (s.emitted (tally 'r' 4)).rtake EVENT_BUFFER_SIZE = s.emitted (tally 'r' 4) := by
      rw [List.rtake, Nat.sub_eq_zero_of_le (hshort.trans (by decide)), List.drop_zero]
    have hbuffer : gs.replayBuffer = (s.emitted (tally 'r' 4)).rtake EVENT_BUFFER_SIZE := hb.buffer
    rw [hbuffer, hall]
    exact hentry
  have hrequest : s₀.ReplayRequest _ (tally 'c' 2) (tally 'p' 3) (tally 'r' 4) 2 :=
    ⟨⟨rec, token, _, _, hrouted, htoken, hp, Or.inl rfl⟩, room, hroom, Option.isSome_iff_ne_none.mp hslot⟩
  exact ⟨s₀, s, gs, hrun, hrequest, hstep, hgs, hseq, hmissed, hkept, hnull, (Option.any_eq_true _ _).mpr hsnapshot,
    fun h => hkept (h.null.mp hnull)⟩

end TicTacToe

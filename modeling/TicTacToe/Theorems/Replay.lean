import TicTacToe.Theorems.EventLog

/-! # What is replayed

The replay buffer is the end of the log. A replay that is not empty starts at the number it was asked for, so
nothing behind it has been dropped. -/

namespace TicTacToe

/-- The events from number `fromSeq` on that are for player `p`. -/
def missedBy (p : PlayerId) (fromSeq : Nat) (entry : BufferEntry) : Bool :=
  fromSeq ≤ entry.number && GameSession.addressedTo p entry

/-- Those of them that the buffer has. -/
def GameSession.missed (gs : GameSession) (p : PlayerId) (fromSeq : Nat) : List BufferEntry :=
  gs.replayBuffer.filter (missedBy p fromSeq)

namespace GameSession
variable {gs : GameSession} {log : List BufferEntry} {p : PlayerId} {fromSeq : Nat} {events : List RoomEvent}

/-- Within the numbers given out, the answer depends on the first buffered event alone. -/
theorem getReplayEvents_eq (hseq : fromSeq ≤ gs.sessionSeq) :
    gs.getReplayEvents fromSeq p = match gs.missed p fromSeq with
      | [] => some []
      | oldest :: _ => if oldest.number > fromSeq then none else some ((gs.missed p fromSeq).map BufferEntry.event) := by
  simp only [getReplayEvents, if_neg (Nat.not_lt.mpr hseq)]
  rfl

theorem mem_missed {entry : BufferEntry} :
    entry ∈ gs.missed p fromSeq ↔ entry ∈ gs.replayBuffer ∧ fromSeq ≤ entry.number ∧ addressedTo p entry = true := by
  simp [missed, missedBy]

/-- A replay is all that the buffer has for the player, from the number that was asked for on. -/
theorem getReplayEvents_some (h : gs.getReplayEvents fromSeq p = some events) (hne : events ≠ []) :
    ∃ oldest ∈ gs.missed p fromSeq, oldest.number = fromSeq ∧ events = (gs.missed p fromSeq).map BufferEntry.event := by
  have hseq : fromSeq ≤ gs.sessionSeq := by
    by_contra hbeyond
    rw [getReplayEvents, if_pos (Nat.not_le.mp hbeyond)] at h
    exact hne (Option.some.inj h).symm
  rw [getReplayEvents_eq hseq] at h
  cases hmissed : gs.missed p fromSeq with
  | nil =>
    rw [hmissed] at h
    exact absurd (Option.some.inj h).symm hne
  | cons oldest rest =>
    have hmem : oldest ∈ gs.missed p fromSeq := hmissed ▸ List.mem_cons_self
    obtain ⟨-, hfrom, -⟩ := mem_missed.mp hmem
    rw [hmissed] at h
    dsimp only at h
    split at h
    · cases h
    · rename_i hle
      exact ⟨oldest, List.mem_cons_self, Nat.le_antisymm (Nat.not_lt.mp hle) hfrom, (Option.some.inj h).symm⟩

namespace Backed

/-- The emitted part of the log is numbered as well. -/
theorem emitted (h : gs.Backed log) : Numbered BufferEntry.number gs.sessionSeq (log.filter BufferEntry.emitted) :=
  h.numbered.sublist List.filter_sublist

theorem buffered (h : gs.Backed log) : Numbered BufferEntry.number gs.sessionSeq gs.replayBuffer := by
  rw [h.buffer]
  exact h.emitted.sublist (List.drop_sublist _ _)

/-- From the number of a buffered event on, the buffer has everything that was emitted. -/
theorem kept {entry later : BufferEntry} (h : gs.Backed log) (hentry : entry ∈ gs.replayBuffer)
    (hlater : later ∈ log.filter BufferEntry.emitted) (hle : entry.number ≤ later.number) : later ∈ gs.replayBuffer := by
  rw [h.buffer] at hentry ⊢
  exact h.emitted.mem_rtake_of_le hentry hlater hle

/-- What the buffer has for the player is all that was emitted for the player, unless some of it is gone. -/
theorem missed_eq (h : gs.Backed log) (hkept : ∀ entry ∈ log.filter BufferEntry.emitted,
    missedBy p fromSeq entry = true → entry ∈ gs.replayBuffer) :
    gs.missed p fromSeq = (log.filter BufferEntry.emitted).filter (missedBy p fromSeq) := by
  rw [h.buffer] at hkept
  rw [missed, h.buffer]
  exact h.emitted.filter_rtake hkept

/-- A replay has everything that was emitted for the player from the number on. -/
theorem replayed (h : gs.Backed log) (hevents : gs.getReplayEvents fromSeq p = some events) (hne : events ≠ []) :
    events = ((log.filter BufferEntry.emitted).filter (missedBy p fromSeq)).map BufferEntry.event := by
  obtain ⟨oldest, holdest, hnumber, rfl⟩ := getReplayEvents_some hevents hne
  obtain ⟨hbuffered, -, -⟩ := mem_missed.mp holdest
  rw [h.missed_eq fun entry hentry hmissed => h.kept hbuffered hentry ?_]
  simp only [missedBy, Bool.and_eq_true, decide_eq_true_eq] at hmissed
  exact hnumber.le.trans hmissed.1

end Backed
end GameSession

namespace Server
variable {G : IdSource} {C : Server → Input → Prop} {s : Server} {r : RoomId} {gs : GameSession} {now : Millis}
  {version : String} {repository : HistoryRepository}

/-- In a run, the log of a room backs the room's session. -/
theorem session_backed (hrun : Runs G C (start now version repository) s) (hgs : s.gameSessions.get r = some gs) :
    gs.Backed (s.handed r) := ((backed_of_run hrun).2 r).some gs hgs

end Server

open Server

/-! ### The buffer and the log -/

/-- The buffer of a session is the end of the log of emitted events, whose numbers increase up to the counter, and a
replay that is not empty is all of the log from the number on that is for the player. -/
theorem replay_refines_log {G : IdSource} {s : Server} {r : RoomId} {gs : GameSession} {now : Millis}
    {version : String} {repository : HistoryRepository}
    (hrun : Runs G (fun _ _ => True) (start now version repository) s) (hgs : s.gameSessions.get r = some gs) :
    gs.replayBuffer = (s.emitted r).rtake EVENT_BUFFER_SIZE ∧
    gs.replayBuffer.length = min (s.emitted r).length EVENT_BUFFER_SIZE ∧
    gs.replayBuffer.Pairwise (fun a b => a.number < b.number) ∧
    (∀ entry ∈ gs.replayBuffer, entry.number ≤ gs.sessionSeq) ∧
    ∀ p fromSeq events, gs.getReplayEvents fromSeq p = some events → events ≠ [] →
      events = ((s.emitted r).filter (missedBy p fromSeq)).map BufferEntry.event := by
  have hb := session_backed hrun hgs
  refine ⟨hb.buffer, ?_, hb.buffered.increasing, hb.buffered.le, fun p fromSeq events => hb.replayed⟩
  rw [hb.buffer, length_rtake]
  rfl

/-- After the first move of the opening's game, player 1 is replayed all from number 2 on. -/
theorem replay_refines_log_move : ∃ s gs events, Runs tallies (fun _ _ => True) fresh s ∧
    s.gameSessions.get (tally 'r' 4) = some gs ∧ gs.getReplayEvents 2 (tally 'p' 1) = some events ∧ events ≠ [] ∧
    events = ((s.emitted (tally 'r' 4)).filter (missedBy (tally 'p' 1) 2)).map BufferEntry.event := by
  have hcheck : (Transition.run (step tallies) (fun _ _ => true) fresh (opening ++ [plays 0 "move1" 0 0])).any (fun s =>
      (s.gameSessions.get (tally 'r' 4)).any fun gs => (gs.getReplayEvents 2 (tally 'p' 1)).any fun events =>
        events.length = 1) = true := by decide +kernel
  obtain ⟨s, hrun, hs⟩ := Transition.exists_run (C := fun _ _ => True) (fun _ _ _ => trivial) hcheck
  simp only [Option.any_eq_true, decide_eq_true_eq] at hs
  obtain ⟨gs, hgs, events, hevents, hlength⟩ := hs
  have hne : events ≠ [] := List.ne_nil_of_length_pos (by omega)
  exact ⟨s, gs, events, hrun, hgs, hevents, hne, (replay_refines_log hrun hgs).2.2.2.2 _ _ _ hevents hne⟩

end TicTacToe

import TicTacToe.Theorems.Replay
import TicTacToe.Theorems.StaleRematch

/-! # Events that cannot be replayed

`REMATCH_DECLINED` takes a number but goes past the buffer. As long as no proposal is declined, everything that a
session has sent since the start of its game is in the buffer, or has been followed by a full buffer. -/

namespace TicTacToe

/-! ### What the log gains -/

theorem mem_enlog {log : List BufferEntry} {entry new : BufferEntry} (h : entry ∈ enlog log new) :
    entry ∈ log ∨ entry = new := by
  unfold enlog at h
  split at h
  · exact Or.inr (List.mem_singleton.mp h)
  · exact (List.mem_append.mp h).imp id List.mem_singleton.mp

theorem mem_handOver {log : List BufferEntry} {calls : List SendCall} {entry : BufferEntry}
    (h : entry ∈ handOver log calls) : entry ∈ log ∨ ∃ call ∈ calls, call.entry = some entry := by
  induction calls generalizing log with
  | nil => exact Or.inl h
  | cons call calls ih =>
    rw [← List.singleton_append, handOver_append] at h
    rcases ih h with h | ⟨later, hlater, hentry⟩
    · cases hcall : call.entry with
      | none =>
        have hnone : handOver log [call] = log := by simp [handOver, hcall]
        exact Or.inl (hnone ▸ h)
      | some new =>
        have hsome : handOver log [call] = enlog log new := by simp [handOver, hcall]
        rw [hsome] at h
        rcases mem_enlog h with h | rfl
        · exact Or.inl h
        · exact Or.inr ⟨call, List.mem_cons_self, hcall⟩
    · exact Or.inr ⟨later, List.mem_cons_of_mem _ hlater, hentry⟩

theorem SendCall.payload_of_entry {call : SendCall} {entry : BufferEntry} (h : call.entry = some entry) :
    call.payload = some entry.event.payload := by
  obtain ⟨target, p, event⟩ := call
  cases event with
  | room event =>
    obtain rfl := Option.some.inj h
    rfl
  | _ => cases h

/-- Every other action but a decline sends through `emit`. -/
theorem RoomAction.emits_emitted {a : RoomAction} {entry : BufferEntry} (h : a.emits entry.event.payload = true)
    (ha : ∀ p g, a ≠ .rematchDeclined p g) : entry.emitted = true := by
  obtain ⟨⟨r, seq, correlationId, payload⟩, target, q⟩ := entry
  cases payload with
  | rematchDeclined g x =>
    cases a with
    | rematchDeclined p g => exact absurd rfl (ha p g)
    | _ => cases h
  | _ => rfl

/-- A decline sends one event, which is not buffered, or nothing. -/
theorem RoomStep.declined_sends {G : IdSource} {now : Millis} {r : RoomId} {lo hi : Nat} {v v' : RoomView}
    {sends : List SendCall} {p : PlayerId} {g : GameId} {room : RoomRecord}
    (h : RoomStep G now r lo hi v (.rematchDeclined p g) sends v') (hroom : v.room = some room) :
    sends = [] ∨ v.proposal ≠ none ∧ getSymbolForPlayer room p ≠ none ∧ ∃ gs gs' x, v'.game = some gs' ∧
      sends = [⟨.broadcast, p, .room (makeRematchDeclined gs g x gs'.sessionSeq)⟩] := by
  cases h with
  | @rematchDeclined p room' gs g hroom' hgame =>
    obtain rfl := Option.some.inj (hroom.symm.trans hroom')
    rcases GameSession.handleRematchDecline_cases gs room p g with he | ⟨x, hsome, hx, he⟩
    · rw [he]
      exact Or.inl rfl
    · rw [he, RoomView.proposal_of_game hgame]
      exact Or.inr ⟨hsome, by simp [hx], gs.roomId, _, x, rfl, rfl⟩

namespace Server
variable {s t : Server} {G : IdSource} {i : Input} {r : RoomId} {gs : GameSession} {now : Millis} {version : String}
  {repository : HistoryRepository}

/-! ### Declines -/

/-- A member's `DECLINE_REMATCH` is processed while a proposal is pending. -/
def declinesPending (s : Server) (i : Input) : Bool :=
  match s.processed i with
  | some (⟨_, .declineRematch r _⟩, p) =>
    (s.view r).proposal.isSome && (s.getRoom r).any fun room => (getSymbolForPlayer room p).isSome
  | _ => false

/-- Everything the session of `r` has handed to its send function is in the buffer, or has been followed by a full
buffer; and a replay has everything of it from its number on that is for the player. -/
structure Replayable (s : Server) (r : RoomId) (gs : GameSession) : Prop where
  buffered : ∀ entry ∈ s.handed r, entry ∈ gs.replayBuffer ∨
    EVENT_BUFFER_SIZE ≤ ((s.emitted r).filter fun later => entry.number < later.number).length
  replayed : ∀ p fromSeq events, gs.getReplayEvents fromSeq p = some events → events ≠ [] →
    ∀ entry ∈ s.handed r, missedBy p fromSeq entry = true → entry.event ∈ events

/-- Nothing has gone past the buffer. -/
def AllEmitted (s : Server) : Prop := ∀ r, ∀ entry ∈ s.handed r, entry.emitted = true

theorem AllEmitted.step (ha : s.AllEmitted) (hk : s.Keyed) (hi : s.declinesPending i = false)
    (h : s.step G i = some t) : t.AllEmitted := by
  intro r entry hentry
  rcases step_acts hk h with ⟨elapsed, -, rfl⟩ | ⟨r', a, hacts, hcause⟩
  · exact ha r entry hentry
  obtain ⟨sends, hstep, hlog⟩ := hacts.step
  rw [handed_append hlog] at hentry
  split at hentry
  · rcases mem_handOver hentry with hentry | ⟨call, hcall, hcallentry⟩
    · exact ha r entry hentry
    by_cases hdecline : ∃ p g, a = .rematchDeclined p g
    · -- Without a pending proposal a decline sends nothing.
      obtain ⟨p, g, rfl⟩ := hdecline
      obtain ⟨id, hhandles⟩ := hcause
      obtain ⟨room, hroom⟩ := Option.isSome_iff_exists.mp (hacts.onLive rfl)
      have hprocessed : s.processed i = some (⟨id, .declineRematch r' g⟩, p) := hhandles.processed rfl
      rcases hstep.declined_sends (view_room_of_getRoom hroom) with rfl | ⟨hpending, hx, -⟩
      · cases hcall
      · have hdeclines : s.declinesPending i = true := by
          simp only [declinesPending, hprocessed, Option.isSome_iff_ne_none.mpr hpending, hroom, Option.any_some,
            Option.isSome_iff_ne_none.mpr hx, Bool.and_self]
        rw [hi] at hdeclines
        cases hdeclines
    · have hkind := hstep.sendsOnly call hcall _ (SendCall.payload_of_entry hcallentry)
      exact RoomAction.emits_emitted hkind fun p g ha => hdecline ⟨p, g, ha⟩
  · exact ha r entry hentry

theorem AllEmitted.replayable (ha : s.AllEmitted) (hb : gs.Backed (s.handed r)) : s.Replayable r gs := by
  have hall : s.emitted r = s.handed r := List.filter_eq_self.mpr (ha r)
  refine ⟨fun entry hentry => ?_, fun p fromSeq events hevents hne entry hentry hmissed => ?_⟩
  · by_cases hkept : entry ∈ gs.replayBuffer
    · exact Or.inl hkept
    · rw [hb.buffer] at hkept
      have hlogged : entry ∈ (s.handed r).filter BufferEntry.emitted := List.mem_filter.mpr ⟨hentry, ha r entry hentry⟩
      exact Or.inr (hb.emitted.length_later hlogged hkept)
  · have hemitted : (s.handed r).filter BufferEntry.emitted = s.handed r := hall
    rw [hb.replayed hevents hne, hemitted]
    exact List.mem_map_of_mem (List.mem_filter.mpr ⟨hentry, hmissed⟩)

/-- A declined proposal leaves an event that cannot be replayed. -/
theorem not_replayable_of_declinesPending (hk : s.Keyed) (hb : s.Backed) (hi : s.declinesPending i = true)
    (h : s.step G i = some t) : ∃ r gs, t.gameSessions.get r = some gs ∧ ¬t.Replayable r gs := by
  unfold declinesPending at hi
  split at hi
  · rename_i id r g p hprocessed
    simp only [Bool.and_eq_true, Option.any_eq_true] at hi
    obtain ⟨hpending, room, hroom, hx⟩ := hi
    have hhandles := handles_of_processed hprocessed
    have hacts := hhandles.declines_pending hroom (Option.isSome_iff_ne_none.mp hpending) h
    obtain ⟨sends, hstep, hlog⟩ := hacts.step
    have hsends : sends ≠ [] := by
      rcases hstep.declined (view_room_of_getRoom hroom) (Option.isSome_iff_ne_none.mp hx) with ⟨hnone, -⟩ | ⟨-, -, hsends⟩
      · rw [hnone] at hpending
        cases hpending
      · exact hsends
    rcases hstep.declined_sends (view_room_of_getRoom hroom) with hnone | ⟨-, -, r', gs, x, hgame, rfl⟩
    · exact absurd hnone hsends
    have hbacked := (hb.step hk h r).some gs hgame
    refine ⟨r, gs, hgame, fun hreplayable => ?_⟩
    -- The declined event is in the log, has the latest number, and is not in the buffer.
    have hlogged : BufferEntry.mk (makeRematchDeclined r' g x gs.sessionSeq) .broadcast p ∈ t.handed r := by
      have hstart : (BufferEntry.mk (makeRematchDeclined r' g x gs.sessionSeq) .broadcast p).restarts ≠ true :=
        Bool.false_ne_true
      rw [handed_append hlog, if_pos rfl, handOver_room, enlog, if_neg hstart]
      exact List.mem_append_right _ (List.mem_singleton_self _)
    rcases hreplayable.buffered _ hlogged with hbuffered | hlater
    · rw [hbacked.buffer] at hbuffered
      have hemitted := (List.mem_filter.mp (mem_of_mem_rtake hbuffered)).2
      cases hemitted
    · have hnone : (t.emitted r).filter (fun later => gs.sessionSeq < later.number) = [] := by
        refine List.filter_eq_nil_iff.mpr fun later hmem hlt => ?_
        have hle := hbacked.emitted.le later hmem
        exact absurd (of_decide_eq_true hlt) (Nat.not_lt.mpr hle)
      have hlater' : EVENT_BUFFER_SIZE ≤ ((t.emitted r).filter fun later => gs.sessionSeq < later.number).length := hlater
      rw [hnone] at hlater'
      cases hlater'
  · cases hi

end Server

open Server

/-- As long as no proposal is declined, everything that a session has sent since the start of its game can be replayed;
the first step that declines one leaves an event that cannot. -/
theorem sent_events_replayable {G : IdSource} {s : Server} {now : Millis} {version : String}
    {repository : HistoryRepository}
    (hrun : Runs G (fun s i => s.declinesPending i = false) (start now version repository) s) :
    (∀ r gs, s.gameSessions.get r = some gs → s.Replayable r gs) ∧
    ∀ i t, s.step G i = some t →
      ((∀ r gs, t.gameSessions.get r = some gs → t.Replayable r gs) ↔ s.declinesPending i = false) := by
  obtain ⟨hk, hb⟩ := backed_of_run hrun
  have ha : s.AllEmitted := (hrun.invariant (P := fun s => s.Keyed ∧ s.AllEmitted)
    ⟨start_keyed now version repository, fun r entry h => by simp [handed, callsOf, start] at h⟩
    fun _ _ _ hs hi hstep => ⟨hs.1.step hstep, hs.2.step hs.1 hi hstep⟩).2
  refine ⟨fun r gs hgs => ha.replayable ((hb r).some gs hgs), fun i t hstep => ⟨fun h => ?_, fun hi r gs hgs => ?_⟩⟩
  · by_contra hdeclines
    obtain ⟨r, gs, hgs, hnot⟩ := not_replayable_of_declinesPending hk hb (by simpa using hdeclines) hstep
    exact hnot (h r gs hgs)
  · exact (ha.step hk hi hstep).replayable ((hb.step hk hstep r).some gs hgs)

/-- Player 1 wins the game of the opening and asks for a rematch. -/
theorem sent_events_replayable_request : ∃ s gs, Runs tallies (fun s i => s.declinesPending i = false) fresh s ∧
    s.gameSessions.get (tally 'r' 4) = some gs ∧ (s.handed (tally 'r' 4)).length = 13 ∧
    s.Replayable (tally 'r' 4) gs := by
  have hcheck : (Transition.run (step tallies) (fun s i => !s.declinesPending i) fresh
      (won ++ [asks 0 "again1" (.requestRematch (tally 'r' 4) (tally 'g' 5))])).any (fun s =>
      (s.gameSessions.get (tally 'r' 4)).isSome && (s.handed (tally 'r' 4)).length = 13) = true := by decide +kernel
  obtain ⟨s, hrun, hs⟩ := Transition.exists_run (C := fun s i => s.declinesPending i = false)
    (fun s i h => by simpa using h) hcheck
  simp only [Bool.and_eq_true, Option.isSome_iff_exists, decide_eq_true_eq] at hs
  obtain ⟨⟨gs, hgs⟩, hlength⟩ := hs
  exact ⟨s, gs, hrun, hgs, hlength, (sent_events_replayable hrun).1 _ gs hgs⟩

/-- Player 3 declines the rematch. The event has number 14; the replay from number 13 on, which player 1 is given, ends
before it. -/
theorem declined_rematch_not_replayed : ∃ s gs events entry, Runs tallies (fun _ _ => True) fresh s ∧
    s.gameSessions.get (tally 'r' 4) = some gs ∧ entry ∈ s.handed (tally 'r' 4) ∧ entry.number = 14 ∧
    missedBy (tally 'p' 1) 13 entry = true ∧ gs.getReplayEvents 13 (tally 'p' 1) = some events ∧ events ≠ [] ∧
    entry.event ∉ events ∧ ¬s.Replayable (tally 'r' 4) gs := by
  have hcheck : (Transition.run (step tallies) (fun _ _ => true) fresh
      (won ++ [asks 0 "again1" (.requestRematch (tally 'r' 4) (tally 'g' 5)),
        asks 2 "no3" (.declineRematch (tally 'r' 4) (tally 'g' 5))])).any (fun s =>
      (s.gameSessions.get (tally 'r' 4)).any fun gs => (gs.getReplayEvents 13 (tally 'p' 1)).any fun events =>
        !events.isEmpty && events.all (fun event => event.sessionSeq < 14) &&
          (s.handed (tally 'r' 4)).any fun entry => entry.number = 14 && missedBy (tally 'p' 1) 13 entry) = true := by
    decide +kernel
  obtain ⟨s, hrun, hs⟩ := Transition.exists_run (C := fun _ _ => True) (fun _ _ _ => trivial) hcheck
  simp only [Option.any_eq_true, Bool.and_eq_true, decide_eq_true_eq, List.any_eq_true, List.all_eq_true,
    Bool.not_eq_true', List.isEmpty_eq_false_iff] at hs
  obtain ⟨gs, hgs, events, hevents, ⟨hne, hearlier⟩, entry, hentry, hnumber, hmissed⟩ := hs
  have hnot : entry.event ∉ events := fun hmem => absurd hnumber (Nat.ne_of_lt (hearlier _ hmem))
  exact ⟨s, gs, events, entry, hrun, hgs, hentry, hnumber, hmissed, hevents, hne, hnot,
    fun h => hnot (h.replayed _ _ _ hevents hne entry hentry hmissed)⟩

end TicTacToe

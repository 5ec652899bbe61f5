import TicTacToe.Theorems.Wire
import TicTacToe.Theorems.EventLog

/-! # What a handler writes and numbers

The events of a handler leave by two routes: its calls of the room's send function are written at once, its deliveries
when it is done. Along both routes the events take the next numbers of the room, unless a game starts. -/

namespace TicTacToe

/-! ### Room events -/

/-- The room event in a written object. -/
def WireEvent.roomEvent : WireEvent → Option RoomEvent
  | event (.room e) => some e
  | _ => none

namespace RoomPayload

def isStart : RoomPayload → Bool
  | .gameStarted .. => true
  | _ => false

def isSync : RoomPayload → Bool
  | .stateSyncReplay .. => true
  | .stateSyncSnapshot _ => true
  | _ => false

def isReadyAck : RoomPayload → Bool
  | .playerReadyAck _ => true
  | _ => false

end RoomPayload

def SendCall.roomEvent (call : SendCall) : Option RoomEvent := (WireEvent.event call.event).roomEvent

def Delivery.event : Delivery → WireEvent
  | .connection _ e => e
  | .broadcast _ e => e

/-- The numbered events of some calls and deliveries, in the order in which they are written; a `STATE_SYNC` repeats
the numbers of others. -/
def numberedEvents (calls : List SendCall) (deliveries : List Delivery) : List RoomEvent :=
  calls.filterMap SendCall.roomEvent ++
    (deliveries.filterMap fun d => d.event.roomEvent).filter fun event => !event.payload.isSync

/-! ### Numbers drawn by a session -/

namespace GameSession
variable {gs : GameSession} {log : List BufferEntry} {e : Emitted}

/-- What a method sends takes the numbers after the session's counter. -/
structure Draws (gs : GameSession) (e : Emitted) : Prop where
  numbered : Numbered EventEnvelope.sessionSeq e.session.sessionSeq (e.sends.filterMap SendCall.roomEvent)
  above : ∀ event ∈ e.sends.filterMap SendCall.roomEvent, gs.sessionSeq < event.sessionSeq
  le : gs.sessionSeq ≤ e.session.sessionSeq

theorem entry_event (call : SendCall) : call.entry.map BufferEntry.event = call.roomEvent := by
  obtain ⟨target, p, event⟩ := call
  cases event <;> rfl

theorem entries_events (calls : List SendCall) :
    (calls.filterMap SendCall.entry).map BufferEntry.event = calls.filterMap SendCall.roomEvent := by
  rw [List.map_filterMap]
  exact congrArg (List.filterMap · calls) (funext entry_event)

theorem handOver_of_not_restarts {calls : List SendCall}
    (h : ∀ entry ∈ calls.filterMap SendCall.entry, entry.restarts = false) (log : List BufferEntry) :
    handOver log calls = log ++ calls.filterMap SendCall.entry := by
  unfold handOver
  generalize calls.filterMap SendCall.entry = entries at h ⊢
  induction entries generalizing log with
  | nil => simp
  | cons entry entries ih =>
    have hentry : entry.restarts = false := h entry List.mem_cons_self
    have hrest : ∀ x ∈ entries, x.restarts = false := fun x hx => h x (List.mem_cons_of_mem _ hx)
    rw [List.foldl_cons, ih _ hrest, enlog, if_neg (by simp [hentry]), List.append_assoc, List.singleton_append]

/-- The log may be taken to end with the number of the counter: with an entry that is not buffered. -/
theorem Backed.ended (hb : gs.Backed log) : ∃ log', gs.Backed log' ∧ ∃ last ∈ log', last.number = gs.sessionSeq := by
  by_cases hlast : ∃ last ∈ log, last.number = gs.sessionSeq
  · exact ⟨log, hb, hlast⟩
  let last : BufferEntry := ⟨makeRematchDeclined gs.roomId "" .X gs.sessionSeq, .broadcast, ""⟩
  refine ⟨log ++ [last], ⟨?_, ?_⟩, last, by simp, rfl⟩
  · rw [List.filter_append, List.filter_cons_of_neg (by simp [last, BufferEntry.emitted, makeRematchDeclined]),
      List.filter_nil, List.append_nil]
    exact hb.buffer
  · refine ⟨List.pairwise_append.mpr ⟨hb.numbered.increasing, List.pairwise_singleton _ _, fun a ha b hb' => ?_⟩,
      fun a ha => ?_⟩
    · rw [List.mem_singleton.mp hb']
      exact lt_of_le_of_ne (hb.numbered.le a ha) fun heq => hlast ⟨a, ha, heq⟩
    · rcases List.mem_append.mp ha with ha | ha
      · exact hb.numbered.le a ha
      · rw [List.mem_singleton.mp ha]
        exact Nat.le_refl _

theorem restarts_of_sendsOnly {calls : List SendCall} (h : SendsOnly (fun x => !x.isStart) calls) :
    ∀ entry ∈ calls.filterMap SendCall.entry, entry.restarts = false := by
  intro entry hentry
  obtain ⟨call, hcall, hsome⟩ := List.mem_filterMap.mp hentry
  unfold SendCall.entry at hsome
  cases hevent : call.event with
  | room event =>
    rw [hevent] at hsome
    obtain rfl := Option.some.inj hsome
    have hallowed := h call hcall event.payload (by simp [SendCall.payload, hevent])
    unfold BufferEntry.restarts
    dsimp only
    cases hpayload : event.payload <;> simp [hpayload, RoomPayload.isStart] at hallowed ⊢
  | _ =>
    rw [hevent] at hsome
    cases hsome

/-- A method that extends the log without a restart draws the numbers of its events. -/
theorem Hands.draws (h : gs.Hands e) (hb : gs.Backed log) (hstarts : SendsOnly (fun x => !x.isStart) e.sends) :
    gs.Draws e := by
  obtain ⟨log', hb', last, hmem, hnumber⟩ := hb.ended
  have hbacked := h log' hb'
  rw [handOver_of_not_restarts (restarts_of_sendsOnly hstarts)] at hbacked
  obtain ⟨-, hnew, hacross⟩ := List.pairwise_append.mp hbacked.numbered.increasing
  refine ⟨⟨?_, ?_⟩, ?_, ?_⟩
  · rw [← entries_events, List.pairwise_map]
    exact hnew
  · rw [← entries_events]
    intro event hevent
    obtain ⟨entry, hentry, rfl⟩ := List.mem_map.mp hevent
    exact hbacked.numbered.le entry (List.mem_append_right _ hentry)
  · rw [← entries_events]
    intro event hevent
    obtain ⟨entry, hentry, rfl⟩ := List.mem_map.mp hevent
    exact hnumber ▸ hacross last hmem entry hentry
  · exact hnumber ▸ hbacked.numbered.le last (List.mem_append_left _ hmem)

end GameSession

namespace Server
variable {s t u : Server} {r : RoomId} {found : Option RoomRecord} {calls calls' : List SendCall}
  {events events' : List RoomEvent} {gs : GameSession}

/-! ### The other rooms -/

/-- Nothing has happened to the records and the sessions of rooms other than `r`. -/
structure Elsewhere (r : RoomId) (s t : Server) : Prop where
  stored : ∀ r', r ≠ r' → t.rooms.rooms.get r' = s.rooms.rooms.get r'
  games : ∀ r', r ≠ r' → t.gameSessions.get r' = s.gameSessions.get r'

namespace Elsewhere

theorem refl (s : Server) : Elsewhere r s s := ⟨fun _ _ => rfl, fun _ _ => rfl⟩

theorem trans (h₁ : Elsewhere r s t) (h₂ : Elsewhere r t u) : Elsewhere r s u :=
  ⟨fun r' hr => (h₂.stored r' hr).trans (h₁.stored r' hr), fun r' hr => (h₂.games r' hr).trans (h₁.games r' hr)⟩

end Elsewhere

/-! ### Writing through the send function -/

/-- A call of a room's send function as it is written, when `found` is the room that the function looks up. -/
def postedIn (s : Server) (found : Option RoomRecord) (call : SendCall) : List (ConnectionId × WireEvent) :=
  found.elim [] fun room => s.posted room call

/-- `t` has come from `s` through calls of the send function of room `r`; connections and registry are the same. -/
structure Posts (r : RoomId) (found : Option RoomRecord) (s t : Server) (calls : List SendCall) : Prop
    extends Elsewhere r s t where
  connections : t.connections = s.connections
  registry : t.playerConnectionRegistry = s.playerConnectionRegistry
  wire : t.wire = s.wire ++ calls.flatMap (s.postedIn found)
  sendLog : t.sendLog = s.sendLog ++ calls.map (r, ·)

namespace Posts

theorem refl (s : Server) : Posts r found s s [] := ⟨.refl s, rfl, rfl, by simp, by simp⟩

theorem trans (h₁ : Posts r found s t calls) (h₂ : Posts r found t u calls') :
    Posts r found s u (calls ++ calls') where
  toElsewhere := h₁.toElsewhere.trans h₂.toElsewhere
  connections := h₂.connections.trans h₁.connections
  registry := h₂.registry.trans h₁.registry
  wire := by
    have hposted : t.postedIn found = s.postedIn found := by
      have hroom := fun room => posted_congr h₁.connections h₁.registry room
      funext call
      simp only [postedIn, hroom]
    rw [h₂.wire, h₁.wire, hposted, List.flatMap_append, List.append_assoc]
  sendLog := by rw [h₂.sendLog, h₁.sendLog, List.map_append, List.append_assoc]

/-- An operation that writes nothing. -/
theorem silent (h : Elsewhere r s t) (hc : t.connections = s.connections)
    (hr : t.playerConnectionRegistry = s.playerConnectionRegistry) (hw : t.wire = s.wire) (hl : t.sendLog = s.sendLog) :
    Posts r found s t [] := ⟨h, hc, hr, by simp [hw], by simp [hl]⟩

/-- Two parts of which only the first makes calls. -/
theorem then_silent (h₁ : Posts r found s t calls) (h₂ : Posts r found t u []) : Posts r found s u calls := by
  have h := h₁.trans h₂
  rwa [List.append_nil] at h

/-- Two parts of which only the second makes calls. -/
theorem after_silent (h₁ : Posts r found s t []) (h₂ : Posts r found t u calls) : Posts r found s u calls := by
  have h := h₁.trans h₂
  rwa [List.nil_append] at h

end Posts

theorem putRoom_posts (s : Server) (room : RoomRecord) : Posts r found s (s.putRoom r room) [] :=
  .silent ⟨fun _ hr => JsMap.get_set_of_ne _ _ hr, fun _ _ => rfl⟩ rfl rfl rfl rfl

theorem putGame_posts (s : Server) (gs : GameSession) : Posts r found s (s.putGame r gs) [] :=
  .silent ⟨fun _ _ => rfl, fun _ hr => JsMap.get_set_of_ne _ _ hr⟩ rfl rfl rfl rfl

theorem afterGetRoom_posts (s : Server) : Posts r found s (s.afterGetRoom r) [] :=
  .silent ⟨fun _ hr => RoomStore.rooms_get_afterGetRoom.trans (if_neg hr), fun _ _ => rfl⟩ rfl rfl rfl rfl

theorem allocateSequence_posts (s : Server) : Posts r found s (s.allocateSequence r) [] :=
  .silent ⟨fun _ _ => rfl, fun _ hr => by simp [allocateSequence, JsMap.get_modify, hr]⟩ rfl rfl rfl rfl

/-- An operation on sessions, ids or the history. -/
theorem store_posts (hrooms : t.rooms = s.rooms) (hgames : t.gameSessions = s.gameSessions)
    (hc : t.connections = s.connections) (hr : t.playerConnectionRegistry = s.playerConnectionRegistry)
    (hw : t.wire = s.wire) (hl : t.sendLog = s.sendLog) : Posts r found s t [] :=
  .silent ⟨fun _ _ => by rw [hrooms], fun _ _ => by rw [hgames]⟩ hc hr hw hl

theorem ensureGameSession_posts (s : Server) : Posts r found s (s.ensureGameSession r) [] := by
  unfold ensureGameSession
  split
  · exact .refl s
  · exact putGame_posts s _

theorem sendAll_posts (hfound : s.getRoom r = found) (calls : List SendCall) :
    Posts r found s (s.sendAll r calls) calls := by
  obtain ⟨rooms, w, hw, hrooms⟩ := sendAll_frame s r calls
  have hwire : (s.sendAll r calls).wire = s.wire ++ calls.flatMap (s.postedIn found) := by
    cases found with
    | none =>
      rw [sendAll_wire_dead hfound]
      simp [postedIn]
    | some room => exact sendAll_wire hfound calls
  refine ⟨⟨fun r' hr => ?_, fun r' _ => by rw [hw]⟩, by rw [hw], by rw [hw], hwire, by rw [hw]⟩
  rw [hw]
  rcases hrooms with h | h
  · rw [h]
  · rw [h, RoomStore.rooms_get_afterGetRoom, if_neg hr]

theorem applyEmitted_posts (hfound : s.getRoom r = found) (e : Emitted) :
    Posts r found s (s.applyEmitted r e) e.sends := by
  have hput : (s.putGame r e.session).getRoom r = found := hfound
  exact (putGame_posts s e.session).after_silent (sendAll_posts hput e.sends)

theorem applyEffect_posts (hfound : s.getRoom r = found) (e : GameEffect) :
    Posts r found s (s.applyEffect r e) e.sends :=
  (applyEmitted_posts hfound e.toEmitted).then_silent (store_posts rfl rfl rfl rfl rfl rfl)

/-! ### Drawing numbers -/

/-- The sequence number of a room. -/
def counter (s : Server) (r : RoomId) : Nat := s.sequenceOr r 0

/-- The events take numbers of room `r` that are drawn between `s` and `t`. -/
structure Draws (r : RoomId) (s t : Server) (events : List RoomEvent) : Prop where
  numbered : Numbered EventEnvelope.sessionSeq (t.counter r) events
  above : ∀ event ∈ events, s.counter r < event.sessionSeq
  le : s.counter r ≤ t.counter r

namespace Draws

theorem trans (h₁ : Draws r s t events) (h₂ : Draws r t u events') : Draws r s u (events ++ events') where
  numbered := h₁.numbered.append h₂.numbered h₂.le h₂.above
  above event hevent := by
    rcases List.mem_append.mp hevent with hevent | hevent
    · exact h₁.above event hevent
    · exact Nat.lt_of_le_of_lt h₁.le (h₂.above event hevent)
  le := h₁.le.trans h₂.le

theorem cons {event : RoomEvent} (h₁ : Draws r s t [event]) (h₂ : Draws r t u events) :
    Draws r s u (event :: events) := h₁.trans h₂

theorem none (h : s.counter r ≤ t.counter r) : Draws r s t [] := ⟨.nil, fun _ h => by simp at h, h⟩

theorem of_same (h : t.gameSessions.get r = s.gameSessions.get r) : Draws r s t [] :=
  .none (by rw [counter, counter, sequenceOr, sequenceOr, h])

/-- Two parts of which only the first numbers events. -/
theorem then_none (h₁ : Draws r s t events) (h₂ : Draws r t u []) : Draws r s u events := by
  have h := h₁.trans h₂
  rwa [List.append_nil] at h

end Draws

theorem counter_of_game (h : s.gameSessions.get r = some gs) : s.counter r = gs.sessionSeq := by
  rw [counter, sequenceOr, h, Option.map_some, Option.getD_some]

/-- With a session the default of a number does not matter. -/
theorem sequenceOr_counter (h : s.gameSessions.get r ≠ none) (default : Nat) : s.sequenceOr r default = s.counter r := by
  obtain ⟨gs, hgs⟩ := Option.ne_none_iff_exists'.mp h
  rw [counter_of_game hgs, sequenceOr, hgs, Option.map_some, Option.getD_some]

theorem allocateSequence_get (s : Server) (r : RoomId) :
    (s.allocateSequence r).gameSessions.get r = (s.gameSessions.get r).map GameSession.allocateSequence := by
  rw [allocateSequence, JsMap.get_modify, if_pos rfl]

theorem allocateSequence_game (h : s.gameSessions.get r ≠ none) : (s.allocateSequence r).gameSessions.get r ≠ none := by
  rw [allocateSequence_get]
  exact fun hnone => h (Option.map_eq_none_iff.mp hnone)

/-- The next number, for an event. -/
theorem allocateSequence_draws (h : s.gameSessions.get r ≠ none) {event : RoomEvent} {default : Nat}
    (hevent : event.sessionSeq = (s.allocateSequence r).sequenceOr r default) :
    Draws r s (s.allocateSequence r) [event] := by
  obtain ⟨gs, hgs⟩ := Option.ne_none_iff_exists'.mp h
  have hget : (s.allocateSequence r).gameSessions.get r = some gs.allocateSequence := by
    rw [allocateSequence_get, hgs, Option.map_some]
  have hnext : (s.allocateSequence r).counter r = s.counter r + 1 := by
    rw [counter_of_game hget, counter_of_game hgs]
    rfl
  rw [sequenceOr_counter (allocateSequence_game h)] at hevent
  refine ⟨.one hevent.le, fun e he => ?_, by omega⟩
  rw [List.mem_singleton.mp he, hevent, hnext]
  exact Nat.lt_succ_self _

theorem ensureGameSession_draws (s : Server) (r : RoomId) : Draws r s (s.ensureGameSession r) [] := by
  unfold ensureGameSession
  split
  · exact .of_same rfl
  · rename_i hhas
    have hnone : s.gameSessions.get r = none := Option.not_isSome_iff_eq_none.mp hhas
    refine .none ?_
    rw [counter, sequenceOr, hnone]
    exact Nat.zero_le _

theorem applyEmitted_game (s : Server) (r : RoomId) (e : Emitted) :
    (s.applyEmitted r e).gameSessions.get r = some e.session := by
  have h := congrArg RoomView.game (view_applyEmitted s r r e)
  rwa [if_pos rfl] at h

theorem applyEmitted_draws {e : Emitted} (hgame : s.gameSessions.get r = some gs) (h : gs.Draws e) :
    Draws r s (s.applyEmitted r e) (e.sends.filterMap SendCall.roomEvent) := by
  have hcounter := counter_of_game (applyEmitted_game s r e)
  refine ⟨hcounter ▸ h.numbered, ?_, ?_⟩
  · rw [counter_of_game hgame]
    exact h.above
  · rw [counter_of_game hgame, hcounter]
    exact h.le

end Server
end TicTacToe

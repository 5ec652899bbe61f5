import TicTacToe.Lib.Segments
import TicTacToe.Theorems.FreshEvents
import TicTacToe.Theorems.ReadyMarks

/-! # The order of events on a connection

The fresh events of a room on one connection, between two starts of a game and after the last one. Their numbers increase
as long as the connection never has a number that the counter of the room has not reached: a start that comes before
replies with older numbers, or that does not come at all, puts the connection ahead. -/

namespace TicTacToe

/-- The events of room `r` that are written to connection `c`. -/
def stream (c : ConnectionId) (r : RoomId) (events : List (ConnectionId × RoomEvent)) : List RoomEvent :=
  (receivedBy c events).filter fun event => event.roomId = r

section Stream
variable {c : ConnectionId} {r : RoomId} {events events' : List (ConnectionId × RoomEvent)} {event : RoomEvent}

theorem stream_append : stream c r (events ++ events') = stream c r events ++ stream c r events' := by
  rw [stream, receivedBy_append, List.filter_append]
  rfl

theorem mem_stream : event ∈ stream c r events ↔ (c, event) ∈ events ∧ event.roomId = r := by
  simp [stream, mem_receivedBy]

theorem receivedBy_filter (keep : RoomEvent → Bool) :
    receivedBy c (events.filter fun e => keep e.2) = (receivedBy c events).filter keep := by
  simp only [receivedBy, List.filter_map, List.filter_filter]
  congr 1
  exact List.filter_congr fun e _ => Bool.and_comm _ _

end Stream

namespace Server
variable {s t u : Server} {r r' : RoomId} {G : IdSource} {c : ConnectionId} {i : Input} {calls : List SendCall}
  {deliveries : List Delivery} {log : List (ConnectionId × RoomEvent)}

/-! ### Lists of connections -/

theorem ListsOnce.of_links (h : Links s t) (hs : s.ListsOnce) : t.ListsOnce := by
  intro p
  rw [h.getPlayerConnectionIds]
  exact hs p

theorem ListsOnce.registerPlayerConnection (hs : s.ListsOnce) (p : PlayerId) (c : ConnectionId) :
    (s.registerPlayerConnection p c).ListsOnce := by
  intro q
  rw [getPlayerConnectionIds, Server.registerPlayerConnection, JsMap.get_set]
  split
  · exact JsSet.nodup_add (hs p)
  · exact hs q

theorem start_listsOnce (now : Millis) (version : String) (repository : HistoryRepository) :
    (start now version repository).ListsOnce := fun p => by simp [getPlayerConnectionIds, start]

theorem ListsOnce.step (hs : s.ListsOnce) (h : LinkStep G s i t) : t.ListsOnce := by
  cases h with
  | same h => exact .of_links h hs
  | connected hid h => exact .of_links h hs
  | registered hp h => exact .of_links h (hs.registerPlayerConnection _ _)
  | @bound c token p hopen hissued hkept h =>
    have hbound : (s.authenticate c token p).ListsOnce := hs
    exact .of_links h (hbound.registerPlayerConnection _ _)
  | closed hc h => exact .of_links h hs
  | @closedFor c p hi hp h =>
    have hremoved := (unregisterPlayerConnection_narrows s p c).listsOnce hs
    exact .of_links h hremoved

/-! ### The fresh events of a step -/

/-- Step `i` can number events of room `r` and write them to connection `c`. -/
def Reaches (s : Server) (i : Input) (r : RoomId) (c : ConnectionId) : Prop :=
  s.Numbers i r ∧ s.connections.has c = true ∧ ∃ p, s.Audience i r p ∧ c ∈ s.getPlayerConnectionIds p

/-- Since the latest start of a game connection `c` has got an event of room `r` with a number that the room's counter
has not reached. -/
def Ahead (s : Server) (c : ConnectionId) (r : RoomId) (log : List (ConnectionId × RoomEvent)) : Prop :=
  ∃ event ∈ lastSegment (fun event => event.payload.isStart) (stream c r log), s.counter r < event.sessionSeq

theorem mem_freshEvents {event : RoomEvent} (h : (c, event) ∈ s.freshEvents i t) :
    s.answeredAgain i = false ∧ (c, event) ∈ roomEvents (t.wire.drop s.wire.length) ∧
      s.repeatsNumber i event = false := by
  unfold freshEvents at h
  split at h
  · cases h
  · rename_i hagain
    obtain ⟨hmem, hfresh⟩ := List.mem_filter.mp h
    exact ⟨Bool.eq_false_iff.mpr hagain, hmem, by simpa using hfresh⟩

/-- The answer to a player who is ready already. -/
theorem SentBy.repeatsNumber {p : PlayerId} {room : RoomRecord} {symbol : PlayerSymbol} {event : RoomEvent}
    (h : s.SentBy i p) (hroom : s.getRoom r = some room) (hsymbol : getSymbolForPlayer room p = some symbol)
    (hready : symbol ∈ room.readySymbols) (hack : event.payload.isReadyAck = true) (hr : event.roomId = r) :
    s.repeatsNumber i event = true := by
  obtain ⟨c, frame, diskFails, rfl, hacts⟩ := h
  subst hr
  simp [Server.repeatsNumber, Input.sender, isReady, hack, hacts, hroom, hsymbol, hready]

/-- Fresh events are those of the step's room, for connections that it reaches. -/
theorem Letters.reaches (h : Letters s i r t calls deliveries) (hi : s.Numbers i r) {event : RoomEvent}
    (hevent : (c, event) ∈ s.freshEvents i t) : event.roomId = r ∧ s.Reaches i r c := by
  obtain ⟨entries, hwire, hwritten⟩ := h.written
  obtain ⟨-, hmem, -⟩ := mem_freshEvents hevent
  rw [hwire, List.drop_left] at hmem
  obtain ⟨w, hw, he⟩ := mem_roomEvents.mp hmem
  obtain ⟨hroom, hopen, haudience⟩ := hwritten c w event hw he
  exact ⟨hroom, hi, hopen, haudience⟩

/-- A connection that is registered for one player gets numbered events, in their order. -/
theorem Letters.stream_sublist (h : Letters s i r t calls deliveries) (hs : s.ListsOnce)
    (ha : s.Alone c (s.Audience i r)) (hd : ∀ room, s.getRoom r = some room → room.Distinct) :
    (stream c r (s.freshEvents i t)).Sublist (numberedEvents calls deliveries) := by
  obtain ⟨entries, hwire, hreceived⟩ := h.received hs ha hd
  unfold stream
  refine List.filter_sublist.trans ?_
  unfold freshEvents
  split
  · exact List.nil_sublist _
  · rw [hwire, List.drop_left, receivedBy_filter fun event => !s.repeatsNumber i event]
    refine (hreceived.filter _).trans ?_
    rw [List.filter_append, numberedEvents]
    refine List.filter_sublist.append (List.monotone_filter_right _ fun event hevent => ?_)
    simp only [repeatsNumber, Bool.not_or, Bool.and_eq_true] at hevent
    exact hevent.1

/-! ### One step -/

/-- The stream is in order. -/
abbrev Ordered (events : List RoomEvent) : Prop :=
  InOrder (fun event => event.payload.isStart) (fun event => event.sessionSeq) events

section Extend
variable {old new replies : List RoomEvent} {P : PlayerId → Prop} {start : RoomEvent}

/-- Events with the next numbers. -/
theorem Draws.extends (h : Draws r s t replies) (hold : Ordered old)
    (hlast : ∀ event ∈ lastSegment (fun event => event.payload.isStart) old, event.sessionSeq ≤ s.counter r)
    (hstarts : ∀ event ∈ replies, event.payload.isStart = false) (hnew : new.Sublist replies) : Ordered (old ++ new) :=
  hold.append hlast (fun event hevent => hstarts event (hnew.subset hevent)) (h.numbered.increasing.sublist hnew)
    fun event hevent => h.above event (hnew.subset hevent)

/-- A start, and events with numbers that were next before it. -/
theorem Draws.extends_start (h : Draws r s t replies) (hold : Ordered old)
    (hlast : ∀ event ∈ lastSegment (fun event => event.payload.isStart) old, event.sessionSeq ≤ s.counter r)
    (hstarts : ∀ event ∈ replies, event.payload.isStart = false) (hstart : start.payload.isStart = true)
    (hone : start.sessionSeq = 1) (hpos : replies = [] ∨ 1 ≤ s.counter r) (hnew : new.Sublist (start :: replies)) :
    Ordered (old ++ new) := by
  cases hnew with
  | cons _ hnew => exact h.extends hold hlast hstarts hnew
  | @cons_cons new' _ _ hnew =>
    refine hold.append_segment hstart hone (fun event hevent => hstarts event (hnew.subset hevent))
      (List.pairwise_cons.mpr ⟨fun event hevent => ?_, h.numbered.increasing.sublist hnew⟩)
    have hmem := hnew.subset hevent
    rcases hpos with rfl | hpos
    · cases hmem
    · rw [hone]
      exact Nat.lt_of_le_of_lt hpos (h.above event hmem)

/-- What a step adds to a stream that is not ahead. -/
theorem Numbering.extends (h : Numbering s r (s.SentBy i) t calls deliveries) (hm : s.Marked r) (hold : Ordered old)
    (hlast : ∀ event ∈ lastSegment (fun event => event.payload.isStart) old, event.sessionSeq ≤ s.counter r)
    (hpos : ∀ event ∈ old, event.payload.isStart = true → 1 ≤ s.counter r)
    (hnew : new.Sublist (numberedEvents calls deliveries))
    (hfresh : ∀ event ∈ new, event.roomId = r ∧ s.repeatsNumber i event = false) : Ordered (old ++ new) := by
  cases h with
  | counted h hstarts => exact h.extends hold hlast hstarts hnew
  | unnumbered hs ht hcalls hstarts =>
    subst hcalls
    refine .of_no_start fun event hevent => ?_
    rcases List.mem_append.mp hevent with hevent | hevent
    · refine Bool.eq_false_iff.mpr fun hstart => ?_
      have hcounter := hpos event hevent hstart
      simp [counter, sequenceOr, hs] at hcounter
    · exact hstarts event (hnew.subset hevent)
  | @again p room symbol hp hroom hsymbol hready h hcalls hreplies =>
    subst hcalls
    have hnothing : new = [] := by
      refine List.eq_nil_iff_forall_not_mem.mpr fun event hevent => ?_
      obtain ⟨hr, hrepeats⟩ := hfresh event hevent
      rw [hp.repeatsNumber hroom hsymbol hready (hreplies event (hnew.subset hevent)) hr] at hrepeats
      cases hrepeats
    rwa [hnothing, List.append_nil]
  | started h hdeliveries =>
    obtain ⟨q, start, rfl, hstart, hone⟩ := h.calls
    subst hdeliveries
    exact (Draws.of_same (t := s) rfl).extends_start hold hlast (by simp) hstart hone (Or.inl rfl) hnew
  | @late p room symbol u hp hroom hsymbol hready hboth h hdraws hstarts =>
    obtain ⟨q, start, rfl, hstart, hone⟩ := h.calls
    have hmarked : 1 ≤ s.counter r := by
      refine hm room (view_room_of_getRoom hroom) fun hnone => ?_
      rw [RoomRecord.bothReady, RoomRecord.markReady, hnone] at hboth
      cases symbol <;> simp [JsSet.add] at hboth
    exact hdraws.extends_start hold hlast hstarts hstart hone (Or.inr hmarked) hnew

/-- A start is numbered with 1. -/
theorem Numbering.counter_pos {event : RoomEvent} (h : Numbering s r P t calls deliveries)
    (hevent : event ∈ numberedEvents calls deliveries) (hstart : event.payload.isStart = true) : 1 ≤ t.counter r := by
  have hcontra : ∀ {x : Prop}, event.payload.isStart = false → x := fun hx => by
    rw [hstart] at hx
    cases hx
  cases h with
  | counted h hstarts => exact hcontra (hstarts event hevent)
  | unnumbered hs ht hcalls hstarts =>
    subst hcalls
    exact hcontra (hstarts event hevent)
  | again hp hroom hsymbol hready h hcalls hreplies =>
    subst hcalls
    have hack := hreplies event hevent
    cases hpayload : event.payload <;> simp [hpayload, RoomPayload.isStart, RoomPayload.isReadyAck] at hstart hack
  | started h | late _ _ _ _ _ h => exact h.counter.ge

end Extend

/-- If step `i` reaches connection `c` with events of room `r`, then the connection is registered for one player of the
audience, and not ahead. -/
def UpToDate (c : ConnectionId) (r : RoomId) (x : Server × List (ConnectionId × RoomEvent)) (i : Input) : Prop :=
  x.1.Reaches i r c → x.1.Alone c (x.1.Audience i r) ∧ ¬x.1.Ahead c r x.2

/-- Connection `c` is registered for player `p` alone, and not ahead in room `r`. -/
def keepsUp (c : ConnectionId) (p : PlayerId) (r : RoomId) (x : Server × List (ConnectionId × RoomEvent)) : Bool :=
  (x.1.playerConnectionRegistry.entries.all fun entry => c ∉ entry.2 ∨ entry.1 = p) &&
  (lastSegment (fun event => event.payload.isStart) (stream c r x.2)).all fun event => event.sessionSeq ≤ x.1.counter r

theorem upToDate_of_keepsUp {p : PlayerId} {x : Server × List (ConnectionId × RoomEvent)} (h : keepsUp c p r x = true)
    (i : Input) : UpToDate c r x i := by
  simp only [keepsUp, Bool.and_eq_true, List.all_eq_true, decide_eq_true_eq] at h
  obtain ⟨hplayer, hcounted⟩ := h
  have honly : ∀ q, c ∈ x.1.getPlayerConnectionIds q → q = p := by
    intro q hq
    unfold getPlayerConnectionIds at hq
    cases hget : x.1.playerConnectionRegistry.get q with
    | none => simp [hget] at hq
    | some connections =>
      rw [hget, Option.getD_some] at hq
      exact (hplayer _ ((JsMap.mem_entries_iff _).mpr hget)).resolve_left (not_not_intro hq)
  refine fun _ => ⟨fun q q' _ _ hq hq' => (honly q hq).trans (honly q' hq').symm, ?_⟩
  rintro ⟨event, hevent, hlarge⟩
  exact absurd (hcounted event hevent) (Nat.not_le_of_lt hlarge)

/-! ### Runs -/

/-- The server that also keeps the fresh events it has written. -/
abbrev Logging (G : IdSource) :
    Server × List (ConnectionId × RoomEvent) → Input → Option (Server × List (ConnectionId × RoomEvent)) :=
  Transition.logged (step G) freshEvents

/-- The stream of room `r` on connection `c` is in order, and the room's counter is positive when it has to be. -/
structure Streamed (G : IdSource) (c : ConnectionId) (r : RoomId) (s : Server) (log : List (ConnectionId × RoomEvent)) :
    Prop where
  seats : s.Seats G
  attached : s.Attached G
  backed : s.Backed
  listed : s.ListsOnce
  marked : s.Marked r
  begun : ∀ event ∈ stream c r log, event.payload.isStart = true → 1 ≤ s.counter r
  ordered : Ordered (stream c r log)

theorem start_streamed (now : Millis) (version : String) (repository : HistoryRepository) (c : ConnectionId)
    (r : RoomId) : Streamed G c r (start now version repository) [] where
  seats := start_seats now version repository
  attached := start_attached now version repository
  backed := start_backed now version repository
  listed := start_listsOnce now version repository
  marked := start_marked now version repository r
  begun event h := by cases h
  ordered := trivial

namespace Streamed

/-- A step writes nothing to the stream, or it numbers events of the room and reaches the connection. -/
theorem step_cases (h : Streamed G c r s log) (hn : G.NeverRepeats) (hstep : s.step G i = some t) :
    stream c r (s.freshEvents i t) = [] ∨ ∃ calls deliveries, s.Reaches i r c ∧
      Numbering s r (s.SentBy i) t calls deliveries ∧ (s.Alone c (s.Audience i r) →
        (stream c r (s.freshEvents i t)).Sublist (numberedEvents calls deliveries)) := by
  rcases step_freshEvents h.attached hn h.seats.issuing h.seats.keyed h.backed hstep with
    hnone | ⟨r', calls, deliveries, hi, hletters, hnumbering⟩
  · rw [hnone]
    exact Or.inl rfl
  by_cases hnew : stream c r (s.freshEvents i t) = []
  · exact Or.inl hnew
  obtain ⟨event, hevent⟩ := List.exists_mem_of_ne_nil _ hnew
  obtain ⟨hmem, rfl⟩ := mem_stream.mp hevent
  obtain ⟨rfl, hreaches⟩ := hletters.reaches hi hmem
  refine Or.inr ⟨calls, deliveries, hreaches, hnumbering, fun ha => ?_⟩
  exact hletters.stream_sublist h.listed ha fun room hroom => h.seats.distinct _ room (view_room_of_getRoom hroom)

/-- Only a step that starts a game puts the connection ahead. -/
theorem restart_of_ahead (h : Streamed G c r s log) (hn : G.NeverRepeats) (hstep : s.step G i = some t)
    (halone : s.Reaches i r c → s.Alone c (s.Audience i r)) (hbefore : ¬s.Ahead c r log)
    (hafter : t.Ahead c r (log ++ s.freshEvents i t)) : t.counter r = 1 := by
  obtain ⟨event, hevent, hlarge⟩ := hafter
  have hstarted : (stream c r (log ++ s.freshEvents i t)).any (fun event => event.payload.isStart) = true := by
    by_contra hnone
    rw [lastSegment_eq_nil (Bool.eq_false_iff.mpr hnone)] at hevent
    cases hevent
  rw [stream_append] at hevent hstarted
  rcases mem_lastSegment_append hevent with hold | hnew
  · have hle : event.sessionSeq ≤ s.counter r := Nat.le_of_not_lt fun hlt => hbefore ⟨event, hold, hlt⟩
    exact (step_counter h.seats.keyed h.backed hstep r).resolve_left (Nat.not_le_of_lt (Nat.lt_of_lt_of_le hlarge hle))
  rcases h.step_cases hn hstep with hnone | ⟨calls, deliveries, hreaches, hnumbering, hsublist⟩
  · rw [hnone] at hnew
    cases hnew
  have hmem := (hsublist (halone hreaches)).subset hnew
  cases hnumbering with
  | counted hdraws => exact absurd hlarge (Nat.not_lt_of_le (hdraws.numbered.le event hmem))
  | unnumbered hs ht hcalls hstarts =>
    -- Without a session no game has started.
    subst hcalls
    obtain ⟨start, hstart, hisStart⟩ := List.any_eq_true.mp hstarted
    rcases List.mem_append.mp hstart with hstart | hstart
    · have hpos := h.begun start hstart hisStart
      simp [counter, sequenceOr, hs] at hpos
    · rw [hstarts start ((hsublist (halone hreaches)).subset hstart)] at hisStart
      cases hisStart
  | again hp hroom hsymbol hready hdraws hcalls hreplies =>
    subst hcalls
    obtain ⟨hfresh, hr⟩ := mem_stream.mp hnew
    have hrepeats := (mem_freshEvents hfresh).2.2
    rw [hp.repeatsNumber hroom hsymbol hready (hreplies event hmem) hr] at hrepeats
    cases hrepeats
  | started hrestart | late _ _ _ _ _ hrestart => exact hrestart.counter

theorem step (h : Streamed G c r s log) (hn : G.NeverRepeats) (hstep : s.step G i = some t)
    (hc : UpToDate c r (s, log) i) : Streamed G c r t (log ++ s.freshEvents i t) := by
  have hlinks := step_links h.seats.issuing h.attached.identity hstep
  have hadds : Ordered (stream c r log ++ stream c r (s.freshEvents i t)) ∧
      ∀ event ∈ stream c r (s.freshEvents i t), event.payload.isStart = true → 1 ≤ t.counter r := by
    rcases h.step_cases hn hstep with hnone | ⟨calls, deliveries, hreaches, hnumbering, hsublist⟩
    · rw [hnone, List.append_nil]
      exact ⟨h.ordered, by simp⟩
    · obtain ⟨halone, hahead⟩ := hc hreaches
      have hnew := hsublist halone
      refine ⟨hnumbering.extends h.marked h.ordered (fun event hevent => ?_) h.begun hnew fun event hevent => ?_,
        fun event hevent => hnumbering.counter_pos (hnew.subset hevent)⟩
      · by_contra hlarge
        exact hahead ⟨event, hevent, Nat.lt_of_not_le hlarge⟩
      · obtain ⟨hmem, hroom⟩ := mem_stream.mp hevent
        exact ⟨hroom, (mem_freshEvents hmem).2.2⟩
  refine ⟨h.seats.step hn hstep, h.attached.step (nextId_le_step h.seats.keyed hstep) hlinks,
    h.backed.step h.seats.keyed hstep, h.listed.step hlinks, h.marked.step h.seats.keyed h.backed hstep,
    fun event hevent hstart => ?_, ?_⟩
  · rw [stream_append] at hevent
    rcases List.mem_append.mp hevent with hevent | hevent
    · exact step_counter_pos h.seats.keyed h.backed hstep (h.begun event hevent hstart)
    · exact hadds.2 event hevent hstart
  · rw [stream_append]
    exact hadds.1

end Streamed

end Server

open Server in
/-- The fresh events of room `r` on connection `c` are numbered in order from every start of a game, in every run in which
the steps that reach the connection find it registered for one player of their audience, and not ahead. -/
theorem event_order {G : IdSource} (hn : G.NeverRepeats) {now : Millis} {version : String} {repository : HistoryRepository}
    {c : ConnectionId} {r : RoomId} {x : Server × List (ConnectionId × RoomEvent)}
    (hrun : Transition.Runs (Logging G) (UpToDate c r) (start now version repository, []) x) :
    Ordered (stream c r x.2) := by
  have hstreamed : Streamed G c r x.1 x.2 := by
    refine hrun.invariant (P := fun x => Streamed G c r x.1 x.2) (start_streamed now version repository c r) ?_
    intro y i z hy hc hstep
    obtain ⟨hs, hlog⟩ := Transition.logged_eq_some.mp hstep
    rw [hlog]
    exact hy.step hn hs hc
  exact hstreamed.ordered

open Server in
/-- After the first game player 1 comes back on another connection, agrees to a rematch and moves in it. -/
theorem event_order_rematch : ∃ x,
    Transition.Runs (Logging tallies) (UpToDate (tally 'c' 6) (tally 'r' 4)) (fresh, []) x ∧
    (stream (tally 'c' 6) (tally 'r' 4) x.2).map (fun event => (event.payload.isStart, event.sessionSeq)) =
      [(false, 13), (true, 1), (false, 3), (false, 4)] ∧
    Ordered (stream (tally 'c' 6) (tally 'r' 4) x.2) := by
  have hcheck : (Transition.run (Logging tallies) (fun x _ => keepsUp (tally 'c' 6) (tally 'p' 1) (tally 'r' 4) x)
      (fresh, []) (won ++ [.connect, asks 6 "auth6" (.auth (some (tally 't' 1))),
        asks 6 "request6" (.requestRematch (tally 'r' 4) (tally 'g' 5)),
        asks 2 "accept2" (.acceptRematch (tally 'r' 4) (tally 'g' 5)),
        asks 2 "move6" (.makeMove (tally 'r' 4) (tally 'g' 8) ⟨.ofNat 0, .ofNat 0⟩),
        asks 6 "move7" (.makeMove (tally 'r' 4) (tally 'g' 8) ⟨.ofNat 0, .ofNat 1⟩)])).any (fun x =>
      (stream (tally 'c' 6) (tally 'r' 4) x.2).map (fun event => (event.payload.isStart, event.sessionSeq)) =
        [(false, 13), (true, 1), (false, 3), (false, 4)]) = true := by decide +kernel
  obtain ⟨x, hrun, hstream⟩ := Transition.exists_run (fun x i hx => upToDate_of_keepsUp hx i) hcheck
  exact ⟨x, hrun, of_decide_eq_true hstream, event_order tallies_neverRepeats hrun⟩

open Server in
/-- The second `PLAYER_READY` of the opening is answered after the start of the game, with the numbers that came before.
The first move is then numbered 2. -/
theorem replies_after_start : ∃ x, Transition.Runs (Logging tallies) (fun _ _ => True) (fresh, []) x ∧
    ¬Ordered (stream (tally 'c' 0) (tally 'r' 4) x.2) ∧ ¬Ordered (stream (tally 'c' 2) (tally 'r' 4) x.2) := by
  have hcheck : (Transition.run (Logging tallies) (fun _ _ => true) (fresh, [])
      (opening ++ [plays 0 "move1" 0 0])).any (fun x =>
      !decide (Ordered (stream (tally 'c' 0) (tally 'r' 4) x.2)) &&
      !decide (Ordered (stream (tally 'c' 2) (tally 'r' 4) x.2))) = true := by decide +kernel
  obtain ⟨x, hrun, hx⟩ := Transition.exists_run (C := fun _ _ => True) (fun _ _ _ => trivial) hcheck
  simp only [Bool.and_eq_true, Bool.not_eq_true', decide_eq_false_iff_not] at hx
  exact ⟨x, hrun, hx⟩

end TicTacToe

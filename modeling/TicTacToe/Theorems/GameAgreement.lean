import TicTacToe.Theorems.Following
import TicTacToe.Theorems.ReadyResidue
import TicTacToe.Theorems.Straying

/-! # Agreement on the game

The tab of a player who has been let into a room, and whose slot has been connected since, shows the game of the room as
the server has it, as long as nobody strays. -/

namespace TicTacToe
namespace Server
variable {s t : Server} {G : IdSource} {i : Input} {c : ConnectionId} {p : PlayerId} {r r' : RoomId}

/-- Connection `c` acts for player `p`, whose slot in the live room `r` is connected. -/
def Attends (s : Server) (c : ConnectionId) (p : PlayerId) (r : RoomId) : Prop :=
  s.actsFor c = some p ∧ ∃ slot, s.slot r p = some slot ∧ slot.connected = true

instance : Decidable (s.Attends c p r) :=
  decidable_of_iff (s.actsFor c = some p ∧ (s.slot r p).any PlayerSlot.connected = true)
    (and_congr_right' (Option.any_eq_true _ _))

theorem Attends.inRoom (h : s.Attends c p r) : s.InRoom r p := by
  obtain ⟨-, slot, hslot, -⟩ := h
  exact not_not.mp fun hnot => by
    rw [slot_eq_none.mpr hnot] at hslot
    cases hslot

/-- The disk does not fail, no response is sent again, no connection is bound to another player, and nobody strays. -/
def Orderly (G : IdSource) (s : Server) (i : Input) : Prop :=
  i.diskFails = false ∧ s.answeredAgain i = false ∧ s.rebinds G i = false ∧ s.strays i = false

instance : Decidable (Orderly G s i) := inferInstanceAs (Decidable (_ ∧ _ ∧ _ ∧ _))

/-- Everything that the agreement rests on. -/
structure Followed (G : IdSource) (s : Server) : Prop where
  seats : s.Seats G
  addressed : s.Addressed G
  backed : s.Backed
  retelling : s.Retelling
  once : s.SeatedOnce

theorem start_followed (now : Millis) (version : String) (repository : HistoryRepository) :
    Followed G (start now version repository) where
  seats := start_seats now version repository
  addressed := start_addressed now version repository
  backed := start_backed now version repository
  retelling := start_retelling now version repository
  once := start_seatedOnce now version repository

namespace Followed

theorem step (hs : Followed G s) (hn : G.NeverRepeats) (hi : Orderly G s i) (h : s.step G i = some t) : Followed G t := by
  obtain ⟨hdisk, -, hrebinds, hstrays⟩ := hi
  have hk := hs.seats.keyed
  exact ⟨hs.seats.step hn h,
    hs.addressed.step hn (nextId_le_step hk h) hrebinds (step_links hs.seats.issuing hs.addressed.attached.identity h),
    hs.backed.step hk h, hs.retelling.step hk hdisk h, hs.once.step hs.seats hn hstrays h⟩

/-! ### Steps about another room -/

/-- The sender of a command about a room without a slot of the sender hears of no room. -/
theorem outsider_silent (hs : Followed G s) (hn : G.NeverRepeats) (hi : Orderly G s i) (h : s.step G i = some t)
    (hsent : s.SentBy i p) (hin : s.InRoom r p) (hout : ¬s.InRoom r' p)
    (hkind : ∀ c rec command, s.Routed i c rec command →
      command.body.concerns = some r' ∧ s.cached command.commandId = none) :
    WritesOnly (fun _ => False) s t := by
  obtain ⟨c, frame, diskFails, rfl, hacts⟩ := hsent
  obtain rfl := Option.some.inj h
  by_cases hrouted : ∃ rec command, s.Routed (.frame c frame diskFails) c rec command
  · obtain ⟨rec, command, hrouted⟩ := hrouted
    obtain ⟨hr, hcached⟩ := hkind c rec command hrouted
    obtain ⟨w, hw, herrors⟩ := (hrouted.ignores hs.addressed.attached hn hs.seats.issuing hr hcached hacts hin hout
      hi.2.2.2).written
    refine .of_none hw fun entry hentry => ?_
    have herror := herrors entry hentry
    generalize entry.2 = e at herror
    cases e with
    | processed => cases herror
    | event e =>
      cases e with
      | error => rfl
      | authAck | pong | room => cases herror
  · exact handleFrame_writesOnly fun rec command hr => absurd ⟨rec, command, hr⟩ hrouted

/-- Who attends a room hears of no other one. -/
theorem tells_elsewhere (hs : Followed G s) (hn : G.NeverRepeats) (hi : Orderly G s i) (h : s.step G i = some t)
    (hattends : s.Attends c p r) (hne : r' ≠ r) (hconcerns : s.Concerns i r')
    (hkind : ∀ c rec command, s.Routed i c rec command →
      command.body.concerns = some r' ∧ s.cached command.commandId = none) :
    ∃ events, told c t.wire = told c s.wire ++ events ∧ ∀ event, Event.room event ∉ events := by
  have hin := hattends.inRoom
  have hout : ¬s.InRoom r' p := fun hin' => hne (hs.once r' r p hin' hin)
  by_cases hsent : s.SentBy i p
  · obtain ⟨w, hw, hnone⟩ := hs.outsider_silent hn hi h hsent hin hout hkind
    exact ⟨told c w, by rw [hw, told_append], fun event => told_only hnone c event⟩
  · obtain ⟨calls, deliveries, hletters, -⟩ :=
      step_letters hs.addressed.attached hn hs.seats.issuing hs.seats.keyed hs.backed hconcerns h
    obtain ⟨w, hw, hwritten⟩ := hletters.written
    refine ⟨told c w, by rw [hw, told_append], fun event hevent => ?_⟩
    obtain ⟨-, hopen, q, haudience, hlisted⟩ := hwritten c _ event (mem_told.mp hevent) rfl
    have hopened : s.connections.get c ≠ none := by
      intro hnone
      obtain ⟨hacts, -⟩ := hattends
      rw [actsFor, hnone] at hacts
      cases hacts
    obtain rfl := Option.some.inj (hattends.1.symm.trans (hs.addressed.registered q c hlisted hopened))
    exact haudience.elim hsent hout

/-! ### Following -/

/-- Who attends a room goes with its game. -/
theorem learned (hs : Followed G s) (hn : G.NeverRepeats) (hi : Orderly G s i) (h : s.step G i = some t)
    (hattends : s.Attends c p r) : ∃ events,
    told c t.wire = told c s.wire ++ events ∧ events.foldl Standing.learn (s.standing r) = t.standing r := by
  have ht := hs.step hn hi h
  rcases step_kinds hs.addressed.attached hn hs.seats.issuing hs.seats.keyed hs.backed hi.2.1 h with
    haside | ⟨r', calls, deliveries, hconcerns, hconveys, hkind⟩
  · obtain ⟨events, hevents, hapart⟩ := haside.tells c
    exact ⟨events, hevents, (learned_apart hapart _).trans (haside.standing r).symm⟩
  · obtain ⟨sent, hlog, htold⟩ := step_tells hs.seats.keyed hi.1 h
    obtain rfl := List.append_cancel_left (hlog.symm.trans hconveys.sendLog)
    by_cases hr : r' = r
    · subst hr
      obtain ⟨hacts, slot, hslot, hconnected⟩ := hattends
      obtain ⟨room, hroom, hslot⟩ := Option.bind_eq_some_iff.mp hslot
      have hd := hs.seats.distinct r' room (view_room_of_getRoom hroom)
      refine hconveys.learned ht.retelling ht.backed hs.addressed hacts hroom hd hslot hconnected ?_
      rw [← htold r' p, callsOf_sent, if_pos rfl]
    · obtain ⟨events, hevents, hnone⟩ := hs.tells_elsewhere hn hi h hattends hr hconcerns hkind
      refine ⟨events, hevents, ?_⟩
      rw [learned_same fun event he => absurd he (hnone event), ← htold r p, callsOf_sent, if_neg hr]
      rfl

/-- Who is let into a room knows its game at the end of the step. -/
theorem admitted (hs : Followed G s) (hn : G.NeverRepeats) (hi : Orderly G s i) (h : s.step G i = some t)
    (c : ConnectionId) : ∃ events, told c t.wire = told c s.wire ++ events ∧
    ∀ before event after, events = before ++ Event.room event :: after → event.payload.admits = true → event.roomId = r →
      ∀ v : Standing, after.foldl Standing.learn (v.hear event.payload) = t.standing r := by
  have ht := hs.step hn hi h
  rcases step_kinds hs.addressed.attached hn hs.seats.issuing hs.seats.keyed hs.backed hi.2.1 h with
    haside | ⟨r', calls, deliveries, hconcerns, hconveys, hkind⟩
  · obtain ⟨events, hevents, hapart⟩ := haside.tells c
    refine ⟨events, hevents, fun before event after hsplit hadmits => ?_⟩
    have hboth := hapart event (by simp [hsplit])
    generalize event.payload = payload at hadmits hboth
    cases payload with
    | roomJoined | reconnectAck => cases hboth
    | _ => cases hadmits
  · obtain ⟨r₀, a, -, hemits⟩ := step_emits hs.seats.keyed h hconveys.sendLog
    obtain ⟨events, hevents, hadmitted⟩ := hconveys.admitted ht.retelling ht.backed hemits c
    refine ⟨events, hevents, fun before event after hsplit hadmits hr v => ?_⟩
    obtain ⟨calls', deliveries', hletters, -⟩ :=
      step_letters hs.addressed.attached hn hs.seats.issuing hs.seats.keyed hs.backed hconcerns h
    obtain ⟨w, hw, hwritten⟩ := hletters.written
    have hsame : told c w = events := List.append_cancel_left ((hw ▸ told_append).symm.trans hevents)
    have hmem : Event.room event ∈ told c w := by simp [hsame, hsplit]
    obtain ⟨hroomId, -⟩ := hwritten c _ event (mem_told.mp hmem) rfl
    rw [← hr, hroomId]
    exact hadmitted before event after hsplit hadmits v

end Followed

theorem followed_of_run (hn : G.NeverRepeats) {now : Millis} {version : String} {repository : HistoryRepository}
    (hrun : Runs G (Orderly G) (start now version repository) s) : Followed G s :=
  hrun.invariant (P := Followed G) (start_followed now version repository) fun _ _ _ hs hi hstep => hs.step hn hi hstep

/-- Along a run in which the player attends the room. -/
theorem Followed.run_learned (hs : Followed G s) (hn : G.NeverRepeats)
    (hrun : Runs G (fun s i => Orderly G s i ∧ s.Attends c p r) s t) : ∃ events,
    told c t.wire = told c s.wire ++ events ∧ events.foldl Standing.learn (s.standing r) = t.standing r := by
  refine (hrun.invariant (P := fun t => Followed G t ∧ ∃ events,
    told c t.wire = told c s.wire ++ events ∧ events.foldl Standing.learn (s.standing r) = t.standing r)
    ⟨hs, [], (List.append_nil _).symm, rfl⟩ fun u v i hu hi hstep => ?_).2
  obtain ⟨hfollowed, events, hevents, hlearned⟩ := hu
  obtain ⟨news, hnews, hrest⟩ := hfollowed.learned hn hi.1 hstep hi.2
  refine ⟨hfollowed.step hn hi.1 hstep, events ++ news, by rw [hnews, hevents, List.append_assoc], ?_⟩
  rw [List.foldl_append, hlearned, hrest]

/-- Player `p` attends room `r` on connection `c` since the step that has written event number `n` of those that `c` has
been told, in a run from `s` whose steps meet `C`. -/
def AttendsSince (G : IdSource) (C : Server → Input → Prop) (s : Server) (c : ConnectionId) (p : PlayerId) (r : RoomId)
    (n : Nat) (t : Server) : Prop :=
  ∃ u i v, Runs G C s u ∧ C u i ∧ u.step G i = some v ∧ (told c u.wire).length ≤ n ∧ n < (told c v.wire).length ∧
    Runs G (fun s i => C s i ∧ s.Attends c p r) v t

/-- Such a run on the inputs `first`, the one that writes the event, and `later`. -/
def runAttending (G : IdSource) (ok : Server → Input → Bool) (c : ConnectionId) (p : PlayerId) (r : RoomId) (n : Nat)
    (first : List Input) (i : Input) (later : List Input) (s : Server) : Option Server :=
  (Transition.run (step G) ok s first).bind fun u =>
    (Transition.run (step G) ok u [i]).bind fun v =>
      if (told c u.wire).length ≤ n ∧ n < (told c v.wire).length then
        Transition.run (step G) (fun s i => ok s i && decide (s.Attends c p r)) v later
      else none

theorem attendsSince_of_run {ok : Server → Input → Bool} {C : Server → Input → Prop} (hok : ∀ s i, ok s i = true → C s i)
    {first later : List Input} {n : Nat} (h : runAttending G ok c p r n first i later s = some t) :
    AttendsSince G C s c p r n t := by
  obtain ⟨u, hu, h⟩ := Option.bind_eq_some_iff.mp h
  obtain ⟨v, hv, h⟩ := Option.bind_eq_some_iff.mp h
  obtain ⟨hn, h⟩ := Option.ite_none_right_eq_some.mp h
  obtain ⟨hi, h'⟩ := Option.ite_none_right_eq_some.mp hv
  obtain ⟨w, hw, h'⟩ := Option.bind_eq_some_iff.mp h'
  obtain rfl := Option.some.inj h'
  refine ⟨u, i, w, Transition.runs_of_run hok hu, hok u i hi, hw, hn.1, hn.2, Transition.runs_of_run (fun s i hsi => ?_) h⟩
  obtain ⟨hsi, hattends⟩ := Bool.and_eq_true_iff.mp hsi
  exact ⟨hok s i hsi, of_decide_eq_true hattends⟩

/-- What has been told since an event of the second of three parts. -/
theorem split_told {before first second later : List Event} {told : List Event} {e : Event}
    (h : told ++ first ++ second = before ++ e :: later) (hle : told.length ≤ before.length)
    (hlt : before.length < (told ++ first).length) :
    ∃ early late, first = early ++ e :: late ∧ later = late ++ second := by
  have hsplit : told ++ first ++ second = (before ++ [e]) ++ later := by simpa using h
  have hshort : (before ++ [e]).length ≤ (told ++ first).length := by
    rw [List.length_append]
    exact hlt
  obtain ⟨late, hlate⟩ := List.prefix_of_prefix_length_le (List.prefix_append _ later)
    (hsplit ▸ List.prefix_append _ second) hshort
  obtain ⟨early, hearly⟩ := List.prefix_of_prefix_length_le (List.prefix_append told first)
    (hlate ▸ List.append_assoc before [e] late ▸ List.prefix_append before _) hle
  subst hearly
  refine ⟨early, late, ?_, ?_⟩
  · simpa using hlate.symm
  · rw [← hlate, List.append_assoc (told ++ early ++ [e])] at hsplit
    exact (List.append_cancel_left hsplit).symm

/-- Who has been let into a room and attends it since knows its game. -/
theorem AttendsSince.knows (hn : G.NeverRepeats) {now : Millis} {version : String} {repository : HistoryRepository}
    {before later : List Event} {event : RoomEvent}
    (hrun : AttendsSince G (Orderly G) (start now version repository) c p r before.length s)
    (htold : told c s.wire = before ++ .room event :: later) (hadmits : event.payload.admits = true)
    (hroom : event.roomId = r) (v : Standing) :
    later.foldl Standing.learn (v.hear event.payload) = s.standing r := by
  obtain ⟨u, i, t, hbefore, hi, hstep, hfrom, hupto, hsince⟩ := hrun
  have hu := followed_of_run hn hbefore
  obtain ⟨first, hfirst, hadmitted⟩ := hu.admitted (r := r) hn hi hstep c
  obtain ⟨second, hsecond, hlearned⟩ := (hu.step hn hi hstep).run_learned hn hsince
  rw [hsecond, hfirst] at htold
  rw [hfirst] at hupto
  obtain ⟨early, late, rfl, rfl⟩ := split_told htold hfrom hupto
  rw [List.foldl_append, hadmitted early event late rfl hadmits hroom v, hlearned]

end Server

namespace Client

theorem not_leaveRoom_of_stays {r : RoomId} {i : TabInput} (h : i.stays r = true) : i ≠ .leaveRoom := by
  rintro rfl
  cases h

end Client

open Client Server

/-- As long as the disk does not fail, no response is sent again, no connection is bound to another player and nobody
strays: a tab that has been let into a room, has not left it, and has handled every frame of its connection, shows the
game of the room if the player's slot has been connected since. -/
theorem client_knows_game {G : IdSource} (hn : G.NeverRepeats) {now : Millis} {version : String}
    {repository : HistoryRepository} {s : Server} {uuid : Nat → CommandId} {config : WsClientConfig} {time : Millis}
    {storedToken : Option SessionToken} {storedRoom : Option RoomId} {tab tab' : Tab}
    (htab : Tab.Runs uuid (fun _ _ => True) (.load config time storedToken storedRoom) tab)
    {earlier later : List TabInput} {event : RoomEvent}
    (hafter : after uuid tab (earlier ++ .received (some (.room event)) :: later) = some tab') {c : ConnectionId}
    (hheard : (earlier ++ .received (some (.room event)) :: later).filterMap TabInput.event =
      (heard c s.wire).filterMap TabInput.event)
    (hadmits : event.payload.admits = true) (hstays : ∀ i ∈ later, i ≠ .leaveRoom) {p : PlayerId}
    (hrun : AttendsSince G (Orderly G) (start now version repository) c p event.roomId
      (earlier.filterMap TabInput.event).length s) :
    (∀ state, s.gameState event.roomId = some state → tab'.state.confirmedBoard = state.board ∧
      tab'.state.confirmedTurn = state.currentTurn ∧ tab'.state.gameStatus = state.status ∧
      tab'.state.gameId = some state.gameId ∧ tab'.state.gameResult = state.result) ∧
    (s.gameState event.roomId = none → tab'.state.confirmedBoard = EMPTY_BOARD ∧ tab'.state.confirmedTurn = .X ∧
      tab'.state.gameStatus = .waiting ∧ tab'.state.gameId = none ∧ tab'.state.gameResult = none) := by
  have hevent : (TabInput.received (some (.room event))).event = some (.room event) := rfl
  rw [heard_events, List.filterMap_append, List.filterMap_cons_some hevent] at hheard
  have hknown : tab'.state.standing = s.standing event.roomId :=
    (admitted_standing (runs_queue htab) hadmits hstays hafter).trans (hrun.knows hn hheard.symm hadmits rfl .initial)
  have hparts : ∀ v, s.standing event.roomId = v → tab'.state.confirmedBoard = v.board ∧
      tab'.state.confirmedTurn = v.turn ∧ tab'.state.gameStatus = v.status ∧ tab'.state.gameId = v.gameId ∧
      tab'.state.gameResult = v.result := by
    rintro v rfl
    rw [← hknown]
    exact ⟨rfl, rfl, rfl, rfl, rfl⟩
  have hstanding : s.standing event.roomId = ((s.gameState event.roomId).map GameState.standing).getD .initial := rfl
  exact ⟨fun state hstate => hparts state.standing (by rw [hstanding, hstate]; rfl),
    fun hnone => hparts .initial (by rw [hstanding, hnone]; rfl)⟩

/-- Player 3 has joined the room of the opening, and the tab of player 3 knows the first move of the game there. -/
theorem client_knows_game_opening : ∃ (s : Server) (tab : Tab) (state : GameState),
    after (tally 'u') (.load .default 0 none none) (attending (tally 'c' 2) s.wire) = some tab ∧
    s.gameState (tally 'r' 4) = some state ∧ state.status = .active ∧ state.currentTurn = .O ∧
    tab.state.confirmedBoard = state.board ∧ tab.state.confirmedTurn = state.currentTurn ∧
    tab.state.gameStatus = state.status ∧ tab.state.gameId = some state.gameId ∧ tab.state.gameResult = state.result := by
  have hcheck : (runAttending tallies (fun s i => decide (Orderly tallies s i)) (tally 'c' 2) (tally 'p' 3) (tally 'r' 4) 1
      (opening.take 6) (asks 2 "join3" (.joinRoom (tally 'r' 4) none)) (opening.drop 7 ++ [plays 0 "move1" 0 0]) fresh).any
      (fun s => (s.gameState (tally 'r' 4)).any (fun state => (state.status = .active) && (state.currentTurn = .O)) &&
        (after (tally 'u') (.load .default 0 none none) (attending (tally 'c' 2) s.wire)).isSome &&
        ((attending (tally 'c' 2) s.wire).drop 3).head?.any (TabInput.admitsTo (tally 'r' 4)) &&
        (((attending (tally 'c' 2) s.wire).take 3).filterMap TabInput.event).length = 1 &&
        ((attending (tally 'c' 2) s.wire).drop 4).all (TabInput.stays (tally 'r' 4))) = true := by
    decide +kernel
  obtain ⟨s, hrun, hs⟩ := (Option.any_eq_true _ _).mp hcheck
  have hsince := attendsSince_of_run (C := Orderly tallies) (fun _ _ h => of_decide_eq_true h) hrun
  simp only [Option.any_eq_true, Bool.and_eq_true, decide_eq_true_eq] at hs
  obtain ⟨⟨⟨⟨⟨state, hstate, hactive, hturn⟩, hafter⟩, hadmits⟩, hcount⟩, hstays⟩ := hs
  obtain ⟨tab, hafter⟩ := Option.isSome_iff_exists.mp hafter
  obtain ⟨event, hinputs, hadmits, hr⟩ := admitted_of_drop 3 hadmits
  refine ⟨s, tab, state, hafter, hstate, hactive, hturn, ?_⟩
  have hheard : ((attending (tally 'c' 2) s.wire).take 3 ++ .received (some (.room event)) ::
      (attending (tally 'c' 2) s.wire).drop 4).filterMap TabInput.event =
        (heard (tally 'c' 2) s.wire).filterMap TabInput.event := by
    rw [← hinputs]
    rfl
  have hstill : ∀ i ∈ (attending (tally 'c' 2) s.wire).drop 4, i ≠ .leaveRoom := fun i hi =>
    not_leaveRoom_of_stays (List.all_eq_true.mp hstays i hi)
  rw [← hr, ← hcount] at hsince
  rw [← hr] at hstate
  exact (client_knows_game tallies_neverRepeats .refl (hinputs ▸ hafter) hheard hadmits hstill hsince).1 state hstate

/-- A late window of room 4 expires when player 1 has entered room 7, and the session forgets room 7. Player 1 enters room 8
from another tab and plays there. The tab in room 7 shows the game of room 8. -/
theorem other_room_shown : ∃ (s : Server) (tab : Tab) (event : RoomEvent) (earlier later : List TabInput),
    AttendsSince tallies (fun s i => i.diskFails = false ∧ s.answeredAgain i = false) fresh (tally 'c' 6) (tally 'p' 1)
      event.roomId (earlier.filterMap TabInput.event).length s ∧
    s.Attends (tally 'c' 6) (tally 'p' 1) event.roomId ∧
    after (tally 'u') (.load .default 0 none none) (earlier ++ .received (some (.room event)) :: later) = some tab ∧
    (earlier ++ .received (some (.room event)) :: later).filterMap TabInput.event =
      (heard (tally 'c' 6) s.wire).filterMap TabInput.event ∧
    event.payload.admits = true ∧ (∀ i ∈ later, i ≠ .leaveRoom) ∧ s.gameState event.roomId = none ∧
    tab.state.roomId = some event.roomId ∧ tab.state.gameStatus = .active ∧ tab.state.gameId ≠ none := by
  have hcheck : (runAttending tallies (fun s i => !i.diskFails && !s.answeredAgain i) (tally 'c' 6) (tally 'p' 1)
      (tally 'r' 7) 2 (opening ++ [.socketClosed (tally 'c' 0), .connect, asks 6 "auth1b" (.auth (some (tally 't' 1))),
        asks 6 "leave1" (.leaveRoom (tally 'r' 4)), .createRoom])
      (asks 6 "join7" (.joinRoom (tally 'r' 7) none))
      ((List.range 6).flatMap (fun k => [.tick 50000, asks 6 (tally 'm' k) (.ping (.ofNat 0)),
          asks 2 (tally 'n' k) (.ping (.ofNat 0))]) ++
        [.reconnectWindow (tally 'r' 4) (tally 'p' 1) false, .createRoom, .connect,
          asks 9 "auth1c" (.auth (some (tally 't' 1))), asks 9 "join8" (.joinRoom (tally 'r' 8) none),
          asks 2 "leave3" (.leaveRoom (tally 'r' 4)), asks 2 "join3b" (.joinRoom (tally 'r' 8) none),
          asks 9 "ready1b" (.playerReady (tally 'r' 8)), asks 2 "ready3b" (.playerReady (tally 'r' 8))]) fresh).any
      (fun s => decide (s.Attends (tally 'c' 6) (tally 'p' 1) (tally 'r' 7)) && (s.gameState (tally 'r' 7)).isNone &&
        (after (tally 'u') (.load .default 0 none none) (attending (tally 'c' 6) s.wire)).any (fun tab =>
          (tab.state.roomId = some (tally 'r' 7)) && (tab.state.gameStatus = .active) && tab.state.gameId.isSome) &&
        ((attending (tally 'c' 6) s.wire).drop 4).head?.any (TabInput.admitsTo (tally 'r' 7)) &&
        (((attending (tally 'c' 6) s.wire).take 4).filterMap TabInput.event).length = 2 &&
        ((attending (tally 'c' 6) s.wire).drop 5).all (TabInput.stays (tally 'r' 7))) = true := by
    decide +kernel
  obtain ⟨s, hrun, hs⟩ := (Option.any_eq_true _ _).mp hcheck
  have hsince := attendsSince_of_run (C := fun s i => i.diskFails = false ∧ s.answeredAgain i = false)
    (fun s i h => by simpa using h) hrun
  simp only [Option.any_eq_true, Bool.and_eq_true, decide_eq_true_eq] at hs
  obtain ⟨⟨⟨⟨⟨hattends, hnone⟩, tab, hafter, ⟨hroom, hactive⟩, hgame⟩, hadmits⟩, hcount⟩, hstays⟩ := hs
  obtain ⟨event, hinputs, hadmits, hr⟩ := admitted_of_drop 4 hadmits
  refine ⟨s, tab, event, (attending (tally 'c' 6) s.wire).take 4, (attending (tally 'c' 6) s.wire).drop 5, ?_, ?_,
    hinputs ▸ hafter, ?_, hadmits, fun i hi => not_leaveRoom_of_stays (List.all_eq_true.mp hstays i hi), ?_, ?_,
    hactive, ?_⟩
  · rw [hr, hcount]
    exact hsince
  · rwa [hr]
  · rw [← hinputs]
    rfl
  · rw [hr]
    exact Option.isNone_iff_eq_none.mp hnone
  · rwa [hr]
  · exact Option.isSome_iff_ne_none.mp hgame

end TicTacToe

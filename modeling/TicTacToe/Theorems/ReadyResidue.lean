import TicTacToe.Theorems.LobbyAgreement

/-! # Ready marks after the start of a game

The `PLAYER_READY` that makes the second player ready starts the game and takes the marks away, and is then acknowledged
with both marks. Until then every client in a room knows its slots and marks. -/

namespace TicTacToe

namespace Client

/-- An input that lets the tab into room `r`. -/
def TabInput.admitsTo (r : RoomId) : TabInput → Bool
  | .received (some (.room event)) => event.payload.admits && decide (event.roomId = r)
  | _ => false

/-- The inputs of a tab that opens connection `c` and handles everything that is written to it. -/
def attending (c : ConnectionId) (wire : List (ConnectionId × WireEvent)) : List TabInput :=
  [.connect false, .opened] ++ heard c wire

theorem admitted_of_drop {r : RoomId} {inputs : List TabInput} (k : Nat)
    (h : ∃ i, (inputs.drop k).head? = some i ∧ i.admitsTo r = true) : ∃ event,
    inputs = inputs.take k ++ .received (some (.room event)) :: inputs.drop (k + 1) ∧ event.payload.admits = true ∧
      event.roomId = r := by
  obtain ⟨i, hi, hadmits⟩ := h
  unfold TabInput.admitsTo at hadmits
  split at hadmits
  · rename_i event
    obtain ⟨hpayload, hr⟩ := Bool.and_eq_true_iff.mp hadmits
    refine ⟨event, ?_, hpayload, of_decide_eq_true hr⟩
    have hdrop : inputs.drop k = .received (some (.room event)) :: inputs.drop (k + 1) := by
      rw [List.drop_eq_getElem?_toList_append, ← List.head?_drop, hi]
      rfl
    rw [← hdrop, List.take_append_drop]
  · cases hadmits

theorem joined_of_drop {r : RoomId} {inputs : List TabInput} (k : Nat)
    (h : ∃ i, (inputs.drop k).head? = some i ∧ i.admitsTo r = true)
    (hstays : (inputs.drop (k + 1)).all (TabInput.stays r) = true) : Joined r inputs := by
  obtain ⟨event, hinputs, hadmits, hr⟩ := admitted_of_drop k h
  exact ⟨inputs.take k, event, inputs.drop (k + 1), hinputs, hadmits, hr, List.all_eq_true.mp hstays⟩

/-- Inputs without frames keep what is noted, or make the tab forget it. -/
theorem note_silent {inputs : List TabInput} (h : ∀ i ∈ inputs, i.event = none) :
    (∀ known, inputs.foldl note known = known) ∨ ∀ known, inputs.foldl note known = none := by
  induction inputs with
  | nil => exact Or.inl fun known => rfl
  | cons i inputs ih =>
    have hnote : (∀ known, note known i = known) ∨ ∀ known, note known i = none := by
      have hevent := h i List.mem_cons_self
      cases i with
      | leaveRoom => exact Or.inr fun known => rfl
      | received event =>
        obtain rfl : event = none := hevent
        exact Or.inl fun known => rfl
      | _ => exact Or.inl fun known => rfl
    rcases ih fun j hj => h j (List.mem_cons_of_mem i hj) with hrest | hrest
    · refine hnote.imp (fun hi known => ?_) (fun hi known => ?_)
      · rw [List.foldl_cons, hi, hrest]
      · rw [List.foldl_cons, hi, hrest]
    · exact Or.inr fun known => hrest _

/-- A tab that is in a room and has last handled a `PLAYER_READY_ACK` shows its marks. -/
theorem shows_last_marks {uuid : Nat → CommandId} {tab tab' : Tab} {inputs : List TabInput} {r : RoomId} {ack : RoomEvent}
    {before : List Event} {ready : List PlayerSymbol} (hempty : tab.queue = []) (hafter : after uuid tab inputs = some tab')
    (hjoined : Joined r inputs) (hevents : inputs.filterMap TabInput.event = before ++ [.room ack])
    (hack : ack.payload = .playerReadyAck ready) : tab'.state.readyPlayers = ready := by
  obtain ⟨first, rest, rfl, -, hrest⟩ := List.filterMap_eq_append_iff.mp hevents
  obtain ⟨skipped, i, silent, rfl, -, hi, hsilent⟩ := List.filterMap_eq_cons_iff.mp hrest
  rw [← List.append_assoc] at hafter hjoined
  generalize first ++ skipped = earlier at hafter hjoined
  obtain ⟨tab₁, hbefore, hlast⟩ := Option.bind_eq_some_iff.mp ((Transition.run_append tab).symm.trans hafter)
  have hempty₁ : tab₁.queue = [] :=
    (Transition.runs_of_run (C := fun _ _ => True) (fun _ _ _ => trivial) hbefore).invariant (P := fun u => u.queue = [])
      hempty fun _ _ _ _ _ hstep => step_queue hstep
  have hnote : ∀ v, note (some (r, v)) i = some (r, v.hear ack.payload) := by
    intro v
    cases i with
    | received event =>
      obtain rfl : event = some (.room ack) := hi
      simp [note, TabInput.event, learn, hack, RoomPayload.admits]
    | _ => cases hi
  have hsilent' : ∀ j ∈ silent, j.event = none := List.filterMap_eq_nil_iff.mp hsilent
  have hlobby : ∀ j ∈ i :: silent, j.lobby := by
    intro j hj event hevent
    rcases List.mem_cons.mp hj with rfl | hj
    · obtain rfl := Event.room.inj (Option.some.inj (hi.symm.trans hevent))
      rw [hack]
      trivial
    · rw [hsilent' j hj] at hevent
      cases hevent
  obtain ⟨v, hv⟩ := known_of_joined hjoined
  rw [List.foldl_append, List.foldl_cons] at hv
  -- The tab has not left the room since, or it would not be in one.
  rcases note_silent hsilent' with hsame | hnone
  · have hlearned : (i :: silent).foldl note (some (r, tab₁.state.roster)) =
        some (r, tab₁.state.roster.hear ack.payload) := by
      rw [List.foldl_cons, hsame, hnote]
    have hroster := run_roster hempty₁ hlobby hlast (fun k hk => by obtain rfl := Option.some.inj hk; rfl) hlearned
    rw [hack] at hroster
    exact congrArg Roster.ready hroster
  · rw [hnone] at hv
    cases hv

end Client

/-! ### The pair that gets complete -/

/-- The game takes the marks away. -/
theorem RoomStep.completed {G : IdSource} {now : Millis} {r : RoomId} {lo hi : Nat} {v v' : RoomView} {p : PlayerId}
    {sends : List SendCall} {room : RoomRecord} {symbol : PlayerSymbol}
    (h : RoomStep G now r lo hi v (.readied p) sends v') (hroom : v.room = some room)
    (hsymbol : getSymbolForPlayer room p = some symbol) (hready : symbol ∉ room.readySymbols)
    (hboth : (room.markReady symbol).bothReady = true) : v'.room = some (room.markReady symbol).resetReady := by
  cases h with
  | readiedAgain hroom' hsymbol' hready' =>
    obtain rfl := Option.some.inj (hroom'.symm.trans hroom)
    obtain rfl := Option.some.inj (hsymbol'.symm.trans hsymbol)
    exact absurd hready' hready
  | readied hroom' hsymbol' hready' hboth' =>
    obtain rfl := Option.some.inj (hroom'.symm.trans hroom)
    obtain rfl := Option.some.inj (hsymbol'.symm.trans hsymbol)
    rw [hboth'] at hboth
    cases hboth
  | startedReady hroom' hcount' hsymbol' =>
    obtain rfl := Option.some.inj (hroom'.symm.trans hroom)
    obtain rfl := Option.some.inj (hsymbol'.symm.trans hsymbol)
    rfl

namespace Server
variable {s t : Server} {G : IdSource} {i : Input} {r : RoomId}

/-- Whether or not a game starts, the marks are acknowledged and the opponent is told. -/
theorem becomeReady_replies (G : IdSource) (s : Server) (c : ConnectionId) (id : CommandId) (r : RoomId)
    (symbol : PlayerSymbol) (room : RoomRecord) : (s.becomeReady G c id r symbol room).threw = false ∧
      ∃ seq others, (s.becomeReady G c id r symbol room).deliveries =
        .connection c (.event (.room (makePlayerReadyAck r room.readySymbols seq id))) :: others ∧
        ∀ d ∈ others, ∃ slot e, room.slot (opponent symbol) = some slot ∧ d = .broadcast slot.playerId e := by
  unfold becomeReady
  dsimp only
  split
  · exact ⟨rfl, _, [], rfl, fun d hd => absurd hd List.not_mem_nil⟩
  · rename_i slot hslot
    exact ⟨rfl, _, _, rfl, fun d hd => ⟨slot, _, hslot, List.mem_singleton.mp hd⟩⟩

/-- The last that the player is told are the marks, and the room has none. -/
theorem completed_pair (hn : G.NeverRepeats) (hs : Attuned G s) (hi : s.completesPair i = true) (h : s.step G i = some t) :
    ∃ c p r room before ack ready, t.actsFor c = some p ∧ t.getRoom r = some room ∧ room.Holds p ∧
      room.readySymbols = [] ∧ told c t.wire = before ++ [.room ack] ∧ ack.payload = .playerReadyAck ready ∧
      ready ≠ [] := by
  have hk := hs.single.seats.keyed
  obtain ⟨⟨⟨id, body⟩, p⟩, hprocessed, hi⟩ := (Option.any_eq_true _ _).mp hi
  cases body with
  | playerReady r =>
    simp only [Option.any_eq_true, Bool.and_eq_true, decide_eq_true_eq] at hi
    obtain ⟨room, hroom, hcount, symbol, hsymbol, hready, hboth⟩ := hi
    obtain ⟨c, rec, token, hrouted, htoken, hp⟩ := handles_of_processed hprocessed
    obtain ⟨session, hsession, rfl⟩ := hp.session
    obtain ⟨frame, diskFails, rfl, -⟩ := hrouted.frame
    obtain rfl := Option.some.inj h
    have hq := arrived_quiet s c rec
    obtain ⟨session', hsession', hplayer, -⟩ := hq.session_to_some hsession
    have hcached : (s.arrived c rec).cached id = none := (hq.cached id).trans hp.uncached
    have hroom' : (s.arrived c rec).getRoom r = some room := (hq.getRoom r).trans hroom
    have hconcerns : (⟨id, .playerReady r⟩ : Command).body.concerns = some r := rfl
    obtain ⟨result, hmailing, hresult⟩ := dispatch_mailing (G := G) hcached (hk.arrived c rec) (hs.backed.of_quiet hq)
      htoken hconcerns c diskFails
    obtain ⟨found, calls, hposts, -⟩ := hmailing.summary hsession'
    obtain ⟨hreach, -, -, -⟩ := hrouted.posted hs.addressed.attached hposts
    have hready' : result = (((s.arrived c rec).afterLookup id).ensureGameSession r).becomeReady G c id r symbol
        (room.markReady symbol) := by
      have hdispatch : (s.arrived c rec).dispatch G c rec ⟨id, .playerReady r⟩ diskFails =
          (s.arrived c rec).handlePlayerReady G c id r token := by simp only [dispatch, htoken]
      have hlinked : (s.arrived c rec).handlePlayerReady G c id r token = result := hdispatch.symm.trans hresult
      rw [← hlinked, handlePlayerReady, roomCommand_eq hsession' hcached hroom']
      simp only [if_neg (Nat.not_lt.mpr hcount), hplayer, hsymbol, if_neg hready]
    obtain ⟨hfine, seq, others, hdeliveries, hothers⟩ := becomeReady_replies G
      (((s.arrived c rec).afterLookup id).ensureGameSession r) c id r symbol (room.markReady symbol)
    have hafter := (afterLookup_quiet (s.arrived c rec) id)
    have hacts := becomeReady_acts (G := G) (c := c) ((hafter.cached id).trans hcached) ((hafter.getRoom r).trans hroom')
      hcount hsymbol hready
    rw [← hready'] at hfine hdeliveries hacts
    have hconclude : s.handleFrame G c frame diskFails = conclude G c id result := by
      rw [handleFrame_routed hrouted, hresult]
      rfl
    have hheld : room.Holds session.playerId := RoomRecord.holds_of_symbol hsymbol
    have hacting : s.actsFor c = some session.playerId :=
      hs.addressed.attached.actsFor_session hn hs.single.seats.issuing hrouted.connection htoken hsession
    refine ⟨c, session.playerId, r, (room.markReady symbol).resetReady, told c result.server.wire,
      makePlayerReadyAck r (room.markReady symbol).readySymbols seq id, (room.markReady symbol).readySymbols, ?_, ?_, ?_,
      rfl, ?_, rfl, ?_⟩
    · rw [handleFrame_routed hrouted, handled_actsFor rfl]
      exact hacting
    · obtain ⟨sends, hstep, -⟩ := hacts.step
      have hview := hstep.completed (view_room_of_getRoom ((hafter.getRoom r).trans hroom')) hsymbol hready hboth
      have hlive : (result.server.getRoom r).isSome = true := by
        rcases hacts.alive r with ⟨-, hnew⟩ | hsome
        · cases hnew
        · rw [hsome, hafter.getRoom, hroom']
          rfl
      obtain ⟨room', hroom'⟩ := Option.isSome_iff_exists.mp hlive
      rw [hconclude, (conclude_quiet G c id result).getRoom, hroom', ← hview, view_room_of_getRoom hroom']
    · exact hheld
    · have hdelivered : result.server.delivered = s.delivered := hreach.delivered
      have hsilent : others.filterMap (Delivery.tells c session.playerId) = [] := by
        refine List.filterMap_eq_nil_iff.mpr fun d hd => ?_
        obtain ⟨slot, e, hslot, rfl⟩ := hothers d hd
        refine if_neg fun he => ?_
        have hholds : slotHolds (room.slot (opponent symbol)) session.playerId = true := by
          have hslot' : room.slot (opponent symbol) = some slot := by cases symbol <;> exact hslot
          rw [hslot', slotHolds, Option.any_some, he, decide_eq_true_eq]
        have hd := hs.single.seats.distinct r room (view_room_of_getRoom hroom)
        have hsame := (RoomRecord.getSymbolForPlayer_of_slot hd hholds).symm.trans hsymbol
        exact Turn.ne_opponent symbol (Option.some.inj hsame)
      rw [hconclude, conclude_wire hfine, told_append, hdelivered, hs.addressed.told_delivered hacting, hdeliveries,
        List.filterMap_cons, hsilent, Delivery.tells, if_pos rfl]
      rfl
    · intro hnone
      rw [RoomRecord.bothReady, hnone] at hboth
      cases hboth
  | _ => cases hi

/-- Who is answered again can be misinformed only. -/
theorem not_misinforms {s : Server} {i : Input} (h : s.answeredAgain i = false) : ¬s.Misinforms i := by
  rintro ⟨c, rec, command, entry, event, hrecalls, -⟩
  have hresends := hrecalls.resends
  have hnone := hrecalls.routed.uncached h fun e => ?_
  · rw [hrecalls.cached] at hnone
    cases hnone
  · obtain ⟨id, body⟩ := command
    cases body with
    | ping clientTime | requestRematch | acceptRematch | declineRematch => cases hresends
    | _ => rfl

end Server

open Client Server

/-- Right after the `PLAYER_READY` that completes a pair, a tab that has joined the room on the player's connection and has
handled every frame shows marks, and the room has none. -/
theorem completed_pair_misread {G : IdSource} (hn : G.NeverRepeats) {now : Millis} {version : String}
    {repository : HistoryRepository} {s t : Server} (hrun : Runs G (InTune G) (start now version repository) s) {i : Input}
    (hi : s.completesPair i = true) (hstep : s.step G i = some t) :
    ∃ c p r room, t.actsFor c = some p ∧ t.getRoom r = some room ∧ room.Holds p ∧ room.readySymbols = [] ∧
      ∀ {uuid : Nat → CommandId} {tab tab' : Tab} {inputs : List TabInput}, tab.queue = [] →
        after uuid tab inputs = some tab' → inputs.filterMap TabInput.event = (heard c t.wire).filterMap TabInput.event →
        Joined r inputs → tab'.state.readyPlayers ≠ [] := by
  obtain ⟨c, p, r, room, before, ack, ready, hacts, hroom, hholds, hnone, htold, hack, hready⟩ :=
    completed_pair hn (attuned_of_run hn hrun) hi hstep
  refine ⟨c, p, r, room, hacts, hroom, hholds, hnone, fun {uuid tab tab' inputs} hempty hafter hheard hjoined => ?_⟩
  rw [heard_events, htold] at hheard
  rw [shows_last_marks hempty hafter hjoined hheard hack]
  exact hready

/-- As long as no `PLAYER_READY` completes a pair, no client is misinformed from the cache, no player enters a room or gets
ready beside another client of the player, and no connection is bound to another player: a tab that has joined a room and
has handled every frame of its connection knows who holds the slots of the room and who is ready. -/
theorem client_knows_roster {G : IdSource} (hn : G.NeverRepeats) {now : Millis} {version : String}
    {repository : HistoryRepository} {s : Server} (hrun : Runs G (InTune G) (start now version repository) s)
    {uuid : Nat → CommandId} {config : WsClientConfig} {time : Millis} {storedToken : Option SessionToken}
    {storedRoom : Option RoomId} {tab tab' : Tab}
    (htab : Tab.Runs uuid (fun _ _ => True) (.load config time storedToken storedRoom) tab) {inputs : List TabInput}
    (hafter : after uuid tab inputs = some tab') {c : ConnectionId}
    (hheard : inputs.filterMap TabInput.event = (heard c s.wire).filterMap TabInput.event) {r : RoomId}
    (hjoined : Joined r inputs) {p : PlayerId} (hacts : s.actsFor c = some p) {room : RoomRecord}
    (hroom : s.getRoom r = some room) (hp : room.Holds p) :
    (∀ x, x ∈ tab'.state.readyPlayers ↔ x ∈ room.readySymbols) ∧
      tab'.state.players.X.map PlayerInfo.playerId = room.playerX.map PlayerSlot.playerId ∧
      tab'.state.players.O.map PlayerInfo.playerId = room.playerO.map PlayerSlot.playerId := by
  have hs := (attuned_of_run hn hrun).agreed
  rw [heard_events] at hheard
  have hlobby : ∀ i ∈ inputs, i.lobby := by
    intro i hi event hevent
    refine hs.lobby c event ?_
    rw [← hheard]
    exact List.mem_filterMap.mpr ⟨i, hi, hevent⟩
  obtain ⟨v, hv⟩ := known_of_joined hjoined
  have hroster : tab'.state.roster = v :=
    run_roster (runs_queue htab) hlobby hafter (fun k hk => by cases hk) hv
  have hknown : s.known c = some (r, v) := by
    rw [known, ← hheard]
    exact learned_of_noted (fun k hk => hk) hv
  have hsame : tab'.state.roster = room.roster := hroster.trans (hs.right c p r room hacts hroom v hknown hp)
  refine ⟨fun x => ?_, congrArg (fun w => w.players.X) hsame, congrArg (fun w => w.players.O) hsame⟩
  have hready : tab'.state.readyPlayers = room.readySymbols := congrArg Roster.ready hsame
  rw [hready]

/-- After the opening but the last `PLAYER_READY`, the tab of player 3 knows both players and the mark of player 1. -/
theorem client_knows_roster_waiting : ∃ (s : Server) (tab : Tab) (room : RoomRecord),
    Server.Runs tallies (InTune tallies) fresh s ∧
    after (tally 'u') (.load .default 0 none none) (attending (tally 'c' 2) s.wire) = some tab ∧
    s.getRoom (tally 'r' 4) = some room ∧ room.readySymbols = [.X] ∧
    (∀ x, x ∈ tab.state.readyPlayers ↔ x ∈ room.readySymbols) ∧
    tab.state.players.X.map PlayerInfo.playerId = room.playerX.map PlayerSlot.playerId ∧
    tab.state.players.O.map PlayerInfo.playerId = room.playerO.map PlayerSlot.playerId := by
  have hcheck : (Transition.run (Server.step tallies) (fun s i => !s.completesPair i && !s.answeredAgain i &&
      !s.speaksBeside i && !s.rebinds tallies i) fresh opening.dropLast).any (fun s =>
      (s.actsFor (tally 'c' 2) = some (tally 'p' 3)) && (s.getRoom (tally 'r' 4)).any fun room =>
        (room.readySymbols = [.X]) && slotHolds room.playerO (tally 'p' 3) &&
          (after (tally 'u') (.load .default 0 none none) (attending (tally 'c' 2) s.wire)).isSome &&
          ((attending (tally 'c' 2) s.wire).drop 3).head?.any (TabInput.admitsTo (tally 'r' 4)) &&
          ((attending (tally 'c' 2) s.wire).drop 4).all (TabInput.stays (tally 'r' 4))) = true := by
    decide +kernel
  have htune : ∀ s i, (!s.completesPair i && !s.answeredAgain i && !s.speaksBeside i && !s.rebinds tallies i) = true →
      InTune tallies s i := by
    intro s i h
    simp only [Bool.and_eq_true, Bool.not_eq_true'] at h
    obtain ⟨⟨⟨hpair, hagain⟩, hbeside⟩, hrebinds⟩ := h
    exact ⟨hpair, not_misinforms hagain, hbeside, hrebinds⟩
  obtain ⟨s, hrun, hs⟩ := Transition.exists_run htune hcheck
  simp only [Option.any_eq_true, Bool.and_eq_true, decide_eq_true_eq] at hs
  obtain ⟨hacts, room, hroom, ⟨⟨⟨hready, hholds⟩, hafter⟩, hadmits⟩, hstays⟩ := hs
  obtain ⟨tab, hafter⟩ := Option.isSome_iff_exists.mp hafter
  obtain ⟨hmarks, hX, hO⟩ := client_knows_roster tallies_neverRepeats hrun .refl hafter rfl
    (joined_of_drop 3 hadmits hstays) hacts hroom ⟨.O, hholds⟩
  exact ⟨s, tab, room, hrun, hafter, hroom, hready, hmarks, hX, hO⟩

/-- Both players of the opening get ready, and the room has no marks left. The tab of player 1 has handled everything, and
shows both marks. -/
theorem marks_shown_after_start : ∃ (s : Server) (tab : Tab) (room : RoomRecord),
    Server.Runs tallies (fun _ _ => True) fresh s ∧
    after (tally 'u') (.load .default 0 none none) (attending (tally 'c' 0) s.wire) = some tab ∧
    Joined (tally 'r' 4) (attending (tally 'c' 0) s.wire) ∧
    s.actsFor (tally 'c' 0) = some (tally 'p' 1) ∧ s.getRoom (tally 'r' 4) = some room ∧ room.Holds (tally 'p' 1) ∧
    (∀ slot, room.playerX = some slot ∨ room.playerO = some slot → slot.connected = true) ∧
    tab.state.readyPlayers = [.X, .O] ∧ room.readySymbols = [] := by
  have hcheck : (Transition.run (Server.step tallies) (fun _ _ => true) fresh opening).any (fun s =>
      (s.actsFor (tally 'c' 0) = some (tally 'p' 1)) && (s.getRoom (tally 'r' 4)).any fun room =>
        (room.readySymbols = []) && slotHolds room.playerX (tally 'p' 1) && room.playerX.all PlayerSlot.connected &&
          room.playerO.all PlayerSlot.connected &&
          (after (tally 'u') (.load .default 0 none none) (attending (tally 'c' 0) s.wire)).any
            (fun tab => tab.state.readyPlayers = [.X, .O]) &&
          ((attending (tally 'c' 0) s.wire).drop 3).head?.any (TabInput.admitsTo (tally 'r' 4)) &&
          ((attending (tally 'c' 0) s.wire).drop 4).all (TabInput.stays (tally 'r' 4))) = true := by
    decide +kernel
  obtain ⟨s, hrun, hs⟩ := Transition.exists_run (C := fun _ _ => True) (fun _ _ _ => trivial) hcheck
  simp only [Option.any_eq_true, Bool.and_eq_true, decide_eq_true_eq, Option.all_eq_true] at hs
  obtain ⟨hacts, room, hroom, ⟨⟨⟨⟨⟨hready, hholds⟩, hX⟩, hO⟩, tab, hafter, hmarks⟩, hadmits⟩, hstays⟩ := hs
  refine ⟨s, tab, room, hrun, hafter, joined_of_drop 3 hadmits hstays, hacts, hroom, ⟨.X, hholds⟩, fun slot hslot => ?_,
    hmarks, hready⟩
  rcases hslot with hslot | hslot
  · exact hX slot hslot
  · exact hO slot hslot

end TicTacToe

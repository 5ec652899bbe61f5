import TicTacToe.Theorems.HandlerTurns

/-! # Agreement on slots and marks

What the clients of a room know about its slots and marks is what the server's record says, as long as no game starts and
every change is told to every connection of the players in the room. -/

namespace TicTacToe
namespace Server
variable {s t u : Server} {r : RoomId} {G : IdSource} {c : ConnectionId} {id : CommandId} {token : SessionToken}
  {p : PlayerId} {i : Input} {a : RoomAction} {result : HandlerResult}

/-- The room that a client on connection `c` has joined, and its roster, by what has been written to `c`. -/
def known (s : Server) (c : ConnectionId) : Option (RoomId × Roster) := (told c s.wire).foldl learn none

/-- Everything that has been written is heard without a start of a game, and those who act for the players of a room know
its roster. -/
structure Agreed (s : Server) : Prop where
  lobby : ∀ c event, Event.room event ∈ told c s.wire → event.payload.lobby
  right : ∀ c p r room, s.actsFor c = some p → s.getRoom r = some room → Right r room p (s.known c)

theorem start_agreed (now : Millis) (version : String) (repository : HistoryRepository) :
    (start now version repository).Agreed where
  lobby c event h := absurd h List.not_mem_nil
  right c p r room h := by simp [start, actsFor] at h

/-! ### Calm steps -/

/-- The event is not about slots and marks. -/
abbrev Passive (event : RoomEvent) : Prop := event.payload.passive = true

theorem RoomPayload.lobby_of_passive {payload : RoomPayload} (h : payload.passive = true) : payload.lobby := by
  cases payload with
  | gameStarted | stateSyncReplay => cases h
  | _ => trivial

theorem told_idle {w : List (ConnectionId × WireEvent)}
    (h : ∀ entry ∈ w, ∀ event, entry.2.roomEvent = some event → Passive event) :
    ∀ event ∈ told c w, event.idle = true := by
  intro event he
  cases event with
  | room event => exact h _ (mem_told.mp he) event rfl
  | authAck | pong | error => rfl

/-- A step that writes nothing about slots and marks. -/
theorem WritesOnly.told (h : WritesOnly Passive s t) (c : ConnectionId) :
    ∃ events, told c t.wire = told c s.wire ++ events ∧ ∀ event ∈ events, event.idle = true := by
  obtain ⟨w, hw, hpassive⟩ := h
  exact ⟨TicTacToe.told c w, by rw [hw, told_append], told_idle hpassive⟩

/-- What idle calls of the send function write. -/
theorem posted_passive {found : Option RoomRecord} {calls : List SendCall} (h : ∀ call ∈ calls, call.event.idle = true) :
    ∀ entry ∈ calls.flatMap (s.postedIn found), ∀ event, entry.2.roomEvent = some event → Passive event := by
  rintro ⟨c, w⟩ hentry event hevent
  obtain ⟨call, hcall, hposted⟩ := List.mem_flatMap.mp hentry
  cases found with
  | none => cases hposted
  | some room =>
    obtain ⟨p, -, hmailed⟩ := List.mem_flatMap.mp hposted
    obtain ⟨rfl, -⟩ := mem_mailed hmailed
    have hidle := h call hcall
    generalize call.event = e at hevent hidle
    cases e with
    | room e => exact Option.some.inj hevent ▸ hidle
    | authAck | pong | error => cases hevent

/-- A step after which rosters, connections and clients are as before, or clients have forgotten. -/
structure Calm (s t : Server) : Prop where
  written : WritesOnly Passive s t
  acting : ∀ c p, t.actsFor c = some p → s.actsFor c = some p ∨ t.known c = none
  rooms : ∀ r room', t.getRoom r = some room' →
    (∀ q, ¬room'.Holds q) ∨ ∃ room, s.getRoom r = some room ∧ room'.roster = room.roster

theorem Agreed.calm (hs : s.Agreed) (h : Calm s t) : t.Agreed := by
  refine ⟨fun c event he => ?_, fun c p r room' hacts hroom' v hv hp => ?_⟩
  · obtain ⟨events, htold, hidle⟩ := h.written.told c
    rw [htold] at he
    rcases List.mem_append.mp he with he | he
    · exact hs.lobby c event he
    · exact RoomPayload.lobby_of_passive (hidle _ he)
  · rcases h.acting c p hacts with hacts | hnone
    · rcases h.rooms r room' hroom' with hempty | ⟨room, hroom, hroster⟩
      · exact absurd hp (hempty p)
      · obtain ⟨events, htold, hidle⟩ := h.written.told c
        rw [known, htold, List.foldl_append] at hv
        rw [hroster]
        rcases learn_idles hidle (s.known c) with hsame | hnone
        · exact hs.right c p r room hacts hroom v (hsame.symm.trans hv) (RoomRecord.holds_of_roster hroster hp)
        · rw [known] at hnone
          rw [hnone] at hv
          cases hv
    · rw [hnone] at hv
      cases hv

/-- An action that changes neither slots nor marks, or a new room. -/
theorem Acts.same_rosters (h : Acts G s t r a) (hu : (s.view r).Unplayed) (ha : a.reseats = false ∨ a = .created) :
    ∀ r' room', t.getRoom r' = some room' →
      (∀ q, ¬room'.Holds q) ∨ ∃ room, s.getRoom r' = some room ∧ room'.roster = room.roster := by
  intro r' room' hroom'
  have hview' := view_room_of_getRoom hroom'
  have hlive : ∀ room, (s.view r').room = some room → (s.getRoom r').isSome → s.getRoom r' = some room := by
    intro room hview hsome
    obtain ⟨room₀, hroom₀⟩ := Option.isSome_iff_exists.mp hsome
    rw [hroom₀, ← view_room_of_getRoom hroom₀, hview]
  have halive : r' = r ∧ a = .created ∨ (s.getRoom r').isSome = true := by
    rcases h.alive r' with hnew | hsome
    · exact Or.inl hnew
    · rw [hroom'] at hsome
      exact Or.inr hsome.symm
  obtain ⟨sends, hstep, -⟩ := h.step
  rcases halive with ⟨rfl, rfl⟩ | hsome
  · refine Or.inl fun q hq => ?_
    obtain ⟨x, hx⟩ := hq
    exact hstep.created_not_held ⟨room', x, hview', hx⟩
  · by_cases hr : r' = r
    · subst hr
      rcases ha with ha | rfl
      · obtain ⟨room, hroom, hroster⟩ := hstep.roster_kept hu ha hview'
        exact Or.inr ⟨room, hlive room hroom hsome, hroster⟩
      · refine Or.inl fun q hq => ?_
        obtain ⟨x, hx⟩ := hq
        exact hstep.created_not_held ⟨room', x, hview', hx⟩
    · rw [h.other r' hr] at hview'
      exact Or.inr ⟨room', hlive room' hview' hsome, rfl⟩

/-- Slots and marks change by commands. -/
theorem Cause.handled (h : s.Cause i r a) (ha : a.reseats = true) (hnew : a ≠ .created)
    (hfired : ∀ p, a ≠ .windowFired p) : ∃ command p, s.Handles i command p ∧ command.body.concerns = some r := by
  cases a with
  | entered p =>
    obtain ⟨id, name, hhandles⟩ := h
    exact ⟨_, p, hhandles, rfl⟩
  | left p | readied p =>
    obtain ⟨id, hhandles⟩ := h
    exact ⟨_, p, hhandles, rfl⟩
  | created => exact absurd rfl hnew
  | windowFired p => exact absurd rfl (hfired p)
  | _ => cases ha

/-- The commands behind an action that changes slots or marks are routed. -/
theorem Cause.not_reseats (h : s.Cause i r a) (hfired : ∀ p, a ≠ .windowFired p)
    (hnot : ∀ command p, s.Handles i command p → command.body.concerns = none) : a.reseats = false ∨ a = .created := by
  by_cases hnew : a = .created
  · exact Or.inr hnew
  · left
    rw [← Bool.not_eq_true]
    intro ha
    obtain ⟨command, p, hhandles, hr⟩ := h.handled ha hnew hfired
    rw [hnot command p hhandles] at hr
    cases hr

/-! ### Frames without a turn -/

/-- A frame that is not routed. -/
theorem handleFrame_calm {frame : RawFrame} {diskFails : Bool}
    (hnot : ∀ rec command, ¬s.Routed (.frame c frame diskFails) c rec command) :
    Calm s (s.handleFrame G c frame diskFails) := by
  have hwritten : WritesOnly Passive s (s.handleFrame G c frame diskFails) :=
    handleFrame_writesOnly fun rec command hrouted => absurd hrouted (hnot rec command)
  rcases handleFrame_cases (G := G) s c frame diskFails with
    ⟨u, code, id, -, hq, -, he⟩ | ⟨hq, -⟩ | ⟨rec, command, hrouted⟩
  · refine ⟨hwritten, fun c' p hacts => Or.inl ?_, fun r room' hroom' => Or.inr ⟨room', ?_, rfl⟩⟩
    · rw [he] at hacts
      rcases sendError_links u c code id with ⟨-, hlinks⟩ | ⟨-, hlinks⟩
      · rw [hlinks.actsFor, actsFor_unregister] at hacts
        split at hacts
        · cases hacts
        · exact hq.links.actsFor c' ▸ hacts
      · exact (hq.links.trans hlinks).actsFor c' ▸ hacts
    · rw [he, (sendError_still (G := G) u c code id).getRoom, hq.getRoom] at hroom'
      exact hroom'
  · refine ⟨hwritten, fun c' p hacts => Or.inl (hq.links.actsFor c' ▸ hacts), fun r room' hroom' => Or.inr ⟨room', ?_, rfl⟩⟩
    exact hq.getRoom r ▸ hroom'
  · exact absurd hrouted (hnot rec command)

/-- An `AUTH` is answered once, whatever the answer. -/
theorem handleAuth_answers (s : Server) (c : ConnectionId) (id : CommandId) (guestToken : Option SessionToken) :
    (s.handleAuth G c id guestToken).threw = false ∧
      ∃ e, (s.handleAuth G c id guestToken).deliveries = [.connection c e] := by
  unfold handleAuth
  rcases unlessCached_cases s id (resend c) _ with ⟨entry, -, he⟩ | ⟨-, he⟩
  · rw [he]
    exact ⟨rfl, _, rfl⟩
  · rw [he]
    split
    · split
      · exact ⟨rfl, _, rfl⟩
      · exact ⟨rfl, _, rfl⟩
    · exact ⟨rfl, _, rfl⟩

/-- What a handler that has not thrown delivers is written. -/
theorem conclude_wire (hfine : result.threw = false) (G : IdSource) (c : ConnectionId) (id : CommandId) :
    (conclude G c id result).wire = result.server.wire ++ result.deliveries.flatMap result.server.delivered := by
  rw [conclude, hfine, if_neg Bool.false_ne_true, deliver_wire]

/-- A connection that is bound to a player has been told so last. -/
theorem Routed.auth_acting {rec : ConnectionRecord} {guestToken : Option SessionToken} {diskFails : Bool}
    {c' : ConnectionId} (hrouted : s.Routed i c rec ⟨id, .auth guestToken⟩)
    (hacts : (conclude G c id ((s.arrived c rec).dispatch G c rec ⟨id, .auth guestToken⟩ diskFails)).actsFor c' = some p) :
    s.actsFor c' = some p ∨
      (conclude G c id ((s.arrived c rec).dispatch G c rec ⟨id, .auth guestToken⟩ diskFails)).known c' = none := by
  have hq := arrived_quiet s c rec
  have hdispatch : (s.arrived c rec).dispatch G c rec ⟨id, .auth guestToken⟩ diskFails =
      bindConnection c ((s.arrived c rec).handleAuth G c id guestToken) := rfl
  have hlinks : Links s ((s.arrived c rec).handleAuth G c id guestToken).server :=
    hq.links.trans (handleAuth_confined G (s.arrived c rec) c id guestToken).links
  obtain ⟨hfine, e, hanswers⟩ := handleAuth_answers (G := G) (s.arrived c rec) c id guestToken
  have hopen : ((s.arrived c rec).handleAuth G c id guestToken).server.connections.get c ≠ none := by
    have hhas := hrouted.arrived_open
    rw [(handleAuth_confined G (s.arrived c rec) c id guestToken).connections]
    intro hnone
    rw [JsMap.has, hnone] at hhas
    cases hhas
  rw [hdispatch] at hacts ⊢
  generalize (s.arrived c rec).handleAuth G c id guestToken = result at hacts hlinks hfine hanswers hopen
  rcases bindConnection_cases c result with he | ⟨c'', token, p', version, room, id', ds, hds, he⟩
  · rw [he] at hacts
    exact Or.inl (((hlinks.trans (conclude_quiet G c id result).links).actsFor c').symm.trans hacts)
  · rw [hanswers] at hds
    obtain ⟨he', -⟩ := List.cons.inj hds
    obtain ⟨-, rfl⟩ := Delivery.connection.inj he'
    have hbound : (bindConnection c result).deliveries = result.deliveries := (bindConnection_relinked c result).deliveries
    by_cases hc : c = c'
    · subst hc
      right
      have hhas : (bindConnection c result).server.connections.has c = true := by
        obtain ⟨connections, registry, hserver, hsame⟩ := (bindConnection_relinked c result).server
        rw [hserver]
        exact (hsame c).trans (Option.isSome_iff_ne_none.mpr hopen)
      have hfine' : (bindConnection c result).threw = false := (bindConnection_relinked c result).threw.trans hfine
      rw [known, conclude_wire hfine', hbound, hanswers, List.flatMap_cons, List.flatMap_nil, List.append_nil, delivered,
        if_pos hhas, told_append, told_cons, if_pos rfl, List.foldl_append]
      rfl
    · left
      have hend := (conclude_quiet G c id (bindConnection c result)).links.actsFor c'
      rw [hacts, he] at hend
      have hsame : ((result.server.authenticate c token p').registerPlayerConnection p' c).actsFor c' =
          (result.server.authenticate c token p').actsFor c' := rfl
      rw [hsame, actsFor_authenticate hopen, if_neg hc, hlinks.actsFor] at hend
      exact hend.symm

/-- `AUTH` without an earlier answer, and `PING`. -/
theorem Routed.calm {rec : ConnectionRecord} {command : Command} {frame : RawFrame} {diskFails : Bool} (hk : s.Keyed)
    (hu : s.Unplayed) (hrouted : s.Routed (.frame c frame diskFails) c rec command)
    (hc : ∀ guestToken, command.body = .auth guestToken → s.cached command.commandId = none)
    (hr : command.body.concerns = none) :
    Calm s (s.handleFrame G c frame diskFails) := by
  obtain ⟨r, a, hacts, hcause⟩ := handleFrame_acts (G := G) hk c frame diskFails
  have hrooms := hacts.same_rosters (hu r) (hcause.not_reseats (fun p he => ?_) fun command' p hhandles => ?_)
  · have hmute : Mute Passive s ((s.arrived c rec).dispatch G c rec command diskFails) :=
      dispatch_mute_of_exempt hc hr diskFails
    rw [handleFrame_routed hrouted] at hrooms ⊢
    refine ⟨hmute.concluded G c command.commandId, fun c' p hacting => ?_, hrooms⟩
    obtain ⟨id, body⟩ := command
    cases body with
    | auth guestToken => exact hrouted.auth_acting hacting
    | ping clientTime =>
      have hlinks : Links s ((s.arrived c rec).dispatch G c rec ⟨id, .ping clientTime⟩ diskFails).server :=
        (arrived_quiet s c rec).links
      exact Or.inl ((hlinks.trans (conclude_quiet G c id _).links).actsFor c' ▸ hacting)
    | _ => cases hr
  · subst he
    obtain ⟨diskFails', he⟩ := hcause
    cases he
  · obtain ⟨c', rec', token, hrouted', -, -⟩ := hhandles
    obtain ⟨-, -, rfl⟩ := hrouted.unique hrouted'
    exact hr

/-! ### Other steps -/

/-- Without a game the sessions tell of presence at most. -/
theorem Unplayed.idle_calls {calls : List SendCall} (hu : s.Unplayed) (hk : s.Keyed) (hi : s.completesPair i = false)
    (h : s.step G i = some t) (hlog : t.sendLog = s.sendLog ++ calls.map (r, ·)) :
    ∀ call ∈ calls, call.event.idle = true := by
  rcases step_acts hk h with ⟨elapsed, -, rfl⟩ | ⟨r', a, hacts, hcause⟩
  · have hnil := List.self_eq_append_right.mp hlog
    rw [List.map_eq_nil_iff.mp hnil]
    exact fun call hcall => absurd hcall List.not_mem_nil
  · obtain ⟨sends, hstep, hsends⟩ := hacts.step
    have hsame := congrArg (List.map Prod.snd) (List.append_cancel_left (hlog.symm.trans hsends))
    simp only [List.map_map, Function.comp_def, List.map_id'] at hsame
    rw [hsame]
    exact (hstep.unplayed_game (hu r') (hacts.not_completes hcause hi)).2

theorem handleClose_connections (s : Server) (c : ConnectionId) :
    (s.handleClose c).connections = s.connections.delete c := by
  unfold handleClose
  split
  · rfl
  · split
    · rfl
    · split
      · rw [unregister, (handleDisconnect_apart _ _).connections]
      · rename_i p _
        obtain ⟨registry, hregistry⟩ := unregisterPlayerConnection_frame s p c
        dsimp only
        split
        · rw [unregister, hregistry]
        · rw [unregister, (handleDisconnect_apart _ _).connections, hregistry]

theorem handleClose_written (hs : s.Attached G) (hk : s.Keyed) (hb : s.Backed) (hu : s.Unplayed) (c : ConnectionId) :
    WritesOnly Passive s (s.handleClose c) := by
  rcases handleClose_letters (Q := Passive) hs hk hb c with hwritten | ⟨r, calls, -, hletters, -⟩
  · exact hwritten
  · have hidle : ∀ call ∈ calls, call.event.idle = true :=
      hu.idle_calls (i := .socketClosed c) (G := G) hk rfl rfl hletters.sendLog
    obtain ⟨u, found, rest, -, -, hwire, hrest⟩ := hletters.wire
    refine ⟨_, hwire, fun entry hentry event hevent => ?_⟩
    rcases List.mem_append.mp hentry with hentry | hentry
    · exact posted_passive hidle entry hentry event hevent
    · rcases hrest with rfl | hrest
      · cases hentry
      · rw [hrest entry hentry] at hevent
        cases hevent

theorem actsFor_delete (hc : t.connections = s.connections.delete c)
    {c' : ConnectionId} (hacts : t.actsFor c' = some p) : s.actsFor c' = some p := by
  rw [actsFor, hc, JsMap.get_delete] at hacts
  split at hacts
  · cases hacts
  · exact hacts

/-- A step that is no frame. -/
theorem step_calm (hs : s.Attached G) (hk : s.Keyed) (hb : s.Backed) (hu : s.Unplayed)
    (hframe : ∀ c frame diskFails, i ≠ .frame c frame diskFails) (h : s.step G i = some t) : Calm s t := by
  have hrooms : ∀ r room', t.getRoom r = some room' →
      (∀ q, ¬room'.Holds q) ∨ ∃ room, s.getRoom r = some room ∧ room'.roster = room.roster := by
    rcases step_acts hk h with ⟨elapsed, -, rfl⟩ | ⟨r, a, hacts, hcause⟩
    · exact fun r room' hroom' => Or.inr ⟨room', getRoom_of_tick hroom', rfl⟩
    · refine hacts.same_rosters (hu r) (hcause.not_reseats (fun p he => ?_) fun command p hhandles => ?_)
      · subst he
        obtain ⟨diskFails, rfl⟩ := hcause
        exact hu.no_window hk h
      · obtain ⟨c, rec, token, hrouted, -, -⟩ := hhandles
        obtain ⟨frame, diskFails, he, -⟩ := hrouted.frame
        exact absurd he (hframe c frame diskFails)
  have hsame : t.wire = s.wire → (∀ c, t.actsFor c = s.actsFor c) → Calm s t := fun hwire hacts =>
    ⟨.of_same hwire, fun c p hc => Or.inl (hacts c ▸ hc), hrooms⟩
  cases i with
  | frame c frame diskFails => exact absurd rfl (hframe c frame diskFails)
  | tick elapsed | createRoom | httpGetRoom r | maintenance =>
    obtain rfl := Option.some.inj h
    exact hsame rfl fun _ => rfl
  | wsPong c =>
    obtain rfl := Option.some.inj h
    exact hsame rfl (touchConnection_quiet s c).links.actsFor
  | connect =>
    obtain rfl := Option.some.inj h
    refine ⟨.of_same rfl, fun c p hacts => Or.inl ?_, hrooms⟩
    rw [actsFor_register] at hacts
    split at hacts
    · cases hacts
    · exact hacts
  | socketClosed c =>
    obtain rfl := Option.some.inj h
    exact ⟨handleClose_written hs hk hb hu c, fun c' p hacts => Or.inl (actsFor_delete (handleClose_connections s c) hacts),
      hrooms⟩
  | authTimeout c =>
    simp only [Server.step, Option.ite_none_right_eq_some, Option.some.injEq] at h
    obtain ⟨-, rfl⟩ := h
    refine ⟨close_writesOnly s c _ fun x hx => Option.some.inj hx ▸ rfl, fun c' p hacts => Or.inl ?_, hrooms⟩
    refine actsFor_delete (c := c) ?_ hacts
    obtain ⟨w, hw⟩ :=
      send_frame s c (.event (makeErrorEvent .AUTH_TIMEOUT (ERROR_META .AUTH_TIMEOUT).summary false none none))
    rw [onAuthTimeout, close, hw]
    rfl
  | idleTimeout c =>
    simp only [Server.step, Option.ite_none_right_eq_some, Option.some.injEq] at h
    obtain ⟨-, rfl⟩ := h
    exact ⟨.of_same rfl, fun c' p hacts => Or.inl (actsFor_delete (c := c) rfl hacts), hrooms⟩
  | reconnectWindow r p diskFails => exact absurd h (hu.no_window hk)
  | rematchTimer r =>
    -- No proposal is pending.
    simp only [Server.step] at h
    split at h
    · rename_i gs room hg hroom
      rw [(hu.session hg).rematch] at h
      cases h
    · cases h

end Server
end TicTacToe

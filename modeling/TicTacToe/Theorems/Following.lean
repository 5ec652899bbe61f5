import TicTacToe.Theorems.Receipts
import TicTacToe.Theorems.Listeners
import TicTacToe.Theorems.Reports

/-! # What an attending client is told

A player attends a room on a connection as long as the player's slot is connected. Whatever a step does to the game of the
room, what it writes to the connection leads from the game as it stood to the game as it stands. -/

namespace TicTacToe

/-! ### Events that do not count -/

theorem learned_same {events : List Event} {v : Standing}
    (h : ∀ event, Event.room event ∈ events → v.hear event.payload = v) : events.foldl Standing.learn v = v := by
  induction events with
  | nil => rfl
  | cons e events ih =>
    have hone : v.learn e = v := by
      cases e with
      | room event => exact h event List.mem_cons_self
      | authAck | pong | error => rfl
    rw [List.foldl_cons, hone]
    exact ih fun event he => h event (List.mem_cons_of_mem _ he)

theorem learned_apart {events : List Event} (h : ∀ event, Event.room event ∈ events → event.payload.apart = true)
    (v : Standing) : events.foldl Standing.learn v = v :=
  learned_same fun event he => Standing.hear_apart (h event he) v

theorem Standing.told_all_apart {calls : List SendCall} (h : SendsOnly RoomPayload.apart calls) (p : PlayerId)
    (v : Standing) :
    v.told p calls = v := by
  unfold Standing.told
  have hentries : ∀ entry ∈ calls.filterMap SendCall.entry, ∀ w, Standing.overhear p w entry = w := by
    intro entry hentry w
    obtain ⟨⟨target, q, event⟩, hcall, he⟩ := List.mem_filterMap.mp hentry
    cases event with
    | room event =>
      obtain rfl := Option.some.inj he
      unfold Standing.overhear
      split
      · exact hear_apart (h _ hcall _ rfl) w
      · rfl
    | authAck | pong | error => cases he
  generalize calls.filterMap SendCall.entry = entries at hentries
  induction entries with
  | nil => rfl
  | cons entry entries ih =>
    rw [List.foldl_cons, hentries entry List.mem_cons_self]
    exact ih fun e he => hentries e (List.mem_cons_of_mem _ he)

/-- The action may change the game of its room. -/
def RoomAction.plays : RoomAction → Bool
  | .left _ => true
  | .leaveThrew _ => true
  | .readied _ => true
  | .moved .. => true
  | .moveThrew .. => true
  | .rematchAccepted .. => true
  | .windowFired _ => true
  | _ => false

theorem RoomAction.emits_apart {a : RoomAction} {x : RoomPayload} (h : a.plays = false) (hx : a.emits x = true) :
    x.apart = true := by
  cases x with
  | gameStarted | moveAck | moveBroadcast | moveRejected | gameFinished =>
    cases a <;> first | exact absurd hx Bool.false_ne_true | exact absurd h.symm Bool.false_ne_true
  | roomJoined | reconnectAck | stateSyncReplay | stateSyncSnapshot => cases hx
  | _ => rfl

/-- No session lets a client into a room. -/
theorem RoomAction.emits_not_admits {a : RoomAction} {x : RoomPayload} (hx : a.emits x = true) : x.admits = false := by
  cases x with
  | roomJoined | reconnectAck => cases hx
  | _ => rfl

/-- A connected player is among the recipients of what is addressed to the player. -/
theorem RoomRecord.mem_recipients {room : RoomRecord} {p : PlayerId} {slot : PlayerSlot}
    (hslot : getSlotByPlayerId room p = some slot) (hconnected : slot.connected = true) (call : SendCall)
    (event : RoomEvent) :
    p ∈ Server.recipients room call ↔ GameSession.addressedTo p ⟨event, call.target, call.playerId⟩ = true := by
  obtain ⟨hp, x, hx⟩ := getSlotByPlayerId_some hslot
  have hmem : slot ∈ [room.playerX, room.playerO].filterMap id := by
    cases x <;> exact List.mem_filterMap.mpr ⟨some slot, by simp [← hx, RoomRecord.slot], rfl⟩
  have hreached : p ∈ (([room.playerX, room.playerO].filterMap id).filter PlayerSlot.connected).map PlayerSlot.playerId :=
    List.mem_map.mpr ⟨slot, List.mem_filter.mpr ⟨hmem, hconnected⟩, hp⟩
  unfold Server.recipients GameSession.addressedTo
  cases call.target with
  | player => simp [eq_comm]
  | broadcast => simpa using hreached
  | others => simp only [List.mem_filter, hreached, true_and, decide_eq_true_eq, ne_comm]

namespace Server
variable {s t : Server} {G : IdSource} {i : Input} {c : ConnectionId} {p : PlayerId} {r : RoomId} {room : RoomRecord}
  {slot : PlayerSlot} {calls : List SendCall} {deliveries : List Delivery}

/-! ### The send function -/

/-- An object that is written to some players, each once. -/
theorem Addressed.told_players (hs : s.Addressed G) (hacts : s.actsFor c = some p) {players : List PlayerId}
    (hn : players.Nodup) (w : WireEvent) :
    told c (players.flatMap fun q => s.mailed q w) = if p ∈ players then w.content.toList else [] := by
  induction players with
  | nil => rfl
  | cons q players ih =>
    obtain ⟨hnot, hrest⟩ := List.nodup_cons.mp hn
    rw [List.flatMap_cons, told_append, ih hrest, hs.told_mailed, hacts]
    by_cases hq : p = q
    · subst hq
      simp [hnot]
    · have hne : ¬some p = some q := fun he => hq (Option.some.inj he)
      simp [hne, hq]

/-- What the calls tell a connected player. -/
theorem Addressed.learned_posted (hs : s.Addressed G) (hacts : s.actsFor c = some p) (hd : room.Distinct)
    (hslot : getSlotByPlayerId room p = some slot) (hconnected : slot.connected = true) (calls : List SendCall)
    (v : Standing) : (told c (calls.flatMap (s.postedIn (some room)))).foldl Standing.learn v = v.told p calls := by
  induction calls generalizing v with
  | nil => rfl
  | cons call calls ih =>
    have hposted : told c (s.postedIn (some room) call) = if p ∈ recipients room call then [call.event] else [] :=
      hs.told_players hacts (RoomRecord.recipients_nodup hd call) (.event call.event)
    have hone : (told c (s.postedIn (some room) call)).foldl Standing.learn v = v.told p [call] := by
      obtain ⟨target, q, event⟩ := call
      rw [hposted]
      cases event with
      | room event =>
        have hmem := RoomRecord.mem_recipients hslot hconnected ⟨target, q, .room event⟩ event
        rw [Standing.told_room, Standing.overhear]
        by_cases hp : p ∈ recipients room ⟨target, q, .room event⟩
        · rw [if_pos hp, if_pos (hmem.mp hp)]
          rfl
        · rw [if_neg hp, if_neg fun ha => hp (hmem.mpr ha)]
          rfl
      | authAck | pong | error => split <;> rfl
    rw [List.flatMap_cons, told_append, List.foldl_append, hone, ih]
    exact (Standing.told_append p v [call] calls).symm

/-! ### Steps beside the games -/

/-- Nothing is written that is about a game, and the games stand as they stood. -/
structure Aside (s t : Server) : Prop where
  written : WritesOnly (fun event => event.payload.apart = true) s t
  standing : ∀ r, t.standing r = s.standing r

/-- An action that leaves the games alone. -/
theorem Acts.standing_kept {a : RoomAction} (h : Acts G s t r a) (ha : a.plays = false) (r' : RoomId) :
    t.standing r' = s.standing r' := by
  obtain ⟨sends, hstep, hlog⟩ := h.step
  have hthrows : a.throws = false := by
    cases a with
    | leaveThrew | moveThrew => cases ha
    | _ => rfl
  rw [← h.tells hthrows hlog r' "", callsOf_sent]
  split
  · refine Standing.told_all_apart (fun call hcall x hx => ?_) "" _
    exact RoomAction.emits_apart ha (hstep.sendsOnly call hcall x hx)
  · rfl

/-- What changes a game is a command about its room, or a reconnect window that fires. -/
theorem Cause.plays {a : RoomAction} (h : s.Cause i r a) (ha : a.plays = true) :
    (∃ command p, s.Handles i command p ∧ command.body.concerns = some r) ∨
      ∃ p diskFails, i = .reconnectWindow r p diskFails := by
  cases a with
  | left p | readied p | rematchAccepted p =>
    obtain ⟨id, hhandles⟩ := h
    exact Or.inl ⟨_, p, hhandles, rfl⟩
  | leaveThrew p =>
    obtain ⟨-, id, hhandles⟩ := h
    exact Or.inl ⟨_, p, hhandles, rfl⟩
  | moved p => exact Or.inl ⟨_, p, h, rfl⟩
  | moveThrew p => exact Or.inl ⟨_, p, h.2, rfl⟩
  | windowFired p =>
    obtain ⟨diskFails, rfl⟩ := h
    exact Or.inr ⟨p, diskFails, rfl⟩
  | _ => cases ha

theorem Aside.of_step (hk : s.Keyed) (h : s.step G i = some t)
    (hw : WritesOnly (fun event => event.payload.apart = true) s t)
    (hnot : ∀ command p, s.Handles i command p → command.body.concerns = none)
    (hwindow : ∀ r p diskFails, i ≠ .reconnectWindow r p diskFails) : Aside s t := by
  refine ⟨hw, fun r' => ?_⟩
  rcases step_acts hk h with ⟨elapsed, -, rfl⟩ | ⟨r, a, hacts, hcause⟩
  · rfl
  · refine hacts.standing_kept (Bool.eq_false_iff.mpr fun ha => ?_) r'
    rcases hcause.plays ha with ⟨command, p, hhandles, hr⟩ | ⟨p, diskFails, rfl⟩
    · rw [hnot command p hhandles] at hr
      cases hr
    · exact hwindow r p diskFails rfl

/-! ### Steps about a game -/

/-- The step has written calls of the send function of room `r`, which finds the room as it was unless they are not about
the game, and then deliveries that are reports, or an error. -/
structure Conveys (s : Server) (r : RoomId) (t : Server) (calls : List SendCall) (deliveries : List Delivery) : Prop where
  sendLog : t.sendLog = s.sendLog ++ calls.map (r, ·)
  wire : ∃ found rest, t.wire = s.wire ++ (calls.flatMap (s.postedIn found) ++ rest) ∧
    (found = s.getRoom r ∨ SendsOnly RoomPayload.apart calls) ∧
    (rest = deliveries.flatMap s.delivered ∨ ∀ entry ∈ rest, entry.2.roomEvent = none)
  reports : ∀ d ∈ deliveries, ∀ event, d.event.roomEvent = some event → t.Reports r event.payload

/-- A command about room `r` that has no earlier answer. -/
theorem Routed.conveys {rec : ConnectionRecord} {command : Command} {frame : RawFrame} {diskFails : Bool}
    (hrouted : s.Routed (.frame c frame diskFails) c rec command) (hs : s.Attached G) (hn : G.NeverRepeats)
    (hi : s.Issuing G) (hr : command.body.concerns = some r) (hc : s.cached command.commandId = none) :
    ∃ calls deliveries, Conveys s r (s.handleFrame G c frame diskFails) calls deliveries := by
  have hq := arrived_quiet s c rec
  obtain ⟨token, session, htoken, hsession, -⟩ := hs.sender hn hi hrouted (concerns_not_exempt hr)
  obtain ⟨session', hsession', -, -⟩ := hq.session_to_some hsession
  obtain ⟨result, hinforms, hdispatch⟩ :=
    dispatch_informs (G := G) hsession' ((hq.cached _).trans hc) htoken hr c diskFails
  obtain ⟨found, calls, hposts, hfound⟩ := hinforms.posts
  obtain ⟨hreach, -, hwire, hlog⟩ := hrouted.posted hs hposts
  have hlink := linked_relinked c rec command.body result
  obtain ⟨connections, registry, hserver, -⟩ := hlink.server
  obtain ⟨w, n, hconclude, hw⟩ := conclude_frame G c command.commandId (linked c rec command.body result)
  rw [hreach.delivered, hlink.deliveries] at hw
  rw [handleFrame_routed hrouted, hdispatch, hconclude]
  refine ⟨calls, result.deliveries, hlog, ⟨found, w, ?_, ?_, hw⟩, fun d hd event hevent => ?_⟩
  · dsimp only
    rw [hwire, List.append_assoc]
  · rwa [hq.getRoom] at hfound
  · refine (hinforms.reports d hd event hevent).of_games ?_
    rw [hserver]

/-- A timer of room `r`. -/
theorem Posts.conveys (h : Posts r (s.getRoom r) s t calls) : Conveys s r t calls [] where
  sendLog := h.sendLog
  wire := ⟨s.getRoom r, [], by rw [h.wire, List.append_nil], Or.inl rfl, Or.inl rfl⟩
  reports d hd := absurd hd List.not_mem_nil

theorem reconnectWindow_conveys {diskFails : Bool} (h : s.step G (.reconnectWindow r p diskFails) = some t) :
    ∃ calls, Conveys s r t calls [] := by
  simp only [step] at h
  split at h
  · cases h
  split at h
  · cases h
  split at h
  · split at h
    · cases h
    rename_i hfired
    rw [← Option.some.inj h]
    unfold fireReconnectWindow at hfired ⊢
    dsimp only at hfired ⊢
    split at hfired
    · exact absurd rfl hfired
    · rename_i hfine
      rw [if_neg hfine]
      exact ⟨_, ((applyEffect_posts rfl _).then_silent (onPlayerLeft_posts _ p)).conveys⟩
  · cases h

theorem rematchTimer_conveys (h : s.step G (.rematchTimer r) = some t) : ∃ calls, Conveys s r t calls [] := by
  simp only [step] at h
  split at h
  · split at h
    · cases h
    · split at h
      · rw [← Option.some.inj h]
        exact ⟨_, (applyEmitted_posts rfl _).conveys⟩
      · cases h
  · cases h

/-! ### The kinds of steps -/

/-- The calls of a step are such as its action makes. -/
theorem step_emits (hk : s.Keyed) (h : s.step G i = some t) (hlog : t.sendLog = s.sendLog ++ calls.map (r, ·)) :
    ∃ r' a, s.Cause i r' a ∧ SendsOnly a.emits calls := by
  rcases step_acts hk h with ⟨elapsed, -, rfl⟩ | ⟨r', a, hacts, hcause⟩
  · have hnil := List.self_eq_append_right.mp hlog
    rw [List.map_eq_nil_iff.mp hnil]
    exact ⟨r, .idle, trivial, .nil⟩
  · obtain ⟨sends, hstep, hsends⟩ := hacts.step
    have hsame := congrArg (List.map Prod.snd) (List.append_cancel_left (hlog.symm.trans hsends))
    simp only [List.map_map, Function.comp_def, List.map_id'] at hsame
    exact ⟨r', a, hcause, hsame ▸ hstep.sendsOnly⟩

/-- What is written for calls carries their events. -/
theorem posted_only {allowed : RoomPayload → Bool} {found : Option RoomRecord} (h : SendsOnly allowed calls) :
    ∀ entry ∈ calls.flatMap (s.postedIn found), ∀ event, entry.2.roomEvent = some event → allowed event.payload = true := by
  rintro ⟨c, w⟩ hentry event hevent
  obtain ⟨⟨target, q, e⟩, hcall, hposted⟩ := List.mem_flatMap.mp hentry
  cases found with
  | none => cases hposted
  | some room =>
    obtain ⟨p, -, hmailed⟩ := List.mem_flatMap.mp hposted
    obtain ⟨rfl, -⟩ := mem_mailed hmailed
    cases e with
    | room e => exact h _ hcall _ (Option.some.inj hevent ▸ rfl)
    | authAck | pong | error => cases hevent

theorem handleClose_aside (hs : s.Attached G) (hk : s.Keyed) (hb : s.Backed) (c : ConnectionId) :
    Aside s (s.handleClose c) := by
  have hstep : s.step G (.socketClosed c) = some (s.handleClose c) := rfl
  have hnot : ∀ command p, s.Handles (.socketClosed c) command p → command.body.concerns = none := by
    rintro command p ⟨c', rec, token, hrouted, -⟩
    obtain ⟨frame, diskFails, he, -⟩ := hrouted.frame
    cases he
  refine .of_step hk hstep ?_ hnot fun r p diskFails he => by cases he
  rcases handleClose_letters (Q := fun event => event.payload.apart = true) hs hk hb c with hw | ⟨r, calls, -, hletters, -⟩
  · exact hw
  · obtain ⟨r', a, hcause, hemits⟩ := step_emits hk hstep hletters.sendLog
    have hplays : a.plays = false := by
      refine Bool.eq_false_iff.mpr fun ha => ?_
      rcases hcause.plays ha with ⟨command, p, hhandles, hr⟩ | ⟨p, diskFails, he⟩
      · rw [hnot command p hhandles] at hr
        cases hr
      · cases he
    obtain ⟨u, found, rest, -, -, hwire, hrest⟩ := hletters.wire
    refine ⟨_, hwire, fun entry hentry event hevent => ?_⟩
    rcases List.mem_append.mp hentry with hentry | hentry
    · have hapart : SendsOnly RoomPayload.apart calls := fun call hcall x hx =>
        RoomAction.emits_apart hplays (hemits call hcall x hx)
      exact posted_only hapart entry hentry event hevent
    · rcases hrest with rfl | hrest
      · cases hentry
      · rw [hrest entry hentry] at hevent
        cases hevent

/-- A frame is no command about a room, or swallowed, or a command that has no earlier answer. -/
theorem handleFrame_kinds {frame : RawFrame} {diskFails : Bool} (hs : s.Attached G) (hn : G.NeverRepeats) (hi : s.Issuing G)
    (hk : s.Keyed) (hagain : s.answeredAgain (.frame c frame diskFails) = false) :
    Aside s (s.handleFrame G c frame diskFails) ∨ ∃ rec command r calls deliveries,
      s.Routed (.frame c frame diskFails) c rec command ∧ command.body.concerns = some r ∧
      s.cached command.commandId = none ∧ Conveys s r (s.handleFrame G c frame diskFails) calls deliveries := by
  have hstep : s.step G (.frame c frame diskFails) = some (s.handleFrame G c frame diskFails) := rfl
  have hwindow : ∀ r p d, Input.frame c frame diskFails ≠ .reconnectWindow r p d := fun r p d he => by cases he
  by_cases hrouted : ∃ rec command, s.Routed (.frame c frame diskFails) c rec command
  · obtain ⟨rec, command, hrouted⟩ := hrouted
    have hone : ∀ command' p, s.Handles (.frame c frame diskFails) command' p →
        command' = command ∧ s.cached command.commandId = none := by
      rintro command' p ⟨c', rec', token, hrouted', -, hprocessed⟩
      obtain ⟨-, -, rfl⟩ := hrouted.unique hrouted'
      exact ⟨rfl, hprocessed.uncached⟩
    cases hr : command.body.concerns with
    | none =>
      refine Or.inl (.of_step hk hstep (handleFrame_writesOnly fun rec' command' hrouted' => ?_) (fun command' p h => ?_)
        hwindow)
      · obtain ⟨-, -, rfl⟩ := hrouted.unique hrouted'
        refine dispatch_mute_of_exempt (fun guestToken he => hrouted.uncached hagain fun _ => ?_) hr diskFails
        rw [he]
        rfl
      · rw [(hone command' p h).1]
        exact hr
    | some r =>
      cases hc : s.cached command.commandId with
      | none =>
        obtain ⟨calls, deliveries, hconveys⟩ := hrouted.conveys hs hn hi hr hc
        exact Or.inr ⟨rec, command, r, calls, deliveries, hrouted, hr, hc, hconveys⟩
      | some entry =>
        -- Only a rematch command is not answered again.
        have hexempt := concerns_not_exempt hr
        obtain ⟨token, session, htoken, -⟩ := hs.sender hn hi hrouted hexempt
        have hrematch : command.body.isRematch = true := by
          by_contra hnot
          have hnone := hrouted.uncached hagain fun e => ?_
          · rw [hc] at hnone
            cases hnone
          · generalize command.body = body at hr hnot
            cases body with
            | ping => cases hr
            | requestRematch | acceptRematch | declineRematch => exact absurd rfl hnot
            | _ => rfl
        have hresent := retry_resent (G := G) hk hrouted hc (fun clientTime he => by rw [he] at hexempt; cases hexempt)
          (fun _ hnone => by rw [htoken] at hnone; cases hnone) hstep
        rw [hrematch, if_pos rfl] at hresent
        refine Or.inl (.of_step hk hstep (.of_same (by simpa using hresent.wire)) (fun command' p h => ?_) hwindow)
        rw [(hone command' p h).2] at hc
        cases hc
  · refine Or.inl (.of_step hk hstep (handleFrame_writesOnly fun rec command h => absurd ⟨rec, command, h⟩ hrouted)
      (fun command p h => ?_) hwindow)
    obtain ⟨c', rec, token, h, -⟩ := h
    obtain ⟨frame', diskFails', he, -⟩ := h.frame
    obtain ⟨rfl, -, -⟩ := Input.frame.inj he
    exact absurd ⟨rec, command, h⟩ hrouted

/-- A step leaves the games alone, or conveys what happens to the game of one room. -/
theorem step_kinds (hs : s.Attached G) (hn : G.NeverRepeats) (hi : s.Issuing G) (hk : s.Keyed) (hb : s.Backed)
    (hagain : s.answeredAgain i = false) (h : s.step G i = some t) :
    Aside s t ∨ ∃ r calls deliveries, s.Concerns i r ∧ Conveys s r t calls deliveries ∧
      ∀ c rec command, s.Routed i c rec command → command.body.concerns = some r ∧ s.cached command.commandId = none := by
  by_cases hframe : ∃ c frame diskFails, i = .frame c frame diskFails
  · obtain ⟨c, frame, diskFails, rfl⟩ := hframe
    obtain rfl := Option.some.inj h
    refine (handleFrame_kinds hs hn hi hk hagain).imp_right ?_
    rintro ⟨rec, command, r, calls, deliveries, hrouted, hr, hc, hconveys⟩
    refine ⟨r, calls, deliveries, Or.inr ⟨?_, hagain⟩, hconveys, fun c' rec' command' hrouted' => ?_⟩
    · obtain ⟨frame', diskFails', he, -, hparse⟩ := hrouted.frame
      obtain ⟨-, rfl, -⟩ := Input.frame.inj he
      simp [Input.concerns, hparse, hr]
    · obtain ⟨-, -, rfl⟩ := hrouted.unique hrouted'
      exact ⟨hr, hc⟩
  have hnone : ∀ c rec command, ¬s.Routed i c rec command := by
    intro c rec command hrouted
    obtain ⟨frame, diskFails, he, -⟩ := hrouted.frame
    exact hframe ⟨c, frame, diskFails, he⟩
  have htimer : ∀ {r calls}, s.Concerns i r → Conveys s r t calls [] → ∃ r calls deliveries, s.Concerns i r ∧
      Conveys s r t calls deliveries ∧ ∀ c rec command, s.Routed i c rec command →
        command.body.concerns = some r ∧ s.cached command.commandId = none :=
    fun hr hconveys => ⟨_, _, [], hr, hconveys, fun c rec command hrouted => absurd hrouted (hnone c rec command)⟩
  have haside : WritesOnly (fun event => event.payload.apart = true) s t →
      (∀ r p diskFails, i ≠ .reconnectWindow r p diskFails) → Aside s t := by
    refine fun hw hwindow => .of_step hk h hw (fun command p hhandles => ?_) hwindow
    obtain ⟨c, rec, token, hrouted, -⟩ := hhandles
    exact absurd hrouted (hnone c rec command)
  cases i with
  | frame c frame diskFails => exact absurd ⟨c, frame, diskFails, rfl⟩ hframe
  | reconnectWindow r p diskFails =>
    obtain ⟨calls, hconveys⟩ := reconnectWindow_conveys h
    exact Or.inr (htimer (Or.inr ⟨rfl, rfl⟩) hconveys)
  | rematchTimer r =>
    obtain ⟨calls, hconveys⟩ := rematchTimer_conveys h
    exact Or.inr (htimer (Or.inl rfl) hconveys)
  | socketClosed c => exact Or.inl (Option.some.inj h ▸ handleClose_aside hs hk hb c)
  | authTimeout c =>
    refine Or.inl (haside ?_ fun r p diskFails he => by cases he)
    simp only [step, Option.ite_none_right_eq_some, Option.some.injEq] at h
    obtain ⟨-, rfl⟩ := h
    exact close_writesOnly s c _ fun x hx => Option.some.inj hx ▸ rfl
  | idleTimeout c =>
    refine Or.inl (haside ?_ fun r p diskFails he => by cases he)
    simp only [step, Option.ite_none_right_eq_some, Option.some.injEq] at h
    obtain ⟨-, rfl⟩ := h
    exact .of_same rfl
  | _ => exact Or.inl (haside (.of_same (Option.some.inj h ▸ rfl)) fun r p diskFails he => by cases he)

/-! ### What a connection is told -/

/-- Room events that a connection is told have been written. -/
theorem told_only {Q : RoomEvent → Prop} {w : List (ConnectionId × WireEvent)}
    (h : ∀ entry ∈ w, ∀ event, entry.2.roomEvent = some event → Q event) (c : ConnectionId) :
    ∀ event, Event.room event ∈ told c w → Q event := fun event he => h _ (mem_told.mp he) event rfl

theorem Aside.tells (h : Aside s t) (c : ConnectionId) : ∃ events, told c t.wire = told c s.wire ++ events ∧
    ∀ event, Event.room event ∈ events → event.payload.apart = true := by
  obtain ⟨w, hw, hapart⟩ := h.written
  exact ⟨told c w, by rw [hw, told_append], told_only hapart c⟩

namespace Conveys

/-- The calls first, and then what tells nothing new. -/
theorem tells (h : Conveys s r t calls deliveries) (ht : t.Retelling) (hb : t.Backed) (c : ConnectionId) : ∃ found rest,
    told c t.wire = told c s.wire ++ (told c (calls.flatMap (s.postedIn found)) ++ rest) ∧
    (found = s.getRoom r ∨ SendsOnly RoomPayload.apart calls) ∧
    ∀ event, Event.room event ∈ rest → (t.standing r).hear event.payload = t.standing r := by
  obtain ⟨found, rest, hwire, hfound, hrest⟩ := h.wire
  refine ⟨found, told c rest, by rw [hwire, told_append, told_append], hfound,
    told_only (fun entry hentry event hevent => ?_) c⟩
  rcases hrest with rfl | hnone
  · obtain ⟨d, hd, hentry⟩ := List.mem_flatMap.mp hentry
    rw [delivered_event hentry] at hevent
    exact (h.reports d hd event hevent).hear ht hb
  · rw [hnone entry hentry] at hevent
    cases hevent

/-- Who attends the room goes with the game. -/
theorem learned (h : Conveys s r t calls deliveries) (ht : t.Retelling) (hb : t.Backed) (hs : s.Addressed G)
    (hacts : s.actsFor c = some p) (hroom : s.getRoom r = some room) (hd : room.Distinct)
    (hslot : getSlotByPlayerId room p = some slot) (hconnected : slot.connected = true)
    (htold : (s.standing r).told p calls = t.standing r) : ∃ events,
    told c t.wire = told c s.wire ++ events ∧ events.foldl Standing.learn (s.standing r) = t.standing r := by
  obtain ⟨found, rest, hevents, hfound, hrest⟩ := h.tells ht hb c
  refine ⟨_, hevents, ?_⟩
  have hcalls : (told c (calls.flatMap (s.postedIn found))).foldl Standing.learn (s.standing r) = t.standing r := by
    rcases hfound with rfl | hapart
    · rw [hroom, hs.learned_posted hacts hd hslot hconnected, htold]
    · rw [learned_apart (told_only (posted_only hapart) c), ← htold, Standing.told_all_apart hapart]
  rw [List.foldl_append, hcalls]
  exact learned_same hrest

/-- Who is let into the room knows the game. -/
theorem admitted {a : RoomAction} (h : Conveys s r t calls deliveries) (ht : t.Retelling) (hb : t.Backed)
    (hemits : SendsOnly a.emits calls) (c : ConnectionId) : ∃ events, told c t.wire = told c s.wire ++ events ∧
    ∀ before event after, events = before ++ Event.room event :: after → event.payload.admits = true →
      ∀ v : Standing, after.foldl Standing.learn (v.hear event.payload) = t.standing r := by
  obtain ⟨found, rest, hevents, -, hrest⟩ := h.tells ht hb c
  refine ⟨_, hevents, fun before event after hsplit hadmits v => ?_⟩
  have hcalls : ∀ e, Event.room e ∈ told c (calls.flatMap (s.postedIn found)) → a.emits e.payload = true :=
    told_only (posted_only hemits) c
  -- The calls let nobody in.
  obtain ⟨before', hrest'⟩ : ∃ before', rest = before' ++ Event.room event :: after := by
    rcases List.append_eq_append_iff.mp hsplit with ⟨between, -, hsame⟩ | ⟨between, hsame, hafter⟩
    · exact ⟨between, hsame⟩
    · cases between with
      | nil => exact ⟨[], by simpa using hafter.symm⟩
      | cons e between =>
        obtain ⟨rfl, -⟩ := List.cons.inj hafter
        have hmem : Event.room event ∈ told c (calls.flatMap (s.postedIn found)) := by simp [hsame]
        rw [RoomAction.emits_not_admits (hcalls event hmem)] at hadmits
        cases hadmits
  subst hrest'
  rw [Standing.hear_admits hadmits v (t.standing r), hrest event (by simp)]
  exact learned_same fun e he => hrest e (by simp [he])

end Conveys

end Server
end TicTacToe

import TicTacToe.Theorems.Associations
import TicTacToe.Theorems.Online

/-! # Absent players

While a game runs in a live room, each of its players is online or has a reconnect window pending, as long as no step
loses a player of whom the handlers of a close would have to take care. -/

namespace TicTacToe

/-- The player's acceptance is the one that is missing for the rematch. -/
def GameSession.lastAccept (gs : GameSession) (room : RoomRecord) (p : PlayerId) (gameId : GameId) : Bool :=
  2 ≤ playerCount room && gs.gameState.any (fun state => state.status = .finished && state.gameId = gameId) &&
    gs.rematch.any fun proposal => (getSymbolForPlayer room p).any fun symbol =>
      (JsSet.add proposal.acceptedBy symbol).length = 2

theorem RoomStep.rematch_started {G : IdSource} {now : Millis} {r : RoomId} {lo hi : Nat} {v v' : RoomView}
    {sends : List SendCall} {p : PlayerId} {gameId : GameId}
    (h : RoomStep G now r lo hi v (.rematchAccepted p gameId) sends v') :
    v'.state = v.state ∨ ∃ gs room, v.game = some gs ∧ v.room = some room ∧ gs.lastAccept room p gameId = true := by
  cases h with
  | @rematchAccepted p room gs gameId unused n hroom hgame hlo hhi =>
    by_cases hlast : gs.lastAccept room p gameId = true
    · exact Or.inr ⟨gs, room, hgame, hroom, hlast⟩
    refine Or.inl ?_
    have hstate : v.state = gs.gameState := by simp [RoomView.state, hgame]
    have hsame : (gs.handleRematchAccept now (unused, G.gameId n) room p gameId).session.gameState = gs.gameState := by
      unfold GameSession.handleRematchAccept
      split
      · rename_i state proposal hs hproposal
        split
        · rfl
        rename_i hguard
        obtain ⟨hfinished, hid⟩ : state.status = .finished ∧ state.gameId = gameId := by simpa using hguard
        split
        · rfl
        rename_i symbol hsymbol
        dsimp only
        split
        · rename_i hboth
          rcases GameSession.startGame_cases { gs with rematch := none } now (G.gameId n) room.resetReady
            (createRematch state unused now).newState.firstTurn with he | ⟨playerX, playerO, hX, hO, -⟩
          · rw [he]
          · have hX' : room.playerX = some playerX := hX
            have hO' : room.playerO = some playerO := hO
            exact absurd (by simp [GameSession.lastAccept, playerCount, hX', hO', hs, hfinished, hid, hproposal, hsymbol,
              hboth]) hlast
        · rfl
      · rfl
    exact hsame.trans hstate.symm

namespace Server
variable {s t u : Server} {r : RoomId} {G : IdSource} {p q : PlayerId} {a : RoomAction} {i : Input}

instance (s : Server) (p : PlayerId) : Decidable (s.Online p) :=
  decidable_of_iff (∃ e ∈ s.connections.entries, e.2.authenticated = true ∧ e.2.playerId = some p) <| by
    constructor
    · rintro ⟨⟨c, rec⟩, he, hauth, hp⟩
      exact ⟨c, rec, (JsMap.mem_entries_iff _).mp he, hauth, hp⟩
    · rintro ⟨c, rec, hrec, hauth, hp⟩
      exact ⟨(c, rec), (JsMap.mem_entries_iff _).mpr hrec, hauth, hp⟩

/-- A slot of the room is held by a player who is not online and for whom no window is pending. -/
def unattended (s : Server) (r : RoomId) (room : RoomRecord) : Bool :=
  [room.playerX, room.playerO].any fun slot => slot.any fun slot =>
    !decide (s.Online slot.playerId) && (s.window r slot.playerId).isNone

/-- The start of a game with such a player. -/
def startsUnattended (s : Server) (i : Input) : Bool :=
  match s.processed i with
  | some (⟨_, .playerReady r⟩, p) => (s.getRoom r).any fun room => room.lastReady p && s.unattended r room
  | some (⟨_, .acceptRematch r gameId⟩, p) => (s.getRoom r).any fun room =>
    (s.gameSessions.get r).any (fun gs => gs.lastAccept room p gameId) && s.unattended r room
  | _ => false

/-- The player plays a game that is running in a live room. -/
def playing (s : Server) (p : PlayerId) : Bool :=
  s.gameSessions.entries.any fun e => (s.getRoom e.1).isSome && e.2.gameState.any fun state =>
    state.status = .active && (p = state.playerX || p = state.playerO)

/-- The socket of the last connection of a playing player closes when the player's session has expired. -/
def closesExpired (s : Server) : Input → Bool
  | .socketClosed c => (s.connections.get c).any fun rec =>
    rec.sessionToken.any (fun token => (s.session token).isNone) && rec.playerId.any fun p =>
      (s.getPlayerConnectionIds p).all (· = c) && s.playing p
  | _ => false

/-- The steps that lose a player. -/
def losesPlayer (G : IdSource) (s : Server) (i : Input) : Bool :=
  s.dropsPlayer i || s.rebinds G i || s.startsUnattended i || s.closesExpired i || s.expiresElsewhere i

/-- The players of the games that run in live rooms are online or have a window pending. -/
def Attended (s : Server) : Prop := ∀ r state q, (s.getRoom r).isSome → s.gameState r = some state →
  state.status = .active → (q = state.playerX ∨ q = state.playerO) → s.Online q ∨ (s.view r).pending q ≠ none

/-- The sender of a processed command is online. -/
theorem Handles.online {command : Command} (hi : s.Issuing G) (hw : s.Wired G) (hn : G.NeverRepeats)
    (h : s.Handles i command p) : s.Online p := by
  obtain ⟨c, rec, token, hrouted, htoken, hp⟩ := h
  obtain ⟨session, hs, rfl⟩ := hp.session
  rcases hw.identity c rec hrouted.connection with hid | ⟨token', q, hid, hissued⟩
  · have hnone : rec.sessionToken = none := congrArg (fun x => x.1) hid
    rw [hnone] at htoken
    cases htoken
  · have htoken' : rec.sessionToken = some token' := congrArg (fun x => x.1) hid
    obtain rfl := Option.some.inj (htoken.symm.trans htoken')
    refine ⟨c, rec, hrouted.connection, congrArg (fun x => x.2.2) hid, ?_⟩
    rw [hi.player hn hissued hs]
    exact congrArg (fun x => x.2.1) hid

theorem playing_of_active {state : GameState} (hlive : (s.getRoom r).isSome) (hstate : s.gameState r = some state)
    (hactive : state.status = .active) (hq : q = state.playerX ∨ q = state.playerO) : s.playing q = true := by
  obtain ⟨gs, hgs, hs⟩ := Option.bind_eq_some_iff.mp hstate
  simp only [playing, List.any_eq_true]
  refine ⟨(r, gs), (JsMap.mem_entries_iff _).mpr hgs, ?_⟩
  simp [hlive, hs, hactive, hq]

/-- The players in the slots of a room that is not unattended. -/
theorem attended_of_slot {room : RoomRecord} {x : PlayerSymbol} (h : s.unattended r room = false)
    (hx : slotHolds (room.slot x) q = true) : s.Online q ∨ (s.view r).pending q ≠ none := by
  obtain ⟨slot, hslot, rfl⟩ := RoomRecord.slotHolds_iff.mp hx
  by_contra hnot
  obtain ⟨hoffline, hnone⟩ := not_or.mp hnot
  have hwindow : s.window r slot.playerId = none := not_not.mp hnone
  have hmem : some slot ∈ [room.playerX, room.playerO] := by
    rw [← hslot]
    cases x <;> simp [RoomRecord.slot]
  have hlost : s.unattended r room = true := by
    simp only [unattended, List.any_eq_true]
    exact ⟨some slot, hmem, by simp [hoffline, hwindow]⟩
  rw [h] at hlost
  cases hlost

/-! ### A close during a game -/

/-- The close of a connection of a playing player, with the player's session valid, leaves another connection or arms
the window. -/
theorem handleClose_attends {c : ConnectionId} {state : GameState} (hs : s.Seats G) (hw : s.Wired G)
    (hset : s.Settled G) (hn : G.NeverRepeats) (hi : s.closesExpired (.socketClosed c) = false)
    (hacting : s.actsFor c = some q) (hlive : (s.getRoom r).isSome) (hstate : s.gameState r = some state)
    (hactive : state.status = .active) (hq : q = state.playerX ∨ q = state.playerO) :
    (∃ c', c' ≠ c ∧ s.actsFor c' = some q) ∨ Acts G s (s.handleClose c) r (.disconnected q) := by
  obtain ⟨rec, hrec, hp⟩ := Option.bind_eq_some_iff.mp hacting
  rcases hw.identity c rec hrec with hid | ⟨token, q', hid, hissued⟩
  · have hnone : rec.playerId = none := congrArg (fun x => x.2.1) hid
    rw [hnone] at hp
    cases hp
  have htoken : rec.sessionToken = some token := congrArg (fun x => x.1) hid
  have hp' : rec.playerId = some q' := congrArg (fun x => x.2.1) hid
  obtain rfl := Option.some.inj (hp.symm.trans hp')
  have hu := unregisterPlayerConnection_still (G := G) s q c
  unfold handleClose
  simp only [hrec, htoken, hp]
  split
  · rename_i hremaining
    obtain ⟨c', hc'⟩ := List.exists_mem_of_ne_nil _ hremaining
    obtain ⟨hin, hne⟩ := mem_unregisterPlayerConnection.mp hc'
    exact Or.inl ⟨c', fun he => hne ⟨rfl, he⟩, hw.registered q c' hin⟩
  rename_i hlast
  have hall : (s.getPlayerConnectionIds q).all (· = c) = true := by
    rw [List.all_eq_true]
    intro c' hc'
    by_contra hne
    have hin : c' ∈ (s.unregisterPlayerConnection q c).getPlayerConnectionIds q :=
      mem_unregisterPlayerConnection.mpr ⟨hc', fun he => hne (by simpa using he.2)⟩
    rw [not_not.mp hlast] at hin
    cases hin
  have hplaying := playing_of_active hlive hstate hactive hq
  obtain ⟨session, hsession⟩ : ∃ session, s.session token = some session := by
    by_contra hnone
    have hnone' : s.session token = none := by
      rw [← Option.not_isSome_iff_eq_none, Option.isSome_iff_exists]
      exact hnone
    rw [show s.closesExpired (.socketClosed c) = true by
      simp [closesExpired, hrec, htoken, hp, hnone', hall, hplaying]] at hi
    cases hi
  have hplayer : session.playerId = q := by
    obtain ⟨stored, hstored, rfl⟩ := Option.map_eq_some_iff.mp hsession
    have hplayer := hs.issuing.player hn hissued hstored
    exact hplayer
  have hholds : (s.view r).Holds q := by
    obtain ⟨room, hroom, hX, hO⟩ := hs.seated r state hstate hactive
    rcases hq with rfl | rfl
    · exact ⟨room, .X, hroom, hX⟩
    · exact ⟨room, .O, hroom, hO⟩
  have hroom := hset.session r token session hlive hsession (hplayer ▸ hholds)
  obtain ⟨found, hfound, hforget⟩ := Option.map_eq_some_iff.mp ((hu.session token).trans hsession)
  have hfoundRoom : found.roomId = some r := (congrArg PlayerSession.roomId hforget).trans hroom
  have hfoundPlayer : found.playerId = q := (congrArg PlayerSession.playerId hforget).trans hplayer
  rcases handleDisconnect_acts (G := G) (s.unregisterPlayerConnection q c) token with
    ⟨-, hgone⟩ | ⟨session', r', room, hsession', hr', -, hacts⟩
  · have hnone := hgone found r hfound hfoundRoom
    rw [hu.getRoom, ← Option.not_isSome_iff_eq_none] at hnone
    exact absurd hlive hnone
  · obtain rfl := Option.some.inj (hfound.symm.trans hsession')
    obtain rfl := Option.some.inj (hfoundRoom.symm.trans hr')
    rw [hfoundPlayer] at hacts
    exact Or.inr ((hu.trans_acts hacts).trans_still (unregister_still _ c))

/-! ### Attended in every run -/

theorem LinkStep.online (h : LinkStep G s i t) (hw : s.Wired G) (hwt : t.Wired G) (hn : G.NeverRepeats)
    (hdrops : s.dropsPlayer i = false) (hrebinds : s.rebinds G i = false) (hq : s.Online q) :
    t.Online q ∨ ∃ c, i = .socketClosed c ∧ s.actsFor c = some q := by
  obtain ⟨c, hacting⟩ := hw.online_iff.mp hq
  rcases h.actsFor hw hn hdrops hrebinds hacting with hkept | hi
  · exact Or.inl (hwt.online_iff.mpr ⟨c, hkept⟩)
  · exact Or.inr ⟨c, hi, hacting⟩

/-- Players online, sessions settled and games attended. -/
structure Attendance (G : IdSource) (s : Server) : Prop where
  seats : s.Seats G
  wired : s.Wired G
  settled : s.Settled G
  attended : s.Attended

namespace Attendance
variable {state : GameState}

theorem online_kept (hs : s.Attendance G) (hn : G.NeverRepeats) (hi : s.losesPlayer G i = false) (h : s.step G i = some t)
    (hlive : (s.getRoom r).isSome) (hstate : s.gameState r = some state) (hactive : state.status = .active)
    (hq : q = state.playerX ∨ q = state.playerO) (honline : s.Online q) :
    t.Online q ∨ (t.view r).pending q ≠ none := by
  simp only [losesPlayer, Bool.or_eq_false_iff] at hi
  obtain ⟨⟨⟨⟨hdrops, hrebinds⟩, -⟩, hexpired⟩, -⟩ := hi
  have hlinks := step_links hs.seats.issuing hs.wired.identity h
  have hnext := nextId_le_step hs.seats.keyed h
  have hwt := hs.wired.step hn hnext hdrops hrebinds hlinks
  rcases hlinks.online hs.wired hwt hn hdrops hrebinds honline with hkept | ⟨c, rfl, hacting⟩
  · exact Or.inl hkept
  obtain rfl : s.handleClose c = t := Option.some.inj h
  rcases handleClose_attends hs.seats hs.wired hs.settled hn hexpired hacting hlive hstate hactive hq with
    ⟨c', hne, hacting'⟩ | hacts
  · refine Or.inl (hwt.online_iff.mpr ⟨c', ?_⟩)
    refine (hlinks.actsFor hs.wired hn hdrops hrebinds hacting').resolve_right fun he => ?_
    exact hne (Input.socketClosed.inj he).symm
  · right
    obtain ⟨sends, hstep, -⟩ := hacts.step
    have hrunning : (s.view r).active = true := RoomView.active_iff.mpr ⟨state, hstate, hactive⟩
    cases hstep.windows q with
    | cleared ha => rcases ha with ha | ha <;> cases ha
    | armed ha hactive harmed =>
      obtain ⟨symbol, harmed⟩ := harmed
      rw [harmed]
      exact Option.some_ne_none _
    | same hback hfired harmed hsame =>
      rw [harmed rfl] at hrunning
      cases hrunning

/-- The players of a game that goes on stay attended. -/
theorem kept (hs : s.Attendance G) (hn : G.NeverRepeats) (hi : s.losesPlayer G i = false) (h : s.step G i = some t)
    (hlive : (s.getRoom r).isSome) (hstate : s.gameState r = some state) (hactive : state.status = .active)
    (hq : q = state.playerX ∨ q = state.playerO) (hrunning : (t.view r).active = true) :
    t.Online q ∨ (t.view r).pending q ≠ none := by
  rcases hs.attended r state q hlive hstate hactive hq with honline | hpending
  · exact hs.online_kept hn hi h hlive hstate hactive hq honline
  rcases step_view hs.seats.keyed h r with hview | ⟨a, hacts, hcause⟩
  · exact Or.inr (hview ▸ hpending)
  obtain ⟨sends, hstep, -⟩ := hacts.step
  cases hstep.windows q with
  | cleared ha =>
    rcases ha with rfl | rfl
    · obtain ⟨id, lastReceivedSeq, hhandles⟩ := hcause
      have honline := hhandles.online hs.seats.issuing hs.wired hn
      exact hs.online_kept hn hi h hlive hstate hactive hq honline
    · rw [hstep.inactive_of_removed (Or.inr rfl)] at hrunning
      cases hrunning
  | armed ha hactive harmed =>
    obtain ⟨symbol, harmed⟩ := harmed
    exact Or.inr (by simp [harmed])
  | same hback hfired harmed hsame => exact Or.inr (hsame ▸ hpending)

/-- The players of a game that starts are attended from before. -/
theorem started {room : RoomRecord} {x : PlayerSymbol} (hs : s.Attendance G) (hn : G.NeverRepeats)
    (hi : s.losesPlayer G i = false) (h : s.step G i = some t) (hacts : Acts G s t r a) (hcause : s.Cause i r a)
    (hstart : (∃ p room, a = .readied p ∧ (s.view r).room = some room ∧ room.lastReady p = true) ∨
      ∃ p gameId gs room, a = .rematchAccepted p gameId ∧ (s.view r).game = some gs ∧ (s.view r).room = some room ∧
        gs.lastAccept room p gameId = true)
    (hroom : (t.view r).room = some room) (hx : slotHolds (room.slot x) q = true) :
    t.Online q ∨ (t.view r).pending q ≠ none := by
  obtain ⟨sends, hstep, -⟩ := hacts.step
  have hquiet : a.onLive = true ∧ a ≠ .created ∧ (∀ p, a ≠ .entered p) ∧ ∃ p command, s.Handles i command p := by
    rcases hstart with ⟨p, room, rfl, -⟩ | ⟨p, gameId, gs, room, rfl, -⟩
    · obtain ⟨id, hhandles⟩ := hcause
      exact ⟨rfl, by simp, by simp, p, _, hhandles⟩
    · obtain ⟨id, hhandles⟩ := hcause
      exact ⟨rfl, by simp, by simp, p, _, hhandles⟩
  obtain ⟨honLive, hcreated, hentered, sender, command, hhandles⟩ := hquiet
  obtain ⟨live, hlive⟩ := Option.isSome_iff_exists.mp (hacts.onLive honLive)
  have hsame : (s.view r).room = some live := view_room_of_getRoom hlive
  have hattended : s.unattended r live = false := by
    simp only [losesPlayer, Bool.or_eq_false_iff] at hi
    obtain ⟨⟨⟨-, hstarts⟩, -⟩, -⟩ := hi
    by_contra hlost
    rcases hstart with ⟨p, room, rfl, hroom, hlast⟩ | ⟨p, gameId, gs, room, rfl, hgame, hroom, hlast⟩
    · obtain ⟨id, hhandles⟩ := hcause
      obtain rfl := Option.some.inj (hroom.symm.trans hsame)
      simp [startsUnattended, hhandles.processed rfl, hlive, hlast, hlost] at hstarts
    · obtain ⟨id, hhandles⟩ := hcause
      obtain rfl := Option.some.inj (hroom.symm.trans hsame)
      have hgs : s.gameSessions.get r = some gs := hgame
      simp [startsUnattended, hhandles.processed rfl, hlive, hgs, hlast, hlost] at hstarts
  obtain ⟨room₀, x₀, hroom₀, hx₀⟩ := (hstep.held (hs.seats.distinct r) hcreated ⟨room, x, hroom, hx⟩).resolve_right
    (hentered q)
  obtain rfl := Option.some.inj (hroom₀.symm.trans hsame)
  rcases attended_of_slot hattended hx₀ with honline | hpending
  · simp only [losesPlayer, Bool.or_eq_false_iff] at hi
    obtain ⟨⟨⟨⟨hdrops, hrebinds⟩, -⟩, -⟩, -⟩ := hi
    have hlinks := step_links hs.seats.issuing hs.wired.identity h
    have hwt := hs.wired.step hn hacts.nextId hdrops hrebinds hlinks
    refine (hlinks.online hs.wired hwt hn hdrops hrebinds honline).imp id fun hclosed => ?_
    obtain ⟨c, rfl, -⟩ := hclosed
    obtain ⟨_, _, _, hrouted, -⟩ := hhandles
    obtain ⟨_, _, hframe, -⟩ := hrouted.frame
    cases hframe
  · right
    cases hstep.windows q with
    | cleared ha => rcases hstart with ⟨p, _, rfl, -⟩ | ⟨p, _, _, _, rfl, -⟩ <;> rcases ha with ha | ha <;> cases ha
    | armed ha => rcases hstart with ⟨p, _, rfl, -⟩ | ⟨p, _, _, _, rfl, -⟩ <;> cases ha
    | same hback hfired harmed hkept => exact hkept ▸ hpending

theorem step (hs : s.Attendance G) (hn : G.NeverRepeats) (hi : s.losesPlayer G i = false) (h : s.step G i = some t) :
    t.Attendance G := by
  have hflags := hi
  simp only [losesPlayer, Bool.or_eq_false_iff] at hflags
  obtain ⟨⟨⟨⟨hdrops, hrebinds⟩, -⟩, -⟩, helsewhere⟩ := hflags
  have hlinks := step_links hs.seats.issuing hs.wired.identity h
  have hsteps := step_acts hs.seats.keyed h
  have hnext := nextId_le_step hs.seats.keyed h
  refine ⟨hs.seats.step hn h, hs.wired.step hn hnext hdrops hrebinds hlinks, hs.settled.step hs.seats hn helsewhere h,
    fun r state' q hlive hstate' hactive' hq => ?_⟩
  have hrunning : (t.view r).active = true := RoomView.active_iff.mpr ⟨state', hstate', hactive'⟩
  -- The room has been live before, since a new room has no game.
  have hlive₀ : (s.getRoom r).isSome := by
    rcases hsteps with ⟨elapsed, -, rfl⟩ | ⟨r₀, a, hacts, -⟩
    · obtain ⟨room, hroom⟩ := Option.isSome_iff_exists.mp hlive
      exact Option.isSome_of_eq_some (getRoom_of_tick hroom)
    · rcases hacts.alive r with ⟨rfl, rfl⟩ | hsame
      · obtain ⟨-, hgame⟩ := hs.seats.created_fresh hn hacts
        obtain ⟨sends, hstep, -⟩ := hacts.step
        have hnew : (t.view r).game = none := by
          generalize t.view r = v' at hstep
          cases hstep with
          | created => exact hgame
        obtain ⟨gs, hgs, -⟩ := Option.bind_eq_some_iff.mp hstate'
        rw [show t.gameSessions.get r = none from hnew] at hgs
        cases hgs
      · exact hsame ▸ hlive
  rcases step_game hs.seats.keyed h r with hview | ⟨a, sends, hacts, hcause, -, hgame⟩
  · have hstate : s.gameState r = some state' := (congrArg RoomView.state hview).symm.trans hstate'
    exact hs.kept hn hi h hlive₀ hstate hactive' hq hrunning
  cases hgame with
  | same hsame => exact hs.kept hn hi h hlive₀ (hsame.symm.trans hstate') hactive' hq hrunning
  | moved ha hstate hmove hmoved =>
    obtain rfl := Option.some.inj (hmoved.symm.trans hstate')
    have hq' := hq
    rw [hmove.playerX, hmove.playerO] at hq'
    exact hs.kept hn hi h hlive₀ hstate hmove.active hq' hrunning
  | ended hend hstate hactive hnew | failed hend hstate hactive hnew =>
    obtain rfl := Option.some.inj (hnew.symm.trans hstate')
    rw [hend.fields.2.2.2.1] at hactive'
    cases hactive'
  | @started gs n room playerX playerO firstTurn hstart hlo hhi hroom hX hO hnew =>
    obtain rfl := Option.some.inj (hnew.symm.trans hstate')
    obtain ⟨x, hx⟩ : ∃ x, slotHolds (room.slot x) q = true := by
      rcases hq with rfl | rfl
      · exact ⟨.X, RoomRecord.slotHolds_iff.mpr ⟨playerX, hX, rfl⟩⟩
      · exact ⟨.O, RoomRecord.slotHolds_iff.mpr ⟨playerO, hO, rfl⟩⟩
    rcases hstart with hready | ⟨⟨p, gameId, rfl⟩, state, hstate, hfinished⟩
    · exact hs.started hn hi h hacts hcause (Or.inl hready) hroom hx
    · obtain ⟨sends', hstep, -⟩ := hacts.step
      rcases hstep.rematch_started with hsame | ⟨gs', room', hgame, hroom', hlast⟩
      · -- The old game has finished.
        obtain rfl := Option.some.inj (hstate'.symm.trans (hsame.trans hstate))
        rw [hfinished] at hactive'
        cases hactive'
      · exact hs.started hn hi h hacts hcause (Or.inr ⟨p, gameId, gs', room', rfl, hgame, hroom', hlast⟩) hroom hx

end Attendance

end Server

open Server in
/-- In a run that loses no player, every player of a game that runs in a live room who has no open authenticated
connection has a reconnect window pending. -/
theorem absent_player_has_window {G : IdSource} (hn : G.NeverRepeats) {now : Millis} {version : String}
    {repository : HistoryRepository} {s : Server}
    (hrun : Runs G (fun s i => s.losesPlayer G i = false) (start now version repository) s) {r : RoomId}
    {state : GameState} {q : PlayerId} (hlive : (s.getRoom r).isSome) (hstate : s.gameState r = some state)
    (hactive : state.status = .active) (hq : q = state.playerX ∨ q = state.playerO) (hoffline : ¬ s.Online q) :
    ∃ gs timer, s.gameSessions.get r = some gs ∧ gs.reconnectTimers.get q = some timer := by
  have hs : s.Attendance G := by
    refine hrun.invariant (P := fun s => s.Attendance G) ⟨start_seats now version repository,
      start_wired now version repository, start_settled now version repository, fun r state q hlive => ?_⟩
      fun s t i hs hi hstep => hs.step hn hi hstep
    simp [getRoom, start, RoomStore.empty, RoomStore.getRoom, JsMap.lookup] at hlive
  have hpending := (hs.attended r state q hlive hstate hactive hq).resolve_left hoffline
  obtain ⟨timer, htimer⟩ := Option.ne_none_iff_exists'.mp hpending
  obtain ⟨gs, hgs, hget⟩ := Option.bind_eq_some_iff.mp htimer
  exact ⟨gs, timer, hgs, hget⟩

open Server

/-- Player 1 of the opening's game loses the connection. -/
theorem absent_player_has_window_opening : ∃ s gs timer,
    Runs tallies (fun s i => s.losesPlayer tallies i = false) fresh s ∧ ¬ s.Online (tally 'p' 1) ∧
      s.gameSessions.get (tally 'r' 4) = some gs ∧ gs.reconnectTimers.get (tally 'p' 1) = some timer := by
  have hcheck : (Transition.run (step tallies) (fun s i => !s.losesPlayer tallies i) fresh
      (opening ++ [.socketClosed (tally 'c' 0)])).any (fun s => (s.getRoom (tally 'r' 4)).isSome &&
        (s.gameState (tally 'r' 4)).any (fun state => state.status = .active && tally 'p' 1 = state.playerX) &&
        !decide (s.Online (tally 'p' 1))) = true := by decide +kernel
  obtain ⟨s, hrun, hs⟩ := Transition.exists_run (C := fun s i => s.losesPlayer tallies i = false)
    (fun s i h => by simpa using h) hcheck
  simp only [Bool.and_eq_true, Option.any_eq_true, decide_eq_true_eq, Bool.not_eq_eq_eq_not, Bool.not_true,
    decide_eq_false_iff_not] at hs
  obtain ⟨⟨hlive, state, hstate, hactive, hplayer⟩, hoffline⟩ := hs
  obtain ⟨gs, timer, hgs, htimer⟩ := absent_player_has_window tallies_neverRepeats hrun hlive hstate hactive
    (Or.inl hplayer) hoffline
  exact ⟨s, gs, timer, hrun, hoffline, hgs, htimer⟩

/-- The idle timeout of player 1's connection closes it without telling the room. -/
theorem idle_player_stalls_game : ∃ s state gs, Runs tallies (fun _ _ => True) fresh s ∧
    (s.getRoom (tally 'r' 4)).isSome ∧ s.gameState (tally 'r' 4) = some state ∧ state.status = .active ∧
    state.playerX = tally 'p' 1 ∧ ¬ s.Online (tally 'p' 1) ∧ s.gameSessions.get (tally 'r' 4) = some gs ∧
    gs.reconnectTimers.get (tally 'p' 1) = none := by
  have hcheck : (Transition.run (step tallies) (fun _ _ => true) fresh
      (opening ++ [.tick 90000, .idleTimeout (tally 'c' 0)])).any (fun s => (s.getRoom (tally 'r' 4)).isSome &&
        (s.gameState (tally 'r' 4)).any (fun state => state.status = .active && state.playerX = tally 'p' 1) &&
        !decide (s.Online (tally 'p' 1)) &&
        (s.gameSessions.get (tally 'r' 4)).any fun gs => (gs.reconnectTimers.get (tally 'p' 1)).isNone) = true := by
    decide +kernel
  obtain ⟨s, hrun, hs⟩ := Transition.exists_run (C := fun _ _ => True) (fun _ _ _ => trivial) hcheck
  simp only [Bool.and_eq_true, Option.any_eq_true, decide_eq_true_eq, Bool.not_eq_eq_eq_not, Bool.not_true,
    decide_eq_false_iff_not, Option.isNone_iff_eq_none] at hs
  obtain ⟨⟨⟨hlive, state, hstate, hactive, hplayer⟩, hoffline⟩, gs, hgs, hnone⟩ := hs
  exact ⟨s, state, gs, hrun, hlive, hstate, hactive, hplayer, hoffline, hgs, hnone⟩

end TicTacToe

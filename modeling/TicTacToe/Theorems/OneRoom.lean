import TicTacToe.Theorems.Associations
import TicTacToe.Theorems.Processing

/-! # One player, one room

The room of a player's session says where the player's slot is, as long as no reconnect window of an earlier room
clears it. Then no player gets a second slot. -/

namespace TicTacToe

/-- The room that an input is about, if it is a command or the end of a reconnect window. -/
def Input.concerns : Input → Option RoomId
  | .frame _ received _ =>
    match received.parseResult with
    | .ok command => command.body.concerns
    | .error _ => none
  | .reconnectWindow roomId _ _ => some roomId
  | _ => none

/-- A commanded action is done to the room that its command names. -/
theorem RoomAction.Commanded.concerns {a : RoomAction} {command : Command} {p : PlayerId} {diskFails : Bool}
    {r : RoomId} (h : a.Commanded (fun cmd q => cmd = command ∧ q = p) diskFails r) (ha : a ≠ .idle) :
    command.body.concerns = some r := by
  cases a with
  | idle => exact absurd rfl ha
  | rejoined q | entered q | reconnected q =>
    obtain ⟨id, x, rfl, -⟩ := h
    rfl
  | left q | readied q | rematchRequested q gameId | rematchAccepted q gameId | rematchDeclined q gameId =>
    obtain ⟨id, rfl, -⟩ := h
    rfl
  | leaveThrew q =>
    obtain ⟨-, id, rfl, -⟩ := h
    rfl
  | moved q id gameId position =>
    obtain ⟨rfl, -⟩ := h
    rfl
  | moveThrew q id gameId position =>
    obtain ⟨-, rfl, -⟩ := h
    rfl
  | created | disconnected | windowFired | rematchFired => exact h.elim

namespace Server
variable {s t : Server} {G : IdSource} {i : Input} {r r' : RoomId} {a : RoomAction} {p : PlayerId}
  {token : SessionToken} {session : PlayerSession}

/-- A window of a room expires whose player's session is associated with another room. -/
def expiresAway (s : Server) : Input → Bool
  | .reconnectWindow r p _ => s.sessions.sessions.entries.any fun e =>
    e.2.playerId = p && (s.getSession e.1).isSome && e.2.roomId.any (· ≠ r)
  | _ => false

theorem expiresAway_of_session {diskFails : Bool} (hr : r' ≠ r) (h : s.HasSession p (some r')) :
    s.expiresAway (.reconnectWindow r p diskFails) = true := by
  obtain ⟨token, session, hs, rfl, hroom⟩ := h
  obtain ⟨stored, hstored, rfl⟩ := Option.map_eq_some_iff.mp hs
  have hget := (JsMap.lookup_eq_some.mp hstored).1
  have hroom' : stored.roomId = some r' := hroom
  simp only [expiresAway, List.any_eq_true]
  exact ⟨(token, stored), (JsMap.mem_entries_iff _).mpr hget, by simp [hstored, hroom', hr, PlayerSession.forgetSeen]⟩

/-- What a frame other than `AUTH` and `PING` does. -/
theorem frame_acts {c : ConnectionId} {frame : RawFrame} {diskFails : Bool} {command : Command} (hk : s.Keyed)
    (hparse : frame.parseResult = .ok command) (hbody : isAuthExempt command.body = false)
    (hstep : s.step G (.frame c frame diskFails) = some t) :
    Still G s t ∨ ∃ p r a, a ≠ .idle ∧ Acts G s t r a ∧
      a.Commanded (fun cmd q => cmd = command ∧ q = p) diskFails r := by
  have ht : s.handleFrame G c frame diskFails = t := Option.some.inj hstep
  rcases handleFrame_cases (G := G) s c frame diskFails with
    ⟨u, code, id, -, hq, -, he⟩ | ⟨hq, -⟩ | ⟨rec, command', hrouted⟩
  · rw [← ht, he]
    exact Or.inl (hq.still.trans (sendError_still u c code id))
  · exact Or.inl (ht ▸ hq.still)
  obtain ⟨frame', diskFails', hi, -, hparse'⟩ := hrouted.frame
  obtain ⟨-, rfl, rfl⟩ := Input.frame.inj hi
  obtain rfl := Except.ok.inj (hparse.symm.trans hparse')
  cases htoken : rec.sessionToken with
  | none =>
    have hq := arrived_quiet s c rec
    rw [← ht, handleFrame_routed hrouted, dispatch_unbound htoken hbody]
    exact Or.inl (hq.still.trans (conclude_quiet G c command.commandId ((s.arrived c rec).ok [])).still)
  | some token =>
    refine (hrouted.acts hk htoken hbody hstep).imp id ?_
    rintro ⟨p, r, a, -, hne, hacts, hcommanded⟩
    exact ⟨p, r, a, hne, hacts, hcommanded⟩

/-! ### The invariant -/

/-- Sessions are settled, and no player holds slots of two live rooms. -/
structure Single (G : IdSource) (s : Server) : Prop where
  seats : s.Seats G
  settled : s.Settled G
  once : ∀ r r' p, (s.getRoom r).isSome → (s.getRoom r').isSome → (s.view r).Holds p → (s.view r').Holds p → r = r'

namespace Single

/-- Who enters a room holds no slot of another. -/
theorem entered (hs : s.Single G) (hn : G.NeverRepeats) (h : Acts G s t r (.entered p)) (hlive : (s.getRoom r').isSome)
    (hp : (s.view r').Holds p) : r' = r := by
  obtain ⟨hhas, -⟩ := h.session hn hs.seats.issuing
  rcases hhas with ⟨token, session, hsession, rfl, hroom⟩ | ⟨token, session, hsession, rfl, hroom⟩
  · have hr' := hs.settled.session r' token session hlive hsession hp
    rw [hroom] at hr'
    cases hr'
  · have hr' := hs.settled.session r' token session hlive hsession hp
    exact Option.some.inj (hr'.symm.trans hroom)

theorem acts (hs : s.Single G) (hn : G.NeverRepeats) (h : Acts G s t r a) (hkt : t.Keyed)
    (haway : ∀ p r', a = .windowFired p → r' ≠ r → ¬ s.HasSession p (some r')) : t.Single G := by
  obtain ⟨sends, hstep, -⟩ := h.step
  -- A slot held in a live room of `t` was held before, or has just been taken.
  have hbefore : ∀ r' p, (t.getRoom r').isSome → (t.view r').Holds p →
      (s.getRoom r').isSome ∧ ((s.view r').Holds p ∨ r' = r ∧ a = .entered p) := by
    intro r' p hlive hp
    rcases h.alive r' with ⟨rfl, rfl⟩ | halive
    · exact absurd hp hstep.created_not_held
    exact ⟨halive ▸ hlive, h.held hs.seats hp⟩
  refine ⟨hs.seats.acts hn h hkt, hs.settled.acts hs.seats hn h fun p r' ha hr _ _ => haway p r' ha hr,
    fun r₁ r₂ p hlive₁ hlive₂ hp₁ hp₂ => ?_⟩
  obtain ⟨hlive₁', hold₁ | ⟨rfl, rfl⟩⟩ := hbefore r₁ p hlive₁ hp₁
  · obtain ⟨hlive₂', hold₂ | ⟨rfl, rfl⟩⟩ := hbefore r₂ p hlive₂ hp₂
    · exact hs.once r₁ r₂ p hlive₁' hlive₂' hold₁ hold₂
    · exact hs.entered hn h hlive₁' hold₁
  · obtain ⟨hlive₂', hold₂ | ⟨rfl, -⟩⟩ := hbefore r₂ p hlive₂ hp₂
    · exact (hs.entered hn h hlive₂' hold₂).symm
    · rfl

theorem step (hs : s.Single G) (hn : G.NeverRepeats) (hi : s.expiresAway i = false) (h : s.step G i = some t) :
    t.Single G := by
  have hkt : t.Keyed := hs.seats.keyed.step h
  rcases step_acts hs.seats.keyed h with ⟨elapsed, rfl, rfl⟩ | ⟨r, a, hacts, hcause⟩
  · refine ⟨hs.seats.step hn h, hs.settled.step hs.seats hn rfl h, fun r r' p hlive hlive' hp hp' => ?_⟩
    obtain ⟨room, hroom⟩ := Option.isSome_iff_exists.mp hlive
    obtain ⟨room', hroom'⟩ := Option.isSome_iff_exists.mp hlive'
    exact hs.once r r' p (Option.isSome_of_eq_some (getRoom_of_tick hroom))
      (Option.isSome_of_eq_some (getRoom_of_tick hroom')) hp hp'
  · refine hs.acts hn hacts hkt fun p r' ha hr hsession => ?_
    subst ha
    obtain ⟨diskFails, rfl⟩ := hcause
    rw [expiresAway_of_session hr hsession] at hi
    cases hi

/-- The room of the session of a player who holds a slot. -/
theorem room_of_holds (hs : s.Single G) (hlive : (s.getRoom r).isSome) (hp : (s.view r).Holds p)
    (hsession : s.session token = some session) (hplayer : session.playerId = p) : session.roomId = some r :=
  hs.settled.session r token session hlive hsession (hplayer ▸ hp)

/-- A player has one session. -/
theorem session_unique (hs : s.Single G) (hn : G.NeverRepeats) {x : Option RoomId} (h : s.HasSession p x)
    (hsession : s.session token = some session) (hp : session.playerId = p) : session.roomId = x := by
  obtain ⟨token', session', hs', hp', rfl⟩ := h
  obtain ⟨stored, hstored, rfl⟩ := Option.map_eq_some_iff.mp hsession
  obtain ⟨stored', hstored', rfl⟩ := Option.map_eq_some_iff.mp hs'
  have htoken : token = token' := hs.seats.issuing.token_unique hn (JsMap.lookup_eq_some.mp hstored).1
    (JsMap.lookup_eq_some.mp hstored').1 (hp.trans hp'.symm)
  subst htoken
  obtain rfl := Option.some.inj (hstored.symm.trans hstored')
  rfl

/-- What is done to room `r` leaves the sessions that are associated with another room. -/
theorem associated (hs : s.Single G) (hn : G.NeverRepeats) (h : Acts G s t r a) (ha : a ≠ .idle)
    (haway : ∀ p r', a = .windowFired p → r' ≠ r → ¬ s.HasSession p (some r'))
    (hsession : s.session token = some session) (hroom : session.roomId = some r') (hr : r' ≠ r) :
    ∃ session', t.session token = some session' ∧ session'.roomId = some r' := by
  obtain ⟨sends, hstep, -⟩ := h.step
  have hsame : (∀ token, t.session token = s.session token) →
      ∃ session', t.session token = some session' ∧ session'.roomId = some r' := fun h =>
    ⟨session, (h token).trans hsession, hroom⟩
  -- The session is not the one whose room is set.
  have hset : ∀ {p x}, SetRoom s t p x → session.playerId ≠ p →
      ∃ session', t.session token = some session' ∧ session'.roomId = some r' := by
    intro p x h hne
    refine ⟨_, by rw [h token, hsession, Option.map_some], ?_⟩
    simpa [hne] using hroom
  have hheld : ∀ p, a = .left p ∨ a = .reconnected p → session.playerId ≠ p := by
    intro p ha hp
    have hlive : (s.getRoom r).isSome := h.onLive (by rcases ha with rfl | rfl <;> rfl)
    have hr' := hs.room_of_holds hlive (hstep.holds_of_presence ha) hsession hp
    exact hr (Option.some.inj (hroom.symm.trans hr'))
  have hstepped := h.session hn hs.seats.issuing
  cases a with
  | idle => exact absurd rfl ha
  | entered p =>
    refine hset hstepped.2 fun hp => ?_
    rcases hstepped.1 with hnone | hsome
    · have hx := hs.session_unique hn hnone hsession hp
      rw [hroom] at hx
      cases hx
    · exact hr (Option.some.inj (hroom.symm.trans (hs.session_unique hn hsome hsession hp)))
  | reconnected p => exact hset hstepped (hheld p (Or.inr rfl))
  | left p => exact hset hstepped (hheld p (Or.inl rfl))
  | windowFired p =>
    exact hset hstepped.1 fun hp => haway p r' rfl hr ⟨token, session, hsession, hp, hroom⟩
  | disconnected p => exact hsame hstepped.2
  | _ => exact hsame hstepped

/-- A command or a window of room `r` leaves the sessions that are associated with another room. -/
theorem association_kept (hs : s.Single G) (hn : G.NeverRepeats) (hi : s.expiresAway i = false)
    (h : s.step G i = some t) (hconcerns : i.concerns = some r) (hsession : s.session token = some session)
    (hroom : session.roomId = some r') (hr : r' ≠ r) :
    ∃ session', t.session token = some session' ∧ session'.roomId = some r' := by
  cases i with
  | frame c frame diskFails =>
    unfold Input.concerns at hconcerns
    dsimp only at hconcerns
    split at hconcerns
    · rename_i command hparse
      rcases frame_acts hs.seats.keyed hparse (concerns_not_exempt hconcerns) h with
        hstill | ⟨p, r₀, a, hne, hacts, hcommanded⟩
      · exact ⟨session, (hstill.session token).trans hsession, hroom⟩
      · obtain rfl := Option.some.inj (hconcerns.symm.trans (hcommanded.concerns hne))
        refine hs.associated hn hacts hne (fun p r' ha => ?_) hsession hroom hr
        subst ha
        exact hcommanded.elim
    · cases hconcerns
  | reconnectWindow r₀ p diskFails =>
    obtain rfl : r₀ = r := Option.some.inj hconcerns
    refine hs.associated hn (reconnectWindow_acts hs.seats.keyed h) (by simp) (fun q r' ha hr' haway => ?_) hsession
      hroom hr
    obtain rfl := RoomAction.windowFired.inj ha
    rw [expiresAway_of_session hr' haway] at hi
    cases hi
  | _ => cases hconcerns

end Single

end Server

open Server

/-! ### One player, one room -/

section OneRoom
variable {G : IdSource} {s : Server}

/-- As long as no window of a room expires whose player's session is associated with another room, no player has two
slots in live rooms, the session of a player with a slot is associated with the slot's room, and no command and no
window of a room changes the association of a player with another room. -/
theorem one_player_one_room (hn : G.NeverRepeats) {now : Millis} {version : String} {repository : HistoryRepository}
    (hrun : Runs G (fun s i => s.expiresAway i = false) (start now version repository) s) :
    (∀ p r r' x x' room room', s.getRoom r = some room → s.getRoom r' = some room' → slotHolds (room.slot x) p = true →
      slotHolds (room'.slot x') p = true → r = r' ∧ x = x') ∧
    (∀ r x room token session, s.getRoom r = some room → s.getSession token = some session →
      slotHolds (room.slot x) session.playerId = true → session.roomId = some r) ∧
    ∀ i t r r' token session, s.expiresAway i = false → s.step G i = some t → i.concerns = some r →
      s.getSession token = some session → session.roomId = some r' → r' ≠ r →
      ∃ session', t.getSession token = some session' ∧ session'.roomId = some r' := by
  have hs : s.Single G := hrun.invariant (P := fun s => s.Single G)
    ⟨start_seats now version repository, start_settled now version repository, fun r r' p hlive => by
      simp [start, getRoom, RoomStore.empty, RoomStore.getRoom, JsMap.lookup] at hlive⟩
    fun _ _ _ hs hi hstep => hs.step hn hi hstep
  have hsession : ∀ {token session}, s.getSession token = some session →
      s.session token = some session.forgetSeen := fun h => by rw [session, h, Option.map_some]
  refine ⟨fun p r r' x x' room room' hroom hroom' hx hx' => ?_, fun r x room token session hroom hget hx => ?_,
    fun i t r r' token session hi hstep hconcerns hget hr hne => ?_⟩
  · have hview := view_room_of_getRoom hroom
    obtain rfl := hs.once r r' p (Option.isSome_of_eq_some hroom) (Option.isSome_of_eq_some hroom')
      ⟨room, x, hview, hx⟩ ⟨room', x', view_room_of_getRoom hroom', hx'⟩
    obtain rfl := Option.some.inj (hroom.symm.trans hroom')
    have hd := hs.seats.distinct r room hview
    have hsymbol := RoomRecord.getSymbolForPlayer_of_slot hd hx
    exact ⟨rfl, Option.some.inj (hsymbol.symm.trans (RoomRecord.getSymbolForPlayer_of_slot hd hx'))⟩
  · have hheld : (s.view r).Holds session.playerId := ⟨room, x, view_room_of_getRoom hroom, hx⟩
    have hr := hs.settled.session r token _ (Option.isSome_of_eq_some hroom) (hsession hget) hheld
    exact hr
  · obtain ⟨session', hsession', hr'⟩ := hs.association_kept hn hi hstep hconcerns (hsession hget) hr hne
    obtain ⟨stored, hstored, rfl⟩ := Option.map_eq_some_iff.mp hsession'
    exact ⟨stored, hstored, hr'⟩

end OneRoom

/-- Players 1 and 3 are in room 4 and in no other, and player 1 asks there for its state. -/
theorem one_player_one_room_opening : ∃ s t room session, Runs tallies (fun s i => s.expiresAway i = false) fresh s ∧
    s.getRoom (tally 'r' 4) = some room ∧ s.getSession (tally 't' 1) = some session ∧
    slotHolds (room.slot .X) session.playerId = true ∧ session.roomId = some (tally 'r' 4) ∧
    (∀ r room', s.getRoom r = some room' → ∀ x, slotHolds (room'.slot x) session.playerId = true → r = tally 'r' 4) ∧
    s.step tallies (asks 0 "sync1" (.syncRequest (tally 'r' 4) 0)) = some t ∧
    ∀ token session r, s.getSession token = some session → session.roomId = some r → r ≠ tally 'r' 4 →
      ∃ session', t.getSession token = some session' ∧ session'.roomId = some r := by
  have hcheck : (Transition.run (step tallies) (fun s i => !s.expiresAway i) fresh opening).any (fun s =>
      (s.getRoom (tally 'r' 4)).any fun room => (s.getSession (tally 't' 1)).any fun session =>
        slotHolds (room.slot .X) session.playerId) = true := by decide +kernel
  obtain ⟨s, hrun, hs⟩ := Transition.exists_run (C := fun s i => s.expiresAway i = false)
    (fun s i h => by simpa using h) hcheck
  simp only [Option.any_eq_true] at hs
  obtain ⟨room, hroom, session, hsession, hx⟩ := hs
  obtain ⟨honce, hassociated, hkept⟩ := one_player_one_room tallies_neverRepeats hrun
  exact ⟨s, _, room, session, hrun, hroom, hsession, hx, hassociated _ _ _ _ _ hroom hsession hx,
    fun r room' hroom' x hx' => (honce _ _ _ _ _ _ _ hroom' hroom hx' hx).1, rfl,
    fun token session r => hkept (asks 0 "sync1" (.syncRequest (tally 'r' 4) 0)) _ _ r token session rfl rfl rfl⟩

/-- Player 1 loses the connection of a running game, comes back without reconnecting, leaves and enters room 7. When the
window in room 4 expires, the session forgets room 7, and player 1 enters room 8 as well. -/
theorem late_window_clears_room : ∃ s room room', Runs tallies (fun _ _ => True) fresh s ∧
    s.getRoom (tally 'r' 7) = some room ∧ s.getRoom (tally 'r' 8) = some room' ∧
    slotHolds (room.slot .X) (tally 'p' 1) = true ∧ slotHolds (room'.slot .X) (tally 'p' 1) = true := by
  have hcheck : (Transition.run (step tallies) (fun _ _ => true) fresh
      (opening ++ [.socketClosed (tally 'c' 0), .connect, asks 6 "auth1b" (.auth (some (tally 't' 1))),
        asks 6 "leave1" (.leaveRoom (tally 'r' 4)), .createRoom, asks 6 "join7" (.joinRoom (tally 'r' 7) none),
        .tick 300000, .reconnectWindow (tally 'r' 4) (tally 'p' 1) false, .createRoom,
        asks 6 "join8" (.joinRoom (tally 'r' 8) none)])).any
      (fun s => (s.getRoom (tally 'r' 7)).any fun room => (s.getRoom (tally 'r' 8)).any fun room' =>
        slotHolds (room.slot .X) (tally 'p' 1) && slotHolds (room'.slot .X) (tally 'p' 1)) = true := by
    decide +kernel
  obtain ⟨s, hrun, hs⟩ := Transition.exists_run (C := fun _ _ => True) (fun _ _ _ => trivial) hcheck
  simp only [Option.any_eq_true, Bool.and_eq_true] at hs
  obtain ⟨room, hroom, room', hroom', hx, hx'⟩ := hs
  exact ⟨s, room, room', hrun, hroom, hroom', hx, hx'⟩

end TicTacToe

import TicTacToe.Theorems.Runs

/-! # Seats

Who holds a slot in a room: the players of a running game hold its two slots, and a player whose session is
associated with a room holds a slot of that room. -/

namespace TicTacToe

/-! ### Slots and their holders -/

section Slots
variable {slot : Option PlayerSlot} {now : Millis} {a : RoomAction} {p q : PlayerId}

theorem slotHolds_unique (hp : slotHolds slot p = true) (hq : slotHolds slot q = true) : p = q := by
  obtain ⟨x, rfl, hx⟩ := RoomRecord.slotHolds_iff.mp hp
  obtain ⟨y, hy, hyq⟩ := RoomRecord.slotHolds_iff.mp hq
  obtain rfl := Option.some.inj hy
  exact hx.symm.trans hyq

theorem slotHolds_setConnected (slot : Option PlayerSlot) (now : Millis) (b : Bool) (q : PlayerId) :
    slotHolds (slot.map fun slot => { slot with connected := b, lastSeenAt := now }) q = slotHolds slot q := by
  cases slot <;> rfl

/-- Only entering gives a slot to a player. -/
theorem slotHolds_of_slotAfter (h : slotHolds (slotAfter now a slot) q = true) : slotHolds slot q = true := by
  unfold slotAfter at h
  split at h
  · split at h
    · cases h
    · exact h
  · split at h
    · cases h
    · exact h
  · split at h
    · exact (slotHolds_setConnected _ _ _ _).symm.trans h
    · exact h
  · split at h
    · exact (slotHolds_setConnected _ _ _ _).symm.trans h
    · exact h
  · exact h

/-- A player keeps the slot except by leaving and by an expired window. -/
theorem slotHolds_slotAfter (h : slotHolds slot q = true) (hleft : a ≠ .left q) (hfired : a ≠ .windowFired q) :
    slotHolds (slotAfter now a slot) q = true := by
  unfold slotAfter
  split
  · rename_i p
    have hne : slotHolds slot p ≠ true := fun hp => hleft (slotHolds_unique hp h ▸ rfl)
    rwa [if_neg hne]
  · rename_i p
    have hne : slotHolds slot p ≠ true := fun hp => hfired (slotHolds_unique hp h ▸ rfl)
    rwa [if_neg hne]
  · split
    · exact (slotHolds_setConnected _ _ _ _).trans h
    · exact h
  · split
    · exact (slotHolds_setConnected _ _ _ _).trans h
    · exact h
  · exact h

end Slots

namespace RoomRecord
variable {room room' : RoomRecord} {now : Millis} {p : PlayerId}

theorem setConnected_playerX (room : RoomRecord) (now : Millis) (p : PlayerId) (b : Bool) :
    (room.setConnected now p b).playerX = if slotHolds room.playerX p then
      room.playerX.map fun slot => { slot with connected := b, lastSeenAt := now } else room.playerX := by
  unfold setConnected
  dsimp only
  split
  · rfl
  · split <;> rfl

theorem setConnected_playerO (hX : slotHolds room.playerX p = false) (now : Millis) (b : Bool) :
    (room.setConnected now p b).playerO = if slotHolds room.playerO p then
      room.playerO.map fun slot => { slot with connected := b, lastSeenAt := now } else room.playerO := by
  unfold setConnected
  dsimp only
  rw [if_neg (by simp [hX])]
  split <;> rfl

theorem getSlotByPlayerId_setConnected (h : getSlotByPlayerId room p ≠ none) (now : Millis) (b : Bool) :
    ∃ slot, getSlotByPlayerId (room.setConnected now p b) p = some slot ∧ slot.connected = b := by
  have hheld : ∀ slot : PlayerSlot, slot.playerId = p → slotHolds (some slot) p = true := fun slot hp => by
    simp [slotHolds, hp]
  have hnewX := setConnected_playerX room now p b
  cases hX : slotHolds room.playerX p with
  | true =>
    obtain ⟨x, hx, hp⟩ := slotHolds_iff.mp hX
    rw [hX, if_pos rfl, hx, Option.map_some] at hnewX
    refine ⟨{ x with connected := b, lastSeenAt := now }, ?_, rfl⟩
    rw [getSlotByPlayerId, hnewX, if_pos (hheld { x with connected := b, lastSeenAt := now } hp)]
  | false =>
    have hO : slotHolds room.playerO p = true := by
      by_contra hO
      exact h (by rw [getSlotByPlayerId, if_neg (by simp [hX]), if_neg hO])
    have hnewO := setConnected_playerO hX now b
    obtain ⟨x, hx, hp⟩ := slotHolds_iff.mp hO
    rw [hX, if_neg (by simp)] at hnewX
    rw [hO, if_pos rfl, hx, Option.map_some] at hnewO
    refine ⟨{ x with connected := b, lastSeenAt := now }, ?_, rfl⟩
    rw [getSlotByPlayerId, hnewX, hnewO, if_neg (by simp [hX]),
      if_pos (hheld { x with connected := b, lastSeenAt := now } hp)]

theorem getSlotByPlayerId_addPlayer {name : Option PlayerName} {symbol : PlayerSymbol}
    (hnone : getSlotByPlayerId room p = none) (h : room.addPlayer now p name = some (symbol, room')) :
    getSlotByPlayerId (room'.touch now) p = some ⟨p, symbol, name, true, now⟩ := by
  obtain ⟨-, hslots⟩ := addPlayer_slot h
  have hother := getSlotByPlayerId_none.mp hnone
  have hX : room'.playerX = _ := hslots .X
  have hO : room'.playerO = _ := hslots .O
  have holdX : slotHolds room.playerX p = false := hother .X
  cases symbol with
  | X => simp [getSlotByPlayerId, touch, hX, slotHolds]
  | O =>
    have hX' : room'.playerX = room.playerX := hX
    have hO' : room'.playerO = some ⟨p, .O, name, true, now⟩ := hO
    have hheld : slotHolds (some (⟨p, .O, name, true, now⟩ : PlayerSlot)) p = true := by simp [slotHolds]
    simp [getSlotByPlayerId, touch, hX', hO', holdX, hheld]

end RoomRecord

/-- The slot of a player. -/
def RoomView.slotOf (v : RoomView) (p : PlayerId) : Option PlayerSlot := v.room.bind fun room => getSlotByPlayerId room p

theorem RoomView.slotOf_of_room {v : RoomView} {room : RoomRecord} (h : v.room = some room) (p : PlayerId) :
    v.slotOf p = getSlotByPlayerId room p := by simp [slotOf, h]

namespace RoomView
variable {v v' : RoomView} {p q : PlayerId}

/-- The player holds a slot of the room. -/
def Holds (v : RoomView) (p : PlayerId) : Prop := ∃ room x, v.room = some room ∧ slotHolds (room.slot x) p = true

theorem holds_iff : v.Holds p ↔ v.slotOf p ≠ none := by
  constructor
  · rintro ⟨room, x, hroom, hx⟩ hnone
    rw [slotOf_of_room hroom, RoomRecord.getSlotByPlayerId_none] at hnone
    rw [hnone x] at hx
    cases hx
  · intro h
    by_contra hnot
    cases hroom : v.room with
    | none => exact h (by simp [slotOf, hroom])
    | some room =>
      refine h ((slotOf_of_room hroom p).trans (RoomRecord.getSlotByPlayerId_none.mpr fun x => ?_))
      exact Bool.eq_false_iff.mpr fun hx => hnot ⟨room, x, hroom, hx⟩

/-- The players of a running game hold the slots of their symbols. -/
def Seated (v : RoomView) : Prop := ∀ state, v.state = some state → state.status = .active →
  ∃ room, v.room = some room ∧ slotHolds room.playerX state.playerX = true ∧ slotHolds room.playerO state.playerO = true

/-- With a game running, a slot is held by a player of the game. -/
theorem Seated.player {state : GameState} (hs : v.Seated) (hstate : v.state = some state)
    (hactive : state.status = .active) (hp : v.Holds p) : p = state.playerX ∨ p = state.playerO := by
  obtain ⟨room, hroom, hX, hO⟩ := hs state hstate hactive
  obtain ⟨room', x, hroom', hx⟩ := hp
  obtain rfl := Option.some.inj (hroom.symm.trans hroom')
  cases x with
  | X => exact Or.inl (slotHolds_unique hx hX)
  | O => exact Or.inr (slotHolds_unique hx hO)

end RoomView

/-! ### Steps of a room -/

namespace RoomStep
variable {G : IdSource} {now : Millis} {r : RoomId} {lo hi : Nat} {v v' : RoomView} {a : RoomAction}
  {sends : List SendCall} {p q : PlayerId}

theorem distinct (h : RoomStep G now r lo hi v a sends v') (hd : v.Distinct) : v'.Distinct := by
  intro room' hroom' q hX
  by_cases ha : a = .created
  · subst ha
    cases h with
    | created =>
      obtain rfl := Option.some.inj hroom'
      cases hX
  · obtain ⟨room, hroom, hslots⟩ := h.slots hd ha hroom'
    have hold := hd room hroom q
    cases hslots with
    | @entered p name symbol ha hnew hfree hslot =>
      have hX' : slotHolds (room'.slot .X) q = true := hX
      have hO : slotHolds (room'.slot .O) q = slotHolds room'.playerO q := rfl
      rw [hslot] at hX'
      rw [← hO, hslot]
      have hnewO := hnew .O
      have hnewX := hnew .X
      cases symbol with
      | X =>
        have hq : p = q := by simpa [slotHolds] using hX'
        exact hq ▸ hnewO
      | O =>
        have hheld : slotHolds room.playerX q = true := hX'
        refine Bool.eq_false_iff.mpr fun hp => ?_
        have hq : p = q := by simpa [slotHolds] using hp
        have hnone : slotHolds room.playerX p = false := hnewX
        rw [hq, hheld] at hnone
        cases hnone
    | other ha hslot =>
      have hX' : slotHolds (slotAfter now a (room.slot .X)) q = true := hslot .X ▸ hX
      refine Bool.eq_false_iff.mpr fun hO => ?_
      have hO' : slotHolds (slotAfter now a (room.slot .O)) q = true := hslot .O ▸ hO
      have hheldX : slotHolds room.playerX q = true := slotHolds_of_slotAfter hX'
      have hheldO : slotHolds room.playerO q = true := slotHolds_of_slotAfter hO'
      rw [hold hheldX] at hheldO
      cases hheldO
    | dead ha hroom =>
      rw [hroom] at hX ⊢
      exact hold hX

/-- A player keeps the slot except by leaving and by an expired window. -/
theorem slot_kept {room : RoomRecord} {x : PlayerSymbol} (h : RoomStep G now r lo hi v a sends v') (hd : v.Distinct)
    (ha : a ≠ .created) (hroom : v.room = some room) (hx : slotHolds (room.slot x) q = true) (hleft : a ≠ .left q)
    (hfired : a ≠ .windowFired q) : ∃ room', v'.room = some room' ∧ slotHolds (room'.slot x) q = true := by
  obtain ⟨room', hroom'⟩ := Option.ne_none_iff_exists'.mp (h.keeps.1 (by simp [hroom]))
  obtain ⟨room₀, hroom₀, hslots⟩ := h.slots hd ha hroom'
  obtain rfl := Option.some.inj (hroom.symm.trans hroom₀)
  refine ⟨room', hroom', ?_⟩
  cases hslots with
  | @entered p name symbol ha hnew hfree hslot =>
    -- A newcomer takes a slot that was free.
    have hne : x ≠ symbol := by
      rintro rfl
      rw [hfree] at hx
      cases hx
    rw [hslot, if_neg hne]
    exact hx
  | other ha hslot =>
    rw [hslot]
    exact slotHolds_slotAfter hx hleft hfired
  | dead ha hroom => exact hroom ▸ hx

theorem holds (h : RoomStep G now r lo hi v a sends v') (hd : v.Distinct) (ha : a ≠ .created) (hq : v.Holds q)
    (hleft : a ≠ .left q) (hfired : a ≠ .windowFired q) : v'.Holds q := by
  obtain ⟨room, x, hroom, hx⟩ := hq
  obtain ⟨room', hroom', hx'⟩ := h.slot_kept hd ha hroom hx hleft hfired
  exact ⟨room', x, hroom', hx'⟩

theorem rejoined_room (h : RoomStep G now r lo hi v (.rejoined p) sends v') : v'.room = v.room ∧ v.slotOf p ≠ none := by
  cases h with
  | rejoined hroom hslot => exact ⟨rfl, by rwa [RoomView.slotOf_of_room hroom]⟩

theorem entered_slot (h : RoomStep G now r lo hi v (.entered p) sends v') :
    v.slotOf p = none ∧ ∃ slot, v'.slotOf p = some slot ∧ slot.connected = true := by
  cases h with
  | entered hroom hslot hadd =>
    have hnew := RoomRecord.getSlotByPlayerId_addPlayer hslot hadd
    exact ⟨by rwa [RoomView.slotOf_of_room hroom], _, (RoomView.slotOf_of_room rfl p).trans hnew, rfl⟩

theorem reconnected_slot (h : RoomStep G now r lo hi v (.reconnected p) sends v') :
    ∃ slot, v'.slotOf p = some slot ∧ slot.connected = true := by
  cases h with
  | reconnectedIdle hroom hslot | reconnected hroom hslot =>
    obtain ⟨slot, hslot', hconnected⟩ := RoomRecord.getSlotByPlayerId_setConnected hslot now true
    exact ⟨slot, (RoomView.slotOf_of_room rfl p).trans hslot', hconnected⟩

/-- After a player has been removed no game runs. -/
theorem inactive_of_removed (h : RoomStep G now r lo hi v a sends v') (ha : a = .left p ∨ a = .windowFired p) :
    v'.active = false := by
  have hend : ∀ (gs gs' : GameSession) repository diskFails outcome reason,
      gs'.gameState = (gs.handleEnd repository diskFails p fun state =>
        endGame state outcome reason p now).session.gameState → gs'.isActive = false := by
    intro gs gs' repository diskFails outcome reason hgs'
    rcases GameSession.handleEnd_cases gs repository diskFails p outcome reason now with ⟨hactive, he⟩ | ⟨_, _, -, -, -, he⟩
    · rw [GameSession.isActive, hgs', he]
      exact hactive
    · rw [GameSession.isActive, hgs', he.fields.2.1]
      rfl
  rcases ha with rfl | rfl
  · cases h with
    | leftIdleRoom hroom hslot hgame => simp [RoomView.active, RoomView.state, hgame]
    | left =>
      refine (RoomView.active_of_game rfl).trans ?_
      exact hend _ _ _ _ _ _ rfl
  · cases h with
    | @windowFired p gs timer repository diskFails room' hgame htimer hdue hload hroom hthrew =>
      refine (RoomView.active_of_game rfl).trans ?_
      rcases GameSession.expireReconnectWindow_cases gs now repository diskFails p timer.symbol with
        ⟨ht, he⟩ | ⟨-, -, he⟩ | ⟨x, -, -, he⟩
      · rw [he, ht] at hthrew
        cases hthrew
      · rw [he]
        exact hend _ _ _ _ _ _ rfl
      · rw [he]
        exact hend _ _ _ _ _ _ rfl

/-- The slots of the players of a running game stay theirs. -/
theorem seats_kept {room : RoomRecord} {playerX playerO : PlayerId} (h : RoomStep G now r lo hi v a sends v')
    (hd : v.Distinct) (ha : a ≠ .created) (hactive : v'.active = true) (hroom : v.room = some room)
    (hX : slotHolds room.playerX playerX = true) (hO : slotHolds room.playerO playerO = true) :
    ∃ room', v'.room = some room' ∧ slotHolds room'.playerX playerX = true ∧ slotHolds room'.playerO playerO = true := by
  have hstays : ∀ p, a ≠ .left p ∧ a ≠ .windowFired p := by
    refine fun p => ⟨fun he => ?_, fun he => ?_⟩
    · rw [h.inactive_of_removed (Or.inl he)] at hactive
      cases hactive
    · rw [h.inactive_of_removed (Or.inr he)] at hactive
      cases hactive
  obtain ⟨room', hroom', hX'⟩ := h.slot_kept (x := .X) hd ha hroom hX (hstays _).1 (hstays _).2
  obtain ⟨room'', hroom'', hO'⟩ := h.slot_kept (x := .O) hd ha hroom hO (hstays _).1 (hstays _).2
  obtain rfl := Option.some.inj (hroom'.symm.trans hroom'')
  exact ⟨room', hroom', hX', hO'⟩

theorem seated (h : RoomStep G now r lo hi v a sends v') (hk : ∀ gs, v.game = some gs → gs.roomId = r)
    (hd : v.Distinct) (hnew : a = .created → v.game = none) (hs : v.Seated) : v'.Seated := by
  intro state' hstate' hactive'
  have hactive : v'.active = true := RoomView.active_iff.mpr ⟨state', hstate', hactive'⟩
  have hkept : ∀ state, v.state = some state → state.status = .active → state'.playerX = state.playerX →
      state'.playerO = state.playerO → ∃ room, v'.room = some room ∧ slotHolds room.playerX state'.playerX = true ∧
        slotHolds room.playerO state'.playerO = true := by
    intro state hstate hrunning hX hO
    have ha : a ≠ .created := fun ha => by simp [RoomView.state, hnew ha] at hstate
    obtain ⟨room, hroom, hroomX, hroomO⟩ := hs state hstate hrunning
    rw [hX, hO]
    exact h.seats_kept hd ha hactive hroom hroomX hroomO
  cases h.gameStep hk with
  | same hsame => exact hkept state' (hsame.symm.trans hstate') hactive' rfl rfl
  | started hcause hlo hhi hroom hX hO hstarted =>
    obtain rfl := Option.some.inj (hstarted.symm.trans hstate')
    refine ⟨_, hroom, ?_, ?_⟩
    · rw [hX]
      exact RoomRecord.slotHolds_iff.mpr ⟨_, rfl, rfl⟩
    · rw [hO]
      exact RoomRecord.slotHolds_iff.mpr ⟨_, rfl, rfl⟩
  | moved ha hstate hmove hmoved =>
    obtain rfl := Option.some.inj (hmoved.symm.trans hstate')
    exact hkept _ hstate hmove.active hmove.playerX hmove.playerO
  | ended hend hstate hrunning hended | failed hend hstate hrunning hended =>
    obtain rfl := Option.some.inj (hended.symm.trans hstate')
    obtain ⟨-, -, -, hfinished, -⟩ := hend.fields
    rw [hfinished] at hactive'
    cases hactive'

end RoomStep

/-! ### Slots and windows of the server -/

namespace Server
variable {s t : Server} {r : RoomId} {G : IdSource} {p : PlayerId} {a : RoomAction} {i : Input}

/-- The slot of player `p` in room `r`. -/
def slot (s : Server) (r : RoomId) (p : PlayerId) : Option PlayerSlot :=
  (s.getRoom r).bind fun room => getSlotByPlayerId room p

/-- The pending reconnect window of player `p` in room `r`. -/
def window (s : Server) (r : RoomId) (p : PlayerId) : Option ReconnectTimer :=
  (s.gameSessions.get r).bind fun gs => gs.reconnectTimers.get p

theorem slot_of_live (h : (s.getRoom r).isSome) (p : PlayerId) : s.slot r p = (s.view r).slotOf p := by
  obtain ⟨room, hroom⟩ := Option.isSome_iff_exists.mp h
  rw [RoomView.slotOf_of_room (view_room_of_getRoom hroom), slot, hroom]
  rfl

/-- An action that needs a live room is about the slots that the server finds, before and after it. -/
theorem Acts.slots (h : Acts G s t r a) (ha : a.onLive = true) (p : PlayerId) :
    s.slot r p = (s.view r).slotOf p ∧ t.slot r p = (t.view r).slotOf p := by
  have hs : (s.getRoom r).isSome := h.onLive ha
  have ht : (t.getRoom r).isSome := by
    rcases h.alive r with ⟨-, rfl⟩ | hsame
    · cases ha
    · exact hsame ▸ hs
  exact ⟨slot_of_live hs p, slot_of_live ht p⟩

/-! ### The room of a session -/

theorem SetRoom.of_some {x : Option RoomId} {token : SessionToken} {session' : PlayerSession} (h : SetRoom s t p x)
    (hs : t.session token = some session') : ∃ session, s.session token = some session ∧
      session'.playerId = session.playerId ∧ (session.playerId = p ∧ session'.roomId = x ∨
        session.playerId ≠ p ∧ session'.roomId = session.roomId) := by
  rw [h token] at hs
  obtain ⟨session, hsession, rfl⟩ := Option.map_eq_some_iff.mp hs
  refine ⟨session, hsession, rfl, ?_⟩
  by_cases hp : session.playerId = p
  · exact Or.inl ⟨hp, by simp [hp]⟩
  · exact Or.inr ⟨hp, by simp [hp]⟩

/-- A session is associated with a room by entering it or coming back to it, and stays so until its player leaves
or a window of the player expires. -/
theorem SessionStep.association {token : SessionToken} {session' : PlayerSession} {r' : RoomId}
    (h : SessionStep G s t r a) (hs : t.session token = some session') (hr : session'.roomId = some r') :
    r' = r ∧ (a = .entered session'.playerId ∨ a = .reconnected session'.playerId) ∨
    ∃ session, s.session token = some session ∧ session.playerId = session'.playerId ∧ session.roomId = some r' ∧
      a ≠ .left session'.playerId ∧ a ≠ .windowFired session'.playerId := by
  have hset : ∀ {p}, SetRoom s t p (some r) → (a = .entered p ∨ a = .reconnected p) →
      r' = r ∧ (a = .entered session'.playerId ∨ a = .reconnected session'.playerId) ∨
      ∃ session, s.session token = some session ∧ session.playerId = session'.playerId ∧ session.roomId = some r' ∧
        a ≠ .left session'.playerId ∧ a ≠ .windowFired session'.playerId := by
    intro p h ha
    obtain ⟨session, hsession, hp, ⟨rfl, hx⟩ | ⟨hne, hx⟩⟩ := h.of_some hs
    · exact Or.inl ⟨Option.some.inj (hr.symm.trans hx), hp ▸ ha⟩
    · refine Or.inr ⟨session, hsession, hp.symm, hx.symm.trans hr, ?_, ?_⟩
      · rintro rfl
        simp at ha
      · rintro rfl
        simp at ha
  have hcleared : ∀ {p}, SetRoom s t p none → (∀ q, q ≠ p → a ≠ .left q ∧ a ≠ .windowFired q) →
      ∃ session, s.session token = some session ∧ session.playerId = session'.playerId ∧ session.roomId = some r' ∧
        a ≠ .left session'.playerId ∧ a ≠ .windowFired session'.playerId := by
    intro p h ha
    obtain ⟨session, hsession, hp, ⟨rfl, hx⟩ | ⟨hne, hx⟩⟩ := h.of_some hs
    · rw [hx] at hr
      cases hr
    · exact ⟨session, hsession, hp.symm, hx.symm.trans hr, ha _ (hp ▸ hne)⟩
  have hsame : (∀ token, t.session token = s.session token) → a ≠ .left session'.playerId →
      a ≠ .windowFired session'.playerId → ∃ session, s.session token = some session ∧
        session.playerId = session'.playerId ∧ session.roomId = some r' ∧ a ≠ .left session'.playerId ∧
        a ≠ .windowFired session'.playerId := fun h hleft hfired =>
    ⟨session', (h token).symm.trans hs, rfl, hr, hleft, hfired⟩
  cases a with
  | entered p => exact hset h.2 (Or.inl rfl)
  | reconnected p => exact hset h (Or.inr rfl)
  | left p => exact Or.inr (hcleared h fun q hq => ⟨by simp [Ne.symm hq], by simp⟩)
  | windowFired p => exact Or.inr (hcleared h.1 fun q hq => ⟨by simp, by simp [Ne.symm hq]⟩)
  | disconnected p => exact Or.inr (hsame h.2 (by simp) (by simp))
  | idle =>
    rcases h with h | ⟨p, r₀, -, -, h⟩ | ⟨k, -, -, h⟩
    · exact Or.inr (hsame h (by simp) (by simp))
    · exact Or.inr (hcleared h fun q _ => ⟨by simp, by simp⟩)
    · rw [h token] at hs
      split at hs
      · obtain rfl := Option.some.inj hs
        cases hr
      · exact Or.inr ⟨session', hs, rfl, hr, by simp, by simp⟩
  | _ => exact Or.inr (hsame h (by simp) (by simp))

/-- A session that is valid later has been valid before. -/
theorem session_of_tick {elapsed : Nat} {token : SessionToken} {session : PlayerSession}
    (h : { s with now := s.now + elapsed }.session token = some session) : s.session token = some session := by
  obtain ⟨stored, hstored, he⟩ := Option.map_eq_some_iff.mp h
  obtain ⟨hget, hvalid⟩ := JsMap.lookup_eq_some.mp hstored
  refine Option.map_eq_some_iff.mpr ⟨stored, JsMap.lookup_eq_some.mpr ⟨hget, ?_⟩, he⟩
  simp only [PlayerSession.isExpired, decide_eq_false_iff_not, Int.not_lt] at hvalid ⊢
  exact Int.le_trans (Int.sub_le_sub_right (Int.le_add_of_nonneg_right (Int.natCast_nonneg elapsed)) _) hvalid

/-! ### Seats in every reachable state -/

/-- Ids come from earlier draws, the players of running games hold their slots, and so do the players whose sessions
are associated with a room. -/
structure Seats (G : IdSource) (s : Server) : Prop where
  keyed : s.Keyed
  issuing : s.Issuing G
  rooms : ∀ r, (s.view r).room ≠ none → ∃ k < s.nextId, r = G.roomId k
  games : ∀ r, (s.view r).game ≠ none → (s.view r).room ≠ none
  distinct : ∀ r, (s.view r).Distinct
  seated : ∀ r, (s.view r).Seated
  session : ∀ token session r, s.session token = some session → session.roomId = some r →
    (s.view r).Holds session.playerId

theorem start_seats (now : Millis) (version : String) (repository : HistoryRepository) :
    (start now version repository).Seats G where
  keyed := start_keyed now version repository
  issuing := by
    refine ⟨fun token session h => ?_, fun id entry token p h => ?_⟩
    · simp [start, SessionStore.empty] at h
    · simp [start, SessionStore.empty] at h
  rooms r h := by simp [view, start, RoomStore.empty, RoomStore.object] at h
  games r h := by simp [view, start] at h
  distinct r room h := by simp [view, start, RoomStore.empty, RoomStore.object] at h
  seated r state h := by simp [RoomView.state, view, start] at h
  session token session r h := by simp [Server.session, getSession, start, SessionStore.empty, SessionStore.getSession,
    JsMap.lookup] at h

/-- A new room has not existed before. -/
theorem Seats.created_fresh (hs : s.Seats G) (hn : G.NeverRepeats) (h : Acts G s t r .created) :
    (s.view r).room = none ∧ (s.view r).game = none := by
  obtain ⟨sends, hstep, -⟩ := h.step
  have hroom : (s.view r).room = none := by
    by_contra hroom
    obtain ⟨k, hk, hr⟩ := hs.rooms r hroom
    generalize t.view r = v' at hstep
    cases hstep with
    | created hr' hlo hhi =>
      have hsame := hn.roomId (hr.symm.trans hr')
      omega
  exact ⟨hroom, by_contra fun hgame => hs.games r hgame hroom⟩

theorem Seats.acts (hs : s.Seats G) (hn : G.NeverRepeats) (h : Acts G s t r a) (hkt : t.Keyed) : t.Seats G := by
  obtain ⟨sends, hstep, -⟩ := h.step
  have hkeeps := hstep.keeps
  have hnew : a = .created → (s.view r).room = none ∧ (s.view r).game = none := by
    rintro rfl
    exact hs.created_fresh hn h
  -- Every other room is as before.
  have hroom : ∀ {P : RoomId → RoomView → Prop}, P r (t.view r) → (∀ r', P r' (s.view r')) → ∀ r', P r' (t.view r') := by
    intro P hr hother r'
    by_cases he : r' = r
    · exact he ▸ hr
    · rw [h.other r' he]
      exact hother r'
  refine ⟨hkt, h.issued hs.issuing, hroom (P := fun r' v => v.room ≠ none → ∃ k < t.nextId, r' = G.roomId k) (fun hne => ?_)
    (fun r' hne => ?_), hroom (P := fun _ v => v.game ≠ none → v.room ≠ none) (fun hgame => ?_) hs.games,
    hroom (P := fun _ v => v.Distinct) (hstep.distinct (hs.distinct r)) hs.distinct,
    hroom (P := fun _ v => v.Seated) ?_ hs.seated, fun token session r' hsession hr' => ?_⟩
  · by_cases hold : (s.view r).room = none
    · rcases hkeeps.2.2.1 hne with hold' | rfl
      · exact absurd hold hold'
      · generalize t.view r = v' at hstep
        cases hstep with
        | created hr hlo hhi => exact ⟨_, hhi, hr⟩
    · obtain ⟨k, hk, hr⟩ := hs.rooms r hold
      exact ⟨k, Nat.lt_of_lt_of_le hk h.nextId, hr⟩
  · obtain ⟨k, hk, hr⟩ := hs.rooms r' hne
    exact ⟨k, Nat.lt_of_lt_of_le hk h.nextId, hr⟩
  · rcases hkeeps.2.2.2 hgame with hold | hold
    · exact hkeeps.1 (hs.games r hold)
    · exact hkeeps.1 hold
  · exact hstep.seated (hs.keyed.view r) (hs.distinct r) (fun ha => (hnew ha).2) (hs.seated r)
  · rcases (h.session hn hs.issuing).association hsession hr' with
      ⟨rfl, rfl | rfl⟩ | ⟨before, hbefore, hp, hroomId, hleft, hfired⟩
    · obtain ⟨-, slot, hslot, -⟩ := hstep.entered_slot
      exact RoomView.holds_iff.mpr (by simp [hslot])
    · obtain ⟨slot, hslot, -⟩ := hstep.reconnected_slot
      exact RoomView.holds_iff.mpr (by simp [hslot])
    · have hheld := hp ▸ hs.session token before r' hbefore hroomId
      by_cases he : r' = r
      · subst he
        have ha : a ≠ .created := by
          intro ha
          obtain ⟨room, -, hold, -⟩ := hheld
          rw [(hnew ha).1] at hold
          cases hold
        exact hstep.holds (hs.distinct r') ha hheld hleft hfired
      · rw [h.other r' he]
        exact hheld

theorem Seats.step (hs : s.Seats G) (hn : G.NeverRepeats) (h : s.step G i = some t) : t.Seats G := by
  have hkt : t.Keyed := hs.keyed.step h
  rcases step_acts hs.keyed h with ⟨elapsed, -, rfl⟩ | ⟨r, a, hacts, -⟩
  · exact ⟨hkt, hs.issuing.of_same (Nat.le_refl _) rfl, hs.rooms, hs.games, hs.distinct, hs.seated,
      fun token session r hsession hr => hs.session token session r (session_of_tick hsession) hr⟩
  · exact hs.acts hn hacts hkt

theorem runs_seats {C : Server → Input → Prop} {now : Millis} {version : String} {repository : HistoryRepository}
    (hn : G.NeverRepeats) (h : Runs G C (start now version repository) s) : s.Seats G :=
  h.invariant (P := fun s => s.Seats G) (start_seats now version repository) fun _ _ _ hs _ hstep => hs.step hn hstep

end Server
end TicTacToe

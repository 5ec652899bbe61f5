import TicTacToe.Theorems.Seats

/-! # Sessions of the players in a room

A player who holds a slot of a live room is associated with that room by every valid session, as long as no
reconnect window of another room expires meanwhile. -/

namespace TicTacToe

namespace RoomStep
variable {G : IdSource} {now : Millis} {r : RoomId} {lo hi : Nat} {v v' : RoomView} {a : RoomAction}
  {sends : List SendCall} {p q : PlayerId}

/-- Who holds a slot has held it before or has entered. -/
theorem held (h : RoomStep G now r lo hi v a sends v') (hd : v.Distinct) (ha : a ≠ .created) (hq : v'.Holds q) :
    v.Holds q ∨ a = .entered q := by
  obtain ⟨room', x, hroom', hx⟩ := hq
  obtain ⟨room, hroom, hslots⟩ := h.slots hd ha hroom'
  cases hslots with
  | @entered p name symbol ha hnew hfree hslot =>
    rw [hslot] at hx
    split at hx
    · have hp : p = q := by simpa [slotHolds] using hx
      exact Or.inr (hp ▸ ha)
    · exact Or.inl ⟨room, x, hroom, hx⟩
  | other ha hslot =>
    rw [hslot] at hx
    exact Or.inl ⟨room, x, hroom, slotHolds_of_slotAfter hx⟩
  | dead ha he => exact Or.inl ⟨room, x, hroom, he ▸ hx⟩

/-- Nobody holds a slot of a new room. -/
theorem created_not_held (h : RoomStep G now r lo hi v .created sends v') : ¬ v'.Holds q := by
  rintro ⟨room', x, hroom', hx⟩
  cases h with
  | created =>
    obtain rfl := Option.some.inj hroom'
    cases x <;> cases hx

/-- Who leaves gives the slot back. -/
theorem left_not_held (h : RoomStep G now r lo hi v (.left q) sends v') (hd : v.Distinct) : ¬ v'.Holds q := by
  rintro ⟨room', x, hroom', hx⟩
  obtain ⟨room, hroom, hslots⟩ := h.slots hd (by simp) hroom'
  cases hslots with
  | entered ha => cases ha
  | dead ha => cases ha
  | other ha hslot =>
    rw [hslot, slotAfter] at hx
    split at hx
    · cases hx
    · contradiction

/-- Who leaves or reconnects holds a slot. -/
theorem holds_of_presence (h : RoomStep G now r lo hi v a sends v') (ha : a = .left q ∨ a = .reconnected q) :
    v.Holds q := by
  rcases ha with rfl | rfl
  · cases h with
    | leftIdleRoom hroom hslot | left hroom hslot =>
      exact RoomView.holds_iff.mpr (by rwa [RoomView.slotOf_of_room hroom])
  · cases h with
    | reconnectedIdle hroom hslot | reconnected hroom hslot =>
      exact RoomView.holds_iff.mpr (by rwa [RoomView.slotOf_of_room hroom])

end RoomStep

/-- The player holds no slot of the room after the removal. -/
theorem RoomRecord.removePlayer_not_held {room : RoomRecord} (hd : room.Distinct) (now : Millis) (p : PlayerId)
    (x : PlayerSymbol) : slotHolds ((room.removePlayer now p).slot x) p = false := by
  rw [removePlayer_slot hd]
  split
  · rfl
  · rename_i h
    exact Bool.eq_false_iff.mpr h

namespace Server
variable {s t : Server} {r : RoomId} {G : IdSource} {p : PlayerId} {a : RoomAction} {i : Input}

/-- The window of a player who holds a slot of another live room expires. -/
def expiresElsewhere (s : Server) : Input → Bool
  | .reconnectWindow r p _ => s.rooms.rooms.entries.any fun e =>
    e.1 ≠ r && (s.getRoom e.1).any fun room => (getSlotByPlayerId room p).isSome
  | _ => false

theorem expiresElsewhere_of_holds {r' : RoomId} {diskFails : Bool} (hr : r' ≠ r) (hlive : (s.getRoom r').isSome)
    (hp : (s.view r').Holds p) : s.expiresElsewhere (.reconnectWindow r p diskFails) = true := by
  obtain ⟨room, hroom⟩ := Option.isSome_iff_exists.mp hlive
  have hslot : getSlotByPlayerId room p ≠ none := by
    rw [← RoomView.slotOf_of_room (view_room_of_getRoom hroom)]
    exact RoomView.holds_iff.mp hp
  simp only [expiresElsewhere, List.any_eq_true]
  refine ⟨(r', room), (JsMap.mem_entries_iff _).mpr (RoomStore.getRoom_eq_some.mp hroom).1, ?_⟩
  simpa [hr, hroom] using Option.isSome_iff_ne_none.mpr hslot

/-- Players who hold slots come from earlier draws, and their sessions are associated with the live room whose slot
they hold. -/
structure Settled (G : IdSource) (s : Server) : Prop where
  issued : ∀ r p, (s.view r).Holds p → ∃ k < s.nextId, p = G.playerId k
  session : ∀ r token session, (s.getRoom r).isSome → s.session token = some session →
    (s.view r).Holds session.playerId → session.roomId = some r

theorem start_settled (now : Millis) (version : String) (repository : HistoryRepository) :
    (start now version repository).Settled G := by
  have hnone : ∀ r p, ¬ ((start now version repository).view r).Holds p := by
    rintro r p ⟨room, x, hroom, -⟩
    simp [view, start, RoomStore.empty, RoomStore.object] at hroom
  exact ⟨fun r p h => absurd h (hnone r p), fun r token session _ _ h => absurd h (hnone r _)⟩

/-- A room that is live later has been live before. -/
theorem getRoom_of_tick {elapsed : Nat} {room : RoomRecord}
    (h : { s with now := s.now + elapsed }.getRoom r = some room) : s.getRoom r = some room := by
  obtain ⟨hget, hlive⟩ := RoomStore.getRoom_eq_some.mp h
  refine RoomStore.getRoom_eq_some.mpr ⟨hget, ?_⟩
  simp only [RoomRecord.isExpired, decide_eq_false_iff_not, Int.not_lt] at hlive ⊢
  exact Int.le_trans (Int.sub_le_sub_right (Int.le_add_of_nonneg_right (Int.natCast_nonneg elapsed)) _) hlive

/-- The player of a session that is associated with a room comes from an earlier draw. -/
theorem HasSession.issued {x : Option RoomId} (h : s.HasSession p x) (hi : s.Issuing G) :
    ∃ k < s.nextId, p = G.playerId k := by
  obtain ⟨token, session, hs, rfl, -⟩ := h
  obtain ⟨stored, hstored, rfl⟩ := Option.map_eq_some_iff.mp hs
  obtain ⟨-, k, hk, -, hp⟩ := hi.session token stored (JsMap.lookup_eq_some.mp hstored).1
  exact ⟨k, hk, hp⟩

/-- What an action does to the association of a session with a live room: a room that its player holds a slot of is
the only one. -/
theorem Settled.acts_session (hs : s.Settled G) (hseats : s.Seats G) (hn : G.NeverRepeats) (h : Acts G s t r a)
    (helsewhere : ∀ p r', a = .windowFired p → r' ≠ r → (s.getRoom r').isSome → (s.view r').Holds p →
      ¬ s.HasSession p (some r'))
    {r' : RoomId} {token : SessionToken} {session : PlayerSession} (hlive : (s.getRoom r').isSome)
    (hgone : ¬ (r' = r ∧ (a = .left session.playerId ∨ a = .windowFired session.playerId)))
    (hsession : t.session token = some session)
    (hheld : (s.view r').Holds session.playerId ∨ r' = r ∧ a = .entered session.playerId) :
    session.roomId = some r' := by
  obtain ⟨sends, hstep, -⟩ := h.step
  have hsame : s.session token = some session → (∀ p, a ≠ .entered p) → session.roomId = some r' := by
    intro hsession ha
    exact hs.session r' token session hlive hsession (hheld.resolve_right fun he => ha _ he.2)
  -- Another room whose slot the player holds would be associated with the session as well.
  have hother : ∀ {session₀ : PlayerSession} {r₀ : RoomId}, s.session token = some session₀ →
      session₀.playerId = session.playerId → (s.getRoom r₀).isSome → (s.view r₀).Holds session.playerId →
      (s.view r').Holds session.playerId → r' = r₀ := by
    intro session₀ r₀ hs₀ hp hlive₀ hheld₀ hheld'
    have h₀ := hs.session r₀ token session₀ hlive₀ hs₀ (hp ▸ hheld₀)
    have h' := hs.session r' token session₀ hlive hs₀ (hp ▸ hheld')
    exact Option.some.inj (h'.symm.trans h₀)
  -- What becomes of the room of a session depends on the action alone: one case for each.
  have hstepped := h.session hn hseats.issuing
  cases a with
  | entered p =>
    obtain ⟨hhas, hset⟩ := hstepped
    obtain ⟨session₀, hs₀, hp, ⟨hmine, hx⟩ | ⟨hne, hx⟩⟩ := hset.of_some hsession
    · rcases hheld with hheld | ⟨rfl, -⟩
      · -- Only a player of no room, or of this one, gets to enter: a slot that was held before is in this room.
        have hroom : ∀ x, s.HasSession p x → x = some r' := by
          rintro x ⟨token', session', hs', hp', rfl⟩
          exact hs.session r' token' session' hlive hs' (by rw [hp', ← hmine, ← hp]; exact hheld)
        rcases hhas with hhas | hhas
        · cases hroom none hhas
        · exact hx.trans (hroom _ hhas)
      · exact hx
    · refine hx.trans (hs.session r' token session₀ hlive hs₀ (hp ▸ hheld.resolve_right ?_))
      rintro ⟨-, he⟩
      exact hne (hp.symm.trans (RoomAction.entered.inj he).symm)
  | reconnected p =>
    have hheld' := hheld.resolve_right (by simp)
    obtain ⟨session₀, hs₀, hp, ⟨hmine, hx⟩ | ⟨hne, hx⟩⟩ := SetRoom.of_some hstepped hsession
    · -- Who comes back holds a slot here already, and so none elsewhere.
      have hp' : session.playerId = p := hp.trans hmine
      have hr := hother hs₀ hp.symm (h.onLive rfl) (hp' ▸ hstep.holds_of_presence (Or.inr rfl)) hheld'
      exact hx.trans (by rw [hr])
    · exact hx.trans (hs.session r' token session₀ hlive hs₀ (hp ▸ hheld'))
  | left p =>
    have hheld' := hheld.resolve_right (by simp)
    obtain ⟨session₀, hs₀, hp, ⟨hmine, hx⟩ | ⟨hne, hx⟩⟩ := SetRoom.of_some hstepped hsession
    · -- So does who leaves, and that slot is given up.
      have hp' : session.playerId = p := hp.trans hmine
      have hr := hother hs₀ hp.symm (h.onLive rfl) (hp' ▸ hstep.holds_of_presence (Or.inl rfl)) hheld'
      exact absurd ⟨hr, Or.inl (by rw [hp'])⟩ hgone
    · exact hx.trans (hs.session r' token session₀ hlive hs₀ (hp ▸ hheld'))
  | windowFired p =>
    have hheld' := hheld.resolve_right (by simp)
    obtain ⟨session₀, hs₀, hp, ⟨hmine, hx⟩ | ⟨hne, hx⟩⟩ := hstepped.1.of_some hsession
    · have hp' : session.playerId = p := hp.trans hmine
      by_cases hr : r' = r
      · exact absurd ⟨hr, Or.inr (by rw [hp'])⟩ hgone
      · -- A window clears the association without a look at the room it names, which `helsewhere` rules out.
        have hr₀ := hs.session r' token session₀ hlive hs₀ (hp ▸ hheld')
        exact absurd ⟨token, session₀, hs₀, hmine, hr₀⟩ (helsewhere p r' rfl hr hlive (hp' ▸ hheld'))
    · exact hx.trans (hs.session r' token session₀ hlive hs₀ (hp ▸ hheld'))
  | disconnected p => exact hsame ((hstepped.2 token).symm.trans hsession) (by simp)
  | idle =>
    have hheld' := hheld.resolve_right (by simp)
    rcases hstepped with hsessions | ⟨p, r₀, hhas, hlost, hset⟩ | ⟨k, hlo, -, hnew⟩
    · exact hsame ((hsessions token).symm.trans hsession) (by simp)
    · obtain ⟨session₀, hs₀, hp, ⟨hmine, hx⟩ | ⟨hne, hx⟩⟩ := hset.of_some hsession
      · -- The player has lost the room of the session, and holds no slot elsewhere.
        obtain ⟨token', session', hs', hp', hroom'⟩ := hhas
        have he : session'.playerId = session.playerId := hp'.trans (hmine.symm.trans hp.symm)
        have hr₀ : r' = r₀ := by
          have hr' := hs.session r' token' session' hlive hs' (he ▸ hheld')
          exact Option.some.inj (hr'.symm.trans hroom')
        subst hr₀
        obtain ⟨room, hroom⟩ := Option.isSome_iff_exists.mp hlive
        have hslot := RoomView.holds_iff.mp hheld'
        rw [RoomView.slotOf_of_room (view_room_of_getRoom hroom), hp, hmine] at hslot
        exact absurd (RoomRecord.getSymbolForPlayer_none.mp (hlost room hroom)) hslot
      · exact hx.trans (hs.session r' token session₀ hlive hs₀ (hp ▸ hheld'))
    · rw [hnew token] at hsession
      split at hsession
      · obtain rfl := Option.some.inj hsession
        obtain ⟨k', hk', hp⟩ := hs.issued r' _ hheld'
        have he : k = k' := hn.playerId hp
        omega
      · exact hsame hsession (by simp)
  | _ => exact hsame ((hstepped token).symm.trans hsession) (by simp)

/-- Whoever holds a slot after an action of room `r` held it before, or has just entered. -/
theorem Acts.held (h : Acts G s t r a) (hseats : s.Seats G) (hp : (t.view r').Holds p) :
    (s.view r').Holds p ∨ r' = r ∧ a = .entered p := by
  obtain ⟨sends, hstep, -⟩ := h.step
  by_cases hr : r' = r
  · subst hr
    by_cases ha : a = .created
    · subst ha
      exact absurd hp hstep.created_not_held
    · exact (hstep.held (hseats.distinct r') ha hp).imp id fun ha => ⟨rfl, ha⟩
  · exact Or.inl (h.other r' hr ▸ hp)

/-- An action of room `r` keeps the sessions settled. -/
theorem Settled.acts (hs : s.Settled G) (hseats : s.Seats G) (hn : G.NeverRepeats) (h : Acts G s t r a)
    (helsewhere : ∀ p r', a = .windowFired p → r' ≠ r → (s.getRoom r').isSome → (s.view r').Holds p →
      ¬ s.HasSession p (some r')) : t.Settled G := by
  obtain ⟨sends, hstep, -⟩ := h.step
  have hd := hseats.distinct r
  have hheld : ∀ r' p, (t.view r').Holds p → (s.view r').Holds p ∨ r' = r ∧ a = .entered p :=
    fun _ _ hp => h.held hseats hp
  refine ⟨fun r' p hp => ?_, fun r' token session hlive hsession hp => ?_⟩
  · rcases hheld r' p hp with hold | ⟨rfl, rfl⟩
    · obtain ⟨k, hk, he⟩ := hs.issued r' p hold
      exact ⟨k, Nat.lt_of_lt_of_le hk h.nextId, he⟩
    · obtain ⟨hhas, -⟩ := h.session hn hseats.issuing
      have hissued : ∃ k < s.nextId, p = G.playerId k := by
        rcases hhas with hhas | hhas
        · exact hhas.issued hseats.issuing
        · exact hhas.issued hseats.issuing
      obtain ⟨k, hk, he⟩ := hissued
      exact ⟨k, Nat.lt_of_lt_of_le hk h.nextId, he⟩
  · rcases h.alive r' with ⟨rfl, rfl⟩ | halive
    · exact absurd hp hstep.created_not_held
    rw [halive] at hlive
    refine hs.acts_session hseats hn h helsewhere hlive ?_ hsession (hheld r' _ hp)
    rintro ⟨rfl, rfl | hfired⟩
    · exact hstep.left_not_held hd hp
    · obtain ⟨room', x, hroom', hx⟩ := hp
      obtain ⟨live', hlive'⟩ := Option.isSome_iff_exists.mp (halive.trans hlive)
      have hstepped := h.session hn hseats.issuing
      rw [hfired] at hstepped
      obtain ⟨room, hroom, rfl⟩ := hstepped.2 live' hlive'
      obtain rfl := Option.some.inj (hroom'.symm.trans (view_room_of_getRoom hlive'))
      have hnot := RoomRecord.removePlayer_not_held (hd room (view_room_of_getRoom hroom)) s.now session.playerId x
      rw [hnot] at hx
      cases hx

theorem Settled.step (hs : s.Settled G) (hseats : s.Seats G) (hn : G.NeverRepeats) (hi : s.expiresElsewhere i = false)
    (h : s.step G i = some t) : t.Settled G := by
  rcases step_acts hseats.keyed h with ⟨elapsed, -, rfl⟩ | ⟨r, a, hacts, hcause⟩
  · refine ⟨hs.issued, fun r token session hlive hsession hp => ?_⟩
    obtain ⟨room, hroom⟩ := Option.isSome_iff_exists.mp hlive
    exact hs.session r token session (Option.isSome_of_eq_some (getRoom_of_tick hroom)) (session_of_tick hsession) hp
  · refine hs.acts hseats hn hacts fun p r' ha hr hlive hp => ?_
    subst ha
    obtain ⟨diskFails, rfl⟩ := hcause
    rw [expiresElsewhere_of_holds hr hlive hp] at hi
    cases hi

end Server
end TicTacToe

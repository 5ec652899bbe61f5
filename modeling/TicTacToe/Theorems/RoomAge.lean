import TicTacToe.Theorems.Processing

/-! # The age of a room

A room is live as long as its `lastActivityAt` is at most `ROOM_TTL_MS` old. The time is renewed when a slot is taken,
freed or marked as connected or disconnected, and at no other activity. -/

namespace TicTacToe

namespace RoomRecord
variable {room room' : RoomRecord} {now : Millis} {p : PlayerId} {symbol : PlayerSymbol} {b : Bool}

/-- The two slots. -/
def slots (room : RoomRecord) : Option PlayerSlot × Option PlayerSlot := (room.playerX, room.playerO)

/-- What a step at time `now` does to the age of a room and to its slots. -/
inductive Ages (now : Millis) (room room' : RoomRecord) : Prop
  | same (hslots : room'.slots = room.slots) (hage : room'.lastActivityAt = room.lastActivityAt)
  /-- A slot has changed, or has been marked again in the very moment in which it was marked before. -/
  | renewed (hage : room'.lastActivityAt = now)
    (hslots : room'.slots ≠ room.slots ∨ ∃ x slot, room.slot x = some slot ∧ slot.lastSeenAt = now)
    (hseen : ∀ x slot, room'.slot x = some slot → slot.lastSeenAt = now ∨ room.slot x = some slot)

theorem Ages.refl (room : RoomRecord) (now : Millis) : Ages now room room := .same rfl rfl

theorem Ages.removePlayer (hslot : getSlotByPlayerId room p ≠ none) : Ages now room (room.removePlayer now p) := by
  unfold RoomRecord.removePlayer
  split
  · rename_i hX
    refine .renewed rfl (Or.inl fun hsame => ?_) fun x slot hx => ?_
    · have hnone : none = room.playerX := congrArg Prod.fst hsame
      rw [← hnone] at hX
      cases hX
    · cases x with
      | X => cases hx
      | O => exact Or.inr hx
  · rename_i hX
    split
    · rename_i hO
      refine .renewed rfl (Or.inl fun hsame => ?_) fun x slot hx => ?_
      · have hnone : none = room.playerO := congrArg Prod.snd hsame
        rw [← hnone] at hO
        cases hO
      · cases x with
        | X => exact Or.inr hx
        | O => cases hx
    · rename_i hO
      refine absurd ?_ hslot
      rw [getSlotByPlayerId, if_neg hX, if_neg hO]

theorem removePlayer_age (room : RoomRecord) (now : Millis) (p : PlayerId) :
    (room.removePlayer now p).lastActivityAt = now := by
  unfold RoomRecord.removePlayer
  split
  · rfl
  · split <;> rfl

theorem isExpired_mono {later : Millis} (hle : now ≤ later) (h : room.isExpired now = true) :
    room.isExpired later = true := by
  simp only [isExpired, decide_eq_true_eq] at h ⊢
  exact lt_of_lt_of_le h (Int.sub_le_sub_right hle _)

theorem slot_of_removePlayer {x : PlayerSymbol} {slot : PlayerSlot} (h : (room.removePlayer now p).slot x = some slot) :
    room.slot x = some slot := by
  unfold RoomRecord.removePlayer at h
  split at h
  · cases x with
    | X => cases h
    | O => exact h
  · split at h
    · cases x with
      | X => exact h
      | O => cases h
    · cases x <;> exact h

/-- A mark that changes nothing was made at the same time. -/
theorem lastSeenAt_of_marked {slot : PlayerSlot} (h : { slot with connected := b, lastSeenAt := now } = slot) :
    slot.lastSeenAt = now := (congrArg PlayerSlot.lastSeenAt h).symm

theorem Ages.setConnected : Ages now room (room.setConnected now p b) := by
  unfold RoomRecord.setConnected
  dsimp only
  split
  · rename_i hX
    obtain ⟨slot, hslot, -⟩ := slotHolds_iff.mp hX
    refine .renewed rfl ?_ fun x slot' hx => ?_
    · by_cases hsame : { slot with connected := b, lastSeenAt := now } = slot
      · exact Or.inr ⟨.X, slot, hslot, lastSeenAt_of_marked hsame⟩
      · refine Or.inl fun h => hsame ?_
        have hfirst : room.playerX.map _ = room.playerX := congrArg Prod.fst h
        rw [hslot] at hfirst
        exact Option.some.inj hfirst
    · cases x with
      | X =>
        obtain ⟨slot₀, -, rfl⟩ := Option.map_eq_some_iff.mp hx
        exact Or.inl rfl
      | O => exact Or.inr hx
  · split
    · rename_i hO
      obtain ⟨slot, hslot, -⟩ := slotHolds_iff.mp hO
      refine .renewed rfl ?_ fun x slot' hx => ?_
      · by_cases hsame : { slot with connected := b, lastSeenAt := now } = slot
        · exact Or.inr ⟨.O, slot, hslot, lastSeenAt_of_marked hsame⟩
        · refine Or.inl fun h => hsame ?_
          have hsecond : room.playerO.map _ = room.playerO := congrArg Prod.snd h
          rw [hslot] at hsecond
          exact Option.some.inj hsecond
      · cases x with
        | X => exact Or.inr hx
        | O =>
          obtain ⟨slot₀, -, rfl⟩ := Option.map_eq_some_iff.mp hx
          exact Or.inl rfl
    · exact .refl room now

theorem Ages.addPlayer {name : Option PlayerName} (h : room.addPlayer now p name = some (symbol, room')) :
    Ages now room (room'.touch now) := by
  unfold RoomRecord.addPlayer at h
  split at h
  · rename_i hX
    obtain rfl := (Prod.mk.inj (Option.some.inj h)).2
    refine .renewed rfl (Or.inl fun hsame => ?_) fun x slot hx => ?_
    · have hsome : some _ = room.playerX := congrArg Prod.fst hsame
      rw [hX] at hsome
      cases hsome
    · cases x with
      | X => exact Or.inl (Option.some.inj hx ▸ rfl)
      | O => exact Or.inr hx
  · split at h
    · rename_i hO
      obtain rfl := (Prod.mk.inj (Option.some.inj h)).2
      refine .renewed rfl (Or.inl fun hsame => ?_) fun x slot hx => ?_
      · have hsome : some _ = room.playerO := congrArg Prod.snd hsame
        rw [hO] at hsome
        cases hsome
      · cases x with
        | X => exact Or.inr hx
        | O => exact Or.inl (Option.some.inj hx ▸ rfl)
    · cases h

end RoomRecord

/-- Every action but a creation and an expired window ages the room as its slots tell. -/
theorem RoomStep.ages {G : IdSource} {now : Millis} {r : RoomId} {lo hi : Nat} {v v' : RoomView} {a : RoomAction}
    {sends : List SendCall} {room' : RoomRecord} (h : RoomStep G now r lo hi v a sends v') (hcreated : a ≠ .created)
    (hfired : ∀ p, a ≠ .windowFired p) (hroom' : v'.room = some room') :
    ∃ room, v.room = some room ∧ RoomRecord.Ages now room room' := by
  have hsame : v'.room = v.room → ∃ room, v.room = some room ∧ RoomRecord.Ages now room room' := fun hroom =>
    ⟨room', hroom.symm.trans hroom', .refl room' now⟩
  cases h with
  | created => exact absurd rfl hcreated
  | windowFired => exact absurd rfl (hfired _)
  | idle | rejoined | readiedAgain | rematchFired | leaveThrew | moved | moveThrew => exact hsame rfl
  | entered hroom hslot hadd => exact ⟨_, hroom, Option.some.inj hroom' ▸ .addPlayer hadd⟩
  | leftIdleRoom hroom hslot | left hroom hslot => exact ⟨_, hroom, Option.some.inj hroom' ▸ .removePlayer hslot⟩
  | reconnectedIdle hroom | reconnected hroom | disconnected hroom | windowArmed hroom =>
    exact ⟨_, hroom, Option.some.inj hroom' ▸ .setConnected⟩
  | readied hroom | startedReady hroom => exact ⟨_, hroom, Option.some.inj hroom' ▸ .same rfl rfl⟩
  | @rematchRequested p room gs gameId hroom hgame =>
    refine ⟨room, hroom, ?_⟩
    obtain rfl := Option.some.inj hroom'
    rcases GameSession.handleRematchRequest_cases gs now room p gameId with h | ⟨_, -, -, -, h⟩ <;> rw [h] <;>
      exact .same rfl rfl
  | @rematchAccepted p room gs gameId unused n hroom hgame =>
    refine ⟨room, hroom, ?_⟩
    obtain rfl := Option.some.inj hroom'
    rcases GameSession.handleRematchAccept_cases gs now (unused, G.gameId n) room p gameId with
      h | ⟨_, _, _, -, -, -, -, -, ⟨-, h⟩ | ⟨-, h⟩⟩ <;> rw [h] <;> exact .same rfl rfl
  | @rematchDeclined p room gs gameId hroom hgame =>
    refine ⟨room, hroom, ?_⟩
    obtain rfl := Option.some.inj hroom'
    rcases GameSession.handleRematchDecline_cases gs room p gameId with h | ⟨_, -, -, h⟩ <;> rw [h] <;>
      exact .same rfl rfl

/-- An action that needs no live room leaves the room. -/
theorem RoomStep.room_offLive {G : IdSource} {now : Millis} {r : RoomId} {lo hi : Nat} {v v' : RoomView} {a : RoomAction}
    {sends : List SendCall} (h : RoomStep G now r lo hi v a sends v') (hcreated : a ≠ .created)
    (hfired : ∀ p, a ≠ .windowFired p) (hoff : a.onLive = false) : v'.room = v.room := by
  cases h with
  | idle | rematchFired => rfl
  | created => exact absurd rfl hcreated
  | windowFired => exact absurd rfl (hfired _)
  | _ => cases hoff

/-- A room's object is never lost. -/
theorem RoomStep.room_kept {G : IdSource} {now : Millis} {r : RoomId} {lo hi : Nat} {v v' : RoomView} {a : RoomAction}
    {sends : List SendCall} (h : RoomStep G now r lo hi v a sends v') (hroom : v.room ≠ none) : v'.room ≠ none := by
  cases h with
  | windowFired hgame htimer hdue hload hroom' =>
    rcases hroom' with h | ⟨room, -, h⟩
    · exact fun hnone => hroom (h.symm.trans hnone)
    · exact fun hnone => by cases h.symm.trans hnone
  | idle | rejoined | readiedAgain | rematchFired | leaveThrew | moved | moveThrew => exact hroom
  | _ => exact Option.some_ne_none _

namespace Server
variable {s t : Server} {G : IdSource} {i : Input} {r : RoomId} {p : PlayerId} {room room' : RoomRecord} {diskFails : Bool}

theorem getRoom_createRoom (store : RoomStore) (now : Millis) (roomId r : RoomId) :
    (store.createRoom now roomId).getRoom now r =
      if roomId = r then some (.fresh roomId now) else store.getRoom now r := by
  simp only [RoomStore.getRoom, RoomStore.createRoom, JsMap.lookup, JsMap.get_set]
  split
  · rename_i hr
    have hlive : (RoomRecord.fresh roomId now).isExpired now = false := RoomRecord.live_of_active rfl
    simp [Option.filter, hlive]
  · rfl

/-! ### Renewals -/

/-- The slots of a room, whether or not the store still has it. -/
def slots (s : Server) (r : RoomId) : Option (Option PlayerSlot × Option PlayerSlot) := (s.view r).room.map RoomRecord.slots

/-- The step from `s` to `t` creates room `r`, is the expiry of a window in it, or takes, frees or marks one of its
slots. -/
def renews (G : IdSource) (s : Server) (i : Input) (t : Server) (r : RoomId) : Bool :=
  match i with
  | .createRoom => r = G.roomId s.nextId
  | .reconnectWindow r' _ _ => r' = r && (s.getRoom r).isSome
  | _ => t.slots r ≠ s.slots r

/-- What a step does to the age of room `r`, whose object it leaves as `room'`. -/
inductive StepAges (G : IdSource) (s : Server) (i : Input) (t : Server) (r : RoomId) (room' : RoomRecord) : Prop
  | renewed (h : renews G s i t r = true) (hlive : (t.getRoom r).isSome) (hage : room'.lastActivityAt = s.now)
    (hseen : ∀ x slot, room'.slot x = some slot →
      slot.lastSeenAt = s.now ∨ ∃ room, (s.view r).room = some room ∧ room.slot x = some slot)
  | kept {room : RoomRecord} (h : renews G s i t r = false) (hroom : (s.view r).room = some room)
    (hslots : room'.slots = room.slots) (hage : room'.lastActivityAt = room.lastActivityAt ∨
      room'.lastActivityAt = s.now ∧ ∃ x slot, room.slot x = some slot ∧ slot.lastSeenAt = s.now)

/-- A step that leaves the room's object leaves its age. -/
theorem StepAges.of_same (h : renews G s i t r = false) (hsame : (t.view r).room = (s.view r).room)
    (hroom' : (t.view r).room = some room') : StepAges G s i t r room' :=
  .kept h (hsame.symm.trans hroom') rfl (Or.inl rfl)

/-- The room after the expiry of a window: the slot is freed in a live room. -/
theorem reconnectWindow_room (h : s.step G (.reconnectWindow r p diskFails) = some t) :
    t.getRoom r = (s.getRoom r).map (fun room => room.removePlayer s.now p) ∧
    ∀ r', (t.view r').room = if r = r' then
      ((s.getRoom r).map fun room => room.removePlayer s.now p).or (s.view r).room else (s.view r').room := by
  simp only [step] at h
  cases hg : s.gameSessions.get r with
  | none => simp [hg] at h
  | some gs =>
    cases htimer : gs.reconnectTimers.get p with
    | none => simp [hg, htimer] at h
    | some timer =>
      simp only [hg, htimer] at h
      split at h
      · split at h
        · cases h
        · rename_i hthrew
          obtain rfl := Option.some.inj h
          generalize he : gs.expireReconnectWindow s.now s.historyRepository diskFails p timer.symbol = expired
          have hfire : (s.fireReconnectWindow r gs p timer diskFails).1 = (s.applyEffect r expired).onPlayerLeft r p := by
            unfold fireReconnectWindow at hthrew ⊢
            rw [he] at hthrew ⊢
            cases hx : expired.threw with
            | true => simp [hx] at hthrew
            | false => simp [hx]
          have hnow : (s.applyEffect r expired).now = s.now := by simp [applyEffect, applyEmitted, putGame]
          have hview : ∀ r', ((s.applyEffect r expired).view r').room = (s.view r').room := by
            intro r'
            rw [view_applyEffect]
            split <;> rfl
          rw [hfire]
          refine ⟨?_, fun r' => ?_⟩
          · rw [onPlayerLeft_getRoom, if_pos rfl, getRoom_applyEffect, hnow]
          · rw [onPlayerLeft_view, getRoom_applyEffect, hnow]
            split
            · exact congrArg (Option.or _) (hview r)
            · exact hview r'
      · cases h

/-- All other inputs renew a room only through its slots. -/
theorem step_ages_slots (hk : s.Keyed) (h : s.step G i = some t) (hcreate : i ≠ .createRoom)
    (hfire : ∀ r p diskFails, i ≠ .reconnectWindow r p diskFails) (hroom' : (t.view r).room = some room') :
    StepAges G s i t r room' := by
  have hrenews : renews G s i t r = decide (t.slots r ≠ s.slots r) := by
    cases i with
    | createRoom => exact absurd rfl hcreate
    | reconnectWindow r p diskFails => exact absurd rfl (hfire r p diskFails)
    | _ => rfl
  have hsame : (t.view r).room = (s.view r).room → StepAges G s i t r room' := fun hroom =>
    .of_same (by simp [hrenews, slots, hroom]) hroom hroom'
  rcases step_view hk h r with hview | ⟨a, hacts, hcause⟩
  · exact hsame (congrArg RoomView.room hview)
  obtain ⟨sends, hstep, -⟩ := hacts.step
  have hcreated : a ≠ .created := fun ha => hcreate (by subst ha; exact hcause)
  have hfired : ∀ p, a ≠ .windowFired p := by
    rintro p rfl
    obtain ⟨diskFails, hwindow⟩ := hcause
    exact hfire r p diskFails hwindow
  cases hoff : a.onLive with
  | false => exact hsame (hstep.room_offLive hcreated hfired hoff)
  | true =>
    obtain ⟨room, hroom, hages⟩ := hstep.ages hcreated hfired hroom'
    have hequal : t.slots r = s.slots r ↔ room'.slots = room.slots := by simp [slots, hroom, hroom']
    cases hages with
    | same hslots hage => exact .kept (by simp [hrenews, hequal.mpr hslots]) hroom hslots (Or.inl hage)
    | renewed hage hchanged hseen =>
      by_cases hslots : room'.slots = room.slots
      · exact .kept (by simp [hrenews, hequal.mpr hslots]) hroom hslots
          (Or.inr ⟨hage, hchanged.resolve_left (not_not_intro hslots)⟩)
      · have hlive : (t.getRoom r).isSome = (s.getRoom r).isSome :=
          (hacts.alive r).resolve_left fun h => hcreated h.2
        exact .renewed (by simp [hrenews, mt hequal.mp hslots]) (hlive.trans (hacts.onLive hoff)) hage
          fun x slot hx => (hseen x slot hx).imp id fun hold => ⟨room, hroom, hold⟩

theorem step_ages (hk : s.Keyed) (h : s.step G i = some t) (hroom' : (t.view r).room = some room') :
    StepAges G s i t r room' := by
  cases i with
  | createRoom =>
    obtain rfl := Option.some.inj h
    by_cases hr : r = G.roomId s.nextId
    · subst hr
      have hroom := (getRoom_createRoom s.rooms s.now (G.roomId s.nextId) (G.roomId s.nextId)).trans (if_pos rfl)
      have hobject := RoomStore.object_of_get (RoomStore.getRoom_eq_some.mp hroom).1
      obtain rfl := Option.some.inj (hobject.symm.trans hroom')
      refine .renewed (decide_eq_true rfl) (Option.isSome_of_eq_some hroom) rfl fun x slot hx => ?_
      cases x <;> cases hx
    · refine .of_same (decide_eq_false hr) ?_ hroom'
      exact RoomStore.object_createRoom.trans (if_neg (Ne.symm hr))
  | reconnectWindow r' p diskFails =>
    obtain ⟨hget, hview⟩ := reconnectWindow_room h
    by_cases hr : r' = r
    · subst hr
      cases hroom : s.getRoom r' with
      | none =>
        refine .of_same (by simp [renews, hroom]) ?_ hroom'
        rw [hview, if_pos rfl, hroom]
        rfl
      | some room =>
        rw [hview, if_pos rfl, hroom] at hroom'
        obtain rfl := Option.some.inj hroom'
        exact .renewed (by simp [renews, hroom]) (by simp [hget, hroom]) (room.removePlayer_age s.now p)
          fun x slot hx => Or.inr ⟨room, view_room_of_getRoom hroom, RoomRecord.slot_of_removePlayer hx⟩
    · refine .of_same (by simp [renews, hr]) ?_ hroom'
      rw [hview, if_neg hr]
  | _ => exact step_ages_slots hk h (by simp) (by simp) hroom'

theorem renews_room (h : s.step G i = some t) (hkept : (t.view r).room = none → (s.view r).room = none)
    (hrenews : renews G s i t r = true) : (t.view r).room ≠ none := by
  cases i with
  | createRoom =>
    obtain rfl := Option.some.inj h
    obtain rfl : r = G.roomId s.nextId := of_decide_eq_true hrenews
    intro hnone
    cases (RoomStore.object_createRoom.trans (if_pos rfl)).symm.trans hnone
  | reconnectWindow r' p diskFails =>
    simp only [renews, Bool.and_eq_true, decide_eq_true_eq] at hrenews
    obtain ⟨rfl, hlive⟩ := hrenews
    obtain ⟨room, hroom⟩ := Option.isSome_iff_exists.mp hlive
    rw [(reconnectWindow_room h).2 r', if_pos rfl, hroom]
    exact Option.some_ne_none _
  | _ =>
    intro hnone
    have hsame : t.slots r = s.slots r := by rw [slots, slots, hnone, hkept hnone]
    exact absurd hsame (of_decide_eq_true hrenews)

/-- A live room is lost by the passing of time alone. -/
theorem expired_of_lost (hk : s.Keyed) (h : s.step G i = some t) (hlive : s.getRoom r = some room)
    (hdead : t.getRoom r = none) : room.isExpired t.now = true := by
  rcases step_acts hk h with ⟨elapsed, -, rfl⟩ | ⟨r', a, hacts, hcause⟩
  · by_contra hfresh
    have hroom := RoomStore.getRoom_eq_some.mpr ⟨(RoomStore.getRoom_eq_some.mp hlive).1, Bool.eq_false_iff.mpr hfresh⟩
    cases hroom.symm.trans hdead
  rcases hacts.alive r with ⟨rfl, rfl⟩ | hsame
  · have hcreate : i = .createRoom := hcause
    subst hcreate
    obtain rfl := Option.some.inj h
    have hroom := getRoom_createRoom s.rooms s.now (G.roomId s.nextId) r
    split at hroom
    · cases hroom.symm.trans hdead
    · cases (hroom.trans hlive).symm.trans hdead
  · rw [hlive, hdead] at hsame
    cases hsame

/-! ### The history of a run -/

/-- A step that has been taken. -/
structure TakenStep where
  before : Server
  input : Input
  after : Server

/-- The server that also keeps the steps it has taken. -/
abbrev Remembering (G : IdSource) : Server × List TakenStep → Input → Option (Server × List TakenStep) :=
  Transition.logged (step G) fun s i t => [⟨s, i, t⟩]

/-- Room `r` has been renewed in the last `ROOM_TTL_MS`. -/
def RenewedWithin (G : IdSource) (s : Server) (history : List TakenStep) (r : RoomId) : Prop :=
  ∃ taken ∈ history, renews G taken.before taken.input taken.after r = true ∧
    s.now - taken.before.now ≤ ROOM_TTL_MS

/-- The ages of the rooms and the renewals in the history agree, and only rooms that are too old are dead. -/
structure Dated (G : IdSource) (s : Server) (history : List TakenStep) : Prop where
  keyed : s.Keyed
  unborn : ∀ r, (s.view r).room = none → ∀ taken ∈ history, renews G taken.before taken.input taken.after r = false
  renewed : ∀ r room, (s.view r).room = some room → ∃ taken ∈ history,
    renews G taken.before taken.input taken.after r = true ∧ taken.before.now = room.lastActivityAt
  latest : ∀ r room, (s.view r).room = some room → ∀ taken ∈ history,
    renews G taken.before taken.input taken.after r = true → taken.before.now ≤ room.lastActivityAt
  seen : ∀ r room x slot, (s.view r).room = some room → room.slot x = some slot →
    slot.lastSeenAt ≤ room.lastActivityAt
  past : ∀ r room, (s.view r).room = some room → room.lastActivityAt ≤ s.now
  dead : ∀ r room, (s.view r).room = some room → s.getRoom r = none → room.isExpired s.now = true

namespace Dated
variable {history : List TakenStep}

/-- A room is live as long as a renewal is recent. -/
theorem live_iff (h : Dated G s history) (r : RoomId) : (s.getRoom r).isSome = true ↔ RenewedWithin G s history r := by
  constructor
  · intro hlive
    obtain ⟨room, hroom⟩ := Option.isSome_iff_exists.mp hlive
    obtain ⟨taken, htaken, hrenews, hnow⟩ := h.renewed r room (view_room_of_getRoom hroom)
    refine ⟨taken, htaken, hrenews, ?_⟩
    rw [hnow]
    simpa [RoomRecord.isExpired] using (RoomStore.getRoom_eq_some.mp hroom).2
  · rintro ⟨taken, htaken, hrenews, hrecent⟩
    cases hroom : (s.view r).room with
    | none =>
      rw [h.unborn r hroom taken htaken] at hrenews
      cases hrenews
    | some room =>
      by_contra hdead
      have hexpired := h.dead r room hroom (Option.not_isSome_iff_eq_none.mp hdead)
      have hle := h.latest r room hroom taken htaken hrenews
      have hage : s.now - room.lastActivityAt ≤ s.now - taken.before.now := Int.sub_le_sub_left hle s.now
      simp only [RoomRecord.isExpired, decide_eq_true_eq] at hexpired
      exact absurd hexpired (not_lt.mpr (hage.trans hrecent))

/-- A mark in the very moment of an earlier one leaves the age. -/
theorem age_kept (h : Dated G s history) (hroom : (s.view r).room = some room)
    (hage : room'.lastActivityAt = room.lastActivityAt ∨
      room'.lastActivityAt = s.now ∧ ∃ x slot, room.slot x = some slot ∧ slot.lastSeenAt = s.now) :
    room'.lastActivityAt = room.lastActivityAt := by
  rcases hage with hage | ⟨hage, x, slot, hx, hseen⟩
  · exact hage
  · refine hage.trans (le_antisymm ?_ (h.past r room hroom))
    exact hseen.ge.trans (h.seen r room x slot hroom hx)

theorem start (now : Millis) (version : String) (repository : HistoryRepository) :
    Dated G (Server.start now version repository) [] where
  keyed := start_keyed now version repository
  unborn _ _ _ h := by cases h
  renewed _ _ h := by cases h
  latest _ _ h := by cases h
  seen _ _ _ _ h := by cases h
  past _ _ h := by cases h
  dead _ _ h := by cases h

theorem step {t : Server} (h : Dated G s history) (hstep : s.step G i = some t) :
    Dated G t (history ++ [⟨s, i, t⟩]) := by
  have hages : ∀ r room', (t.view r).room = some room' → StepAges G s i t r room' :=
    fun _ _ hroom' => step_ages h.keyed hstep hroom'
  have hnow : s.now ≤ t.now := by
    rcases step_acts h.keyed hstep with ⟨elapsed, -, rfl⟩ | ⟨r, a, hacts, -⟩
    · exact Int.le_add_of_nonneg_right (Int.natCast_nonneg _)
    · exact hacts.now.ge
  have hkept : ∀ r, (t.view r).room = none → (s.view r).room = none := by
    intro r hnone
    by_contra hroom
    rcases step_view h.keyed hstep r with hview | ⟨a, hacts, -⟩
    · exact hroom (hview ▸ hnone)
    · obtain ⟨sends, hroomStep, -⟩ := hacts.step
      exact hroomStep.room_kept hroom hnone
  refine ⟨h.keyed.step hstep, fun r hnone taken htaken => ?_, fun r room' hroom' => ?_,
    fun r room' hroom' taken htaken => ?_, fun r room' x slot hroom' hx => ?_, fun r room' hroom' => ?_,
    fun r room' hroom' hdead => ?_⟩
  · rcases List.mem_append.mp htaken with htaken | htaken
    · exact h.unborn r (hkept r hnone) taken htaken
    · obtain rfl := List.mem_singleton.mp htaken
      by_contra hrenews
      exact renews_room hstep (hkept r) (by simpa using hrenews) hnone
  · cases hages r room' hroom' with
    | renewed hrenews hlive hage hseen =>
      exact ⟨_, List.mem_append_right _ (List.mem_singleton_self _), hrenews, hage.symm⟩
    | kept hrenews hroom hslots hage =>
      obtain ⟨taken, htaken, hrenewed, hdate⟩ := h.renewed r _ hroom
      exact ⟨taken, List.mem_append_left _ htaken, hrenewed, hdate.trans (h.age_kept hroom hage).symm⟩
  · intro hrenewed
    rcases List.mem_append.mp htaken with htaken | htaken
    · cases hages r room' hroom' with
      | renewed hrenews hlive hage hseen =>
        rw [hage]
        cases hroom : (s.view r).room with
        | none =>
          rw [h.unborn r hroom taken htaken] at hrenewed
          cases hrenewed
        | some room => exact (h.latest r room hroom taken htaken hrenewed).trans (h.past r room hroom)
      | kept hrenews hroom hslots hage =>
        rw [h.age_kept hroom hage]
        exact h.latest r _ hroom taken htaken hrenewed
    · obtain rfl := List.mem_singleton.mp htaken
      cases hages r room' hroom' with
      | renewed hrenews hlive hage hseen => exact hage.ge
      | kept hrenews hroom hslots hage =>
        rw [hrenews] at hrenewed
        cases hrenewed
  · cases hages r room' hroom' with
    | renewed hrenews hlive hage hseen =>
      rw [hage]
      rcases hseen x slot hx with hnow | ⟨room, hroom, hold⟩
      · exact hnow.le
      · exact (h.seen r room x slot hroom hold).trans (h.past r room hroom)
    | @kept room hrenews hroom hslots hage =>
      rw [h.age_kept hroom hage]
      refine h.seen r room x slot hroom ?_
      cases x with
      | X => exact (congrArg Prod.fst hslots).symm.trans hx
      | O => exact (congrArg Prod.snd hslots).symm.trans hx
  · cases hages r room' hroom' with
    | renewed hrenews hlive hage hseen => exact hage.le.trans hnow
    | kept hrenews hroom hslots hage => exact (h.age_kept hroom hage).le.trans ((h.past r _ hroom).trans hnow)
  · cases hages r room' hroom' with
    | renewed hrenews hlive hage hseen =>
      rw [hdead] at hlive
      cases hlive
    | @kept room hrenews hroom hslots hage =>
      have hexpired : room.isExpired t.now = true := by
        cases hlive : s.getRoom r with
        | none => exact RoomRecord.isExpired_mono hnow (h.dead r room hroom hlive)
        | some live =>
          obtain rfl := Option.some.inj ((view_room_of_getRoom hlive).symm.trans hroom)
          exact expired_of_lost h.keyed hstep hlive hdead
      simp only [RoomRecord.isExpired] at hexpired ⊢
      rwa [h.age_kept hroom hage]

end Dated

/-! ### Activity -/

/-- The recorded response that a successful command of this kind leaves. -/
def successful : CommandBody → WireEvent → Bool
  | .joinRoom .., .event (.room ⟨_, _, _, .roomJoined ..⟩) => true
  | .playerReady _, .event (.room ⟨_, _, _, .playerReadyAck _⟩) => true
  | .makeMove .., .event (.room ⟨_, _, _, .moveAck ..⟩) => true
  | .reconnect .., .event (.room ⟨_, _, _, .reconnectAck ..⟩) => true
  | .requestRematch .., .processed => true
  | .acceptRematch .., .processed => true
  | _, _ => false

/-- The room in which the step processes a slot holder's command successfully. -/
def TakenStep.activity (taken : TakenStep) : Option RoomId :=
  match taken.before.processed taken.input with
  | none => none
  | some (⟨id, body⟩, p) => body.concerns.filter fun r =>
      (taken.after.cached id).any (fun entry => successful body entry.result) &&
        (taken.after.getRoom r).any fun room => (getSlotByPlayerId room p).isSome

/-- A slot holder has been active in room `r` in the last `ROOM_TTL_MS`. -/
def ActiveWithin (s : Server) (history : List TakenStep) (r : RoomId) : Prop :=
  ∃ taken ∈ history, taken.activity = some r ∧ s.now - taken.before.now ≤ ROOM_TTL_MS

end Server

open Server

/-- Activity keeps a room alive exactly if it goes with a renewal: the creation of the room, a slot that is taken, freed
or marked, or the expiry of a reconnect window. -/
theorem activity_keeps_room {G : IdSource} {now : Millis} {version : String} {repository : HistoryRepository}
    {s : Server} {history : List TakenStep} (r : RoomId)
    (hrun : Transition.Runs (Remembering G) (fun _ _ => True) (start now version repository, []) (s, history)) :
    (ActiveWithin s history r →
      (s.getRoom r).isSome = true ∧ ((s.rooms.purgeExpired s.now).rooms.get r).isSome = true) ↔
    (ActiveWithin s history r → RenewedWithin G s history r) := by
  have hd : Dated G s history := hrun.invariant (P := fun x => Dated G x.1 x.2) (Dated.start now version repository)
    fun x y i hx _ hstep => by
      obtain ⟨h, hlog⟩ := Transition.logged_eq_some.mp hstep
      rw [hlog]
      exact hx.step h
  have hpurge : (s.getRoom r).isSome = true → ((s.rooms.purgeExpired s.now).rooms.get r).isSome = true := by
    intro hlive
    obtain ⟨room, hroom⟩ := Option.isSome_iff_exists.mp hlive
    have hkept : (s.rooms.purgeExpired s.now).getRoom s.now r = some room := RoomStore.getRoom_purgeExpired.trans hroom
    exact Option.isSome_of_eq_some (RoomStore.getRoom_eq_some.mp hkept).1
  constructor
  · exact fun h hactive => (hd.live_iff r).mp (h hactive).1
  · intro h hactive
    have hlive := (hd.live_iff r).mpr (h hactive)
    exact ⟨hlive, hpurge hlive⟩

/-- Player 1 moves a few hours after the start of the game. -/
theorem activity_keeps_room_move : ∃ s history,
    Transition.Runs (Remembering tallies) (fun _ _ => True) (fresh, []) (s, history) ∧
    ActiveWithin s history (tally 'r' 4) ∧ RenewedWithin tallies s history (tally 'r' 4) ∧
    (s.getRoom (tally 'r' 4)).isSome = true := by
  have hcheck : (Transition.run (Remembering tallies) (fun _ _ => true) (fresh, [])
      (opening ++ [.tick 10000000, plays 0 "move1" 0 0])).any (fun x =>
      (x.2.any fun taken => taken.activity = some (tally 'r' 4) && x.1.now - taken.before.now ≤ ROOM_TTL_MS) &&
      x.2.any fun taken => renews tallies taken.before taken.input taken.after (tally 'r' 4) &&
        x.1.now - taken.before.now ≤ ROOM_TTL_MS) = true := by decide +kernel
  obtain ⟨⟨s, history⟩, hrun, hs⟩ := Transition.exists_run (C := fun _ _ => True) (fun _ _ _ => trivial) hcheck
  simp only [Bool.and_eq_true, List.any_eq_true, decide_eq_true_eq] at hs
  obtain ⟨hactive, hrenewed⟩ := hs
  exact ⟨s, history, hrun, hactive, hrenewed, ((activity_keeps_room (tally 'r' 4) hrun).mpr (fun _ => hrenewed) hactive).1⟩

/-- The game of the opening goes on with one move in half a day. On the second day the room is gone, in the middle of
the game. -/
theorem room_expires_in_game : ∃ s history,
    Transition.Runs (Remembering tallies) (fun _ _ => True) (fresh, []) (s, history) ∧
    ActiveWithin s history (tally 'r' 4) ∧ s.getRoom (tally 'r' 4) = none ∧
    (s.rooms.purgeExpired s.now).rooms.get (tally 'r' 4) = none ∧
    ∃ state, s.gameState (tally 'r' 4) = some state ∧ state.status = .active := by
  have hcheck : (Transition.run (Remembering tallies) (fun _ _ => true) (fresh, [])
      (opening ++ [.tick 50000000, plays 0 "move1" 0 0, .tick 50000000])).any (fun x =>
      (x.2.any fun taken => taken.activity = some (tally 'r' 4) && x.1.now - taken.before.now ≤ ROOM_TTL_MS) &&
      (x.1.getRoom (tally 'r' 4)).isNone && ((x.1.rooms.purgeExpired x.1.now).rooms.get (tally 'r' 4)).isNone &&
      (x.1.gameState (tally 'r' 4)).any fun state => state.status = .active) = true := by decide +kernel
  obtain ⟨⟨s, history⟩, hrun, hs⟩ := Transition.exists_run (C := fun _ _ => True) (fun _ _ _ => trivial) hcheck
  simp only [Bool.and_eq_true, List.any_eq_true, Option.any_eq_true, decide_eq_true_eq, Option.isNone_iff_eq_none] at hs
  obtain ⟨⟨⟨hactive, hdead⟩, hpurged⟩, state, hstate, hstatus⟩ := hs
  exact ⟨s, history, hrun, hactive, hdead, hpurged, state, hstate, hstatus⟩

end TicTacToe

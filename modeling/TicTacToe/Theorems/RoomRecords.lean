import TicTacToe.Theorems.Seats

/-! # Room records

The record of a room is written by joins, leaves, expired windows, ready marks and starts of games. Each of
these keeps its two slots and its ready marks in order. -/

namespace TicTacToe
namespace RoomRecord
variable {room room' : RoomRecord} {now : Millis} {p : PlayerId} {symbol : PlayerSymbol}

/-- What holds of a room's record between steps. -/
structure Sound (room : RoomRecord) : Prop where
  symbols : ∀ x slot, room.slot x = some slot → slot.symbol = x
  distinct : room.Distinct
  occupied : ∀ x ∈ room.readySymbols, room.slot x ≠ none
  incomplete : ¬(.X ∈ room.readySymbols ∧ .O ∈ room.readySymbols)

theorem Sound.fresh (r : RoomId) (now : Millis) : (RoomRecord.fresh r now).Sound where
  symbols x slot h := by cases x <;> simp [RoomRecord.fresh, RoomRecord.slot] at h
  distinct q h := by simp [RoomRecord.fresh, slotHolds] at h
  occupied x h := by simp [RoomRecord.fresh] at h
  incomplete h := by simp [RoomRecord.fresh] at h

/-- Records with the same slots and ready marks are sound together. -/
theorem Sound.of_same (h : room.Sound) (hslot : ∀ x, room'.slot x = room.slot x)
    (hready : room'.readySymbols = room.readySymbols) : room'.Sound where
  symbols x slot hx := h.symbols x slot ((hslot x).symm.trans hx)
  distinct q hX := by
    have hX' : slotHolds (room'.slot .X) q = true := hX
    have hO : slotHolds (room'.slot .O) q = slotHolds room'.playerO q := rfl
    rw [hslot] at hX'
    rw [← hO, hslot]
    exact h.distinct q hX'
  occupied x hx := by
    rw [hslot]
    exact h.occupied x (hready ▸ hx)
  incomplete hboth := h.incomplete (hready ▸ hboth)

theorem Sound.touch (h : room.Sound) (now : Millis) : (room.touch now).Sound :=
  h.of_same (fun x => by cases x <;> rfl) rfl

theorem readySymbols_setConnected (room : RoomRecord) (now : Millis) (p : PlayerId) (b : Bool) :
    (room.setConnected now p b).readySymbols = room.readySymbols := by
  unfold setConnected
  dsimp only
  split
  · rfl
  · split <;> rfl

theorem readySymbols_addPlayer {name : Option PlayerName} (h : room.addPlayer now p name = some (symbol, room')) :
    room'.readySymbols = room.readySymbols := by
  unfold addPlayer at h
  split at h
  · exact (Prod.mk.inj (Option.some.inj h)).2 ▸ rfl
  · split at h
    · exact (Prod.mk.inj (Option.some.inj h)).2 ▸ rfl
    · cases h

/-- Removing a player removes the ready mark of the slot with it. -/
theorem mem_readySymbols_removePlayer {x : PlayerSymbol} (hd : room.Distinct)
    (h : x ∈ (room.removePlayer now p).readySymbols) :
    x ∈ room.readySymbols ∧ slotHolds (room.slot x) p = false := by
  unfold removePlayer at h
  split at h
  · rename_i hX
    obtain ⟨hx, hne⟩ := JsSet.mem_delete.mp h
    cases x with
    | X => exact absurd rfl hne
    | O => exact ⟨hx, hd p hX⟩
  · rename_i hX
    split at h
    · obtain ⟨hx, hne⟩ := JsSet.mem_delete.mp h
      cases x with
      | X => exact ⟨hx, Bool.eq_false_iff.mpr hX⟩
      | O => exact absurd rfl hne
    · rename_i hO
      cases x with
      | X => exact ⟨h, Bool.eq_false_iff.mpr hX⟩
      | O => exact ⟨h, Bool.eq_false_iff.mpr hO⟩

/-! ### The operations -/

theorem Sound.setConnected (h : room.Sound) (now : Millis) (p : PlayerId) (b : Bool) :
    (room.setConnected now p b).Sound where
  symbols x slot hx := by
    rw [setConnected_slot h.distinct] at hx
    split at hx
    · obtain ⟨slot₀, h₀, rfl⟩ := Option.map_eq_some_iff.mp hx
      exact h.symbols x slot₀ h₀
    · exact h.symbols x slot hx
  distinct q hX := by
    have hslot : ∀ x, slotHolds ((room.setConnected now p b).slot x) q = slotHolds (room.slot x) q := by
      intro x
      rw [setConnected_slot h.distinct]
      split
      · exact slotHolds_setConnected _ _ _ _
      · rfl
    exact (hslot .O).trans (h.distinct q ((hslot .X).symm.trans hX))
  occupied x hx := by
    have hold := h.occupied x (readySymbols_setConnected room now p b ▸ hx)
    rw [setConnected_slot h.distinct]
    split
    · simpa using hold
    · exact hold
  incomplete hboth := h.incomplete (readySymbols_setConnected room now p b ▸ hboth)

theorem Sound.removePlayer (h : room.Sound) (now : Millis) (p : PlayerId) : (room.removePlayer now p).Sound where
  symbols x slot hx := by
    rw [removePlayer_slot h.distinct] at hx
    split at hx
    · cases hx
    · exact h.symbols x slot hx
  distinct q hX := by
    have hslot : ∀ x, slotHolds ((room.removePlayer now p).slot x) q = true → slotHolds (room.slot x) q = true := by
      intro x hx
      rw [removePlayer_slot h.distinct] at hx
      split at hx
      · cases hx
      · exact hx
    have hold := h.distinct q (hslot .X hX)
    refine Bool.eq_false_iff.mpr fun hO => ?_
    have hheld : slotHolds room.playerO q = true := hslot .O hO
    rw [hold] at hheld
    cases hheld
  occupied x hx := by
    obtain ⟨hready, hother⟩ := mem_readySymbols_removePlayer h.distinct hx
    rw [removePlayer_slot h.distinct, if_neg (by simp [hother])]
    exact h.occupied x hready
  incomplete hboth := h.incomplete
    ⟨(mem_readySymbols_removePlayer h.distinct hboth.1).1, (mem_readySymbols_removePlayer h.distinct hboth.2).1⟩

theorem Sound.addPlayer {name : Option PlayerName} (h : room.Sound) (hnew : getSlotByPlayerId room p = none)
    (hadd : room.addPlayer now p name = some (symbol, room')) : room'.Sound := by
  obtain ⟨hfree, hslot⟩ := addPlayer_slot hadd
  have hother := getSlotByPlayerId_none.mp hnew
  have hready := readySymbols_addPlayer hadd
  refine ⟨fun x slot hx => ?_, fun q hX => ?_, fun x hx => ?_, fun hboth => h.incomplete (hready ▸ hboth)⟩
  · rw [hslot] at hx
    split at hx
    · rename_i hxs
      obtain rfl := Option.some.inj hx
      exact hxs.symm
    · exact h.symbols x slot hx
  · -- The newcomer holds no other slot.
    refine Bool.eq_false_iff.mpr fun hO => ?_
    have hX' : slotHolds (room'.slot .X) q = true := hX
    have hO' : slotHolds (room'.slot .O) q = true := hO
    rw [hslot] at hX' hO'
    have hfresh : ∀ x, slotHolds (some (⟨p, symbol, name, true, now⟩ : PlayerSlot)) q = true →
        slotHolds (room.slot x) q = true → False := by
      intro x hq hheld
      have hq' : p = q := by simpa [slotHolds] using hq
      rw [← hq', hother x] at hheld
      cases hheld
    cases symbol with
    | X => exact hfresh .O hX' hO'
    | O => exact hfresh .X hO' hX'
  · have hold := h.occupied x (hready ▸ hx)
    rw [hslot]
    split
    · simp
    · exact hold

theorem Sound.markReady (h : room.Sound) (hsymbol : getSymbolForPlayer room p = some symbol)
    (hboth : (room.markReady symbol).bothReady = false) : (room.markReady symbol).Sound where
  symbols x slot hx := h.symbols x slot (by cases x <;> exact hx)
  distinct := h.distinct
  occupied x hx := by
    have hslot : (room.markReady symbol).slot x = room.slot x := by cases x <;> rfl
    rw [hslot]
    rcases JsSet.mem_add.mp hx with rfl | hold
    · obtain ⟨slot, hs, -⟩ := slotHolds_iff.mp (slotHolds_of_symbol hsymbol)
      simp [hs]
    · exact h.occupied x hold
  incomplete hready := by
    rw [bothReady, decide_eq_true hready.1, decide_eq_true hready.2] at hboth
    cases hboth

theorem Sound.resetReady (h : room.Sound) : room.resetReady.Sound where
  symbols x slot hx := h.symbols x slot (by cases x <;> exact hx)
  distinct := h.distinct
  occupied x hx := by simp [RoomRecord.resetReady] at hx
  incomplete hready := by simp [RoomRecord.resetReady] at hready

end RoomRecord

/-- The record of the room is sound. -/
def RoomView.Sound (v : RoomView) : Prop := ∀ room, v.room = some room → room.Sound

/-- Every step of a room keeps its record sound. -/
theorem RoomStep.sound {G : IdSource} {now : Millis} {r : RoomId} {lo hi : Nat} {v v' : RoomView} {a : RoomAction}
    {sends : List SendCall} (h : RoomStep G now r lo hi v a sends v') (hs : v.Sound) : v'.Sound := by
  intro room' hroom'
  cases h with
  | created => exact Option.some.inj hroom' ▸ .fresh r now
  | idle | rejoined | readiedAgain | leaveThrew | moved | moveThrew | rematchFired => exact hs room' hroom'
  | entered hroom hslot hadd => exact Option.some.inj hroom' ▸ ((hs _ hroom).addPlayer hslot hadd).touch now
  | leftIdleRoom hroom | left hroom => exact Option.some.inj hroom' ▸ (hs _ hroom).removePlayer now _
  | readied hroom hsymbol hready hboth => exact Option.some.inj hroom' ▸ (hs _ hroom).markReady hsymbol hboth
  | startedReady hroom =>
    -- The complete ready set is consumed by the start.
    obtain rfl := Option.some.inj hroom'
    exact (hs _ hroom).resetReady
  | @rematchRequested p room gs gameId hroom hgame =>
    obtain rfl := Option.some.inj hroom'
    rcases GameSession.handleRematchRequest_cases gs now room p gameId with h | ⟨symbol, -, -, -, h⟩ <;> rw [h] <;>
      exact hs room hroom
  | @rematchAccepted p room gs gameId unused n hroom hgame hlo hhi =>
    obtain rfl := Option.some.inj hroom'
    rcases GameSession.handleRematchAccept_cases gs now (unused, G.gameId n) room p gameId with
      h | ⟨_, _, _, -, -, -, -, -, ⟨-, h⟩ | ⟨-, h⟩⟩ <;> rw [h]
    · exact hs room hroom
    · exact hs room hroom
    · exact (hs room hroom).resetReady
  | @rematchDeclined p room gs gameId hroom hgame =>
    obtain rfl := Option.some.inj hroom'
    rcases GameSession.handleRematchDecline_cases gs room p gameId with h | ⟨symbol, -, -, h⟩ <;> rw [h] <;>
      exact hs room hroom
  | reconnectedIdle hroom | reconnected hroom | disconnected hroom | windowArmed hroom =>
    exact Option.some.inj hroom' ▸ (hs _ hroom).setConnected now _ _
  | windowFired hgame htimer hdue hload hroom hthrew =>
    rcases hroom with rfl | ⟨room, hroom, rfl⟩
    · exact hs room' hroom'
    · exact Option.some.inj hroom' ▸ (hs room hroom).removePlayer now _

open Server

/-- Between steps the record of every live room is sound. -/
theorem room_record_sound {G : IdSource} {C : Server → Input → Prop} {now : Millis} {version : String}
    {repository : HistoryRepository} {s : Server} {r : RoomId} {room : RoomRecord}
    (h : Runs G C (start now version repository) s) (hroom : s.getRoom r = some room) : room.Sound := by
  have hinv : s.Keyed ∧ ∀ r, (s.view r).Sound := by
    refine h.invariant (P := fun s => s.Keyed ∧ ∀ r, (s.view r).Sound)
      ⟨start_keyed now version repository, fun r room hroom => ?_⟩ fun s t i hs _ hstep => ⟨hs.1.step hstep, fun r => ?_⟩
    · simp [view, start, RoomStore.empty, RoomStore.object] at hroom
    · rcases step_view hs.1 hstep r with hview | ⟨a, hacts, -⟩
      · exact hview ▸ hs.2 r
      · obtain ⟨sends, hroomStep, -⟩ := hacts.step
        exact hroomStep.sound (hs.2 r)
  exact hinv.2 r room (view_room_of_getRoom hroom)

/-- Two players, of whom one is ready. -/
theorem room_record_sound_ready : ∃ s room, Runs tallies (fun _ _ => True) fresh s ∧
    s.getRoom (tally 'r' 4) = some room ∧ room.readySymbols = [.X] ∧ room.Sound := by
  have hcheck : (Transition.run (step tallies) (fun _ _ => true) fresh (opening.take 8)).any (fun s =>
      (s.getRoom (tally 'r' 4)).any fun room => room.readySymbols = [.X]) = true := by decide +kernel
  obtain ⟨s, hrun, hs⟩ := Transition.exists_run (C := fun _ _ => True) (fun _ _ _ => trivial) hcheck
  simp only [Option.any_eq_true, decide_eq_true_eq] at hs
  obtain ⟨room, hroom, hready⟩ := hs
  exact ⟨s, room, hrun, hroom, hready, room_record_sound hrun hroom⟩

end TicTacToe

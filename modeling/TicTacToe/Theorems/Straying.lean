import TicTacToe.Theorems.HandlerTurns
import TicTacToe.Theorems.Outsiders

/-! # Straying players

A player who has a slot in a live room, and is let into another one or tries a move there, gets to see the events of the
other room. As long as nobody strays, a player has slots in one live room at most, and is told of no other one. -/

namespace TicTacToe
namespace Server
variable {s t : Server} {r r' : RoomId} {G : IdSource} {c : ConnectionId} {id : CommandId} {token : SessionToken}
  {p : PlayerId} {i : Input} {room : RoomRecord} {session : PlayerSession}

/-! ### Slots of live rooms -/

theorem inRoom_iff : s.InRoom r p ↔ (s.getRoom r).isSome = true ∧ (s.view r).Holds p := by
  constructor
  · rintro ⟨room, hroom, x, hx⟩
    exact ⟨Option.isSome_of_eq_some hroom, room, x, view_room_of_getRoom hroom, hx⟩
  · rintro ⟨hlive, room, x, hview, hx⟩
    obtain ⟨room', hroom'⟩ := Option.isSome_iff_exists.mp hlive
    obtain rfl := Option.some.inj ((view_room_of_getRoom hroom').symm.trans hview)
    exact ⟨room', hroom', x, hx⟩

theorem slot_eq_none : s.slot r p = none ↔ ¬s.InRoom r p := by
  cases hroom : s.getRoom r with
  | none => simp [slot, InRoom, hroom]
  | some room => simp [slot, InRoom, hroom, RoomRecord.getSlotByPlayerId_none, RoomRecord.Holds]

/-! ### Straying -/

/-- The player has no slot in room `r`, but one in another live room. -/
def seatedElsewhere (s : Server) (p : PlayerId) (r : RoomId) : Bool :=
  (s.slot r p).isNone && s.rooms.rooms.entries.any fun entry => entry.1 ≠ r && (s.slot entry.1 p).isSome

/-- Room `r` is live and has a free slot, and a valid session of the player is not associated with another room. -/
def letsIn (s : Server) (p : PlayerId) (r : RoomId) : Bool :=
  ((s.getRoom r).any fun room => playerCount room < 2) &&
    s.sessions.sessions.entries.any fun entry => (s.getSession entry.1).any fun session =>
      session.playerId = p && session.roomId.all (· = r)

/-- With a processed command a player who has a slot in a live room is let into another one, or tries a move in a game
that runs there. -/
def strays (s : Server) (i : Input) : Bool :=
  (s.processed i).any fun handled =>
    match handled.1.body with
    | .joinRoom roomId _ => s.seatedElsewhere handled.2 roomId && s.letsIn handled.2 roomId
    | .makeMove roomId _ _ => s.seatedElsewhere handled.2 roomId && s.movesInGame i
    | _ => false

theorem seatedElsewhere_of_inRoom (hin : s.InRoom r' p) (hr : r' ≠ r) (hout : ¬s.InRoom r p) :
    s.seatedElsewhere p r = true := by
  have hslot : (s.slot r' p).isSome = true := by
    rw [Option.isSome_iff_ne_none]
    exact fun hnone => slot_eq_none.mp hnone hin
  obtain ⟨room, hroom, -⟩ := hin
  have hstored := (RoomStore.getRoom_eq_some.mp hroom).1
  rw [seatedElsewhere, slot_eq_none.mpr hout, Option.isNone_none, Bool.true_and]
  exact List.any_eq_true.mpr ⟨(r', room), (JsMap.mem_entries_iff _).mpr hstored, by simp [hr, hslot]⟩

theorem letsIn_of_session (hroom : s.getRoom r = some room) (hfree : playerCount room < 2)
    (hsession : s.getSession token = some session) (hp : session.playerId = p)
    (helsewhere : session.roomId.any (· ≠ r) = false) : s.letsIn p r = true := by
  have hstored := (JsMap.lookup_eq_some.mp hsession).1
  have hall : session.roomId.all (· = r) = true := by
    cases hx : session.roomId with
    | none => rfl
    | some x => simpa [hx] using helsewhere
  rw [letsIn, hroom, Option.any_some, decide_eq_true hfree, Bool.true_and]
  exact List.any_eq_true.mpr ⟨(token, session), (JsMap.mem_entries_iff _).mpr hstored, by simp [hsession, hp, hall]⟩

/-! ### One live room -/

/-- A player has slots in one live room at most. -/
def SeatedOnce (s : Server) : Prop := ∀ r r' p, s.InRoom r p → s.InRoom r' p → r = r'

theorem start_seatedOnce (now : Millis) (version : String) (repository : HistoryRepository) :
    (start now version repository).SeatedOnce := by
  rintro r r' p ⟨room, hroom, -⟩
  simp [start, getRoom, RoomStore.empty, RoomStore.getRoom, JsMap.lookup] at hroom

theorem playerCount_of_addPlayer {room' : RoomRecord} {now : Millis} {name : Option PlayerName} {symbol : PlayerSymbol}
    (h : room.addPlayer now p name = some (symbol, room')) : playerCount room < 2 := by
  have hfree := (RoomRecord.addPlayer_slot h).1
  unfold playerCount
  cases symbol with
  | X =>
    have hX : room.playerX = none := hfree
    rw [hX]
    cases room.playerO <;> simp
  | O =>
    have hO : room.playerO = none := hfree
    rw [hO]
    cases room.playerX <;> simp

/-- Who enters finds a free slot. -/
theorem entered_room {now : Millis} {lo hi : Nat} {v v' : RoomView} {sends : List SendCall}
    (h : RoomStep G now r lo hi v (.entered p) sends v') :
    ∃ room, v.room = some room ∧ getSlotByPlayerId room p = none ∧ playerCount room < 2 := by
  cases h with
  | entered hroom hslot hadd => exact ⟨_, hroom, hslot, playerCount_of_addPlayer hadd⟩

/-- Who enters a room without straying has no slot in another one. -/
theorem SeatedOnce.entered (hseats : s.Seats G) (hn : G.NeverRepeats) (hi : s.strays i = false)
    (h : Acts G s t r (.entered p)) (hcause : s.Cause i r (.entered p)) (hin : s.InRoom r' p) : r' = r := by
  by_contra hr
  obtain ⟨id, name, hhandles⟩ := hcause
  obtain ⟨hsession, -⟩ := h.session hn hseats.issuing
  obtain ⟨sends, hstep, -⟩ := h.step
  have hlive : (s.getRoom r).isSome := h.onLive rfl
  obtain ⟨live, hroom⟩ := Option.isSome_iff_exists.mp hlive
  obtain ⟨room, hview, hslot, hfree⟩ := entered_room hstep
  obtain rfl := Option.some.inj ((view_room_of_getRoom hroom).symm.trans hview)
  have hout : ¬s.InRoom r p := slot_eq_none.mp (by rw [slot, hroom]; exact hslot)
  have hlets : s.letsIn p r = true := by
    obtain ⟨token, session, hs, hp, hx⟩ : ∃ token session, s.session token = some session ∧ session.playerId = p ∧
        session.roomId.any (· ≠ r) = false := by
      rcases hsession with ⟨token, session, hs, hp, hx⟩ | ⟨token, session, hs, hp, hx⟩
      · exact ⟨token, session, hs, hp, by rw [hx]; rfl⟩
      · exact ⟨token, session, hs, hp, by simp [hx]⟩
    obtain ⟨stored, hstored, rfl⟩ := Option.map_eq_some_iff.mp hs
    exact letsIn_of_session hroom hfree hstored hp hx
  simp [strays, hhandles.processed rfl, seatedElsewhere_of_inRoom hin hr hout, hlets] at hi

theorem SeatedOnce.step (hs : s.SeatedOnce) (hseats : s.Seats G) (hn : G.NeverRepeats) (hi : s.strays i = false)
    (h : s.step G i = some t) : t.SeatedOnce := by
  rcases step_acts hseats.keyed h with ⟨elapsed, -, rfl⟩ | ⟨r, a, hacts, hcause⟩
  · rintro r r' p ⟨room, hroom, hheld⟩ ⟨room', hroom', hheld'⟩
    exact hs r r' p ⟨room, getRoom_of_tick hroom, hheld⟩ ⟨room', getRoom_of_tick hroom', hheld'⟩
  · obtain ⟨sends, hstep, -⟩ := hacts.step
    -- A slot in a live room of `t` was held before, or has just been taken.
    have hbefore : ∀ {r' p}, t.InRoom r' p → s.InRoom r' p ∨ r' = r ∧ a = .entered p := by
      intro r' p hin
      obtain ⟨hlive, hheld⟩ := inRoom_iff.mp hin
      rcases hacts.alive r' with ⟨rfl, rfl⟩ | halive
      · exact absurd hheld hstep.created_not_held
      · exact (hacts.held hseats hheld).imp_left fun hold => inRoom_iff.mpr ⟨halive ▸ hlive, hold⟩
    intro r₁ r₂ p hin₁ hin₂
    rcases hbefore hin₁ with hold₁ | ⟨rfl, rfl⟩
    · rcases hbefore hin₂ with hold₂ | ⟨rfl, rfl⟩
      · exact hs r₁ r₂ p hold₁ hold₂
      · exact SeatedOnce.entered hseats hn hi hacts hcause hold₁
    · rcases hbefore hin₂ with hold₂ | ⟨rfl, -⟩
      · exact (SeatedOnce.entered hseats hn hi hacts hcause hold₂).symm
      · rfl

/-! ### Commands about other rooms -/

/-- A `JOIN_ROOM` that does not let the player in. -/
theorem handleJoinRoom_ignored (hcached : s.cached id = none) (hs : s.getSession token = some session)
    (hout : ¬s.InRoom r session.playerId)
    (hfull : ∀ room, s.getRoom r = some room → session.roomId.any (· ≠ r) = false → ¬playerCount room < 2)
    (c : ConnectionId) (name : Option PlayerName) : Ignored s r (s.handleJoinRoom c id r name token) := by
  have hlooked : Ignores s (s.afterLookup id) r := .of_quiet (afterLookup_quiet s id) rfl
  unfold handleJoinRoom
  rw [sessionCommand_eq hs hcached]
  split
  · exact hlooked.refuses c id _
  rename_i helsewhere
  rcases withRoom_cases (s.afterLookup id) c id r _ with ⟨-, hrefused⟩ | ⟨room, hroom, he⟩
  · exact (hrefused.of_quiet (afterLookup_quiet s id) rfl).ignored
  rw [he]
  have hroom' : s.getRoom r = some room := hroom
  have hslot : getSlotByPlayerId room session.playerId = none := by
    have h := slot_eq_none.mpr hout
    rwa [slot, hroom'] at h
  have hcount := hfull room hroom' (Bool.eq_false_iff.mpr helsewhere)
  simp only [hslot, if_pos (Nat.not_lt.mp hcount)]
  exact hlooked.refuses c id _

/-- A player with a slot in a live room who does not stray gets errors for commands about rooms without a slot. -/
theorem Routed.ignores {rec : ConnectionRecord} {command : Command} {frame : RawFrame} {diskFails : Bool}
    (hrouted : s.Routed (.frame c frame diskFails) c rec command) (hs : s.Attached G) (hn : G.NeverRepeats)
    (hi : s.Issuing G) (hr : command.body.concerns = some r) (hcached : s.cached command.commandId = none)
    (hacts : s.actsFor c = some p) (hin : s.InRoom r' p) (hout : ¬s.InRoom r p)
    (hstrays : s.strays (.frame c frame diskFails) = false) :
    Ignores s (s.handleFrame G c frame diskFails) r := by
  have hne : r' ≠ r := fun he => hout (he ▸ hin)
  have helsewhere := seatedElsewhere_of_inRoom hin hne hout
  obtain ⟨token, session, htoken, hsession, hplayer⟩ := hs.sender hn hi hrouted (concerns_not_exempt hr)
  obtain rfl : p = session.playerId := Option.some.inj (hacts.symm.trans hplayer)
  have hhandles : s.Handles (.frame c frame diskFails) command session.playerId :=
    ⟨c, rec, token, hrouted, htoken, ⟨session, hsession, rfl⟩, hcached⟩
  have hprocessed := hhandles.processed
  obtain ⟨id, body⟩ := command
  by_cases hjoin : ∃ name, body = .joinRoom r name
  · obtain ⟨name, rfl⟩ := hjoin
    have hq := arrived_quiet s c rec
    obtain ⟨session', hsession', hp', hroom'⟩ := hq.session_to_some hsession
    rw [handleFrame_routed hrouted]
    refine (arrived_ignores s c rec r).trans (Ignored.conclude ?_ G c id)
    have hdispatch : (s.arrived c rec).dispatch G c rec ⟨id, .joinRoom r name⟩ diskFails =
        (s.arrived c rec).handleJoinRoom c id r name token := by
      simp only [dispatch, htoken]
    rw [hdispatch]
    refine handleJoinRoom_ignored ((hq.cached _).trans hcached) hsession' ?_ (fun room hroom hx hfree => ?_) c name
    · rwa [InRoom, hq.getRoom, hp']
    · rw [hq.getRoom] at hroom
      have hlets : s.letsIn session.playerId r = true := letsIn_of_session hroom hfree hsession rfl (hroom' ▸ hx)
      simp [strays, hprocessed rfl, helsewhere, hlets] at hstrays
  · obtain ⟨frame', diskFails', he, -, hparse⟩ := hrouted.frame
    obtain ⟨-, rfl, rfl⟩ := Input.frame.inj he
    refine handleFrame_ignored hparse hr (fun name hname => hjoin ⟨name, hname⟩) (fun q hq => ?_) hcached ?_ G
    · have hsender : s.sender c = some session.playerId := by simp [sender, hrouted.connection, htoken, hsession]
      obtain rfl := Option.some.inj (hsender.symm.trans hq)
      exact slot_eq_none.mpr hout
    · by_contra hmoves
      rw [Bool.not_eq_false] at hmoves
      cases body with
      | makeMove r₁ gameId position =>
        obtain rfl : r₁ = r := Option.some.inj hr
        simp [strays, hprocessed rfl, helsewhere, hmoves] at hstrays
      | auth | ping => cases hr
      | joinRoom r₁ name =>
        obtain rfl : r₁ = r := Option.some.inj hr
        exact hjoin ⟨name, rfl⟩
      | _ => simp [movesInGame, hprocessed rfl] at hmoves

end Server
end TicTacToe

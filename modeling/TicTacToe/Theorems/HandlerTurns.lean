import TicTacToe.Theorems.HandlerMail
import TicTacToe.Theorems.RosterTurns

/-! # The turns of the handlers

One lemma for each command about a room without a game: it leaves the rosters and answers without them, or it is a turn. -/

namespace TicTacToe
namespace Server
variable {s t u : Server} {r : RoomId} {G : IdSource} {c : ConnectionId} {id : CommandId} {token : SessionToken}
  {p : PlayerId} {room room' : RoomRecord} {gs : GameSession} {result : HandlerResult} {session : PlayerSession}
  {speaks : Bool}

/-- What a command of player `p` about room `r` does. Only a command that `speaks` changes the roster while the player
stays. -/
inductive Responds (s : Server) (r : RoomId) (c : ConnectionId) (p : PlayerId) (speaks : Bool) (result : HandlerResult) :
    Prop
  | idle (hrooms : ∀ r', result.server.getRoom r' = s.getRoom r')
    (hidle : ∀ d ∈ result.deliveries, ∃ e, d = .connection c (.event e) ∧ e.idle = true)
  | turn {room room' : RoomRecord} {answers : List RoomEvent} {news : Option (PlayerId × RoomEvent)}
    (hroom : s.getRoom r = some room)
    (hrooms : ∀ r', result.server.getRoom r' = if r = r' then some room' else s.getRoom r')
    (h : Turn r p room room' answers news)
    (hbeside : speaks = false → room'.Holds p → room'.roster = room.roster) (hthrew : result.threw = false)
    (hdeliveries : result.deliveries = answers.map (fun e => .connection c (.event (.room e))) ++
      news.toList.map fun n => .broadcast n.1 (.event (.room n.2)))

namespace Responds

theorem of_quiet (hq : Quiet s u) (h : Responds u r c p speaks result) : Responds s r c p speaks result := by
  cases h with
  | idle hrooms hidle => exact .idle (fun r' => (hrooms r').trans (hq.getRoom r')) hidle
  | turn hroom hrooms h hbeside hthrew hdeliveries =>
    refine .turn ((hq.getRoom r).symm.trans hroom) (fun r' => ?_) h hbeside hthrew hdeliveries
    rw [hrooms, hq.getRoom]

theorem refuse (hq : Quiet s u) (code : ErrorCode) : Responds s r c p speaks (u.refuse c code id) := by
  refine .idle hq.getRoom fun d hd => ?_
  rw [List.mem_singleton.mp hd]
  exact ⟨_, rfl, rfl⟩

theorem of_refuses (h : Refuses s c id result) : Responds s r c p speaks result := by
  obtain ⟨u, code, hq, -, rfl⟩ := h
  exact refuse hq code

/-- A handler that has nothing to deliver. -/
theorem silent (hrooms : ∀ r', result.server.getRoom r' = s.getRoom r') (hd : result.deliveries = []) :
    Responds s r c p speaks result := by
  refine .idle hrooms fun d hmem => ?_
  rw [hd] at hmem
  cases hmem

/-- A response to the player, further events for the asking connection, and news for the opponent. -/
theorem respond {answer : RoomEvent} {answers : List RoomEvent} {news : Option (PlayerId × RoomEvent)}
    {others : List Delivery} (hroom : s.getRoom r = some room)
    (hrooms : ∀ r', u.getRoom r' = if r = r' then some room' else s.getRoom r')
    (h : Turn r p room room' (answer :: answers) news)
    (hbeside : speaks = false → room'.Holds p → room'.roster = room.roster)
    (hothers : others = answers.map (fun e => .connection c (.event (.room e))) ++
      news.toList.map fun n => .broadcast n.1 (.event (.room n.2))) :
    Responds s r c p speaks (u.respond c id (.room answer) others) :=
  .turn hroom hrooms h hbeside rfl (congrArg (Delivery.connection c (.event (.room answer)) :: ·) hothers)

/-- A response with further events for the asking connection that tells nothing new. -/
theorem confirm {answer : RoomEvent} (answers : List RoomEvent) {others : List Delivery} (hroom : s.getRoom r = some room)
    (hrooms : ∀ r', u.getRoom r' = if r = r' then some room' else s.getRoom r') (hp : room.Holds p)
    (hroster : room'.roster = room.roster)
    (hanswers : ∀ event ∈ answer :: answers, event.payload.lobby ∧ room.roster.hear event.payload = room.roster)
    (hothers : others = answers.map fun e => .connection c (.event (.room e))) :
    Responds s r c p speaks (u.respond c id (.room answer) others) :=
  .respond hroom hrooms (.same hp hroster hanswers) (fun _ _ => hroster) (hothers.trans (List.append_nil _).symm)

/-- A response that tells nothing new, about a record that stays as it is. -/
theorem confirm_same {answer : RoomEvent} (hroom : s.getRoom r = some room) (hrooms : ∀ r', u.getRoom r' = s.getRoom r')
    (hp : room.Holds p) (hanswer : answer.payload.lobby ∧ room.roster.hear answer.payload = room.roster) :
    Responds s r c p speaks (u.respond c id (.room answer) []) := by
  refine confirm [] hroom (fun r' => ?_) hp rfl (fun event he => List.mem_singleton.mp he ▸ hanswer) rfl
  rw [hrooms]
  split
  · rename_i hr
    exact hr ▸ hroom
  · rfl

end Responds

/-! ### The frame of a command -/

theorem sessionCommand_eq {reply : WireEvent → List Delivery} (hs : s.getSession token = some session)
    (hc : s.cached id = none) (handle : Server → PlayerSession → HandlerResult) :
    (s.withSession c id token fun s session => s.unlessCached id reply fun s => handle s session) =
      handle (s.afterLookup id) session := by
  rcases withSession_cases s c id token (fun s session => s.unlessCached id reply fun s => handle s session) with
    ⟨hnone, -⟩ | ⟨session', hs', he⟩
  · rw [hs] at hnone
    cases hnone
  obtain rfl := Option.some.inj (hs.symm.trans hs')
  rw [he]
  rcases unlessCached_cases s id reply (fun s => handle s session) with ⟨entry, hentry, -⟩ | ⟨-, he⟩
  · rw [hc] at hentry
    cases hentry
  exact he

theorem withRoom_responds {handle : Server → RoomRecord → HandlerResult}
    (h : ∀ room, s.getRoom r = some room → Responds s r c p speaks (handle s room)) :
    Responds s r c p speaks (s.withRoom c id r handle) := by
  rcases withRoom_cases s c id r handle with ⟨-, hrefused⟩ | ⟨room, hroom, he⟩
  · exact .of_refuses hrefused
  · rw [he]
    exact h room hroom

theorem roomCommand_responds {reply : WireEvent → List Delivery}
    {handle : Server → PlayerSession → RoomRecord → HandlerResult} (hs : s.getSession token = some session)
    (hc : s.cached id = none)
    (h : ∀ room, s.getRoom r = some room →
      Responds (s.afterLookup id) r c p speaks (handle (s.afterLookup id) session room)) :
    Responds s r c p speaks (s.roomCommand c id token r reply handle) := by
  rw [roomCommand, sessionCommand_eq hs hc fun s session => s.withRoom c id r fun s room => handle s session room]
  refine .of_quiet (afterLookup_quiet s id) (withRoom_responds fun room hroom => ?_)
  exact h room hroom

/-! ### Joining -/

theorem snapshot_roster (hroom : s.getRoom r = some room) : (s.buildRoomSnapshot r).roster = room.roster := by
  simp only [buildRoomSnapshot, hroom, RoomStateSnapshot.roster, RoomRecord.roster, Option.map_some, Option.bind_some,
    Option.getD_some, Option.map_map]
  rfl

theorem getRoom_putRoom_live (s : Server) (r : RoomId) {room : RoomRecord} (hlive : room.isExpired s.now = false)
    (r' : RoomId) : (s.putRoom r room).getRoom r' = if r = r' then some room else s.getRoom r' := by
  rw [getRoom_putRoom, hlive]
  rfl

theorem rejoinRoom_responds {slot : PlayerSlot} (hroom : s.getRoom r = some room)
    (hslot : getSlotByPlayerId room p = some slot) : Responds s r c p speaks (s.rejoinRoom c id r p slot) :=
  .confirm_same hroom (fun _ => rfl) (RoomRecord.holds_of_getSlot hslot) ⟨trivial, snapshot_roster hroom⟩

theorem enterRoom_turns {name name' : Option PlayerName} {symbol : PlayerSymbol} (hroom : s.getRoom r = some room)
    (hslot : getSlotByPlayerId room p = none) (hadd : room.addPlayer s.now p name' = some (symbol, room'))
    (hspeaks : speaks = true) : Responds s r c p speaks (s.enterRoom c id r token p name symbol room') := by
  have hbeside : speaks = false → (room'.touch s.now).Holds p → (room'.touch s.now).roster = room.roster := by
    intro hnot
    rw [hspeaks] at hnot
    cases hnot
  generalize hx : (((s.putRoom r (room'.touch s.now)).setSessionRoom token (some r)).ensureGameSession r) = x
  have hrooms : ∀ r', x.getRoom r' = if r = r' then some (room'.touch s.now) else s.getRoom r' := by
    intro r'
    rw [← hx, getRoom_ensureGameSession]
    exact getRoom_putRoom_live s r (RoomRecord.touch_live _ _) r'
  have hstate : ((x.allocateSequence r).buildRoomSnapshot r).roster = room'.roster := by
    have hlive : (x.allocateSequence r).getRoom r = some (room'.touch s.now) := (hrooms r).trans (if_pos rfl)
    exact (snapshot_roster hlive).trans rfl
  have hturn : ∀ event : RoomEvent, room.roster.hear event.payload = room.roster.seat symbol (some p) →
      event.payload.lobby → event.payload.admits = false → Turn r p room (room'.touch s.now)
        [makeRoomJoined r p symbol ((x.allocateSequence r).buildRoomSnapshot r) ((x.allocateSequence r).sequenceOr r 1) id]
        ((room'.slot (opponent symbol)).map fun slot => (slot.playerId, event)) :=
    fun event hhear hlobby hadmits => (Turn.entered hslot hadd hstate hhear hlobby hadmits).congr rfl
  unfold enterRoom
  simp only [hx]
  split
  · rename_i hnone
    have hjoined := hturn (makePlayerJoined r p symbol name (playerCount room') 1) rfl trivial rfl
    rw [hnone, Option.map_none] at hjoined
    exact .respond hroom hrooms hjoined hbeside rfl
  · rename_i otherSlot hother
    have hjoined := hturn (makePlayerJoined r p symbol name (playerCount room')
      (((x.allocateSequence r).allocateSequence r).sequenceOr r 1)) rfl trivial rfl
    rw [hother, Option.map_some] at hjoined
    exact .respond hroom hrooms hjoined hbeside rfl

theorem handleJoinRoom_responds (hs : s.getSession token = some session) (hc : s.cached id = none)
    (hspeaks : ∀ room, s.getRoom r = some room → getSlotByPlayerId room session.playerId = none → speaks = true)
    (c : ConnectionId) (name : Option PlayerName) :
    Responds s r c session.playerId speaks (s.handleJoinRoom c id r name token) := by
  rw [handleJoinRoom, sessionCommand_eq hs hc]
  refine .of_quiet (afterLookup_quiet s id) ?_
  split
  · exact .refuse (.refl _) _
  refine withRoom_responds fun room hroom => ?_
  split
  · rename_i slot hslot
    exact rejoinRoom_responds hroom hslot
  · rename_i hslot
    split
    · exact .refuse (.refl _) _
    · split
      · exact .refuse (.refl _) _
      · rename_i symbol room' hadd
        exact enterRoom_turns hroom hslot hadd (hspeaks room hroom hslot)

/-! ### Leaving and getting ready -/

theorem vacateRoom_responds {slot : PlayerSlot} (hsound : room.Sound) (hroom : s.getRoom r = some room)
    (hslot : getSlotByPlayerId room p = some slot) (hu : ∀ r', u.getRoom r' = s.getRoom r') :
    Responds s r c p false (u.vacateRoom c id r token p slot room) := by
  have hturn : ∀ seq reason seq', Turn r p room (room.removePlayer u.now p) [makeRoomLeft r seq id]
      ((getOpponentSlot room p).map fun opponentSlot =>
        (opponentSlot.playerId, makePlayerLeft r p slot.symbol reason seq')) :=
    fun seq reason seq' => .left hsound hslot rfl rfl
  have hrooms : ∀ r', (((u.allocateSequence r).allocateSequence r).putRoom r (room.removePlayer u.now p)).getRoom r' =
      if r = r' then some (room.removePlayer u.now p) else s.getRoom r' := by
    intro r'
    have hput := getRoom_putRoom_live ((u.allocateSequence r).allocateSequence r) r
      (RoomRecord.removePlayer_live room u.now p) r'
    exact hput.trans (by rw [← hu r']; rfl)
  have hgone : false = false → (room.removePlayer u.now p).Holds p → (room.removePlayer u.now p).roster = room.roster := by
    rintro - ⟨x, hx⟩
    rw [RoomRecord.removePlayer_not_held hsound.distinct] at hx
    cases hx
  unfold vacateRoom
  dsimp only
  cases hopponent : getOpponentSlot room p with
  | none =>
    rw [hopponent] at hturn
    exact .respond hroom hrooms (hturn _ .voluntary 0) hgone rfl
  | some opponentSlot =>
    rw [hopponent] at hturn
    exact .respond hroom hrooms (hturn _ _ _) hgone rfl

theorem handleLeaveRoom_responds (hu : s.Unplayed) (hsound : ∀ room, s.getRoom r = some room → room.Sound)
    (hs : s.getSession token = some session) (hc : s.cached id = none) (c : ConnectionId) (diskFails : Bool) :
    Responds s r c session.playerId false (s.handleLeaveRoom c id r token diskFails) := by
  refine roomCommand_responds hs hc fun room hroom => ?_
  split
  · exact .refuse (.refl _) _
  rename_i slot hslot
  split
  · exact vacateRoom_responds (hsound room hroom) hroom hslot fun _ => rfl
  · rename_i gs hg
    dsimp only
    rw [(hu.session hg).handleForfeit, if_neg Bool.false_ne_true]
    exact vacateRoom_responds (hsound room hroom) hroom hslot fun r' => getRoom_applyEffect _ r r' _

theorem becomeReady_responds {symbol : PlayerSymbol} (hsound : room.Sound) (hroom : s.getRoom r = some room)
    (hsymbol : getSymbolForPlayer room p = some symbol) (hboth : (room.markReady symbol).bothReady = false)
    (hu : ∀ r', u.getRoom r' = s.getRoom r') (hnow : u.now = s.now) (hspeaks : speaks = true) (G : IdSource) :
    Responds s r c p speaks (u.becomeReady G c id r symbol (room.markReady symbol)) := by
  have hbeside : speaks = false → (room.markReady symbol).Holds p → (room.markReady symbol).roster = room.roster := by
    intro hnot
    rw [hspeaks] at hnot
    cases hnot
  have hturn : ∀ seq seq', Turn r p room (room.markReady symbol)
      [makePlayerReadyAck r (room.markReady symbol).readySymbols seq id]
      ((room.slot (opponent symbol)).map fun slot =>
        (slot.playerId, makeOpponentReady r symbol (room.markReady symbol).readySymbols seq')) :=
    fun seq seq' => .readied hsound.distinct hsymbol rfl rfl
  have hrooms : ∀ r', (u.putRoom r (room.markReady symbol)).getRoom r' =
      if r = r' then some (room.markReady symbol) else s.getRoom r' := by
    intro r'
    have hlive : (room.markReady symbol).isExpired u.now = false := hnow ▸ (RoomStore.getRoom_eq_some.mp hroom).2
    rw [getRoom_putRoom_live u r hlive, hu]
  have hslot : (room.markReady symbol).slot (opponent symbol) = room.slot (opponent symbol) := by cases symbol <;> rfl
  unfold becomeReady
  simp only [hslot, hboth, if_neg Bool.false_ne_true]
  cases hother : room.slot (opponent symbol) with
  | none =>
    rw [hother] at hturn
    exact .respond hroom hrooms (hturn _ 0) hbeside rfl
  | some oppSlot =>
    rw [hother] at hturn
    exact .respond hroom hrooms (hturn _ _) hbeside rfl

theorem handlePlayerReady_responds (hsound : ∀ room, s.getRoom r = some room → room.Sound)
    (hs : s.getSession token = some session) (hc : s.cached id = none)
    (hi : ∀ room symbol, s.getRoom r = some room → 2 ≤ playerCount room →
      getSymbolForPlayer room session.playerId = some symbol → symbol ∉ room.readySymbols →
      (room.markReady symbol).bothReady = false)
    (hspeaks : ∀ room symbol, s.getRoom r = some room → getSymbolForPlayer room session.playerId = some symbol →
      symbol ∉ room.readySymbols → speaks = true) (c : ConnectionId) :
    Responds s r c session.playerId speaks (s.handlePlayerReady G c id r token) := by
  refine roomCommand_responds hs hc fun room hroom => ?_
  split
  · exact .refuse (.refl _) _
  rename_i hcount
  split
  · exact .refuse (.refl _) _
  rename_i symbol hsymbol
  dsimp only
  split
  · exact .confirm_same hroom (fun r' => getRoom_ensureGameSession _ r r') (RoomRecord.holds_of_symbol hsymbol)
      ⟨trivial, rfl⟩
  · rename_i hready
    have hlive : (s.afterLookup id).getRoom r = some room := hroom
    exact becomeReady_responds (hsound room hroom) hlive hsymbol
      (hi room symbol hroom (Nat.not_lt.mp hcount) hsymbol hready) (fun r' => getRoom_ensureGameSession _ r r')
      (ensureGameSession_now _ r) (hspeaks room symbol hroom hsymbol hready) G

/-! ### Moves and rematches -/

theorem handleMakeMove_responds (hu : s.Unplayed) (hs : s.getSession token = some session) (hc : s.cached id = none)
    (c : ConnectionId) (gameId : GameId) (position : RawPosition) (diskFails : Bool) :
    Responds s r c session.playerId speaks (s.handleMakeMove c id r gameId position token diskFails) := by
  refine roomCommand_responds hs hc fun room _ => ?_
  split
  · exact .refuse (.refl _) _
  · rename_i gs hg
    dsimp only
    rw [(hu.session hg).handleMove]
    exact .silent (fun r' => getRoom_applyEffect _ r r' _) rfl

/-- Without a game no rematch is taken. -/
theorem rematchCommand_responds {drawn : Nat} {refusal : Option GameSession → Option ErrorCode}
    {method : Server → GameSession → RoomRecord → PlayerId → GameSession.RematchOutcome} (hu : s.Unplayed)
    (hs : s.getSession token = some session) (hc : s.cached id = none)
    (hmethod : ∀ u gs room p, gs.Unplayed → method u gs room p = gs.notTaken room) (c : ConnectionId) :
    Responds s r c session.playerId speaks (s.rematchCommand c id r token drawn refusal method) := by
  refine roomCommand_responds hs hc fun room hroom => ?_
  split
  · exact .refuse (.refl _) _
  · exact .silent (fun _ => rfl) rfl
  · rename_i gs hg _
    dsimp only
    rw [hmethod _ gs room _ (hu.session hg)]
    refine .silent (fun r' => ?_) rfl
    refine (getRoom_applyEmitted _ r r' _).trans ?_
    have hput := getRoom_putRoom_live (s.afterLookup id) r (RoomStore.getRoom_eq_some.mp hroom).2 r'
    refine hput.trans ?_
    split
    · rename_i hr
      exact (hr ▸ hroom).symm
    · rfl

/-! ### Coming back and asking for the state -/

theorem replayFor_passive {fromSeq : Nat} {events : List RoomEvent}
    (hu : ∀ gs, s.gameSessions.get r = some gs → gs.Unplayed) (h : s.replayFor r fromSeq p = some events) :
    ∀ event ∈ events, event.payload.passive = true := by
  obtain ⟨hbind, -⟩ := Option.filter_eq_some_iff.mp h
  obtain ⟨gs, hg, hevents⟩ := Option.bind_eq_some_iff.mp hbind
  exact (hu gs hg).getReplayEvents hevents

theorem restorePresence_getRoom (hroom : s.getRoom r = some room) (token : SessionToken) (r' : RoomId) :
    (s.restorePresence r token p room).getRoom r' =
      if r = r' then some (room.setConnected s.now p true) else s.getRoom r' := by
  have hput := getRoom_putRoom_live s r
    (RoomRecord.setConnected_live (RoomStore.getRoom_eq_some.mp hroom).2 p true) r'
  unfold restorePresence
  dsimp only
  split
  · exact hput
  · exact (getRoom_applyEmitted _ r r' _).trans hput

theorem restorePresence_unplayed (hu : s.Unplayed) (token : SessionToken) :
    ∀ gs, (s.restorePresence r token p room).gameSessions.get r = some gs → gs.Unplayed := by
  intro gs hgs
  unfold restorePresence at hgs
  dsimp only at hgs
  split at hgs
  · rename_i hnone
    exact hu.session hgs
  · rename_i gs₀ hg
    have hgs₀ : gs₀.Unplayed := hu.session hg
    have hcleared : (gs₀.clearReconnectWindow p).Unplayed := ⟨hgs₀.gameState, hgs₀.rematch, hgs₀.buffer⟩
    rw [applyEmitted_game] at hgs
    exact Option.some.inj hgs ▸ (hcleared.notifyOpponentReconnected _ p).1

theorem handleReconnect_responds (hu : s.Unplayed) (hs : s.getSession token = some session) (hc : s.cached id = none)
    (c : ConnectionId) (lastReceivedSeq : Nat) :
    Responds s r c session.playerId false (s.handleReconnect c id r lastReceivedSeq token) := by
  refine roomCommand_responds hs hc fun room hroom => ?_
  split
  · exact .refuse (.refl _) _
  rename_i slot hslot
  have hheld := RoomRecord.holds_of_getSlot hslot
  have hu' : (s.afterLookup id).Unplayed := hu
  have hrooms := restorePresence_getRoom (p := session.playerId) (s := s.afterLookup id) hroom token
  have hgames : ∀ gs, ((s.afterLookup id).restorePresence r token session.playerId room).gameSessions.get r = some gs →
      gs.Unplayed := restorePresence_unplayed hu' token
  have hroster := roster_setConnected room (s.afterLookup id).now session.playerId true
  generalize (s.afterLookup id).restorePresence r token session.playerId room = x at hrooms hgames
  have hstate : ((x.allocateSequence r).buildRoomSnapshot r).roster = room.roster := by
    have hlive : (x.allocateSequence r).getRoom r = some _ := (hrooms r).trans (if_pos rfl)
    exact (snapshot_roster hlive).trans hroster
  have hallocated : ∀ gs, (x.allocateSequence r).gameSessions.get r = some gs → gs.Unplayed := by
    intro gs hgs
    rw [allocateSequence_get] at hgs
    obtain ⟨gs₀, hgs₀, rfl⟩ := Option.map_eq_some_iff.mp hgs
    exact (hgames gs₀ hgs₀).bump 1
  have hack : ∀ seq : Nat, (makeReconnectAck r session.playerId slot.symbol ((x.allocateSequence r).buildRoomSnapshot r) seq
      id).payload.lobby ∧ room.roster.hear (makeReconnectAck r session.playerId slot.symbol
        ((x.allocateSequence r).buildRoomSnapshot r) seq id).payload = room.roster := fun seq => ⟨trivial, hstate⟩
  -- Whether or not a STATE_SYNC follows the response, it tells nothing new.
  have hrespond : ∀ (seq : Nat) (sync : RoomEvent) (q : Prop) [Decidable q],
      sync.payload.lobby ∧ room.roster.hear sync.payload = room.roster →
      Responds (s.afterLookup id) r c session.playerId false ((x.allocateSequence r).respond c id
        (.room (makeReconnectAck r session.playerId slot.symbol ((x.allocateSequence r).buildRoomSnapshot r) seq id))
        (if q then [.connection c (.event (.room sync))] else [])) := by
    intro seq sync q _ hsync
    split
    · refine .confirm [sync] hroom hrooms hheld hroster (fun event he => ?_) rfl
      rcases List.mem_cons.mp he with rfl | he
      · exact hack seq
      · exact List.mem_singleton.mp he ▸ hsync
    · refine .confirm [] hroom hrooms hheld hroster (fun event he => ?_) rfl
      exact List.mem_singleton.mp he ▸ hack seq
  dsimp only
  cases hreplay : (x.allocateSequence r).replayFor r (lastReceivedSeq + 1) session.playerId with
  | some events => exact hrespond _ _ _ ⟨replayFor_passive hallocated hreplay, rfl⟩
  | none => exact hrespond _ _ _ ⟨trivial, hstate⟩

theorem handleSyncRequest_responds (hu : s.Unplayed) (hs : s.getSession token = some session) (hc : s.cached id = none)
    (c : ConnectionId) (fromSeq : Nat) :
    Responds s r c session.playerId false (s.handleSyncRequest c id r fromSeq token) := by
  refine roomCommand_responds hs hc fun room hroom => ?_
  split
  · exact .refuse (.refl _) _
  rename_i slot hslot
  have hrespond : ∀ sync : RoomEvent, sync.payload.lobby ∧ room.roster.hear sync.payload = room.roster →
      Responds (s.afterLookup id) r c session.playerId false ((s.afterLookup id).respond c id (.room sync) []) := by
    intro sync hsync
    exact .confirm_same hroom (fun _ => rfl) (RoomRecord.holds_of_getSlot hslot) hsync
  dsimp only
  cases hreplay : (s.afterLookup id).replayFor r fromSeq session.playerId with
  | some events => exact hrespond _ ⟨replayFor_passive (fun gs hg => hu.session hg) hreplay, rfl⟩
  | none => exact hrespond _ ⟨trivial, snapshot_roster hroom⟩

/-! ### Every command about a room -/

/-- With the command player `p` enters a room or gets ready. Other connections of the player are not told. -/
def speaksUp (s : Server) (p : PlayerId) : CommandBody → Bool
  | .joinRoom roomId _ => (s.getRoom roomId).any fun room => (getSlotByPlayerId room p).isNone
  | .playerReady roomId => (s.getRoom roomId).any fun room =>
    (getSymbolForPlayer room p).any fun symbol => symbol ∉ room.readySymbols
  | _ => false

/-- What the router dispatches for a command about room `r` that has no earlier answer. -/
theorem dispatch_responds {rec : ConnectionRecord} {command : Command} (hu : s.Unplayed)
    (hsound : ∀ room, s.getRoom r = some room → room.Sound) (hk : s.Keyed) (hb : s.Backed)
    (hs : s.getSession token = some session) (hc : s.cached command.commandId = none)
    (htoken : rec.sessionToken = some token) (hr : command.body.concerns = some r)
    (hi : command.body = .playerReady r → ∀ room symbol, s.getRoom r = some room → 2 ≤ playerCount room →
      getSymbolForPlayer room session.playerId = some symbol → symbol ∉ room.readySymbols →
      (room.markReady symbol).bothReady = false) (c : ConnectionId) (diskFails : Bool) :
    ∃ result, Mailing s r c token (asksFreely command.body) result ∧
      Responds s r c session.playerId (s.speaksUp session.playerId command.body) result ∧
      s.dispatch G c rec command diskFails = linked c rec command.body result := by
  obtain ⟨id, body⟩ := command
  unfold dispatch
  rw [htoken]
  cases body with
  | auth guestToken | ping clientTime => cases hr
  | joinRoom r' name =>
    obtain rfl := Option.some.inj hr
    refine ⟨_, handleJoinRoom_mailing hc hk hb c r' name token,
      handleJoinRoom_responds hs hc (fun room hroom hslot => ?_) c name, rfl⟩
    simp [speaksUp, hroom, hslot]
  | leaveRoom r' =>
    obtain rfl := Option.some.inj hr
    exact ⟨_, handleLeaveRoom_mailing hc hk hb c r' token diskFails,
      handleLeaveRoom_responds hu hsound hs hc c diskFails, rfl⟩
  | playerReady r' =>
    obtain rfl := Option.some.inj hr
    refine ⟨_, handlePlayerReady_mailing (G := G) hc hk hb c r' token,
      handlePlayerReady_responds hsound hs hc (hi rfl) (fun room symbol hroom hsymbol hready => ?_) c, rfl⟩
    simp [speaksUp, hroom, hsymbol, hready]
  | makeMove r' gameId position =>
    obtain rfl := Option.some.inj hr
    exact ⟨_, handleMakeMove_mailing hc hk hb c r' gameId position token diskFails,
      handleMakeMove_responds hu hs hc c gameId position diskFails, rfl⟩
  | requestRematch r' gameId =>
    obtain rfl := Option.some.inj hr
    exact ⟨_, rematchCommand_mailing hc hk hb (fun u gs room p => handleRematchRequest_agrees gs u.now room p gameId) c r'
      token, rematchCommand_responds hu hs hc (fun u gs room p hgs => hgs.handleRematchRequest gameId) c, rfl⟩
  | acceptRematch r' gameId =>
    obtain rfl := Option.some.inj hr
    exact ⟨_, rematchCommand_mailing hc hk hb (fun u gs room p => handleRematchAccept_agrees gs u.now _ room p gameId) c
      r' token, rematchCommand_responds hu hs hc (fun u gs room p hgs => hgs.handleRematchAccept _ gameId) c, rfl⟩
  | declineRematch r' gameId =>
    obtain rfl := Option.some.inj hr
    exact ⟨_, rematchCommand_mailing hc hk hb (fun u gs room p => handleRematchDecline_agrees gs room p gameId) c r'
      token, rematchCommand_responds hu hs hc (fun u gs room p hgs => hgs.handleRematchDecline gameId) c, rfl⟩
  | reconnect r' lastReceivedSeq =>
    obtain rfl := Option.some.inj hr
    exact ⟨_, handleReconnect_mailing hc hk hb c r' lastReceivedSeq token,
      handleReconnect_responds hu hs hc c lastReceivedSeq, rfl⟩
  | syncRequest r' fromSeq =>
    obtain rfl := Option.some.inj hr
    exact ⟨_, handleSyncRequest_mailing hc hk hb c r' fromSeq token, handleSyncRequest_responds hu hs hc c fromSeq, rfl⟩

end Server
end TicTacToe

import TicTacToe.Theorems.Addressees

/-! # What a command about a room writes and numbers

A command about a room is refused with an error to the asking connection, or the handler writes events of that room to
the asking connection, to its player and to the slots of the room, with the next numbers of the room. -/

namespace TicTacToe

/-- The delivery is for connection `c` or for a player who meets `P`, and carries the id of room `r`. -/
def Delivery.For (r : RoomId) (c : ConnectionId) (P : PlayerId → Prop) : Delivery → Prop
  | .connection c' e => c' = c ∧ ∀ event, e.roomEvent = some event → event.roomId = r
  | .broadcast q e => P q ∧ ∀ event, e.roomEvent = some event → event.roomId = r

namespace Server
variable {s t u : Server} {r : RoomId} {G : IdSource} {c : ConnectionId} {id : CommandId} {token : SessionToken}
  {p : PlayerId} {room : RoomRecord} {found : Option RoomRecord} {calls : List SendCall} {deliveries : List Delivery}
  {free : Bool} {gs : GameSession} {result : HandlerResult} {P Q : PlayerId → Prop}

/-- The player holds a slot of the live room. -/
def InRoom (s : Server) (r : RoomId) (q : PlayerId) : Prop := ∃ room, s.getRoom r = some room ∧ room.Holds q

theorem Quiet.inRoom {q : PlayerId} (h : Quiet s t) (hq : t.InRoom r q) : s.InRoom r q := by
  obtain ⟨room, hroom, hheld⟩ := hq
  exact ⟨room, (h.getRoom r).symm.trans hroom, hheld⟩

/-- The room that the send function finds, if any, has the players of the live room `r`. -/
def Finds (s : Server) (r : RoomId) (found : Option RoomRecord) : Prop :=
  ∀ room', found = some room' → ∃ room, s.getRoom r = some room ∧ room.SamePlayers room'

theorem finds_none : s.Finds r none := fun _ h => by cases h

theorem finds_of_samePlayers {room' : RoomRecord} (hroom : s.getRoom r = some room) (h : room.SamePlayers room') :
    s.Finds r (some room') := fun _ he => ⟨room, hroom, Option.some.inj he ▸ h⟩

theorem finds_room (hroom : s.getRoom r = some room) : s.Finds r (some room) :=
  finds_of_samePlayers hroom (.refl room)

/-- Who is reached through the slots holds a slot of the live room. -/
theorem Finds.inRoom {q : PlayerId} (h : s.Finds r found) (hfound : found = some room) (hq : room.Holds q) :
    s.InRoom r q := by
  obtain ⟨live, hlive, hsame⟩ := h room hfound
  exact ⟨live, hlive, hsame.holds hq⟩

/-- The calls announce a game, and the counter of the room starts again. -/
structure Restart (r : RoomId) (t : Server) (calls : List SendCall) : Prop where
  calls : ∃ q event, calls = [⟨.broadcast, q, .room event⟩] ∧ event.payload.isStart = true ∧ event.sessionSeq = 1
  counter : t.counter r = 1

/-- How the events that a command of a player who meets `P` causes are numbered. -/
inductive Numbering (s : Server) (r : RoomId) (P : PlayerId → Prop) (t : Server) (calls : List SendCall)
    (deliveries : List Delivery) : Prop
  | counted (h : Draws r s t (numberedEvents calls deliveries))
    (hstarts : ∀ event ∈ numberedEvents calls deliveries, event.payload.isStart = false)
  /-- The room has no session. -/
  | unnumbered (hs : s.gameSessions.get r = none) (ht : t.gameSessions.get r = none) (hcalls : calls = [])
    (hstarts : ∀ event ∈ numberedEvents [] deliveries, event.payload.isStart = false)
  /-- The player has been ready before. -/
  | again {p : PlayerId} {room : RoomRecord} {symbol : PlayerSymbol} (hp : P p) (hroom : s.getRoom r = some room)
    (hsymbol : getSymbolForPlayer room p = some symbol) (hready : symbol ∈ room.readySymbols) (h : Draws r s t [])
    (hcalls : calls = []) (hreplies : ∀ event ∈ numberedEvents [] deliveries, event.payload.isReadyAck = true)
  /-- A rematch has been agreed on. -/
  | started (h : Restart r t calls) (hdeliveries : deliveries = [])
  /-- The second player is ready: the replies have been numbered before the game starts. -/
  | late {p : PlayerId} {room : RoomRecord} {symbol : PlayerSymbol} {u : Server} (hp : P p)
    (hroom : s.getRoom r = some room) (hsymbol : getSymbolForPlayer room p = some symbol)
    (hready : symbol ∉ room.readySymbols) (hboth : (room.markReady symbol).bothReady = true) (h : Restart r t calls)
    (hdraws : Draws r s u (numberedEvents [] deliveries))
    (hstarts : ∀ event ∈ numberedEvents [] deliveries, event.payload.isStart = false)

/-- What a handler of player `p` writes, asked on connection `c`: calls of the send function of room `r` and deliveries.
Without a slot the player gets something by a command that is `free` only. -/
structure Mail (s : Server) (r : RoomId) (c : ConnectionId) (p : PlayerId) (free : Bool) (found : Option RoomRecord)
    (t : Server) (calls : List SendCall) (deliveries : List Delivery) : Prop where
  posts : Posts r found s t calls
  finds : s.Finds r found
  sent : SendsFor r (fun q => q = p ∨ s.InRoom r q) calls
  delivered : ∀ d ∈ deliveries, d.For r c (s.InRoom r)
  numbering : Numbering s r (· = p) t calls deliveries
  seated : free = true ∨ s.InRoom r p ∨ calls = [] ∧ deliveries = []

/-- A command that has no earlier answer is refused, or its handler mails. -/
inductive Mailing (s : Server) (r : RoomId) (c : ConnectionId) (token : SessionToken) (free : Bool)
    (result : HandlerResult) : Prop
  | errs (h : Posts r none s result.server []) (hgames : result.server.gameSessions = s.gameSessions)
    (hd : ∀ d ∈ result.deliveries, ∃ e, d = .connection c e ∧ e.roomEvent = none)
  | mails {p : PlayerId} {found : Option RoomRecord} {calls : List SendCall}
    (hsession : ∃ session, s.getSession token = some session ∧ session.playerId = p)
    (h : Mail s r c p free found result.server calls result.deliveries)

/-! ### Building blocks -/

theorem Numbering.of_games (h : Numbering s r P t calls deliveries) (hg : u.gameSessions = t.gameSessions) :
    Numbering s r P u calls deliveries := by
  have hget : u.gameSessions.get r = t.gameSessions.get r := by rw [hg]
  have hdraws : ∀ {events}, Draws r s t events → Draws r s u events := fun h => h.then_none (.of_same hget)
  have hrestart : Restart r t calls → Restart r u calls := by
    intro h
    refine ⟨h.calls, ?_⟩
    rw [counter, sequenceOr, hget]
    exact h.counter
  cases h with
  | counted h hstarts => exact .counted (hdraws h) hstarts
  | unnumbered hs ht hcalls hstarts => exact .unnumbered hs (hget.trans ht) hcalls hstarts
  | again hp hroom hsymbol hready h hcalls hreplies => exact .again hp hroom hsymbol hready (hdraws h) hcalls hreplies
  | started h hd => exact .started (hrestart h) hd
  | late hp hroom hsymbol hready hboth h hdraws hstarts =>
    exact .late hp hroom hsymbol hready hboth (hrestart h) hdraws hstarts

/-- The asking player is one of several. -/
theorem Numbering.mono (h : Numbering s r P t calls deliveries) (hPQ : ∀ q, P q → Q q) :
    Numbering s r Q t calls deliveries := by
  cases h with
  | counted h hstarts => exact .counted h hstarts
  | unnumbered hs ht hcalls hstarts => exact .unnumbered hs ht hcalls hstarts
  | again hp hroom hsymbol hready h hcalls hreplies => exact .again (hPQ _ hp) hroom hsymbol hready h hcalls hreplies
  | started h hd => exact .started h hd
  | late hp hroom hsymbol hready hboth h hd hstarts => exact .late (hPQ _ hp) hroom hsymbol hready hboth h hd hstarts

/-- The handler starts from a state with the same sessions and the same record of the room. -/
theorem Numbering.of_before (hg : u.gameSessions = s.gameSessions) (hroom : u.getRoom r = s.getRoom r)
    (h : Numbering u r P t calls deliveries) : Numbering s r P t calls deliveries := by
  have hcounter : u.counter r = s.counter r := by rw [counter, counter, sequenceOr, sequenceOr, hg]
  have hdraws : ∀ {x events}, Draws r u x events → Draws r s x events := by
    intro x events h
    refine ⟨h.numbered, ?_, ?_⟩
    · rw [← hcounter]
      exact h.above
    · rw [← hcounter]
      exact h.le
  cases h with
  | counted h hstarts => exact .counted (hdraws h) hstarts
  | unnumbered hs ht hcalls hstarts => exact .unnumbered (hg ▸ hs) ht hcalls hstarts
  | again hp hlive hsymbol hready h hcalls hreplies =>
    exact .again hp (hroom.symm.trans hlive) hsymbol hready (hdraws h) hcalls hreplies
  | started h hd => exact .started h hd
  | late hp hlive hsymbol hready hboth h hd hstarts =>
    exact .late hp (hroom.symm.trans hlive) hsymbol hready hboth h (hdraws hd) hstarts

theorem Quiet.counter (hq : Quiet s u) (r : RoomId) : u.counter r = s.counter r := by
  rw [Server.counter, Server.counter, sequenceOr, sequenceOr, hq.gameSessions]

/-- Nothing has happened before the handler. -/
theorem Numbering.of_quiet (hq : Quiet s u) (h : Numbering u r P t calls deliveries) :
    Numbering s r P t calls deliveries := h.of_before hq.gameSessions (hq.getRoom r)

theorem afterLookup_posts (s : Server) (id : CommandId) : Posts r found s (s.afterLookup id) [] :=
  store_posts rfl rfl rfl rfl rfl rfl

theorem Mailing.of_lookup (h : Mailing (s.afterLookup id) r c token free result) :
    Mailing s r c token free result := by
  cases h with
  | errs h hgames hd => exact .errs ((afterLookup_posts s id).after_silent h) hgames hd
  | mails hsession h =>
    refine .mails hsession ⟨(afterLookup_posts s id).after_silent h.posts, h.finds, h.sent, h.delivered, ?_, h.seated⟩
    exact h.numbering.of_quiet (afterLookup_quiet s id)

theorem Mailing.refuse (h : Posts r none s t []) (hgames : t.gameSessions = s.gameSessions) (code : ErrorCode) :
    Mailing s r c token free (t.refuse c code id) := by
  refine .errs h hgames fun d hd => ?_
  obtain rfl := List.mem_singleton.mp hd
  exact ⟨_, rfl, rfl⟩

theorem recordCommand_posts (s : Server) (id : CommandId) (e : WireEvent) : Posts r found s (s.recordCommand id e) [] :=
  store_posts rfl rfl rfl rfl rfl rfl

/-- The response of a handler is recorded and delivered to the asking connection. -/
theorem Mail.respond {event : RoomEvent} {others : List Delivery} (hposts : Posts r found s u calls)
    (hfinds : s.Finds r found) (hcalls : SendsFor r (fun q => q = p ∨ s.InRoom r q) calls) (hevent : event.roomId = r)
    (hothers : ∀ d ∈ others, d.For r c (s.InRoom r))
    (hnumbering : Numbering s r (· = p) u calls (.connection c (.event (.room event)) :: others))
    (hseated : free = true ∨ s.InRoom r p) :
    Mail s r c p free found (u.respond c id (.room event) others).server calls
      (u.respond c id (.room event) others).deliveries where
  posts := hposts.then_silent (recordCommand_posts u id _)
  finds := hfinds
  sent := hcalls
  delivered d hd := by
    rcases List.mem_cons.mp hd with rfl | hd
    · exact ⟨rfl, fun e he => Option.some.inj he ▸ hevent⟩
    · exact hothers d hd
  numbering := hnumbering.of_games rfl
  seated := hseated.imp_right Or.inl

theorem numberedEvents_reply {event : RoomEvent} {others : List Delivery} (hsync : event.payload.isSync = false) :
    numberedEvents calls (.connection c (.event (.room event)) :: others) =
      calls.filterMap SendCall.roomEvent ++ event :: numberedEvents [] others := by
  simp [numberedEvents, Delivery.event, WireEvent.roomEvent, hsync]

theorem numberedEvents_told {event : RoomEvent} {others : List Delivery} {q : PlayerId}
    (hsync : event.payload.isSync = false) :
    numberedEvents [] (.broadcast q (.event (.room event)) :: others) = event :: numberedEvents [] others := by
  simp [numberedEvents, Delivery.event, WireEvent.roomEvent, hsync]

@[simp] theorem numberedEvents_nil (calls : List SendCall) :
    numberedEvents calls [] = calls.filterMap SendCall.roomEvent := by simp [numberedEvents]

/-- A number that is drawn for nothing. -/
theorem allocateSequence_skips (s : Server) (r : RoomId) : Draws r s (s.allocateSequence r) [] := by
  refine .none ?_
  rw [counter, counter, sequenceOr, sequenceOr, allocateSequence_get, Option.map_map]
  cases s.gameSessions.get r with
  | none => exact Nat.le_refl _
  | some gs => exact Nat.le_succ _

/-- What the send function gets carries no start. -/
theorem starts_of_sendsOnly (h : SendsOnly (fun x => !x.isStart) calls) :
    ∀ event ∈ calls.filterMap SendCall.roomEvent, event.payload.isStart = false := by
  intro event hevent
  obtain ⟨call, hcall, hsome⟩ := List.mem_filterMap.mp hevent
  have hpayload : call.payload = some event.payload := by
    obtain ⟨target, q, e⟩ := call
    cases e with
    | room e =>
      obtain rfl := Option.some.inj hsome
      rfl
    | _ => cases hsome
  simpa using h call hcall _ hpayload

/-! ### The frame of a room command -/

section Frame
variable {reply : WireEvent → List Delivery}

theorem sessionCommand_mailing {handle : Server → PlayerSession → HandlerResult} (hc : s.cached id = none)
    (hk : s.Keyed) (hb : s.Backed) (h : ∀ u session, u.cached id = none → u.Keyed → u.Backed →
      u.getSession token = some session → Mailing u r c token free (handle u session)) :
    Mailing s r c token free (s.withSession c id token fun s session => s.unlessCached id reply fun s =>
      handle s session) := by
  unfold withSession
  cases hs : s.getSession token with
  | none =>
    have hlooked : Posts r none s (s.afterGetSession token) [] := store_posts rfl rfl rfl rfl rfl rfl
    exact .refuse hlooked rfl _
  | some session =>
    rw [afterGetSession_eq_self hs]
    dsimp only
    rcases unlessCached_cases s id reply (fun s => handle s session) with ⟨entry, hentry, -⟩ | ⟨-, he⟩
    · rw [hc] at hentry
      cases hentry
    rw [he]
    exact .of_lookup (h (s.afterLookup id) session (((afterLookup_quiet s id).cached id).trans hc) hk hb hs)

theorem withRoom_mailing {handle : Server → RoomRecord → HandlerResult}
    (h : ∀ room, s.getRoom r = some room → Mailing s r c token free (handle s room)) :
    Mailing s r c token free (s.withRoom c id r handle) := by
  unfold withRoom
  cases hroom : s.getRoom r with
  | none => exact .refuse (afterGetRoom_posts s) rfl _
  | some room =>
    rw [afterGetRoom_eq_self hroom]
    exact h room hroom

theorem roomCommand_mailing {handle : Server → PlayerSession → RoomRecord → HandlerResult} (hc : s.cached id = none)
    (hk : s.Keyed) (hb : s.Backed) (h : ∀ u session room, u.Keyed → u.Backed → u.getSession token = some session →
      u.getRoom r = some room → Mailing u r c token free (handle u session room)) :
    Mailing s r c token free (s.roomCommand c id token r reply handle) :=
  sessionCommand_mailing hc hk hb fun u session _ hk hb hs =>
    withRoom_mailing fun room hroom => h u session room hk hb hs hroom

end Frame

end Server
end TicTacToe

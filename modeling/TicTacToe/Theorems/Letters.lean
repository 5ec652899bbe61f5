import TicTacToe.Theorems.HandlerMail
import TicTacToe.Theorems.OneRoom
import TicTacToe.Theorems.Online
import TicTacToe.Theorems.Retries

/-! # The letters of a step

A step about a room writes calls of the room's send function, and then the deliveries of a handler, to connections that
are registered for the sender of the command or for players who hold a slot of the room. -/

namespace TicTacToe
namespace Server
variable {s t u : Server} {r : RoomId} {G : IdSource} {c : ConnectionId} {id : CommandId} {token : SessionToken}
  {p q : PlayerId} {room : RoomRecord} {found : Option RoomRecord} {calls : List SendCall} {deliveries : List Delivery}
  {i : Input} {result : HandlerResult} {gs : GameSession} {P : PlayerId → Prop}

/-! ### Connections and the registry -/

/-- A connection that acts for a player has the player's session and is registered for the player. -/
structure Attached (G : IdSource) (s : Server) : Prop where
  identity : s.Identified G
  acting : ∀ c p, s.actsFor c = some p → c ∈ s.getPlayerConnectionIds p

theorem start_attached (now : Millis) (version : String) (repository : HistoryRepository) :
    (start now version repository).Attached G :=
  ⟨start_identified now version repository, fun c p h => by simp [actsFor, start] at h⟩

namespace Attached

theorem step (hs : s.Attached G) (hid : s.nextId ≤ t.nextId) (h : LinkStep G s i t) : t.Attached G :=
  ⟨hs.identity.step hid h, fun _ _ hc => h.acting hs.acting hc⟩

/-- The session of a connection is the one of the player for whom the connection acts. -/
theorem actsFor_session (hs : s.Attached G) (hn : G.NeverRepeats) (hi : s.Issuing G) {rec : ConnectionRecord}
    {session : PlayerSession} (hrec : s.connections.get c = some rec) (htoken : rec.sessionToken = some token)
    (hsession : s.getSession token = some session) : s.actsFor c = some session.playerId := by
  rcases hs.identity c rec hrec with hid | ⟨token', p, hid, hissued⟩
  · have hnone : rec.sessionToken = none := congrArg (fun x => x.1) hid
    rw [hnone] at htoken
    cases htoken
  · obtain rfl := Option.some.inj (htoken.symm.trans (congrArg (fun x => x.1) hid))
    rw [hi.player hn hissued hsession, actsFor, hrec]
    exact congrArg (fun x => x.2.1) hid

end Attached

/-! ### Reach -/

/-- The same connections are open, and registered for the same players. -/
structure SameReach (s t : Server) : Prop where
  opened : ∀ c, t.connections.has c = s.connections.has c
  registered : ∀ p, t.getPlayerConnectionIds p = s.getPlayerConnectionIds p

namespace SameReach

theorem trans (h₁ : SameReach s t) (h₂ : SameReach t u) : SameReach s u :=
  ⟨fun c => (h₂.opened c).trans (h₁.opened c), fun p => (h₂.registered p).trans (h₁.registered p)⟩

theorem of_eq (hc : t.connections = s.connections) (hr : t.playerConnectionRegistry = s.playerConnectionRegistry) :
    SameReach s t := ⟨fun _ => by rw [hc], fun _ => by rw [getPlayerConnectionIds, getPlayerConnectionIds, hr]⟩

theorem mailed (h : SameReach s t) (p : PlayerId) (e : WireEvent) : t.mailed p e = s.mailed p e := by
  have hopened : t.connections.has = s.connections.has := funext h.opened
  rw [Server.mailed, Server.mailed, h.registered, hopened]

theorem postedIn (h : SameReach s t) (found : Option RoomRecord) : t.postedIn found = s.postedIn found := by
  funext call
  simp only [Server.postedIn, posted, h.mailed]

theorem delivered (h : SameReach s t) : t.delivered = s.delivered := by
  funext d
  cases d with
  | connection c e => simp only [Server.delivered, h.opened]
  | broadcast p e => exact h.mailed p e

end SameReach

/-- No other connections are reached than before. -/
structure Narrows (s t : Server) : Prop where
  opened : ∀ c, t.connections.has c = s.connections.has c
  registered : ∀ p, (t.getPlayerConnectionIds p).Sublist (s.getPlayerConnectionIds p)

theorem Narrows.refl (s : Server) : Narrows s s := ⟨fun _ => rfl, fun _ => .refl _⟩

theorem mem_mailed {e e' : WireEvent} (h : (c, e) ∈ s.mailed p e') :
    e = e' ∧ c ∈ s.getPlayerConnectionIds p ∧ s.connections.has c = true := by
  obtain ⟨c', hc', he⟩ := List.mem_map.mp h
  obtain ⟨rfl, rfl⟩ := Prod.mk.inj he
  exact ⟨rfl, List.mem_filter.mp hc'⟩

/-! ### What is written -/

theorem send_written (s : Server) (c : ConnectionId) (e : WireEvent) :
    ∃ entries, (s.send c e).wire = s.wire ++ entries ∧ ∀ entry ∈ entries, entry.2 = e := by
  refine ⟨_, sendEach_wire s [c] e, fun entry hentry => ?_⟩
  obtain ⟨c', -, rfl⟩ := List.mem_map.mp hentry
  rfl

theorem sendError_frame (s : Server) (c : ConnectionId) (code : ErrorCode) (correlationId : Option CommandId) :
    ∃ connections w, s.sendError c code correlationId = { s with connections := connections, wire := s.wire ++ w } ∧
      ∀ entry ∈ w, entry.2.roomEvent = none := by
  unfold sendError
  dsimp only
  generalize he : makeErrorEvent code (ERROR_META code).summary (ERROR_META code).recoverable correlationId none = e
  have hnone : (WireEvent.event e).roomEvent = none := by
    subst he
    rfl
  obtain ⟨w, hw⟩ := send_frame s c (.event e)
  obtain ⟨entries, hentries, hsame⟩ := send_written s c (.event e)
  have hwritten : ∀ entry ∈ w, entry.2.roomEvent = none := by
    intro entry hentry
    rw [hw] at hentries
    rw [hsame entry (List.append_cancel_left hentries ▸ hentry), hnone]
  split
  · exact ⟨_, w, by rw [close, unregister, hw], hwritten⟩
  · exact ⟨_, w, hw, hwritten⟩

/-- After the handler its deliveries are written, or an error if it has thrown. -/
theorem conclude_frame (G : IdSource) (c : ConnectionId) (id : CommandId) (result : HandlerResult) :
    ∃ w n, conclude G c id result = { result.server with wire := result.server.wire ++ w, nextId := n } ∧
      (w = result.deliveries.flatMap result.server.delivered ∨ ∀ entry ∈ w, entry.2.roomEvent = none) := by
  unfold conclude
  split
  · generalize he : makeErrorEvent .INTERNAL_ERROR (ERROR_META .INTERNAL_ERROR).summary
      (ERROR_META .INTERNAL_ERROR).recoverable (some id) (some (G.traceId result.server.nextId)) = e
    have hnone : (WireEvent.event e).roomEvent = none := by
      subst he
      rfl
    obtain ⟨w, hw⟩ := send_frame (result.server.drawIds 1) c (.event e)
    obtain ⟨entries, hentries, hsame⟩ := send_written (result.server.drawIds 1) c (.event e)
    refine ⟨w, _, hw, Or.inr fun entry hentry => ?_⟩
    rw [hw] at hentries
    rw [hsame entry (List.append_cancel_left hentries ▸ hentry), hnone]
  · obtain ⟨w, hw⟩ := deliver_frame result.server result.deliveries
    have hwire := deliver_wire result.server result.deliveries
    refine ⟨w, result.server.nextId, hw, Or.inl ?_⟩
    rw [hw] at hwire
    exact List.append_cancel_left hwire

/-! ### Steps about a room -/

/-- The response to a command is sent again from the dedup cache. -/
def answeredAgain (s : Server) : Input → Bool
  | .frame c frame _ =>
    match frame.parseResult with
    | .ok command => (s.frameError c frame).isNone &&
      (s.cached command.commandId).any fun entry => !(replies c command.body entry.result).isEmpty
    | .error _ => false
  | _ => false

/-- Input `i` is a command about room `r` that is not answered again, or a timer of the room. -/
def Concerns (s : Server) (i : Input) (r : RoomId) : Prop :=
  i = .rematchTimer r ∨ i.concerns = some r ∧ s.answeredAgain i = false

/-- The connection of the command acts for player `p`. -/
def SentBy (s : Server) (i : Input) (p : PlayerId) : Prop :=
  ∃ c frame diskFails, i = .frame c frame diskFails ∧ s.actsFor c = some p

/-- The sender of the command, or a player who holds a slot of the live room. -/
def Audience (s : Server) (i : Input) (r : RoomId) (p : PlayerId) : Prop := s.SentBy i p ∨ s.InRoom r p

/-- Something has happened to room `r` alone. Calls of its send function have been written, and then the deliveries
unless the handler has thrown, all for the audience of the step. -/
structure Letters (s : Server) (i : Input) (r : RoomId) (t : Server) (calls : List SendCall)
    (deliveries : List Delivery) : Prop extends Elsewhere r s t where
  sendLog : t.sendLog = s.sendLog ++ calls.map (r, ·)
  wire : ∃ u found rest, Narrows s u ∧ s.Finds r found ∧
    t.wire = s.wire ++ (calls.flatMap (u.postedIn found) ++ rest) ∧
    (rest = deliveries.flatMap u.delivered ∨ ∀ entry ∈ rest, entry.2.roomEvent = none)
  sent : SendsFor r (s.Audience i r) calls
  delivered : ∀ d ∈ deliveries, ∃ c p, s.Audience i r p ∧ c ∈ s.getPlayerConnectionIds p ∧ d.For r c (s.Audience i r)

namespace Letters

/-- A step that writes at most errors. -/
theorem silent (h : Elsewhere r s t) (hl : t.sendLog = s.sendLog) {w : List (ConnectionId × WireEvent)}
    (hw : t.wire = s.wire ++ w) (hnone : ∀ entry ∈ w, entry.2.roomEvent = none) : Letters s i r t [] [] where
  toElsewhere := h
  sendLog := by simp [hl]
  wire := ⟨s, none, w, .refl s, finds_none, by simp [hw], Or.inr hnone⟩
  sent := .nil
  delivered := by simp

/-- An event of a room is written to connections that are open and registered for a player of the audience. -/
theorem written (h : Letters s i r t calls deliveries) : ∃ entries : List (ConnectionId × WireEvent),
    t.wire = s.wire ++ entries ∧ ∀ c w event, (c, w) ∈ entries → w.roomEvent = some event →
      event.roomId = r ∧ s.connections.has c = true ∧ ∃ p, s.Audience i r p ∧ c ∈ s.getPlayerConnectionIds p := by
  obtain ⟨u, found, rest, hu, hfinds, hwire, hrest⟩ := h.wire
  have hreached : ∀ {q c w w'}, (c, w) ∈ u.mailed q w' →
      w = w' ∧ s.connections.has c = true ∧ c ∈ s.getPlayerConnectionIds q := by
    intro q c w w' hmem
    obtain ⟨rfl, hc, hopen⟩ := mem_mailed hmem
    exact ⟨rfl, hu.opened c ▸ hopen, (hu.registered q).subset hc⟩
  refine ⟨_, hwire, fun c w event hentry hevent => ?_⟩
  rcases List.mem_append.mp hentry with hentry | hentry
  · obtain ⟨call, hcall, hentry⟩ := List.mem_flatMap.mp hentry
    cases found with
    | none => simp [postedIn] at hentry
    | some room =>
      obtain ⟨q, hq, hentry⟩ := List.mem_flatMap.mp hentry
      obtain ⟨rfl, hopen, hc⟩ := hreached hentry
      refine ⟨(h.sent call hcall).room event hevent, hopen, q, ?_, hc⟩
      rcases RoomRecord.recipients_holds (h.sent call hcall) hq with hP | hheld
      · exact hP
      · exact Or.inr (hfinds.inRoom rfl hheld)
  rcases hrest with rfl | hnone
  · obtain ⟨d, hmem, hentry⟩ := List.mem_flatMap.mp hentry
    obtain ⟨c', p, hp, hc', hfor⟩ := h.delivered d hmem
    cases d with
    | connection c₁ e =>
      obtain ⟨rfl, hroom⟩ := hfor
      unfold Server.delivered at hentry
      dsimp only at hentry
      split at hentry
      · rename_i hopen
        obtain ⟨rfl, rfl⟩ := Prod.mk.inj (List.mem_singleton.mp hentry)
        exact ⟨hroom event hevent, hu.opened c ▸ hopen, p, hp, hc'⟩
      · simp at hentry
    | broadcast q e =>
      obtain ⟨hq, hroom⟩ := hfor
      obtain ⟨rfl, hopen, hc⟩ := hreached hentry
      exact ⟨hroom event hevent, hopen, q, hq, hc⟩
  · rw [hnone _ hentry] at hevent
    cases hevent

end Letters

/-- A step that does nothing but calls of the send function. -/
theorem Posts.letters (h : Posts r found s t calls) (hfinds : s.Finds r found) (hsent : SendsFor r (s.InRoom r) calls) :
    Letters s i r t calls [] where
  toElsewhere := h.toElsewhere
  sendLog := h.sendLog
  wire := ⟨s, found, [], .refl s, hfinds, by rw [h.wire, List.append_nil], Or.inl rfl⟩
  sent := hsent.mono fun _ hq => Or.inr hq
  delivered := by simp

/-! ### Commands about a room -/

/-- What a command does and writes, refused or not. -/
theorem Mailing.summary {free : Bool} (h : Mailing s r c token free result) {session : PlayerSession}
    (hsession : s.getSession token = some session) : ∃ found calls, Posts r found s result.server calls ∧
      s.Finds r found ∧ SendsFor r (fun q => q = session.playerId ∨ s.InRoom r q) calls ∧
      (∀ d ∈ result.deliveries, d.For r c (s.InRoom r)) ∧
      Numbering s r (· = session.playerId) result.server calls result.deliveries := by
  cases h with
  | errs h hgames hd =>
    have hnone : numberedEvents [] result.deliveries = [] := by
      have hevents : (result.deliveries.filterMap fun d => d.event.roomEvent) = [] := by
        refine List.filterMap_eq_nil_iff.mpr fun d hmem => ?_
        obtain ⟨e, rfl, he⟩ := hd d hmem
        exact he
      rw [numberedEvents, hevents]
      rfl
    refine ⟨none, [], h, finds_none, .nil, fun d hmem => ?_, .counted ?_ ?_⟩
    · obtain ⟨e, rfl, he⟩ := hd d hmem
      exact ⟨rfl, fun event hevent => by simp [he] at hevent⟩
    · rw [hnone]
      exact .of_same (by rw [hgames])
    · rw [hnone]
      simp
  | mails hs h =>
    obtain ⟨session', hs', rfl⟩ := hs
    obtain rfl := Option.some.inj (hs'.symm.trans hsession)
    exact ⟨_, _, h.posts, h.finds, h.sent, h.delivered, h.numbering⟩

/-- The sender of a routed command that needs a session. -/
theorem Attached.sender (hs : s.Attached G) (hn : G.NeverRepeats) (hi : s.Issuing G) {rec : ConnectionRecord}
    {command : Command} (hrouted : s.Routed i c rec command) (hbody : isAuthExempt command.body = false) :
    ∃ token session, rec.sessionToken = some token ∧ s.getSession token = some session ∧
      s.actsFor c = some session.playerId := by
  have hauth : rec.authenticated = true := hrouted.permitted.resolve_right (by simp [hbody])
  rcases hs.identity c rec hrouted.connection with hid | ⟨token, p, hid, -⟩
  · have hnot : rec.authenticated = false := congrArg (fun x => x.2.2) hid
    rw [hauth] at hnot
    cases hnot
  have htoken : rec.sessionToken = some token := congrArg (fun x => x.1) hid
  obtain ⟨session, hsession⟩ := Option.isSome_iff_exists.mp (hrouted.session token hauth htoken)
  exact ⟨token, session, htoken, hsession, hs.actsFor_session hn hi hrouted.connection htoken hsession⟩

/-- Linking a connection to its player registers it where it is registered already. -/
theorem Attached.linked_reach (hs : s.Attached G) {rec : ConnectionRecord} (hrec : s.connections.get c = some rec)
    (hreach : SameReach s result.server) (body : CommandBody) : SameReach s (linked c rec body result).server := by
  cases body with
  | reconnect r' lastReceivedSeq =>
    unfold linked registerReconnected
    cases hp : rec.playerId with
    | none => exact hreach
    | some p =>
      have hregistered : c ∈ s.getPlayerConnectionIds p := hs.acting c p (by rw [actsFor, hrec]; exact hp)
      refine ⟨hreach.opened, fun q => ?_⟩
      dsimp only
      rw [getPlayerConnectionIds, registerPlayerConnection, JsMap.get_set]
      split
      · rename_i hpq
        subst hpq
        rw [Option.getD_some, hreach.registered, JsSet.add_of_mem hregistered]
      · exact hreach.registered q
  | _ => exact hreach

/-- What a handler has written through the send function, seen from before the frame. -/
theorem Routed.posted {rec : ConnectionRecord} {command : Command} (hrouted : s.Routed i c rec command) (hs : s.Attached G)
    (hposts : Posts r found (s.arrived c rec) result.server calls) :
    SameReach s (linked c rec command.body result).server ∧ Elsewhere r s (linked c rec command.body result).server ∧
      (linked c rec command.body result).server.wire = s.wire ++ calls.flatMap (s.postedIn found) ∧
      (linked c rec command.body result).server.sendLog = s.sendLog ++ calls.map (r, ·) := by
  obtain ⟨connections, sessions, harrived, hhas, -⟩ := arrived_frame s c rec
  obtain ⟨connections', registry', hserver, -⟩ := (linked_relinked c rec command.body result).server
  have harrives : SameReach s (s.arrived c rec) := by
    refine ⟨fun c' => ?_, fun q => ?_⟩
    · rw [harrived]
      exact hhas c'
    · rw [getPlayerConnectionIds, (arrived_quiet s c rec).registry]
      rfl
  refine ⟨hs.linked_reach hrouted.connection (harrives.trans (.of_eq hposts.connections hposts.registry)) command.body,
    ⟨fun r' hr' => ?_, fun r' hr' => ?_⟩, ?_, ?_⟩
  · rw [hserver]
    exact (hposts.stored r' hr').trans (by rw [harrived])
  · rw [hserver]
    exact (hposts.games r' hr').trans (by rw [harrived])
  · rw [hserver]
    dsimp only
    rw [hposts.wire, harrives.postedIn, harrived]
  · rw [hserver]
    exact hposts.sendLog.trans (by rw [harrived])

/-- What is dispatched for a command about room `r` that is not answered again. -/
theorem Routed.letters {rec : ConnectionRecord} {command : Command} (hrouted : s.Routed i c rec command)
    (hs : s.Attached G) (hn : G.NeverRepeats) (hi : s.Issuing G) (hk : s.Keyed) (hb : s.Backed)
    (hr : command.body.concerns = some r) (hagain : s.answeredAgain i = false) (diskFails : Bool) :
    ∃ calls,
      Letters s i r (conclude G c command.commandId ((s.arrived c rec).dispatch G c rec command diskFails)) calls
        ((s.arrived c rec).dispatch G c rec command diskFails).deliveries ∧
      Numbering s r (s.SentBy i)
        (conclude G c command.commandId ((s.arrived c rec).dispatch G c rec command diskFails)) calls
        ((s.arrived c rec).dispatch G c rec command diskFails).deliveries := by
  have hbody := concerns_not_exempt hr
  have hq := arrived_quiet s c rec
  obtain ⟨token, session, htoken, hsession, hacts⟩ := hs.sender hn hi hrouted hbody
  obtain ⟨session', hsession', hplayer, -⟩ := hq.session_to_some hsession
  obtain ⟨frame, diskFails', rfl, -, hparse⟩ := hrouted.frame
  have hsent : s.SentBy (.frame c frame diskFails') session.playerId := ⟨c, frame, diskFails', rfl, hacts⟩
  have hregistered : c ∈ s.getPlayerConnectionIds session.playerId := hs.acting _ _ hacts
  obtain ⟨connections, sessions, harrived, hhas, -⟩ := arrived_frame s c rec
  obtain ⟨w, n, hconclude, hw⟩ :=
    conclude_frame G c command.commandId ((s.arrived c rec).dispatch G c rec command diskFails)
  cases hc : s.cached command.commandId with
  | none =>
    obtain ⟨result, hmailing, hdispatch⟩ := dispatch_mailing (G := G) ((hq.cached _).trans hc) (hk.arrived c rec)
      (hb.of_quiet hq) htoken hr c diskFails
    obtain ⟨found, calls, hposts, hfinds, hcalls, hdeliveries, hnumbering⟩ := hmailing.summary hsession'
    have hlink := linked_relinked c rec command.body result
    obtain ⟨hreach, helsewhere, hwire, hlog⟩ := hrouted.posted hs hposts
    have hfinds' : s.Finds r found := by
      intro room' he
      obtain ⟨live, hlive, hsame⟩ := hfinds room' he
      exact ⟨live, (hq.getRoom r).symm.trans hlive, hsame⟩
    have haudience : ∀ q, q = session'.playerId ∨ (s.arrived c rec).InRoom r q →
        s.Audience (.frame c frame diskFails') r q := by
      rintro q (rfl | hq')
      · exact Or.inl (hplayer ▸ hsent)
      · exact Or.inr (hq.inRoom hq')
    rw [hdispatch] at hconclude hw ⊢
    rw [hreach.delivered] at hw
    refine ⟨calls, ⟨⟨fun r' hr' => ?_, fun r' hr' => ?_⟩, ?_, ⟨s, found, w, .refl s, hfinds', ?_, hw⟩,
      hcalls.mono haudience, fun d hd => ?_⟩, ?_⟩
    · rw [hconclude]
      exact helsewhere.stored r' hr'
    · rw [hconclude]
      exact helsewhere.games r' hr'
    · rw [hconclude]
      exact hlog
    · rw [hconclude]
      dsimp only
      rw [hwire, List.append_assoc]
    · rw [hlink.deliveries] at hd
      have hfor := hdeliveries d hd
      refine ⟨c, session.playerId, Or.inl hsent, hregistered, ?_⟩
      cases d with
      | connection c' e => exact hfor
      | broadcast q e => exact ⟨haudience q (Or.inr hfor.1), hfor.2⟩
    · rw [hlink.deliveries]
      refine .of_quiet hq (.of_games (hnumbering.mono fun q he => ?_) ?_)
      · rw [he, hplayer]
        exact hsent
      · rw [hconclude]
        obtain ⟨connections', registry', hserver, -⟩ := hlink.server
        rw [hserver]
  | some entry =>
    -- A rematch command that has been processed before is swallowed.
    have hempty : replies c command.body ((s.arrived c rec).reread entry.result) = [] := by
      rw [replies_eq_nil _ entry.result]
      simpa [answeredAgain, hparse, hrouted.frameError.2, hc] using hagain
    have hping : ∀ clientTime, command.body ≠ .ping clientTime := by
      intro clientTime he
      rw [he] at hbody
      cases hbody
    have hlink : Relinked ((s.arrived c rec).ok (replies c command.body ((s.arrived c rec).reread entry.result)))
        ((s.arrived c rec).dispatch G c rec command diskFails) :=
      dispatch_recalled (hk.arrived c rec) ((hq.cached _).trans hc) hping fun _ => ⟨token, session', htoken, hsession'⟩
    rw [hempty] at hlink
    have hdeliveries : ((s.arrived c rec).dispatch G c rec command diskFails).deliveries = [] := hlink.deliveries
    obtain ⟨connections', registry', hserver, -⟩ := hlink.server
    have hfinal : conclude G c command.commandId ((s.arrived c rec).dispatch G c rec command diskFails) =
        { s with
          connections := connections', sessions := sessions, playerConnectionRegistry := registry', wire := s.wire ++ w,
          nextId := n } := by
      rw [hconclude, hserver, ok, harrived]
    have hnone : ∀ entry ∈ w, entry.2.roomEvent = none := by
      rcases hw with rfl | hw
      · rw [hdeliveries]
        simp
      · exact hw
    rw [hdeliveries, hfinal]
    refine ⟨[], .silent ⟨fun _ _ => rfl, fun _ _ => rfl⟩ rfl rfl hnone, ?_⟩
    exact .counted (.of_same rfl) (by simp)

theorem handleFrame_letters {frame : RawFrame} {diskFails : Bool} {command : Command} (hs : s.Attached G)
    (hn : G.NeverRepeats) (hi : s.Issuing G) (hk : s.Keyed) (hb : s.Backed) (hparse : frame.parseResult = .ok command)
    (hr : command.body.concerns = some r) (hagain : s.answeredAgain (.frame c frame diskFails) = false) :
    ∃ calls deliveries, Letters s (.frame c frame diskFails) r (s.handleFrame G c frame diskFails) calls deliveries ∧
      Numbering s r (s.SentBy (.frame c frame diskFails)) (s.handleFrame G c frame diskFails) calls deliveries := by
  rcases handleFrame_cases (G := G) s c frame diskFails with
    ⟨u, code, id, -, hq, ⟨hwire, hrooms⟩, he⟩ | ⟨hq, hwire, hrooms⟩ | ⟨rec, command', hrouted⟩
  · obtain ⟨connections, w, hw, hnone⟩ := sendError_frame u c code id
    rw [he, hw]
    refine ⟨[], [], .silent ⟨fun r' _ => ?_, fun r' _ => ?_⟩ hq.sendLog (w := w) ?_ hnone, .counted (.of_same ?_) (by simp)⟩
    · dsimp only
      rw [hrooms]
    · dsimp only
      rw [hq.gameSessions]
    · dsimp only
      rw [hwire]
    · dsimp only
      rw [hq.gameSessions]
  · refine ⟨[], [], .silent ⟨fun _ _ => by rw [hrooms], fun _ _ => by rw [hq.gameSessions]⟩ hq.sendLog (w := [])
      (by rw [hwire, List.append_nil]) (by simp), .counted (.of_same (by rw [hq.gameSessions])) (by simp)⟩
  · obtain rfl := Except.ok.inj (hparse.symm.trans hrouted.frameError.1)
    obtain ⟨calls, hletters, hnumbering⟩ := hrouted.letters hs hn hi hk hb hr hagain diskFails
    rw [handleFrame_routed hrouted]
    exact ⟨calls, _, hletters, hnumbering⟩

/-! ### Timers -/

theorem onPlayerLeft_posts (s : Server) (p : PlayerId) : Posts r found s (s.onPlayerLeft r p) [] := by
  obtain ⟨freed, hfreed, hleft⟩ := onPlayerLeft_cases s r p
  have hposts : Posts r found s freed [] := by
    rcases hfreed with ⟨-, rfl⟩ | ⟨room, -, rfl⟩
    · exact afterGetRoom_posts s
    · exact (afterGetRoom_posts s).then_silent (putRoom_posts _ _)
  rcases hleft with ⟨-, h⟩ | ⟨token, -, h⟩
  · exact h ▸ hposts
  · exact h ▸ hposts.then_silent (store_posts rfl rfl rfl rfl rfl rfl)

theorem finds_live (s : Server) (r : RoomId) : s.Finds r (s.getRoom r) := fun _ he => finds_room he _ rfl

/-- A timer sends no start of a game. -/
theorem expireReconnectWindow_starts_none (gs : GameSession) (now : Millis) (repository : HistoryRepository)
    (diskFails : Bool) (p : PlayerId) (symbol : Option PlayerSymbol) :
    SendsOnly (fun x => !x.isStart) (gs.expireReconnectWindow now repository diskFails p symbol).sends := by
  have habandoned : SendsOnly (fun x => !x.isStart) (gs.handleAbandon now repository diskFails p).sends :=
    GameSession.handleEnd_sendsOnly _ _ fun _ _ _ _ _ => rfl
  rcases GameSession.expireReconnectWindow_cases gs now repository diskFails p symbol with
    ⟨-, h⟩ | ⟨-, -, h⟩ | ⟨x, -, -, h⟩ <;> rw [h]
  · exact habandoned
  · exact habandoned
  · exact habandoned.append (.one rfl)

theorem expireRematch_starts_none (gs : GameSession) (room : RoomRecord) (gameId : GameId) :
    SendsOnly (fun x => !x.isStart) (gs.expireRematch room gameId).sends := by
  rcases GameSession.expireRematch_cases gs room gameId with h | h | ⟨_, h⟩ <;> rw [h]
  · exact .nil
  · exact .nil
  · exact .one rfl

/-- The calls of a timer take the next numbers. -/
theorem Numbering.timer {e : Emitted} (hb : s.Backed) (hgame : s.gameSessions.get r = some gs) (hhands : gs.Hands e)
    (honly : SendsOnly (fun x => !x.isStart) e.sends) (ht : Draws r (s.applyEmitted r e) t []) :
    Numbering s r P t e.sends [] := by
  refine .counted ?_ ?_
  · rw [numberedEvents_nil]
    exact (applyEmitted_draws hgame (hhands.draws ((hb r).some gs hgame) honly)).then_none ht
  · rw [numberedEvents_nil]
    exact starts_of_sendsOnly honly

/-- A step about room `r`. -/
theorem step_letters (hs : s.Attached G) (hn : G.NeverRepeats) (hi : s.Issuing G) (hk : s.Keyed) (hb : s.Backed)
    (hc : s.Concerns i r) (h : s.step G i = some t) :
    ∃ calls deliveries, Letters s i r t calls deliveries ∧ Numbering s r (s.SentBy i) t calls deliveries := by
  rcases hc with rfl | ⟨hr, hagain⟩
  · simp only [step] at h
    split at h
    · rename_i gs room hg hroom
      split at h
      · cases h
      · split at h
        · rw [← Option.some.inj h]
          refine ⟨_, _, (applyEmitted_posts rfl _).letters (finds_live s r)
            (hk r gs hg ▸ GameSession.expireRematch_for gs room _), ?_⟩
          exact .timer hb hg (GameSession.expireRematch_hands gs room _) (expireRematch_starts_none gs room _)
            (.of_same rfl)
        · cases h
    · cases h
  cases i with
  | frame c frame diskFails =>
    obtain ⟨command, hparse, hconcerns⟩ : ∃ command, frame.parseResult = .ok command ∧
        command.body.concerns = some r := by
      unfold Input.concerns at hr
      cases hparse : frame.parseResult with
      | error reason => simp [hparse] at hr
      | ok command => exact ⟨command, rfl, by simpa [hparse] using hr⟩
    rw [← Option.some.inj h]
    exact handleFrame_letters hs hn hi hk hb hparse hconcerns hagain
  | reconnectWindow r' p diskFails =>
    obtain rfl := Option.some.inj hr
    simp only [step] at h
    split at h
    · cases h
    rename_i gs hg
    split at h
    · cases h
    rename_i timer htimer
    split at h
    · split at h
      · cases h
      rename_i hfired
      rw [← Option.some.inj h]
      unfold fireReconnectWindow at hfired ⊢
      dsimp only at hfired ⊢
      split at hfired
      · exact absurd rfl hfired
      · rename_i hthrew
        rw [if_neg hthrew]
        have hleft : ∀ u : Server, (u.onPlayerLeft r' p).gameSessions.get r' = u.gameSessions.get r' := by
          intro u
          have hview := congrArg RoomView.game (onPlayerLeft_view u r' r' p)
          rwa [if_pos rfl] at hview
        refine ⟨_, _, ((applyEffect_posts rfl _).then_silent (onPlayerLeft_posts _ p)).letters (finds_live s r')
          (hk r' gs hg ▸ GameSession.expireReconnectWindow_for gs _ _ _ p _), ?_⟩
        exact .timer hb hg (GameSession.expireReconnectWindow_hands gs _ _ _ p _)
          (expireReconnectWindow_starts_none gs _ _ _ p _) (.of_same (hleft _))
    · cases h
  | _ => cases hr

/-! ### Runs -/

/-- In a run every connection that acts for a player is registered. -/
theorem attached_of_run (hn : G.NeverRepeats) {C : Server → Input → Prop} {now : Millis} {version : String}
    {repository : HistoryRepository} (hrun : Runs G C (start now version repository) s) : s.Seats G ∧ s.Attached G :=
  hrun.invariant (P := fun s => s.Seats G ∧ s.Attached G)
    ⟨start_seats now version repository, start_attached now version repository⟩ fun _ _ _ hs _ hstep =>
      ⟨hs.1.step hn hstep, hs.2.step (nextId_le_step hs.1.keyed hstep) (step_links hs.1.issuing hs.2.identity hstep)⟩

end Server
end TicTacToe

import TicTacToe.Theorems.Recall
import TicTacToe.Theorems.RosterAgreement

/-! # Agreement in a lobby

A command about a room is a calm step or a turn of its player. So what the clients know about slots and marks stays right
in every run in which no game starts. -/

namespace TicTacToe
namespace Server
variable {s t u : Server} {r : RoomId} {G : IdSource} {c c' : ConnectionId} {id : CommandId} {token : SessionToken}
  {p q : PlayerId} {i : Input} {room room' : RoomRecord} {result : HandlerResult} {answers : List RoomEvent}
  {news : Option (PlayerId × RoomEvent)}

/-- A player holds slots of one room. -/
theorem Single.one_room (hs : s.Single G) {r' : RoomId} (hroom : s.getRoom r = some room)
    (hroom' : s.getRoom r' = some room') (hp : room.Holds p) (hp' : room'.Holds p) : r = r' := by
  obtain ⟨x, hx⟩ := hp
  obtain ⟨x', hx'⟩ := hp'
  exact hs.once r r' p (Option.isSome_of_eq_some hroom) (Option.isSome_of_eq_some hroom')
    ⟨room, x, view_room_of_getRoom hroom, hx⟩ ⟨room', x', view_room_of_getRoom hroom', hx'⟩

/-! ### Turns -/

/-- A turn of player `p` in room `r`, on connection `c`: after events that are not about slots and marks, the answers and
the news are written. -/
structure Spoken (s t : Server) (r : RoomId) (c : ConnectionId) (p : PlayerId) (room room' : RoomRecord)
    (answers : List RoomEvent) (news : Option (PlayerId × RoomEvent)) : Prop where
  turn : Turn r p room room' answers news
  found : s.getRoom r = some room
  rooms : ∀ r', t.getRoom r' = if r = r' then some room' else s.getRoom r'
  sender : s.actsFor c = some p
  acting : ∀ c', t.actsFor c' = s.actsFor c'
  beside : ∀ c' v, s.actsFor c' = some p → c ≠ c' → s.known c' = some (r, v) → room'.Holds p → room'.roster = room.roster
  written : ∃ w, t.wire = s.wire ++ (w ++ (answers.map (fun e => Delivery.connection c (.event (.room e))) ++
      news.toList.map fun n => Delivery.broadcast n.1 (.event (.room n.2))).flatMap s.delivered) ∧
    ∀ entry ∈ w, ∀ event, entry.2.roomEvent = some event → Passive event

theorem tells_answers (c c' : ConnectionId) (q : PlayerId) (answers : List RoomEvent) :
    (answers.map fun e => Delivery.connection c (.event (.room e))).filterMap (Delivery.tells c' q) =
      if c = c' then answers.map Event.room else [] := by
  rw [List.filterMap_map]
  split
  · rename_i h
    simp [Function.comp_def, Delivery.tells, h, WireEvent.content, List.filterMap_eq_map']
  · rename_i h
    simp [Function.comp_def, Delivery.tells, h]

/-- The news, as player `q` is told them. -/
def newsFor (q : PlayerId) (news : Option (PlayerId × RoomEvent)) : List Event :=
  (news.filter fun n => n.1 = q).toList.map fun n => .room n.2

theorem tells_news (c' : ConnectionId) (q : PlayerId) (news : Option (PlayerId × RoomEvent)) :
    (news.toList.map fun n => Delivery.broadcast n.1 (.event (.room n.2))).filterMap (Delivery.tells c' q) =
      newsFor q news := by
  cases news with
  | none => rfl
  | some n => by_cases h : n.1 = q <;> simp [newsFor, Option.filter, Delivery.tells, WireEvent.content, h]

theorem newsFor_other (h : ∀ n, news = some n → n.1 ≠ q) : newsFor q news = [] := by
  cases news with
  | none => rfl
  | some n => simp [newsFor, Option.filter, h n rfl]

namespace Spoken

/-- What a client has learned after the turn. -/
theorem learned (h : Spoken s t r c p room room' answers news) (ha : s.Addressed G) (hq : s.actsFor c' = some q) :
    ∃ before, (before = s.known c' ∨ before = none) ∧
      t.known c' = ((if c = c' then answers.map Event.room else []) ++ newsFor q news).foldl learn before := by
  obtain ⟨w, hw, hpassive⟩ := h.written
  refine ⟨(told c' w).foldl learn (s.known c'), learn_idles (told_idle hpassive) _, ?_⟩
  rw [known, hw, told_append, told_append, List.foldl_append, List.foldl_append, ha.told_delivered hq,
    List.filterMap_append, tells_answers, tells_news]
  rfl

theorem lobby (h : Spoken s t r c p room room' answers news) (hs : s.Agreed) (c' : ConnectionId) (event : RoomEvent)
    (he : Event.room event ∈ told c' t.wire) : event.payload.lobby := by
  obtain ⟨w, hw, hpassive⟩ := h.written
  rw [hw, told_append, told_append] at he
  rcases List.mem_append.mp he with he | he
  · exact hs.lobby c' event he
  rcases List.mem_append.mp he with he | he
  · exact RoomPayload.lobby_of_passive (told_idle hpassive _ he)
  · obtain ⟨d, hd, hentry⟩ := List.mem_flatMap.mp (mem_told.mp he)
    have hevent := delivered_event hentry
    refine h.turn.lobby event ?_
    rcases List.mem_append.mp hd with hd | hd
    · obtain ⟨e, he, rfl⟩ := List.mem_map.mp hd
      obtain rfl := Event.room.inj (WireEvent.event.inj hevent)
      exact List.mem_append_left _ he
    · obtain ⟨n, hn, rfl⟩ := List.mem_map.mp hd
      obtain rfl := Event.room.inj (WireEvent.event.inj hevent)
      exact List.mem_append_right _ (List.mem_map_of_mem hn)

/-- Who holds a slot of another room is told nothing. -/
theorem elsewhere (h : Spoken s t r c p room room' answers news) (hs : s.Single G) (ht : t.Single G) {r₁ : RoomId}
    {room₁ : RoomRecord} (hr : r ≠ r₁) (hroom : s.getRoom r₁ = some room₁) (hq : room₁.Holds q) :
    q ≠ p ∧ newsFor q news = [] := by
  have hroom' : t.getRoom r₁ = some room₁ := by rw [h.rooms, if_neg hr, hroom]
  have hfound' : t.getRoom r = some room' := by rw [h.rooms, if_pos rfl]
  have hnot : ¬room.Holds q := fun hq' => hr (hs.one_room h.found hroom hq' hq)
  have hnot' : ¬room'.Holds q := fun hq' => hr (ht.one_room hfound' hroom' hq' hq)
  refine ⟨?_, newsFor_other fun n hn hq' => ?_⟩
  · rintro rfl
    exact h.turn.seated.elim hnot hnot'
  · obtain ⟨-, hholds, -⟩ := h.turn.told n hn
    exact hnot (hq' ▸ hholds)

/-- Those who act for the players of the room know the roster after the turn. -/
theorem right (h : Spoken s t r c p room room' answers news) (ha : s.Addressed G) (hs : s.Agreed)
    (hq : s.actsFor c' = some q) : Right r room' q (t.known c') := by
  obtain ⟨before, hbefore, hlearned⟩ := h.learned ha hq
  have hknown : ∀ v, before = some (r, v) → s.known c' = some (r, v) := by
    intro v hv
    rcases hbefore with rfl | rfl
    · exact hv
    · cases hv
  have hright : Right r room q before := fun v hv => hs.right c' q r room hq h.found v (hknown v hv)
  rw [hlearned]
  intro v hv hholds
  by_cases hp : q = p
  · subst hp
    rw [newsFor_other fun n hn => (h.turn.told n hn).1, List.append_nil] at hv
    split at hv
    · exact h.turn.answered hholds before hright v hv hholds
    · -- The other connections of the player are not answered.
      rename_i hc
      have hroster := h.beside c' v hq hc (hknown v hv) hholds
      rw [hroster]
      exact hright v hv (RoomRecord.holds_of_roster hroster hholds)
  · have hc : c ≠ c' := by
      rintro rfl
      exact hp (Option.some.inj (hq.symm.trans h.sender))
    obtain ⟨hheld, hnews⟩ := h.turn.others q hp hholds
    rw [if_neg hc, List.nil_append] at hv
    rcases hnews with ⟨event, rfl, hheard⟩ | ⟨rfl, hroster⟩
    · have hevents : newsFor q (some (q, event)) = [.room event] := by simp [newsFor]
      obtain ⟨-, -, hjoined⟩ := h.turn.told _ rfl
      rw [hevents] at hv
      exact Turn.right_heard (fun v hv => hright v hv hheld) hjoined hheard v hv
    · rw [hroster]
      exact hright v hv hheld

end Spoken

/-- After a turn the clients are right again. -/
theorem Agreed.spoken (hs : s.Agreed) (ha : s.Addressed G) (h₁ : s.Single G) (h₂ : t.Single G)
    (h : Spoken s t r c p room room' answers news) : t.Agreed := by
  refine ⟨h.lobby hs, fun c' q r₁ room₁ hq hroom => ?_⟩
  rw [h.acting] at hq
  rw [h.rooms] at hroom
  split at hroom
  · rename_i hr
    subst hr
    obtain rfl := Option.some.inj hroom
    exact h.right ha hs hq
  · rename_i hr
    intro v hv hholds
    obtain ⟨hp, hnews⟩ := h.elsewhere h₁ h₂ hr hroom hholds
    have hc : c ≠ c' := by
      rintro rfl
      exact hp (Option.some.inj (hq.symm.trans h.sender))
    obtain ⟨before, hbefore, hlearned⟩ := h.learned ha hq
    rw [hlearned, if_neg hc, hnews] at hv
    rcases hbefore with rfl | rfl
    · exact hs.right c' q r₁ room₁ hq hroom v hv hholds
    · cases hv

/-! ### Commands about a room -/

/-- Another open connection acts for player `p`, and its client is in room `r`. -/
def isBeside (s : Server) (c : ConnectionId) (p : PlayerId) (r : RoomId) : Bool :=
  s.connections.entries.any fun entry =>
    entry.1 ≠ c && entry.2.playerId = some p && (s.known entry.1).any fun k => k.1 = r

/-- A player enters a room or gets ready while the client of another open connection of the player is in the room. -/
def speaksBeside (s : Server) : Input → Bool
  | .frame c frame _ =>
    match frame.parseResult with
    | .ok command => (s.actsFor c).any fun p =>
      s.speaksUp p command.body && command.body.concerns.any fun r => s.isBeside c p r
    | .error _ => false
  | _ => false

theorem isBeside_of_known {v : Roster} (hp : s.actsFor c' = some p) (hc : c ≠ c') (hv : s.known c' = some (r, v)) :
    s.isBeside c p r = true := by
  obtain ⟨rec, hrec, hp⟩ := Option.bind_eq_some_iff.mp hp
  exact List.any_eq_true.mpr ⟨(c', rec), (JsMap.mem_entries_iff _).mpr hrec, by simp [hp, hv, Ne.symm hc]⟩

/-- The cache tells a client of slots or marks in the room of its player, and they are no longer so. -/
def Misinforms (s : Server) (i : Input) : Prop :=
  ∃ c rec command entry event, s.Recalls i c rec command entry ∧ entry.result = .event (.room event) ∧
    event.payload.passive = false ∧ (event.payload.lobby → ∃ p r room, s.actsFor c = some p ∧ s.getRoom r = some room ∧
      room.Holds p ∧ (event.payload.admits = true → event.roomId = r) ∧ room.roster.hear event.payload ≠ room.roster)

/-- What the lobby learns from a snapshot does not depend on the games in it. -/
theorem withHistory_lobby (payload : RoomPayload) (games : List GameSummary) :
    (payload.withHistory games).passive = payload.passive ∧ ((payload.withHistory games).lobby ↔ payload.lobby) ∧
      (payload.withHistory games).admits = payload.admits ∧
      ∀ v : Roster, v.hear (payload.withHistory games) = v.hear payload := by
  cases payload <;> exact ⟨rfl, Iff.rfl, rfl, fun _ => rfl⟩

/-- A client is misinformed by what the cached object reads as. -/
theorem Misinforms.of_reread {rec : ConnectionRecord} {command : Command} {entry : DedupEntry} {event : RoomEvent}
    (h : s.Recalls i c rec command entry) (hevent : s.reread entry.result = .event (.room event))
    (hpassive : event.payload.passive = false)
    (hlobby : event.payload.lobby → ∃ p r room, s.actsFor c = some p ∧ s.getRoom r = some room ∧ room.Holds p ∧
      (event.payload.admits = true → event.roomId = r) ∧ room.roster.hear event.payload ≠ room.roster) :
    s.Misinforms i := by
  obtain ⟨event₀, he, hroomId, hsame | ⟨games, hgames⟩⟩ := eq_of_reread_room hevent
  · rw [hsame] at hpassive hlobby
    rw [hroomId] at hlobby
    exact ⟨c, rec, command, entry, event₀, h, he, hpassive, hlobby⟩
  · obtain ⟨hp, hl, ha, hv⟩ := withHistory_lobby event₀.payload games
    simp only [hgames, hroomId, hp, hl, ha, hv] at hpassive hlobby
    exact ⟨c, rec, command, entry, event₀, h, he, hpassive, hlobby⟩

/-- Only `AUTH` binds a connection to a player. -/
theorem handled_actsFor {rec : ConnectionRecord} {command : Command} (hbody : isAuthExempt command.body = false)
    (diskFails : Bool) (c' : ConnectionId) :
    (conclude G c command.commandId ((s.arrived c rec).dispatch G c rec command diskFails)).actsFor c' = s.actsFor c' := by
  rw [(conclude_quiet G c command.commandId _).links.actsFor]
  have hauth : ∀ guestToken, command.body ≠ .auth guestToken := by
    intro guestToken he
    rw [he] at hbody
    cases hbody
  rcases dispatch_links (G := G) (s.arrived c rec) c rec command diskFails hauth with hlinks | ⟨p, -, hlinks⟩
  · rw [hlinks.actsFor, (arrived_quiet s c rec).links.actsFor]
  · rw [hlinks.actsFor]
    exact (arrived_quiet s c rec).links.actsFor c'

/-- Before the handler of a command that has been processed nothing changes. -/
theorem recalled_rooms {rec : ConnectionRecord} {command : Command} {frame : RawFrame} {diskFails : Bool}
    {entry : DedupEntry} (hrouted : s.Routed (.frame c frame diskFails) c rec command) (hk : s.Keyed) (hu : s.Unplayed)
    (hc : s.cached command.commandId = some entry) : ∀ r room', (s.handleFrame G c frame diskFails).getRoom r = some room' →
      (∀ q, ¬room'.Holds q) ∨ ∃ room, s.getRoom r = some room ∧ room'.roster = room.roster := by
  obtain ⟨r, a, hacts, hcause⟩ := handleFrame_acts (G := G) hk c frame diskFails
  refine hacts.same_rosters (hu r) (hcause.not_reseats (fun p he => ?_) fun command' p hhandles => ?_)
  · subst he
    obtain ⟨diskFails', he⟩ := hcause
    cases he
  · obtain ⟨c', rec', token, hrouted', -, hprocessed⟩ := hhandles
    obtain ⟨-, -, rfl⟩ := hrouted.unique hrouted'
    rw [hprocessed.uncached] at hc
    cases hc

/-- A rematch command that has been processed before is swallowed. -/
theorem Routed.swallowed {rec : ConnectionRecord} {command : Command} {frame : RawFrame} {diskFails : Bool}
    {entry : DedupEntry} (hrouted : s.Routed (.frame c frame diskFails) c rec command) (hk : s.Keyed) (hu : s.Unplayed)
    (hr : command.body.concerns = some r) (htoken : rec.sessionToken = some token)
    (hc : s.cached command.commandId = some entry) (hrematch : command.body.isRematch = true) :
    Calm s (s.handleFrame G c frame diskFails) := by
  have hexempt := concerns_not_exempt hr
  have hresent := retry_resent (G := G) hk hrouted hc (fun clientTime he => by rw [he] at hexempt; cases hexempt)
    (fun _ hnone => by rw [htoken] at hnone; cases hnone) rfl
  rw [hrematch, if_pos rfl] at hresent
  refine ⟨.of_same (by simpa using hresent.wire), fun c' p hacts => Or.inl ?_, recalled_rooms hrouted hk hu hc⟩
  rwa [handleFrame_routed hrouted, handled_actsFor hexempt] at hacts

/-- Who is answered from the cache acts for the same player, or has been told to forget its room. -/
theorem Recalls.acting {rec : ConnectionRecord} {command : Command} {frame : RawFrame} {diskFails : Bool}
    {entry : DedupEntry} (h : s.Recalls (.frame c frame diskFails) c rec command entry)
    (hacts : (s.handleFrame G c frame diskFails).actsFor c' = some p) :
    s.actsFor c' = some p ∨ (s.handleFrame G c frame diskFails).known c' = none := by
  have hresends := h.resends
  rw [handleFrame_routed h.routed] at hacts ⊢
  obtain ⟨hrouted, -, -, -⟩ := h
  obtain ⟨id, body⟩ := command
  cases hexempt : isAuthExempt body with
  | false =>
    rw [handled_actsFor hexempt] at hacts
    exact Or.inl hacts
  | true =>
    cases body with
    | auth guestToken => exact hrouted.auth_acting hacts
    | ping clientTime => cases hresends
    | _ => cases hexempt

theorem event_of_roomEvent {w : WireEvent} {event : RoomEvent} (h : w.roomEvent = some event) :
    w = .event (.room event) := by
  cases w with
  | processed => cases h
  | event e =>
    cases e with
    | room e => exact congrArg _ (congrArg _ (Option.some.inj h))
    | _ => cases h

/-- A client that is answered from the cache is right, unless it is misinformed. -/
theorem Agreed.recalled {rec : ConnectionRecord} {command : Command} {frame : RawFrame} {diskFails : Bool}
    {entry : DedupEntry} (hs : s.Agreed) (hk : s.Keyed) (hu : s.Unplayed)
    (h : s.Recalls (.frame c frame diskFails) c rec command entry) (hmis : ¬s.Misinforms (.frame c frame diskFails)) :
    (s.handleFrame G c frame diskFails).Agreed := by
  have hwire : (s.handleFrame G c frame diskFails).wire = s.wire ++ [(c, s.reread entry.result)] := h.written hk rfl
  have hrooms := recalled_rooms (G := G) h.routed hk hu h.cached
  have hacting : ∀ c' p, (s.handleFrame G c frame diskFails).actsFor c' = some p →
      s.actsFor c' = some p ∨ (s.handleFrame G c frame diskFails).known c' = none := fun c' p => h.acting
  generalize s.handleFrame G c frame diskFails = t at hwire hrooms hacting ⊢
  by_cases hpassive : ∀ event, (s.reread entry.result).roomEvent = some event → Passive event
  · refine hs.calm ⟨⟨_, hwire, fun x hx => ?_⟩, hacting, hrooms⟩
    rw [List.mem_singleton.mp hx]
    exact hpassive
  · obtain ⟨event, hevent⟩ := not_forall.mp hpassive
    obtain ⟨hevent, hnot⟩ := Classical.not_imp.mp hevent
    have hresult : s.reread entry.result = .event (.room event) := event_of_roomEvent hevent
    have hlobby : event.payload.lobby := by
      by_contra hnone
      exact hmis (.of_reread h hresult (Bool.eq_false_iff.mpr hnot) fun hl => absurd hl hnone)
    have htold : ∀ c', told c' t.wire = told c' s.wire ++ if c = c' then [.room event] else [] := by
      intro c'
      rw [hwire, told_append, told_cons, hresult]
      exact congrArg _ (List.append_nil _)
    refine ⟨fun c' event' he => ?_, fun c' p r room' hacts hroom' v hv hp => ?_⟩
    · rw [htold] at he
      rcases List.mem_append.mp he with he | he
      · exact hs.lobby c' event' he
      · split at he
        · obtain rfl := Event.room.inj (List.mem_singleton.mp he)
          exact hlobby
        · cases he
    rcases hacting c' p hacts with hacts | hnone
    swap
    · rw [hnone] at hv
      cases hv
    rcases hrooms r room' hroom' with hempty | ⟨room, hroom, hroster⟩
    · exact absurd hp (hempty p)
    have hholds := RoomRecord.holds_of_roster hroster hp
    have hright : ∀ v, s.known c' = some (r, v) → v = room.roster :=
      fun v hv => hs.right c' p r room hacts hroom v hv hholds
    rw [known, htold, List.foldl_append] at hv
    rw [hroster]
    split at hv
    · rename_i hc
      subst hc
      refine Turn.right_confirmed hright (fun hadmits => ?_) v hv
      by_contra hstale
      exact hmis (.of_reread h hresult (Bool.eq_false_iff.mpr hnot) fun _ =>
        ⟨p, r, room, hacts, hroom, hholds, hadmits, hstale⟩)
    · exact hright v hv

theorem resends_of_room {body : CommandBody} (hr : body.concerns = some r) (hrematch : body.isRematch = false) :
    body.resends = true := by
  cases body with
  | ping clientTime => cases hr
  | _ => first | rfl | cases hrematch

theorem speaksUp_of_quiet (hq : Quiet s u) (p : PlayerId) (body : CommandBody) : u.speaksUp p body = s.speaksUp p body := by
  cases body <;> simp only [speaksUp, hq.getRoom]

/-- Without a pair that gets complete, the marks that a `PLAYER_READY` adds are not all. -/
theorem not_both_ready {id : CommandId} (hpair : s.completesPair i = false)
    (hprocessed : s.processed i = some (⟨id, .playerReady r⟩, p)) (room : RoomRecord) (symbol : PlayerSymbol)
    (hroom : s.getRoom r = some room) (htwo : 2 ≤ playerCount room)
    (hsymbol : getSymbolForPlayer room p = some symbol) (hready : symbol ∉ room.readySymbols) :
    (room.markReady symbol).bothReady = false := by
  simpa [completesPair, hprocessed, hroom, htwo, hsymbol, hready] using hpair

/-- A command about room `r` that is not answered again. -/
theorem Routed.spoken {rec : ConnectionRecord} {command : Command} {frame : RawFrame} {diskFails : Bool}
    (hrouted : s.Routed (.frame c frame diskFails) c rec command) (hn : G.NeverRepeats) (ha : s.Addressed G)
    (hs : s.Single G) (hb : s.Backed) (hu : s.Unplayed) (hsound : ∀ room, s.getRoom r = some room → room.Sound)
    (hr : command.body.concerns = some r) (hrecalls : ∀ entry, ¬s.Recalls (.frame c frame diskFails) c rec command entry)
    (hpair : s.completesPair (.frame c frame diskFails) = false)
    (hbeside : s.speaksBeside (.frame c frame diskFails) = false) :
    Calm s (s.handleFrame G c frame diskFails) ∨ ∃ p room room' answers news,
      Spoken s (s.handleFrame G c frame diskFails) r c p room room' answers news := by
  have hk := hs.seats.keyed
  have hexempt := concerns_not_exempt hr
  have hq := arrived_quiet s c rec
  obtain ⟨token, session, htoken, hsession, hacts⟩ := ha.attached.sender hn hs.seats.issuing hrouted hexempt
  obtain ⟨session', hsession', hplayer, -⟩ := hq.session_to_some hsession
  cases hc : s.cached command.commandId with
  | some entry =>
    cases hrematch : command.body.isRematch with
    | true => exact Or.inl (hrouted.swallowed hk hu hr htoken hc hrematch)
    | false =>
      refine absurd ⟨hrouted, fun _ hnone => ?_, hc, ?_⟩ (hrecalls entry)
      · rw [htoken] at hnone
        cases hnone
      · exact resends_of_room hr hrematch
  | none =>
    have hacting : ∀ c', (s.handleFrame G c frame diskFails).actsFor c' = s.actsFor c' := fun c' => by
      rw [handleFrame_routed hrouted, handled_actsFor hexempt]
    have hprocessed : s.processed (.frame c frame diskFails) = some (command, session.playerId) :=
      Handles.processed ⟨c, rec, token, hrouted, htoken, ⟨session, hsession, rfl⟩, hc⟩ hexempt
    have hview : (s.arrived c rec).Unplayed := fun r' => hq.view r' ▸ hu r'
    have hpair' : command.body = .playerReady r → ∀ room symbol, (s.arrived c rec).getRoom r = some room →
        2 ≤ playerCount room → getSymbolForPlayer room session'.playerId = some symbol → symbol ∉ room.readySymbols →
        (room.markReady symbol).bothReady = false := by
      intro he room symbol hroom htwo hsymbol hready
      obtain ⟨id, body⟩ := command
      obtain rfl : body = .playerReady r := he
      exact not_both_ready hpair hprocessed room symbol (hq.getRoom r ▸ hroom) htwo (hplayer ▸ hsymbol) hready
    obtain ⟨result, hmailing, hresponds, hdispatch⟩ := dispatch_responds (G := G) hview
      (fun room hroom => hsound room (hq.getRoom r ▸ hroom)) (hk.arrived c rec) (hb.of_quiet hq) hsession'
      ((hq.cached _).trans hc) htoken hr hpair' c diskFails
    obtain ⟨found, calls, hposts, -⟩ := hmailing.summary hsession'
    obtain ⟨hreach, -, hwire, hlog⟩ := hrouted.posted ha.attached hposts
    have hlink := linked_relinked c rec command.body result
    have hrooms : ∀ r', (s.handleFrame G c frame diskFails).getRoom r' = result.server.getRoom r' := by
      intro r'
      obtain ⟨connections', registry', hserver, -⟩ := hlink.server
      rw [handleFrame_routed hrouted, (conclude_quiet G c command.commandId _).getRoom, hdispatch, hserver]
      rfl
    have hidle : ∀ entry ∈ calls.flatMap (s.postedIn found), ∀ event, entry.2.roomEvent = some event → Passive event := by
      refine posted_passive (hu.idle_calls (i := .frame c frame diskFails) (G := G) (r := r) hk hpair rfl ?_)
      rw [handleFrame_routed hrouted, (conclude_quiet G c command.commandId _).sendLog, hdispatch]
      exact hlog
    cases hresponds.of_quiet hq with
    | idle hsame hevents =>
      refine Or.inl ⟨?_, fun c' p hacts' => Or.inl (hacting c' ▸ hacts'), fun r' room' hroom' => Or.inr ⟨room', ?_, rfl⟩⟩
      · obtain ⟨w, n, hconclude, hw⟩ := conclude_frame G c command.commandId (linked c rec command.body result)
        refine ⟨calls.flatMap (s.postedIn found) ++ w, ?_, fun entry hentry event hevent => ?_⟩
        · rw [handleFrame_routed hrouted, hdispatch, hconclude]
          dsimp only
          rw [hwire, List.append_assoc]
        rcases List.mem_append.mp hentry with hentry | hentry
        · exact hidle entry hentry event hevent
        rcases hw with rfl | hnone
        · obtain ⟨d, hd, hentry⟩ := List.mem_flatMap.mp hentry
          rw [hlink.deliveries] at hd
          obtain ⟨e, rfl, he⟩ := hevents d hd
          rw [delivered_event hentry] at hevent
          cases e with
          | room e => exact Option.some.inj hevent ▸ he
          | authAck | pong | error => cases hevent
        · rw [hnone entry hentry] at hevent
          cases hevent
      · exact (hsame r').symm.trans ((hrooms r').symm.trans hroom')
    | @turn room room' answers news hroom hturned h hkept hthrew hdeliveries =>
      refine Or.inr ⟨session.playerId, room, room', answers, news,
        ⟨hplayer ▸ h, hroom, fun r' => (hrooms r').trans (hturned r'), hacts, hacting,
          fun c' v hc' hne hknown hholds => ?_, ⟨_, ?_, hidle⟩⟩⟩
      · cases hspeaks : (s.arrived c rec).speaksUp session'.playerId command.body with
        | false => exact hkept hspeaks (hplayer ▸ hholds)
        | true =>
          obtain ⟨frame', diskFails', hframe, -, hparse⟩ := hrouted.frame
          obtain ⟨-, rfl, -⟩ := Input.frame.inj hframe
          rw [hplayer, speaksUp_of_quiet hq] at hspeaks
          simp [speaksBeside, hparse, hspeaks, hacts, hr, isBeside_of_known hc' hne hknown] at hbeside
      · rw [handleFrame_routed hrouted, hdispatch, conclude_wire (hlink.threw.trans hthrew), hwire, hreach.delivered,
          hlink.deliveries, hdeliveries, List.append_assoc]

/-! ### Runs -/

/-- Everything that the agreement rests on. -/
structure Attuned (G : IdSource) (s : Server) : Prop where
  single : s.Single G
  addressed : s.Addressed G
  backed : s.Backed
  unplayed : s.Unplayed
  sound : ∀ r, (s.view r).Sound
  agreed : s.Agreed

theorem start_attuned (now : Millis) (version : String) (repository : HistoryRepository) :
    Attuned G (start now version repository) where
  single := ⟨start_seats now version repository, start_settled now version repository, fun r r' p hlive => by
    simp [start, getRoom, RoomStore.empty, RoomStore.getRoom, JsMap.lookup] at hlive⟩
  addressed := start_addressed now version repository
  backed := start_backed now version repository
  unplayed := start_unplayed now version repository
  sound r room h := by cases h
  agreed := start_agreed now version repository

/-- The step starts no game, misinforms no client, changes nothing beside another client of the player, and binds no
connection to another player. -/
def InTune (G : IdSource) (s : Server) (i : Input) : Prop :=
  s.completesPair i = false ∧ ¬s.Misinforms i ∧ s.speaksBeside i = false ∧ s.rebinds G i = false

namespace Attuned

/-- A frame is a calm step or a turn. -/
theorem agreed_frame {frame : RawFrame} {diskFails : Bool} (hs : Attuned G s) (hn : G.NeverRepeats)
    (ht : (s.handleFrame G c frame diskFails).Single G) (hi : InTune G s (.frame c frame diskFails)) :
    (s.handleFrame G c frame diskFails).Agreed := by
  obtain ⟨hpair, hmis, hbeside, -⟩ := hi
  have hk := hs.single.seats.keyed
  by_cases hrouted : ∃ rec command, s.Routed (.frame c frame diskFails) c rec command
  · obtain ⟨rec, command, hrouted⟩ := hrouted
    by_cases hrecalls : ∃ entry, s.Recalls (.frame c frame diskFails) c rec command entry
    · obtain ⟨entry, hrecalls⟩ := hrecalls
      exact hs.agreed.recalled hk hs.unplayed hrecalls hmis
    have hnot : ∀ entry, ¬s.Recalls (.frame c frame diskFails) c rec command entry := fun entry h => hrecalls ⟨entry, h⟩
    cases hr : command.body.concerns with
    | none =>
      refine hs.agreed.calm (hrouted.calm hk hs.unplayed (fun guestToken he => ?_) hr)
      cases hc : s.cached command.commandId with
      | none => rfl
      | some entry =>
        refine absurd ⟨hrouted, fun hexempt => ?_, hc, ?_⟩ (hnot entry)
        · rw [he] at hexempt
          cases hexempt
        · rw [he]
          rfl
    | some r =>
      have hsound : ∀ room, s.getRoom r = some room → room.Sound := fun room hroom =>
        hs.sound r room (view_room_of_getRoom hroom)
      rcases hrouted.spoken hn hs.addressed hs.single hs.backed hs.unplayed hsound hr hnot hpair hbeside with
        hcalm | ⟨p, room, room', answers, news, hspoken⟩
      · exact hs.agreed.calm hcalm
      · exact hs.agreed.spoken hs.addressed hs.single ht hspoken
  · refine hs.agreed.calm (handleFrame_calm fun rec command h => ?_)
    exact hrouted ⟨rec, command, h⟩

theorem step (hs : Attuned G s) (hn : G.NeverRepeats) (hi : InTune G s i) (h : s.step G i = some t) : Attuned G t := by
  have hk := hs.single.seats.keyed
  have hsingle : t.Single G := hs.single.step hn (hs.unplayed.expiresAway hk h) h
  refine ⟨hsingle, ?_, hs.backed.step hk h, hs.unplayed.step hk hi.1 h, fun r => ?_, ?_⟩
  · exact hs.addressed.step hn (nextId_le_step hk h) hi.2.2.2
      (step_links hs.single.seats.issuing hs.addressed.attached.identity h)
  · rcases step_view hk h r with hview | ⟨a, hacts, -⟩
    · rw [hview]
      exact hs.sound r
    · obtain ⟨sends, hstep, -⟩ := hacts.step
      exact hstep.sound (hs.sound r)
  · by_cases hframe : ∃ c frame diskFails, i = .frame c frame diskFails
    · obtain ⟨c, frame, diskFails, rfl⟩ := hframe
      obtain rfl := Option.some.inj h
      exact hs.agreed_frame hn hsingle hi
    · refine hs.agreed.calm (step_calm hs.addressed.attached hk hs.backed hs.unplayed (fun c frame diskFails he => ?_) h)
      exact hframe ⟨c, frame, diskFails, he⟩

end Attuned

theorem attuned_of_run (hn : G.NeverRepeats) {now : Millis} {version : String} {repository : HistoryRepository}
    (hrun : Runs G (InTune G) (start now version repository) s) : Attuned G s :=
  hrun.invariant (P := Attuned G) (start_attuned now version repository) fun _ _ _ hs hi hstep => hs.step hn hi hstep

end Server
end TicTacToe

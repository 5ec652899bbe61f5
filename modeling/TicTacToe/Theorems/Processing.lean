import TicTacToe.Theorems.Runs

/-! # Processed commands

A command that is brought to its handler with a valid session, and without an earlier answer, reaches the
handler's own work when its room is live. -/

namespace TicTacToe

/-- The room that a command names. -/
def CommandBody.concerns : CommandBody → Option RoomId
  | .joinRoom roomId _ => some roomId
  | .leaveRoom roomId => some roomId
  | .playerReady roomId => some roomId
  | .makeMove roomId _ _ => some roomId
  | .requestRematch roomId _ => some roomId
  | .acceptRematch roomId _ => some roomId
  | .declineRematch roomId _ => some roomId
  | .reconnect roomId _ => some roomId
  | .syncRequest roomId _ => some roomId
  | .auth _ => none
  | .ping _ => none

namespace Server
variable {s t u : Server} {G : IdSource} {i : Input} {c : ConnectionId} {r : RoomId} {commandId : CommandId}
  {token : SessionToken} {p : PlayerId} {session : PlayerSession} {room : RoomRecord}

theorem roomCommand_eq (hs : s.getSession token = some session) (hc : s.cached commandId = none)
    (hroom : s.getRoom r = some room) (reply : WireEvent → List Delivery)
    (handle : Server → PlayerSession → RoomRecord → HandlerResult) :
    s.roomCommand c commandId token r reply handle = handle (s.afterLookup commandId) session room := by
  unfold roomCommand
  rcases withSession_cases s c commandId token (fun s session => s.unlessCached commandId reply fun s =>
    s.withRoom c commandId r fun s room => handle s session room) with ⟨hnone, -⟩ | ⟨session', hs', he⟩
  · rw [hs] at hnone
    cases hnone
  obtain rfl := Option.some.inj (hs.symm.trans hs')
  rw [he]
  rcases unlessCached_cases s commandId reply (fun s => s.withRoom c commandId r fun s room => handle s session room) with
    ⟨entry, hcached, -⟩ | ⟨-, he⟩
  · rw [hc] at hcached
    cases hcached
  rw [he]
  have hroom' : (s.afterLookup commandId).getRoom r = some room := hroom
  rcases withRoom_cases (s.afterLookup commandId) c commandId r (fun s room => handle s session room) with
    ⟨hnone, -⟩ | ⟨room', hroom'', he⟩
  · rw [hroom'] at hnone
    cases hnone
  obtain rfl := Option.some.inj (hroom'.symm.trans hroom'')
  exact he

/-- The step of a processed command. -/
theorem Handles.step {command : Command} (h : s.Handles i command p) (hstep : s.step G i = some t) :
    ∃ c rec token, rec.sessionToken = some token ∧ (s.arrived c rec).Processed token command.commandId p ∧
      t = conclude G c command.commandId ((s.arrived c rec).dispatch G c rec command i.diskFails) := by
  obtain ⟨c, rec, token, hrouted, htoken, hp⟩ := h
  obtain ⟨frame, diskFails, rfl, hsize, hparse⟩ := hrouted.frame
  refine ⟨c, rec, token, htoken, hp.to_quiet (arrived_quiet s c rec), ?_⟩
  exact (Option.some.inj hstep).symm.trans (handleFrame_routed hrouted)

/-- What a handler does from the arrival of its command is done by the step. -/
theorem Acts.of_arrived {a : RoomAction} {rec : ConnectionRecord} {result : HandlerResult}
    (h : Acts G (s.arrived c rec) result.server r a) (ht : t = conclude G c commandId result) : Acts G s t r a := by
  rw [ht]
  exact ((arrived_quiet s c rec).still.trans_acts h).trans_still (conclude_quiet G c commandId result).still

theorem Keyed.arrived (hk : s.Keyed) (c : ConnectionId) (rec : ConnectionRecord) : (s.arrived c rec).Keyed :=
  fun r gs hg => hk r gs ((arrived_quiet s c rec).gameSessions ▸ hg)

/-- A result that is no refusal: the handler threw, or its first delivery is no error. -/
def Answers (result : HandlerResult) : Prop :=
  result.threw = true ∨ ∀ c e rest, result.deliveries = .connection c e :: rest → e.isError = false

theorem Refuses.not_answers {result : HandlerResult} (h : Refuses s c commandId result) : ¬Answers result := by
  obtain ⟨u, code, -, -, rfl⟩ := h
  rintro (hthrew | hanswer)
  · cases hthrew
  · have hok := hanswer c _ _ rfl
    cases hok

theorem Processed.unique {q : PlayerId} (hp : s.Processed token commandId p) (hq : s.Processed token commandId q) :
    p = q := by
  obtain ⟨session, hs, rfl⟩ := hp.session
  obtain ⟨session', hs', rfl⟩ := hq.session
  obtain rfl := Option.some.inj (hs.symm.trans hs')
  rfl

/-- A processed command that is not refused is done by its handler. -/
theorem Handling.done {reply : WireEvent → List Delivery} {done : PlayerId → HandlerResult → Prop}
    {result : HandlerResult} (h : Handling s c commandId token reply done result)
    (hp : s.Processed token commandId p) (hanswers : Answers result) : done p result := by
  cases h with
  | refused h => exact absurd hanswers h.not_answers
  | recalled hs hc =>
    rw [hp.uncached] at hc
    cases hc
  | processed hq h => exact hq.unique hp ▸ h

/-- A command of a session does nothing to rooms and sessions, or is processed and does something to one room. -/
theorem Routed.acts {rec : ConnectionRecord} {command : Command} (hk : s.Keyed) (h : s.Routed i c rec command)
    (htoken : rec.sessionToken = some token) (hbody : isAuthExempt command.body = false) (hstep : s.step G i = some t) :
    Still G s t ∨ ∃ p r a, s.Processed token command.commandId p ∧ a ≠ .idle ∧ Acts G s t r a ∧
      a.Commanded (fun cmd q => cmd = command ∧ q = p) i.diskFails r := by
  obtain ⟨frame, diskFails, rfl, hsize, hparse⟩ := h.frame
  have hq := arrived_quiet s c rec
  have ht : t = conclude G c command.commandId ((s.arrived c rec).dispatch G c rec command diskFails) :=
    (Option.some.inj hstep).symm.trans (handleFrame_routed h)
  obtain ⟨result, hhandling, he⟩ := dispatch_handling (G := G) (hk.arrived c rec) htoken c command diskFails hbody
  have hlinked := linked_still (G := G) c rec command.body result
  rw [he] at ht
  have hlast := conclude_quiet G c command.commandId (linked c rec command.body result)
  rw [← ht] at hlast
  have hafter := hlinked.trans hlast.still
  cases hhandling with
  | refused h => exact Or.inl (hq.still.trans (h.still.trans hafter))
  | recalled hs hc he =>
    subst he
    exact Or.inl (hq.still.trans hafter)
  | processed hp h =>
    rcases h.acts with h | ⟨r, a, hne, hacts, hcommanded⟩
    · exact Or.inl (hq.still.trans (h.trans hafter))
    · exact Or.inr ⟨_, r, a, hp.of_quiet hq, hne, hq.still.trans_acts (hacts.trans_still hafter), hcommanded⟩

/-- A processed command is refused, or does something to one room. -/
theorem Handles.acts {command : Command} (hk : s.Keyed) (h : s.Handles i command p)
    (hbody : isAuthExempt command.body = false) (hstep : s.step G i = some t) :
    Still G s t ∨ ∃ r a, a ≠ .idle ∧ Acts G s t r a ∧
      a.Commanded (fun cmd q => cmd = command ∧ q = p) i.diskFails r := by
  obtain ⟨c, rec, token, hrouted, htoken, hp⟩ := h
  refine (hrouted.acts hk htoken hbody hstep).imp id ?_
  rintro ⟨q, r, a, hq, hne, hacts, hcommanded⟩
  obtain rfl := hp.unique hq
  exact ⟨r, a, hne, hacts, hcommanded⟩

theorem concerns_not_exempt {body : CommandBody} (h : body.concerns = some r) : isAuthExempt body = false := by
  cases body <;> first | rfl | cases h

/-- No room does anything and nothing is sent to a room. -/
def Unmoved (s t : Server) : Prop := (∀ r, t.view r = s.view r) ∧ t.sendLog = s.sendLog

theorem Still.unmoved (h : Still G s t) : Unmoved s t := ⟨h.view, h.sendLog⟩

/-- A command that has been answered before moves nothing. -/
theorem Routed.recalled {rec : ConnectionRecord} {command : Command} (hk : s.Keyed) (h : s.Routed i c rec command)
    (htoken : rec.sessionToken = some token) (hbody : isAuthExempt command.body = false)
    (hcached : s.cached command.commandId ≠ none) (hstep : s.step G i = some t) : Unmoved s t := by
  rcases h.acts hk htoken hbody hstep with h | ⟨p, r, a, hp, -⟩
  · exact h.unmoved
  · exact absurd hp.uncached hcached

/-- A processed command that can cause one action only. -/
theorem Handles.does {command : Command} {a : RoomAction} (hk : s.Keyed) (h : s.Handles i command p)
    (hbody : isAuthExempt command.body = false) (hstep : s.step G i = some t)
    (honly : ∀ r' b, b ≠ .idle → b.Commanded (fun cmd q => cmd = command ∧ q = p) i.diskFails r' → r' = r ∧ b = a) :
    Unmoved s t ∨ Acts G s t r a := by
  rcases h.acts hk hbody hstep with h | ⟨r', b, hb, hacts, hcommanded⟩
  · exact Or.inl h.unmoved
  · obtain ⟨rfl, rfl⟩ := honly r' b hb hcommanded
    exact Or.inr hacts

theorem Handles.requests {id : CommandId} {g : GameId} (hk : s.Keyed) (h : s.Handles i ⟨id, .requestRematch r g⟩ p)
    (hstep : s.step G i = some t) : Unmoved s t ∨ Acts G s t r (.rematchRequested p g) := by
  refine h.does hk rfl hstep fun r' b hb hcommanded => ?_
  cases b <;> simp [RoomAction.Commanded] at hb hcommanded ⊢
  exact ⟨hcommanded.1.1, hcommanded.2, hcommanded.1.2⟩

theorem Handles.accepts {id : CommandId} {g : GameId} (hk : s.Keyed) (h : s.Handles i ⟨id, .acceptRematch r g⟩ p)
    (hstep : s.step G i = some t) : Unmoved s t ∨ Acts G s t r (.rematchAccepted p g) := by
  refine h.does hk rfl hstep fun r' b hb hcommanded => ?_
  cases b <;> simp [RoomAction.Commanded] at hb hcommanded ⊢
  exact ⟨hcommanded.1.1, hcommanded.2, hcommanded.1.2⟩

theorem Handles.declines {id : CommandId} {g : GameId} (hk : s.Keyed) (h : s.Handles i ⟨id, .declineRematch r g⟩ p)
    (hstep : s.step G i = some t) : Unmoved s t ∨ Acts G s t r (.rematchDeclined p g) := by
  refine h.does hk rfl hstep fun r' b hb hcommanded => ?_
  cases b <;> simp [RoomAction.Commanded] at hb hcommanded ⊢
  exact ⟨hcommanded.1.1, hcommanded.2, hcommanded.1.2⟩

/-- A slot holder's processed `LEAVE_ROOM` frees the slot, or throws. -/
theorem Handles.leaves {id : CommandId} (hk : s.Keyed) (h : s.Handles i ⟨id, .leaveRoom r⟩ p)
    (hstep : s.step G i = some t) (hroom : s.getRoom r = some room) (hslot : getSlotByPlayerId room p ≠ none) :
    Acts G s t r (.left p) ∨ Acts G s t r (.leaveThrew p) := by
  obtain ⟨c, rec, token, htoken, hp, ht⟩ := h.step hstep
  have hq := arrived_quiet s c rec
  have hdispatch : (s.arrived c rec).dispatch G c rec ⟨id, .leaveRoom r⟩ i.diskFails =
      (s.arrived c rec).handleLeaveRoom c id r token i.diskFails := by
    simp only [dispatch, htoken]
  obtain ⟨session, hs, rfl⟩ := hp.session
  have hanswers : Answers ((s.arrived c rec).handleLeaveRoom c id r token i.diskFails) := by
    obtain ⟨slot, hslot⟩ := Option.ne_none_iff_exists'.mp hslot
    unfold handleLeaveRoom
    rw [roomCommand_eq hs hp.uncached ((hq.getRoom r).trans hroom)]
    simp only [hslot]
    have hvacates : ∀ u : Server, Answers (u.vacateRoom c id r token session.playerId slot room) := by
      intro u
      refine Or.inr fun c' e rest hd => ?_
      obtain ⟨hhead, -⟩ := List.cons.inj hd
      obtain ⟨-, rfl⟩ := Delivery.connection.inj hhead
      rfl
    split
    · exact hvacates _
    · split
      · exact Or.inl rfl
      · exact hvacates _
  have hdone := (handleLeaveRoom_handling (G := G) (hk.arrived c rec) c id r token i.diskFails).done hp hanswers
  rw [hdispatch] at ht
  exact hdone.1.imp (Acts.of_arrived · ht) fun h => h.2.of_arrived ht

end Server
end TicTacToe

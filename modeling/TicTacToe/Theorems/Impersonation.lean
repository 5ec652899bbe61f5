import TicTacToe.Theorems.Discretion
import TicTacToe.Theorems.EngineLog

/-! # Nobody plays for somebody else

A client knows the session tokens that the server has told to its connections. As long as a frame lays hold only on
sessions that its client knows, no token gets to another client, and what is done for a player is asked by one client. -/

namespace TicTacToe
namespace Server
variable {s t u : Server} {G : IdSource} {c d : ConnectionId} {id : CommandId} {token : SessionToken} {p : PlayerId}
  {i : Input} {command : Command} {Client : Type} {owner : ConnectionId → Client} {x y : Client}

/-- The server has told the token to a connection of client `x`. -/
def Told (owner : ConnectionId → Client) (s : Server) (x : Client) (token : SessionToken) : Prop :=
  ∃ c e p, owner c = x ∧ (c, e) ∈ s.wire ∧ e.acknowledged = some (token, p)

/-- The session on which a command lays hold: the one that has been acknowledged under the same command id, or the live
one that an `AUTH` presents. -/
def claims (s : Server) (command : Command) : Option SessionToken :=
  match s.cached command.commandId with
  | some entry => entry.result.acknowledged.map Prod.fst
  | none =>
    match command.body with
    | .auth guestToken => (guestToken.filter (· ≠ "")).filter fun token => (s.session token).isSome
    | _ => none

/-- A client lays hold only on sessions of which the server has told it. -/
def Honest (owner : ConnectionId → Client) (s : Server) (i : Input) : Prop :=
  ∀ c frame diskFails command token, i = .frame c frame diskFails → frame.parseResult = .ok command →
    s.claims command = some token → s.Told owner (owner c) token

/-! ### What a frame tells -/

/-- Input `i` brings a command from connection `c` that lays hold on the session, or the session is drawn next. -/
def Earns (G : IdSource) (s : Server) (i : Input) (c : ConnectionId) (token : SessionToken) : Prop :=
  ∃ frame diskFails command, i = .frame c frame diskFails ∧ frame.parseResult = .ok command ∧
    (s.claims command = some token ∨ token = G.sessionToken s.nextId)

/-- Of an acknowledged `AUTH`, the token belongs to the player. -/
theorem claims_of_authPlayer {guestToken : Option SessionToken} {n : Nat} (hn : G.NeverRepeats) (hi : s.Issuing G)
    (h : s.authPlayer id guestToken (G.playerId s.nextId) = some p) (hissued : G.Issued n token p) :
    s.claims ⟨id, .auth guestToken⟩ = some token ∨ token = G.sessionToken s.nextId := by
  obtain ⟨k, -, htoken, hp⟩ := hissued
  have hsame : ∀ {n' token'}, G.Issued n' token' p → token' = token := by
    rintro n' token' ⟨k', -, htoken', hp'⟩
    rw [htoken, htoken', hn.playerId (hp'.symm.trans hp)]
  unfold authPlayer at h
  unfold claims
  cases hc : s.cached id with
  | some entry =>
    simp only [hc] at h ⊢
    obtain ⟨⟨token', p'⟩, hack, rfl⟩ := Option.map_eq_some_iff.mp h
    have hissued' := hi.ack id entry token' p' (JsMap.lookup_eq_some.mp hc).1 hack
    rw [hack, Option.map_some]
    exact Or.inl (congrArg some (hsame hissued'))
  | none =>
    simp only [hc] at h ⊢
    cases hg : guestToken.filter (· ≠ "") with
    | some guest =>
      simp only [hg] at h
      obtain ⟨session, hsession, hplayer⟩ := Option.map_eq_some_iff.mp h
      obtain ⟨stored, hstored, rfl⟩ := Option.map_eq_some_iff.mp hsession
      have hissued' : G.Issued s.nextId guest p := by
        rw [← hplayer]
        have hfound := (JsMap.lookup_eq_some.mp hstored).1
        obtain ⟨htoken', hissued'⟩ := hi.session guest stored hfound
        exact hissued'
      refine Or.inl ?_
      rw [Option.filter_some, if_pos (by simp [hsession]), hsame hissued']
    | none =>
      simp only [hg] at h
      refine Or.inr ?_
      rw [htoken, hn.playerId ((Option.some.inj h).trans hp)]

theorem handleAuth_tells (G : IdSource) (s : Server) (c : ConnectionId) (id : CommandId)
    (guestToken : Option SessionToken) : (s.handleAuth G c id guestToken).server.wire = s.wire ∧
      (s.handleAuth G c id guestToken).threw = false ∧
      ∃ e, (s.handleAuth G c id guestToken).deliveries = [.connection c e] := by
  have hfound : ∀ (u : Server) session, (u.existingRoom session).1.wire = u.wire := by
    intro u session
    unfold existingRoom
    split
    · rfl
    · dsimp only
      split <;> rfl
  unfold handleAuth
  rcases unlessCached_cases s id (resend c) _ with ⟨entry, -, he⟩ | ⟨-, he⟩ <;> rw [he]
  · exact ⟨rfl, rfl, _, rfl⟩
  split
  · split
    · exact ⟨rfl, rfl, _, rfl⟩
    · exact ⟨hfound _ _, rfl, _, rfl⟩
  · exact ⟨hfound _ _, rfl, _, rfl⟩

theorem eq_authAck {e : WireEvent} (h : e.acknowledged = some (token, p)) :
    ∃ version room correlationId, e = .event (.authAck token p version room correlationId) := by
  unfold WireEvent.acknowledged at h
  split at h
  · obtain ⟨rfl, rfl⟩ := Prod.mk.inj (Option.some.inj h)
    exact ⟨_, _, _, rfl⟩
  · cases h

theorem mem_delivered {e e' : WireEvent} (h : (d, e) ∈ s.delivered (.connection c e')) : d = c ∧ e = e' := by
  unfold delivered at h
  dsimp only at h
  split at h
  · exact Prod.mk.inj (List.mem_singleton.mp h)
  · cases h

theorem mem_replies {body : CommandBody} {e : WireEvent} {delivery : Delivery} (h : delivery ∈ replies c body e) :
    delivery = .connection c e := by
  cases body with
  | requestRematch | acceptRematch | declineRematch => cases h
  | _ => exact List.mem_singleton.mp h

/-- What has been written between `s'` and `t` names no token but to a client who has earned it. -/
abbrev Rewards (G : IdSource) (i : Input) (s s' t : Server) : Prop :=
  Adds (fun d e => ∀ token p, e.acknowledged = some (token, p) → s.Earns G i d token ∧ G.Issued t.nextId token p) s' t

theorem Conceals.rewards {s' : Server} (h : Conceals s' t) : s.Rewards G i s' t := by
  refine h.mono fun _ e he token p hack => ?_
  rw [NoAck, hack] at he
  cases he

/-- A result with one delivery, to the asking connection. -/
theorem conclude_rewards {result : HandlerResult} {e : WireEvent} (hwire : result.server.wire = s.wire)
    (hds : ∀ delivery ∈ result.deliveries, delivery = .connection c e)
    (h : ∀ token p, e.acknowledged = some (token, p) → s.Earns G i c token ∧ G.Issued result.server.nextId token p) :
    s.Rewards G i s (conclude G c id result) := by
  refine conclude_adds (.of_same hwire) (fun delivery hd c' e' he token p hack => ?_) fun _ _ _ hack => by cases hack
  rw [hds delivery hd] at he
  obtain ⟨rfl, rfl⟩ := mem_delivered he
  obtain ⟨hearns, hissued⟩ := h token p hack
  exact ⟨hearns, hissued.mono (conclude_quiet G c' id result).nextId⟩

section Frames
variable {rec : ConnectionRecord} (hrouted : s.Routed i c rec command)
include hrouted

theorem Routed.earns (h : s.claims command = some token ∨ token = G.sessionToken s.nextId) : s.Earns G i c token := by
  obtain ⟨frame, diskFails, hframe, -, hparse⟩ := hrouted.frame
  exact ⟨frame, diskFails, command, hframe, hparse, h⟩

/-- A command that is answered from the cache. -/
theorem Routed.recalled_rewards {entry : DedupEntry} (hi : s.Issuing G) (hk : s.Keyed)
    (hc : s.cached command.commandId = some entry) (hexempt : isAuthExempt command.body = false) (diskFails : Bool) :
    s.Rewards G i s (conclude G c command.commandId ((s.arrived c rec).dispatch G c rec command diskFails)) := by
  have hq := arrived_quiet s c rec
  have hearned : ∀ token p, entry.result.acknowledged = some (token, p) →
      s.Earns G i c token ∧ G.Issued (s.arrived c rec).nextId token p := by
    intro token p hack
    have hissued := hi.ack command.commandId entry token p (JsMap.lookup_eq_some.mp hc).1 hack
    exact ⟨hrouted.earns (Or.inl (by simp only [claims, hc, hack, Option.map_some])), hissued.mono hq.nextId⟩
  cases htoken : rec.sessionToken with
  | none =>
    rw [dispatch_unbound htoken hexempt]
    exact conclude_rewards (arrived_wire s c rec) (fun _ hd => by cases hd) hearned
  | some token =>
    have hsession : ∃ session, (s.arrived c rec).getSession token = some session := by
      rcases hrouted.permitted with hauth | hauth
      · obtain ⟨session, hs⟩ := Option.isSome_iff_exists.mp (hrouted.session token hauth htoken)
        obtain ⟨session', hs', -⟩ := hq.session_to_some hs
        exact ⟨session', hs'⟩
      · rw [hexempt] at hauth
        cases hauth
    have hping : ∀ clientTime, command.body ≠ .ping clientTime := by
      intro clientTime hbody
      rw [hbody] at hexempt
      cases hexempt
    have hlink : Relinked ((s.arrived c rec).ok (replies c command.body ((s.arrived c rec).reread entry.result)))
        ((s.arrived c rec).dispatch G c rec command diskFails) :=
      dispatch_recalled (hk.arrived c rec) ((hq.cached _).trans hc) hping
        fun _ => hsession.elim fun session hs => ⟨token, session, htoken, hs⟩
    obtain ⟨connections, registry, hserver, -⟩ := hlink.server
    refine conclude_rewards (e := (s.arrived c rec).reread entry.result) ?_ (fun d hd => ?_) fun token p hack => ?_
    · rw [hserver]
      exact arrived_wire s c rec
    · rw [hlink.deliveries] at hd
      exact mem_replies hd
    · rw [hserver]
      exact hearned token p (by rwa [acknowledged_reread] at hack)

/-- An `AUTH` is answered by the session that it presents or by a new one. -/
theorem Routed.auth_rewards {guestToken : Option SessionToken} (hbody : command = ⟨id, .auth guestToken⟩)
    (hn : G.NeverRepeats) (hi : s.Issuing G) (diskFails : Bool) :
    s.Rewards G i s (conclude G c command.commandId ((s.arrived c rec).dispatch G c rec command diskFails)) := by
  have hq := arrived_quiet s c rec
  subst hbody
  obtain ⟨hsame, -, e, hds⟩ := handleAuth_tells G (s.arrived c rec) c id guestToken
  have hlink : Relinked ((s.arrived c rec).handleAuth G c id guestToken)
      ((s.arrived c rec).dispatch G c rec ⟨id, .auth guestToken⟩ diskFails) := bindConnection_relinked c _
  obtain ⟨connections, registry, hserver, -⟩ := hlink.server
  refine conclude_rewards (e := e) ?_ (fun d hd => ?_) fun token p hack => ?_
  · rw [hserver]
    exact hsame.trans (arrived_wire s c rec)
  · rw [hlink.deliveries, hds] at hd
    exact List.mem_singleton.mp hd
  · obtain ⟨version, room, correlationId, rfl⟩ := eq_authAck hack
    obtain ⟨hplayer, hissued⟩ := handleAuth_acknowledged hds
    have hnext : (s.arrived c rec).nextId = s.nextId := by
      obtain ⟨connections, sessions, h, -⟩ := arrived_frame s c rec
      rw [h]
    rw [hq.authPlayer, hnext] at hplayer
    have hnew := hissued (hq.issued G hi)
    rw [hserver]
    exact ⟨hrouted.earns (claims_of_authPlayer hn hi hplayer hnew), hnew⟩

theorem Routed.rewards (hn : G.NeverRepeats) (hi : s.Issuing G) (hk : s.Keyed) (diskFails : Bool) :
    s.Rewards G i s (conclude G c command.commandId ((s.arrived c rec).dispatch G c rec command diskFails)) := by
  have hq := arrived_quiet s c rec
  have hsilent : Concealing (s.arrived c rec) ((s.arrived c rec).dispatch G c rec command diskFails) →
      s.Rewards G i s (conclude G c command.commandId ((s.arrived c rec).dispatch G c rec command diskFails)) :=
    fun h => Conceals.rewards ((h.concluded G c command.commandId).congr (arrived_wire s c rec) rfl)
  cases hexempt : isAuthExempt command.body with
  | false =>
    cases hc : s.cached command.commandId with
    | some entry => exact hrouted.recalled_rewards hi hk hc hexempt diskFails
    | none =>
      refine hsilent (dispatch_conceals ((hq.cached _).trans hc) (fun guestToken hbody => ?_) G c diskFails)
      rw [hbody] at hexempt
      cases hexempt
  | true =>
    obtain ⟨id, body⟩ := command
    cases body with
    | auth guestToken => exact hrouted.auth_rewards rfl hn hi diskFails
    | ping clientTime =>
      -- A `PING` is answered whatever the cache holds.
      refine hsilent ⟨.of_same rfl, fun d hd => ?_⟩
      rw [List.mem_singleton.mp hd]
      rfl
    | _ => cases hexempt

end Frames

theorem step_rewards (hn : G.NeverRepeats) (hi : s.Issuing G) (hk : s.Keyed) (h : s.step G i = some t) :
    s.Rewards G i s t := by
  by_cases hframe : ∀ c frame diskFails, i ≠ .frame c frame diskFails
  · exact (step_conceals hframe h).rewards
  simp only [ne_eq, not_forall, not_not] at hframe
  obtain ⟨c, frame, diskFails, rfl⟩ := hframe
  obtain rfl := Option.some.inj h
  rcases handleFrame_cases (G := G) s c frame diskFails with
    ⟨u, code, id, -, -, ⟨hwire, -⟩, he⟩ | ⟨-, hwire, -⟩ | ⟨rec, command, hrouted⟩
  · rw [he]
    exact Conceals.rewards ((sendError_conceals u c code id).congr hwire rfl)
  · exact .of_same hwire
  · rw [handleFrame_routed hrouted]
    exact hrouted.rewards hn hi hk diskFails

/-! ### Who holds a session -/

/-- Every session of a connection in `t` was one of the connection in `s`. -/
def Keeps (s t : Server) : Prop :=
  ∀ c token, (t.connections.get c).bind ConnectionRecord.sessionToken = some token →
    (s.connections.get c).bind ConnectionRecord.sessionToken = some token

theorem Links.keeps (h : Links s t) : Keeps s t := by
  intro c token htoken
  have htokens : ∀ x : Option ConnectionRecord,
      x.bind ConnectionRecord.sessionToken = (x.map ConnectionRecord.identity).bind fun identity => identity.1 := by
    intro x
    cases x <;> rfl
  rw [htokens] at htoken ⊢
  rw [← h.connections c]
  exact htoken

theorem Keeps.trans (h₁ : Keeps s t) (h₂ : Keeps t u) : Keeps s u := fun c token h => h₁ c token (h₂ c token h)

theorem unregister_keeps (s : Server) (c : ConnectionId) : Keeps s (s.unregister c) := by
  intro c' token h
  rw [unregister, JsMap.get_delete] at h
  split at h
  · cases h
  · exact h

theorem unregisterPlayerConnection_keeps (s : Server) (p : PlayerId) (c : ConnectionId) :
    Keeps s (s.unregisterPlayerConnection p c) := by
  obtain ⟨registry, h⟩ := unregisterPlayerConnection_frame s p c
  rw [h]
  exact fun _ _ => id

theorem handleClose_keeps (s : Server) (c : ConnectionId) : Keeps s (s.handleClose c) := by
  obtain ⟨p, u, hu, he⟩ := handleClose_shape s c
  have hkeeps : Keeps s u := by
    rcases hu with rfl | rfl
    · exact fun _ _ => id
    · exact unregisterPlayerConnection_keeps s p c
  rcases he with he | ⟨token, he⟩ <;> rw [he]
  · exact hkeeps.trans (unregister_keeps u c)
  · exact (hkeeps.trans (handleDisconnect_apart u token).links.keeps).trans (unregister_keeps _ c)

theorem close_keeps (s : Server) (c : ConnectionId) (e : Option WireEvent) : Keeps s (s.close c e) := by
  cases e with
  | none => exact unregister_keeps s c
  | some e => exact (send_quiet s c e).links.keeps.trans (unregister_keeps _ c)

/-- A routed `AUTH` binds its connection to a session that it is told. -/
theorem Routed.holds {rec : ConnectionRecord} (hrouted : s.Routed i c rec command) (diskFails : Bool)
    (h : ((conclude G c command.commandId ((s.arrived c rec).dispatch G c rec command diskFails)).connections.get d).bind
      ConnectionRecord.sessionToken = some token) :
    (s.connections.get d).bind ConnectionRecord.sessionToken = some token ∨
      ∃ e p, (d, e) ∈ (conclude G c command.commandId ((s.arrived c rec).dispatch G c rec command diskFails)).wire ∧
        e.acknowledged = some (token, p) := by
  have hq := (arrived_quiet s c rec).links.keeps
  have hend := (conclude_quiet G c command.commandId ((s.arrived c rec).dispatch G c rec command diskFails)).links.keeps
  by_cases hbody : ∀ guestToken, command.body ≠ .auth guestToken
  · refine Or.inl ((hq.trans ?_) d token (hend d token h))
    rcases dispatch_links (G := G) (s.arrived c rec) c rec command diskFails hbody with hlinks | ⟨p, -, hlinks⟩
    · exact hlinks.keeps
    · have hregistered : Keeps (s.arrived c rec) ((s.arrived c rec).registerPlayerConnection p c) := fun _ _ => id
      exact hregistered.trans hlinks.keeps
  obtain ⟨id, body⟩ := command
  simp only [ne_eq, not_forall, not_not] at hbody
  obtain ⟨guestToken, rfl⟩ := hbody
  have hauth : Links (s.arrived c rec) ((s.arrived c rec).handleAuth G c id guestToken).server :=
    (handleAuth_confined G (s.arrived c rec) c id guestToken).links
  have hheld := hend d token h
  have hdispatch : (s.arrived c rec).dispatch G c rec ⟨id, .auth guestToken⟩ diskFails =
      bindConnection c ((s.arrived c rec).handleAuth G c id guestToken) := rfl
  rw [hdispatch] at hheld ⊢
  rcases bindConnection_cases c ((s.arrived c rec).handleAuth G c id guestToken) with
    he | ⟨c', token', p, version, room, id', ds, hds, he⟩
  · rw [he] at hheld
    exact Or.inl (hq.trans hauth.keeps d token hheld)
  · rw [he] at hheld ⊢
    obtain ⟨-, hfine, e, hone⟩ := handleAuth_tells G (s.arrived c rec) c id guestToken
    rw [hds] at hone
    obtain ⟨hfirst, rfl⟩ := List.cons.inj hone
    obtain ⟨rfl, rfl⟩ := Delivery.connection.inj hfirst
    have hopen : ((s.arrived c' rec).handleAuth G c' id guestToken).server.connections.has c' = true := by
      rw [(handleAuth_confined G (s.arrived c' rec) c' id guestToken).connections]
      exact hrouted.arrived_open
    by_cases hd : c' = d
    · subst hd
      have hbound : token' = token := by
        rw [Server.registerPlayerConnection, Server.authenticate, JsMap.get_modify, if_pos rfl] at hheld
        obtain ⟨rec', hrec', htoken⟩ := Option.bind_eq_some_iff.mp hheld
        obtain ⟨rec₀, -, rfl⟩ := Option.map_eq_some_iff.mp hrec'
        exact Option.some.inj htoken
      subst hbound
      refine Or.inr ⟨_, p, List.mem_of_getLast? (conclude_last [] hfine hds ?_), rfl⟩
      rw [Server.registerPlayerConnection, Server.authenticate, JsMap.has, JsMap.get_modify, if_pos rfl, Option.isSome_map]
      exact hopen
    · refine Or.inl (hq.trans hauth.keeps d token ?_)
      rw [Server.registerPlayerConnection, Server.authenticate, JsMap.get_modify, if_neg hd] at hheld
      exact hheld

theorem step_holds (h : s.step G i = some t)
    (htoken : (t.connections.get d).bind ConnectionRecord.sessionToken = some token) :
    (s.connections.get d).bind ConnectionRecord.sessionToken = some token ∨
      ∃ e p, (d, e) ∈ t.wire ∧ e.acknowledged = some (token, p) := by
  unfold step at h
  cases i with
  | tick | createRoom | httpGetRoom | maintenance =>
    obtain rfl := Option.some.inj h
    exact Or.inl htoken
  | connect =>
    obtain rfl := Option.some.inj h
    rw [register, JsMap.get_set] at htoken
    split at htoken
    · cases htoken
    · exact Or.inl htoken
  | frame c frame diskFails =>
    obtain rfl := Option.some.inj h
    rcases handleFrame_cases (G := G) s c frame diskFails with
      ⟨u, code, id, -, hq, -, he⟩ | ⟨hq, -⟩ | ⟨rec, command, hrouted⟩
    · rw [he] at htoken
      rcases sendError_links u c code id with ⟨-, hlinks⟩ | ⟨-, hlinks⟩
      · exact Or.inl ((hq.links.keeps.trans (unregister_keeps u c)).trans hlinks.keeps d token htoken)
      · exact Or.inl (hq.links.keeps.trans hlinks.keeps d token htoken)
    · exact Or.inl (hq.links.keeps d token htoken)
    · rw [handleFrame_routed hrouted] at htoken ⊢
      exact hrouted.holds diskFails htoken
  | socketClosed c =>
    obtain rfl := Option.some.inj h
    exact Or.inl (handleClose_keeps s c d token htoken)
  | authTimeout c | idleTimeout c =>
    dsimp only at h
    split at h
    · obtain rfl := Option.some.inj h
      exact Or.inl (close_keeps s c _ d token htoken)
    · cases h
  | wsPong c =>
    obtain rfl := Option.some.inj h
    exact Or.inl ((touchConnection_quiet s c).links.keeps d token htoken)
  | reconnectWindow r p diskFails =>
    dsimp only at h
    split at h
    · cases h
    split at h
    · cases h
    split at h
    · split at h
      · cases h
      · obtain rfl := Option.some.inj h
        exact Or.inl ((fireReconnectWindow_apart s r _ p _ diskFails).links.keeps d token htoken)
    · cases h
  | rematchTimer r =>
    dsimp only at h
    split at h
    · split at h
      · cases h
      split at h
      · obtain rfl := Option.some.inj h
        exact Or.inl ((applyEmitted_apart s r _).links.keeps d token htoken)
      · cases h
    · cases h

/-! ### Runs -/

/-- Every token has been told to one client, and a connection has a session that its client has been told of. -/
structure Secret (G : IdSource) (owner : ConnectionId → Client) (s : Server) : Prop where
  issued : ∀ c e token p, (c, e) ∈ s.wire → e.acknowledged = some (token, p) → G.Issued s.nextId token p
  told : ∀ token x y, s.Told owner x token → s.Told owner y token → x = y
  held : ∀ c token, (s.connections.get c).bind ConnectionRecord.sessionToken = some token → s.Told owner (owner c) token

theorem start_secret (now : Millis) (version : String) (repository : HistoryRepository) :
    (start now version repository).Secret G owner where
  issued c e token p h := by cases h
  told token x y h := by
    obtain ⟨c, e, p, -, h, -⟩ := h
    cases h
  held c token h := by cases h

theorem Told.kept {P : ConnectionId → WireEvent → Prop} (h : s.Told owner x token) (hw : Adds P s t) :
    t.Told owner x token := by
  obtain ⟨c, e, p, hx, he, hack⟩ := h
  exact ⟨c, e, p, hx, hw.kept he, hack⟩

/-- An honest client earns a token that it knows, or one that nobody has been told. -/
theorem Earns.known (h : s.Earns G i c token) (hi : s.Honest owner i) :
    s.Told owner (owner c) token ∨ token = G.sessionToken s.nextId := by
  obtain ⟨frame, diskFails, command, rfl, hparse, hclaims | hfresh⟩ := h
  · exact Or.inl (hi c frame diskFails command token rfl hparse hclaims)
  · exact Or.inr hfresh

theorem Earns.sender (h : s.Earns G i c token) : i.sender = some c := by
  obtain ⟨frame, diskFails, command, rfl, -⟩ := h
  rfl

theorem Secret.fresh (hs : s.Secret G owner) (hn : G.NeverRepeats) : ¬s.Told owner x (G.sessionToken s.nextId) := by
  rintro ⟨c, e, p, -, he, hack⟩
  obtain ⟨k, hk, htoken, -⟩ := hs.issued c e _ p he hack
  have hsame := hn.sessionToken htoken
  omega

/-- What has been told after a step was told before, or is told now to the sender, who has earned it. -/
theorem Told.before (h : t.Told owner x token) (hw : s.Rewards G i s t) :
    s.Told owner x token ∨ ∃ c, i.sender = some c ∧ owner c = x ∧ s.Earns G i c token := by
  obtain ⟨c, e, p, hx, he, hack⟩ := h
  rcases hw.mem he with he | hearns
  · exact Or.inl ⟨c, e, p, hx, he, hack⟩
  · have hc := hearns token p hack
    exact Or.inr ⟨c, hc.1.sender, hx, hc.1⟩

theorem Secret.step (hs : s.Secret G owner) (hn : G.NeverRepeats) (hsound : s.Seats G) (hi : s.Honest owner i)
    (h : s.step G i = some t) : t.Secret G owner := by
  have hw := step_rewards hn hsound.issuing hsound.keyed h
  have hle := nextId_le_step hsound.keyed h
  have htold : ∀ token x y, t.Told owner x token → t.Told owner y token → x = y := by
    intro token x y hx hy
    rcases hx.before hw with hx | ⟨c, hc, rfl, hcearns⟩
    · rcases hy.before hw with hy | ⟨d, hd, rfl, hdearns⟩
      · exact hs.told token x y hx hy
      · rcases hdearns.known hi with hknown | rfl
        · exact hs.told token _ _ hx hknown
        · exact absurd hx (hs.fresh hn)
    · rcases hy.before hw with hy | ⟨d, hd, rfl, -⟩
      · rcases hcearns.known hi with hknown | rfl
        · exact hs.told token _ _ hknown hy
        · exact absurd hy (hs.fresh hn)
      · rw [Option.some.inj (hc.symm.trans hd)]
  refine ⟨fun c e token p he hack => ?_, htold, fun c token hc => ?_⟩
  · rcases hw.mem he with he | hearns
    · exact (hs.issued c e token p he hack).mono hle
    · exact (hearns token p hack).2
  · rcases step_holds h hc with hheld | ⟨e, p, he, hack⟩
    · exact (hs.held c token hheld).kept hw
    · exact ⟨c, e, p, rfl, he, hack⟩

theorem runs_secret (hn : G.NeverRepeats) {now : Millis} {version : String} {repository : HistoryRepository}
    (hrun : Runs G (fun s i => s.Honest owner i) (start now version repository) s) : s.Secret G owner ∧ s.Seats G :=
  hrun.invariant (P := fun s => s.Secret G owner ∧ s.Seats G)
    ⟨start_secret now version repository, start_seats now version repository⟩
    fun _ _ _ hs hi hstep => ⟨hs.1.step hn hs.2 hi hstep, hs.2.step hn hstep⟩

/-- A client that has been told a token goes on knowing it. -/
theorem Told.later {C : Server → Input → Prop} (h : s.Told owner x token) (hn : G.NeverRepeats) (hs : s.Seats G)
    (hrun : Runs G C s t) : t.Told owner x token := by
  have hboth : t.Told owner x token ∧ t.Seats G :=
    hrun.invariant (P := fun t => t.Told owner x token ∧ t.Seats G) ⟨h, hs⟩ fun _ _ _ hu _ hstep =>
      ⟨hu.1.kept (step_rewards hn hu.2.issuing hu.2.keyed hstep), hu.2.step hn hstep⟩
  exact hboth.1

/-- The sender of a command knows the token of the player for whom it is handled. -/
theorem Handles.knows (h : s.Handles i command p) (hs : s.Secret G owner) (hi : s.Issuing G) (hc : i.sender = some c) :
    ∃ token, s.Told owner (owner c) token ∧ G.Issued s.nextId token p := by
  obtain ⟨c', rec, token, hrouted, htoken, hprocessed⟩ := h
  obtain ⟨frame, diskFails, rfl, -⟩ := hrouted.frame
  obtain rfl := Option.some.inj hc
  obtain ⟨session, hsession, rfl⟩ := hprocessed.session
  refine ⟨token, hs.held c' token ?_, ?_⟩
  · rw [hrouted.connection, Option.bind_some, htoken]
  · have hfound := (JsMap.lookup_eq_some.mp hsession).1
    exact (hi.session token session hfound).2

end Server

open Server

/-- While every client lays hold only on sessions that it knows, the token of a session is told to one client, and all
commands that are ever handled for a player come from connections of one client. -/
theorem players_not_impersonated {G : IdSource} (hn : G.NeverRepeats) {Client : Type} {owner : ConnectionId → Client}
    {now : Millis} {version : String} {repository : HistoryRepository} {s t : Server}
    (hrun : Runs G (fun s i => s.Honest owner i) (start now version repository) s)
    (hlater : Runs G (fun s i => s.Honest owner i) s t) :
    (∀ token x y, t.Told owner x token → t.Told owner y token → x = y) ∧
    ∀ p i j command command' c d, s.Handles i command p → t.Handles j command' p → i.sender = some c →
      j.sender = some d → owner c = owner d := by
  obtain ⟨hs, hseats⟩ := runs_secret hn hrun
  obtain ⟨ht, hseats'⟩ := runs_secret hn (hrun.trans hlater)
  refine ⟨ht.told, fun p i j command command' c d h h' hc hd => ?_⟩
  obtain ⟨token, hknows, k, -, htoken, hp⟩ := h.knows hs hseats.issuing hc
  obtain ⟨token', hknows', k', -, htoken', hp'⟩ := h'.knows ht hseats'.issuing hd
  have hsame : token = token' := by rw [htoken, htoken', hn.playerId (hp.symm.trans hp')]
  exact ht.told token _ _ (hknows.later hn hseats hlater) (hsame ▸ hknows')

/-- The check of `Honest`. -/
def Server.honest (owner : ConnectionId → Bool) (s : Server) : Input → Bool
  | .frame c frame _ =>
    match frame.parseResult with
    | .ok command => (s.claims command).all fun token => s.wire.any fun entry =>
      (owner entry.1 == owner c) && entry.2.acknowledged.any fun told => told.1 = token
    | .error _ => true
  | _ => true

theorem Server.honest_of_check {owner : ConnectionId → Bool} {s : Server} {i : Input} (h : s.honest owner i = true) :
    s.Honest owner i := by
  rintro c frame diskFails command token rfl hparse hclaims
  simp only [honest, hparse, hclaims, Option.all_some, List.any_eq_true, Bool.and_eq_true, beq_iff_eq,
    Option.any_eq_true, decide_eq_true_eq] at h
  obtain ⟨entry, hentry, howner, told, htold, rfl⟩ := h
  exact ⟨entry.1, entry.2, told.2, howner, hentry, htold⟩

/-- The first player of the opening comes back on another connection, with the token of the first one. -/
theorem players_not_impersonated_return : ∃ owner : ConnectionId → Bool, ∃ s t i j command command',
    Runs tallies (fun s i => s.Honest owner i) fresh s ∧ Runs tallies (fun s i => s.Honest owner i) s t ∧
    s.Handles i command (tally 'p' 1) ∧ t.Handles j command' (tally 'p' 1) ∧ i.sender = some (tally 'c' 0) ∧
    j.sender = some (tally 'c' 6) ∧ owner (tally 'c' 0) = owner (tally 'c' 6) := by
  let owner : ConnectionId → Bool := fun c => c = tally 'c' 2
  let back : List Input := [.connect, asks 6 "auth6" (.auth (some (tally 't' 1)))]
  have hcheck : (Transition.run (step tallies) (honest owner) fresh opening).any (fun s =>
      decide (s.asker 0 "move1" = some (tally 'p' 1)) && (Transition.run (step tallies) (honest owner) s back).any fun t =>
        t.asker 6 "move6" = some (tally 'p' 1)) = true := by decide +kernel
  obtain ⟨s, hrun, hs⟩ := Transition.exists_run (fun _ _ h => honest_of_check h) hcheck
  simp only [Bool.and_eq_true, decide_eq_true_eq] at hs
  obtain ⟨hfirst, hback⟩ := hs
  obtain ⟨t, hlater, hagain⟩ := Transition.exists_run (fun _ _ h => honest_of_check h) hback
  have hhandles := handles_of_asker hfirst (.leaveRoom (tally 'r' 4))
  have hhandles' := handles_of_asker (of_decide_eq_true hagain) (.leaveRoom (tally 'r' 4))
  exact ⟨owner, s, t, _, _, _, _, hrun, hlater, hhandles, hhandles', rfl, rfl,
    (players_not_impersonated tallies_neverRepeats hrun hlater).2 _ _ _ _ _ _ _ hhandles hhandles' rfl rfl⟩

end TicTacToe

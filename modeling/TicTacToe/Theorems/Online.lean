import TicTacToe.Theorems.Links
import TicTacToe.Theorems.Seats

/-! # Players online

A connection acts for one player from its `AUTH` on, and the registry lists open connections only, as long as
no connection is closed by the server or bound to another player. -/

namespace TicTacToe
namespace Server
variable {s t u : Server} {r : RoomId} {G : IdSource} {c c' : ConnectionId} {token : SessionToken} {p q : PlayerId}
  {i : Input}

/-! ### Operations on connections -/

theorem actsFor_register (G : IdSource) (s : Server) (c : ConnectionId) :
    (s.register G).actsFor c = if G.connectionId s.nextId = c then none else s.actsFor c := by
  rw [actsFor, register, JsMap.get_set]
  split
  · rfl
  · rfl

theorem actsFor_unregister (s : Server) (c c' : ConnectionId) :
    (s.unregister c).actsFor c' = if c = c' then none else s.actsFor c' := by
  rw [actsFor, unregister, JsMap.get_delete]
  split
  · rfl
  · rfl

theorem actsFor_authenticate (hopen : s.connections.get c ≠ none) (token : SessionToken) (p : PlayerId)
    (c' : ConnectionId) : (s.authenticate c token p).actsFor c' = if c = c' then some p else s.actsFor c' := by
  obtain ⟨rec, hrec⟩ := Option.ne_none_iff_exists'.mp hopen
  rw [actsFor, authenticate, JsMap.get_modify]
  split
  · rename_i hc
    subst hc
    rw [hrec]
    rfl
  · rfl

theorem actsFor_unregisterPlayerConnection (s : Server) (p : PlayerId) (c c' : ConnectionId) :
    (s.unregisterPlayerConnection p c).actsFor c' = s.actsFor c' := by
  unfold unregisterPlayerConnection
  split
  · rfl
  · rfl

theorem mem_registerPlayerConnection :
    c' ∈ (s.registerPlayerConnection p c).getPlayerConnectionIds q ↔
      c' ∈ s.getPlayerConnectionIds q ∨ p = q ∧ c' = c := by
  rw [getPlayerConnectionIds, registerPlayerConnection, JsMap.get_set]
  split
  · rename_i hp
    subst hp
    simp [or_comm]
  · rename_i hp
    simp [hp, getPlayerConnectionIds]

theorem mem_unregisterPlayerConnection :
    c' ∈ (s.unregisterPlayerConnection p c).getPlayerConnectionIds q ↔
      c' ∈ s.getPlayerConnectionIds q ∧ ¬(p = q ∧ c' = c) := by
  unfold unregisterPlayerConnection
  cases hget : s.playerConnectionRegistry.get p with
  | none =>
    by_cases hp : p = q
    · subst hp
      simp [getPlayerConnectionIds, hget]
    · simp [hp]
  | some connections =>
    by_cases hp : p = q
    · subst hp
      by_cases hempty : JsSet.delete connections c = []
      · have hmem : ¬(c' ∈ connections ∧ c' ≠ c) := by
          rw [← JsSet.mem_delete, hempty]
          exact List.not_mem_nil
        simpa [getPlayerConnectionIds, hget, hempty] using hmem
      · simp [getPlayerConnectionIds, hget, hempty, JsSet.mem_delete]
    · by_cases hempty : JsSet.delete connections c = []
      · simp [getPlayerConnectionIds, hempty, hp, JsMap.get_delete]
      · simp [getPlayerConnectionIds, hempty, hp, JsMap.get_set]

theorem Links.unregister (h : Links s t) (c : ConnectionId) : Links (s.unregister c) (t.unregister c) := by
  refine ⟨fun c' => ?_, h.registry⟩
  rw [Server.unregister, Server.unregister, JsMap.get_delete, JsMap.get_delete]
  split
  · rfl
  · exact h.connections c'

theorem Links.registerPlayerConnection (h : Links s t) (p : PlayerId) (c : ConnectionId) :
    Links (s.registerPlayerConnection p c) (t.registerPlayerConnection p c) := by
  refine ⟨h.connections, ?_⟩
  simp only [Server.registerPlayerConnection, h.getPlayerConnectionIds, h.registry]

theorem Links.authenticate (h : Links s t) (c : ConnectionId) (token : SessionToken) (p : PlayerId) :
    Links (s.authenticate c token p) (t.authenticate c token p) := by
  have hbound : ∀ x : Option ConnectionRecord, (x.map fun rec => { rec with
      sessionToken := some token, playerId := some p, authenticated := true, authTimer := none }).map
        ConnectionRecord.identity = (x.map ConnectionRecord.identity).map fun _ => (some token, some p, true) := by
    intro x
    cases x <;> rfl
  refine ⟨fun c' => ?_, h.registry⟩
  rw [Server.authenticate, Server.authenticate, JsMap.get_modify, JsMap.get_modify]
  split
  · rw [hbound, hbound, h.connections c']
  · exact h.connections c'

theorem sendError_links (s : Server) (c : ConnectionId) (code : ErrorCode) (correlationId : Option CommandId) :
    (ERROR_META code).closesConnection = true ∧ Links (s.unregister c) (s.sendError c code correlationId) ∨
      (ERROR_META code).closesConnection = false ∧ Links s (s.sendError c code correlationId) := by
  unfold sendError
  dsimp only
  split
  · rename_i hcloses
    exact Or.inl ⟨hcloses, (send_quiet s c _).links.unregister c⟩
  · rename_i hstays
    exact Or.inr ⟨Bool.eq_false_iff.mpr hstays, (send_quiet s c _).links⟩

/-! ### What a step does to the connections -/

/-- A connection acts for nobody and has no session, or it acts for the player of its session. -/
def Identified (G : IdSource) (s : Server) : Prop :=
  ∀ c rec, s.connections.get c = some rec → rec.identity = (none, none, false) ∨
    ∃ token p, rec.identity = (some token, some p, true) ∧ G.Issued s.nextId token p

/-- A connection that acts for nobody has no session; any other one acts for the player of its session. The registry
lists, for a player, open connections that act for the player. -/
structure Wired (G : IdSource) (s : Server) : Prop where
  opened : ∀ c, s.connections.get c ≠ none → ∃ k < s.nextId, c = G.connectionId k
  identity : ∀ c rec, s.connections.get c = some rec → rec.identity = (none, none, false) ∨
    ∃ token p, rec.identity = (some token, some p, true) ∧ G.Issued s.nextId token p
  registered : ∀ p c, c ∈ s.getPlayerConnectionIds p → s.actsFor c = some p

/-- What input `i` does to the connections. -/
inductive LinkStep (G : IdSource) (s : Server) (i : Input) (t : Server) : Prop
  | same (h : Links s t)
  | connected (hid : s.nextId < t.nextId) (h : Links (s.register G) t)
  | registered {c : ConnectionId} {p : PlayerId} (hp : s.actsFor c = some p) (h : Links (s.registerPlayerConnection p c) t)
  | bound {c : ConnectionId} {token : SessionToken} {p : PlayerId} (hopen : s.connections.get c ≠ none)
    (hissued : G.Issued t.nextId token p) (hkept : ∀ q, s.actsFor c = some q → q ≠ p → s.rebinds G i = true)
    (h : Links ((s.authenticate c token p).registerPlayerConnection p c) t)
  | closed {c : ConnectionId} (hc : s.actsFor c = none ∨ s.dropsPlayer i = true) (h : Links (s.unregister c) t)
  | closedFor {c : ConnectionId} {p : PlayerId} (hi : i = .socketClosed c) (hp : s.actsFor c = some p)
    (h : Links ((s.unregisterPlayerConnection p c).unregister c) t)

theorem dispatch_links (s : Server) (c : ConnectionId) (rec : ConnectionRecord) (command : Command) (diskFails : Bool)
    (hbody : ∀ guestToken, command.body ≠ .auth guestToken) :
    Links s (s.dispatch G c rec command diskFails).server ∨
      ∃ p, rec.playerId = some p ∧
        Links (s.registerPlayerConnection p c) (s.dispatch G c rec command diskFails).server := by
  cases hexempt : isAuthExempt command.body with
  | true =>
    obtain ⟨id, body⟩ := command
    cases body with
    | auth guestToken => exact absurd rfl (hbody guestToken)
    | ping clientTime => exact Or.inl (.refl s)
    | _ => cases hexempt
  | false =>
    cases htoken : rec.sessionToken with
    | none =>
      rw [dispatch_unbound htoken hexempt]
      exact Or.inl (.refl s)
    | some token =>
      obtain ⟨result, hconfined, hdispatch⟩ := dispatch_confined (G := G) htoken c command diskFails hexempt
      rw [hdispatch]
      obtain ⟨id, body⟩ := command
      cases body with
      | reconnect r lastReceivedSeq =>
        unfold linked registerReconnected
        cases hp : rec.playerId with
        | none => exact Or.inl hconfined.links
        | some p => exact Or.inr ⟨p, rfl, hconfined.links.registerPlayerConnection p c⟩
      | _ => exact Or.inl hconfined.links

theorem Routed.frameError {frame : RawFrame} {diskFails : Bool} {rec : ConnectionRecord} {command : Command}
    (h : s.Routed (.frame c frame diskFails) c rec command) :
    frame.parseResult = .ok command ∧ s.frameError c frame = none := by
  obtain ⟨frame', diskFails', hi, hsize, hparse⟩ := h.frame
  obtain ⟨-, rfl, rfl⟩ := Input.frame.inj hi
  refine ⟨hparse, ?_⟩
  have hguard : (!rec.authenticated && !isAuthExempt command.body) = false := by
    rcases h.permitted with hp | hp <;> simp [hp]
  have hsession : (rec.authenticated && rec.sessionToken.any fun token => (s.getSession token).isNone) = false := by
    cases ha : rec.authenticated with
    | false => rfl
    | true =>
      cases htoken : rec.sessionToken with
      | none => rfl
      | some token => simpa using h.session token ha htoken
  rw [Server.frameError, if_neg (Nat.not_lt.mpr hsize), if_neg (by simp [h.withinRateLimit])]
  simp only [hparse, h.connection, Option.bind_some, hguard, hsession, Bool.false_eq_true, ↓reduceIte]

theorem Quiet.authPlayer (h : Quiet s t) (commandId : CommandId) (guestToken : Option SessionToken) (fresh : PlayerId) :
    t.authPlayer commandId guestToken fresh = s.authPlayer commandId guestToken fresh := by
  simp only [Server.authPlayer, h.cached, h.session]

theorem handleFrame_links (hi : s.Issuing G) (c : ConnectionId) (frame : RawFrame) (diskFails : Bool) :
    LinkStep G s (.frame c frame diskFails) (s.handleFrame G c frame diskFails) := by
  rcases handleFrame_cases (G := G) s c frame diskFails with
    ⟨u, code, id, herror, hq, -, he⟩ | ⟨hq, -⟩ | ⟨rec, command, hrouted⟩
  · rw [he]
    rcases sendError_links u c code id with ⟨hcloses, h⟩ | ⟨-, h⟩
    · refine .closed ?_ ((hq.links.unregister c).trans h)
      cases hp : s.actsFor c with
      | none => exact Or.inl rfl
      | some p => exact Or.inr (by simp [dropsPlayer, hp, herror, hcloses])
    · exact .same (hq.links.trans h)
  · exact .same hq.links
  obtain ⟨hparse, hnone⟩ := hrouted.frameError
  have hq := arrived_quiet s c rec
  have hacts : ∀ p, rec.playerId = some p → s.actsFor c = some p := fun p hp => by
    simp [actsFor, hrouted.connection, hp]
  rw [handleFrame_routed hrouted]
  have hend := (conclude_quiet G c command.commandId ((s.arrived c rec).dispatch G c rec command diskFails))
  by_cases hbody : ∀ guestToken, command.body ≠ .auth guestToken
  · rcases dispatch_links (G := G) (s.arrived c rec) c rec command diskFails hbody with h | ⟨p, hp, h⟩
    · exact .same ((hq.links.trans h).trans hend.links)
    · exact .registered (hacts p hp) (((hq.links.registerPlayerConnection p c).trans h).trans hend.links)
  obtain ⟨id, body⟩ := command
  simp only [ne_eq, not_forall, not_not] at hbody
  obtain ⟨guestToken, rfl⟩ := hbody
  have hauth : Links (s.arrived c rec) ((s.arrived c rec).handleAuth G c id guestToken).server :=
    (handleAuth_confined G (s.arrived c rec) c id guestToken).links
  have hdispatch : (s.arrived c rec).dispatch G c rec ⟨id, .auth guestToken⟩ diskFails =
      bindConnection c ((s.arrived c rec).handleAuth G c id guestToken) := rfl
  rw [hdispatch] at hend ⊢
  rcases bindConnection_cases c ((s.arrived c rec).handleAuth G c id guestToken) with
    he | ⟨c', token, p, version, room, id', ds, hds, he⟩
  · rw [he] at hend ⊢
    exact .same ((hq.links.trans hauth).trans hend.links)
  · rw [he] at hend ⊢
    obtain ⟨hplayer, hissued⟩ := handleAuth_acknowledged hds
    have hnext : (s.arrived c rec).nextId = s.nextId := by
      obtain ⟨connections, sessions, h, -⟩ := arrived_frame s c rec
      rw [h]
    rw [hq.authPlayer, hnext] at hplayer
    have hlinks := (((hq.links.trans hauth).authenticate c token p).registerPlayerConnection p c).trans hend.links
    refine .bound (by simp [hrouted.connection]) ((hissued (hq.issued G hi)).mono hend.nextId)
      (fun q hacting hne => ?_) hlinks
    simp [rebinds, hparse, hnone, hacting, hplayer, hne]

theorem handleClose_links (hw : s.Identified G) (c : ConnectionId) : LinkStep G s (.socketClosed c) (s.handleClose c) := by
  unfold handleClose
  cases hrec : s.connections.get c with
  | none => exact .closed (Or.inl (by simp [actsFor, hrec])) (.refl _)
  | some rec =>
    have hacts : s.actsFor c = rec.playerId := by simp [actsFor, hrec]
    rcases hw c rec hrec with hid | ⟨token, p, hid, -⟩
    · have htoken : rec.sessionToken = none := congrArg (fun x => x.1) hid
      have hp : rec.playerId = none := congrArg (fun x => x.2.1) hid
      simp only [htoken]
      exact .closed (Or.inl (hacts.trans hp)) (.refl _)
    · have htoken : rec.sessionToken = some token := congrArg (fun x => x.1) hid
      have hp : rec.playerId = some p := congrArg (fun x => x.2.1) hid
      simp only [htoken, hp]
      refine .closedFor rfl (hacts.trans hp) ?_
      split
      · exact .refl _
      · exact (handleDisconnect_apart _ token).links.unregister c

theorem step_links (hi : s.Issuing G) (hw : s.Identified G) (h : s.step G i = some t) : LinkStep G s i t := by
  have hclose : ∀ c e, s.actsFor c = none ∨ s.dropsPlayer i = true → LinkStep G s i (s.close c e) := by
    intro c e hc
    cases e with
    | none => exact .closed hc (.refl _)
    | some e => exact .closed hc ((send_quiet s c e).links.unregister c)
  unfold step at h
  cases i with
  | tick elapsed => exact .same (Option.some.inj h ▸ .of_eq rfl rfl)
  | connect => exact Option.some.inj h ▸ .connected (Nat.lt_succ_self _) (.refl _)
  | frame c frame diskFails => exact Option.some.inj h ▸ handleFrame_links hi c frame diskFails
  | socketClosed c => exact Option.some.inj h ▸ handleClose_links hw c
  | authTimeout c =>
    dsimp only at h
    split at h
    · refine Option.some.inj h ▸ hclose c _ ?_
      cases hp : s.actsFor c with
      | none => exact Or.inl rfl
      | some p => exact Or.inr (by simp [dropsPlayer, hp])
    · cases h
  | idleTimeout c =>
    dsimp only at h
    split at h
    · refine Option.some.inj h ▸ hclose c _ ?_
      cases hp : s.actsFor c with
      | none => exact Or.inl rfl
      | some p => exact Or.inr (by simp [dropsPlayer, hp])
    · cases h
  | wsPong c => exact .same (Option.some.inj h ▸ (touchConnection_quiet s c).links)
  | reconnectWindow r p diskFails =>
    dsimp only at h
    split at h
    · cases h
    split at h
    · cases h
    split at h
    · split at h
      · cases h
      · exact .same (Option.some.inj h ▸ (fireReconnectWindow_apart s r _ p _ diskFails).links)
    · cases h
  | rematchTimer r =>
    dsimp only at h
    split at h
    · split at h
      · cases h
      · split at h
        · exact .same (Option.some.inj h ▸ (applyEmitted_apart s r _).links)
        · cases h
    · cases h
  | createRoom => exact .same (Option.some.inj h ▸ .of_eq rfl rfl)
  | httpGetRoom r => exact .same (Option.some.inj h ▸ (afterGetRoom_quiet s r).links)
  | maintenance => exact .same (Option.some.inj h ▸ .of_eq rfl rfl)

/-- Who acts for a player stays registered for the player: by a close one acts for nobody. -/
theorem LinkStep.acting (h : LinkStep G s i t) (hs : ∀ c p, s.actsFor c = some p → c ∈ s.getPlayerConnectionIds p)
    (hc : t.actsFor c = some p) : c ∈ t.getPlayerConnectionIds p := by
  cases h with
  | same h =>
    rw [h.getPlayerConnectionIds]
    exact hs c p ((h.actsFor c).symm.trans hc)
  | connected hlt h =>
    have hacts := (h.actsFor c).symm.trans hc
    rw [actsFor_register] at hacts
    split at hacts
    · cases hacts
    · rw [h.getPlayerConnectionIds]
      exact hs c p hacts
  | @registered c' q hq h =>
    rw [h.getPlayerConnectionIds]
    exact mem_registerPlayerConnection.mpr (Or.inl (hs c p ((h.actsFor c).symm.trans hc)))
  | @bound c' token q hopen hissued hkept h =>
    rw [h.getPlayerConnectionIds]
    have hacts : (s.authenticate c' token q).actsFor c = some p := (h.actsFor c).symm.trans hc
    rw [actsFor_authenticate hopen] at hacts
    split at hacts
    · rename_i he
      exact mem_registerPlayerConnection.mpr (Or.inr ⟨Option.some.inj hacts, he.symm⟩)
    · exact mem_registerPlayerConnection.mpr (Or.inl (hs c p hacts))
  | @closed c' hc' h =>
    have hacts := (h.actsFor c).symm.trans hc
    rw [actsFor_unregister] at hacts
    split at hacts
    · cases hacts
    · rw [h.getPlayerConnectionIds]
      exact hs c p hacts
  | @closedFor c' q hi hq h =>
    have hacts := (h.actsFor c).symm.trans hc
    rw [actsFor_unregister] at hacts
    split at hacts
    · cases hacts
    · rename_i hne
      rw [actsFor_unregisterPlayerConnection] at hacts
      rw [h.getPlayerConnectionIds]
      exact mem_unregisterPlayerConnection.mpr ⟨hs c p hacts, fun he => hne he.2.symm⟩

/-! ### Identities in every run -/

theorem start_identified (now : Millis) (version : String) (repository : HistoryRepository) :
    (start now version repository).Identified G := fun c rec h => by simp [start] at h

namespace Identified

theorem of_links (hs : s.Identified G) (hid : s.nextId ≤ t.nextId) (h : Links s t) : t.Identified G := by
  intro c rec hrec
  have hsame := h.connections c
  rw [hrec, Option.map_some] at hsame
  obtain ⟨rec₀, hrec₀, he⟩ := Option.map_eq_some_iff.mp hsame.symm
  rw [← he]
  rcases hs c rec₀ hrec₀ with hnone | ⟨token, p, hidentity, hissued⟩
  · exact Or.inl hnone
  · exact Or.inr ⟨token, p, hidentity, hissued.mono hid⟩

theorem register (hs : s.Identified G) : (s.register G).Identified G := by
  intro c rec hrec
  rw [Server.register, JsMap.get_set] at hrec
  split at hrec
  · exact Or.inl (Option.some.inj hrec ▸ rfl)
  · rcases hs c rec hrec with hnone | ⟨token, p, hidentity, hissued⟩
    · exact Or.inl hnone
    · exact Or.inr ⟨token, p, hidentity, hissued.mono (Nat.le_succ _)⟩

theorem authenticate (hs : s.Identified G) (hissued : G.Issued s.nextId token p) (c : ConnectionId) :
    (s.authenticate c token p).Identified G := by
  intro c' rec hrec
  rw [Server.authenticate, JsMap.get_modify] at hrec
  split at hrec
  · obtain ⟨rec₀, -, rfl⟩ := Option.map_eq_some_iff.mp hrec
    exact Or.inr ⟨token, p, rfl, hissued⟩
  · exact hs c' rec hrec

theorem unregister (hs : s.Identified G) (c : ConnectionId) : (s.unregister c).Identified G := by
  intro c' rec hrec
  rw [Server.unregister, JsMap.get_delete] at hrec
  split at hrec
  · cases hrec
  · exact hs c' rec hrec

theorem unregisterPlayerConnection (hs : s.Identified G) (p : PlayerId) (c : ConnectionId) :
    (s.unregisterPlayerConnection p c).Identified G := by
  unfold Server.unregisterPlayerConnection
  split
  · exact hs
  · exact hs

theorem step (hs : s.Identified G) (hid : s.nextId ≤ t.nextId) (h : LinkStep G s i t) : t.Identified G := by
  cases h with
  | same h => exact hs.of_links hid h
  | connected hlt h => exact hs.register.of_links hlt h
  | @registered c p hp h =>
    have hregistered : (s.registerPlayerConnection p c).Identified G := hs
    exact hregistered.of_links hid h
  | @bound c token p hopen hissued hkept h =>
    -- The new session has been drawn within the step.
    have hnew : ({ s with nextId := t.nextId } : Server).Identified G := hs.of_links hid (.of_eq rfl rfl)
    have hbound : ((({ s with nextId := t.nextId } : Server).authenticate c token p).registerPlayerConnection p
        c).Identified G := hnew.authenticate hissued c
    exact hbound.of_links (Nat.le_refl _) ⟨h.connections, h.registry⟩
  | @closed c hc h => exact (hs.unregister c).of_links hid h
  | @closedFor c p hi hp h =>
    refine ((hs.unregisterPlayerConnection p c).unregister c).of_links (Nat.le_trans (Nat.le_of_eq ?_) hid) h
    rw [Server.unregister]
    unfold Server.unregisterPlayerConnection
    split
    · rfl
    · rfl

end Identified

/-! ### Wired in every run -/

theorem start_wired (now : Millis) (version : String) (repository : HistoryRepository) :
    (start now version repository).Wired G where
  opened c h := by simp [start] at h
  identity c rec h := by simp [start] at h
  registered p c h := by simp [getPlayerConnectionIds, start] at h

namespace Wired

theorem of_links (hw : s.Wired G) (hid : s.nextId ≤ t.nextId) (h : Links s t) : t.Wired G where
  opened c hc := by
    have hopen : s.connections.get c ≠ none := by
      intro hnone
      have hsame := h.connections c
      rw [hnone, Option.map_none] at hsame
      exact hc (Option.map_eq_none_iff.mp hsame)
    obtain ⟨k, hk, he⟩ := hw.opened c hopen
    exact ⟨k, Nat.lt_of_lt_of_le hk hid, he⟩
  identity := Identified.of_links hw.identity hid h
  registered p c hc := (h.actsFor c).trans (hw.registered p c (h.getPlayerConnectionIds p ▸ hc))

/-- A connection that acts for nobody is not registered. -/
theorem not_registered (hw : s.Wired G) (h : s.actsFor c = none) (p : PlayerId) : c ∉ s.getPlayerConnectionIds p := by
  intro hc
  rw [hw.registered p c hc] at h
  cases h

/-- A new connection takes no other one's place. -/
theorem register_actsFor (hw : s.Wired G) (hn : G.NeverRepeats) (h : s.actsFor c = some p) :
    (s.register G).actsFor c = some p := by
  rw [actsFor_register, if_neg, h]
  rintro rfl
  obtain ⟨k, hk, he⟩ := hw.opened (G.connectionId s.nextId) (fun hnone => by simp [actsFor, hnone] at h)
  have hsame := hn.connectionId he
  omega

theorem register (hw : s.Wired G) (hn : G.NeverRepeats) : (s.register G).Wired G where
  opened c hc := by
    rw [Server.register, JsMap.get_set] at hc
    split at hc
    · rename_i he
      exact ⟨s.nextId, Nat.lt_succ_self _, he.symm⟩
    · obtain ⟨k, hk, he⟩ := hw.opened c hc
      exact ⟨k, Nat.lt_succ_of_lt hk, he⟩
  identity := Identified.register hw.identity
  registered p c hc := hw.register_actsFor hn (hw.registered p c hc)

theorem registerPlayerConnection (hw : s.Wired G) (h : s.actsFor c = some p) :
    (s.registerPlayerConnection p c).Wired G where
  opened := hw.opened
  identity := hw.identity
  registered q c' hc' := by
    rcases mem_registerPlayerConnection.mp hc' with hc' | ⟨rfl, rfl⟩
    · exact hw.registered q c' hc'
    · exact h

/-- A connection that is bound to its player again, or for the first time. -/
theorem authenticate (hw : s.Wired G) (hopen : s.connections.get c ≠ none) (hissued : G.Issued s.nextId token p)
    (hkept : ∀ q, s.actsFor c = some q → q = p) : (s.authenticate c token p).Wired G where
  opened c' hc' := by
    rw [Server.authenticate, JsMap.get_modify] at hc'
    split at hc'
    · rename_i he
      exact hw.opened c' (he ▸ hopen)
    · exact hw.opened c' hc'
  identity := Identified.authenticate hw.identity hissued c
  registered q c' hc' := by
    have hacts := hw.registered q c' hc'
    rw [actsFor_authenticate hopen]
    split
    · rename_i he
      subst he
      exact congrArg some (hkept q hacts).symm
    · exact hacts

theorem unregister (hw : s.Wired G) (hnot : ∀ q, c ∉ s.getPlayerConnectionIds q) : (s.unregister c).Wired G where
  opened c' hc' := by
    rw [Server.unregister, JsMap.get_delete] at hc'
    split at hc'
    · exact absurd rfl hc'
    · exact hw.opened c' hc'
  identity := Identified.unregister hw.identity c
  registered q c' hc' := by
    rw [actsFor_unregister, if_neg]
    · exact hw.registered q c' hc'
    · rintro rfl
      exact hnot q hc'

theorem unregisterPlayerConnection (hw : s.Wired G) (p : PlayerId) (c : ConnectionId) :
    (s.unregisterPlayerConnection p c).Wired G := by
  have hsame : (s.unregisterPlayerConnection p c).connections = s.connections ∧
      (s.unregisterPlayerConnection p c).nextId = s.nextId := by
    unfold Server.unregisterPlayerConnection
    split
    · exact ⟨rfl, rfl⟩
    · exact ⟨rfl, rfl⟩
  refine ⟨fun c' hc' => ?_, Identified.unregisterPlayerConnection hw.identity p c, fun q c' hc' => ?_⟩
  · rw [hsame.2]
    exact hw.opened c' (hsame.1 ▸ hc')
  · rw [actsFor_unregisterPlayerConnection]
    exact hw.registered q c' (mem_unregisterPlayerConnection.mp hc').1

theorem step (hw : s.Wired G) (hn : G.NeverRepeats) (hid : s.nextId ≤ t.nextId) (hdrops : s.dropsPlayer i = false)
    (hrebinds : s.rebinds G i = false) (h : LinkStep G s i t) : t.Wired G := by
  cases h with
  | same h => exact hw.of_links hid h
  | connected hlt h => exact (hw.register hn).of_links hlt h
  | registered hp h => exact (hw.registerPlayerConnection hp).of_links hid h
  | @bound c token p hopen hissued hkept h =>
    have hkept' : ∀ q, s.actsFor c = some q → q = p := by
      intro q hacting
      by_contra hne
      rw [hkept q hacting hne] at hrebinds
      cases hrebinds
    -- The new session has been drawn within the step.
    have hnew : ({ s with nextId := t.nextId } : Server).Wired G := hw.of_links hid (.of_eq rfl rfl)
    have hbound := hnew.authenticate hopen hissued hkept'
    refine (hbound.registerPlayerConnection (p := p) ?_).of_links (Nat.le_refl _) ⟨h.connections, h.registry⟩
    exact (actsFor_authenticate hopen token p c).trans (if_pos rfl)
  | @closed c hc h =>
    refine (hw.unregister ?_).of_links hid h
    exact hw.not_registered (hc.resolve_right (by simp [hdrops]))
  | @closedFor c p hi hp h =>
    have hfreed : ∀ q, c ∉ (s.unregisterPlayerConnection p c).getPlayerConnectionIds q := by
      intro q hc
      obtain ⟨hin, hout⟩ := mem_unregisterPlayerConnection.mp hc
      have hq := hw.registered q c hin
      exact hout ⟨Option.some.inj (hp.symm.trans hq), rfl⟩
    refine ((hw.unregisterPlayerConnection p c).unregister hfreed).of_links (Nat.le_trans (Nat.le_of_eq ?_) hid) h
    rw [Server.unregister]
    unfold Server.unregisterPlayerConnection
    split
    · rfl
    · rfl

end Wired

/-! ### Players online -/

/-- An open authenticated connection acts for the player. -/
def Online (s : Server) (p : PlayerId) : Prop :=
  ∃ c rec, s.connections.get c = some rec ∧ rec.authenticated = true ∧ rec.playerId = some p

/-- A connection that acts for a player is authenticated. -/
theorem Wired.acting_iff (hw : s.Wired G) :
    (∃ rec, s.connections.get c = some rec ∧ rec.authenticated = true ∧ rec.playerId = some p) ↔ s.actsFor c = some p := by
  constructor
  · rintro ⟨rec, hrec, -, hp⟩
    simp [actsFor, hrec, hp]
  · intro hacts
    obtain ⟨rec, hrec, hp⟩ := Option.bind_eq_some_iff.mp hacts
    refine ⟨rec, hrec, ?_, hp⟩
    rcases hw.identity c rec hrec with hid | ⟨token, q, hid, -⟩
    · have hnone : rec.playerId = none := congrArg (fun x => x.2.1) hid
      rw [hnone] at hp
      cases hp
    · exact congrArg (fun x => x.2.2) hid

theorem Wired.online_iff (hw : s.Wired G) : s.Online p ↔ ∃ c, s.actsFor c = some p :=
  exists_congr fun _ => hw.acting_iff

/-- A player stays online except by a close of a connection of the player. -/
theorem LinkStep.actsFor (h : LinkStep G s i t) (hw : s.Wired G) (hn : G.NeverRepeats) (hdrops : s.dropsPlayer i = false)
    (hrebinds : s.rebinds G i = false) (hp : s.actsFor c = some p) : t.actsFor c = some p ∨ i = .socketClosed c := by
  cases h with
  | same h => exact Or.inl ((h.actsFor c).trans hp)
  | connected hlt h => exact Or.inl ((h.actsFor c).trans (hw.register_actsFor hn hp))
  | registered hq h => exact Or.inl ((h.actsFor c).trans hp)
  | @bound c' token q hopen hissued hkept h =>
    refine Or.inl ((h.actsFor c).trans ?_)
    have hacts := actsFor_authenticate hopen token q c
    refine hacts.trans ?_
    split
    · rename_i he
      subst he
      by_contra hne
      rw [hkept p hp fun hpq => hne (by rw [hpq])] at hrebinds
      cases hrebinds
    · exact hp
  | @closed c' hc h =>
    refine Or.inl ((h.actsFor c).trans ?_)
    have hnone := hc.resolve_right (by simp [hdrops])
    rw [actsFor_unregister, if_neg, hp]
    rintro rfl
    rw [hnone] at hp
    cases hp
  | @closedFor c' q hi hq h =>
    by_cases hc : c' = c
    · exact Or.inr (hc ▸ hi)
    · refine Or.inl ((h.actsFor c).trans ?_)
      rw [actsFor_unregister, if_neg hc, actsFor_unregisterPlayerConnection, hp]

end Server
end TicTacToe

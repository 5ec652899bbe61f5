import TicTacToe.Theorems.HandlerScope

/-! # Connections and their players

Handlers and timers leave the connections and the registry of players alone; they change by connecting, by
`AUTH` and by closing. -/

namespace TicTacToe
namespace Server
variable {s t u : Server} {r : RoomId} {G : IdSource} {c : ConnectionId} {commandId : CommandId}
  {token : SessionToken} {p : PlayerId} {i : Input}

/-- The connections act for the same players, and the registry is the same. -/
structure Links (s t : Server) : Prop where
  connections : ∀ c, (t.connections.get c).map ConnectionRecord.identity =
    (s.connections.get c).map ConnectionRecord.identity
  registry : t.playerConnectionRegistry = s.playerConnectionRegistry

namespace Links

theorem refl (s : Server) : Links s s := ⟨fun _ => rfl, rfl⟩

theorem trans (h₁ : Links s t) (h₂ : Links t u) : Links s u :=
  ⟨fun c => (h₂.connections c).trans (h₁.connections c), h₂.registry.trans h₁.registry⟩

theorem of_eq (hc : t.connections = s.connections) (hr : t.playerConnectionRegistry = s.playerConnectionRegistry) :
    Links s t := ⟨fun c => by rw [hc], hr⟩

end Links

theorem Quiet.links (h : Quiet s t) : Links s t := ⟨h.connections, h.registry⟩

theorem Confined.links {P : WireEvent → Prop} (h : Confined P commandId s t) : Links s t :=
  .of_eq h.connections h.registry

theorem Apart.links (h : Apart s t) : Links s t := .of_eq h.connections h.registry

/-! ### Whom a connection acts for -/

/-- The player for whom an open connection acts. -/
def actsFor (s : Server) (c : ConnectionId) : Option PlayerId := (s.connections.get c).bind ConnectionRecord.playerId

theorem Links.actsFor (h : Links s t) (c : ConnectionId) : t.actsFor c = s.actsFor c := by
  have hplayer : ∀ x : Option ConnectionRecord,
      x.bind ConnectionRecord.playerId = (x.map ConnectionRecord.identity).bind fun identity => identity.2.1 := by
    intro x
    cases x <;> rfl
  rw [Server.actsFor, Server.actsFor, hplayer, hplayer, h.connections c]

theorem Links.getPlayerConnectionIds (h : Links s t) (p : PlayerId) :
    t.getPlayerConnectionIds p = s.getPlayerConnectionIds p := by
  rw [Server.getPlayerConnectionIds, Server.getPlayerConnectionIds, h.registry]

/-- A server step closes a connection that acts for a player, without the socket having been closed. -/
def dropsPlayer (s : Server) : Input → Bool
  | .authTimeout c => (s.actsFor c).isSome
  | .idleTimeout c => (s.actsFor c).isSome
  | .frame c frame _ =>
    (s.actsFor c).isSome && (s.frameError c frame).any fun code => (ERROR_META code).closesConnection
  | _ => false

/-- The player that an `AUTH` acknowledges, when it is not refused; `fresh` is the one of a new session. -/
def authPlayer (s : Server) (commandId : CommandId) (guestToken : Option SessionToken) (fresh : PlayerId) :
    Option PlayerId :=
  match s.cached commandId with
  | some entry => entry.result.acknowledged.map Prod.snd
  | none => match guestToken.filter (· ≠ "") with
    | some token => (s.session token).map PlayerSession.playerId
    | none => some fresh

/-- An `AUTH` on a connection that acts for another player already. -/
def rebinds (G : IdSource) (s : Server) : Input → Bool
  | .frame c frame _ =>
    match frame.parseResult with
    | .ok ⟨id, .auth guestToken⟩ => (s.frameError c frame).isNone && (s.actsFor c).any fun p =>
      (s.authPlayer id guestToken (G.playerId s.nextId)).any fun q => p ≠ q
    | _ => false
  | _ => false

/-- What the session of an acknowledged `AUTH` is. -/
theorem handleAuth_acknowledged {guestToken : Option SessionToken} {c' : ConnectionId} {version : String}
    {existingRoom : Option ExistingRoom} {id : CommandId} {ds : List Delivery}
    (h : (s.handleAuth G c commandId guestToken).deliveries =
      .connection c' (.event (.authAck token p version existingRoom id)) :: ds) :
    s.authPlayer commandId guestToken (G.playerId s.nextId) = some p ∧
      (s.Issuing G → G.Issued (s.handleAuth G c commandId guestToken).server.nextId token p) := by
  have hnext := (handleAuth_acts (G := G) s c commandId guestToken "").nextId
  unfold handleAuth at h hnext ⊢
  unfold authPlayer
  rcases unlessCached_cases s commandId (resend c) _ with ⟨entry, hc, he⟩ | ⟨hc, he⟩
  · rw [he] at h ⊢
    have hresult : s.reread entry.result = .event (.authAck token p version existingRoom id) :=
      (Delivery.connection.inj (List.cons.inj h).1).2
    have hack : entry.result.acknowledged = some (token, p) := by
      rw [← acknowledged_reread s, hresult]
      rfl
    refine ⟨by simp only [hc, hack, Option.map_some], fun hi => ?_⟩
    exact hi.ack commandId entry token p (JsMap.lookup_eq_some.mp hc).1 hack
  rw [he] at h hnext ⊢
  simp only [hc]
  cases hg : guestToken.filter (· ≠ "") with
  | some guest =>
    simp only [hg] at h hnext ⊢
    cases hs : (s.afterLookup commandId).getSession guest with
    | none =>
      simp only [hs] at h
      obtain ⟨-, hevent⟩ := Delivery.connection.inj (List.cons.inj h).1
      cases WireEvent.event.inj hevent
    | some session =>
      simp only [hs] at h hnext ⊢
      obtain ⟨-, hevent⟩ := Delivery.connection.inj (List.cons.inj h).1
      obtain ⟨rfl, rfl, -⟩ := Event.authAck.inj (WireEvent.event.inj hevent)
      have hsame : s.getSession guest = some session := hs
      refine ⟨by simp [Server.session, hsame, PlayerSession.forgetSeen], fun hi => ?_⟩
      obtain ⟨htoken, hissued⟩ := hi.session guest session (JsMap.lookup_eq_some.mp hsame).1
      rw [← htoken] at hissued
      exact hissued.mono hnext
  | none =>
    simp only [hg] at h ⊢
    obtain ⟨-, hevent⟩ := Delivery.connection.inj (List.cons.inj h).1
    obtain ⟨rfl, rfl, -⟩ := Event.authAck.inj (WireEvent.event.inj hevent)
    exact ⟨rfl, fun _ => ⟨s.nextId, Nat.lt_succ_self _, rfl, rfl⟩⟩

end Server
end TicTacToe

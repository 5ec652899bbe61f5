import TicTacToe.Theorems.HandlerScope
import TicTacToe.Theorems.Retries

/-! # Where the entries of the dedup cache come from

A step puts at most one new entry into the cache, for the command that it has brought to its handler. -/

namespace TicTacToe
namespace Server
variable {s t u : Server} {P : WireEvent → Prop} {r : RoomId} {G : IdSource} {c : ConnectionId} {id : CommandId}
  {token : SessionToken} {i : Input} {entry : DedupEntry}

/-! ### Commands -/

/-- The session that has produced a response: the one that an `AUTH` acknowledges, else the one of the connection. -/
def producer (rec : ConnectionRecord) : CommandBody → WireEvent → Option SessionToken
  | .auth _, e => e.acknowledged.map Prod.fst
  | _, _ => rec.sessionToken

/-- A response has been produced by a session, and acknowledges no other. -/
def Produced (rec : ConnectionRecord) (body : CommandBody) (e : WireEvent) : Prop :=
  ∃ token, producer rec body e = some token ∧ ∀ token' p, e.acknowledged = some (token', p) → token' = token

theorem Caches.mono {Q : WireEvent → Prop} (h : Caches P id s t) (hPQ : ∀ e, P e → Q e) : Caches Q id s t :=
  ⟨h.now, fun id' entry he => (h.entry id' entry he).imp (fun hold => hold) fun hnew => ⟨hnew.1, hPQ _ hnew.2⟩⟩

theorem NoAck.produced {rec : ConnectionRecord} {body : CommandBody} {e : WireEvent} (h : NoAck e)
    (hbody : isAuthExempt body = false) (htoken : rec.sessionToken = some token) : Produced rec body e := by
  have hproducer : producer rec body e = some token := by
    cases body with
    | auth => cases hbody
    | _ => exact htoken
  refine ⟨token, hproducer, fun token' p hack => ?_⟩
  rw [h] at hack
  cases hack

theorem bindConnection_caches (c : ConnectionId) (result : HandlerResult) :
    Caches P id result.server (bindConnection c result).server := by
  rcases bindConnection_cases c result with h | ⟨_, token, p, _, _, _, _, -, h⟩ <;> rw [h] <;> exact .of_same rfl rfl

theorem linked_caches (c : ConnectionId) (rec : ConnectionRecord) (body : CommandBody) (result : HandlerResult) :
    Caches P id result.server (linked c rec body result).server := by
  obtain ⟨connections, registry, hserver, -⟩ := (linked_relinked c rec body result).server
  rw [hserver]
  exact .of_same rfl rfl

/-- A command records its response, if any, under its id. -/
theorem dispatch_caches (G : IdSource) (s : Server) (c : ConnectionId) (rec : ConnectionRecord) (command : Command)
    (diskFails : Bool) :
    Caches (Produced rec command.body) command.commandId s (s.dispatch G c rec command diskFails).server := by
  cases hbody : isAuthExempt command.body with
  | true =>
    obtain ⟨id, body⟩ := command
    cases body with
    | auth guestToken =>
      refine ((handleAuth_confined G s c id guestToken).caches.mono ?_).trans (bindConnection_caches c _)
      rintro e ⟨token, p, hack⟩
      refine ⟨token, by simp [producer, hack], fun token' p' hack' => ?_⟩
      obtain ⟨rfl, -⟩ := Prod.mk.inj (Option.some.inj (hack'.symm.trans hack))
      rfl
    | ping clientTime => exact .refl s
    | _ => cases hbody
  | false =>
    cases htoken : rec.sessionToken with
    | none =>
      rw [dispatch_unbound htoken hbody]
      exact .refl s
    | some token =>
      obtain ⟨result, hconfined, hdispatch⟩ := dispatch_confined (G := G) htoken c command diskFails hbody
      rw [hdispatch]
      refine Caches.mono ?_ fun e (he : NoAck e) => he.produced hbody htoken
      exact hconfined.caches.trans (linked_caches c rec command.body result)

/-! ### Closes, timers and steps -/

theorem unregisterPlayerConnection_caches (s : Server) (p : PlayerId) (c : ConnectionId) :
    Caches P id s (s.unregisterPlayerConnection p c) := by
  unfold unregisterPlayerConnection
  split <;> exact .of_same rfl rfl

theorem handleClose_caches (s : Server) (c : ConnectionId) : Caches P id s (s.handleClose c) := by
  have hunregister : ∀ u : Server, Caches P id u (u.unregister c) := fun u => .of_same rfl rfl
  unfold handleClose
  split
  · exact hunregister s
  split
  · exact hunregister s
  split
  · exact (handleDisconnect_apart s _).caches.trans (hunregister _)
  · have h : ∀ p c, Caches P id s (s.unregisterPlayerConnection p c) := unregisterPlayerConnection_caches s
    dsimp only
    split
    · exact (h _ c).trans (hunregister _)
    · exact ((h _ c).trans (handleDisconnect_apart _ _).caches).trans (hunregister _)

theorem send_caches (s : Server) (c : ConnectionId) (e : WireEvent) : Caches P id s (s.send c e) := by
  obtain ⟨w, hw⟩ := send_frame s c e
  rw [hw]
  exact .of_same rfl rfl

theorem close_caches (s : Server) (c : ConnectionId) (e : Option WireEvent) : Caches P id s (s.close c e) := by
  have hunregister : ∀ u : Server, Caches P id u (u.unregister c) := fun u => .of_same rfl rfl
  cases e with
  | none => exact hunregister s
  | some e => exact (send_caches s c e).trans (hunregister _)

theorem sendError_caches (s : Server) (c : ConnectionId) (code : ErrorCode) (correlationId : Option CommandId) :
    Caches P id s (s.sendError c code correlationId) := by
  unfold sendError
  dsimp only
  split
  · exact close_caches s c _
  · exact send_caches s c _

/-- An entry that is new after a step has been recorded for the command that the step has brought to its handler. -/
theorem step_cached (h : s.step G i = some t) (he : t.cached id = some entry) :
    s.cached id = some entry ∨ ∃ c rec command, s.Routed i c rec command ∧ command.commandId = id ∧
      Produced rec command.body entry.result := by
  have hold : Caches (fun _ => False) id s t → s.cached id = some entry := fun hcaches =>
    (hcaches.cached he).resolve_right fun hnew => hnew.2
  unfold step at h
  cases i with
  | tick elapsed =>
    obtain rfl := Option.some.inj h
    obtain ⟨hget, hlive⟩ := JsMap.lookup_eq_some.mp he
    refine Or.inl (JsMap.lookup_eq_some.mpr ⟨hget, ?_⟩)
    simp only [DedupEntry.isExpired, decide_eq_false_iff_not, Int.not_lt] at hlive ⊢
    exact Int.le_trans (Int.sub_le_sub_right (Int.le_add_of_nonneg_right (Int.natCast_nonneg elapsed)) _) hlive
  | connect => exact Or.inl (hold (Option.some.inj h ▸ .of_same rfl rfl))
  | frame c frame diskFails =>
    have ht : s.handleFrame G c frame diskFails = t := Option.some.inj h
    rcases handleFrame_cases (G := G) s c frame diskFails with
      ⟨u, code, correlationId, -, hq, -, hframe⟩ | ⟨hq, -⟩ | ⟨rec, command, hrouted⟩
    · rw [← ht, hframe] at he
      have hsent : Caches (fun _ => False) id u (u.sendError c code correlationId) :=
        sendError_caches u c code correlationId
      have hu := (hsent.cached he).resolve_right fun hnew => hnew.2
      exact Or.inl ((hq.cached id).symm.trans hu)
    · rw [ht] at hq
      exact Or.inl ((hq.cached id).symm.trans he)
    · have hq := arrived_quiet s c rec
      rw [← ht, handleFrame_routed hrouted, (conclude_quiet G c command.commandId _).cached] at he
      rcases (dispatch_caches G (s.arrived c rec) c rec command diskFails).cached he with he | ⟨rfl, hproduced⟩
      · exact Or.inl ((hq.cached id).symm.trans he)
      · exact Or.inr ⟨c, rec, command, hrouted, rfl, hproduced⟩
  | socketClosed c => exact Or.inl (hold (Option.some.inj h ▸ handleClose_caches s c))
  | authTimeout c | idleTimeout c =>
    dsimp only at h
    split at h
    · exact Or.inl (hold (Option.some.inj h ▸ close_caches s c _))
    · cases h
  | wsPong c => exact Or.inl (hold (Option.some.inj h ▸ .of_same rfl rfl))
  | reconnectWindow r p diskFails =>
    dsimp only at h
    split at h
    · cases h
    split at h
    · cases h
    split at h
    · split at h
      · cases h
      · exact Or.inl (hold (Option.some.inj h ▸ (fireReconnectWindow_apart s r _ p _ diskFails).caches))
    · cases h
  | rematchTimer r =>
    dsimp only at h
    split at h
    · split at h
      · cases h
      · split at h
        · exact Or.inl (hold (Option.some.inj h ▸ (applyEmitted_apart s r _).caches))
        · cases h
    · cases h
  | createRoom => exact Or.inl (hold (Option.some.inj h ▸ .of_same rfl rfl))
  | httpGetRoom r => exact Or.inl (hold (Option.some.inj h ▸ .of_same rfl rfl))
  | maintenance =>
    refine Or.inl (hold (Option.some.inj h ▸ .of_sub rfl fun id' entry hget => ?_))
    exact JsMap.get_of_get_purge hget

end Server
end TicTacToe

import TicTacToe.Theorems.Impersonation
import TicTacToe.Theorems.RosterAgreement

/-! # The life of a session

A session is live for seven days from its creation, whatever its player and all others do meanwhile: nothing ends it
before, and nothing prolongs it. -/

namespace TicTacToe
namespace Server
variable {s t u w : Server} {G : IdSource} {i : Input} {c : ConnectionId} {id : CommandId} {token : SessionToken}
  {p : PlayerId} {rec : ConnectionRecord} {created : Millis}

/-- The player of a live session and the time of its creation. -/
def bearer (s : Server) (token : SessionToken) : Option (PlayerId × Millis) :=
  (s.session token).map fun session => (session.playerId, session.createdAt)

/-- A session created at a time has not outlived its TTL. -/
def withinTtl (s : Server) (created : Millis) : Bool := s.now - created ≤ SESSION_TTL_MS

theorem bearer_eq_some : s.bearer token = some (p, created) ↔
    ∃ session, s.getSession token = some session ∧ session.playerId = p ∧ session.createdAt = created := by
  unfold bearer session
  rw [Option.map_map]
  constructor
  · intro h
    obtain ⟨session, hs, he⟩ := Option.map_eq_some_iff.mp h
    obtain ⟨hp, hc⟩ := Prod.mk.inj he
    exact ⟨session, hs, hp, hc⟩
  · rintro ⟨session, hs, rfl, rfl⟩
    rw [hs]
    rfl

theorem bearer_eq_none : s.bearer token = none ↔ s.getSession token = none := by
  unfold bearer session
  rw [Option.map_eq_none_iff, Option.map_eq_none_iff]

/-- The lookup tells what is stored, until it has expired. -/
theorem bearer_stored (s : Server) (token : SessionToken) : s.bearer token =
    ((s.sessions.sessions.get token).map fun session => (session.playerId, session.createdAt)).filter
      fun b => s.withinTtl b.2 := by
  unfold bearer session getSession SessionStore.getSession JsMap.lookup
  rw [Option.map_map]
  cases hget : s.sessions.sessions.get token with
  | none => rfl
  | some session =>
    have hexpired : session.isExpired s.now = !s.withinTtl session.createdAt := by
      rw [PlayerSession.isExpired, withinTtl, ← decide_not]
      exact decide_eq_decide.mpr Int.not_le.symm
    rw [Option.filter_some, hexpired, Option.map_some, Option.filter_some]
    cases s.withinTtl session.createdAt <;> rfl

/-- A live session is within its TTL. -/
theorem bearer_within (s : Server) (token : SessionToken) :
    (s.bearer token).filter (fun b => s.withinTtl b.2) = s.bearer token := by
  rw [bearer_stored, Option.filter_filter]
  simp only [Bool.and_self]

/-! ### One step -/

theorem SetRoom.bearer {x : Option RoomId} (h : SetRoom s t p x) (token : SessionToken) :
    t.bearer token = s.bearer token := by
  unfold Server.bearer
  rw [h token, Option.map_map]
  rfl

theorem bearer_of_session (h : t.session token = s.session token) : t.bearer token = s.bearer token := by
  rw [bearer, bearer, h]

/-- By an action of a room a session is created, or all live sessions keep their players and times. -/
theorem SessionStep.bearer {r : RoomId} {a : RoomAction} (h : SessionStep G s t r a) (token : SessionToken) :
    t.bearer token = s.bearer token ∨
      ∃ k, s.nextId ≤ k ∧ token = G.sessionToken k ∧ t.bearer token = some (G.playerId k, s.now) := by
  cases a with
  | entered p => exact Or.inl (h.2.bearer token)
  | reconnected p | left p => exact Or.inl (SetRoom.bearer h token)
  | windowFired p => exact Or.inl (h.1.bearer token)
  | disconnected p => exact Or.inl (bearer_of_session (h.2 token))
  | idle =>
    rcases h with hsame | ⟨p, r', -, -, hset⟩ | ⟨k, hlo, -, hnew⟩
    · exact Or.inl (bearer_of_session (hsame token))
    · exact Or.inl (hset.bearer token)
    · by_cases hk : G.sessionToken k = token
      · refine Or.inr ⟨k, hlo, hk.symm, ?_⟩
        rw [Server.bearer, hnew token, if_pos hk]
        rfl
      · exact Or.inl (bearer_of_session ((hnew token).trans (if_neg hk)))
  | _ => exact Or.inl (bearer_of_session (h token))

/-- A step creates a session or keeps what is within its TTL. -/
theorem step_bearer (hk : s.Keyed) (hn : G.NeverRepeats) (hi : s.Issuing G) (h : s.step G i = some t)
    (token : SessionToken) : t.bearer token = (s.bearer token).filter (fun b => t.withinTtl b.2) ∨
      ∃ k, s.nextId ≤ k ∧ token = G.sessionToken k ∧ t.bearer token = some (G.playerId k, s.now) := by
  rcases step_acts hk h with ⟨elapsed, -, rfl⟩ | ⟨r, a, hacts, -⟩
  · left
    have hsub : ∀ b : PlayerId × Millis,
        { s with now := s.now + elapsed }.withinTtl b.2 = true → s.withinTtl b.2 = true := by
      intro b
      simp only [withinTtl, decide_eq_true_eq]
      intro hle
      exact Int.le_trans (Int.sub_le_sub_right (Int.le_add_of_nonneg_right (Int.natCast_nonneg elapsed)) _) hle
    rw [bearer_stored, bearer_stored s, Option.filter_filter]
    refine congrArg (fun q => Option.filter q _) (funext fun b => ?_)
    exact (Bool.and_eq_right_iff_imp.mpr (hsub b)).symm
  · rcases (hacts.session hn hi).bearer token with hsame | hnew
    · left
      have hwithin : t.withinTtl = s.withinTtl := by
        funext created
        rw [withinTtl, withinTtl, hacts.now]
      rw [hsame, hwithin, bearer_within]
    · exact Or.inr hnew

/-! ### A run -/

/-- From its creation on a session is live within its TTL, and never again. -/
theorem runs_bearer {D : Server → Input → Prop} (hn : G.NeverRepeats) (hs : t.Seats G)
    (h : t.bearer token = some (p, created)) (hlater : Runs G D t u) :
    u.Seats G ∧ t.now ≤ u.now ∧ u.bearer token = (some (p, created)).filter fun b => u.withinTtl b.2 := by
  have hdrawn : ∃ k < t.nextId, token = G.sessionToken k := by
    obtain ⟨session, hsession, -, -⟩ := bearer_eq_some.mp h
    obtain ⟨-, k, hk, htoken, -⟩ := hs.issuing.session token session (JsMap.lookup_eq_some.mp hsession).1
    exact ⟨k, hk, htoken⟩
  suffices u.Seats G ∧ t.now ≤ u.now ∧ t.nextId ≤ u.nextId ∧
      u.bearer token = (some (p, created)).filter fun b => u.withinTtl b.2 from ⟨this.1, this.2.1, this.2.2.2⟩
  refine hlater.invariant (P := fun u => u.Seats G ∧ t.now ≤ u.now ∧ t.nextId ≤ u.nextId ∧
    u.bearer token = (some (p, created)).filter fun b => u.withinTtl b.2)
    ⟨hs, Int.le_refl _, Nat.le_refl _, ?_⟩ fun u w i ⟨hu, hnow, hid, hbearer⟩ _ hstep => ?_
  · rw [← h, bearer_within]
  have hpast := now_le_step hu.keyed hstep
  refine ⟨hu.step hn hstep, Int.le_trans hnow hpast, Nat.le_trans hid (nextId_le_step hu.keyed hstep), ?_⟩
  rcases step_bearer hu.keyed hn hu.issuing hstep token with hkept | ⟨k, hlo, htoken, -⟩
  · rw [hkept, hbearer, Option.filter_filter]
    refine congrArg (fun q => Option.filter q _) (funext fun b => Bool.and_eq_right_iff_imp.mpr ?_)
    simp only [withinTtl, decide_eq_true_eq]
    exact Int.le_trans (Int.sub_le_sub_right hpast _)
  · -- No token is drawn twice.
    obtain ⟨k', hk', htoken'⟩ := hdrawn
    have hsame := hn.sessionToken (htoken.symm.trans htoken')
    omega

/-- A session that a step has created is created at the time of the step. -/
theorem created_bearer {session : PlayerSession} (hk : s.Keyed) (hn : G.NeverRepeats) (hi : s.Issuing G)
    (h : s.step G i = some t) (hnew : s.getSession token = none) (hsession : t.getSession token = some session) :
    t.bearer token = some (session.playerId, s.now) := by
  have hbearer := bearer_eq_some.mpr ⟨session, hsession, rfl, rfl⟩
  rcases step_bearer hk hn hi h token with hkept | ⟨k, -, -, hcreated⟩
  · rw [bearer_eq_none.mpr hnew, hbearer] at hkept
    cases hkept
  · rw [hcreated] at hbearer ⊢
    obtain ⟨hp, -⟩ := Prod.mk.inj (Option.some.inj hbearer)
    rw [hp]

/-! ### What the bearer of the token is told -/

/-- The answer to an `AUTH` that presents a live session. -/
theorem handleAuth_live {session : PlayerSession} (hi : s.Issuing G) (hc : s.cached id = none) (htoken : token ≠ "")
    (hs : s.getSession token = some session) : ∃ existing, (s.handleAuth G c id (some token)).deliveries =
      [.connection c (.event (makeAuthAck token session.playerId s.serverVersion existing id))] := by
  obtain ⟨rfl, -⟩ := hi.session token session (JsMap.lookup_eq_some.mp hs).1
  have hguest : (some session.sessionToken).filter (fun token => decide (token ≠ "")) = some session.sessionToken := by
    rw [Option.filter_some, if_pos (decide_eq_true htoken)]
  have hs' : (s.afterLookup id).getSession session.sessionToken = some session := hs
  unfold handleAuth
  rcases unlessCached_cases s id (resend c) _ with ⟨entry, hentry, -⟩ | ⟨-, he⟩
  · rw [hc] at hentry
    cases hentry
  · rw [he]
    simp only [hguest, hs']
    exact ⟨_, rfl⟩

/-- The answer to an `AUTH` whose session is gone. -/
theorem handleAuth_stale (hc : s.cached id = none) (htoken : token ≠ "") (hs : s.getSession token = none) :
    (s.handleAuth G c id (some token)).deliveries = [.connection c (.event (makeErrorEvent .AUTH_FAILED
      (ERROR_META .AUTH_FAILED).summary (ERROR_META .AUTH_FAILED).recoverable (some id) none))] := by
  have hguest : (some token).filter (fun token => decide (token ≠ "")) = some token := by
    rw [Option.filter_some, if_pos (decide_eq_true htoken)]
  have hs' : (s.afterLookup id).getSession token = none := hs
  unfold handleAuth
  rcases unlessCached_cases s id (resend c) _ with ⟨entry, hentry, -⟩ | ⟨-, he⟩
  · rw [hc] at hentry
    cases hentry
  · rw [he]
    simp only [hguest, hs']
    rfl

/-- An `AUTH` is answered on its connection, and nothing else is written. -/
theorem Routed.auth_wire {frame : RawFrame} {diskFails : Bool} {guestToken : Option SessionToken} {e : WireEvent}
    (h : s.Routed (.frame c frame diskFails) c rec ⟨id, .auth guestToken⟩)
    (hds : ((s.arrived c rec).handleAuth G c id guestToken).deliveries = [.connection c e]) :
    (s.handleFrame G c frame diskFails).wire = s.wire ++ [(c, e)] := by
  obtain ⟨hwire, hfine, -⟩ := handleAuth_tells G (s.arrived c rec) c id guestToken
  have hlink : Relinked ((s.arrived c rec).handleAuth G c id guestToken)
      ((s.arrived c rec).dispatch G c rec ⟨id, .auth guestToken⟩ diskFails) := bindConnection_relinked c _
  obtain ⟨connections, registry, hserver, hhas⟩ := hlink.server
  have hopen : connections.has c = true := by
    rw [hhas c, (handleAuth_confined G (s.arrived c rec) c id guestToken).connections]
    exact h.arrived_open
  rw [handleFrame_routed h, conclude_wire (hlink.threw.trans hfine), hlink.deliveries, hds, hserver]
  simp only [List.flatMap_cons, List.flatMap_nil, List.append_nil, delivered, hopen, ↓reduceIte, hwire, arrived_wire]

/-- The closing of a connection by an error. -/
theorem sendError_closing {code : ErrorCode} (hcloses : (ERROR_META code).closesConnection = true)
    (hopen : s.connections.has c = true) (correlationId : Option CommandId) :
    (s.sendError c code correlationId).wire = s.wire ++ [(c, .event (makeErrorEvent code (ERROR_META code).summary
      (ERROR_META code).recoverable correlationId none))] ∧
    (s.sendError c code correlationId).connections.get c = none := by
  rw [sendError, if_pos hcloses]
  refine ⟨?_, JsMap.get_delete_self _ _⟩
  rw [close, send, if_pos hopen]
  rfl

/-- A command on a connection whose session is gone. -/
theorem handleFrame_expired {frame : RawFrame} {command : Command} (hsize : frame.byteLength ≤ MAX_FRAME_BYTES)
    (hrate : (s.touchConnection c).withinRateLimit c = true) (hparse : frame.parseResult = .ok command)
    (hrec : s.connections.get c = some rec) (hauth : rec.authenticated = true) (htoken : rec.sessionToken = some token)
    (hs : s.getSession token = none) (diskFails : Bool) :
    (s.handleFrame G c frame diskFails).wire = s.wire ++ [(c, .event (makeErrorEvent .SESSION_EXPIRED
      (ERROR_META .SESSION_EXPIRED).summary (ERROR_META .SESSION_EXPIRED).recoverable (some command.commandId) none))] ∧
    (s.handleFrame G c frame diskFails).connections.get c = none := by
  obtain ⟨rec', hrec', hid⟩ := connection_counted hrec
  have hauth' : rec'.authenticated = true := (congrArg (fun x => x.2.2) hid).trans hauth
  have htoken' : rec'.sessionToken = some token := (congrArg (fun x => x.1) hid).trans htoken
  have hs' : ((s.touchConnection c).countFrame c).getSession token = none := hs
  have hframe : s.handleFrame G c frame diskFails = (((s.touchConnection c).countFrame c).afterGetSession token).sendError c
      .SESSION_EXPIRED (some command.commandId) := by
    rw [handleFrame, if_neg (Nat.not_lt.mpr hsize)]
    simp only [hrate, Bool.not_true, Bool.false_eq_true, ↓reduceIte, hparse, handleCommand, hrec', hauth', htoken', hs',
      Option.isNone_none, Bool.false_and]
  rw [hframe]
  have hopen : (((s.touchConnection c).countFrame c).afterGetSession token).connections.has c = true :=
    Option.isSome_of_eq_some hrec'
  exact sendError_closing rfl hopen _

end Server

open Server

/-- A session can be used for seven days after its creation, and then no more. Within that time an `AUTH` that presents its
token is answered with the same player, and every command on a connection of the session gets to its handler. Afterwards
the `AUTH` fails, and the command closes the connection with `SESSION_EXPIRED`. -/
theorem session_lasts_seven_days {G : IdSource} (hn : G.NeverRepeats) {C D : Server → Input → Prop} {now : Millis}
    {version : String} {repository : HistoryRepository} {s t u : Server} {i : Input} {token : SessionToken}
    {session : PlayerSession} (hrun : Runs G C (start now version repository) s) (hstep : s.step G i = some t)
    (hnew : s.getSession token = none) (hsession : t.getSession token = some session) (hlater : Runs G D t u) :
    (∀ c rec id frame diskFails, u.Routed (.frame c frame diskFails) c rec ⟨id, .auth (some token)⟩ → token ≠ "" →
      u.cached id = none →
      (u.now - s.now ≤ SESSION_TTL_MS → ∃ existing, (u.handleFrame G c frame diskFails).wire =
        u.wire ++ [(c, .event (makeAuthAck token session.playerId u.serverVersion existing id))]) ∧
      (SESSION_TTL_MS < u.now - s.now → (u.handleFrame G c frame diskFails).wire =
        u.wire ++ [(c, .event (makeErrorEvent .AUTH_FAILED (ERROR_META .AUTH_FAILED).summary
          (ERROR_META .AUTH_FAILED).recoverable (some id) none))])) ∧
    ∀ c rec command frame diskFails, u.connections.get c = some rec → rec.authenticated = true →
      rec.sessionToken = some token → frame.byteLength ≤ MAX_FRAME_BYTES →
      (u.touchConnection c).withinRateLimit c = true → frame.parseResult = .ok command →
      (u.now - s.now ≤ SESSION_TTL_MS → u.Routed (.frame c frame diskFails) c rec command) ∧
      (SESSION_TTL_MS < u.now - s.now → (u.handleFrame G c frame diskFails).connections.get c = none ∧
        (u.handleFrame G c frame diskFails).wire =
          u.wire ++ [(c, .event (makeErrorEvent .SESSION_EXPIRED (ERROR_META .SESSION_EXPIRED).summary
            (ERROR_META .SESSION_EXPIRED).recoverable (some command.commandId) none))]) := by
  have hs := runs_seats hn hrun
  have hcreated := created_bearer hs.keyed hn hs.issuing hstep hnew hsession
  obtain ⟨hu, -, hbearer⟩ := runs_bearer hn (hs.step hn hstep) hcreated hlater
  have hlive : u.now - s.now ≤ SESSION_TTL_MS →
      ∃ found, u.getSession token = some found ∧ found.playerId = session.playerId := by
    intro hle
    have hwithin : u.bearer token = some (session.playerId, s.now) := by
      have hin : u.withinTtl s.now = true := decide_eq_true hle
      rw [hbearer, Option.filter_some, if_pos hin]
    obtain ⟨found, hfound, hp, -⟩ := bearer_eq_some.mp hwithin
    exact ⟨found, hfound, hp⟩
  have hgone : SESSION_TTL_MS < u.now - s.now → u.getSession token = none := by
    intro hlt
    refine bearer_eq_none.mp (hbearer.trans ?_)
    have hout : ¬u.withinTtl s.now = true := fun hin => Int.not_le.mpr hlt (of_decide_eq_true hin)
    rw [Option.filter_some, if_neg hout]
  refine ⟨fun c rec id frame diskFails hrouted htoken hc => ⟨fun hle => ?_, fun hlt => ?_⟩,
    fun c rec command frame diskFails hrec hauth hbound hsize hrate hparse => ⟨fun hle => ?_, fun hlt => ?_⟩⟩
  · obtain ⟨found, hfound, hp⟩ := hlive hle
    have hq := arrived_quiet u c rec
    obtain ⟨arrived, harrived, hp', -⟩ := hq.session_to_some hfound
    obtain ⟨existing, hds⟩ :=
      handleAuth_live (G := G) (c := c) (hq.issued G hu.issuing) ((hq.cached id).trans hc) htoken harrived
    have hversion : (u.arrived c rec).serverVersion = u.serverVersion := by
      obtain ⟨connections, sessions, h, -⟩ := arrived_frame u c rec
      rw [h]
    rw [hp', hp, hversion] at hds
    exact ⟨existing, hrouted.auth_wire hds⟩
  · have hq := arrived_quiet u c rec
    have hnone : (u.arrived c rec).getSession token = none := by
      have hsame := hq.session token
      rw [Server.session, Server.session, hgone hlt] at hsame
      exact Option.map_eq_none_iff.mp hsame
    exact hrouted.auth_wire (handleAuth_stale ((hq.cached id).trans hc) htoken hnone)
  · obtain ⟨found, hfound, -⟩ := hlive hle
    refine ⟨⟨frame, diskFails, rfl, hsize, hparse⟩, hrate, hrec, Or.inl hauth, fun token' _ htoken' => ?_⟩
    obtain rfl := Option.some.inj (hbound.symm.trans htoken')
    exact Option.isSome_of_eq_some hfound
  · obtain ⟨hwire, hclosed⟩ := handleFrame_expired (G := G) hsize hrate hparse hrec hauth hbound (hgone hlt) diskFails
    exact ⟨hclosed, hwire⟩

/-- The frame of an `AUTH` with the token of session 1. -/
def presenting (id : CommandId) : RawFrame := ⟨100, .ok ⟨id, .auth (some (tally 't' 1))⟩⟩

/-- Session 1 is taken up again on the seventh day, and refused a millisecond later. -/
theorem session_lasts_seven_days_resumed : ∃ u v existing, Runs tallies (fun _ _ => True) fresh u ∧ u.now = SESSION_TTL_MS ∧
    (u.handleFrame tallies (tally 'c' 2) (presenting "again") false).wire = u.wire ++
      [(tally 'c' 2, .event (makeAuthAck (tally 't' 1) (tally 'p' 1) u.serverVersion existing "again"))] ∧
    Runs tallies (fun _ _ => True) fresh v ∧ v.now = SESSION_TTL_MS + 1 ∧
    (v.handleFrame tallies (tally 'c' 2) (presenting "again") false).wire = v.wire ++
      [(tally 'c' 2, .event (makeErrorEvent .AUTH_FAILED (ERROR_META .AUTH_FAILED).summary
        (ERROR_META .AUTH_FAILED).recoverable (some "again") none))] := by
  let s := fresh.register tallies
  let t := s.handleFrame tallies (tally 'c' 0) ⟨100, .ok ⟨"auth1", .auth none⟩⟩ false
  let u := ({ t with now := t.now + (604800000 : Nat) } : Server).register tallies
  let v := ({ t with now := t.now + (604800001 : Nat) } : Server).register tallies
  have hs : Runs tallies (fun _ _ => True) fresh s := .tail (i := .connect) .refl trivial rfl
  have ht : s.step tallies (.frame (tally 'c' 0) ⟨100, .ok ⟨"auth1", .auth none⟩⟩ false) = some t := rfl
  have hst : Runs tallies (fun _ _ => True) fresh t := hs.tail trivial ht
  have hu : Runs tallies (fun _ _ => True) t u :=
    .tail (i := .connect) (.tail (i := .tick 604800000) .refl trivial rfl) trivial rfl
  have hv : Runs tallies (fun _ _ => True) t v :=
    .tail (i := .connect) (.tail (i := .tick 604800001) .refl trivial rfl) trivial rfl
  have hsession : ∃ session, t.getSession (tally 't' 1) = some session ∧ session.playerId = tally 'p' 1 := ⟨_, rfl, rfl⟩
  obtain ⟨session, hsession, hp⟩ := hsession
  have hfresh : isAuthExempt (.auth (some (tally 't' 1))) = true := rfl
  have hu' : u.Routed (.frame (tally 'c' 2) (presenting "again") false) (tally 'c' 2) (newConnection u.now)
      ⟨"again", .auth (some (tally 't' 1))⟩ :=
    ⟨⟨_, _, rfl, by decide, rfl⟩, by decide +kernel, by decide +kernel, Or.inr hfresh, fun _ hauth => by cases hauth⟩
  have hv' : v.Routed (.frame (tally 'c' 2) (presenting "again") false) (tally 'c' 2) (newConnection v.now)
      ⟨"again", .auth (some (tally 't' 1))⟩ :=
    ⟨⟨_, _, rfl, by decide, rfl⟩, by decide +kernel, by decide +kernel, Or.inr hfresh, fun _ hauth => by cases hauth⟩
  obtain ⟨husable, -⟩ := session_lasts_seven_days tallies_neverRepeats hs ht rfl hsession hu
  obtain ⟨hrefused, -⟩ := session_lasts_seven_days tallies_neverRepeats hs ht rfl hsession hv
  obtain ⟨existing, hresumed⟩ := (husable _ _ _ _ _ hu' (by decide) rfl).1 (by decide +kernel)
  have hover := (hrefused _ _ _ _ _ hv' (by decide) rfl).2 (by decide +kernel)
  rw [hp] at hresumed
  exact ⟨u, v, existing, hst.trans hu, rfl, hresumed, hst.trans hv, rfl, hover⟩

end TicTacToe

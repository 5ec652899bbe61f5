import TicTacToe.Theorems.RoomStep
import TicTacToe.Theorems.Quiet

/-! # Handlers drive the room machine

Every handler and timer is a step of the room machine for one room; the view of every other room stays as it
is. -/

namespace TicTacToe
namespace Server
variable {s t u : Server} {r r' : RoomId} {G : IdSource} {a : RoomAction} {p : PlayerId}

/-- The server's state about room `r`. -/
def view (s : Server) (r : RoomId) : RoomView :=
  ⟨s.rooms.object r, s.gameSessions.get r, s.historyRepository.loadCompletedGames r⟩

/-- Every game session is stored under its room's id. -/
def Keyed (s : Server) : Prop := ∀ r gs, s.gameSessions.get r = some gs → gs.roomId = r

/-! ### What a step does to the stores -/

/-- The stores lose nothing that is valid, and every id in them stays issued. -/
structure Frame (G : IdSource) (s t : Server) : Prop where
  now : t.now = s.now
  nextId : s.nextId ≤ t.nextId
  cached : ∀ commandId entry, s.cached commandId = some entry → t.cached commandId = some entry
  issued : s.Issuing G → t.Issuing G

/-- The sessions of `p` are associated with `x`; all others are unchanged. -/
def SetRoom (s t : Server) (p : PlayerId) (x : Option RoomId) : Prop :=
  ∀ token, t.session token =
    (s.session token).map fun session => { session with roomId := if session.playerId = p then x else session.roomId }

/-- `p` has a valid session with the room association `x`. -/
def HasSession (s : Server) (p : PlayerId) (x : Option RoomId) : Prop :=
  ∃ token session, s.session token = some session ∧ session.playerId = p ∧ session.roomId = x

/-- What action `a` in room `r` does to the sessions. -/
def SessionStep (G : IdSource) (s t : Server) (r : RoomId) : RoomAction → Prop
  | .entered p => (s.HasSession p none ∨ s.HasSession p (some r)) ∧ SetRoom s t p (some r)
  | .reconnected p => SetRoom s t p (some r)
  | .left p => SetRoom s t p none
  | .windowFired p =>
    SetRoom s t p none ∧
      ∀ room', t.getRoom r = some room' → ∃ room, s.getRoom r = some room ∧ room' = room.removePlayer s.now p
  | .disconnected p => s.HasSession p (some r) ∧ ∀ token, t.session token = s.session token
  | .idle =>
    (∀ token, t.session token = s.session token) ∨
    (∃ p r', s.HasSession p (some r') ∧ (∀ room, s.getRoom r' = some room → getSymbolForPlayer room p = none) ∧
      SetRoom s t p none) ∨
    ∃ k, s.nextId ≤ k ∧ k < t.nextId ∧ ∀ token, t.session token =
      if G.sessionToken k = token then some (SessionStore.newSession s.now token (G.playerId k)).forgetSeen
      else s.session token
  | _ => ∀ token, t.session token = s.session token

/-- No room's state and no session changes. -/
structure Still (G : IdSource) (s t : Server) : Prop extends Frame G s t where
  view : ∀ r, t.view r = s.view r
  getRoom : ∀ r, t.getRoom r = s.getRoom r
  sendLog : t.sendLog = s.sendLog
  session : ∀ token, t.session token = s.session token

/-- Room `r` takes a step of the room machine, and no other room's state changes. -/
structure Acts (G : IdSource) (s t : Server) (r : RoomId) (a : RoomAction) : Prop extends Frame G s t where
  other : ∀ r', r' ≠ r → t.view r' = s.view r'
  step : ∃ sends, RoomStep G s.now r s.nextId t.nextId (s.view r) a sends (t.view r) ∧
    t.sendLog = s.sendLog ++ sends.map (r, ·)
  alive : ∀ r', r' = r ∧ a = .created ∨ (t.getRoom r').isSome = (s.getRoom r').isSome
  onLive : a.onLive = true → (s.getRoom r).isSome
  session : G.NeverRepeats → s.Issuing G → SessionStep G s t r a

theorem Frame.refl (s : Server) : Frame G s s := ⟨rfl, Nat.le_refl _, fun _ _ => id, id⟩

theorem Frame.trans (h₁ : Frame G s t) (h₂ : Frame G t u) : Frame G s u :=
  ⟨h₂.now.trans h₁.now, h₁.nextId.trans h₂.nextId, fun _ _ he => h₂.cached _ _ (h₁.cached _ _ he), h₂.issued ∘ h₁.issued⟩

theorem Still.refl (s : Server) : Still G s s := ⟨.refl s, fun _ => rfl, fun _ => rfl, rfl, fun _ => rfl⟩

theorem Still.trans (h₁ : Still G s t) (h₂ : Still G t u) : Still G s u where
  toFrame := h₁.toFrame.trans h₂.toFrame
  view r := (h₂.view r).trans (h₁.view r)
  getRoom r := (h₂.getRoom r).trans (h₁.getRoom r)
  sendLog := h₂.sendLog.trans h₁.sendLog
  session token := (h₂.session token).trans (h₁.session token)

theorem Quiet.view (h : Quiet s t) (r : RoomId) : t.view r = s.view r := by
  simp only [Server.view, h.object, h.gameSessions, h.historyRepository]

theorem Quiet.still (h : Quiet s t) : Still G s t :=
  ⟨⟨h.now, h.nextId, fun id _ he => (h.cached id).trans he, h.issued G⟩, h.view, h.getRoom, h.sendLog, h.session⟩

theorem Refuses.still {c : ConnectionId} {commandId : CommandId} {result : HandlerResult}
    (h : Refuses s c commandId result) : Still G s result.server := by
  obtain ⟨t, code, hq, -, rfl⟩ := h
  exact hq.still

/-- A room's action without sessions involved leaves them as they are; `idle` may do so. -/
theorem Still.sessionStep (h : Still G s t) : SessionStep G s t r .idle := Or.inl h.session

theorem Still.acts (h : Still G s t) (r : RoomId) : Acts G s t r .idle where
  toFrame := h.toFrame
  other r' _ := h.view r'
  step := ⟨[], h.view r ▸ .idle, by simp [h.sendLog]⟩
  alive r' := Or.inr (by rw [h.getRoom])
  onLive := by simp [RoomAction.onLive]
  session _ _ := h.sessionStep

theorem SetRoom.trans_left {x : Option RoomId} (h₁ : ∀ token, t.session token = s.session token) (h₂ : SetRoom t u p x) :
    SetRoom s u p x := fun token => (h₂ token).trans (by rw [h₁ token])

theorem SetRoom.trans_right {x : Option RoomId} (h₁ : SetRoom s t p x) (h₂ : ∀ token, u.session token = t.session token) :
    SetRoom s u p x := fun token => (h₂ token).trans (h₁ token)

theorem HasSession.of_same {x : Option RoomId} (h₁ : ∀ token, t.session token = s.session token)
    (h : t.HasSession p x) : s.HasSession p x := by
  obtain ⟨token, session, hs, hx⟩ := h
  exact ⟨token, session, (h₁ token).symm.trans hs, hx⟩

theorem SessionStep.trans_left (h₁ : Still G s t) (h₂ : SessionStep G t u r a) : SessionStep G s u r a := by
  have hsame := h₁.session
  cases a with
  | entered p => exact ⟨h₂.1.imp (.of_same hsame) (.of_same hsame), h₂.2.trans_left hsame⟩
  | reconnected p => exact SetRoom.trans_left hsame h₂
  | left p => exact SetRoom.trans_left hsame h₂
  | windowFired p =>
    refine ⟨h₂.1.trans_left hsame, fun room' hroom' => ?_⟩
    obtain ⟨room, hroom, he⟩ := h₂.2 room' hroom'
    exact ⟨room, (h₁.getRoom r).symm.trans hroom, h₁.now ▸ he⟩
  | disconnected p => exact ⟨h₂.1.of_same hsame, fun token => (h₂.2 token).trans (hsame token)⟩
  | idle =>
    rcases h₂ with h | ⟨p, r', hs, hlost, h⟩ | ⟨k, hlo, hhi, h⟩
    · exact Or.inl fun token => (h token).trans (hsame token)
    · exact Or.inr (Or.inl ⟨p, r', hs.of_same hsame, fun room hroom => hlost room ((h₁.getRoom r').trans hroom),
        h.trans_left hsame⟩)
    · exact Or.inr (Or.inr ⟨k, h₁.nextId.trans hlo, hhi, fun token => by rw [h token, hsame token, h₁.now]⟩)
  | _ => exact fun token => (h₂ token).trans (hsame token)

theorem SessionStep.trans_right (h₁ : SessionStep G s t r a) (hid : t.nextId ≤ u.nextId)
    (hroom : ∀ r, u.getRoom r = t.getRoom r) (hsame : ∀ token, u.session token = t.session token) :
    SessionStep G s u r a := by
  cases a with
  | entered p => exact ⟨h₁.1, h₁.2.trans_right hsame⟩
  | reconnected p => exact SetRoom.trans_right h₁ hsame
  | left p => exact SetRoom.trans_right h₁ hsame
  | windowFired p => exact ⟨h₁.1.trans_right hsame, fun room' hroom' => h₁.2 room' ((hroom r).symm.trans hroom')⟩
  | disconnected p => exact ⟨h₁.1, fun token => (hsame token).trans (h₁.2 token)⟩
  | idle =>
    rcases h₁ with h | ⟨p, r', hs, hlost, h⟩ | ⟨k, hlo, hhi, h⟩
    · exact Or.inl fun token => (hsame token).trans (h token)
    · exact Or.inr (Or.inl ⟨p, r', hs, hlost, h.trans_right hsame⟩)
    · exact Or.inr (Or.inr ⟨k, hlo, Nat.lt_of_lt_of_le hhi hid, fun token => (hsame token).trans (h token)⟩)
  | _ => exact fun token => (hsame token).trans (h₁ token)

theorem Still.trans_acts (h₁ : Still G s t) (h₂ : Acts G t u r a) : Acts G s u r a where
  toFrame := h₁.toFrame.trans h₂.toFrame
  other r' hr := (h₂.other r' hr).trans (h₁.view r')
  step := by
    obtain ⟨sends, hstep, hlog⟩ := h₂.step
    refine ⟨sends, ?_, by rw [hlog, h₁.sendLog]⟩
    rw [← h₁.view r, ← h₁.now]
    exact hstep.mono h₁.nextId (Nat.le_refl _)
  alive r' := (h₂.alive r').imp id fun h => by rw [h, h₁.getRoom]
  onLive ha := h₁.getRoom r ▸ h₂.onLive ha
  session hn hi := .trans_left h₁ (h₂.session hn (h₁.issued hi))

theorem Acts.trans_still (h₁ : Acts G s t r a) (h₂ : Still G t u) : Acts G s u r a where
  toFrame := h₁.toFrame.trans h₂.toFrame
  other r' hr := (h₂.view r').trans (h₁.other r' hr)
  step := by
    obtain ⟨sends, hstep, hlog⟩ := h₁.step
    refine ⟨sends, ?_, by rw [h₂.sendLog, hlog]⟩
    rw [h₂.view r]
    exact hstep.mono (Nat.le_refl _) h₂.nextId
  alive r' := (h₁.alive r').imp id fun h => by rw [h₂.getRoom, h]
  onLive := h₁.onLive
  session hn hi := .trans_right (h₁.session hn hi) h₂.nextId h₂.getRoom h₂.session

/-! ### Recording a response -/

/-- A command that has not been answered before gets its dedup entry. -/
theorem Frame.record {commandId : CommandId} {e : WireEvent} (h : Frame G s t) (hc : s.cached commandId = none)
    (he : ∀ token p, e.acknowledged = some (token, p) → s.Issuing G → G.Issued t.nextId token p) :
    Frame G s (t.recordCommand commandId e) where
  now := h.now
  nextId := h.nextId
  cached id entry hid := by
    have hne : commandId ≠ id := fun heq => by simp [← heq, hc] at hid
    have hlookup : (t.recordCommand commandId e).cached id = t.cached id := by
      simp only [Server.cached, recordCommand, SessionStore.recordCommand, SessionStore.getCachedEntry, JsMap.lookup,
        JsMap.get_set_of_ne _ _ hne]
    exact hlookup.trans (h.cached id entry hid)
  issued hi := by
    refine ⟨(h.issued hi).session, fun id entry token p hid hack => ?_⟩
    simp only [recordCommand, SessionStore.recordCommand, JsMap.get_set] at hid
    split at hid
    · obtain rfl := Option.some.inj hid
      exact he token p hack hi
    · exact (h.issued hi).ack id entry token p hid hack

theorem Still.record {commandId : CommandId} {e : WireEvent} (h : Still G s t) (hc : s.cached commandId = none)
    (he : e.acknowledged = none) : Still G s (t.recordCommand commandId e) :=
  ⟨h.toFrame.record hc fun _ _ hack => by simp [he] at hack, h.view, h.getRoom, h.sendLog, h.session⟩

theorem Acts.record {commandId : CommandId} {e : WireEvent} (h : Acts G s t r a) (hc : s.cached commandId = none)
    (he : ∀ token p, e.acknowledged = some (token, p) → s.Issuing G → G.Issued t.nextId token p) :
    Acts G s (t.recordCommand commandId e) r a :=
  ⟨h.toFrame.record hc he, h.other, h.step, h.alive, h.onLive, fun hn hi => (h.session hn hi).trans_right (Nat.le_refl _)
    (fun _ => rfl) fun _ => rfl⟩

/-! ### Operations on the stores -/

theorem Frame.of_sessions (hnow : t.now = s.now) (hid : s.nextId ≤ t.nextId) (hs : t.sessions = s.sessions) :
    Frame G s t :=
  ⟨hnow, hid, fun id _ he => by rwa [show t.cached id = s.cached id by simp only [Server.cached, hs, hnow]],
    fun hi => hi.of_same hid hs⟩

theorem session_of_sessions (hnow : t.now = s.now) (hs : t.sessions = s.sessions) (token : SessionToken) :
    t.session token = s.session token := by
  simp only [Server.session, getSession, hs, hnow]

theorem cached_of_sessions (hnow : t.now = s.now) (hs : t.sessions = s.sessions) (commandId : CommandId) :
    t.cached commandId = s.cached commandId := by
  simp only [Server.cached, hs, hnow]

theorem Frame.of_setRoom {token : SessionToken} {x : Option RoomId} (hnow : t.now = s.now) (hid : s.nextId ≤ t.nextId)
    (hs : t.sessions = s.sessions.setRoom token x) : Frame G s t where
  now := hnow
  nextId := hid
  cached id _ he := by rwa [show t.cached id = s.cached id by simp only [Server.cached, hs, hnow]; rfl]
  issued hi := by
    refine hi.of_sub hid (fun token' session hsession => ?_) fun _ _ he => by rwa [hs] at he
    rw [hs, SessionStore.setRoom, JsMap.get_modify] at hsession
    split at hsession
    · obtain ⟨session₀, h₀, rfl⟩ := Option.map_eq_some_iff.mp hsession
      exact ⟨session₀, h₀, rfl, rfl⟩
    · exact ⟨session, hsession, rfl, rfl⟩

/-- A player has one session. -/
theorem Issuing.token_unique {token₁ token₂ : SessionToken} {session₁ session₂ : PlayerSession} (hi : s.Issuing G)
    (hn : G.NeverRepeats) (h₁ : s.sessions.sessions.get token₁ = some session₁)
    (h₂ : s.sessions.sessions.get token₂ = some session₂) (hp : session₁.playerId = session₂.playerId) :
    token₁ = token₂ := by
  obtain ⟨-, k₁, -, rfl, hp₁⟩ := hi.session _ _ h₁
  obtain ⟨-, k₂, -, rfl, hp₂⟩ := hi.session _ _ h₂
  rw [hn.playerId (hp₁.symm.trans (hp.trans hp₂))]

/-- The session of an issued token belongs to the player that the token was issued with. -/
theorem Issuing.player {token : SessionToken} {session : PlayerSession} {n : Nat} (hi : s.Issuing G) (hn : G.NeverRepeats)
    (hissued : G.Issued n token p) (h : s.getSession token = some session) : session.playerId = p := by
  obtain ⟨k, -, htoken, rfl⟩ := hissued
  obtain ⟨-, k', -, htoken', hp⟩ := hi.session token session (JsMap.lookup_eq_some.mp h).1
  obtain rfl := hn.sessionToken (htoken.symm.trans htoken')
  exact hp

theorem SetRoom.of_setRoom {token : SessionToken} {session : PlayerSession} {x : Option RoomId} (hn : G.NeverRepeats)
    (hi : s.Issuing G) (hsession : s.sessions.sessions.get token = some session) (hnow : t.now = s.now)
    (hs : t.sessions = s.sessions.setRoom token x) : SetRoom s t session.playerId x := by
  intro token'
  simp only [Server.session, getSession, hs, hnow, SessionStore.getSession, SessionStore.setRoom, JsMap.lookup,
    JsMap.get_modify]
  cases hget : s.sessions.sessions.get token' with
  | none => simp
  | some session' =>
    by_cases ht : token = token'
    · subst ht
      obtain rfl := Option.some.inj (hget.symm.trans hsession)
      cases hx : session'.isExpired s.now <;>
        simp [PlayerSession.isExpired, Option.filter, PlayerSession.forgetSeen] at hx ⊢
    · have hp : session'.playerId ≠ session.playerId := fun hp => ht (hi.token_unique hn hsession hget hp.symm)
      cases hx : session'.isExpired s.now <;> simp [ht, hx, Option.filter, PlayerSession.forgetSeen, hp]

/-! ### Liveness -/

/-- The same rooms are live. -/
def SameLive (s t : Server) : Prop := ∀ r, (t.getRoom r).isSome = (s.getRoom r).isSome

theorem SameLive.trans (h₁ : SameLive s t) (h₂ : SameLive t u) : SameLive s u := fun r => (h₂ r).trans (h₁ r)

theorem getRoom_putRoom (s : Server) (r r' : RoomId) (room : RoomRecord) : (s.putRoom r room).getRoom r' =
    if r = r' then if room.isExpired s.now then none else some room else s.getRoom r' := by
  simp only [getRoom, putRoom, RoomStore.getRoom, RoomStore.put, JsMap.lookup, JsMap.get_set]
  split
  · cases hx : room.isExpired s.now <;> simp [Option.filter, hx]
  · rfl

theorem putRoom_live {room room' : RoomRecord} (hroom : s.getRoom r = some room) (hlive : room'.isExpired s.now = false) :
    SameLive s (s.putRoom r room') := by
  intro r'
  rw [getRoom_putRoom]
  split
  · rename_i hr
    subst hr
    simp [hlive, hroom]
  · rfl

theorem getRoom_sendAll (s : Server) (r r' : RoomId) (calls : List SendCall) :
    (s.sendAll r calls).getRoom r' = s.getRoom r' := by
  obtain ⟨rooms, w, hw, hrooms⟩ := sendAll_frame s r calls
  rw [hw]
  rcases hrooms with rfl | rfl
  · rfl
  · exact RoomStore.getRoom_afterGetRoom

theorem getRoom_applyEmitted (s : Server) (r r' : RoomId) (e : Emitted) :
    (s.applyEmitted r e).getRoom r' = s.getRoom r' := getRoom_sendAll _ r r' e.sends

theorem getRoom_applyEffect (s : Server) (r r' : RoomId) (e : GameEffect) :
    (s.applyEffect r e).getRoom r' = s.getRoom r' := getRoom_sendAll _ r r' e.sends

theorem getRoom_ensureGameSession (s : Server) (r r' : RoomId) :
    (s.ensureGameSession r).getRoom r' = s.getRoom r' := by
  unfold ensureGameSession
  split <;> rfl

/-- The parts of a step of the room machine that leaves the sessions as they are. -/
theorem Acts.of_view {v' : RoomView} {sends : List SendCall} (hnow : t.now = s.now) (hid : s.nextId ≤ t.nextId)
    (hs : t.sessions = s.sessions) (hstep : RoomStep G s.now r s.nextId t.nextId (s.view r) a sends v')
    (hview : ∀ r', t.view r' = if r = r' then v' else s.view r') (hlog : t.sendLog = s.sendLog ++ sends.map (r, ·))
    (hlive : SameLive s t) (ha : (∀ token, t.session token = s.session token) → SessionStep G s t r a)
    (hon : a.onLive = true → (s.getRoom r).isSome) :
    Acts G s t r a where
  toFrame := .of_sessions hnow hid hs
  other r' hr := (hview r').trans (if_neg (Ne.symm hr))
  step := ⟨sends, (hview r).trans (if_pos rfl) ▸ hstep, hlog⟩
  alive r' := Or.inr (hlive r')
  onLive := hon
  session _ _ := ha (session_of_sessions hnow hs)

/-- The same for a step that associates the session of `token` with `x`. -/
theorem Acts.of_setRoom {v' : RoomView} {sends : List SendCall} {token : SessionToken} {session : PlayerSession}
    {x : Option RoomId} (hnow : t.now = s.now) (hid : s.nextId ≤ t.nextId)
    (hsession : s.sessions.sessions.get token = some session) (hs : t.sessions = s.sessions.setRoom token x)
    (hstep : RoomStep G s.now r s.nextId t.nextId (s.view r) a sends v')
    (hview : ∀ r', t.view r' = if r = r' then v' else s.view r') (hlog : t.sendLog = s.sendLog ++ sends.map (r, ·))
    (hlive : SameLive s t) (ha : SetRoom s t session.playerId x → SessionStep G s t r a)
    (hon : a.onLive = true → (s.getRoom r).isSome) : Acts G s t r a where
  toFrame := .of_setRoom hnow hid hs
  other r' hr := (hview r').trans (if_neg (Ne.symm hr))
  step := ⟨sends, (hview r).trans (if_pos rfl) ▸ hstep, hlog⟩
  alive r' := Or.inr (hlive r')
  onLive := hon
  session hn hi := ha (.of_setRoom hn hi hsession hnow hs)

/-! ### Views after the primitive operations -/

theorem view_putRoom (s : Server) (r r' : RoomId) (room : RoomRecord) :
    (s.putRoom r room).view r' = if r = r' then { s.view r' with room := some room } else s.view r' := by
  simp only [view, putRoom, RoomStore.object_put]
  split <;> rfl

theorem view_putGame (s : Server) (r r' : RoomId) (gs : GameSession) :
    (s.putGame r gs).view r' = if r = r' then { s.view r' with game := some gs } else s.view r' := by
  simp only [view, putGame, JsMap.get_set]
  split <;> rfl

theorem view_sendAll (s : Server) (r r' : RoomId) (calls : List SendCall) : (s.sendAll r calls).view r' = s.view r' := by
  obtain ⟨rooms, w, hw, hrooms⟩ := sendAll_frame s r calls
  rw [hw]
  rcases hrooms with rfl | rfl <;> simp [view]

theorem view_applyEmitted (s : Server) (r r' : RoomId) (e : Emitted) :
    (s.applyEmitted r e).view r' = if r = r' then { s.view r' with game := some e.session } else s.view r' := by
  rw [applyEmitted, view_sendAll, view_putGame]

theorem view_applyEffect (s : Server) (r r' : RoomId) (e : GameEffect) :
    (s.applyEffect r e).view r' =
      if r = r' then ⟨(s.view r').room, some e.session, e.historyRepository.loadCompletedGames r'⟩
      else { s.view r' with records := e.historyRepository.loadCompletedGames r' } := by
  have h : (s.applyEffect r e).view r' =
      { (s.applyEmitted r e.toEmitted).view r' with records := e.historyRepository.loadCompletedGames r' } := rfl
  rw [h, view_applyEmitted]
  split <;> rfl

theorem view_allocateSequence (s : Server) (r r' : RoomId) :
    (s.allocateSequence r).view r' =
      if r = r' then { s.view r' with game := (s.view r').game.map (·.bump 1) } else s.view r' := by
  simp only [view, allocateSequence, JsMap.get_modify]
  split <;> rfl

theorem view_ensureGameSession (s : Server) (r r' : RoomId) :
    (s.ensureGameSession r).view r' =
      if r = r' then { s.view r' with game := some ((s.view r').gameOrNew r) } else s.view r' := by
  unfold ensureGameSession JsMap.has
  cases hg : s.gameSessions.get r with
  | some gs =>
    by_cases hr : r = r'
    · subst hr
      simp [view, RoomView.gameOrNew, hg]
    · simp [hr]
  | none =>
    simp only [Option.isSome_none, Bool.false_eq_true, ↓reduceIte, view_putGame]
    split
    · rename_i hr
      subst hr
      simp [RoomView.gameOrNew, view, hg, GameSession.new]
    · rfl

@[simp] theorem sendLog_sendAll (s : Server) (r : RoomId) (calls : List SendCall) :
    (s.sendAll r calls).sendLog = s.sendLog ++ calls.map (r, ·) := by
  obtain ⟨rooms, w, hw, -⟩ := sendAll_frame s r calls
  rw [hw]

@[simp] theorem now_sendAll (s : Server) (r : RoomId) (calls : List SendCall) : (s.sendAll r calls).now = s.now := by
  obtain ⟨rooms, w, hw, -⟩ := sendAll_frame s r calls
  rw [hw]

@[simp] theorem nextId_sendAll (s : Server) (r : RoomId) (calls : List SendCall) :
    (s.sendAll r calls).nextId = s.nextId := by
  obtain ⟨rooms, w, hw, -⟩ := sendAll_frame s r calls
  rw [hw]

@[simp] theorem sessions_sendAll (s : Server) (r : RoomId) (calls : List SendCall) :
    (s.sendAll r calls).sessions = s.sessions := by
  obtain ⟨rooms, w, hw, -⟩ := sendAll_frame s r calls
  rw [hw]

@[simp] theorem ensureGameSession_sessions (s : Server) (r : RoomId) :
    (s.ensureGameSession r).sessions = s.sessions := by
  unfold ensureGameSession
  split <;> rfl

@[simp] theorem ensureGameSession_sendLog (s : Server) (r : RoomId) : (s.ensureGameSession r).sendLog = s.sendLog := by
  unfold ensureGameSession
  split <;> rfl

@[simp] theorem ensureGameSession_now (s : Server) (r : RoomId) : (s.ensureGameSession r).now = s.now := by
  unfold ensureGameSession
  split <;> rfl

@[simp] theorem ensureGameSession_nextId (s : Server) (r : RoomId) : (s.ensureGameSession r).nextId = s.nextId := by
  unfold ensureGameSession
  split <;> rfl

theorem ensureGameSession_game (s : Server) (r : RoomId) : (s.ensureGameSession r).gameSessions.get r ≠ none := by
  have hview := congrArg RoomView.game (view_ensureGameSession s r r)
  rw [if_pos rfl] at hview
  exact Option.ne_none_iff_exists'.mpr ⟨_, hview⟩

theorem view_room_of_getRoom {room : RoomRecord} (h : s.getRoom r = some room) : (s.view r).room = some room :=
  RoomStore.object_of_get (RoomStore.getRoom_eq_some.mp h).1

theorem Acts.respond {commandId : CommandId} (h : Acts G s t r a) (hc : s.cached commandId = none) (c : ConnectionId)
    (event : RoomEvent) (others : List Delivery) :
    Acts G s (t.respond c commandId (.room event) others).server r a := h.record hc (by simp [WireEvent.acknowledged])

/-! ### Sessions found -/

theorem stored_of_getSession {token : SessionToken} {session : PlayerSession} (h : s.getSession token = some session) :
    s.sessions.sessions.get token = some session := (JsMap.lookup_eq_some.mp h).1

theorem HasSession.of_getSession {token : SessionToken} {session : PlayerSession}
    (h : s.getSession token = some session) : s.HasSession session.playerId session.roomId :=
  ⟨token, session.forgetSeen, by rw [Server.session, h, Option.map_some], rfl, rfl⟩

end Server
end TicTacToe

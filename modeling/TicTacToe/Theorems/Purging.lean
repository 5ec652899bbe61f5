import Mathlib.Order.Lattice
import TicTacToe.Lib.Expiry
import TicTacToe.Server.RoomStore
import TicTacToe.Server.SessionStore

/-! # The purges of the maintenance job

Sessions, cached results and rooms expire when they are looked up; every ten minutes the maintenance job deletes what has
expired. Whoever only looks up cannot tell when it has run. -/

namespace TicTacToe

/-- A method that changes a room record. -/
inductive RoomMutator where
  | touch
  | addPlayer (playerId : PlayerId) (name : Option PlayerName)
  | removePlayer (playerId : PlayerId)
  | setConnected (playerId : PlayerId) (connected : Bool)
  | markReady (symbol : PlayerSymbol)
  | resetReady

namespace RoomMutator

def apply (now : Millis) (room : RoomRecord) : RoomMutator → RoomRecord
  | touch => room.touch now
  | addPlayer playerId name => ((room.addPlayer now playerId name).map Prod.snd).getD room
  | removePlayer playerId => room.removePlayer now playerId
  | setConnected playerId connected => room.setConnected now playerId connected
  | markReady symbol => room.markReady symbol
  | resetReady => room.resetReady

end RoomMutator

/-- The stores of the server. -/
structure Stores where
  sessions : SessionStore
  rooms : RoomStore

/-- A call of a method of the stores. A mutator is called with the room that `getRoom` returns at that time. -/
inductive StoreCall where
  | createSession (token : SessionToken) (playerId : PlayerId)
  | touch (token : SessionToken)
  | setRoom (token : SessionToken) (roomId : Option RoomId)
  | deleteSession (token : SessionToken)
  | recordCommand (commandId : CommandId) (result : WireEvent)
  | getSession (token : SessionToken)
  | getCachedResult (commandId : CommandId)
  | createRoom (roomId : RoomId)
  | getRoom (roomId : RoomId)
  | mutate (roomId : RoomId) (mutator : RoomMutator)
  | purgeSessions
  | purgeRooms

/-- What a call returns, if it looks something up. -/
inductive StoreAnswer where
  | session (session : Option PlayerSession)
  | cachedResult (result : Option WireEvent)
  | room (room : Option RoomRecord)

namespace Stores

def empty : Stores := ⟨.empty, .empty⟩

def call (stores : Stores) (now : Millis) : StoreCall → Stores
  | .createSession token playerId => { stores with sessions := stores.sessions.createSession now token playerId }
  | .touch token => { stores with sessions := stores.sessions.touch now token }
  | .setRoom token roomId => { stores with sessions := stores.sessions.setRoom token roomId }
  | .deleteSession token => { stores with sessions := stores.sessions.deleteSession token }
  | .recordCommand commandId result =>
    { stores with sessions := stores.sessions.recordCommand now commandId result }
  | .getSession token => { stores with sessions := stores.sessions.afterGetSession now token }
  | .getCachedResult commandId => { stores with sessions := stores.sessions.afterGetCachedResult now commandId }
  | .createRoom roomId => { stores with rooms := stores.rooms.createRoom now roomId }
  | .getRoom roomId => { stores with rooms := stores.rooms.afterGetRoom now roomId }
  | .mutate roomId mutator =>
    match stores.rooms.getRoom now roomId with
    | none => stores
    | some room => { stores with rooms := stores.rooms.put roomId (mutator.apply now room) }
  | .purgeSessions => { stores with sessions := stores.sessions.purgeExpired now }
  | .purgeRooms => { stores with rooms := stores.rooms.purgeExpired now }

def answer (stores : Stores) (now : Millis) : StoreCall → Option StoreAnswer
  | .getSession token => some (.session (stores.sessions.getSession now token))
  | .getCachedResult commandId => some (.cachedResult (stores.sessions.getCachedResult now commandId))
  | .getRoom roomId => some (.room (stores.rooms.getRoom now roomId))
  | _ => none

/-- The answers to calls at given times. -/
def answers (stores : Stores) : List (Millis × StoreCall) → List StoreAnswer
  | [] => []
  | (now, c) :: calls => (stores.answer now c).toList ++ (stores.call now c).answers calls

end Stores

def StoreCall.isPurge : StoreCall → Bool
  | purgeSessions => true
  | purgeRooms => true
  | _ => false

/-! ### Expiry -/

theorem PlayerSession.isExpired_expires : JsMap.Expires PlayerSession.isExpired := by
  intro t t' session h hexpired
  simp only [isExpired, gt_iff_lt, decide_eq_true_eq] at hexpired ⊢
  exact Int.lt_of_lt_of_le hexpired (Int.sub_le_sub_right h _)

theorem DedupEntry.isExpired_expires : JsMap.Expires DedupEntry.isExpired := by
  intro t t' entry h hexpired
  simp only [isExpired, gt_iff_lt, decide_eq_true_eq] at hexpired ⊢
  exact Int.lt_of_lt_of_le hexpired (Int.sub_le_sub_right h _)

theorem RoomRecord.isExpired_expires : JsMap.Expires RoomRecord.isExpired := by
  intro t t' room h hexpired
  simp only [isExpired, gt_iff_lt, decide_eq_true_eq] at hexpired ⊢
  exact Int.lt_of_lt_of_le hexpired (Int.sub_le_sub_right h _)

/-! ### Two runs -/

/-- From a time on, nothing that is looked up tells the stores apart. -/
structure Indistinct (now : Millis) (s s' : Stores) : Prop where
  sessions : JsMap.AgreeFrom PlayerSession.isExpired now s.sessions.sessions s'.sessions.sessions
  dedupCache : JsMap.AgreeFrom DedupEntry.isExpired now s.sessions.dedupCache s'.sessions.dedupCache
  rooms : JsMap.AgreeFrom RoomRecord.isExpired now s.rooms.rooms s'.rooms.rooms

namespace Indistinct
variable {now now' : Millis} {s s' : Stores} {c : StoreCall}

theorem refl (now : Millis) (s : Stores) : Indistinct now s s := ⟨.refl now _, .refl now _, .refl now _⟩

theorem mono (h : Indistinct now s s') (hle : now ≤ now') : Indistinct now' s s' :=
  ⟨h.sessions.mono hle, h.dedupCache.mono hle, h.rooms.mono hle⟩

theorem getRoom_eq (h : Indistinct now s s') (roomId : RoomId) :
    s.rooms.getRoom now roomId = s'.rooms.getRoom now roomId := h.rooms.lookup_eq roomId

theorem answer_eq (h : Indistinct now s s') (c : StoreCall) : s.answer now c = s'.answer now c := by
  cases c with
  | getSession token => exact congrArg (fun session => some (StoreAnswer.session session)) (h.sessions.lookup_eq token)
  | getCachedResult commandId =>
    exact congrArg (fun entry => some (StoreAnswer.cachedResult (Option.map DedupEntry.result entry)))
      (h.dedupCache.lookup_eq commandId)
  | getRoom roomId => exact congrArg (fun room => some (StoreAnswer.room room)) (h.getRoom_eq roomId)
  | _ => rfl

/-- The same call on both sides. -/
theorem call (h : Indistinct now s s') (c : StoreCall) : Indistinct now (s.call now c) (s'.call now c) := by
  obtain ⟨hsessions, hcache, hrooms⟩ := h
  cases c with
  | createSession token playerId => exact ⟨hsessions.set _ _, hcache, hrooms⟩
  -- The age of a session counts from its creation, whatever is written to it.
  | touch token =>
    have hseen : JsMap.AgreeFrom PlayerSession.isExpired now (s.sessions.touch now token).sessions
        (s'.sessions.touch now token).sessions := by
      apply hsessions.modify
      intro t session
      rfl
    exact ⟨hseen, hcache, hrooms⟩
  | setRoom token roomId =>
    have hset : JsMap.AgreeFrom PlayerSession.isExpired now (s.sessions.setRoom token roomId).sessions
        (s'.sessions.setRoom token roomId).sessions := by
      apply hsessions.modify
      intro t session
      rfl
    exact ⟨hset, hcache, hrooms⟩
  | deleteSession token => exact ⟨hsessions.delete token, hcache, hrooms⟩
  | recordCommand commandId result => exact ⟨hsessions, hcache.set _ _, hrooms⟩
  | getSession token => exact ⟨hsessions.evict PlayerSession.isExpired_expires token, hcache, hrooms⟩
  | getCachedResult commandId => exact ⟨hsessions, hcache.evict DedupEntry.isExpired_expires commandId, hrooms⟩
  | createRoom roomId => exact ⟨hsessions, hcache, hrooms.set _ _⟩
  | getRoom roomId => exact ⟨hsessions, hcache, hrooms.evict RoomRecord.isExpired_expires roomId⟩
  | mutate roomId mutator =>
    have hroom : s.rooms.getRoom now roomId = s'.rooms.getRoom now roomId := hrooms.lookup_eq roomId
    unfold Stores.call
    dsimp only
    rw [hroom]
    split
    · exact ⟨hsessions, hcache, hrooms⟩
    · exact ⟨hsessions, hcache, hrooms.set _ _⟩
  | purgeSessions =>
    exact ⟨(JsMap.AgreeFrom.purge PlayerSession.isExpired_expires hsessions.symm).symm.purge
      PlayerSession.isExpired_expires, (JsMap.AgreeFrom.purge DedupEntry.isExpired_expires hcache.symm).symm.purge
      DedupEntry.isExpired_expires, hrooms⟩
  | purgeRooms =>
    exact ⟨hsessions, hcache, (JsMap.AgreeFrom.purge RoomRecord.isExpired_expires hrooms.symm).symm.purge
      RoomRecord.isExpired_expires⟩

/-- A purge on one side only. -/
theorem purge (h : Indistinct now s s') (hc : c.isPurge = true) : Indistinct now (s.call now c) s' := by
  cases c with
  | purgeSessions =>
    exact ⟨h.sessions.purge PlayerSession.isExpired_expires, h.dedupCache.purge DedupEntry.isExpired_expires, h.rooms⟩
  | purgeRooms => exact ⟨h.sessions, h.dedupCache, h.rooms.purge RoomRecord.isExpired_expires⟩
  | _ => cases hc

/-- With and without the purges, the answers are the same. -/
theorem answers_eq {calls : List (Millis × StoreCall)} (h : Indistinct now s s')
    (horder : calls.Pairwise fun a b => a.1 ≤ b.1) (hnow : ∀ call ∈ calls, now ≤ call.1) :
    s.answers calls = s'.answers (calls.filter fun call => !call.2.isPurge) := by
  induction calls generalizing now s s' with
  | nil => rfl
  | cons call calls ih =>
    obtain ⟨t, c⟩ := call
    obtain ⟨hlater, horder⟩ := List.pairwise_cons.mp horder
    have ht : Indistinct t s s' := h.mono (hnow _ List.mem_cons_self)
    cases hc : c.isPurge with
    | true =>
      have hnone : s.answer t c = none := by
        cases c with
        | purgeSessions | purgeRooms => rfl
        | _ => cases hc
      rw [List.filter_cons_of_neg (by simp [hc]), Stores.answers, hnone]
      exact ih (ht.purge hc) horder hlater
    | false =>
      rw [List.filter_cons_of_pos (by simp [hc]), Stores.answers, Stores.answers, ht.answer_eq c,
        ih (ht.call c) horder hlater]

end Indistinct

/-- The maintenance job is not observable: calls of the stores at non-decreasing times are answered in the same way with
all the purges among them and without. -/
theorem purging_unobservable {calls : List (Millis × StoreCall)} (horder : calls.Pairwise fun a b => a.1 ≤ b.1) :
    Stores.empty.answers calls = Stores.empty.answers (calls.filter fun call => !call.2.isPurge) := by
  cases calls with
  | nil => rfl
  | cons call calls =>
    refine (Indistinct.refl call.1 Stores.empty).answers_eq horder fun c hc => ?_
    rcases List.mem_cons.mp hc with rfl | hc
    · exact Int.le_refl _
    · exact (List.pairwise_cons.mp horder).1 c hc

/-- A session is written to after it has expired, with a purge in between. -/
def lateTouch : List (Millis × StoreCall) :=
  [(0, .createSession "t" "p"), (0, .createRoom "r"),
    (SESSION_TTL_MS + 1, .purgeSessions), (SESSION_TTL_MS + 1, .touch "t"),
    (SESSION_TTL_MS + 2, .getSession "t"), (SESSION_TTL_MS + 2, .purgeRooms), (SESSION_TTL_MS + 2, .getRoom "r")]

theorem purging_unobservable_late :
    Stores.empty.answers lateTouch = Stores.empty.answers (lateTouch.filter fun call => !call.2.isPurge) :=
  purging_unobservable (by unfold lateTouch; decide)

end TicTacToe

import TicTacToe.Theorems.Runs
import TicTacToe.Theorems.Transport

/-! # Whether a lost connection is retried

The transport counts the retries since the last open, and their delays double. It takes its own close of a connection
without a `PONG` for the server's close of an idle connection, after which nothing is retried. -/

namespace TicTacToe
namespace Client

/-! ### The log of retries -/

/-- What the log keeps of the connections. -/
inductive LinkEvent where
  | opened
  /-- A retry is made, after the given delay without its jitter. -/
  | retried (delay : Nat)

def LinkEvent.extend (delays : List Nat) : LinkEvent → List Nat
  | .opened => []
  | .retried delay => delays ++ [delay]

/-- The delays of the retries since the last open. -/
def sinceOpen (log : List LinkEvent) : List Nat := log.foldl LinkEvent.extend []

/-- The delay before the retry that `k` others have preceded. -/
def backoff (config : WsClientConfig) (k : Nat) : Nat := min (config.baseDelayMs * 2 ^ k) config.maxDelayMs

namespace WsClient

/-- What an input adds to the log. -/
def linkEvents (client : WsClient) : TabInput → List LinkEvent
  | .opened => [.opened]
  | .retry _ => client.retryTimer.toList.map .retried
  | _ => []

/-- The code of the close that the client has asked for. -/
def closeCode (client : WsClient) : Option Nat := client.ws.bind Socket.closeCode

/-- The client is not destroyed, and a close that it has asked for is reported with its code. -/
def staysAlive (client : WsClient) : TabInput → Bool
  | .unmount => false
  | .socketClosed code => client.closeCode.all (· = code)
  | _ => true

/-- A close with the given code is not one that the server has sent for good. -/
def Loses (client : WsClient) (code : Nat) : Prop :=
  ¬(client.closeCode = none ∧ (code = 4001 ∨ code = 4006 ∨ code = 1008))

/-- A retry is on its way. -/
def awaitsRetry (client : WsClient) : Bool := client.state = .reconnecting && client.retryTimer.isSome

/-- The callback of the input can run. -/
def admits (client : WsClient) : TabInput → Bool
  | .connect _ => client.state = .idle
  | .opened => client.ws.any fun ws => ws.readyState = .connecting
  | .received _ => client.isOpen
  | .socketClosed _ => client.ws.any fun ws => ws.readyState ≠ .closed
  | .retry _ => client.retryTimer.isSome
  | .pingDue => client.pingTimer
  | .pongMissing => client.pongTimer
  | .lostPongMissing => client.lostPongTimers ≠ 0
  | _ => true

end WsClient

section
variable {uuid : Nat → CommandId} {tab tab' : Tab} {i : TabInput} {config : WsClientConfig} {client client' : WsClient}
  {log : List LinkEvent} {code : Nat}

theorem Tab.callback_admits (h : tab.callback uuid i = some tab') : tab.client.admits i = true := by
  cases i with
  | connect | opened | received | socketClosed | retry | pingDue | pongMissing | lostPongMissing =>
    simp only [callback, Option.ite_none_right_eq_some] at h
    first | exact h.1 | exact decide_eq_true h.1
  | _ => rfl

theorem sinceOpen_append (log events : List LinkEvent) :
    sinceOpen (log ++ events) = events.foldl LinkEvent.extend (sinceOpen log) := List.foldl_append ..

/-! ### The invariant -/

/-- The retries since the last open and the one that is pending are those that have been counted. A retry is pending only
without an open connection. -/
structure LinkInv (config : WsClientConfig) (client : WsClient) (log : List LinkEvent) : Prop where
  same : client.config = config
  running : client.destroyed = false
  initial : client.state = .idle → client.ws = none ∧ client.retryTimer = none
  closing : ∀ code, client.closeCode = some code → code = 4006
  waiting : client.retryTimer ≠ none → ∀ ws, client.ws = some ws → ws.readyState = .closed
  counted : client.retryCount ≤ config.maxRetries
  delays : sinceOpen log ++ client.retryTimer.toList = (List.range client.retryCount).map (backoff config)

namespace LinkInv

theorem create (config : WsClientConfig) (storedToken : Option SessionToken) (storedRoom : Option RoomId) :
    LinkInv config (.create config storedToken storedRoom) [] where
  same := rfl
  running := rfl
  initial _ := ⟨rfl, rfl⟩
  closing code h := by cases h
  waiting h := absurd rfl h
  counted := Nat.zero_le _
  delays := rfl

theorem of_sameLink (h : LinkInv config client log) (hsame : client.SameLink client') : LinkInv config client' log := by
  obtain ⟨roomId, lastSeq, rfl⟩ := hsame
  exact ⟨h.same, h.running, h.initial, h.closing, h.waiting, h.counted, h.delays⟩

/-- Without a connection and without a pending retry, the next one is scheduled. -/
theorem scheduled (h : LinkInv config client log) (htimer : client.retryTimer = none)
    (hclosed : ∀ ws, client.ws = some ws → ws.readyState = .closed) : LinkInv config client.scheduled log := by
  unfold WsClient.scheduled
  rw [if_neg (by rw [h.running]; exact Bool.false_ne_true)]
  split
  · exact ⟨h.same, h.running, (by intro hidle; cases hidle), h.closing, h.waiting, h.counted, h.delays⟩
  · rename_i hcount
    rw [h.same] at hcount
    refine ⟨h.same, h.running, (by intro hidle; cases hidle), h.closing, fun _ => hclosed, by dsimp only; omega, ?_⟩
    have hdelays := h.delays
    rw [htimer, Option.toList_none, List.append_nil] at hdelays
    rw [hdelays, List.range_succ, List.map_append, WsClient.retryDelay, h.same]
    rfl

theorem connecting (h : LinkInv config client log) (htimer : client.retryTimer = none)
    (hclosed : ∀ ws, client.ws = some ws → ws.readyState = .closed) (throws : Bool) :
    LinkInv config (client.connecting throws) log := by
  have hstarted : (if client.retryCount = 0 then WsState.connecting else .reconnecting) ≠ .idle := by
    split <;> simp
  unfold WsClient.connecting
  split
  · exact scheduled ⟨h.same, h.running, fun hidle => absurd hidle hstarted, h.closing, h.waiting, h.counted, h.delays⟩
      htimer hclosed
  · exact ⟨h.same, h.running, fun hidle => absurd hidle hstarted, (by intro code hcode; cases hcode),
      fun hwaits => absurd htimer hwaits, h.counted, h.delays⟩

/-- As long as a connection is not closed, no retry is pending. -/
theorem not_waiting (h : LinkInv config client log) {ws : Socket} (hws : client.ws = some ws)
    (hopen : ws.readyState ≠ .closed) : client.retryTimer = none := by
  by_contra htimer
  exact absurd (h.waiting htimer ws hws) hopen

/-- A connection that is not closed is closed. -/
theorem lost (h : LinkInv config client log) (htimer : client.retryTimer = none) (code : Nat) :
    LinkInv config (client.lost code) log := by
  have hshut : LinkInv config client.shut log := by
    refine ⟨h.same, h.running, fun hidle => ?_, fun code hcode => ?_, fun hwaits => absurd htimer hwaits, h.counted,
      h.delays⟩
    · exact ⟨by rw [WsClient.shut, (h.initial hidle).1]; rfl, htimer⟩
    · refine h.closing code ?_
      rw [WsClient.closeCode, WsClient.shut, Option.bind_map] at hcode
      exact hcode
  have hclosed : ∀ ws, client.shut.ws = some ws → ws.readyState = .closed := by
    intro ws hws
    obtain ⟨ws, -, rfl⟩ := Option.map_eq_some_iff.mp hws
    rfl
  unfold WsClient.lost
  rw [if_neg (by rw [h.running]; exact Bool.false_ne_true)]
  split
  · exact ⟨hshut.same, hshut.running, (by intro hidle; cases hidle), hshut.closing, hshut.waiting, hshut.counted,
      hshut.delays⟩
  · exact hshut.scheduled htimer hclosed

/-- The client only asks for a close because a `PONG` is missing. -/
theorem closeSocket (h : LinkInv config client log) : LinkInv config (client.closeSocket 4006) log := by
  have hws : ∀ ws', (client.closeSocket 4006).ws = some ws' → ∃ ws, client.ws = some ws ∧
      (ws' = ws ∨ ws.readyState ≠ .closed ∧ ws' = ⟨.closing, some 4006⟩) := by
    intro ws' hws'
    obtain ⟨ws, hws, rfl⟩ := Option.map_eq_some_iff.mp hws'
    refine ⟨ws, hws, ?_⟩
    cases hstate : ws.readyState with
    | connecting => exact Or.inr ⟨by simp, rfl⟩
    | «open» => exact Or.inr ⟨by simp, rfl⟩
    | closing => exact Or.inl rfl
    | closed => exact Or.inl rfl
  refine ⟨h.same, h.running, fun hidle => ?_, fun code hcode => ?_, fun htimer ws' hws' => ?_, h.counted, h.delays⟩
  · exact ⟨by rw [WsClient.closeSocket, (h.initial hidle).1]; rfl, (h.initial hidle).2⟩
  · obtain ⟨ws', hws', hcode⟩ := Option.bind_eq_some_iff.mp hcode
    obtain ⟨ws, hsocket, rfl | ⟨-, rfl⟩⟩ := hws ws' hws'
    · exact h.closing code (by rw [WsClient.closeCode, hsocket]; exact hcode)
    · exact (Option.some.inj hcode).symm
  · obtain ⟨ws, hsocket, rfl | ⟨hopen, -⟩⟩ := hws ws' hws'
    · exact h.waiting htimer _ hsocket
    · exact absurd (h.waiting htimer ws hsocket) hopen

/-- What the callback of an input makes of the transport. -/
theorem react (h : LinkInv config client log) (hadmits : client.admits i = true) (halive : client.staysAlive i = true) :
    LinkInv config (client.react i) (log ++ client.linkEvents i) := by
  have hsilent : client.linkEvents i = [] → log ++ client.linkEvents i = log := fun hnone => by rw [hnone, List.append_nil]
  cases i with
  | connect throws =>
    obtain ⟨hws, htimer⟩ := h.initial (of_decide_eq_true hadmits)
    rw [hsilent rfl]
    exact h.connecting htimer (fun ws hsome => by cases hws.symm.trans hsome) throws
  | opened =>
    obtain ⟨ws, hws, hstate⟩ := (Option.any_eq_true _ _).mp hadmits
    have htimer := h.not_waiting hws (by rw [of_decide_eq_true hstate]; simp)
    refine ⟨h.same, h.running, (by intro hidle; cases hidle), (by intro code hcode; cases hcode),
      fun hwaits => absurd htimer hwaits, Nat.zero_le _, ?_⟩
    rw [sinceOpen_append]
    exact congrArg Option.toList htimer
  | received event =>
    rw [hsilent rfl]
    cases event with
    | none => exact h
    | some event =>
      cases event with
      | authAck =>
        exact ⟨h.same, h.running, (by intro hidle; cases hidle), h.closing, h.waiting, h.counted, h.delays⟩
      | pong => exact ⟨h.same, h.running, h.initial, h.closing, h.waiting, h.counted, h.delays⟩
      | error | room => exact h
  | socketClosed code =>
    obtain ⟨ws, hws, hstate⟩ := (Option.any_eq_true _ _).mp hadmits
    rw [hsilent rfl]
    exact h.lost (h.not_waiting hws (of_decide_eq_true hstate)) code
  | retry throws =>
    obtain ⟨delay, htimer⟩ := Option.isSome_iff_exists.mp hadmits
    have hclosed := h.waiting (by simp [htimer])
    have hmade : LinkInv config client.cancelRetry (log ++ client.linkEvents (.retry throws)) := by
      refine ⟨h.same, h.running, fun hidle => ⟨(h.initial hidle).1, rfl⟩, h.closing, fun hwaits => absurd rfl hwaits,
        h.counted, ?_⟩
      have hdelays := h.delays
      rw [htimer] at hdelays
      rw [sinceOpen_append, WsClient.linkEvents, htimer]
      exact (List.append_nil _).trans hdelays
    exact hmade.connecting rfl hclosed throws
  | pingDue =>
    rw [hsilent rfl, WsClient.react]
    split
    · exact h
    · exact ⟨h.same, h.running, h.initial, h.closing, h.waiting, h.counted, h.delays⟩
  | pongMissing | lostPongMissing =>
    rw [hsilent rfl]
    exact closeSocket ⟨h.same, h.running, h.initial, h.closing, h.waiting, h.counted, h.delays⟩
  | unmount => cases halive
  | tick | joinRoom | leaveRoom | playerReady | makeMove | requestRematch | acceptRematch | declineRematch =>
    rw [hsilent rfl]
    exact h

end LinkInv

/-! ### Runs -/

/-- A tab with the log of its connections. -/
def linked (uuid : Nat → CommandId) : Tab × List LinkEvent → TabInput → Option (Tab × List LinkEvent) :=
  Transition.logged (Tab.step uuid) fun tab i _ => tab.client.linkEvents i

/-- The client follows the callbacks of its tab. -/
theorem LinkInv.step (h : LinkInv config tab.client log) (hstep : tab.step uuid i = some tab')
    (halive : tab.client.staysAlive i = true) : LinkInv config tab'.client (log ++ tab.client.linkEvents i) := by
  obtain ⟨u, hu, rfl⟩ := Option.map_eq_some_iff.mp hstep
  have hlink : LinkInv config u.client (log ++ tab.client.linkEvents i) :=
    (h.react (Tab.callback_admits hu) halive).of_sameLink (Tab.callback_link hu)
  exact hlink

theorem LinkInv.run {x y : Tab × List LinkEvent} (h : LinkInv config x.1.client x.2)
    (hrun : Transition.Runs (linked uuid) (fun x i => x.1.client.staysAlive i = true) x y) :
    LinkInv config y.1.client y.2 := by
  refine hrun.invariant (P := fun y => LinkInv config y.1.client y.2) h fun y z i hy halive hstep => ?_
  obtain ⟨hstep, hlog⟩ := Transition.logged_eq_some.mp hstep
  rw [hlog]
  exact hy.step hstep halive

/-- The report of a close, with fewer than the maximum of retries since the last open. -/
theorem LinkInv.loss (h : LinkInv config tab.client log) (hstep : tab.step uuid (.socketClosed code) = some tab')
    (halive : tab.client.staysAlive (.socketClosed code) = true) (hloses : tab.client.Loses code)
    (hleft : (sinceOpen log).length < config.maxRetries) :
    tab'.client.awaitsRetry = true ↔ tab.client.closeCode = none := by
  obtain ⟨u, hu, rfl⟩ := Option.map_eq_some_iff.mp hstep
  obtain ⟨ws, hws, hstate⟩ := (Option.any_eq_true _ _).mp (Tab.callback_admits hu)
  have htimer := h.not_waiting hws (of_decide_eq_true hstate)
  have hdelays := h.delays
  rw [htimer, Option.toList_none, List.append_nil] at hdelays
  rw [hdelays, List.length_map, List.length_range, ← h.same] at hleft
  have hafter : u.render.client.awaitsRetry = (tab.client.lost code).awaitsRetry := by
    obtain ⟨roomId, lastSeq, hclient⟩ := Tab.callback_link hu
    rw [Tab.render_client, hclient]
    rfl
  rw [hafter, WsClient.lost, if_neg (by rw [h.running]; exact Bool.false_ne_true)]
  cases hcode : tab.client.closeCode with
  | some asked =>
    obtain rfl := h.closing asked hcode
    have hreported : 4006 = code := by simpa [WsClient.staysAlive, hcode] using halive
    subst hreported
    exact iff_of_false (by simp [Tab.isTerminal, WsClient.awaitsRetry]) (by simp)
  | none =>
    have hretries : Tab.isTerminal code = false := by
      simpa [WsClient.Loses, hcode, Tab.isTerminal, not_or, and_assoc] using hloses
    refine iff_of_true ?_ rfl
    have hrunning : tab.client.shut.destroyed = false := h.running
    have hcount : ¬tab.client.shut.retryCount ≥ tab.client.shut.config.maxRetries := Nat.not_le.mpr hleft
    rw [hretries, if_neg Bool.false_ne_true, WsClient.scheduled, hrunning, if_neg Bool.false_ne_true, if_neg hcount]
    rfl

end

/-- In every run of a client that is not destroyed, the retries since the last open are at most the maximum, with
doubling delays; and of the lost connections, with retries left, exactly those are retried that the client has not
closed itself for a missing `PONG`. -/
theorem lost_connections_retried_iff {uuid : Nat → CommandId} {config : WsClientConfig} {now : Millis}
    {storedToken : Option SessionToken} {storedRoom : Option RoomId} {tab : Tab} {log : List LinkEvent}
    (hrun : Transition.Runs (linked uuid) (fun x i => x.1.client.staysAlive i = true)
      (.load config now storedToken storedRoom, []) (tab, log)) :
    (∃ n ≤ config.maxRetries,
      sinceOpen log = (List.range n).map fun k => min (config.baseDelayMs * 2 ^ k) config.maxDelayMs) ∧
    ∀ code tab', tab.step uuid (.socketClosed code) = some tab' →
      tab.client.staysAlive (.socketClosed code) = true → tab.client.Loses code →
      (((sinceOpen log).length < config.maxRetries → tab'.client.awaitsRetry = true) ↔
        tab.client.closeCode = none ∨ config.maxRetries ≤ (sinceOpen log).length) := by
  have h : LinkInv config tab.client log := (LinkInv.create config storedToken storedRoom).run hrun
  refine ⟨?_, fun code tab' hstep halive hloses => ?_⟩
  · have hdelays := h.delays
    cases htimer : tab.client.retryTimer with
    | none =>
      rw [htimer, Option.toList_none, List.append_nil] at hdelays
      exact ⟨_, h.counted, hdelays⟩
    | some delay =>
      -- The pending retry is the last one that has been counted.
      obtain ⟨n, hn⟩ : ∃ n, tab.client.retryCount = n + 1 := by
        refine Nat.exists_eq_succ_of_ne_zero fun hzero => ?_
        rw [htimer, hzero] at hdelays
        exact List.append_ne_nil_of_right_ne_nil _ (List.cons_ne_nil delay []) hdelays
      rw [htimer, hn, List.range_succ, List.map_append] at hdelays
      have hcounted := h.counted
      exact ⟨n, by omega, (List.append_inj' hdelays rfl).1⟩
  · by_cases hleft : (sinceOpen log).length < config.maxRetries
    · rw [or_iff_left (by omega), ← h.loss hstep halive hloses hleft]
      exact ⟨fun himp => himp hleft, fun hawaits _ => hawaits⟩
    · exact iff_of_true (fun hless => absurd hless hleft) (Or.inr (by omega))

open Server (tally)

/-- The connection is lost for the third time since the last open: a new retry is on its way. -/
theorem lost_connections_retried_iff_third : ∃ (tab tab' : Tab) (log : List LinkEvent),
    Transition.Runs (linked (tally 'u')) (fun x i => x.1.client.staysAlive i = true) (.load .default 0 none none, [])
      (tab, log) ∧
    tab.step (tally 'u') (.socketClosed 1006) = some tab' ∧ sinceOpen log = [500, 1000] ∧
    tab'.client.awaitsRetry = true := by
  have hcheck : (Transition.run (linked (tally 'u')) (fun x i => x.1.client.staysAlive i) (.load .default 0 none none, [])
      [.connect false, .opened, .socketClosed 1006, .retry true, .retry false]).any (fun x =>
        x.1.client.closeCode = none && sinceOpen x.2 = [500, 1000] &&
          (x.1.step (tally 'u') (.socketClosed 1006)).isSome) = true := by decide +kernel
  obtain ⟨⟨tab, log⟩, hrun, hs⟩ := Transition.exists_run
    (C := fun (x : Tab × List LinkEvent) i => x.1.client.staysAlive i = true)
    (fun _ _ h => h) hcheck
  simp only [Bool.and_eq_true, decide_eq_true_eq, Option.isSome_iff_exists] at hs
  obtain ⟨⟨hcode, hlog⟩, tab', hstep⟩ := hs
  refine ⟨tab, tab', log, hrun, hstep, hlog, ((lost_connections_retried_iff hrun).2 1006 tab' hstep ?_ ?_).mpr
    (Or.inl hcode) (by rw [hlog]; decide)⟩
  · rw [WsClient.staysAlive, hcode]
    rfl
  · rintro ⟨-, hterminal⟩
    simp at hterminal

/-- An authenticated client gets no `PONG` and closes the connection: the report of its own close ends it for good. -/
theorem missing_pong_not_retried : ∃ (tab tab' : Tab) (log : List LinkEvent),
    Transition.Runs (linked (tally 'u')) (fun x i => x.1.client.staysAlive i = true) (.load .default 0 none none, [])
      (tab, log) ∧
    tab.step (tally 'u') (.socketClosed 4006) = some tab' ∧ tab.client.staysAlive (.socketClosed 4006) = true ∧
    tab.client.Loses 4006 ∧ (sinceOpen log).length < tab.client.config.maxRetries ∧
    tab'.client.awaitsRetry = false ∧ tab'.client.state = .closed := by
  have hcheck : (Transition.run (linked (tally 'u')) (fun x i => x.1.client.staysAlive i) (.load .default 0 none none, [])
      [.connect false, .opened, .received (some (.authAck "t" "p" "1" none "a")), .pingDue, .pongMissing]).any (fun x =>
        x.1.client.closeCode = some 4006 && (sinceOpen x.2).length < x.1.client.config.maxRetries &&
          (x.1.step (tally 'u') (.socketClosed 4006)).any fun tab' =>
            !tab'.client.awaitsRetry && tab'.client.state = .closed) = true := by decide +kernel
  obtain ⟨⟨tab, log⟩, hrun, hs⟩ := Transition.exists_run
    (C := fun (x : Tab × List LinkEvent) i => x.1.client.staysAlive i = true)
    (fun _ _ h => h) hcheck
  simp only [Bool.and_eq_true, Bool.not_eq_true', decide_eq_true_eq, Option.any_eq_true] at hs
  obtain ⟨⟨hcode, hleft⟩, tab', hstep, hawaits, hclosed⟩ := hs
  refine ⟨tab, tab', log, hrun, hstep, ?_, ?_, hleft, hawaits, hclosed⟩
  · rw [WsClient.staysAlive, hcode]
    rfl
  · rintro ⟨hnone, -⟩
    cases hcode.symm.trans hnone

end Client
end TicTacToe

import S1Client.Text

/-!
# Connecting

`ConnectToGameServer` overwrites `Socket` before it knows whether the connection comes
up, and sets `GameServerSession` only if it does.  So every attempt that fails leaves
another socket behind (`failureKeeps_iff`), and one that fails after a success leaves
a session over the old socket next to a new one that is not connected: the guard of
the handlers passes all the same (`guard_step_iff`).
-/
namespace S1Client
namespace US1GameInstance
variable {R : Type}

/-- `US1GameInstance::ConnectToGameServer`, with its result.  `created` is what
`CreateSocket` returns; `connects` is what `Connect` returns of that socket. -/
def connectToGameServer (s : US1GameInstance R) (created : Option Nat) (connects : Bool)
    (id password : FString) : Except Fault (US1GameInstance R × Bool) :=
  match created with
  | none => .error .nullPointer
  | some handle =>
    let socket : FSocket := ⟨handle, connects⟩
    let s := { s with socket := some socket }
    if connects then
      let s := { s with gameServerSession := some ⟨socket, []⟩ }
      .ok (s.sendPacket (.C_LOGIN id.toUtf8 password.toUtf8), true)
    else .ok (s, false)

/-- The guard is sound: if it passes, the session is one over `Socket`, and `Socket` is
connected. -/
def GuardSound (s : US1GameInstance R) : Prop :=
  s.connected = true → ∃ socket session, s.socket = some socket ∧
    s.gameServerSession = some session ∧ session.socket = socket ∧ socket.connected = true

theorem sendPacket_socket (s : US1GameInstance R) (pkt : ClientPacket R) :
    (s.sendPacket pkt).socket = s.socket := by
  rcases s.sendPacket_cases pkt with ⟨socket, session, -, -, hsend⟩ | ⟨-, hsend⟩ <;> rw [hsend]

theorem sendPacket_session (s : US1GameInstance R) (pkt : ClientPacket R) :
    (s.sendPacket pkt).gameServerSession.map PacketSession.socket =
      s.gameServerSession.map PacketSession.socket := by
  rcases s.sendPacket_cases pkt with ⟨socket, session, -, hsession, hsend⟩ | ⟨-, hsend⟩
  · rw [hsend, hsession]
    rfl
  · rw [hsend]

theorem disconnect_socket (s : US1GameInstance R) :
    s.disconnectFromGameServer.socket = s.socket := by
  unfold disconnectFromGameServer
  split
  · rfl
  · exact s.sendPacket_socket _

theorem disconnect_session (s : US1GameInstance R) :
    s.disconnectFromGameServer.gameServerSession.map PacketSession.socket =
      s.gameServerSession.map PacketSession.socket := by
  unfold disconnectFromGameServer
  split
  · rfl
  · exact s.sendPacket_session _

/-- The guard looks at two sockets. -/
theorem guardSound_iff {s : US1GameInstance R} : s.GuardSound ↔
    ∀ socket ∈ s.socket, ∀ socket' ∈ s.gameServerSession.map PacketSession.socket,
      socket' = socket ∧ socket.connected = true := by
  unfold GuardSound connected
  cases s.socket with
  | none => simp
  | some socket =>
    cases s.gameServerSession with
    | none => simp
    | some session =>
      constructor
      · intro h x hx y hy
        obtain ⟨_, _, hsocket, hsession, hsame, hconnected⟩ := h rfl
        obtain rfl := Option.some.inj hsocket
        obtain rfl := Option.some.inj hsession
        obtain rfl := Option.some.inj hx
        obtain rfl := Option.some.inj hy
        exact ⟨hsame, hconnected⟩
      · intro h _
        exact ⟨socket, session, rfl, rfl, h socket rfl session.socket rfl⟩

end US1GameInstance

/-- The game instance, and how many sockets the subsystem has created.  They are never
destroyed, so each has a handle of its own. -/
structure Lifetime (R : Type) where
  game : US1GameInstance R
  sockets : Nat

namespace Lifetime
variable {R : Type}

/-- A call of `ConnectToGameServer`, with what `CreateSocket` and `Connect` do in it, or
of `DisconnectFromGameServer`. -/
inductive Call where
  | connectToGameServer (creates connects : Bool) (id password : FString)
  | disconnectFromGameServer

/-- One call, with what it returns. -/
def call (s : Lifetime R) : Call → Except Fault (Lifetime R × Option Bool)
  | .connectToGameServer creates connects id password => do
    let (game, result) ← s.game.connectToGameServer (if creates then some s.sockets else none)
      connects id password
    return (⟨game, s.sockets + 1⟩, some result)
  | .disconnectFromGameServer => .ok (⟨s.game.disconnectFromGameServer, s.sockets⟩, none)

def step (s : Lifetime R) (c : Call) : Except Fault (Lifetime R) := Prod.fst <$> s.call c

/-- If the call returns `false`, it leaves `Socket` and `GameServerSession` alone. -/
def FailureKeeps (s : Lifetime R) (c : Call) : Prop :=
  ∀ t, s.call c = .ok (t, some false) →
    t.game.socket = s.game.socket ∧ t.game.gameServerSession = s.game.gameServerSession

/-- A call whose `Connect` fails. -/
def Call.Fails : Call → Prop
  | .connectToGameServer _ connects _ _ => connects = false
  | .disconnectFromGameServer => False

/-- **What one call does.** -/
inductive Called (s : Lifetime R) : Call → Lifetime R → Option Bool → Prop
  /-- A connection came up: a session over a new socket. -/
  | connected (id password : FString) (game : US1GameInstance R)
      (hsocket : game.socket = some ⟨s.sockets, true⟩)
      (hsession : game.gameServerSession.map PacketSession.socket = some ⟨s.sockets, true⟩) :
      Called s (.connectToGameServer true true id password) ⟨game, s.sockets + 1⟩ (some true)
  /-- None did: the new socket is kept all the same. -/
  | failed (id password : FString) :
      Called s (.connectToGameServer true false id password)
        ⟨{ s.game with socket := some ⟨s.sockets, false⟩ }, s.sockets + 1⟩ (some false)
  /-- Leaving touches neither pointer. -/
  | disconnected :
      Called s .disconnectFromGameServer ⟨s.game.disconnectFromGameServer, s.sockets⟩ none

variable {s t : Lifetime R} {c : Call}

theorem call_cases {result : Option Bool} (h : s.call c = .ok (t, result)) : Called s c t result := by
  cases c with
  | connectToGameServer creates connects id password =>
    cases creates with
    | false => cases h
    | true =>
      cases connects with
      | true =>
        obtain ⟨rfl, rfl⟩ := Prod.mk.inj (Except.ok.inj h)
        refine .connected id password _ ?_ ?_
        · rw [US1GameInstance.sendPacket_socket]
        · rw [US1GameInstance.sendPacket_session]
          rfl
      | false =>
        obtain ⟨rfl, rfl⟩ := Prod.mk.inj (Except.ok.inj h)
        exact .failed id password
  | disconnectFromGameServer =>
    obtain ⟨rfl, rfl⟩ := Prod.mk.inj (Except.ok.inj h)
    exact .disconnected

theorem step_cases (h : s.step c = .ok t) : ∃ result, s.call c = .ok (t, result) ∧ Called s c t result := by
  unfold step at h
  cases hcall : s.call c with
  | error e =>
    rw [hcall] at h
    cases h
  | ok r =>
    rw [hcall] at h
    obtain rfl : r.1 = t := Except.ok.inj h
    exact ⟨r.2, rfl, call_cases hcall⟩

/-- **The guard**: a call keeps it sound unless it fails with a session around. -/
theorem guard_step_iff (hs : s.game.GuardSound) (h : s.step c = .ok t) :
    t.game.GuardSound ↔ (c.Fails → s.game.gameServerSession = none) := by
  rw [US1GameInstance.guardSound_iff] at hs ⊢
  obtain ⟨result, -, hcall⟩ := step_cases h
  cases hcall with
  | connected id password game hsocket hsession =>
    refine iff_of_true ?_ fun hf => Bool.noConfusion (show true = false from hf)
    rintro socket h socket' h'
    obtain rfl := Option.some.inj (hsocket.symm.trans h)
    obtain rfl := Option.some.inj (hsession.symm.trans h')
    exact ⟨rfl, rfl⟩
  | failed id password =>
    constructor
    · intro ht _
      cases hg : s.game.gameServerSession with
      | none => rfl
      | some session =>
        -- the socket just created is not connected
        have hmem : session.socket ∈ s.game.gameServerSession.map PacketSession.socket := by
          rw [hg]
          rfl
        exact absurd (ht _ rfl session.socket hmem).2 Bool.false_ne_true
    · intro hnone socket _ socket' h'
      have h' : socket' ∈ s.game.gameServerSession.map PacketSession.socket := h'
      rw [hnone rfl] at h'
      cases h'
  | disconnected =>
    refine iff_of_true ?_ fun hf => hf.elim
    rintro socket h socket' h'
    have h : s.game.disconnectFromGameServer.socket = some socket := h
    have h' : s.game.disconnectFromGameServer.gameServerSession.map PacketSession.socket =
      some socket' := h'
    rw [US1GameInstance.disconnect_socket] at h
    rw [US1GameInstance.disconnect_session] at h'
    exact hs socket h socket' h'

/-- The handle of `Socket` is taken. -/
def SocketCreated (s : Lifetime R) : Prop :=
  ∀ socket, s.game.socket = some socket → socket.handle < s.sockets

theorem socketCreated_step (hs : s.SocketCreated) (h : s.step c = .ok t) : t.SocketCreated := by
  obtain ⟨result, -, hcall⟩ := step_cases h
  intro socket hsocket
  cases hcall with
  | connected id password game hgame =>
    obtain rfl := Option.some.inj (hgame.symm.trans hsocket)
    exact Nat.lt_succ_self _
  | failed id password =>
    obtain rfl := Option.some.inj hsocket
    exact Nat.lt_succ_self _
  | disconnected =>
    have hsocket : s.game.disconnectFromGameServer.socket = some socket := hsocket
    rw [US1GameInstance.disconnect_socket] at hsocket
    exact hs socket hsocket

/-- **The two pointers**: no attempt that fails leaves them alone. -/
theorem failureKeeps_iff (hs : s.SocketCreated) (h : s.step c = .ok t) :
    s.FailureKeeps c ↔ ¬c.Fails := by
  obtain ⟨result, hresult, hcall⟩ := step_cases h
  cases hcall with
  | connected id password game =>
    refine iff_of_true (fun t' ht' => ?_) fun hf => Bool.noConfusion (show true = false from hf)
    cases (Prod.mk.inj (Except.ok.inj (hresult.symm.trans ht'))).2
  | failed id password =>
    refine iff_of_false (fun hkeeps => ?_) fun hf => hf rfl
    have hsocket := (hkeeps _ hresult).1
    exact absurd (hs _ hsocket.symm) (Nat.lt_irrefl _)
  | disconnected =>
    refine iff_of_true (fun t' ht' => ?_) fun hf => hf.elim
    cases (Prod.mk.inj (Except.ok.inj (hresult.symm.trans ht'))).2

/-- **The state of the connection.**  From a null `Socket` on, the guard is
sound in every state reached and every call that returns `false` leaves `Socket` and
`GameServerSession` alone exactly if no `Connect` fails; the guard alone is sound
exactly if none fails while there is a session. -/
theorem connection_iff {game : US1GameInstance R} (hsocket : game.socket = none) (n : Nat)
    (calls : List Call) :
    (Steps.Throughout step (fun s => s.game.GuardSound) ⟨game, n⟩ calls ∧
        Steps.Meets step FailureKeeps ⟨game, n⟩ calls ↔
      Steps.Meets step (fun _ c => ¬c.Fails) ⟨game, n⟩ calls) ∧
    (Steps.Throughout step (fun s => s.game.GuardSound) ⟨game, n⟩ calls ↔
      Steps.Meets step (fun s c => c.Fails → s.game.gameServerSession = none) ⟨game, n⟩ calls) := by
  have hsound : game.GuardSound := by
    intro hc
    simp [US1GameInstance.connected, hsocket] at hc
  have hguard : Steps.Throughout step (fun s => s.game.GuardSound) ⟨game, n⟩ calls ↔
      Steps.Meets step (fun s c => c.Fails → s.game.gameServerSession = none) ⟨game, n⟩ calls :=
    Steps.throughout_iff_meets (I := fun _ => True) (fun _ _ _ _ _ => trivial)
      (fun s c t _ hs h => guard_step_iff hs h) trivial hsound
  have hcreated : SocketCreated (⟨game, n⟩ : Lifetime R) := by
    intro socket h
    cases hsocket.symm.trans h
  have hkeep : ∀ (s : Lifetime R) (c : Call) (t : Lifetime R), s.SocketCreated →
      s.step c = .ok t → (s.FailureKeeps c ↔ ¬c.Fails) := fun _ _ _ => failureKeeps_iff
  have hkeeps : Steps.Meets step FailureKeeps ⟨game, n⟩ calls ↔
      Steps.Meets step (fun _ c => ¬c.Fails) ⟨game, n⟩ calls :=
    Steps.meets_iff hkeep (fun _ _ _ hs _ => socketCreated_step hs) hcreated
  refine ⟨?_, hguard⟩
  rw [hguard, hkeeps]
  exact and_iff_right_of_imp fun hnone => hnone.imp fun _ _ hc hf => absurd hf hc

/-- Connecting, leaving and connecting again. -/
theorem connection_iff_reconnect :
    Steps.Throughout step (fun s => s.game.GuardSound)
        ⟨{ US1GameInstance.started Int with socket := none, gameServerSession := none }, 0⟩
        [.connectToGameServer true true [65] [66], .disconnectFromGameServer,
          .connectToGameServer true true [65] [66]] :=
  ((connection_iff rfl 0 [.connectToGameServer true true [65] [66], .disconnectFromGameServer,
    .connectToGameServer true true [65] [66]]).1.mpr (Steps.meets_of_forall (fun _ c hc hf => by
      rcases List.mem_cons.mp hc with rfl | hc
      · cases hf
      rcases List.mem_cons.mp hc with rfl | hc
      · cases hf
      obtain rfl := List.mem_singleton.mp hc
      cases hf) _)).1

/-- A second attempt that fails. -/
theorem connection_not_always_sound :
    ¬∀ (game : US1GameInstance Int) (n : Nat) (calls : List Call), game.socket = none →
      game.gameServerSession = none →
      Steps.Throughout step (fun s => s.game.GuardSound) ⟨game, n⟩ calls ∧
        Steps.Meets step FailureKeeps ⟨game, n⟩ calls := by
  intro h
  obtain ⟨hguard, -⟩ := h { US1GameInstance.started Int with socket := none, gameServerSession := none }
    0 [.connectToGameServer true true [65] [66], .connectToGameServer true false [65] [66]] rfl rfl
  obtain ⟨socket, session, hsocket, hsession, -, hconnected⟩ := hguard
    [.connectToGameServer true true [65] [66], .connectToGameServer true false [65] [66]] [] _ rfl rfl
    rfl
  obtain rfl := Option.some.inj hsocket
  exact absurd hconnected Bool.false_ne_true

end Lifetime
end S1Client

import Mathlib.Data.List.Basic

/-!
# The Go SDK connector and its port-forward monitor

Model of `connector.Connect`, `connector.Close`, `connector.SetLastError`
(`clients/go/sandbox/connector.go`) and of `tunnelStrategy.Connect`,
`tunnelStrategy.Close` and `monitorPortForward` (`tunnel.go`) as atomic steps
over the state they share: the connector's `baseURL` and `lastError` under
`c.mu`, the tunnel's `portForwardStopChan` under `t.mu`.  Each goroutine is a
phase; a step is one mutex section of one goroutine, or an event of the
environment (the forwarded connection dies, a timer fires).  Stop channels are
numbered in the order they are made, and the local URL of a tunnel is chosen
by the environment.

`tunnelStrategy.Connect` starts the monitor before it returns the URL, and
`connector.Connect` stores the URL in a later section; `deadTunnel_forgotten`
runs the schedule in which the tunnel dies in between.
-/

set_option autoImplicit false

namespace AgentSandbox.GoClient

/-- What `SetLastError` stores: `ErrPortForwardDied`, from a dead forward or
from a forward that did not stop in time. -/
inductive TunnelError
  | portForwardDied
  | monitorTimedOut
deriving DecidableEq, Repr

/-- A goroutine inside `connector.Connect`. -/
inductive ConnectPhase
  /-- Inside `tunnelStrategy.Connect`, the previous forward stopped. -/
  | dialing
  /-- `tunnelStrategy.Connect` returned the URL; `c.mu` not yet taken. -/
  | returned (url : String)
  | done
deriving DecidableEq, Repr

inductive MonitorPhase
  | waiting
  /-- `ForwardPorts` returned on `errChan`. -/
  | died
  /-- It owns the current stop channel and will call `SetLastError`. -/
  | notifying
  /-- The stop timer fired before `ForwardPorts` returned. -/
  | abandoning
  | done
deriving DecidableEq, Repr

structure Monitor where
  stopChan : Nat
  url : String
  phase : MonitorPhase
deriving DecidableEq, Repr

/-- A goroutine inside `connector.Close`, after its `c.mu` section. -/
inductive ClosePhase
  | stopping
  | done
deriving DecidableEq, Repr

structure ConnectorState where
  baseURL : String
  lastError : Option TunnelError
  portForwardStopChan : Option Nat
  closedChans : List Nat
  nextChan : Nat
  connects : List ConnectPhase
  monitors : List Monitor
  closers : List ClosePhase
deriving DecidableEq, Repr

inductive ConnectorStep
  /-- `connector.Connect` starts; `tunnelStrategy.Connect` runs `stopPortForward`. -/
  | connectStart
  /-- The forwarder of goroutine `i` is ready on local port `port`. -/
  | tunnelReady (i : Nat) (port : Nat)
  | tunnelFailed (i : Nat)
  /-- `connector.Connect` of goroutine `i` stores the URL. -/
  | publish (i : Nat)
  | forwardDied (m : Nat)
  | stopTimedOut (m : Nat)
  | monitorCheck (m : Nat)
  | monitorNotify (m : Nat)
  | monitorAbandon (m : Nat)
  | closeConnector
  | closeStrategy (j : Nat)
deriving DecidableEq, Repr

namespace ConnectorState

def initial : ConnectorState := ⟨"", none, none, [], 0, [], [], []⟩

/-- `stopPortForward`, under `t.mu`. -/
def stopPortForward (s : ConnectorState) : ConnectorState :=
  match s.portForwardStopChan with
  | some chan => { s with closedChans := chan :: s.closedChans, portForwardStopChan := none }
  | none => s

/-- `SetLastError`, under `c.mu`. -/
def setLastError (s : ConnectorState) (err : TunnelError) : ConnectorState :=
  { s with lastError := some err, baseURL := "" }

def setMonitor (s : ConnectorState) (m : Nat) (phase : MonitorPhase) : ConnectorState :=
  { s with monitors := s.monitors.modify m fun mon => { mon with phase := phase } }

def localURL (port : Nat) : String := "http://127.0.0.1:" ++ toString port

def step (s : ConnectorState) : ConnectorStep → Option ConnectorState
  | .connectStart => some { s.stopPortForward with connects := s.connects ++ [.dialing] }
  | .tunnelReady i port =>
      if s.connects[i]? = some .dialing then
        -- publish the new stop channel, start its monitor, return the URL
        some { s with
          portForwardStopChan := some s.nextChan
          nextChan := s.nextChan + 1
          monitors := s.monitors ++ [⟨s.nextChan, localURL port, .waiting⟩]
          connects := s.connects.set i (.returned (localURL port)) }
      else none
  | .tunnelFailed i =>
      if s.connects[i]? = some .dialing then some { s with connects := s.connects.set i .done }
      else none
  | .publish i =>
      match s.connects[i]? with
      | some (.returned url) =>
          some { s with baseURL := url, lastError := none, connects := s.connects.set i .done }
      | _ => none
  | .forwardDied m =>
      match s.monitors[m]? with
      | some ⟨_, _, .waiting⟩ => some (s.setMonitor m .died)
      | _ => none
  | .stopTimedOut m =>
      match s.monitors[m]? with
      | some ⟨chan, _, .waiting⟩ =>
          if chan ∈ s.closedChans then
            let s := if s.portForwardStopChan = some chan then { s with portForwardStopChan := none } else s
            some (s.setMonitor m .abandoning)
          else none
      | _ => none
  | .monitorCheck m =>
      match s.monitors[m]? with
      | some ⟨chan, _, .died⟩ =>
          if s.portForwardStopChan = some chan then
            some ({ s with portForwardStopChan := none }.setMonitor m .notifying)
          else some (s.setMonitor m .done)
      | _ => none
  | .monitorNotify m =>
      match s.monitors[m]? with
      | some ⟨_, _, .notifying⟩ => some ((s.setLastError .portForwardDied).setMonitor m .done)
      | _ => none
  | .monitorAbandon m =>
      match s.monitors[m]? with
      | some ⟨_, _, .abandoning⟩ => some ((s.setLastError .monitorTimedOut).setMonitor m .done)
      | _ => none
  | .closeConnector =>
      some { s with baseURL := "", lastError := none, closers := s.closers ++ [.stopping] }
  | .closeStrategy j =>
      if s.closers[j]? = some .stopping then
        some { s.stopPortForward with closers := s.closers.set j .done }
      else none

def run (s : ConnectorState) : List ConnectorStep → Option ConnectorState
  | [] => some s
  | step :: rest => (s.step step).bind fun next => next.run rest

def isConnected (s : ConnectorState) : Bool := s.baseURL != ""

end ConnectorState

/-- The tunnel dies after `tunnelStrategy.Connect` started its monitor and
before `connector.Connect` stores its URL; the monitor owns the current stop
channel and calls `SetLastError`. -/
def deathBeforePublish : List ConnectorStep :=
  [.connectStart, .tunnelReady 0 40000, .forwardDied 0, .monitorCheck 0, .monitorNotify 0]

/-- After the monitor of the tunnel at `http://127.0.0.1:40000` has called
`SetLastError`, the next step, the pending `connector.Connect` section, stores
that URL again with `lastError = nil`: the connector reports itself connected
to the dead tunnel with no `tunnelStrategy.Connect` in between. -/
theorem deadTunnel_forgotten :
    ∃ notified final : ConnectorState,
      ConnectorState.initial.run deathBeforePublish = some notified ∧
      notified.lastError = some .portForwardDied ∧
      notified.monitors[0]? = some ⟨0, ConnectorState.localURL 40000, .done⟩ ∧
      notified.step (.publish 0) = some final ∧
      final.baseURL = ConnectorState.localURL 40000 ∧ final.lastError = none ∧
      final.isConnected = true :=
  ⟨_, _, rfl, rfl, rfl, rfl, rfl, rfl, rfl⟩

end AgentSandbox.GoClient

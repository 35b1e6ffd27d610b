import Mathlib.Data.Finset.Sort
import Mathlib.Data.PNat.Defs
import RaptorLite.Common.SocketSetting
import RaptorLite.Foundations.Machine
import RaptorLite.Windows.TcpConnector

/-! # Connecting, step by step

`TcpConnector::InternalConnect` and `Shutdown` (`windows/tcp_connector.cc`), with the memory of the records.
Connecting is two steps here, since the lock is given back before `ConnectEx` is called, and so is the handling of an
event, which takes the lock at its end only. What the system calls come to is an input. The other services that share
the poller may change its registrations at any time, and whether a completion still finds the registration is left
open. Closing sockets is not modelled. -/

namespace RaptorLite.Windows

variable {σ : Type}

/-! ### The connector -/

/-- A `TcpConnector` with the registrations of the poller and what has become of its records. -/
structure ConnectorState (σ : Type) where
  /-- The records and `_records`. -/
  connector : TcpConnector
  /-- `_shutdown`. -/
  isShutdown : Bool := true
  /-- `_connectex` is known. -/
  connectex : Bool := false
  /-- `_counter`. -/
  counter : UInt32 := 0
  /-- `_poll_thread`, by its `_instance_id`. -/
  pollThread : Option Nat := none
  /-- `_interesting_event_services` of the poller. -/
  registrations : Registrations σ
  /-- The records that are allocated. -/
  live : Finset Nat := ∅
  /-- The records of the calls that have `ConnectEx` ahead. -/
  issuing : Finset Nat := ∅
  /-- The records of which the completion is outstanding. -/
  pending : Finset Nat := ∅
  /-- The records that a poller thread handles the completion of. -/
  processing : Finset Nat := ∅

/-- What the calls made by `InternalConnect` come to. -/
structure ConnectCalls where
  /-- The address that `new` returns. -/
  entry : Nat
  /-- The calls of `raptor_create_socket`. -/
  socket : SocketCalls (Option Nat)
  /-- The code of `WSASocket`, where it fails. -/
  socketError : Int32
  /-- `WSAIoctl(FIONBIO)`. -/
  nonblocking : WsaResult
  /-- `setsockopt(IPV6_V6ONLY)`. -/
  ipv6Only : WsaResult
  /-- `setsockopt(TCP_NODELAY)`. -/
  lowLatency : WsaResult
  /-- `WSAIoctl(SIO_GET_EXTENSION_FUNCTION_POINTER)`. -/
  lookup : WsaResult
  /-- `bind`. -/
  bind : WsaResult
  /-- `ConnectEx`, which returns a `BOOL`. -/
  connectEx : WsaResult

/-- The error of a call, if any. -/
def WsaResult.check (formatMessage : Int32 → String) (api : String) : WsaResult → Except Status Unit
  | .success => .ok ()
  | .error code => .error (makeStatusFromWindowsError formatMessage code api)

section Connect

variable (formatMessage : Int32 → String)

namespace ConnectCalls

/-- `raptor_create_socket`, as `InternalConnect` calls it. -/
def createSocket (c : ConnectCalls) (addr : ResolvedAddress) : Except Status UInt64 :=
  match Windows.createSocket c.socket addr with
  | .ok (_, ⟨some fd, _, _⟩) => .ok (UInt64.ofNat fd)
  | _ => .error (makeStatusFromWindowsError formatMessage c.socketError "WSASocket")

/-- `raptor_tcp_prepare_socket`; the timeout has no effect. -/
def tcpPrepareSocket (c : ConnectCalls) : Except Status Unit := do
  c.nonblocking.check formatMessage "WSAIoctl(FIONBIO)"
  c.ipv6Only.check formatMessage "setsockopt(IPV6_V6ONLY)"
  c.lowLatency.check formatMessage "setsockopt(TCP_NODELAY)"

/-- `TcpConnector::GetConnectExIfNecessary`. -/
def getConnectExIfNecessary (c : ConnectCalls) (connectex : Bool) : Except Status Unit :=
  if connectex then .ok ()
  else c.lookup.check formatMessage "WSAIoctl(SIO_GET_EXTENSION_FUNCTION_POINTER)"

/-- The socket is created and prepared. -/
def openSocket (c : ConnectCalls) (addr : ResolvedAddress) : Except Status UInt64 := do
  let fd ← c.createSocket formatMessage addr
  c.tcpPrepareSocket formatMessage
  return fd

end ConnectCalls

namespace ConnectorState

/-- `_poll_thread->Add(fd, fd, kConnectEvent)`, on the instance `id`. -/
def register (self : σ) (s : ConnectorState σ) (id : Nat) (fd : UInt64) : Registrations σ :=
  if id = 0 then s.registrations else s.registrations.add fd fd kConnectEvent self

/-- The record `entry` is filled, inserted and registered, on the instance `id`. -/
def entered (self : σ) (s : ConnectorState σ) (id entry : Nat) (fd : UInt64) (user : Int64) : ConnectorState σ :=
  { s with
    connector :=
      { entries := Function.update s.connector.entries entry ⟨⟨kConnectEvent, s.counter⟩, fd, user⟩
        records := insert entry s.connector.records }
    connectex := true
    counter := s.counter + 1
    registrations := s.register self id fd
    live := insert entry s.live
    issuing := insert entry s.issuing }

/-- `InternalConnect`, up to the end of the locked section. `none` says that `_poll_thread` is null. -/
def enter (self : σ) (s : ConnectorState σ) (addr : ResolvedAddress) (user : Int64) (c : ConnectCalls) :
    Option (Option Status × ConnectorState σ) :=
  -- the failures delete the record that was allocated, so that the memory is as before
  match c.openSocket formatMessage addr with
  | .error e => some (some e, s)
  | .ok fd =>
      match c.getConnectExIfNecessary formatMessage s.connectex with
      | .error e => some (some e, s)
      | .ok () =>
          match c.bind.check formatMessage "bind" with
          | .error e => some (some e, { s with connectex := true })
          | .ok () =>
              s.pollThread.map fun id => (none, s.entered self id c.entry fd user)

/-- The completion of `ConnectEx` for the record `entry` is to come. -/
def issued (s : ConnectorState σ) (entry : Nat) : ConnectorState σ :=
  { s with issuing := s.issuing.erase entry, pending := insert entry s.pending }

/-- `failure`, from `ConnectEx` for the record `entry`: the record is deleted. -/
def abandoned (s : ConnectorState σ) (entry : Nat) : ConnectorState σ :=
  { s with issuing := s.issuing.erase entry, live := s.live.erase entry }

/-- The rest of `InternalConnect`: `ConnectEx` for the record `entry`. -/
def issue (s : ConnectorState σ) (entry : Nat) (r : WsaResult) : Option Status × ConnectorState σ :=
  match r.check formatMessage "ConnectEx" with
  | .error e =>
      if r.accepted then (none, s.issued entry) else (some e, s.abandoned entry)
  | .ok () => (none, s.issued entry)

/-- `TcpConnector::InternalConnect`: the error it returns, if any. -/
def internalConnect (self : σ) (s : ConnectorState σ) (addr : ResolvedAddress) (user : Int64) (c : ConnectCalls) :
    Option (Option Status × ConnectorState σ) :=
  (s.enter formatMessage self addr user c).map fun r =>
    match r.1 with
    | some e => (some e, r.2)
    | none => r.2.issue formatMessage c.entry c.connectEx

/-- `TcpConnector::Init`, where the new `PollingThread` has the instance `id` and its `Init` the result `ok`. -/
def init (s : ConnectorState σ) (id : ℕ+) (ok : Bool) : ConnectorState σ :=
  if s.isShutdown then { s with pollThread := some id, isShutdown := !ok } else s

/-- One round of the loop of `Shutdown`, on the instance `id`; `none` says that the record was deleted. -/
def dropRecord (s : ConnectorState σ) (id : Nat) (reg : Registrations σ) (entry : Nat) : Option (Registrations σ) :=
  if entry ∈ s.live then
    some (if id = 0 then reg else reg.delete (s.connector.entries entry).fd 0)
  else none

/-- `TcpConnector::Shutdown`; `none` says that it reads a record that was deleted, or a null `_poll_thread`. -/
def shutdown (s : ConnectorState σ) : Option (ConnectorState σ) :=
  if s.isShutdown then some s
  else
    s.pollThread.bind fun id =>
      -- the set is traversed in the order of the addresses
      ((s.connector.records.sort (· ≤ ·)).foldlM (s.dropRecord id) s.registrations).map fun reg =>
        { s with
          connector := { s.connector with records := ∅ }
          isShutdown := true
          pollThread := some 0
          registrations := reg }

/-- The end of `OnEventProcess` for a completion: a record that is still in the set is deleted. -/
def processed (s : ConnectorState σ) (detail : EventDetail) : Option (ConnectorState σ) :=
  (s.connector.onEventProcess formatMessage detail).map fun r =>
    { s with
      connector := r.1
      live := if detail.overlaped ∈ s.connector.records then s.live.erase detail.overlaped else s.live
      processing := s.processing.erase detail.overlaped }

end ConnectorState

/-! ### The machine -/

/-- The steps. -/
inductive ConnectorAction (σ : Type) where
  /-- `Init`. -/
  | init (id : ℕ+) (ok : Bool)
  /-- A call of `InternalConnect`, up to the end of the locked section. -/
  | enter (addr : ResolvedAddress) (user : Int64) (c : ConnectCalls)
  /-- Its `ConnectEx`, and what comes behind it. -/
  | issue (entry : Nat) (r : WsaResult)
  /-- A poller thread calls `OnEventProcess` with the completion for a record. -/
  | completion (entry : Nat)
  /-- `OnEventProcess` ends. -/
  | processed (detail : EventDetail)
  /-- `Shutdown`, of the application or the destructor. -/
  | shutdown
  /-- Another service changes the registrations. -/
  | others (reg : Registrations σ)

/-- One step of the connector `self`. -/
def ConnectorState.exec (self : σ) (s : ConnectorState σ) : ConnectorAction σ → Option (ConnectorState σ)
  | .init id ok => some (s.init id ok)
  | .enter addr user c =>
      -- `new` returns memory that is not in use
      if c.entry ∈ s.live then none else (s.enter formatMessage self addr user c).map (·.2)
  | .issue entry r => if entry ∈ s.issuing then some (s.issue formatMessage entry r).2 else none
  | .completion entry =>
      if entry ∈ s.pending ∧ entry ∈ s.live then
        some { s with pending := s.pending.erase entry, processing := insert entry s.processing }
      else none
  | .processed detail => if detail.overlaped ∈ s.processing then s.processed formatMessage detail else none
  | .shutdown => s.shutdown
  | .others reg => some { s with registrations := reg }

/-- A connector that was constructed; `entries` is what the memory holds and `reg` what is registered. -/
def ConnectorState.start (entries : Nat → ConnectRecord) (reg : Registrations σ) : ConnectorState σ :=
  { connector := ⟨entries, ∅⟩, registrations := reg }

/-- The connector `self` from its construction on. -/
def connectorMachine (self : σ) (entries : Nat → ConnectRecord) (reg : Registrations σ) :
    Machine (ConnectorState σ) (ConnectorAction σ) where
  init := ConnectorState.start entries reg
  step := ConnectorState.exec formatMessage self

end Connect

end RaptorLite.Windows

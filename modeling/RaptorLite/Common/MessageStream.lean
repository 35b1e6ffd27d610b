import RaptorLite.Utils.Asprintf
import RaptorLite.Windows.MessageStream

/-! # Messages between the platforms

The two ends of a TCP connection, each with the `Connection` of either platform (`linux/connection.cc`,
`windows/connection.cc`). The one is driven by readiness and the other by completions; what they show of it are
the same steps of a channel, so that messages arrive whole, once and in order whatever the platforms are. -/

namespace RaptorLite

open StreamFraming
open Connection (RecvResult RecvChunk takeChunk)

/-- One end, on the platform it runs on. -/
inductive Side where
  /-- `linux/connection.cc`. -/
  | linux (p : Peer)
  /-- `windows/connection.cc`. -/
  | windows (p : Windows.Peer)

/-- The steps of an end. -/
inductive SideAction where
  /-- A step on Linux. -/
  | linux (a : PeerAction)
  /-- A step on Windows. -/
  | windows (a : Windows.PeerAction)

namespace Side

/-- A connection just attached to the endpoint. -/
def make (platform : Platform) (endpoint : EndpointImpl) (handleId : UInt32) (check : ProtocolHandler) : Side :=
  match platform with
  | .linux => .linux (Peer.make endpoint handleId check)
  | .windows => .windows (Windows.Peer.make endpoint handleId check)

/-- The end as a sender. -/
def outgoing : Side → Outgoing UInt8
  | .linux p => p.outgoing
  | .windows p => p.outgoing

/-- The end as a receiver. -/
def incoming : Side → Incoming UInt8
  | .linux p => p.incoming
  | .windows p => p.incoming

/-- The messages for which `SendMsg` returned true, as bytes. -/
def confirmed : Side → List (List UInt8)
  | .linux p => p.sentMessages
  | .windows p => p.confirmed.map Slice.toBytes

/-- `_proto` and `_rcv_buffer`. -/
def receiver : Side → Option ProtocolHandler × SliceBuffer
  | .linux p => (p.connection.proto, p.connection.rcvBuffer)
  | .windows p => (p.connection.proto, p.connection.rcvBuffer)

/-- What holds of an end, whatever the other end does. -/
def Sound (check : ProtocolHandler) : Side → Prop
  | .linux p => p.Sound check
  | .windows p => p.Sound check

/-- One step of an end to which these bytes are in flight. -/
def exec (formatMessage : Int32 → String) (s : Side) (inFlight : List UInt8) : SideAction → Option Side
  | .linux a =>
      match s with
      | .linux p => (p.exec inFlight a).map .linux
      | .windows _ => none
  | .windows a =>
      match s with
      | .linux _ => none
      | .windows p => (p.exec formatMessage inFlight a).map .windows

end Side

/-- What the application sends are messages of the protocol of the end they are for. -/
def SideAction.Speaks (check : ProtocolHandler) : SideAction → Prop
  | .linux a => a.Speaks check
  | .windows a => a.Speaks check

/-- The two ends. -/
structure SidesState where
  /-- The end that connected. -/
  client : Side
  /-- The end that accepted. -/
  server : Side

/-- A step of one of the ends. -/
inductive SidesAction where
  /-- A step of the end that connected. -/
  | client (a : SideAction)
  /-- A step of the end that accepted. -/
  | server (a : SideAction)

/-- One step of the system. -/
def SidesState.exec (formatMessage : Int32 → String) (s : SidesState) : SidesAction → Option SidesState
  | .client a =>
      (s.client.exec formatMessage (s.server.outgoing.inFlight s.client.incoming) a).map fun p =>
        { s with client := p }
  | .server a =>
      (s.server.exec formatMessage (s.client.outgoing.inFlight s.server.incoming) a).map fun p =>
        { s with server := p }

/-- Two ends just connected. -/
def sidesMachine (formatMessage : Int32 → String) (client server : Side) : Machine SidesState SidesAction where
  init := ⟨client, server⟩
  step := SidesState.exec formatMessage

/-- Each end sends messages of the protocol of the other. -/
def SidesAction.Speaks (toClient toServer : ProtocolHandler) : SidesAction → Prop
  | .client a => a.Speaks toServer
  | .server a => a.Speaks toClient

/-! ### One step of an end -/

namespace Side

variable {check check' : ProtocolHandler}

/-- An end cuts its stream with its handler. -/
theorem Sound.proto {s : Side} (h : s.Sound check) : s.receiver.1 = some check := by
  cases s with
  | linux p => exact (show p.Sound check from h).proto
  | windows p => exact (show p.Sound check from h).proto

/-- What `SendMsg` returned true for is among what was sent. -/
theorem Sound.confirmed {s : Side} (h : s.Sound check) : s.confirmed.Sublist s.outgoing.messages := by
  cases s with
  | linux p => exact List.Sublist.refl _
  | windows p => exact ((show p.Sound check from h).confirmed).map _

/-- **A step of an end**, on either platform, is one that a side of a channel may take. -/
theorem exec_shows {formatMessage : Int32 → String} (hst : StableAnswer check') {s s' : Side}
    {accepted : List UInt8} (h : s.Sound check') {a : SideAction} (hspeaks : a.Speaks check)
    (hstep : s.exec formatMessage (accepted.drop s.incoming.arrived) a = some s') :
    s'.Sound check' ∧
      Relation.ReflTransGen (OutStep (Announced check.answer headerSize)) s.outgoing s'.outgoing ∧
      Relation.ReflTransGen (InStep (Announced check'.answer headerSize) accepted) s.incoming s'.incoming := by
  cases s with
  | linux p =>
      cases a with
      | linux a =>
          obtain ⟨p', hp', rfl⟩ := Option.map_eq_some_iff.mp hstep
          obtain ⟨hsound, hsends, hreceives⟩ := Peer.exec_shows hst h hspeaks hp'
          exact ⟨hsound, hsends, hreceives⟩
      | windows a => cases hstep
  | windows p =>
      cases a with
      | linux a => cases hstep
      | windows a =>
          obtain ⟨p', hp', rfl⟩ := Option.map_eq_some_iff.mp hstep
          obtain ⟨hsound, hsends, hreceives⟩ := Windows.Peer.exec_shows hst h hspeaks hp'
          exact ⟨hsound, hsends, hreceives⟩

end Side

/-! ### Runs -/

end RaptorLite

import Mathlib.Data.Finset.Basic
import RaptorLite.Windows.Connection

/-! # The connector over completion ports

`TcpConnector` (`windows/tcp_connector.cc`). Every `ConnectEx` has a record whose first member is its
`OverLappedEx`, so the address of the `OVERLAPPED` leads back to the record; both are the same reference
here. What the handler does with the endpoint it is given is not modelled. -/

namespace RaptorLite.Windows

/-- `async_connect_record_entry`, without the address that is connected to. -/
structure ConnectRecord where
  /-- `ole`. -/
  ole : OverLappedEx
  /-- `fd`. -/
  fd : UInt64
  /-- `user_value`. -/
  userValue : Int64
  deriving DecidableEq

/-- `TcpConnector`. -/
structure TcpConnector where
  /-- The records, by reference. -/
  entries : Nat → ConnectRecord
  /-- `_records`. -/
  records : Finset Nat

/-- A call made on the `ConnectorHandler`. -/
inductive ConnectorCall where
  /-- `OnConnect` on an endpoint for the socket, with the property `UserCustomValue`. -/
  | onConnect (fd : UInt64) (userValue : Int64)
  /-- `OnErrorOccurred` on an endpoint for the socket. -/
  | onErrorOccurred (fd : UInt64) (err : Status)
  deriving DecidableEq

/-- `TcpConnector::OnEventProcess`: the connector behind it and the call made on the handler, `none` where
the assertion on the event type fails. -/
def TcpConnector.onEventProcess (formatMessage : Int32 → String) (t : TcpConnector)
    (detail : EventDetail) : Option (TcpConnector × ConnectorCall) :=
  if hasBit detail.eventType kConnectEvent then
    let entry := t.entries detail.overlaped
    let call := if hasBit detail.eventType kErrorEvent then
        .onErrorOccurred entry.fd (makeStatusFromWindowsError formatMessage detail.errorCode "IOCP_WAIT")
      else .onConnect entry.fd entry.userValue
    some ({ t with records := t.records.erase detail.overlaped }, call)
  else none

end RaptorLite.Windows

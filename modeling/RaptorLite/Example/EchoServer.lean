import Mathlib.Data.List.Forall2
import RaptorLite.Linux.MessageStream
import RaptorLite.Utils.Asprintf

/-! # The echo server and its clients

The program of `example/echo_server.cc` on one connection, with the client of `example/echo_client.cc` at the
other end. A package is an `echo_header` and its payload. `HttpEchoServer::OnMessage` answers each request
with the id of the request and its payload behind `"Response:"`; the message thread of the container calls it
for the packages in the order of their delivery, at any time after it.

Both programs give the length of a package as `sizeof(echo_header) + p->payload_size`, cast to `int`. -/

namespace RaptorLite

open Connection StreamFraming

/-! ### The packages -/

/-- A `uint32_t` in memory. -/
def storeUInt32 (x : UInt32) : List UInt8 :=
  [UInt8.ofNat x.toNat, UInt8.ofNat (x.toNat / 256), UInt8.ofNat (x.toNat / 65536),
    UInt8.ofNat (x.toNat / 16777216)]

/-- The `uint32_t` at the start of a piece of memory. -/
def loadUInt32 (p : List UInt8) : UInt32 :=
  UInt32.ofNat ((p.getD 0 0).toNat + 256 * (p.getD 1 0).toNat + 65536 * (p.getD 2 0).toNat +
    16777216 * (p.getD 3 0).toNat)

/-- `sizeof(echo_header)`. -/
def echoHeaderSize : Nat := 8

/-- `payload_size`. -/
def payloadSize (p : List UInt8) : UInt32 := loadUInt32 p

/-- `request_id`. -/
def requestId (p : List UInt8) : UInt32 := loadUInt32 (p.drop 4)

/-- What follows the header. -/
def payload (p : List UInt8) : List UInt8 := p.drop echoHeaderSize

/-- `OnCheckPackageLength`, the same in both programs. -/
def echoCheck : ProtocolHandler := fun p =>
  if p.length < echoHeaderSize then 0 else ((8 : UInt64) + (payloadSize p).toUInt64).toUInt32.toInt32

/-- `RESPONSE`. -/
def responseText : List UInt8 := ascii "Response:"

/-- The response that `HttpEchoServer::OnMessage` sends for a message, `none` when it reads behind the end of
the message. -/
def HttpEchoServer.onMessage (msg : Slice) : Option Slice :=
  let request := msg.toBytes
  if echoHeaderSize + (payloadSize request).toNat ≤ msg.size then
    some (Slice.ofBytes (storeUInt32 (payloadSize request + 9) ++ storeUInt32 (requestId request) ++
      responseText ++ (payload request).take (payloadSize request).toNat))
  else none

/-! ### The system -/

/-- The two sides, and how many of the delivered requests `OnMessage` has been called for. -/
structure EchoState where
  /-- The connections. -/
  peers : PeersState
  /-- The number of calls of `OnMessage`. -/
  handled : Nat

/-- The steps. -/
inductive EchoAction where
  /-- The client sends a request. -/
  | request (s : Slice)
  /-- The message thread of the server calls `OnMessage` for the next message. -/
  | onMessage
  /-- An event of the client. -/
  | client (a : PeerAction)
  /-- An event of the server. -/
  | server (a : PeerAction)

/-- The steps of a side that do not send a message. -/
def PeerAction.isEvent : PeerAction → Bool
  | .sendMsg _ _ => false
  | _ => true

/-- One step. -/
def EchoState.exec (s : EchoState) : EchoAction → Option EchoState
  | .request slice =>
      (s.peers.exec (.client (.sendMsg .container slice))).map fun peers => { s with peers := peers }
  | .onMessage =>
      (s.peers.server.delivered[s.handled]?).bind fun msg =>
        (HttpEchoServer.onMessage msg).bind fun response =>
          (s.peers.exec (.server (.sendMsg .endpoint response))).map fun peers => ⟨peers, s.handled + 1⟩
  | .client a =>
      if a.isEvent then (s.peers.exec (.client a)).map fun peers => { s with peers := peers } else none
  | .server a =>
      if a.isEvent then (s.peers.exec (.server a)).map fun peers => { s with peers := peers } else none

/-- The two programs, just connected. -/
def echoMachine (client server : EndpointImpl) : Machine EchoState EchoAction where
  init := ⟨⟨Peer.make client 0 echoCheck, Peer.make server 0 echoCheck⟩, 0⟩
  step := EchoState.exec

/-- A request: the header gives the size of the payload, and the response has a length that is an `int`. -/
structure IsRequest (p : List UInt8) : Prop where
  /-- The length is what the header says. -/
  length_eq : p.length = echoHeaderSize + (payloadSize p).toNat
  /-- There is room for the text of the response. -/
  fits : p.length + responseText.length < 2147483648

/-- The client sends requests. -/
def EchoAction.Asks : EchoAction → Prop
  | .request s => IsRequest s.toBytes
  | _ => True

/-- What makes a package the answer to a request. -/
structure Answers (response request : List UInt8) : Prop where
  /-- It has the id of the request. -/
  requestId_eq : requestId response = requestId request
  /-- It has the payload of the request behind the text. -/
  payload_eq : payload response = responseText ++ payload request
  /-- The size in its header is right. -/
  length_eq : response.length = echoHeaderSize + (payloadSize response).toNat

/-! ### The numbers in a package -/

/-- A stored 32-bit number takes four bytes. -/
@[simp] theorem length_storeUInt32 (x : UInt32) : (storeUInt32 x).length = 4 := rfl

/-- What is stored is loaded again. -/
@[simp] theorem loadUInt32_storeUInt32 (x : UInt32) (rest : List UInt8) :
    loadUInt32 (storeUInt32 x ++ rest) = x := by
  apply UInt32.toNat_inj.mp
  have hx : x.toNat < 4294967296 := x.toNat_lt
  simp only [loadUInt32, storeUInt32, List.cons_append, List.getD_cons_zero, List.getD_cons_succ,
    UInt8.toNat_ofNat', UInt32.toNat_ofNat']
  omega

/-- A number in memory does not depend on what follows it. -/
theorem loadUInt32_append {p : List UInt8} (hp : 4 ≤ p.length) (q : List UInt8) :
    loadUInt32 (p ++ q) = loadUInt32 p := by
  simp only [loadUInt32]
  rw [List.getD_append _ _ _ _ (by omega), List.getD_append _ _ _ _ (by omega),
    List.getD_append _ _ _ _ (by omega), List.getD_append _ _ _ _ (by omega)]

/-- The handler looks at the header only. -/
theorem stableAnswer_echoCheck : StableAnswer echoCheck := by
  intro p q hp
  have hlong : ¬ p.length < echoHeaderSize := by
    intro hshort
    exact hp (if_pos hshort)
  have hlong' : ¬ (p ++ q).length < echoHeaderSize := by
    rw [List.length_append]
    omega
  have hfour : 4 ≤ p.length := by
    rw [echoHeaderSize] at hlong
    omega
  rw [echoCheck, if_neg hlong', echoCheck, if_neg hlong, payloadSize, loadUInt32_append hfour, payloadSize]

/-- The answer on a header whose package has a length that is an `int`. -/
theorem answer_echoCheck {p : List UInt8} (hp : echoHeaderSize ≤ p.length)
    (hsmall : echoHeaderSize + (payloadSize p).toNat < 2147483648) :
    echoCheck.answer p = echoHeaderSize + (payloadSize p).toNat := by
  rw [echoHeaderSize] at hsmall
  have hnat : ((8 : UInt64) + (payloadSize p).toUInt64).toUInt32.toNat = 8 + (payloadSize p).toNat := by
    rw [UInt64.toNat_toUInt32, UInt64.toNat_add, UInt32.toNat_toUInt64]
    have h8 : (8 : UInt64).toNat = 8 := rfl
    omega
  rw [ProtocolHandler.answer, echoCheck, if_neg (by omega), ← Int32.toInt_toBitVec, UInt32.toBitVec_toInt32,
    BitVec.toInt_eq_toNat_of_lt]
  · show ((((8 : UInt64) + (payloadSize p).toUInt64).toUInt32.toNat : Nat) : Int) = _
    rw [hnat, echoHeaderSize]
    push_cast
    rfl
  · show 2 * ((8 : UInt64) + (payloadSize p).toUInt64).toUInt32.toNat < _
    rw [hnat]
    omega

/-! ### Requests and responses -/

/-- A package whose header gives its length is announced by the handler. -/
theorem announced_echo {p : List UInt8} (hp : p.length = echoHeaderSize + (payloadSize p).toNat)
    (hsmall : p.length < 2147483648) : Announced echoCheck.answer headerSize p := by
  rw [echoHeaderSize] at hp
  have hwindow : (p.take headerSize).length = min headerSize p.length := List.length_take
  have hsame : payloadSize (p.take headerSize) = payloadSize p := by
    rw [payloadSize, payloadSize, ← loadUInt32_append _ (p.drop headerSize), List.take_append_drop]
    rw [hwindow, headerSize]
    omega
  refine ⟨List.length_pos_iff.mp (by omega), ?_⟩
  rw [answer_echoCheck, hsame, hp, echoHeaderSize]
  · push_cast
    rfl
  · rw [hwindow, headerSize, echoHeaderSize]
    omega
  · rw [hsame, echoHeaderSize]
    omega

/-- A request announces its own length in its header. -/
theorem IsRequest.announced {p : List UInt8} (h : IsRequest p) : Announced echoCheck.answer headerSize p :=
  announced_echo h.length_eq (Nat.lt_of_le_of_lt (Nat.le_add_right _ _) h.fits)

/-- **A request is answered**: `OnMessage` reads only what is there, and the response is a package of the
protocol with the id and the payload of the request. -/
theorem HttpEchoServer.onMessage_spec {msg : Slice} (h : IsRequest msg.toBytes) :
    ∃ response, HttpEchoServer.onMessage msg = some response ∧ Answers response.toBytes msg.toBytes ∧
      Announced echoCheck.answer headerSize response.toBytes := by
  have hlen := h.length_eq
  have hfits := h.fits
  have htext : responseText.length = 9 := rfl
  rw [echoHeaderSize] at hlen
  rw [htext] at hfits
  have hsize : (payloadSize msg.toBytes + 9).toNat = (payloadSize msg.toBytes).toNat + 9 := by
    rw [UInt32.toNat_add]
    have h9 : (9 : UInt32).toNat = 9 := rfl
    omega
  have hall : (payload msg.toBytes).take (payloadSize msg.toBytes).toNat = payload msg.toBytes := by
    refine List.take_of_length_le ?_
    rw [payload, List.length_drop, echoHeaderSize]
    omega
  refine ⟨Slice.ofBytes (storeUInt32 (payloadSize msg.toBytes + 9) ++ storeUInt32 (requestId msg.toBytes) ++
    responseText ++ payload msg.toBytes), ?_, ?_⟩
  · rw [HttpEchoServer.onMessage, if_pos, hall]
    rw [← Slice.length_toBytes, echoHeaderSize]
    omega
  rw [Slice.toBytes_ofBytes]
  simp only [List.append_assoc]
  have hresponse : payloadSize (storeUInt32 (payloadSize msg.toBytes + 9) ++
      (storeUInt32 (requestId msg.toBytes) ++ (responseText ++ payload msg.toBytes)))
      = payloadSize msg.toBytes + 9 := loadUInt32_storeUInt32 _ _
  have hlength : (storeUInt32 (payloadSize msg.toBytes + 9) ++
      (storeUInt32 (requestId msg.toBytes) ++ (responseText ++ payload msg.toBytes))).length
      = msg.toBytes.length + 9 := by
    simp only [List.length_append, length_storeUInt32, htext, payload, List.length_drop, echoHeaderSize]
    omega
  have hannounces := hlength
  rw [hlen, Nat.add_assoc, ← hsize, ← hresponse] at hannounces
  exact ⟨⟨loadUInt32_storeUInt32 _ _, rfl, hannounces⟩, announced_echo hannounces (by omega)⟩

/-! ### The invariant -/

/-- What holds along every run. -/
structure EchoInv (s : EchoState) : Prop where
  /-- The requests flow to the server. -/
  up : Flows echoCheck s.peers.client s.peers.server
  /-- The responses flow to the client. -/
  down : Flows echoCheck s.peers.server s.peers.client
  /-- What the client sent are requests. -/
  asked : ∀ m ∈ s.peers.client.sentMessages, IsRequest m
  /-- `OnMessage` is called for delivered messages. -/
  handled_le : s.handled ≤ s.peers.server.delivered.length
  /-- There is at most one response for a call, and one for each call while the server is online. -/
  sent_le : s.peers.server.queued.length ≤ s.handled
  sent_online : s.peers.server.endpoint.isOnline = true → s.peers.server.queued.length = s.handled
  /-- The responses answer the requests in order. -/
  answered : List.Forall₂ Answers s.peers.server.sentMessages
    (s.peers.server.receivedMessages.take s.peers.server.queued.length)

/-- An event of a side queues nothing and takes no delivery back. -/
theorem Peer.exec_event {p p' : Peer} {incoming : List UInt8} {a : PeerAction} (ha : a.isEvent = true)
    (h : p.exec incoming a = some p') :
    p'.queued = p.queued ∧ p.delivered <+: p'.delivered ∧
      (p'.endpoint.isOnline = true → p.endpoint.isOnline = true) := by
  cases a with
  | sendMsg api slice => cases ha
  | sendEvent script =>
      obtain ⟨honline, h⟩ := Option.ite_none_right_eq_some.mp h
      obtain ⟨r, -, rfl⟩ := Option.map_eq_some_iff.mp h
      exact ⟨rfl, List.prefix_refl _, fun _ => honline⟩
  | recvEvent script errno =>
      obtain ⟨honline, h⟩ := Option.ite_none_right_eq_some.mp h
      obtain ⟨r, -, h⟩ := Option.bind_eq_some_iff.mp h
      obtain ⟨-, h⟩ := Option.ite_none_right_eq_some.mp h
      split at h
      · cases h
        exact ⟨rfl, List.prefix_append _ _, fun _ => honline⟩
      · cases h
        obtain ⟨hqueued, -, -, hdelivered, -⟩ := Peer.close_keeps _ _ _
        rw [hqueued, hdelivered]
        exact ⟨rfl, List.prefix_append _ _, fun _ => honline⟩
  | close notify ev =>
      cases h
      obtain ⟨hqueued, -, -, hdelivered, -⟩ := p.close_keeps notify ev
      rw [hqueued, hdelivered]
      exact ⟨rfl, List.prefix_refl _, fun honline => absurd honline (by simp)⟩

/-- An event speaks no protocol. -/
theorem PeerAction.speaks_of_isEvent {a : PeerAction} (ha : a.isEvent = true) (check : ProtocolHandler) :
    a.Speaks check := by
  cases a with
  | sendMsg api slice => cases ha
  | sendEvent script => trivial
  | recvEvent script errno => trivial
  | close notify ev => trivial

/-- What was delivered is answered also when more is delivered. -/
theorem forall₂_take_of_prefix {responses requests requests' : List (List UInt8)} {n : Nat}
    (h : List.Forall₂ Answers responses (requests.take n)) (hn : n ≤ requests.length)
    (hstart : requests <+: requests') : List.Forall₂ Answers responses (requests'.take n) := by
  obtain ⟨more, rfl⟩ := hstart
  rw [List.take_append_of_le_length hn]
  exact h

/-- The client sends a request. -/
theorem EchoInv.request {s s' : EchoState} {slice : Slice} (h : EchoInv s) (hasks : IsRequest slice.toBytes)
    (hstep : s.exec (.request slice) = some s') : EchoInv s' := by
  rw [EchoState.exec] at hstep
  obtain ⟨peers, hpeers, rfl⟩ := Option.map_eq_some_iff.mp hstep
  rw [PeersState.exec] at hpeers
  obtain ⟨client, hclient, rfl⟩ := Option.map_eq_some_iff.mp hpeers
  obtain ⟨hup, hdown⟩ := h.up.exec (a := .sendMsg .container slice) stableAnswer_echoCheck h.down
    hasks.announced hclient
  refine ⟨hup, hdown, ?_, h.handled_le, h.sent_le, h.sent_online, h.answered⟩
  rw [Peer.exec_sendMsg _ _ _ hasks.announced.ne_nil, Option.some.injEq] at hclient
  subst hclient
  intro m hm
  dsimp only at hm
  split at hm
  · rw [Peer.sentMessages, List.map_append, List.map_singleton] at hm
    rcases List.mem_append.mp hm with hm | hm
    · exact h.asked m hm
    · exact List.mem_singleton.mp hm ▸ hasks
  · exact h.asked m hm

/-- The server answers the next message. -/
theorem EchoInv.onMessage {s s' : EchoState} (h : EchoInv s) (hstep : s.exec .onMessage = some s') :
    EchoInv s' := by
  obtain ⟨msg, hmsg, hstep⟩ := Option.bind_eq_some_iff.mp hstep
  obtain ⟨response, hresponse, hstep⟩ := Option.bind_eq_some_iff.mp hstep
  obtain ⟨peers, hpeers, rfl⟩ := Option.map_eq_some_iff.mp hstep
  rw [PeersState.exec] at hpeers
  obtain ⟨server, hserver, rfl⟩ := Option.map_eq_some_iff.mp hpeers
  have hlt : s.handled < s.peers.server.delivered.length := (List.getElem?_eq_some_iff.mp hmsg).1
  have hreceived : s.peers.server.receivedMessages[s.handled]? = some msg.toBytes := by
    rw [Peer.receivedMessages, List.getElem?_map, hmsg, Option.map_some]
  -- what was delivered is what the client sent
  have hrequest : IsRequest msg.toBytes :=
    h.asked _ ((h.up.conveys stableAnswer_echoCheck).inOrder.mem (List.mem_of_getElem? hreceived))
  obtain ⟨_, hresponse', hanswers, hannounced⟩ := HttpEchoServer.onMessage_spec hrequest
  rw [hresponse, Option.some.injEq] at hresponse'
  subst hresponse'
  obtain ⟨hdown, hup⟩ := h.down.exec (a := .sendMsg .endpoint response) stableAnswer_echoCheck h.up
    hannounced hserver
  rw [Peer.exec_sendMsg _ _ _ hannounced.ne_nil, Option.some.injEq] at hserver
  subst hserver
  have hsent := h.sent_le
  by_cases honline : s.peers.server.endpoint.isOnline = true
  · have hall := h.sent_online honline
    rw [if_pos honline] at hup hdown ⊢
    refine ⟨hup, hdown, h.asked, hlt, ?_, ?_, ?_⟩
    · rw [List.length_append, List.length_singleton, hall]
    · intro _
      rw [List.length_append, List.length_singleton, hall]
    · have hanswered := h.answered
      show List.Forall₂ Answers ((s.peers.server.queued ++ [response]).map Slice.toBytes)
        (s.peers.server.receivedMessages.take (s.peers.server.queued ++ [response]).length)
      rw [List.map_append, List.map_singleton, List.length_append, List.length_singleton, hall, List.take_add_one,
        hreceived]
      rw [hall] at hanswered
      exact List.rel_append hanswered (List.Forall₂.cons hanswers List.Forall₂.nil)
  · rw [if_neg honline] at hup hdown ⊢
    exact ⟨hup, hdown, h.asked, hlt, Nat.le_succ_of_le hsent, fun hon => absurd hon honline, h.answered⟩

/-- **One step** keeps the invariant. -/
theorem EchoInv.step {s s' : EchoState} {a : EchoAction} (h : EchoInv s) (hasks : a.Asks)
    (hstep : s.exec a = some s') : EchoInv s' := by
  cases a with
  | request slice => exact h.request hasks hstep
  | onMessage => exact h.onMessage hstep
  | client a =>
      obtain ⟨hevent, hstep⟩ := Option.ite_none_right_eq_some.mp hstep
      obtain ⟨peers, hpeers, rfl⟩ := Option.map_eq_some_iff.mp hstep
      obtain ⟨client, hclient, rfl⟩ := Option.map_eq_some_iff.mp hpeers
      obtain ⟨hup, hdown⟩ :=
        h.up.exec stableAnswer_echoCheck h.down (PeerAction.speaks_of_isEvent hevent _) hclient
      obtain ⟨hqueued, -⟩ := Peer.exec_event hevent hclient
      refine ⟨hup, hdown, ?_, h.handled_le, h.sent_le, h.sent_online, h.answered⟩
      rw [Peer.sentMessages, hqueued]
      exact h.asked
  | server a =>
      obtain ⟨hevent, hstep⟩ := Option.ite_none_right_eq_some.mp hstep
      obtain ⟨peers, hpeers, rfl⟩ := Option.map_eq_some_iff.mp hstep
      obtain ⟨server, hserver, rfl⟩ := Option.map_eq_some_iff.mp hpeers
      obtain ⟨hdown, hup⟩ :=
        h.down.exec stableAnswer_echoCheck h.up (PeerAction.speaks_of_isEvent hevent _) hserver
      obtain ⟨hqueued, hdelivered, honline⟩ := Peer.exec_event hevent hserver
      have hhandled := h.handled_le
      have hsent := h.sent_le
      refine ⟨hup, hdown, h.asked, Nat.le_trans hhandled hdelivered.length_le, ?_, ?_, ?_⟩
      · rw [hqueued]
        exact hsent
      · intro hon
        rw [hqueued]
        exact h.sent_online (honline hon)
      · rw [Peer.sentMessages, hqueued]
        refine forall₂_take_of_prefix h.answered ?_ (hdelivered.map Slice.toBytes)
        rw [Peer.receivedMessages, List.length_map]
        omega

/-! ### Runs -/

/-- Nothing is on its way: both sides are online, nothing is buffered or in flight, and `OnMessage` was
called for everything delivered to the server. -/
structure EchoState.Quiet (s : EchoState) : Prop where
  /-- The client is online. -/
  client : s.peers.client.endpoint.isOnline = true
  /-- The server is online. -/
  server : s.peers.server.endpoint.isOnline = true
  /-- The client has nothing to send. -/
  clientSent : s.peers.client.connection.sndBuffer.vs = []
  /-- The server has nothing to send. -/
  serverSent : s.peers.server.connection.sndBuffer.vs = []
  /-- No request is in flight. -/
  up : s.peers.client.inFlight s.peers.server = []
  /-- No response is in flight. -/
  down : s.peers.server.inFlight s.peers.client = []
  /-- No message is waiting. -/
  handled : s.handled = s.peers.server.delivered.length

/-- **Every request is answered, once and in order.** In every run of an echo server and a client that sends
requests, in any order of the steps of the two sides: the packages delivered to the client answer its
requests, the first one the first request and so on, each with the id and the payload of its request; and
when nothing is on its way any more, every request has been answered. -/
theorem echo_answers_in_order (client server : EndpointImpl) (s : EchoState)
    (hs : (echoMachine client server).Reaches (fun _ a => a.Asks) s) :
    List.Forall₂ Answers s.peers.client.receivedMessages
      (s.peers.client.sentMessages.take s.peers.client.receivedMessages.length) ∧
    (s.Quiet → List.Forall₂ Answers s.peers.client.receivedMessages s.peers.client.sentMessages) := by
  have h : EchoInv s := by
    refine hs.invariant EchoInv ?_ fun _ _ _ _ hasks h hstep => h.step hasks hstep
    exact ⟨flows_make .., flows_make .., fun m hm => (List.not_mem_nil hm).elim, Nat.le_refl _, Nat.le_refl _,
      fun _ => rfl, List.Forall₂.nil⟩
  have hup := h.up.conveys stableAnswer_echoCheck
  have hdown := h.down.conveys stableAnswer_echoCheck
  have hlen : s.peers.server.queued.length = s.peers.server.sentMessages.length :=
    (List.length_map _).symm
  have hanswered := h.answered
  have hhandled := h.handled_le
  have hsent := h.sent_le
  have hdelivered : s.peers.server.receivedMessages.length = s.peers.server.delivered.length :=
    List.length_map _
  -- the requests behind the responses are the first ones the client sent
  have hrequests : List.Forall₂ Answers s.peers.server.sentMessages
      (s.peers.client.sentMessages.take s.peers.server.queued.length) :=
    forall₂_take_of_prefix hanswered (by omega) hup.inOrder
  constructor
  · have hfirst := List.forall₂_take s.peers.client.receivedMessages.length hrequests
    rw [← List.prefix_iff_eq_take.mp hdown.inOrder, List.take_take, Nat.min_eq_left] at hfirst
    · exact hfirst
    · rw [hlen]
      exact hdown.inOrder.length_le
  · intro hquiet
    rw [hdown.complete hquiet.server hquiet.serverSent hquiet.down]
    rw [h.sent_online hquiet.server, hquiet.handled, ← hdelivered,
      hup.complete hquiet.client hquiet.clientSent hquiet.up, List.take_length] at hrequests
    exact hrequests

/-- What a test looks at: the packages of the client, and whether something is on its way. -/
def EchoState.summary (s : EchoState) : List (List UInt8) × List (List UInt8) × List Bool × List Nat :=
  (s.peers.client.sentMessages, s.peers.client.receivedMessages,
    [s.peers.client.endpoint.isOnline, s.peers.server.endpoint.isOnline],
    [s.peers.client.connection.sndBuffer.vs.length, s.peers.server.connection.sndBuffer.vs.length,
      (s.peers.client.inFlight s.peers.server).length, (s.peers.server.inFlight s.peers.client).length,
      s.handled, s.peers.server.delivered.length])

/-- A client asks with the payload `[1, 2]` and the id 5, and gets its answer. -/
theorem echo_answers_in_order_one_request :
    ∃ s : EchoState, s.peers.client.sentMessages = [[2, 0, 0, 0, 5, 0, 0, 0, 1, 2]] ∧
      s.peers.client.receivedMessages
        = [[11, 0, 0, 0, 5, 0, 0, 0, 82, 101, 115, 112, 111, 110, 115, 101, 58, 1, 2]] ∧
      List.Forall₂ Answers s.peers.client.receivedMessages s.peers.client.sentMessages := by
  obtain ⟨s, hrun, hsummary⟩ := Option.map_eq_some_iff.mp (show
      ((echoMachine ⟨5, 1, true, 0⟩ ⟨6, 2, true, 80⟩).run (echoMachine ⟨5, 1, true, 0⟩ ⟨6, 2, true, 80⟩).init
        [.request (Slice.ofBytes [2, 0, 0, 0, 5, 0, 0, 0, 1, 2]), .client (.sendEvent [.sent 10]),
          .server (.recvEvent [.data ⟨[2, 0, 0], by decide⟩] ⟨0, ""⟩),
          .server (.recvEvent [.data ⟨[0, 5, 0, 0, 0, 1, 2], by decide⟩] ⟨0, ""⟩), .onMessage,
          .server (.sendEvent [.sent 19]),
          .client (.recvEvent [.data ⟨[11, 0, 0, 0, 5, 0, 0, 0, 82, 101, 115, 112, 111, 110, 115, 101, 58, 1, 2],
            by decide⟩] ⟨0, ""⟩)]).map EchoState.summary
      = some ([[2, 0, 0, 0, 5, 0, 0, 0, 1, 2]],
          [[11, 0, 0, 0, 5, 0, 0, 0, 82, 101, 115, 112, 111, 110, 115, 101, 58, 1, 2]], [true, true],
          [0, 0, 0, 0, 1, 1]) by decide +kernel)
  simp only [EchoState.summary, Prod.mk.injEq, List.cons.injEq, List.length_eq_zero_iff, and_true] at hsummary
  obtain ⟨hsent, hreceived, ⟨hclient, hserver⟩, hbuffer, hbuffer', hup, hdown, hhandled, hdelivered⟩ := hsummary
  have hreaches : (echoMachine ⟨5, 1, true, 0⟩ ⟨6, 2, true, 80⟩).Reaches (fun _ a => a.Asks) s := by
    refine Machine.Reaches.init.run ?_ hrun
    intro a ha t
    simp only [List.mem_cons, List.not_mem_nil, or_false] at ha
    rcases ha with rfl | rfl | rfl | rfl | rfl | rfl | rfl
    · exact ⟨by decide +kernel, by decide +kernel⟩
    · trivial
    · trivial
    · trivial
    · trivial
    · trivial
    · trivial
  exact ⟨s, hsent, hreceived, (echo_answers_in_order ⟨5, 1, true, 0⟩ ⟨6, 2, true, 80⟩ s hreaches).2
    ⟨hclient, hserver, hbuffer, hbuffer', hup, hdown, by rw [hhandled, hdelivered]⟩⟩

end RaptorLite

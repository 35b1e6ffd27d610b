import RaptorLite.Windows.ConnectSteps

/-! # Connect attempts that fail

All failures of `InternalConnect` go to one label, which deletes the record. Where it is `ConnectEx` that fails, the
record is in `_records` and its socket is registered by then, and neither is taken back: the set is left with a pointer
to memory that was freed, which `Shutdown` reads. -/

namespace RaptorLite.Windows

variable {σ : Type}

section Connect

variable (formatMessage : Int32 → String)

/-! ### What a failed call leaves behind -/

namespace ConnectorState

/-- Every element of `_records` is a record that is allocated. -/
def RecordsLive (s : ConnectorState σ) : Prop := s.connector.records ⊆ s.live

/-- If the call returns an error, then `_records` and the registrations are as before. -/
def NoTrace (self : σ) (s : ConnectorState σ) (addr : ResolvedAddress) (user : Int64) (c : ConnectCalls) : Prop :=
  ∀ e s', s.internalConnect formatMessage self addr user c = some (some e, s') →
    s'.connector.records = s.connector.records ∧ s'.registrations = s.registrations

end ConnectorState

/-- A socket is created for the address, and everything up to `bind` succeeds. -/
structure ConnectCalls.Binds (c : ConnectCalls) (connectex : Bool) (addr : ResolvedAddress) : Prop where
  /-- `raptor_create_socket`. -/
  socket : ∃ mapped sock, Windows.createSocket c.socket addr = .ok (mapped, sock) ∧ sock.fd.isSome
  /-- `raptor_tcp_prepare_socket`. -/
  prepare : c.nonblocking = .success ∧ c.ipv6Only = .success ∧ c.lowLatency = .success
  /-- `GetConnectExIfNecessary`. -/
  lookup : connectex = true ∨ c.lookup = .success
  /-- `bind`. -/
  bind : c.bind = .success

/-- The call gets to `ConnectEx`, which fails otherwise than by `ERROR_IO_PENDING`. -/
structure ConnectorState.ConnectExFails (s : ConnectorState σ) (addr : ResolvedAddress) (c : ConnectCalls) : Prop where
  /-- The calls before it succeed. -/
  binds : c.Binds s.connectex addr
  /-- The connector was initialised. -/
  pollThread : s.pollThread.isSome
  /-- `ConnectEx` fails. -/
  fails : c.connectEx.accepted = false

/-! ### The calls before `ConnectEx` -/

/-- A call passes its check exactly when it succeeds. -/
theorem WsaResult.check_eq_ok {api : String} {r : WsaResult} {u : Unit} :
    r.check formatMessage api = .ok u ↔ r = .success := by
  cases r with
  | success => simp [check]
  | error code => simp [check]

section Binds

variable {formatMessage} {self : σ} {s : ConnectorState σ} {addr : ResolvedAddress} {user : Int64} {c : ConnectCalls}

namespace ConnectCalls

/-- The socket is there exactly when `raptor_create_socket` makes one. -/
theorem createSocket_eq_ok : (∃ fd, c.createSocket formatMessage addr = .ok fd) ↔
    ∃ mapped sock, Windows.createSocket c.socket addr = .ok (mapped, sock) ∧ sock.fd.isSome := by
  unfold createSocket
  split
  · next mapped fd family mode h =>
    rw [h]
    simp
  · next h =>
    constructor
    · rintro ⟨fd, hfd⟩
      cases hfd
    · rintro ⟨mapped, ⟨sock, family, mode⟩, hsock, hsome⟩
      obtain ⟨fd, rfl⟩ := Option.isSome_iff_exists.mp hsome
      exact absurd hsock (h mapped fd family mode)

/-- The socket is prepared exactly when the three options are set. -/
theorem tcpPrepareSocket_eq_ok : c.tcpPrepareSocket formatMessage = .ok () ↔
    c.nonblocking = .success ∧ c.ipv6Only = .success ∧ c.lowLatency = .success := by
  simp only [tcpPrepareSocket, bind_eq_ok_iff, WsaResult.check_eq_ok, exists_const]

/-- `ConnectEx` is known exactly when it was looked up before or is found now. -/
theorem getConnectExIfNecessary_eq_ok {connectex : Bool} :
    c.getConnectExIfNecessary formatMessage connectex = .ok () ↔ connectex = true ∨ c.lookup = .success := by
  unfold getConnectExIfNecessary
  split
  · next h => simp [h]
  · next h => simp [h, WsaResult.check_eq_ok]

/-- Opening a socket is creating and preparing it. -/
theorem openSocket_eq_ok {fd : UInt64} : c.openSocket formatMessage addr = .ok fd ↔
    c.createSocket formatMessage addr = .ok fd ∧ c.tcpPrepareSocket formatMessage = .ok () := by
  simp only [openSocket, bind_eq_ok_iff]
  constructor
  · rintro ⟨fd', hcreate, u, hprepare, hreturn⟩
    cases hreturn
    exact ⟨hcreate, hprepare⟩
  · rintro ⟨hcreate, hprepare⟩
    exact ⟨fd, hcreate, (), hprepare, rfl⟩

variable (formatMessage) in
/-- What must succeed before the record is entered. -/
theorem binds_iff {connectex : Bool} : c.Binds connectex addr ↔
    (∃ fd, c.openSocket formatMessage addr = .ok fd) ∧
      c.getConnectExIfNecessary formatMessage connectex = .ok () ∧ c.bind.check formatMessage "bind" = .ok () := by
  simp only [openSocket_eq_ok, exists_and_right, createSocket_eq_ok, tcpPrepareSocket_eq_ok,
    getConnectExIfNecessary_eq_ok, WsaResult.check_eq_ok]
  constructor
  · intro h
    exact ⟨⟨h.socket, h.prepare⟩, h.lookup, h.bind⟩
  · rintro ⟨⟨hsocket, hprepare⟩, hlookup, hbind⟩
    exact ⟨hsocket, hprepare, hlookup, hbind⟩

end ConnectCalls

namespace ConnectorState

/-- The calls up to `bind` succeed: the record is entered. -/
theorem enter_of_binds (h : c.Binds s.connectex addr) : ∃ fd, s.enter formatMessage self addr user c =
    s.pollThread.map fun id => (none, s.entered self id c.entry fd user) := by
  obtain ⟨⟨fd, hopen⟩, hlookup, hbind⟩ := (ConnectCalls.binds_iff formatMessage).mp h
  refine ⟨fd, ?_⟩
  simp only [enter, hopen, hlookup, hbind]

/-- One of them fails: the connector is as before, but that it may know `ConnectEx` now. -/
theorem enter_of_not_binds (h : ¬ c.Binds s.connectex addr) : ∃ e connectex,
    s.enter formatMessage self addr user c = some (some e, { s with connectex := connectex }) := by
  rw [ConnectCalls.binds_iff formatMessage] at h
  unfold enter
  split
  · exact ⟨_, s.connectex, rfl⟩
  · next fd hopen =>
    split
    · exact ⟨_, s.connectex, rfl⟩
    · next hlookup =>
      split
      · exact ⟨_, true, rfl⟩
      · next hbind => exact absurd ⟨⟨fd, hopen⟩, hlookup, hbind⟩ h

/-- A call that got to the end of the locked section has entered its record; any other is as if it was not made. -/
theorem enter_cases {r : Option Status × ConnectorState σ} (h : s.enter formatMessage self addr user c = some r) :
    (∃ e connectex, r = (some e, { s with connectex := connectex })) ∨
      ∃ id fd, r = (none, s.entered self id c.entry fd user) := by
  by_cases hbinds : c.Binds s.connectex addr
  · obtain ⟨fd, henter⟩ := enter_of_binds hbinds
    rw [henter] at h
    obtain ⟨id, -, rfl⟩ := Option.map_eq_some_iff.mp h
    exact .inr ⟨id, fd, rfl⟩
  · obtain ⟨e, connectex, henter⟩ := enter_of_not_binds hbinds
    rw [henter] at h
    cases h
    exact .inl ⟨e, connectex, rfl⟩

/-! ### `ConnectEx` -/

/-- An operation that is accepted is under way. -/
theorem issue_of_accepted {entry : Nat} {r : WsaResult} (h : r.accepted = true) :
    s.issue formatMessage entry r = (none, s.issued entry) := by
  cases r with
  | success => rfl
  | error code => simp [issue, WsaResult.check, h]

variable (formatMessage) in
/-- An operation that fails abandons the record. -/
theorem issue_of_failed {entry : Nat} {r : WsaResult} (h : r.accepted = false) :
    ∃ e, s.issue formatMessage entry r = (some e, s.abandoned entry) := by
  cases r with
  | success => cases h
  | error code => simp [issue, WsaResult.check, h]

/-- Up to a failing `ConnectEx` nothing is changed in vain. -/
theorem noTrace_of_not_fails (h : ¬ s.ConnectExFails addr c) : s.NoTrace formatMessage self addr user c := by
  intro e s' hcall
  obtain ⟨r, hr, hcall⟩ := Option.map_eq_some_iff.mp hcall
  by_cases hbinds : c.Binds s.connectex addr
  · obtain ⟨fd, henter⟩ := enter_of_binds hbinds
    rw [henter] at hr
    obtain ⟨id, hid, rfl⟩ := Option.map_eq_some_iff.mp hr
    have haccepted : c.connectEx.accepted = true := by
      by_contra hfails
      exact h ⟨hbinds, by rw [hid]; rfl, by simpa using hfails⟩
    dsimp only at hcall
    rw [issue_of_accepted haccepted] at hcall
    cases hcall
  · obtain ⟨e', connectex, henter⟩ := enter_of_not_binds hbinds
    rw [henter] at hr
    cases hr
    cases hcall
    exact ⟨rfl, rfl⟩

/-- A failing `ConnectEx` leaves the record behind, which is deleted. -/
theorem internalConnect_of_fails (h : s.ConnectExFails addr c) : ∃ e id fd,
    s.internalConnect formatMessage self addr user c =
      some (some e, (s.entered self id c.entry fd user).abandoned c.entry) := by
  obtain ⟨fd, henter⟩ := enter_of_binds h.binds
  obtain ⟨id, hid⟩ := Option.isSome_iff_exists.mp h.pollThread
  obtain ⟨e, hissue⟩ := issue_of_failed formatMessage h.fails
  refine ⟨e, id, fd, ?_⟩
  rw [internalConnect, henter, hid]
  dsimp only [Option.map_some]
  rw [hissue]

/-- A failed `ConnectEx` leaves the new record in the set. -/
theorem not_noTrace_of_fails (hnew : c.entry ∉ s.connector.records) (h : s.ConnectExFails addr c) :
    ¬ s.NoTrace formatMessage self addr user c := by
  intro hno
  obtain ⟨e, id, fd, hcall⟩ := internalConnect_of_fails h
  have hsame : insert c.entry s.connector.records = s.connector.records := (hno e _ hcall).1
  rw [← hsame] at hnew
  exact hnew (Finset.mem_insert_self c.entry s.connector.records)

/-! ### Shutting down -/

/-- The loop of `Shutdown` gets through the records that are allocated. -/
theorem foldlM_dropRecord_isSome (id : Nat) (l : List Nat) (reg : Registrations σ) :
    (l.foldlM (s.dropRecord id) reg).isSome ↔ ∀ entry ∈ l, entry ∈ s.live := by
  induction l generalizing reg with
  | nil => simp
  | cons entry rest ih =>
      rw [List.foldlM_cons, List.forall_mem_cons]
      unfold dropRecord
      split
      · next hlive =>
        rw [Option.bind_eq_bind, Option.bind_some]
        exact (ih _).trans (and_iff_right hlive).symm
      · next hdead =>
        simp [hdead]

/-- `Shutdown` gets through exactly when every record in the set is allocated. -/
theorem shutdown_isSome (hup : s.isShutdown = false) (hpoll : s.pollThread.isSome) :
    s.shutdown.isSome ↔ s.RecordsLive := by
  obtain ⟨id, hid⟩ := Option.isSome_iff_exists.mp hpoll
  rw [shutdown, if_neg (by simp [hup]), hid, Option.bind_some, Option.isSome_map, foldlM_dropRecord_isSome]
  simp only [Finset.mem_sort]
  rfl

/-- `Shutdown` clears the set, or has nothing to do. -/
theorem shutdown_eq_some {s' : ConnectorState σ} (h : s.shutdown = some s') :
    s' = s ∨ ∃ reg, s' =
      { s with
        connector := { s.connector with records := ∅ }
        isShutdown := true
        pollThread := some 0
        registrations := reg } := by
  unfold shutdown at h
  split at h
  · cases h
    exact .inl rfl
  · obtain ⟨id, -, h⟩ := Option.bind_eq_some_iff.mp h
    obtain ⟨reg, -, rfl⟩ := Option.map_eq_some_iff.mp h
    exact .inr ⟨reg, rfl⟩

end ConnectorState

end Binds

/-! ### Runs -/

/-- What holds along the runs in which no record is abandoned that is in the set. -/
structure ConnectorInv (s : ConnectorState σ) : Prop where
  /-- The records in the set are allocated. -/
  records : s.RecordsLive
  /-- So are those that a call, the kernel or a poller thread works on. -/
  busy : ∀ entry, entry ∈ s.issuing ∨ entry ∈ s.pending ∨ entry ∈ s.processing → entry ∈ s.live
  /-- A record with `ConnectEx` ahead is in no other hands. -/
  issuing : ∀ entry ∈ s.issuing, entry ∉ s.pending ∧ entry ∉ s.processing
  /-- A record with its completion outstanding is not handled yet. -/
  pending : ∀ entry ∈ s.pending, entry ∉ s.processing
  /-- A connector that is up has a poller. -/
  up : s.isShutdown = false → s.pollThread.isSome

namespace ConnectorInv

variable {formatMessage} {self : σ} {s s' : ConnectorState σ} {entry : Nat}

/-- The invariant at the start. -/
theorem start (entries : Nat → ConnectRecord) (reg : Registrations σ) : ConnectorInv (.start entries reg) where
  records := Finset.empty_subset _
  busy := by simp [ConnectorState.start]
  issuing := by simp [ConnectorState.start]
  pending := by simp [ConnectorState.start]
  up := fun h => by cases h

/-- `Init` keeps the invariant. -/
theorem init (h : ConnectorInv s) (id : ℕ+) (ok : Bool) : ConnectorInv (s.init id ok) := by
  unfold ConnectorState.init
  split
  · exact ⟨h.records, h.busy, h.issuing, h.pending, fun _ => rfl⟩
  · exact h

/-- A new record that is entered keeps the invariant. -/
theorem entered (h : ConnectorInv s) (hnew : entry ∉ s.live) (id : Nat) (fd : UInt64) (user : Int64) :
    ConnectorInv (s.entered self id entry fd user) where
  records := Finset.insert_subset_insert entry h.records
  busy := by
    intro e he
    have := h.busy e
    simp only [ConnectorState.entered, Finset.mem_insert] at he ⊢
    tauto
  issuing := by
    intro e he
    obtain rfl | he := Finset.mem_insert.mp he
    · exact ⟨fun hp => hnew (h.busy e (.inr (.inl hp))), fun hp => hnew (h.busy e (.inr (.inr hp)))⟩
    · exact h.issuing e he
  pending := h.pending
  up := h.up

/-- An operation that is under way keeps the invariant. -/
theorem issued (h : ConnectorInv s) (hentry : entry ∈ s.issuing) : ConnectorInv (s.issued entry) where
  records := h.records
  busy := by
    intro e he
    have hlive := h.busy entry (.inl hentry)
    have := h.busy e
    simp only [ConnectorState.issued, Finset.mem_insert, Finset.mem_erase] at he ⊢
    grind
  issuing := by
    intro e he
    obtain ⟨hne, he⟩ := Finset.mem_erase.mp he
    refine ⟨?_, (h.issuing e he).2⟩
    simp only [ConnectorState.issued, Finset.mem_insert]
    exact not_or.mpr ⟨hne, (h.issuing e he).1⟩
  pending := by
    intro e he
    obtain rfl | he := Finset.mem_insert.mp he
    · exact (h.issuing e hentry).2
    · exact h.pending e he
  up := h.up

/-- A record that is in the set no more may be deleted. -/
theorem abandoned (h : ConnectorInv s) (hentry : entry ∈ s.issuing) (hout : entry ∉ s.connector.records) :
    ConnectorInv (s.abandoned entry) where
  records := by
    intro e he
    exact Finset.mem_erase.mpr ⟨fun heq => hout (heq ▸ he), h.records he⟩
  busy := by
    intro e he
    have := h.busy e
    have := h.issuing entry hentry
    simp only [ConnectorState.abandoned, Finset.mem_erase] at he ⊢
    grind
  issuing := by
    intro e he
    exact h.issuing e (Finset.mem_of_mem_erase he)
  pending := h.pending
  up := h.up

/-- A completion that is taken keeps the invariant. -/
theorem completion (h : ConnectorInv s) (hentry : entry ∈ s.pending) :
    ConnectorInv { s with pending := s.pending.erase entry, processing := insert entry s.processing } where
  records := h.records
  busy := by
    intro e he
    have := h.busy e
    simp only [Finset.mem_insert, Finset.mem_erase] at he ⊢
    grind
  issuing := by
    intro e he
    have := h.issuing e he
    simp only [Finset.mem_insert, Finset.mem_erase]
    grind
  pending := by
    intro e he
    obtain ⟨hne, he⟩ := Finset.mem_erase.mp he
    simp only [Finset.mem_insert]
    exact not_or.mpr ⟨hne, h.pending e he⟩
  up := h.up

/-- A completion that is handled keeps the invariant. -/
theorem processed (h : ConnectorInv s) {detail : EventDetail} (hentry : detail.overlaped ∈ s.processing)
    (hstep : s.processed formatMessage detail = some s') : ConnectorInv s' := by
  obtain ⟨⟨t, call⟩, ht, rfl⟩ := Option.map_eq_some_iff.mp hstep
  obtain ⟨-, ht⟩ := Option.ite_none_right_eq_some.mp ht
  cases ht
  -- the record is in no other hands, so only the set may still refer to it
  have hissuing : detail.overlaped ∉ s.issuing := fun he => (h.issuing _ he).2 hentry
  have hpending : detail.overlaped ∉ s.pending := fun he => h.pending _ he hentry
  refine ⟨?_, ?_, ?_, ?_, h.up⟩
  · intro e he
    obtain ⟨hne, he⟩ := Finset.mem_erase.mp he
    have := h.records he
    dsimp only
    grind
  · intro e he
    have := h.busy e
    simp only [Finset.mem_erase] at he ⊢
    grind
  · intro e he
    have := h.issuing e he
    simp only [Finset.mem_erase]
    grind
  · intro e he
    have := h.pending e he
    simp only [Finset.mem_erase]
    grind

/-- `Shutdown` keeps the invariant. -/
theorem shutdown (h : ConnectorInv s) (hstep : s.shutdown = some s') : ConnectorInv s' := by
  obtain rfl | ⟨reg, rfl⟩ := ConnectorState.shutdown_eq_some hstep
  · exact h
  · exact ⟨Finset.empty_subset _, h.busy, h.issuing, h.pending, fun _ => rfl⟩

end ConnectorInv

/-- No `ConnectEx` fails for a record that is in the set. -/
def KeepsRecords (s : ConnectorState σ) (a : ConnectorAction σ) : Prop :=
  ∀ entry r, a = .issue entry r → r.accepted = false → entry ∉ s.connector.records

/-- **One step** keeps the invariant. -/
theorem ConnectorInv.exec {self : σ} {s s' : ConnectorState σ} {a : ConnectorAction σ} (h : ConnectorInv s)
    (hok : KeepsRecords s a) (hstep : s.exec formatMessage self a = some s') : ConnectorInv s' := by
  cases a with
  | init id ok =>
      cases hstep
      exact h.init id ok
  | enter addr user c =>
      obtain ⟨hnew, hstep⟩ := Option.ite_none_left_eq_some.mp hstep
      obtain ⟨r, hr, rfl⟩ := Option.map_eq_some_iff.mp hstep
      obtain ⟨e, connectex, rfl⟩ | ⟨id, fd, rfl⟩ := ConnectorState.enter_cases hr
      · exact ⟨h.records, h.busy, h.issuing, h.pending, h.up⟩
      · exact h.entered hnew id fd user
  | issue entry r =>
      obtain ⟨hentry, hstep⟩ := Option.ite_none_right_eq_some.mp hstep
      cases hstep
      cases haccepted : r.accepted with
      | true =>
          rw [ConnectorState.issue_of_accepted haccepted]
          exact h.issued hentry
      | false =>
          obtain ⟨e, hissue⟩ := ConnectorState.issue_of_failed formatMessage haccepted
          rw [hissue]
          exact h.abandoned hentry (hok entry r rfl haccepted)
  | completion entry =>
      obtain ⟨hentry, hstep⟩ := Option.ite_none_right_eq_some.mp hstep
      cases hstep
      exact h.completion hentry.1
  | processed detail =>
      obtain ⟨hentry, hstep⟩ := Option.ite_none_right_eq_some.mp hstep
      exact h.processed hentry hstep
  | shutdown => exact h.shutdown hstep
  | others reg =>
      cases hstep
      exact ⟨h.records, h.busy, h.issuing, h.pending, h.up⟩

section Runs

variable {formatMessage} {self : σ} {entries : Nat → ConnectRecord} {reg : Registrations σ} {s : ConnectorState σ}

/-- **Every run** without such a failure keeps it. -/
theorem connectorInv_of_reaches (h : (connectorMachine formatMessage self entries reg).Reaches KeepsRecords s) :
    ConnectorInv s := by
  refine h.invariant ConnectorInv (ConnectorInv.start entries reg) ?_
  intro s a s' _ hok hinv hstep
  exact hinv.exec formatMessage hok hstep

/-- With the invariant `Shutdown` gets through. -/
theorem ConnectorInv.shutdown_isSome (h : ConnectorInv s) : s.shutdown.isSome := by
  cases hdown : s.isShutdown with
  | true => simp [ConnectorState.shutdown, hdown]
  | false => exact (ConnectorState.shutdown_isSome hdown (h.up hdown)).mpr h.records

/-- Where `ConnectEx` fails for a record that is in the set, the set is left with a record that is deleted. -/
theorem ConnectorInv.issue_recordsLive (h : ConnectorInv s) {entry : Nat} (hentry : entry ∈ s.issuing)
    (r : WsaResult) :
    (s.issue formatMessage entry r).2.RecordsLive ↔ (r.accepted = false → entry ∉ s.connector.records) := by
  cases haccepted : r.accepted with
  | true =>
      rw [ConnectorState.issue_of_accepted haccepted]
      simpa using (h.issued hentry).records
  | false =>
      have hfailed : ∃ e, s.issue formatMessage entry r = (some e, s.abandoned entry) :=
        ConnectorState.issue_of_failed formatMessage haccepted
      obtain ⟨e, hissue⟩ := hfailed
      rw [hissue]
      constructor
      · intro hlive _ hin
        exact Finset.notMem_erase entry s.live (hlive hin)
      · intro hout
        exact (h.abandoned hentry (hout rfl)).records

end Runs

/-- **A failed connect attempt** leaves `_records` and the registrations as before exactly if it is not `ConnectEx`
that failed. In the runs in which no `ConnectEx` fails while its record is in the set, all the records in the set are
allocated, and `Shutdown` reads only such records. -/
theorem failed_connect_leaves_no_trace (self : σ) (entries : Nat → ConnectRecord) (reg : Registrations σ) :
    (∀ (s : ConnectorState σ) addr user c, ¬ s.ConnectExFails addr c → s.NoTrace formatMessage self addr user c) ∧
      ∀ s, (connectorMachine formatMessage self entries reg).Reaches KeepsRecords s →
        s.RecordsLive ∧ s.shutdown.isSome ∧
          (∀ addr user c, c.entry ∉ s.live → (s.NoTrace formatMessage self addr user c ↔ ¬ s.ConnectExFails addr c)) ∧
          ∀ entry ∈ s.issuing, ∀ r,
            (s.issue formatMessage entry r).2.RecordsLive ↔ (r.accepted = false → entry ∉ s.connector.records) := by
  refine ⟨fun s addr user c => ConnectorState.noTrace_of_not_fails, ?_⟩
  intro s hs
  have hinv := connectorInv_of_reaches hs
  refine ⟨hinv.records, hinv.shutdown_isSome, ?_, fun entry hentry => hinv.issue_recordsLive hentry⟩
  intro addr user c hnew
  refine ⟨?_, ConnectorState.noTrace_of_not_fails⟩
  intro hno hfails
  exact ConnectorState.not_noTrace_of_fails (fun hin => hnew (hinv.records hin)) hfails hno

/-! ### A connection that is refused at once -/

/-- Calls that succeed up to `ConnectEx`, which has the result `r`. -/
def connectCalls (r : WsaResult) : ConnectCalls :=
  ⟨0, ⟨fun _ => some 5, true⟩, 0, .success, .success, .success, .success, .success, r⟩

/-- `ERROR_IO_PENDING`. -/
def ioPending : WsaResult := .error wsaIoPending

/-- `WSAENETUNREACH`. -/
def netUnreachable : WsaResult := .error 10051

/-- A program with one connector, and no messages for the errors. -/
def loneConnector : Machine (ConnectorState Unit) (ConnectorAction Unit) :=
  connectorMachine (fun _ => "") () (fun _ => ⟨⟨0, 0⟩, 0, 0⟩) fun _ => none

/-- Steps of a call in which `ConnectEx` has the result `r`. -/
def connecting (r : WsaResult) : List (ConnectorAction Unit) :=
  [.init ⟨1, Nat.one_pos⟩ true, .enter loopback 0 (connectCalls r), .issue 0 r]

/-- A connect attempt that is under way; a further one that cannot bind leaves no trace. -/
theorem pending_connect_shuts_down :
    ∃ s, loneConnector.run loneConnector.init (connecting ioPending) = some s ∧ s.connector.records = {0} ∧
      s.RecordsLive ∧ s.shutdown.isSome ∧
      s.NoTrace (fun _ => "") () loopback 0 { connectCalls ioPending with bind := .error 10048 } := by
  have hall := failed_connect_leaves_no_trace (fun _ => "") () (fun _ => ⟨⟨0, 0⟩, 0, 0⟩) fun _ => none
  have hok : ∀ a ∈ connecting ioPending, ∀ t, KeepsRecords t a := by
    intro a ha t entry r heq hfails
    subst heq
    simp only [connecting, List.mem_cons, reduceCtorEq, ConnectorAction.issue.injEq, List.not_mem_nil, or_false,
      false_or] at ha
    rw [ha.2] at hfails
    cases hfails
  obtain ⟨s, hrun, hrecords⟩ : ∃ s, loneConnector.run loneConnector.init (connecting ioPending) = some s ∧
      s.connector.records = {0} := ⟨_, rfl, rfl⟩
  obtain ⟨hlive, hshutdown, -⟩ := hall.2 s (Machine.Reaches.run .init hok hrun)
  refine ⟨s, hrun, hrecords, hlive, hshutdown, hall.1 s loopback 0 _ ?_⟩
  intro hfails
  cases hfails.binds.bind

/-- A `ConnectEx` that fails: the record stays in the set and the registration stays, though the record is freed;
and then `Shutdown` does not get through. -/
theorem refused_connect_dangles :
    (∃ s, loneConnector.run loneConnector.init [.init ⟨1, Nat.one_pos⟩ true] = some s ∧
        ¬ s.NoTrace (fun _ => "") () loopback 0 (connectCalls netUnreachable)) ∧
      ∃ s, loneConnector.run loneConnector.init (connecting netUnreachable) = some s ∧
        0 ∈ s.connector.records ∧ 0 ∉ s.live ∧ (s.registrations 5).isSome ∧ s.shutdown = none := by
  constructor
  · refine ⟨_, rfl, ?_⟩
    intro hno
    have hsame : ({0} : Finset Nat) = ∅ := (hno _ _ rfl).1
    exact Finset.singleton_ne_empty 0 hsame
  · obtain ⟨s, hrun, hrecords, hlive, hreg, hup, hpoll⟩ : ∃ s,
        loneConnector.run loneConnector.init (connecting netUnreachable) = some s ∧ s.connector.records = {0} ∧
          s.live = ∅ ∧ (s.registrations 5).isSome ∧ s.isShutdown = false ∧ s.pollThread = some 1 :=
      ⟨_, rfl, rfl, rfl, rfl, rfl, rfl⟩
    have hdead : 0 ∉ s.live := by simp [hlive]
    refine ⟨s, hrun, by simp [hrecords], hdead, hreg, ?_⟩
    rw [← Option.not_isSome_iff_eq_none, ConnectorState.shutdown_isSome hup (by simp [hpoll])]
    intro hall
    exact hdead (hall (by simp [hrecords]))

end Connect

end RaptorLite.Windows

import RaptorLite.Utils.MpscqMemory

/-! # The log

`LogFormatPrint` in any number of threads, the thread that prints (`LogThreadProc`), and the thread that starts
and ends the log (`LogStartup`, `LogCleanup`), around one `MultiProducerSingleConsumerQueue`. The steps are those
of the queue and the accesses of the shared variables; the messages and the `LogMsgNode`s are allocated and freed,
and any address that is free may be given out again. A step that uses memory that is not allocated sets `fault`.

The histories say which records passed the level test, which were put into the queue, what became of those taken
out of it, and which messages nobody frees. -/

namespace RaptorLite

/-- `LogLevel`. -/
inductive LogLevel where
  /-- 0. -/
  | kDebug
  /-- 1. -/
  | kInfo
  /-- 2. -/
  | kWarn
  /-- 3. -/
  | kError
  deriving DecidableEq, Repr

/-- The value of the enumerator. -/
def LogLevel.toNat : LogLevel → Nat
  | .kDebug => 0
  | .kInfo => 1
  | .kWarn => 2
  | .kError => 3

/-- `LogArgument`. -/
structure LogArgument (n : Nat) where
  /-- `file`. -/
  file : String
  /-- `line`. -/
  line : Int
  /-- `level`. -/
  level : LogLevel
  /-- `message`: the address of the text. -/
  message : Nat
  /-- `threadid`. -/
  threadid : Fin n
  deriving DecidableEq, Repr

/-- What a `LogArgument` says, with the text itself. -/
structure LogRecord (n : Nat) where
  /-- The file. -/
  file : String
  /-- The line. -/
  line : Int
  /-- The level. -/
  level : LogLevel
  /-- The text. -/
  text : String
  /-- The thread. -/
  threadid : Fin n
  deriving DecidableEq, Repr

/-- The record, once the text is looked up. -/
def LogArgument.record {n : Nat} (args : LogArgument n) (text : String) : LogRecord n :=
  ⟨args.file, args.line, args.level, text, args.threadid⟩

/-- Where a thread stands in `LogFormatPrint`, outside of `push`. -/
inductive LogCallerPc (n : Nat) where
  /-- Not in the call, or in its `push`. -/
  | idle
  /-- The message is formatted; about to load `g_min_level`. -/
  | formatted (args : LogArgument n)
  deriving DecidableEq, Repr

/-- Where the thread `g_thd` stands. -/
inductive LogThreadPc where
  /-- There is none. -/
  | absent
  /-- Created; waits for `Start`. -/
  | waiting
  /-- About to load `g_shutdown`. -/
  | loop
  /-- In `pop`. -/
  | popping
  /-- `pop` returned a node; about to call the callback. -/
  | holding (node : QueueNode)
  /-- The callback returned; about to free. -/
  | printed (node : QueueNode)
  /-- `LogThreadProc` returned. -/
  | ended
  deriving DecidableEq, Repr

/-- Where the thread that starts and ends the log stands. -/
inductive LogOwnerPc where
  /-- In neither of the two. -/
  | idle
  /-- `LogStartup`: the thread is created; about to clear `g_shutdown`. -/
  | created
  /-- `LogStartup`: about to start the thread. -/
  | flagged
  /-- `LogCleanup`: `g_shutdown` is set; in `Join`. -/
  | joining
  /-- `LogCleanup`: in `PopAndCheckEnd`. -/
  | draining
  /-- `LogCleanup`: about to free what `PopAndCheckEnd` returned. -/
  | clearing (node : QueueNode) (empty : Bool)
  deriving DecidableEq, Repr

/-- What becomes of a record that was taken out of the queue. -/
inductive LogFate where
  /-- A callback was called with it. -/
  | printed (callback : Nat)
  /-- `LogCleanup` freed it. -/
  | discarded
  deriving DecidableEq, Repr

/-- The log with `n` threads that write to it. -/
structure LogState (n : Nat) where
  /-- `g_mpscq`. -/
  queue : MpscState n
  /-- The allocated nodes. -/
  nodes : Nat → Option (LogArgument n)
  /-- The allocated messages. -/
  texts : Nat → Option String
  /-- `g_shutdown`. -/
  shutdown : Bool
  /-- `g_min_level`. -/
  minLevel : LogLevel
  /-- `g_log_function`. -/
  logFunction : Nat
  /-- The threads that write. -/
  callers : Fin n → LogCallerPc n
  /-- `g_thd`. -/
  thread : LogThreadPc
  /-- The thread that starts and ends the log. -/
  owner : LogOwnerPc
  /-- The records that passed the level test, in order. -/
  passed : List (LogRecord n)
  /-- The records in the order of their exchanges. -/
  accepted : List (LogRecord n)
  /-- The records that were taken out, with what became of them. -/
  handled : List (LogRecord n × LogFate)
  /-- The calls that did not pass the level test. -/
  dropped : List (LogArgument n)
  /-- Memory that is not allocated has been used. -/
  fault : Bool

namespace LogState

variable {n : Nat}

/-- `args` of a node. -/
def argsOf (s : LogState n) : QueueNode → Option (LogArgument n)
  | .stub => none
  | .item a => s.nodes a

/-- What a node says. -/
def record (s : LogState n) (node : QueueNode) : Option (LogRecord n) :=
  (s.argsOf node).bind fun args => (s.texts args.message).map args.record

/-- The node may be used: the queue's own, or an allocated one. -/
def live (s : LogState n) (node : QueueNode) : Bool :=
  node = .stub || (s.argsOf node).isSome

/-- One step of the queue. -/
def queueStep (s : LogState n) (a : MpscAction n) : Option (LogState n) :=
  (s.queue.step a).map fun queue =>
    { s with
      queue := queue
      fault := s.fault || (s.queue.touched a).any fun node => !s.live node }

/-- `LogFormatPrint` up to the formatted message. The text is `none` when formatting fails. -/
def call (s : LogState n) (p : Fin n) (file : String) (line : Int) (level : LogLevel)
    (text : Option String) (message : Nat) : Option (LogState n) :=
  if s.callers p = .idle ∧ s.queue.producers p = .idle then
    if s.shutdown then some s
    else
      match text with
      | none => some s
      | some text =>
          if s.texts message = none then
            some { s with
              texts := Function.update s.texts message (some text)
              callers := Function.update s.callers p (.formatted ⟨file, line, level, message, p⟩) }
          else none
  else none

/-- `new LogMsgNode`, and the arguments stored in it. -/
def newNode (s : LogState n) (p : Fin n) (args : LogArgument n) (address : Nat) : LogState n :=
  { s with
    callers := Function.update s.callers p .idle
    nodes := Function.update s.nodes address (some args)
    passed := s.passed ++ ((s.texts args.message).map args.record).toList }

/-- The level test, and what follows it up to `node->next.Store(nullptr)`. -/
def check (s : LogState n) (p : Fin n) (address : Nat) : Option (LogState n) :=
  match s.callers p with
  | .idle => none
  | .formatted args =>
      if s.minLevel.toNat ≤ args.level.toNat then
        if s.nodes address = none then (s.newNode p args address).queueStep (.push p (.item address))
        else none
      else
        -- the `free(message)` behind it is commented out
        some { s with
          callers := Function.update s.callers p .idle
          dropped := s.dropped ++ [args] }

/-- The exchange of `push`. -/
def exchange (s : LogState n) (p : Fin n) : Option (LogState n) :=
  match s.queue.producers p with
  | .stored node =>
      (s.queueStep (.exchange p)).map fun s' =>
        { s' with accepted := s.accepted ++ (s.record node).toList }
  | _ => none

/-- The next access of a pop, and `k` once the pop has returned. -/
def popStep (s : LogState n) (k : Option QueueNode → Bool → LogState n → LogState n) : Option (LogState n) :=
  (s.queueStep .consume).map fun s' =>
    if s'.queue.consumer = .idle then
      match s'.queue.results.getLast? with
      | some (node, empty) => k node empty s'
      | none => s'
    else s'

/-- What becomes of a record. -/
def settle (s : LogState n) (node : QueueNode) (fate : LogFate) : LogState n :=
  match s.record node with
  | some record => { s with handled := s.handled ++ [(record, fate)] }
  | none => { s with fault := true }

/-- `free(const_cast<char *>(msg->args.message)); delete msg;` -/
def release (s : LogState n) (node : QueueNode) : LogState n :=
  match node with
  | .stub => { s with fault := true }
  | .item a =>
      match s.nodes a with
      | none => { s with fault := true }
      | some args =>
          { s with
            nodes := Function.update s.nodes a none
            texts := Function.update s.texts args.message none
            fault := s.fault || (s.texts args.message).isNone }

/-- The next step of `LogThreadProc`. -/
def work (s : LogState n) : Option (LogState n) :=
  match s.thread with
  | .absent => none
  | .waiting => none
  | .ended => none
  | .loop => some { s with thread := if s.shutdown then .ended else .popping }
  | .popping =>
      s.popStep fun node _ s =>
        match node with
        | some node => { s with thread := .holding node }
        | none => { s with thread := .loop }
  | .holding node => some { s.settle node (.printed s.logFunction) with thread := .printed node }
  | .printed node => some { s.release node with thread := .loop }

/-- `LogStartup` is called. Whether the thread can be created is a parameter. -/
def startup (s : LogState n) (created : Bool) : Option (LogState n) :=
  if s.owner = .idle then
    if s.shutdown then some { s with thread := if created then .waiting else .absent, owner := .created }
    else some s
  else none

/-- `LogCleanup` is called. -/
def cleanup (s : LogState n) : Option (LogState n) :=
  if s.owner = .idle then
    if s.shutdown then some s
    else some { s with shutdown := true, owner := .joining }
  else none

/-- The next step of `LogStartup` or `LogCleanup`. -/
def own (s : LogState n) : Option (LogState n) :=
  match s.owner with
  | .idle => none
  | .created => some { s with shutdown := false, owner := .flagged }
  -- `Start` and `Join` do nothing when the thread could not be created
  | .flagged => some { s with thread := if s.thread = .waiting then .loop else s.thread, owner := .idle }
  | .joining =>
      if s.thread = .ended ∨ s.thread = .absent then some { s with thread := .absent, owner := .draining }
      else none
  | .draining =>
      s.popStep fun node empty s =>
        match node with
        | some node => { s with owner := .clearing node empty }
        | none => { s with owner := if empty then .idle else .draining }
  | .clearing node empty =>
      some { (s.settle node .discarded).release node with owner := if empty then .idle else .draining }

end LogState

/-- The steps of the threads. -/
inductive LogAction (n : Nat) where
  /-- Thread `p` calls `LogFormatPrint`; the address is the one `vasprintf` allocates. -/
  | call (p : Fin n) (file : String) (line : Int) (level : LogLevel) (text : Option String) (message : Nat)
  /-- Thread `p` tests the level; the address is the one `new` returns. -/
  | check (p : Fin n) (address : Nat)
  /-- Thread `p` exchanges `_newest`. -/
  | exchange (p : Fin n)
  /-- Thread `p` stores the link and returns. -/
  | link (p : Fin n)
  /-- `LogSetLevel`. -/
  | setLevel (level : LogLevel)
  /-- `LogSetPrintCallback`. -/
  | setPrintCallback (func : Nat)
  /-- `LogStartup` is called. -/
  | startup (created : Bool)
  /-- `LogCleanup` is called. -/
  | cleanup
  /-- The next step of the thread that starts and ends the log. -/
  | own
  /-- The next step of the thread that prints. -/
  | work
  deriving DecidableEq, Repr

/-- One step. -/
def LogState.exec {n : Nat} (s : LogState n) : LogAction n → Option (LogState n)
  | .call p file line level text message => s.call p file line level text message
  | .check p address => s.check p address
  | .exchange p => s.exchange p
  | .link p => s.queueStep (.link p)
  | .setLevel level => some { s with minLevel := level }
  | .setPrintCallback func => some { s with logFunction := func }
  | .startup created => s.startup created
  | .cleanup => s.cleanup
  | .own => s.own
  | .work => s.work

/-- The log before the first `LogStartup`; callback 0 is `log_default_print`. -/
def logMachine (n : Nat) : Machine (LogState n) (LogAction n) where
  init :=
    { queue := (mpscMachine n).init, nodes := fun _ => none, texts := fun _ => none, shutdown := true,
      minLevel := .kDebug, logFunction := 0, callers := fun _ => .idle, thread := .absent, owner := .idle,
      passed := [], accepted := [], handled := [], dropped := [], fault := false }
  step := LogState.exec

end RaptorLite

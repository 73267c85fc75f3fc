import Mathlib.Logic.Function.Basic
import Zuicity.Io
import Zuicity.Lib.Bytes
import Zuicity.Lib.Runs

/-!
# Copying one direction of a TCP relay (`zuicity-transport` and `zuicity-client`)

The plain loop reads into one buffer and writes it out.  The loop that reads ahead has two buffers:
while one is written, the next read fills the other.  Both loops exist twice, with a deadline on
each write in `zuicity-transport` and without one in `zuicity-client`.

The reader and the writer are lists of the answers they will give: the bytes of each read (none at
the end of the stream) or its error, and what each poll of the writer accepts.  A loop whose list of
answers is used up waits.
-/

namespace Zuicity

inductive WriteAnswer where
  | accept (n : Nat)
  | failed (e : IoError)
  /-- the deadline of the write passes first -/
  | stalled
deriving DecidableEq

inductive CopyExit where
  | copied (n : UInt64)
  | readFailed (e : IoError)
  | writeFailed (e : IoError)
  | flushFailed (e : IoError)
deriving DecidableEq

def CopyExit.result : CopyExit → IoResult UInt64
  | .copied n => .ok n
  | .readFailed e | .writeFailed e | .flushFailed e => .error e

/-- what a copy loop writes, and its exit if it ends -/
structure Copied where
  written : Bytes
  exit : Option CopyExit
deriving DecidableEq

section
variable (c : Copied)

def Copied.after (pre : Bytes) : Copied := ⟨pre ++ c.written, c.exit⟩

@[simp] lemma Copied.after_nil : c.after [] = c := rfl

@[simp] lemma Copied.after_after (a b : Bytes) : (c.after b).after a = c.after (a ++ b) := by
  unfold Copied.after
  rw [List.append_assoc]

@[simp] lemma Copied.exit_after (a : Bytes) : (c.after a).exit = c.exit := rfl

end

inductive WritePoll where
  | done
  | failed (e : IoError)
  | pending (left : Bytes)

/-- one answer to the future of `write_all`, which has `left` to write, or to that of
`write_all_with_stall_timeout`: the bytes accepted, and where the future is then -/
def writeOnce (stallTimeout : Bool) (left : Bytes) : WriteAnswer → Bytes × WritePoll
  | .accept n =>
    if n = 0 then ([], .failed (.simple .writeZero))
    else (left.take n, if left.drop n = [] then .done else .pending (left.drop n))
  | .failed e => ([], .failed e)
  | .stalled => ([], if stallTimeout then .failed (.simple .timedOut) else .pending left)

/-! ## the plain loop -/

section
variable (stallTimeout : Bool) (flush : Option (IoResult Unit))

def writeAll (left : Bytes) : List WriteAnswer → (List WriteAnswer → Copied) → Copied
  | [], _ => ⟨[], none⟩
  | a :: writes, k => match writeOnce stallTimeout left a with
    | (accepted, .done) => (k writes).after accepted
    | (accepted, .failed e) => ⟨accepted, some (.writeFailed e)⟩
    | (accepted, .pending left) => (writeAll left writes k).after accepted

def flushed (copied : UInt64) : Copied :=
  ⟨[], flush.map fun r => match r with
    | .ok () => .copied copied
    | .error e => .flushFailed e⟩

def copyLoop : List (IoResult Bytes) → List WriteAnswer → UInt64 → Copied
  | [], _, _ => ⟨[], none⟩
  | .error e :: _, _, _ => ⟨[], some (.readFailed e)⟩
  | .ok buffer :: reads, writes, copied =>
    if buffer.length = 0 then flushed flush copied
    else writeAll stallTimeout buffer writes fun writes =>
      copyLoop reads writes (copied + UInt64.ofNat buffer.length)

end

section
variable (reads : List (IoResult Bytes)) (writes : List WriteAnswer) (flush : Option (IoResult Unit))

def relayCopyWithStallTimeout : Copied := copyLoop true flush reads writes 0

def relayCopy : Copied := copyLoop false flush reads writes 0

end

/-! ## the loop that reads ahead -/

inductive ReadAheadPhase where
  | firstRead
  /-- the write future has `left` to write; `readResult` is the result of the read beside it -/
  | writing (left : Bytes) (readResult : Option (IoResult Nat))
  | awaitingRead
  | flushing
  | returned (exit : CopyExit)

structure ReadAhead where
  stallTimeout : Bool
  flush : Option (IoResult Unit)
  reads : List (IoResult Bytes)
  writes : List WriteAnswer
  buffers : Fin 2 → Bytes := fun _ => []
  current : Fin 2 := 0
  currentLen : Nat := 0
  copied : UInt64 := 0
  phase : ReadAheadPhase := .firstRead
  read : Bytes := []
  /-- log: all bytes that the writer accepted -/
  written : Bytes := []

inductive CopyEvent where
  | read
  | write
  | flush
deriving DecidableEq

namespace ReadAhead

variable (s : ReadAhead)

def next : Fin 2 := 1 - s.current

def loopHead : ReadAhead :=
  if s.currentLen = 0 then { s with phase := .flushing }
  else { s with
    buffers := Function.update s.buffers s.next []
    phase := .writing ((s.buffers s.current).take s.currentLen) none }

def roundDone (nextLen : Nat) : ReadAhead :=
  loopHead { s with
    copied := s.copied + UInt64.ofNat s.currentLen
    current := s.next
    currentLen := nextLen }

def readBuf (i : Fin 2) : Option (ReadAhead × IoResult Nat) :=
  match s.reads with
  | [] => none
  | .error e :: reads => some ({ s with reads := reads }, .error e)
  | .ok bytes :: reads => some ({ s with
      reads := reads
      buffers := Function.update s.buffers i (s.buffers i ++ bytes)
      read := s.read ++ bytes }, .ok bytes.length)

/-- the result of the read is taken: `result?` -/
def takeRead : IoResult Nat → ReadAhead
  | .ok nextLen => s.roundDone nextLen
  | .error e => { s with phase := .returned (.readFailed e) }

def stepRead : ReadAhead :=
  match s.phase with
  | .firstRead => match s.readBuf s.current with
    | none => s
    | some (s, .ok n) => loopHead { s with currentLen := n }
    | some (s, .error e) => { s with phase := .returned (.readFailed e) }
  | .writing left none => match s.readBuf s.next with
    | none => s
    | some (s, result) => { s with phase := .writing left (some result) }
  | .awaitingRead => match s.readBuf s.next with
    | none => s
    | some (s, result) => s.takeRead result
  | _ => s

def stepWrite : ReadAhead :=
  match s.phase, s.writes with
  | .writing left readResult, a :: writes =>
    let (accepted, poll) := writeOnce s.stallTimeout left a
    let s := { s with writes := writes, written := s.written ++ accepted }
    match poll with
    | .pending left => { s with phase := .writing left readResult }
    | .failed e => { s with phase := .returned (.writeFailed e) }
    | .done => match readResult with
      | some result => s.takeRead result
      | none => { s with phase := .awaitingRead }
  | _, _ => s

def stepFlush : ReadAhead :=
  match s.phase, s.flush with
  | .flushing, some (.ok ()) => { s with phase := .returned (.copied s.copied) }
  | .flushing, some (.error e) => { s with phase := .returned (.flushFailed e) }
  | _, _ => s

def step : CopyEvent → ReadAhead
  | .read => s.stepRead
  | .write => s.stepWrite
  | .flush => s.stepFlush

end ReadAhead

variable (reads : List (IoResult Bytes)) (writes : List WriteAnswer) (flush : Option (IoResult Unit))

def relayCopyReadAheadWithStallTimeout : ReadAhead :=
  { stallTimeout := true, flush := flush, reads := reads, writes := writes }

def relayCopyLocalToQuic : ReadAhead :=
  { stallTimeout := false, flush := flush, reads := reads, writes := writes }

end Zuicity

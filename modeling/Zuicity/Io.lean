import Mathlib.Data.List.Basic

/-!
# I/O errors as the standard library reports them

An error is an OS error number, a bare kind, or a kind with a message.  Only the first has a raw
OS error; its kind is the one Linux's numbers decode to (`IoError.decodeErrorKind`).
-/

inductive ErrorKind where
  | notFound
  | interrupted
  | wouldBlock
  | outOfMemory
  | invalidInput
  | invalidData
  | brokenPipe
  | writeZero
  | unexpectedEof
  | timedOut
  | connectionRefused
  | connectionReset
  | notConnected
  | addrNotAvailable
  | networkDown
  | networkUnreachable
  | hostUnreachable
  | unsupported
  | other
  | uncategorized
deriving DecidableEq

/-- an OS error number, a bare kind, or a kind with a message -/
inductive IoError where
  | os (errno : Nat)
  | simple (kind : ErrorKind)
  | custom (kind : ErrorKind) (message : String)
deriving DecidableEq

namespace IoError

def eintr : Nat := 4
def eio : Nat := 5
def eagain : Nat := 11
def einval : Nat := 22

def decodeErrorKind (errno : Nat) : ErrorKind :=
  if errno = 2 then .notFound
  else if errno = eintr then .interrupted
  else if errno = eagain then .wouldBlock
  else if errno = 12 then .outOfMemory
  else if errno = einval then .invalidInput
  else if errno = 32 then .brokenPipe
  else if errno = 99 then .addrNotAvailable
  else if errno = 100 then .networkDown
  else if errno = 101 then .networkUnreachable
  else if errno = 104 then .connectionReset
  else if errno = 107 then .notConnected
  else if errno = 110 then .timedOut
  else if errno = 111 then .connectionRefused
  else if errno = 113 then .hostUnreachable
  else .uncategorized

def kind : IoError → ErrorKind
  | .os errno => decodeErrorKind errno
  | .simple k => k
  | .custom k _ => k

def rawOsError : IoError → Option Nat
  | .os errno => some errno
  | _ => none

end IoError

abbrev IoResult (α : Type) := Except IoError α

import CyclicRedundancy.Text.Inspect

/-!
# Failures of input and output

Why a stream refused to read, write or open. A failure is either reported by the operating system
under a number, or by a stream with a text of its own; each belongs to a kind, and the only kind
that callers treat apart is an interruption, after which the same call is made again.
-/

namespace CyclicRedundancy

namespace Failure

/-- The kinds of failure. -/
inductive Kind where
  | notFound | permissionDenied | connectionRefused | connectionReset | hostUnreachable
  | networkUnreachable | connectionAborted | notConnected | addrInUse | addrNotAvailable
  | networkDown | brokenPipe | alreadyExists | wouldBlock | notADirectory | isADirectory
  | directoryNotEmpty | readOnlyFilesystem | staleNetworkFileHandle | invalidInput | invalidData
  | timedOut | writeZero | storageFull | notSeekable | quotaExceeded | fileTooLarge | resourceBusy
  | executableFileBusy | deadlock | crossesDevices | tooManyLinks | invalidFilename
  | argumentListTooLong | interrupted | unsupported | unexpectedEof | outOfMemory | other
  deriving DecidableEq, Repr, Inhabited

namespace Kind

/-- The name of a kind. -/
def name : Kind → String
  | notFound => "NotFound"
  | permissionDenied => "PermissionDenied"
  | connectionRefused => "ConnectionRefused"
  | connectionReset => "ConnectionReset"
  | hostUnreachable => "HostUnreachable"
  | networkUnreachable => "NetworkUnreachable"
  | connectionAborted => "ConnectionAborted"
  | notConnected => "NotConnected"
  | addrInUse => "AddrInUse"
  | addrNotAvailable => "AddrNotAvailable"
  | networkDown => "NetworkDown"
  | brokenPipe => "BrokenPipe"
  | alreadyExists => "AlreadyExists"
  | wouldBlock => "WouldBlock"
  | notADirectory => "NotADirectory"
  | isADirectory => "IsADirectory"
  | directoryNotEmpty => "DirectoryNotEmpty"
  | readOnlyFilesystem => "ReadOnlyFilesystem"
  | staleNetworkFileHandle => "StaleNetworkFileHandle"
  | invalidInput => "InvalidInput"
  | invalidData => "InvalidData"
  | timedOut => "TimedOut"
  | writeZero => "WriteZero"
  | storageFull => "StorageFull"
  | notSeekable => "NotSeekable"
  | quotaExceeded => "QuotaExceeded"
  | fileTooLarge => "FileTooLarge"
  | resourceBusy => "ResourceBusy"
  | executableFileBusy => "ExecutableFileBusy"
  | deadlock => "Deadlock"
  | crossesDevices => "CrossesDevices"
  | tooManyLinks => "TooManyLinks"
  | invalidFilename => "InvalidFilename"
  | argumentListTooLong => "ArgumentListTooLong"
  | interrupted => "Interrupted"
  | unsupported => "Unsupported"
  | unexpectedEof => "UnexpectedEof"
  | outOfMemory => "OutOfMemory"
  | other => "Other"

/-- Every kind. -/
def all : List Kind :=
  [notFound, permissionDenied, connectionRefused, connectionReset, hostUnreachable,
    networkUnreachable, connectionAborted, notConnected, addrInUse, addrNotAvailable, networkDown,
    brokenPipe, alreadyExists, wouldBlock, notADirectory, isADirectory, directoryNotEmpty,
    readOnlyFilesystem, staleNetworkFileHandle, invalidInput, invalidData, timedOut, writeZero,
    storageFull, notSeekable, quotaExceeded, fileTooLarge, resourceBusy, executableFileBusy,
    deadlock, crossesDevices, tooManyLinks, invalidFilename, argumentListTooLong, interrupted,
    unsupported, unexpectedEof, outOfMemory, other]

/-- The kind of a given name. -/
def ofName? (name : String) : Option Kind := all.find? (·.name == name)

end Kind

/-- The refusals of the operating system that opening and reading a file meets. -/
inductive System where
  | notFound | notADirectory | isADirectory | nameTooLong
  deriving DecidableEq, Repr, Inhabited

namespace System

/-- The number under which the system reports a refusal. -/
def code : System → Nat
  | notFound => 2
  | notADirectory => 20
  | isADirectory => 21
  | nameTooLong => 36

/-- The kind to which a refusal belongs. -/
def kind : System → Kind
  | notFound => .notFound
  | notADirectory => .notADirectory
  | isADirectory => .isADirectory
  | nameTooLong => .invalidFilename

/-- The wording of the system. -/
def text : System → String
  | notFound => "No such file or directory"
  | notADirectory => "Not a directory"
  | isADirectory => "Is a directory"
  | nameTooLong => "File name too long"

end System

end Failure

/-- Why a stream refused. -/
inductive Failure where
  /-- The operating system refused. -/
  | system (refusal : Failure.System)
  /-- A stream, or a loop over one, gave up with a text of its own. -/
  | reported (kind : Failure.Kind) (text : String)
  deriving DecidableEq, Repr, Inhabited

namespace Failure

/-- The kind of a failure. -/
def kind : Failure → Kind
  | system refusal => refusal.kind
  | reported kind _ => kind

/-- The wording of a failure. -/
def message : Failure → String
  | system refusal => refusal.text ++ " (os error " ++ toString refusal.code ++ ")"
  | reported _ text => text

/-- A failure as shown to a developer. -/
def inspect : Failure → String
  | system refusal =>
    Text.record "Os"
      [("code", toString refusal.code), ("kind", refusal.kind.name),
        ("message", Text.quoted refusal.text)]
  | reported kind text =>
    Text.record "Custom" [("kind", kind.name), ("error", Text.quoted text)]

end Failure

end CyclicRedundancy

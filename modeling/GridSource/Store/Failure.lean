/-!
# Failed requests

What a client may answer instead of a response.  Failures of the transport and
of the operating system mean that the request could not be completed; the
others are faults of the client or its caller and are passed on as they are.
-/

namespace GridSource

/-- The families of failures: of the transport, of the operating system, neither. -/
inductive FailureFamily where
  | transport
  | operatingSystem
  | other
deriving Repr, DecidableEq, Inhabited

inductive FailureKind where
  | connect
  | read
  | write
  | close
  | connectTimeout
  | readTimeout
  | writeTimeout
  | poolTimeout
  | localProtocol
  | remoteProtocol
  | unsupportedProtocol
  | proxy
  | operatingSystem
  | blockingInput
  | brokenPipe
  | childProcess
  | connectionAborted
  | connectionRefused
  | connectionReset
  | fileExists
  | fileNotFound
  | interrupted
  | isDirectory
  | notDirectory
  | permission
  | processLookup
  | timeout
  | tooManyRedirects
  | decoding
  | invalidUrl
  | value
  | runtime
  /-- Any other kind, by its name and its family. -/
  | unlisted (name : String) (family : FailureFamily)
deriving Repr, DecidableEq, Inhabited

namespace FailureKind

def all : List FailureKind :=
  [.connect, .read, .write, .close, .connectTimeout, .readTimeout, .writeTimeout, .poolTimeout,
    .localProtocol, .remoteProtocol, .unsupportedProtocol, .proxy, .operatingSystem,
    .blockingInput, .brokenPipe, .childProcess, .connectionAborted, .connectionRefused,
    .connectionReset, .fileExists, .fileNotFound, .interrupted, .isDirectory, .notDirectory,
    .permission, .processLookup, .timeout, .tooManyRedirects, .decoding, .invalidUrl, .value,
    .runtime]

def name : FailureKind → String
  | .connect => "ConnectError"
  | .read => "ReadError"
  | .write => "WriteError"
  | .close => "CloseError"
  | .connectTimeout => "ConnectTimeout"
  | .readTimeout => "ReadTimeout"
  | .writeTimeout => "WriteTimeout"
  | .poolTimeout => "PoolTimeout"
  | .localProtocol => "LocalProtocolError"
  | .remoteProtocol => "RemoteProtocolError"
  | .unsupportedProtocol => "UnsupportedProtocol"
  | .proxy => "ProxyError"
  | .operatingSystem => "OSError"
  | .blockingInput => "BlockingIOError"
  | .brokenPipe => "BrokenPipeError"
  | .childProcess => "ChildProcessError"
  | .connectionAborted => "ConnectionAbortedError"
  | .connectionRefused => "ConnectionRefusedError"
  | .connectionReset => "ConnectionResetError"
  | .fileExists => "FileExistsError"
  | .fileNotFound => "FileNotFoundError"
  | .interrupted => "InterruptedError"
  | .isDirectory => "IsADirectoryError"
  | .notDirectory => "NotADirectoryError"
  | .permission => "PermissionError"
  | .processLookup => "ProcessLookupError"
  | .timeout => "TimeoutError"
  | .tooManyRedirects => "TooManyRedirects"
  | .decoding => "DecodingError"
  | .invalidUrl => "InvalidURL"
  | .value => "ValueError"
  | .runtime => "RuntimeError"
  | .unlisted name _ => name

def ofName? (name : String) : Option FailureKind := all.find? fun kind => kind.name == name

def isOperatingSystem : FailureKind → Bool
  | .operatingSystem | .blockingInput | .brokenPipe | .childProcess | .connectionAborted
  | .connectionRefused | .connectionReset | .fileExists | .fileNotFound | .interrupted
  | .isDirectory | .notDirectory | .permission | .processLookup | .timeout
  | .unlisted _ .operatingSystem => true
  | _ => false

def isTransport : FailureKind → Bool
  | .connect | .read | .write | .close | .connectTimeout | .readTimeout | .writeTimeout
  | .poolTimeout | .localProtocol | .remoteProtocol | .unsupportedProtocol | .proxy
  | .unlisted _ .transport => true
  | _ => false

/-- Whether the request itself could not be completed. -/
def isIncomplete (kind : FailureKind) : Bool := kind.isTransport || kind.isOperatingSystem

/-- The kind an error number of the operating system stands for. -/
def ofErrorNumber (number : Int) : FailureKind :=
  match number with
  | 1 | 13 => .permission
  | 2 => .fileNotFound
  | 3 => .processLookup
  | 4 => .interrupted
  | 10 => .childProcess
  | 11 | 114 | 115 => .blockingInput
  | 17 => .fileExists
  | 20 => .notDirectory
  | 21 => .isDirectory
  | 32 | 108 => .brokenPipe
  | 103 => .connectionAborted
  | 104 => .connectionReset
  | 110 => .timeout
  | 111 => .connectionRefused
  | _ => .operatingSystem

end FailureKind

structure Failure where
  kind : FailureKind
  message : String
deriving Repr, DecidableEq, Inhabited

namespace Failure

/-- A failure with an error number.  The general kind takes the kind of its
number. -/
def numbered (kind : FailureKind) (number : Int) (message : String) : Failure :=
  { kind := if kind = .operatingSystem then .ofErrorNumber number else kind
    message := "[Errno " ++ toString number ++ "] " ++ message }

/-- The message, or the name of the kind when there is none. -/
def reason (failure : Failure) : String :=
  if failure.message.isEmpty then failure.kind.name else failure.message

end Failure

end GridSource

import RavenBinding.Text.Quoted

/-!
# Faults of the surroundings

What a connection, or a value asked for its text, may raise: a kind and a text.

## Main definitions

- `FaultKind`: the kinds, with `FaultKind.isConnection` for those of the HTTP layer,
  `FaultKind.isOfExchange` for those that an exchange reports, and `FaultKind.isRuntimeError`
- `Fault`: a kind with its text
-/

namespace RavenBinding

/-- The kinds of faults. -/
inductive FaultKind where
  | connectError
  | readTimeout
  | connectTimeout
  | poolTimeout
  | readError
  | writeError
  | closeError
  | remoteProtocolError
  | unsupportedProtocol
  | proxyError
  | decodingError
  | tooManyRedirects
  | invalidUrl
  | runtimeError
  | valueError
  | keyError
  | osError
  | typeError
  | overflowError
  | attributeError
  | recursionError
  | assertionError
  | unicodeError
  | unicodeEncodeError
  | idnaError
  | idnaBidiError
  | invalidCodepoint
  | invalidCodepointContext
  deriving DecidableEq, Repr

namespace FaultKind

/-- The name that logs and quoted values show. -/
def name : FaultKind → Text
  | connectError => "ConnectError"
  | readTimeout => "ReadTimeout"
  | connectTimeout => "ConnectTimeout"
  | poolTimeout => "PoolTimeout"
  | readError => "ReadError"
  | writeError => "WriteError"
  | closeError => "CloseError"
  | remoteProtocolError => "RemoteProtocolError"
  | unsupportedProtocol => "UnsupportedProtocol"
  | proxyError => "ProxyError"
  | decodingError => "DecodingError"
  | tooManyRedirects => "TooManyRedirects"
  | invalidUrl => "InvalidURL"
  | runtimeError => "RuntimeError"
  | valueError => "ValueError"
  | keyError => "KeyError"
  | osError => "OSError"
  | typeError => "TypeError"
  | overflowError => "OverflowError"
  | attributeError => "AttributeError"
  | recursionError => "RecursionError"
  | assertionError => "AssertionError"
  | unicodeError => "UnicodeError"
  | unicodeEncodeError => "UnicodeEncodeError"
  | idnaError => "IDNAError"
  | idnaBidiError => "IDNABidiError"
  | invalidCodepoint => "InvalidCodepoint"
  | invalidCodepointContext => "InvalidCodepointContext"

/-- The faults that the HTTP layer reports of a connection. -/
def isConnection : FaultKind → Bool
  | connectError | readTimeout | connectTimeout | poolTimeout | readError | writeError
  | closeError | remoteProtocolError | unsupportedProtocol | proxyError | decodingError
  | tooManyRedirects => true
  | _ => false

/-- The faults of an exchange that the store reports as errors of its own. -/
def isOfExchange : FaultKind → Bool
  | invalidUrl | unicodeEncodeError => true
  | kind => kind.isConnection

/-- The kinds of run-time errors; running out of stack is one. -/
def isRuntimeError : FaultKind → Bool
  | runtimeError | recursionError => true
  | _ => false

/-- All kinds. -/
def all : List FaultKind :=
  [connectError, readTimeout, connectTimeout, poolTimeout, readError, writeError, closeError,
    remoteProtocolError, unsupportedProtocol, proxyError, decodingError, tooManyRedirects,
    invalidUrl, runtimeError, valueError, keyError, osError, typeError, overflowError,
    attributeError, recursionError, assertionError, unicodeError, unicodeEncodeError, idnaError,
    idnaBidiError, invalidCodepoint, invalidCodepointContext]

/-- The kind with a given name. -/
def ofName? (name : Text) : Option FaultKind := all.find? fun kind => kind.name == name

end FaultKind

/-- A fault with the text it was raised with. -/
structure Fault where
  kind : FaultKind
  text : Text
  deriving DecidableEq, Repr

/-- The fault of an activity that goes too deep into nested collections. -/
def depthFault (activity : String) : Fault :=
  ⟨.recursionError,
    Text.ofString "maximum recursion depth exceeded while " ++ Text.ofString activity⟩

/-- The message of a fault; that of a missing key shows the key in quotes. -/
def Fault.message (f : Fault) : Text :=
  match f.kind with
  | .keyError => f.text.quoted
  | _ => f.text

end RavenBinding

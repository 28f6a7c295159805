import ContextIndex.Json.Fault
import ContextIndex.Json.Printer

/-!
# Errors

Errors are causes.  A remote host, a request and the store each have their own; `Error` holds them
all, and `message` words them.
-/

namespace ContextIndex

/-- What can go wrong between the index and a remote host. -/
inductive RemoteError
  /-- The host does not have it. -/
  | notFound (what : String)
  /-- The host refused the credentials. -/
  | unauthorized (body : String)
  /-- The host wants fewer requests. -/
  | rateLimited (body : String)
  /-- The host answered with any other failure. -/
  | refused (status : Nat) (body : String)
  /-- The request to an address could not be sent. -/
  | unreachable (address : String)
  /-- There is no way to send a request to an address. -/
  | unsendable (address : String)
  /-- The token holds a character that no request can carry. -/
  | badToken
  /-- The connection broke while a file was fetched. -/
  | connectionReset (path : String)
  /-- The answer is not what the request asks for. -/
  | malformed (why : String)
  /-- The address of the host cannot be extended by a path. -/
  | unusableRoot (address : String)
  /-- The address of the host is none. -/
  | badRoot (address why : String)
  /-- The path names something other than a file. -/
  | notAFile (path kind : String)
  /-- The answer leaves the content of a file out. -/
  | noContent (path : String)
deriving DecidableEq, Repr

/-- The cause of a remote error, without the kind of error in front. -/
def RemoteError.detail : RemoteError → String
  | notFound what => what
  | unauthorized body => body
  | rateLimited body => body
  | refused status body => toString status ++ ": " ++ body
  | unreachable address => "error sending request for url (" ++ address ++ ")"
  | unsendable address => "builder error for url (" ++ address ++ ")"
  | badToken => "builder error"
  | connectionReset path => "connection reset fetching " ++ path
  | malformed why => why
  | unusableRoot address => "api url cannot be a base: " ++ address
  | badRoot address why => "bad api url " ++ address ++ ": " ++ why
  | notAFile path kind => path ++ " is a " ++ kind ++ ", not a file"
  | noContent path => path ++ " has no inline content"

/-- The kind of a remote error, as its message starts. -/
def RemoteError.heading : RemoteError → String
  | notFound _ => "not found: "
  | unauthorized _ => "authentication failed (check GITHUB_TOKEN): "
  | rateLimited _ => "rate limited: "
  | refused _ _ => "remote returned "
  | unreachable _ | unsendable _ | badToken | connectionReset _ => "network error: "
  | malformed _ | unusableRoot _ | badRoot _ _ | notAFile _ _ | noContent _ =>
    "could not decode response: "

/-- The message of a remote error. -/
def RemoteError.message (e : RemoteError) : String :=
  e.heading ++ e.detail

/-- Whether the host does not have it. -/
def RemoteError.isNotFound : RemoteError → Bool
  | notFound _ => true
  | _ => false

/-- What can be wrong with a request. -/
inductive RequestFault
  /-- A batch without items. -/
  | emptyBatch
  /-- A batch with more items than allowed. -/
  | oversizedBatch (most : Nat)
  /-- A range of lines that starts at zero or after its end. -/
  | badRange (first last : Nat)
  /-- A range of lines that starts after the file. -/
  | pastEnd (first : Nat) (path : String) (lineCount : Nat)
  /-- A search for nothing. -/
  | emptySearch
  /-- A comparison without a revision to start from. -/
  | noRevision (repo : String)
  /-- A trigger for a queue that is shut down. -/
  | queueClosed
deriving DecidableEq, Repr

/-- The text of a range of lines. -/
def rangeText (first last : Nat) : String :=
  toString first ++ "-" ++ toString last

/-- The message for a bad range of lines. -/
def badRangeText (first last : Nat) : String :=
  "invalid line range " ++ rangeText first last

/-- The message of a request fault. -/
def RequestFault.message : RequestFault → String
  | emptyBatch => "requests must not be empty"
  | oversizedBatch most => "Maximum " ++ toString most ++ " requests per batch"
  | badRange first last => badRangeText first last
  | pastEnd first path lineCount =>
    "startLine " ++ toString first ++ " is past the end of " ++ path ++ " (" ++
      toString lineCount ++ " lines)"
  | emptySearch => "search query is required"
  | noRevision repo => repo ++ " has no synced revision; pass one explicitly"
  | queueClosed => "sync queue is shut down"

/-- What can go wrong inside the store. -/
inductive StoreFault
  /-- A row refers to a repository that is not stored. -/
  | unknownRepo
  /-- A time is stored as a text that cannot be read, in this column. -/
  | unreadableTime (column : Nat)
  /-- A search pattern is too long. -/
  | patternTooLong
  /-- There is no way to open a database at a path. -/
  | unopenable (path : String)
  /-- A file is no database. -/
  | notADatabase
  /-- A file keeps nothing that is written. -/
  | unkept
  /-- The path of a database holds a zero after this many bytes. -/
  | zeroByte (position : Nat)
deriving DecidableEq, Repr

/-- The message of a store fault. -/
def StoreFault.message : StoreFault → String
  | unknownRepo => "FOREIGN KEY constraint failed"
  | unreadableTime column =>
    "Conversion error from type Text at index: " ++ toString column ++
      ", input contains invalid characters"
  | patternTooLong => "LIKE or GLOB pattern too complex"
  | unopenable path => "unable to open database file: " ++ path
  | notADatabase => "file is not a database"
  | unkept => "disk I/O error"
  | zeroByte position => "nul byte found in provided data at position: " ++ toString position

/-- What a store fault goes back to. -/
def StoreFault.cause : StoreFault → String
  | unknownRepo => "Error code 787: Foreign key constraint failed"
  | unreadableTime _ => "input contains invalid characters"
  | patternTooLong => "Error code 1: SQL logic error"
  | unopenable _ => "Error code 14: Unable to open the database file"
  | notADatabase => "Error code 26: File opened that is not a database file"
  | unkept => "Error code 1034: Error flushing data to persistent storage (fsync)"
  | zeroByte position => (zeroByte position).message

/-- Everything that can go wrong in the library. -/
inductive Error
  | storage (fault : StoreFault)
  /-- A text is not the JSON it should be. -/
  | json (why : Json.Misreading)
  | remote (e : RemoteError)
  /-- A word that names no kind of symbol. -/
  | unknownKind (text : String)
  /-- The time to live of a lease is out of range. -/
  | badLeaseTime
  | invalidRepo (text : String)
  | request (fault : RequestFault)
  | repoNotFound (repo : String)
  | fileNotFound (repo path : String)
  | symbolNotFound (name path : String)
  /-- A sum of 64-bit quantities that is none. -/
  | overflow
deriving DecidableEq, Repr

/-- The message of an error. -/
def Error.message : Error → String
  | storage fault => "Storage error: " ++ fault.message
  | json why => "JSON error: " ++ why.message
  | remote e => "Remote error: " ++ e.message
  | unknownKind text => "Extractor error: Unknown symbol kind: " ++ text
  | badLeaseTime => "Config error: lease ttl: Source duration value is out of range for the target type"
  | invalidRepo text => "Invalid repository identifier: " ++ text
  | request fault => "Invalid request: " ++ fault.message
  | repoNotFound repo => "Repository not found: " ++ repo
  | fileNotFound repo path => "File not found: " ++ repo ++ ":" ++ path
  | symbolNotFound name path => "Symbol not found: " ++ name ++ " in " ++ path
  | overflow => "arithmetic overflow"

/-- What an error goes back to, the nearest cause first. -/
def Error.causes : Error → List String
  | storage fault => [fault.message, fault.cause]
  | json why => [why.message]
  | remote e => [e.message]
  | _ => []

/-- The message of an error followed by those of its causes, as a command line shows it. -/
def Error.chain (e : Error) : String :=
  ": ".intercalate (e.message :: e.causes)

end ContextIndex

namespace PortableSql

/-- Why an operation failed. -/
inductive Error where
  | validation (message object : String)
  | introspection (message object : String) (cause : Option Error)
  | connection (message suggestion : String)
  | database (message : String) (sqlState : Option String) (suggestion : String)
  | invalidInput (message : String)
  | internal (message : String)
deriving Inhabited

namespace Error

def kind : Error → String
  | validation .. => "Validation"
  | introspection .. => "Introspection"
  | connection .. => "Connection"
  | database .. => "Database"
  | invalidInput .. => "InvalidInput"
  | internal .. => "Internal"

def text : Error → String
  | validation message object => s!"Validation failed: {message} (object: {object})"
  | introspection message object _ => s!"Introspection failed: {message} (table: {object})"
  | connection message _ => s!"Connection failed: {message}"
  | database message _ _ => s!"Database error: {message}"
  | invalidInput message => s!"Invalid input: {message}"
  | internal message => s!"Internal error: {message}"

def cause? : Error → Option Error
  | introspection _ _ cause => cause
  | _ => none

/-- Advice for the reader; an introspection error passes on the advice of its cause. -/
def suggestion? : Error → Option String
  | connection _ suggestion => some suggestion
  | database _ _ suggestion => some suggestion
  | introspection _ _ (some cause) => cause.suggestion?
  | _ => none

/-- Only a failed connection is worth another try. -/
def isRetryable : Error → Bool
  | connection .. => true
  | _ => false

def object? : Error → Option String
  | validation _ object => some object
  | introspection _ object _ => some object
  | _ => none

end Error

/-- What the layer below a connection can report. -/
inductive DriverFault where
  | configuration (message : String)
  | database (message : String) (code : Option String)
  | rowNotFound
  | io (message : String)
  | tls (message : String)
  | protocol (message : String)
  | columnNotFound (column : String)
  | columnDecode (index message : String)
  | decode (message : String)
  | workerCrashed
  | poolTimedOut
  | poolClosed

namespace DriverFault

def toError : DriverFault → Error
  | configuration message =>
    .connection message "Check the connection string format and credentials"
  | database message code =>
    .database message code "Check the SQL syntax and referenced objects"
  | rowNotFound =>
    .database "No rows returned" none "Verify the query conditions match existing data"
  | io message =>
    .connection s!"I/O error: {message}" "Check network connectivity and database server status"
  | tls message =>
    .connection s!"TLS error: {message}" "Verify TLS configuration and certificates"
  | protocol message =>
    .connection s!"Protocol error: {message}" "Check database server compatibility"
  | columnNotFound column => .internal s!"Column not found in result: {column}"
  | columnDecode index message => .internal s!"Failed to decode column {index}: {message}"
  | decode message => .internal s!"Decode error: {message}"
  | workerCrashed => .internal "Database worker crashed"
  | poolTimedOut =>
    .internal "Unknown database error: pool timed out while waiting for an open connection"
  | poolClosed =>
    .internal "Unknown database error: attempted to acquire a connection on a closed pool"

end DriverFault

end PortableSql

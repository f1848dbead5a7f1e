/-!
# Failures and log records

A call that cannot be answered ends in a `Failure`: its kind, and a text. What a run has to say beside
its answer goes into a log.
-/

namespace AddonAtlas

/-- What a failure is about. -/
inductive Failure.Kind
  /-- A scan could not be run, or came to nothing. -/
  | scan
  /-- The system refuses an operation. -/
  | system
  /-- A file was expected where a directory is. -/
  | directory
  | timeout
  /-- A value is not one of those allowed. -/
  | value
  /-- Bytes are no text. -/
  | decoding
  /-- A text cannot be written as bytes. -/
  | encoding
  /-- A value is of the wrong type. -/
  | type
  /-- A position that does not exist. -/
  | index
  /-- A name that does not exist. -/
  | key
  /-- A value lacks a property. -/
  | attribute
  /-- A number is too large. -/
  | overflow
  /-- A definition leads back to itself. -/
  | recursion
  | runtime
deriving DecidableEq, Repr

/-- Whether a failure is about a value; bytes that are no text are such a value, and so is a
text that has no bytes. -/
def Failure.Kind.isValue : Failure.Kind → Bool
  | value | decoding | encoding => true
  | _ => false

structure Failure where
  kind : Failure.Kind
  message : String
deriving DecidableEq, Repr

/-- The failure of what is nested too deep; the rest of the text says what was being done. -/
def Failure.tooDeep (doing : String) : Failure :=
  ⟨.recursion, "maximum recursion depth exceeded" ++ doing⟩

/-- How much a log record matters. -/
inductive Level
  | info
  | warning
  | error
deriving DecidableEq, Repr

namespace Level

def name : Level → String
  | info => "INFO"
  | warning => "WARNING"
  | error => "ERROR"

end Level

structure LogRecord where
  level : Level
  text : String
deriving DecidableEq, Repr

/-- Log records in the order of their writing. -/
abbrev Log := List LogRecord

namespace LogRecord

def info (text : String) : LogRecord := ⟨.info, text⟩

def warning (text : String) : LogRecord := ⟨.warning, text⟩

def error (text : String) : LogRecord := ⟨.error, text⟩

/-- A record as one line. -/
def render (r : LogRecord) : String :=
  r.level.name ++ " " ++ r.text

end LogRecord

end AddonAtlas

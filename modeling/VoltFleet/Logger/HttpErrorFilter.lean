import VoltFleet.Common.Enums
import VoltFleet.Common.Pagination

/-!
# `HttpErrorFilter`

What a client is answered when a request fails, and what is logged of it.  The JSON of
a log is kept as the record it is made from.
-/

namespace VoltFleet

/-- The `message` of an exception's response. -/
inductive ErrorMessage where
  | text (message : String)
  | list (messages : List String)
  deriving DecidableEq

/-- `exception.getResponse()`; an object may have no `message`. -/
inductive ExceptionResponse where
  | text (message : String)
  | object (message : Option ErrorMessage)
  deriving DecidableEq

/-- What the filter catches: an `HttpException`, another `Error`, or any other value. -/
inductive Exception where
  | http (status : Nat) (response : ExceptionResponse) (stack : String)
  | error (message stack : String)
  | other
  deriving DecidableEq

/-- `exception.stack` of an `Error`. -/
def Exception.stack : Exception → Option String
  | .http _ _ stack => some stack
  | .error _ stack => some stack
  | .other => none

/-- The parts of a request that the filter reads; `routePath` is `request.route?.path`. -/
structure FailedRequest where
  method : String
  url : String
  routePath : Option String
  deriving DecidableEq

/-- The body that a client is sent, and its status. -/
structure ErrorResponse where
  statusCode : Nat
  success : Bool
  message : ErrorMessage
  path : String
  method : String
  timestamp : String
  traceId : String
  stack : Option String
  deriving DecidableEq

/-- What is logged of a failed request. -/
structure ErrorLog where
  traceId : String
  statusCode : Nat
  path : String
  method : String
  timestamp : String
  message : ErrorMessage
  stack : Option String
  deriving DecidableEq

/-- A call of `Logger.log`. -/
structure LogCall where
  logName : String
  level : String
  message : ErrorLog
  fileName : String
  deriving DecidableEq

namespace HttpErrorFilter

/-- The message of an HTTP exception, whatever its response is. -/
def getErrorMessage : ExceptionResponse → ErrorMessage
  | .text message => .text message
  | .object (some message) => message
  | .object none => .text "Unexpected error occurred"

/-- The status a failure is answered with. -/
def status : Exception → Nat
  | .http status _ _ => status
  | _ => 500

/-- The message a failure is answered with; that of an unexpected error is hidden. -/
def message : Exception → ErrorMessage
  | .http _ response _ => getErrorMessage response
  | _ => .text "Internal server error"

/-- `text.replace(/[\/:]/g, '_')`. -/
def replaceSeparators (text : String) : String :=
  String.ofList (text.toList.map fun c => if c = '/' ∨ c = ':' then '_' else c)

/-- `text || other`. -/
def orElse (text other : String) : String := if text = "" then other else text

/-- The name of the log, from the route. -/
def logName (request : FailedRequest) : String :=
  replaceSeparators (request.method ++ "-" ++ orElse (request.routePath.getD "") request.url)

/-- The name of the log file, from the status and the URL. -/
def fileName (exception : Exception) (request : FailedRequest) : String :=
  replaceSeparators
    (toString (status exception) ++ "-" ++ request.method ++ "-" ++ beforeQuery request.url)

/-- `catch`, in an environment `NODE_ENV`, with the trace id and the time that it draws. -/
def handle (nodeEnv : Option String) (traceId timestamp : String) (exception : Exception)
    (request : FailedRequest) : ErrorResponse × LogCall :=
  let stack := if nodeEnv ≠ some "production" then exception.stack else none
  ({ statusCode := status exception
     success := false
     message := message exception
     path := request.url
     method := request.method
     timestamp := timestamp
     traceId := traceId
     stack := stack },
    { logName := orElse (logName request) "http-error"
      level := "error"
      message :=
        { traceId := traceId
          statusCode := status exception
          path := request.url
          method := request.method
          timestamp := timestamp
          message := message exception
          stack := stack }
      fileName := orElse (fileName exception request) "http-error" })

end HttpErrorFilter

/-! ## The exceptions of the services -/

namespace Thrown

/-- `exception.getStatus()`. -/
def httpStatus : Thrown → Option Nat
  | .badRequest _ => some 400
  | .unauthorized _ => some 401
  | .forbidden _ => some 403
  | .notFound _ => some 404
  | .conflict _ => some 409
  | .internalServerError _ => some 500
  | .queryFailed .. => none
  | .error _ => none

/-- What is thrown, as the filter catches it. -/
def exception (e : Thrown) (stack : String) : Exception :=
  match e.httpStatus with
  | some status => .http status (.object (some (.text e.message))) stack
  | none => .error e.message stack

end Thrown

end VoltFleet

/-
Requests to the operations interface and responses.
-/

import WorkflowBus.Api.Header
import WorkflowBus.Api.Uri

namespace WorkflowBus

structure Request where
  method : String
  uri : Uri
  headers : List Header

def Request.isMethod (name : String) : Bool :=
  !name.isEmpty && name.toList.all Header.isNameChar

inductive Status where
  | ok
  | badRequest
  | notFound
  | methodNotAllowed
  | serviceUnavailable
deriving DecidableEq

namespace Status

def code : Status → Nat
  | .ok => 200
  | .badRequest => 400
  | .notFound => 404
  | .methodNotAllowed => 405
  | .serviceUnavailable => 503

def reason : Status → String
  | .ok => "OK"
  | .badRequest => "Bad Request"
  | .notFound => "Not Found"
  | .methodNotAllowed => "Method Not Allowed"
  | .serviceUnavailable => "Service Unavailable"

def text (status : Status) : String :=
  toString status.code ++ " " ++ status.reason

end Status

inductive Body where
  | none
  | text (content : String)
  | json (content : Json)

structure Response where
  status : Status
  body : Body
  /-- The value of the response's `x-request-id` field. -/
  requestId : Option Uuid
  /-- The body is left out, as in the answer to a `HEAD` request. -/
  headOnly : Bool

namespace Response

def ofBody (status : Status) (body : Body) : Response where
  status := status
  body := body
  requestId := none
  headOnly := false

def bare (status : Status) : Response :=
  ofBody status .none

def contentType? (response : Response) : Option String :=
  match response.body with
  | .none => none
  | .text _ => some "text/plain; charset=utf-8"
  | .json _ => some "application/json"

def received (response : Response) : Json :=
  if response.headOnly then .str ""
  else
    match response.body with
    | .none => .str ""
    | .text content => .str content
    | .json content => content

def toJson (response : Response) : Json :=
  .obj [("status", .ofCount response.status.code),
    ("request_id", .ofText? (response.requestId.map Uuid.text)),
    ("content_type", .ofText? response.contentType?),
    ("body", response.received)]

end Response
end WorkflowBus

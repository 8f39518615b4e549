/-
Header fields of requests and what they tell about an operation.

Names are compared without regard to case, and of repeated fields the first one
counts.  A value is text only if all its bytes are printable ASCII or tabs.
-/

import WorkflowBus.OperationContext

namespace WorkflowBus

structure Header where
  name : String
  value : List UInt8

namespace Header

def namePunctuation : List Char :=
  ['!', '#', '$', '%', '&', '\'', '*', '+', '-', '.', '^', '_', '\x60', '|', '~']

def isNameChar (char : Char) : Bool :=
  char.isAlphanum || namePunctuation.contains char

/-- Bytes that a value may have: printable ASCII, tabs, and all beyond ASCII. -/
def isValueByte (byte : UInt8) : Bool :=
  (0x20 ≤ byte && byte != 0x7f) || byte == 0x09

def isWellFormed (header : Header) : Bool :=
  !header.name.isEmpty && header.name.toList.all isNameChar && header.value.all isValueByte

def isTextByte (byte : UInt8) : Bool :=
  (0x20 ≤ byte && byte < 0x7f) || byte == 0x09

def text? (header : Header) : Option String :=
  if header.value.all isTextByte then
    some (String.ofList (header.value.map fun byte => Char.ofNat byte.toNat))
  else none

def find? (headers : List Header) (name : String) : Option Header :=
  headers.find? fun header => Casing.alike header.name.toList name.toList

def firstText? (headers : List Header) (name : String) : Option String := do
  (← find? headers name).text?

def firstUuid? (headers : List Header) (name : String) : Option Uuid := do
  Uuid.ofText? (← firstText? headers name)

def requestIdName : String :=
  "x-request-id"

def requestUserName : String :=
  "x-request-user-id"

def userAgentName : String :=
  "user-agent"

def operationContext (headers : List Header) : OperationContext where
  requestUserId := firstUuid? headers requestUserName
  sessionId := none
  correlationId := firstUuid? headers requestIdName
  clientIp := none
  userAgent := firstText? headers userAgentName

end Header
end WorkflowBus

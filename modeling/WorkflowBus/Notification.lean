/-
Messages to users.
-/

import WorkflowBus.Trace
import WorkflowBus.Instant.Rfc3339

namespace WorkflowBus

inductive Template where
  | emailVerification
  | welcome
  | passwordChanged
  | passwordResetCompleted
deriving DecidableEq

namespace Template

def all : List Template :=
  [.emailVerification, .welcome, .passwordChanged, .passwordResetCompleted]

def name : Template → String
  | .emailVerification => "email_verification"
  | .welcome => "welcome"
  | .passwordChanged => "password_changed"
  | .passwordResetCompleted => "password_reset_completed"

def ofName? (name : String) : Option Template :=
  all.find? fun template => template.name = name

end Template

structure Notification where
  template : Template
  recipient : String
  payload : Json

inductive NotificationError where
  | invalidRecipient (recipient : String)
  | delivery (message : String)
deriving DecidableEq

namespace NotificationError

def message : NotificationError → String
  | .invalidRecipient recipient => "Invalid recipient: " ++ recipient
  | .delivery message => "Delivery failed: " ++ message

end NotificationError

namespace Notification

/-- A recipient has something before the first at sign and a point somewhere
after it. -/
def isRecipient (recipient : String) : Bool :=
  let chars := recipient.toList
  let localPart := chars.takeWhile (· != '@')
  let domain := (chars.dropWhile (· != '@')).drop 1
  !localPart.isEmpty && domain.contains '.'

/-- The trace of a message that would be sent.  It names the payload's fields and
none of their values. -/
def dryRunTrace (notification : Notification) : Trace where
  level := .info
  message := "Notification would send"
  fields := [("template", notification.template.name),
    ("recipient", notification.recipient),
    ("payload_fields", ",".intercalate notification.payload.keys)]

end Notification

structure SentNotification where
  notification : Notification
  sentAt : Instant

namespace SentNotification

def timelessMembers (sent : SentNotification) : List (String × Json) :=
  [("template", .str sent.notification.template.name),
    ("recipient", .str sent.notification.recipient),
    ("payload", sent.notification.payload)]

def toJson (sent : SentNotification) : Json :=
  .obj (sent.timelessMembers ++ [("sent_at", sent.sentAt.toJson)])

end SentNotification

/-- What becomes of a message: it is kept in memory, only traced, or never
delivered. -/
inductive Delivery where
  | memory
  | traced
  | down (message : String)
deriving DecidableEq

structure NotificationSender where
  delivery : Delivery
  sent : List SentNotification

namespace NotificationSender

def ofDelivery (delivery : Delivery) : NotificationSender where
  delivery := delivery
  sent := []

/-- Sends a message.  A sender that is down does not look at the recipient; the
others refuse what is no recipient. -/
def send (sender : NotificationSender) (now : Instant) (notification : Notification) :
    Except NotificationError Unit × NotificationSender × List Trace :=
  match sender.delivery with
  | .down message => (.error (.delivery message), sender, [])
  | .traced =>
      if Notification.isRecipient notification.recipient then
        (.ok (), sender, [notification.dryRunTrace])
      else (.error (.invalidRecipient notification.recipient), sender, [])
  | .memory =>
      if Notification.isRecipient notification.recipient then
        (.ok (), { sender with sent := sender.sent ++ [⟨notification, now⟩] }, [])
      else (.error (.invalidRecipient notification.recipient), sender, [])

/-- The notifications kept for exactly a recipient. -/
def sentTo (sender : NotificationSender) (recipient : String) : List SentNotification :=
  sender.sent.filter fun sent => sent.notification.recipient = recipient

end NotificationSender
end WorkflowBus

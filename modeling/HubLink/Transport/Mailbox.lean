import HubLink.Transport.Remark

namespace HubLink.Transport

/-- The notifications that were raised and not received yet, the oldest first. -/
structure Mailbox where
  queue : List Notification := []
  isOpen : Bool := true
  deriving DecidableEq

/-- The result of receiving from a mailbox. -/
inductive Mailbox.Reading where
  | received (notification : Notification)
  | empty
  | closed
  deriving DecidableEq

namespace Mailbox

/-- Appends a notification. A closed mailbox drops it with a remark. -/
def raise (box : Mailbox) (n : Notification) : Mailbox × List Remark :=
  if box.isOpen then ({ box with queue := box.queue ++ [n] }, []) else (box, [.undelivered n])

/-- Takes the oldest notification out. -/
def receive (box : Mailbox) : Reading × Mailbox :=
  if box.isOpen then
    match box.queue with
    | [] => (.empty, box)
    | n :: rest => (.received n, { box with queue := rest })
  else (.closed, box)

/-- Closes the mailbox and drops its notifications. -/
def close (_ : Mailbox) : Mailbox :=
  { queue := [], isOpen := false }

end Mailbox
end HubLink.Transport

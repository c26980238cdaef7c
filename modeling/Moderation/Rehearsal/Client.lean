import Moderation.Redis.Store

/-!
# `Moderation.Rehearsal.Client`: a client that follows a script

To rehearse outages of a Redis server, a client answers from a script: the first question gets
the first reply, and so on. When the script has ended, commands get nothing for a reply and scans
find nothing that has names. The client keeps a record of what it was asked.
-/

set_option autoImplicit false

namespace Moderation.Rehearsal

/-- A reply of a script, to whichever question comes. -/
structure Reply where
  /-- The reply to a command. -/
  command : Except Redis.Failure Value
  /-- What a scan finds. -/
  scan : Redis.Finding

/-- The replies that are left, and what has been asked so far. -/
structure ServerScript where
  replies : List Reply
  asked : List Redis.Question

/-- The reply when the script has ended. -/
def Reply.atEnd : Reply := ⟨.ok .null, none⟩

/-- Takes the next reply of the script, and records the question. -/
def ServerScript.next (question : Redis.Question) : StateM ServerScript Reply :=
  modifyGet fun script =>
    (script.replies.head?.getD .atEnd,
      { replies := script.replies.drop 1, asked := script.asked ++ [question] })

/-- The client that follows the script. -/
def client : Redis.Client ServerScript where
  answer
    | .command c => Reply.command <$> ServerScript.next (.command c)
    | .scan pattern batch => Reply.scan <$> ServerScript.next (.scan pattern batch)
  content _ := []

end Moderation.Rehearsal

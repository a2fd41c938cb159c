import Herald.Message

/-!
# Messages in chat markup

The title in bold, the body, and the recipients as mentions, each on a line of its own. The three characters that open or close a
markup sequence are escaped in the title and the body.
-/

namespace Herald.Message

namespace Slack

/-- Replaces one character by a text. -/
def replaceChar (old : Char) (new : String) (cs : List Char) : List Char :=
  cs.flatMap fun c => if c = old then new.toList else [c]

/-- Escapes a text: ampersands first, so that the ampersands of the entities stay. -/
def escape (text : String) : String :=
  String.ofList (replaceChar '>' "&gt;" (replaceChar '<' "&lt;" (replaceChar '&' "&amp;" text.toList)))

/-- A recipient as a mention. -/
def mention (recipient : String) : String :=
  "<@" ++ recipient ++ ">"

end Slack

/-- The message in chat markup. -/
def slackText (m : Message) : String :=
  let title := (m.title.map fun t => "*" ++ Slack.escape t ++ "*").toList
  let body := (m.message.map Slack.escape).toList
  let mentions := match m.recipientList with
    | [] => []
    | recipients => [" ".intercalate (recipients.map Slack.mention)]
  "\n".intercalate (title ++ body ++ mentions)

end Herald.Message

import Herald.Message

/-!
# Messages as one line of text

The title and the body with a colon between them, or the one that is present, then the recipients in brackets.
-/

namespace Herald.Message

/-- Title and body as one text. -/
def headline (m : Message) : String :=
  match m.title, m.message with
  | some title, some body => title ++ ": " ++ body
  | some title, none => title
  | none, some body => body
  | none, none => ""

/-- The message as plain text. -/
def plainText (m : Message) : String :=
  match m.recipientList with
  | [] => m.headline
  | recipients => m.headline ++ " (to: " ++ ", ".intercalate recipients ++ ")"

end Herald.Message

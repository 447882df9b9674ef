import AmpArticle.Fault
import AmpArticle.Record.Datum

/-!
Warnings: problems of content that a conversion recovers from. They are collected, never raised.
-/

namespace AmpArticle

/-- a problem, what it was found in, and the failure behind it -/
structure Warning where
  message : String
  subject : Option Datum
  cause : Option Fault
  deriving Inhabited

namespace Warning

/-- a warning about a plain value; null is no subject -/
def about (message : String) (subject : Json) (cause : Option Fault) : Warning :=
  ⟨message, match subject with
    | .null => none
    | v => some (.plain v), cause⟩

/-- the message, then a line for the subject and one for the cause, when there are any -/
def text (w : Warning) : String :=
  w.message
    ++ (match w.subject with
      | some d => "\nObject in the context: " ++ d.literal
      | none => "")
    ++ (match w.cause with
      | some f => "\nException cause: " ++ f.literal
      | none => "")

end Warning

end AmpArticle

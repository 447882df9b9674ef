import AmpArticle.Article.Basic
import AmpArticle.Time.Format

/-!
Texts of a header: who wrote the article, and when.
-/

namespace AmpArticle.Page

/-- the names of the authors that have one, joined by commas -/
def authorNames (authors : List Author) : String :=
  Text.joinWith ", " ((authors.map Author.name).filter fun name => !name.isEmpty)

/-- the line that names the authors, empty when none has a name -/
def byline (authors : List Author) : String :=
  let names := authorNames authors
  if names.isEmpty then "" else "By " ++ names

/-- a date by a pattern; the usual pattern leaves out the zero in front of a day -/
def dateText (moment : Option Moment) (pattern : String) : String :=
  match moment with
  | none => ""
  | some m =>
    let s := m.format pattern
    if pattern = "%B %d, %Y" then Text.replaceAll " 0" " " s else s

end AmpArticle.Page

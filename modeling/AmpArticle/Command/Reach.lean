import AmpArticle.Command.Run

/-!
What a run may look at: the files named on the command line, and then those that the options and the article lead to.
A disk that holds them is all that a run needs.
-/

namespace AmpArticle.Command

variable [Room]

/-- the files that an order names -/
def namedFiles (o : Order) : List String := [o.article] ++ o.properties.toList ++ o.styleFile.toList

/-- the files that a style and a conversion's style sheets are read from -/
def styleFiles (s : Surroundings) (p : Properties) (a : Article) : List String :=
  let f := Page.Resources.foldersFor s.resources p none none
  [Disk.join f.styles (a.style ++ ".style.json"), Disk.join f.styles (a.style ++ ".style.css")]

/-- the files that the options and the article lead to, once the named ones are there -/
def reachedFiles (s : Surroundings) (o : Order) : List String :=
  match load s.disk o with
  | .ok (p, a) => styleFiles s p a
  | .error _ => []

/-- the folder with local copies of media, once the named files are there -/
def reachedFolder? (s : Surroundings) (o : Order) : Option String :=
  match load s.disk o with
  | .ok (p, _) => p.mediaCacheFolder
  | .error _ => none

end AmpArticle.Command

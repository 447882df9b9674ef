import AmpArticle.Text.Blank

/-!
Addresses over a secure connection.
-/

namespace AmpArticle.Url

/-- the start of an address over an insecure connection -/
def insecureStart : String := "http://"

/-- whether an address is over an insecure connection, in letters of any case -/
def isInsecure (url : String) : Bool := (url.toList.take insecureStart.length).map Char.toLower == insecureStart.toList

/-- the address over a secure connection; others stay as they are -/
def secure (url : String) : String :=
  if isInsecure url then "https://" ++ String.ofList (url.toList.drop insecureStart.length) else url

end AmpArticle.Url

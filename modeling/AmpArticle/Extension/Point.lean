import AmpArticle.Fault

/-!
Extension points: the named places of a conversion where values pass through filters.
-/

namespace AmpArticle.Extension

/-- a place where values can be filtered -/
inductive Point where
  | html
  | head
  | header
  | cover
  | articleItem
  | footer
  | customCss
  | schemaOrg
  | mapsApiKey
  deriving DecidableEq, Inhabited

namespace Point

/-- all places -/
def all : List Point := [html, head, header, cover, articleItem, footer, customCss, schemaOrg, mapsApiKey]

/-- the name of a place -/
def name : Point → String
  | html => "html"
  | head => "head"
  | header => "header"
  | cover => "cover"
  | articleItem => "article_item"
  | footer => "footer"
  | customCss => "custom_css"
  | schemaOrg => "schema_org"
  | mapsApiKey => "maps_api_key"

/-- the place of a name -/
def ofJson (name : Json) : Except Fault Point :=
  match name with
  | .text s =>
    match all.find? fun p => p.name == s with
    | some p => .ok p
    | none => .error (.value s!"{name.literal} is not a valid ExtensionPoint")
  | _ => .error (.value s!"{name.literal} is not a valid ExtensionPoint")

end Point

end AmpArticle.Extension

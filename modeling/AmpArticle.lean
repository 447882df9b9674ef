import AmpArticle.Main
import AmpArticle.Page.Workspace
import AmpArticle.Proofs.Markup.Marks
import AmpArticle.Proofs.Page.Builders
import AmpArticle.Proofs.Page.Dividers
import AmpArticle.Proofs.Css.Drafting
import AmpArticle.Proofs.Css.Parts
import AmpArticle.Proofs.Css.Failure
import AmpArticle.Proofs.Css.Rules
import AmpArticle.Proofs.Css.Selectors
import AmpArticle.Proofs.Css.Sum
import AmpArticle.Proofs.Number.Nearness
import AmpArticle.Proofs.Number.Seventeen
import AmpArticle.Proofs.Number.Decimals
import AmpArticle.Proofs.Number.Literal
import AmpArticle.Proofs.Json.Scalars
import AmpArticle.Proofs.Json.Strings
import AmpArticle.Proofs.Json.RoundTrip
import AmpArticle.Proofs.Page.Serialized
import AmpArticle.Proofs.Json.Characters
import AmpArticle.Proofs.Page.Unfiltered
import AmpArticle.Proofs.Page.Metadata
import AmpArticle.Proofs.Properties
import AmpArticle.Proofs.Json.Reading
import AmpArticle.Proofs.Css.History
import AmpArticle.Proofs.Extension.Log
import AmpArticle.Proofs.Page.Frame
import AmpArticle.Proofs.Media.Chain
import AmpArticle.Proofs.Url.FileName
import AmpArticle.Proofs.Media.Failure
import AmpArticle.Proofs.Page.BareValues
import AmpArticle.Proofs.Page.Analytics
import AmpArticle.Proofs.Geo.Position
import AmpArticle.Proofs.Markup.Allowed
import AmpArticle.Proofs.Page.Map
import AmpArticle.Proofs.Number.Values
import AmpArticle.Proofs.Media.Fitting
import AmpArticle.Proofs.Css.LogoSize
import AmpArticle.Proofs.Page.Sizes
import AmpArticle.Proofs.Page.Scripts
import AmpArticle.Proofs.Page.Agreement
import AmpArticle.Proofs.Page.Styling
import AmpArticle.Proofs.Media.Paths
import AmpArticle.Proofs.Command.Overriding
import AmpArticle.Proofs.Command.Loading
import AmpArticle.Proofs.Extension.Snapshot
import AmpArticle.Proofs.Page.ClassPrefix
import AmpArticle.Proofs.Media.Covering
import AmpArticle.Proofs.Css.Color
import AmpArticle.Proofs.Markup.Import
import AmpArticle.Proofs.Page.Sources
import AmpArticle.Proofs.Css.Refusal
import AmpArticle.Proofs.Css.KeyOrder
import AmpArticle.Proofs.Markup.Classes
import AmpArticle.Proofs.Page.Clipping
import AmpArticle.Proofs.Css.Sheets
import AmpArticle.Proofs.Page.MapAddress
import AmpArticle.Proofs.Media.Copies
import AmpArticle.Proofs.Page.Slides

import AmpArticle.Css.RuleSet
import AmpArticle.Media.Sizes
import AmpArticle.Record.Datum
import AmpArticle.Record.Field

/-!
Options of a conversion. Each may be given under its own name or under a dashed one; when both are there the dashed
one counts. What has no meaning here is left aside.
-/

namespace AmpArticle

namespace Media.SizeConfig

/-- width and height from two numbers -/
def sizeOfPair (p : Int × Int) : Size := ⟨p.1, p.2⟩

/-- a configuration from the entries of a record -/
def ofEntries (e : Entries) (o : Origin) : Checked SizeConfig :=
  (fun sizes cacheFolder download width height =>
      SizeConfig.mk (sizes.map fun s => (s.1, sizeOfPair s.2)) cacheFolder download ⟨width, height⟩)
    <$> e.optional o "media_sizes" (.table (.pair .int)) []
    <*> e.optional o "cache_folder" (.nullable .path) none
    <*> e.optional o "enable_download" .switch false
    <*> e.optional o "default_width" .int defaultWidth
    <*> e.optional o "default_height" .int defaultHeight

/-- reads a configuration -/
def decoder : Decoder SizeConfig := .record ofEntries

/-- explicit sizes as a datum -/
def sizesDatum (sizes : List (String × Size)) : Datum :=
  .table (sizes.map fun s => (s.1, .pair s.2.width s.2.height))

/-- the configuration as a datum -/
def toDatum (c : SizeConfig) : Datum :=
  .record "MediaSizeConfig" [("media_sizes", sizesDatum c.sizes),
    ("cache_folder", .optional .path c.cacheFolder), ("enable_download", .plain (.bool c.download)),
    ("default_width", .plain (.int c.defaultSize.width)), ("default_height", .plain (.int c.defaultSize.height))]

end Media.SizeConfig

/-- the options of a conversion -/
structure Properties where
  language : Option String
  classPrefix : String
  stylesFolder : Option String
  overrideStyles : Option (List (String × Json))
  mediaCacheFolder : Option String
  download : Bool
  defaultWidth : Int
  defaultHeight : Int
  mediaSizes : List (String × Media.Size)
  /-- a name, or a whole description -/
  publisher : Option Json
  mapsKey : Option String
  analytics : List String
  dateFormat : String
  deriving Inhabited

namespace Properties

/-- the usual pattern of the date in the header -/
def usualDateFormat : String := "%B %d, %Y"

/-- the options when none are given -/
def usual : Properties :=
  ⟨none, Css.RuleSet.defaultPrefix, none, none, none, false, Media.defaultWidth, Media.defaultHeight, [], none, none,
    [], usualDateFormat⟩

/-- options from the entries of a record -/
def ofEntries (e : Entries) (o : Origin) : Checked Properties :=
  (fun language classPrefix stylesFolder overrideStyles mediaCacheFolder download width height sizes publisher
      mapsKey analytics dateFormat =>
      Properties.mk language classPrefix stylesFolder overrideStyles mediaCacheFolder download width height
        (sizes.map fun s => (s.1, Media.SizeConfig.sizeOfPair s.2)) publisher mapsKey analytics dateFormat)
    <$> e.optional o "lang" (.nullable .text) none
    <*> e.either o "css-selector-prefix" "css_prefix" .text Css.RuleSet.defaultPrefix
    <*> e.either o "styles-folder" "styles_folder" (.nullable .path) none
    <*> e.either o "override-styles" "override_styles" (.nullable .object) none
    <*> e.either o "media-cache-folder" "media_cache_folder" (.nullable .path) none
    <*> e.either o "enable-download-for-media-sizing" "enable_download_for_media_sizing" .switch false
    <*> e.either o "default-media-width" "default_media_width" .int Media.defaultWidth
    <*> e.either o "default-media-height" "default_media_height" .int Media.defaultHeight
    <*> e.either o "media-sizes" "media_sizes" (.table (.pair .int)) []
    <*> e.optional o "publisher" (.nullable .textOrObject) none
    <*> e.either o "google-maps-api-key" "google_maps_api_key" (.nullable .text) none
    <*> e.optional o "analytics" (.list .text) []
    <*> e.either o "date-format" "date_format" .text usualDateFormat

/-- reads options -/
def decoder : Decoder Properties := .record ofEntries

/-- how the options say that media sizes are looked up -/
def sizeConfig (p : Properties) : Media.SizeConfig :=
  ⟨p.mediaSizes, p.mediaCacheFolder, p.download, ⟨p.defaultWidth, p.defaultHeight⟩⟩

/-- the options as a datum -/
def toDatum (p : Properties) : Datum :=
  .record "ConversionProperties" [("lang", .optionalText p.language), ("css_prefix", .text p.classPrefix),
    ("styles_folder", .optional .path p.stylesFolder),
    ("override_styles", .plain ((p.overrideStyles.map Json.object).getD .null)),
    ("media_cache_folder", .optional .path p.mediaCacheFolder),
    ("enable_download_for_media_sizing", .plain (.bool p.download)),
    ("default_media_width", .plain (.int p.defaultWidth)), ("default_media_height", .plain (.int p.defaultHeight)),
    ("media_sizes", Media.SizeConfig.sizesDatum p.mediaSizes), ("publisher", .plain (p.publisher.getD .null)),
    ("google_maps_api_key", .optionalText p.mapsKey), ("analytics", .list (p.analytics.map .text)),
    ("date_format", .text p.dateFormat)]

/-- the options written out again, all under their own names -/
def toEntries (p : Properties) : Entries := (p.toDatum.toJson.entries?).getD []

end Properties

end AmpArticle

import AmpArticle.Json.Reader

/-!
Why an operation fails. Each cause is a constructor with the data it concerns; `Fault.message` is its wording,
`Fault.label` the family it belongs to, and `Fault.literal` both together, as a warning shows its cause.
-/

namespace AmpArticle

/-- what is wrong with one field of a decoded record -/
inductive IssueKind where
  | missing
  | textType
  | intType
  | intParsing
  | intFromReal
  | intParsingSize
  | boolType
  | boolParsing
  | listType
  | objectType
  | tupleType
  | tooLong
  | recordType
  | recordAttributesType
  | tagNotFound
  | tagInvalid
  | enumeration
  | literalMismatch
  | pathType
  | dateType
  | dateParsing
  | dateFromDateParsing
  | dateFromDateInexact
  | finiteNumber
  | jsonInvalid
  | jsonType
  | frozenRecord
  | unknownAttribute
  deriving DecidableEq, Inhabited

/-- the code of a problem -/
def IssueKind.code : IssueKind → String
  | .missing => "missing"
  | .textType => "string_type"
  | .intType => "int_type"
  | .intParsing => "int_parsing"
  | .intFromReal => "int_from_float"
  | .intParsingSize => "int_parsing_size"
  | .boolType => "bool_type"
  | .boolParsing => "bool_parsing"
  | .listType => "list_type"
  | .objectType => "dict_type"
  | .tupleType => "tuple_type"
  | .tooLong => "too_long"
  | .recordType => "model_type"
  | .recordAttributesType => "model_attributes_type"
  | .tagNotFound => "union_tag_not_found"
  | .tagInvalid => "union_tag_invalid"
  | .enumeration => "enum"
  | .literalMismatch => "literal_error"
  | .pathType => "path_type"
  | .dateType => "datetime_type"
  | .dateParsing => "datetime_parsing"
  | .dateFromDateParsing => "datetime_from_date_parsing"
  | .dateFromDateInexact => "date_from_datetime_inexact"
  | .finiteNumber => "finite_number"
  | .jsonInvalid => "json_invalid"
  | .jsonType => "json_type"
  | .frozenRecord => "frozen_instance"
  | .unknownAttribute => "no_such_attribute"

/-- a problem and the path of keys and positions to where it lies -/
structure Issue where
  path : List String
  kind : IssueKind
  deriving DecidableEq, Inhabited

/-- the issue as one line of a report -/
def Issue.message (i : Issue) : String := Text.joinWith "." i.path ++ ": " ++ i.kind.code

/-- why a file cannot be opened -/
inductive FileFault where
  | notFound
  | permissionDenied
  | exists
  | notDirectory
  | isDirectory
  | nameTooLong
  deriving DecidableEq, Inhabited

namespace FileFault

/-- the number of the condition -/
def number : FileFault → Nat
  | .notFound => 2
  | .permissionDenied => 13
  | .exists => 17
  | .notDirectory => 20
  | .isDirectory => 21
  | .nameTooLong => 36

/-- the wording of the condition -/
def reason : FileFault → String
  | .notFound => "No such file or directory"
  | .permissionDenied => "Permission denied"
  | .exists => "File exists"
  | .notDirectory => "Not a directory"
  | .isDirectory => "Is a directory"
  | .nameTooLong => "File name too long"

/-- the family of the condition -/
def label : FileFault → String
  | .notFound => "FileNotFoundError"
  | .permissionDenied => "PermissionError"
  | .exists => "FileExistsError"
  | .notDirectory => "NotADirectoryError"
  | .isDirectory => "IsADirectoryError"
  | .nameTooLong => "OSError"

/-- the condition with a number -/
def ofNumber? (n : Int) : Option FileFault :=
  [notFound, permissionDenied, .exists, notDirectory, isDirectory, nameTooLong].find? fun f => n = (f.number : Int)

end FileFault

/-- the cause of a failure -/
inductive Fault where
  -- numbers
  | intTooLarge
  | quotientTooLarge
  | divisionByZero
  | realDivisionByZero
  | infinityToInt
  | nanToInt
  | notNumberText (text : String)
  | notNumber (kindName : String)
  -- colours and rules
  | colorKind (color : Json)
  | colorDigits (color : String)
  | colorLength (color : String)
  | selectorKind (kindName : String)
  | unhashable (kindName : String)
  | notIterable (kindName : String)
  -- markup
  | emptyDocument
  | bodyCount (markup : String)
  | forbiddenCharacter
  | emptyTag
  | invalidTag (tag : String)
  | invalidAttribute (name : String)
  -- structure of the document
  | wrongTag (expected actual : String)
  | slotFilled (tag : String)
  | notArticle (kindName : String)
  -- addresses
  | addressBrackets
  | addressUnknown (host : String)
  | addressFuture
  | addressVersion
  | addressLookalike (authority : String)
  -- geotags
  | geotagText (text : String) (error : Json.ReadError)
  | geotagKind (geotag : Json)
  | geotagCoordinates (coordinates : Json)
  -- analytics
  | analyticsUnreadable (markup reason : String)
  | analyticsCount (markup : String) (count : Nat)
  | analyticsTag (markup tag : String)
  | analyticsTail (markup : String)
  -- input
  | invalid (record : String) (issues : List Issue)
  | unreadableJson (error : Json.ReadError)
  | limit (passed : Json.Limit)
  | file (cause : FileFault) (path : String)
  | undecodable (message : String)
  -- anything else, by family
  | value (message : String)
  | type (message : String)
  | member (message : String)
  | key (literal : String)
  | raised (family : String) (arguments : List Json)
  deriving Inhabited

namespace Fault

/-- the family of a cause -/
def label : Fault → String
  | intTooLarge | quotientTooLarge | infinityToInt => "OverflowError"
  | divisionByZero | realDivisionByZero => "ZeroDivisionError"
  | nanToInt | notNumberText _ | forbiddenCharacter | emptyTag | invalidTag _ | invalidAttribute _ | addressBrackets
  | addressUnknown _ | addressFuture | addressVersion | addressLookalike _ | value _ => "ValueError"
  | notNumber _ | selectorKind _ | unhashable _ | notIterable _ | type _ => "TypeError"
  | colorKind _ | colorDigits _ | colorLength _ | geotagText .. | geotagKind _ | geotagCoordinates _
  | analyticsUnreadable .. | analyticsCount .. | analyticsTag .. | analyticsTail _ => "InvalidFormatError"
  | emptyDocument => "ParserError"
  | bodyCount _ => "AssertionError"
  | wrongTag .. | notArticle _ => "InvalidArgumentError"
  | slotFilled _ => "SlotAlreadyFilledError"
  | invalid .. => "ValidationError"
  | unreadableJson _ => "JSONDecodeError"
  | limit passed => passed.label
  | file cause _ => cause.label
  | undecodable _ => "UnicodeDecodeError"
  | member _ => "AttributeError"
  | key _ => "KeyError"
  | raised family _ => family

/-- the arguments of a raised cause as running text: the only one plain, several in parentheses -/
def argumentsText : List Json → String
  | [] => ""
  | [argument] => argument.plain
  | arguments => "(" ++ Text.joinWith ", " (arguments.map Json.literal) ++ ")"

/-- the wording of a cause -/
def message : Fault → String
  | intTooLarge => "int too large to convert to float"
  | quotientTooLarge => "integer division result too large for a float"
  | divisionByZero => "division by zero"
  | realDivisionByZero => "float division by zero"
  | infinityToInt => "cannot convert float infinity to integer"
  | nanToInt => "cannot convert float NaN to integer"
  | notNumberText text => s!"could not convert string to float: {Text.quoted text}"
  | notNumber kindName => s!"float() argument must be a string or a real number, not '{kindName}'"
  | colorKind color => s!"Color must be a string, got {color.kindName}"
  | colorDigits color => s!"Invalid hex color: {Text.quoted color}"
  | colorLength color => s!"Hex color must have 3, 4, 6 or 8 digits: {Text.quoted color}"
  | selectorKind kindName => s!"Selector names must be str or iterable, got {kindName}"
  | unhashable kindName => s!"unhashable type: '{kindName}'"
  | notIterable kindName => s!"'{kindName}' object is not iterable"
  | emptyDocument => "Document is empty"
  | bodyCount markup => s!"too many bodies: [] in {Text.quoted markup}"
  | forbiddenCharacter =>
    "All strings must be XML compatible: Unicode or ASCII, no NULL bytes or control characters"
  | emptyTag => "Empty tag name"
  | invalidTag tag => s!"Invalid tag name {Text.quoted tag}"
  | invalidAttribute name => s!"Invalid attribute name {Text.quoted name}"
  | wrongTag expected actual => s!"Tag <{expected}> expected, <{actual}> informed."
  | slotFilled tag => s!"Tag <{tag}> was already set for this conversion."
  | notArticle kindName => s!"Article expected, {kindName} informed."
  | addressBrackets => "Invalid IPv6 URL"
  | addressUnknown host => s!"{Text.quoted host} does not appear to be an IPv4 or IPv6 address"
  | addressFuture => "IPvFuture address is invalid"
  | addressVersion => "An IPv4 address cannot be in brackets"
  | addressLookalike authority =>
    "netloc '" ++ authority ++ "' contains invalid characters under NFKC normalization"
  | geotagText _ error => s!"Geotag is not valid JSON: {error.message}"
  | geotagKind _ => "Geotag must be a GeoJSON object"
  | geotagCoordinates coordinates => s!"Invalid geotag coordinates: {coordinates.literal}"
  | analyticsUnreadable _ reason => s!"Could not parse analytics markup: {reason}"
  | analyticsCount _ count => s!"Analytics markup must hold exactly one element, got {count} fragments"
  | analyticsTag _ tag => s!"Analytics markup must be one of amp-analytics, amp-pixel, got <{tag}>"
  | analyticsTail _ => "Analytics markup has trailing text"
  | invalid _ issues => Text.joinWith "; " (issues.map Issue.message)
  | unreadableJson error => error.message
  | limit passed => passed.message
  | file cause path => s!"[Errno {cause.number}] {cause.reason}: {Text.quoted path}"
  | undecodable message => message
  | value message => message
  | type message => message
  | member message => message
  | key literal => literal
  | raised family arguments =>
    match family, arguments with
    | "KeyError", [argument] => argument.literal
    | _, arguments => argumentsText arguments

/-- the value that a cause of wrong format concerns -/
def subject? : Fault → Option String
  | colorDigits color | colorLength color => some color
  | geotagText text _ => some text
  | geotagKind geotag => some geotag.plain
  | geotagCoordinates coordinates => some coordinates.plain
  | analyticsUnreadable markup _ | analyticsCount markup _ | analyticsTag markup _ | analyticsTail markup =>
    some markup
  | _ => none

/-- the cause as a literal: its family with its arguments in parentheses -/
def literal (f : Fault) : String :=
  match f with
  | file cause _ => s!"{cause.label}({cause.number}, {Text.quoted cause.reason})"
  | raised family arguments => family ++ "(" ++ Text.joinWith ", " (arguments.map Json.literal) ++ ")"
  | key l => s!"KeyError({l})"
  | f => f.label ++ "(" ++ Text.quoted f.message ++ ")"

end Fault

end AmpArticle

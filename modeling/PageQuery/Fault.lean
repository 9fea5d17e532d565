import PageQuery.Bytes.Charset
import PageQuery.File.Folder
import PageQuery.Query.Segment
import PageQuery.Regexp.Complaint
import PageQuery.Template
import PageQuery.Url.Parts
import PageQuery.Xml.Writer
import PageQuery.Yaml.Line
import PageQuery.Yaml.Writer

namespace PageQuery

/-!
# Faults

Everything that keeps a query from giving a value.

* `Fault`: the causes;
* `Fault.kind`, `Fault.message`: the word for the kind of a cause, and the cause in words.
-/

/-- Why there is no value. -/
inductive Fault where
  /-- The text is no query. -/
  | format (e : Query.FormatError)
  /-- An expression has no value. -/
  | expression (e : Expression.Failure)
  /-- A number has too many digits to be read or written. -/
  | numeral (e : Numeral.Error)
  /-- A value that JSON has no form for was to be written as JSON. -/
  | writing (e : Json.WriteError)
  /-- A pattern is refused for another reason than being none. -/
  | pattern (source : Text) (r : Regexp.Refusal)
  /-- A text is no address. -/
  | url (e : Url.Error)
  /-- A document holds no element. -/
  | noElement
  /-- A selector uses the prefix of a namespace that nothing declares. -/
  | undeclared (space : Text)
  /-- A selector ends inside a list of selectors. -/
  | selectorCut
  /-- A transform of a registry failed. -/
  | failed (message : Text)
  /-- A YAML document holds a text that is not what its tag says. -/
  | document (e : Yaml.Error)
  /-- An XML document declares entities. -/
  | entities
  /-- A value that YAML has no form for was to be written as YAML. -/
  | yamlWriting (e : Yaml.WriteError)
  /-- A value that XML has no form for was to be written as XML. -/
  | xmlWriting (e : Xml.WriteError)
  /-- No format for writing values has this name. -/
  | unknownFormat (name : Option Text)
  /-- No encoding has this name. -/
  | unknownEncoding (name : Text)
  /-- A file is not read. -/
  | file (e : File.Error)
  /-- A setting has a value of a kind that it cannot have. -/
  | mistyped (message : Text)
  /-- A setting has a value that it cannot have. -/
  | unfit (message : Text)
  /-- A setting is too large a number. -/
  | tooLarge (message : Text)
  /-- The answer from an address has a status that tells of a failure; it starts with a text. -/
  | status (code : Int) (address start : Text)
  /-- No request was sent to an address. -/
  | noResponse (address : Text)
  /-- A request did not get through. -/
  | transport (kind message : Text)
  deriving Repr, DecidableEq

namespace Fault

/-- A failure to write a value as text. -/
def ofRender : RenderError → Fault
  | .numeral e => .numeral e
  | .writing e => .writing e

/-- The word for the kind of a failure to write JSON. -/
def writeKind : Json.WriteError → Text
  | .numeral _ => "ValueError"
  | _ => "TypeError"

/-- The word for the kind of a failure to read YAML. -/
def yamlKind : Yaml.Error → Text
  | .malformed => "YAMLError"
  | .beyondCharacters => "ValueError"
  | .beyondWords => "OverflowError"
  | .unreadable => "ValueError"
  | .noTruthValue => "KeyError"
  | .emptyNumber => "IndexError"
  | .noStamp => "AttributeError"

/-- The word for the kind of a fault. -/
def kind : Fault → Text
  | .format (.unsupportedScheme ..) => "UnsupportedSchemeError"
  | .format _ => "QueryFormatError"
  | .expression (.wrong _) => "ExpressionError"
  | .expression (.numeral _) => "ValueError"
  | .expression (.literal e) =>
    match e.fault with
    | .numeral _ => "ValueError"
    | _ => "JSONDecodeError"
  | .expression (.writing e) => writeKind e
  | .numeral _ => "ValueError"
  | .writing e => writeKind e
  | .pattern _ .repeatTooLarge => "OverflowError"
  | .pattern .. => "ValueError"
  | .url _ => "ValueError"
  | .noElement => "ParserError"
  | .undeclared _ => "XPathEvalError"
  | .selectorCut => "RuntimeError"
  | .failed _ => "RuntimeError"
  | .document e => yamlKind e
  | .entities => "ValueError"
  | .yamlWriting (.numeral _) => "ValueError"
  | .yamlWriting .discarded => "RepresenterError"
  | .xmlWriting _ => "ValueError"
  | .unknownFormat _ => "ValueError"
  | .unknownEncoding _ => "LookupError"
  | .file e => e.problem.kind
  | .mistyped _ => "TypeError"
  | .unfit _ => "ValueError"
  | .tooLarge _ => "OverflowError"
  | .status .. => "RuntimeError"
  | .noResponse _ => "RuntimeError"
  | .transport kind _ => kind

/-- The fault in words. -/
def message : Fault → Text
  | .format e => e.message
  | .expression e => e.message
  | .numeral e => e.message
  | .writing e => e.message
  | .pattern source r => r.message source
  | .url e => e.message
  | .noElement => "Document is empty"
  | .undeclared _ => "Undefined namespace prefix"
  | .selectorCut => "generator raised StopIteration"
  | .failed t => t
  | .document _ => "unreadable YAML document"
  | .entities => "entities are disabled"
  | .yamlWriting (.numeral e) => e.message
  | .yamlWriting .discarded => "cannot represent an object"
  | .xmlWriting (.numeral e) => e.message
  | .xmlWriting _ => "value without an XML form"
  | .unknownFormat name =>
    "Unsupported serialization format: " ++ (name.map Text.quoted).getD "None"
  | .unknownEncoding name =>
    if Charset.isForBytes name then
      Text.quoted name ++ " is not a text encoding; use codecs.decode() to handle arbitrary codecs"
    else "unknown encoding: " ++ name
  | .file e => e.message
  | .mistyped t => t
  | .unfit t => t
  | .tooLarge t => t
  | .status code address start =>
    "HTTP " ++ Text.ofInt code ++ " for " ++ address ++ ": " ++ start
  | .noResponse address => "no response for " ++ address
  | .transport _ message => message

end Fault

end PageQuery

import PageQuery.Fault
import PageQuery.Format.Kind
import PageQuery.Html.Writer
import PageQuery.Json.Writer
import PageQuery.Xml.Writer
import PageQuery.Yaml.Writer

namespace PageQuery

/-!
# Writing values

* `Value.bare v`: a value in which each element is replaced by its HTML;
* `Format.write`: a value as JSON, YAML or XML, with its elements as HTML.
-/

namespace Value

mutual

/-- A value with its elements as HTML. -/
def bare : Value → Value
  | .element e => .text e.outer
  | .list vs => .list (bareItems vs)
  | .map entries => .map (bareEntries entries)
  | v => v

/-- The items of a list with their elements as HTML. -/
def bareItems : List Value → List Value
  | [] => []
  | v :: rest => bare v :: bareItems rest

/-- The entries of a map with their elements as HTML. -/
def bareEntries : List (Scalar × Value) → List (Scalar × Value)
  | [] => []
  | (k, v) :: rest => (k, bare v) :: bareEntries rest

end

end Value

namespace Format

/-- A value as XML. A map with one entry is the root element; all else stands inside a root. -/
def writeXml (lines : Bool) (root : Text) (v : Value) : Except Xml.WriteError Text :=
  match v with
  | .map [(k, inner)] => Xml.write ⟨lines⟩ k inner
  | v => Xml.write ⟨lines⟩ (.text root) v

/-- A value in the format of a name, on one line or laid out over several. `root` is the name of the XML
    element around a value that does not bring its own. -/
def write (v : Value) (format : Option Text) (lines : Bool) (root : Text) : Except Fault Text :=
  match ofName? (Text.lower (format.getD [])) with
  | some .json => (Json.write (if lines then .pretty else .line) v.bare).mapError .writing
  | some .yaml => (Yaml.write v.bare).mapError .yamlWriting
  | some .xml => (writeXml lines root v.bare).mapError .xmlWriting
  | _ => .error (.unknownFormat format)

end Format

end PageQuery

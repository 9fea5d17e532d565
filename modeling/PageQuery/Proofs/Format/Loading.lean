import PageQuery.Format.Reader
import PageQuery.Proofs.Except
import PageQuery.Proofs.Xml.Entities
import PageQuery.Proofs.Yaml.Values

namespace PageQuery.Format

/-!
# What comes of a text in a format

A text is parsed, or rejected as not written in the format, or its reader breaks on it. A rejected text is its own
value, and nothing takes care of the third.

* `Parses`, `Rejects`, `Breaks`: the three;
* `load_eq_ok_iff`, `exists_load_iff`: what is loaded, and when something is;
* `Suspect`, `suspect_of_breaks`: what a reader breaks on;
* `read_eq_ok_iff`, `exists_read_iff`: the same for a format that is named or detected.
-/

/-- A text has a value in a format. What is labelled as JSON may be written as YAML. -/
def Parses (f : Format) (t : Text) (v : Value) : Prop :=
  match f with
  | .json => Json.read? t = some v ∨ Json.read? t = none ∧ Yaml.read t = .ok v
  | .yaml => Yaml.read t = .ok v
  | .xml => Xml.read t = .ok v
  | .html => False

/-- A text is not written in a format. -/
def Rejects (f : Format) (t : Text) : Prop :=
  match f with
  | .json => Json.read? t = none ∧ Yaml.read t = .error .malformed
  | .yaml => Yaml.read t = .error .malformed
  | .xml => Xml.read t = .error .malformed
  | .html => True

/-- The reader of a format fails on a text in another way than by rejecting it. -/
def Breaks (f : Format) (t : Text) : Prop :=
  match f with
  | .json => Json.read? t = none ∧ ∃ e, e ≠ .malformed ∧ Yaml.read t = .error e
  | .yaml => ∃ e, e ≠ .malformed ∧ Yaml.read t = .error e
  | .xml => Xml.read t = .error .entity
  | .html => False

/-! ### Loading -/

theorem loadYaml_eq_ok_iff {t : Text} {v : Value} :
    loadYaml t = .ok v ↔ Yaml.read t = .ok v ∨ v = .text t ∧ Yaml.read t = .error .malformed := by
  unfold loadYaml
  split
  · next w h => simp [h]
  · next h => simp [h, eq_comm]
  · next e he h =>
    have hne : e ≠ .malformed := fun h => he h
    simp [h, hne]

theorem exists_loadYaml_iff {t : Text} :
    (∃ v, loadYaml t = .ok v) ↔ ¬∃ e, e ≠ .malformed ∧ Yaml.read t = .error e := by
  unfold loadYaml
  split
  · next w h => simp [h]
  · next h => simp [h]
  · next e he h =>
    have hne : e ≠ .malformed := fun h => he h
    simp [h, hne]

theorem loadXml_eq_ok_iff {t : Text} {v : Value} :
    loadXml t = .ok v ↔ Xml.read t = .ok v ∨ v = .text t ∧ Xml.read t = .error .malformed := by
  unfold loadXml
  split
  · next w h => simp [h]
  · next h => simp [h, eq_comm]
  · next h => simp [h]

theorem exists_loadXml_iff {t : Text} : (∃ v, loadXml t = .ok v) ↔ ¬Xml.read t = .error .entity := by
  unfold loadXml
  split
  · next w h => simp [h]
  · next h => simp [h]
  · next h => simp [h]

/-- What is not JSON is loaded as YAML. -/
theorem loadJson_eq (t : Text) : loadJson t = ((Json.read? t).map .ok).getD (loadYaml t) := by
  unfold loadJson Json.read?
  cases Json.read t <;> rfl

/-- A text is parsed, or is its own value. -/
theorem load_eq_ok_iff {f : Format} {t : Text} {v : Value} :
    f.load t = .ok v ↔ f.Parses t v ∨ v = .text t ∧ f.Rejects t := by
  cases f with
  | json =>
    rw [load, loadJson_eq]
    cases hjson : Json.read? t with
    | some w => simp [Parses, Rejects, hjson]
    | none => simp [Parses, Rejects, hjson, loadYaml_eq_ok_iff]
  | yaml => exact loadYaml_eq_ok_iff
  | xml => exact loadXml_eq_ok_iff
  | html => simp [load, Parses, Rejects, eq_comm]

/-- Something is loaded unless the reader breaks. -/
theorem exists_load_iff {f : Format} {t : Text} : (∃ v, f.load t = .ok v) ↔ ¬f.Breaks t := by
  cases f with
  | json =>
    rw [load, loadJson_eq]
    cases hjson : Json.read? t with
    | some w => simp [Breaks, hjson]
    | none => simp only [Breaks, hjson, true_and, Option.map_none, Option.getD_none, exists_loadYaml_iff]
  | yaml => exact exists_loadYaml_iff
  | xml => exact exists_loadXml_iff
  | html => simp [load, Breaks]

/-- What there is in a text that the reader of a format breaks on: in XML the words that declare an entity; in YAML,
    and in JSON that is read as YAML, an escape of eight digits, or a truth value, number, day or moment that
    is none. -/
def Suspect (f : Format) (t : Text) : Prop :=
  match f with
  | .json => Json.read? t = none ∧ Yaml.Suspect t
  | .yaml => Yaml.Suspect t
  | .xml => Xml.entityMark <:+: t
  | .html => False

theorem suspect_of_breaks {f : Format} {t : Text} (h : f.Breaks t) : f.Suspect t := by
  cases f with
  | json =>
    obtain ⟨hjson, e, he, hyaml⟩ := h
    exact ⟨hjson, Yaml.suspect_of_read hyaml he⟩
  | yaml =>
    obtain ⟨e, he, hyaml⟩ := h
    exact Yaml.suspect_of_read hyaml he
  | xml => exact Xml.entityMark_infix_of_read h
  | html => exact h

/-! ### Reading -/

variable {t : Text} {contentType name : Option Text}

/-- A text is loaded in the format that is chosen, if there is one. -/
theorem read_text : read (.text t) contentType name =
    ((chosen name contentType t).map (·.load t)).getD (.ok (.text t)) := by
  have htext : ((Body.text t).toText contentType).mapError Fault.numeral = .ok t := rfl
  rw [read, htext]
  simp only [bind, Except.bind]
  cases chosen name contentType t <;> rfl

/-- A text is read as its value in the format that is chosen. It is its own value if none is, or if it is not written
    in that format. -/
theorem read_eq_ok_iff {v : Value} :
    read (.text t) contentType name = .ok v ↔
      (∃ f ∈ chosen name contentType t, f.Parses t v) ∨
        v = .text t ∧ ∀ f ∈ chosen name contentType t, f.Rejects t := by
  rw [read_text]
  cases chosen name contentType t with
  | none => simp [eq_comm]
  | some f => simp [load_eq_ok_iff]

/-- Something is read unless the reader of the chosen format breaks. -/
theorem exists_read_iff :
    (∃ v, read (.text t) contentType name = .ok v) ↔ ∀ f ∈ chosen name contentType t, ¬f.Breaks t := by
  rw [read_text]
  cases chosen name contentType t with
  | none => simp
  | some f => simp [exists_load_iff]

end PageQuery.Format

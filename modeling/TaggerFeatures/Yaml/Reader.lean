import TaggerFeatures.Yaml.Document

/-! YAML as a reader of settings. -/
namespace TaggerFeatures.Yaml
open Settings

/-- An error as a reader of settings reports it. -/
def Error.refusal (e : Error) : Refusal :=
  match e with
  | malformed => .malformed
  | characterTooLarge | tooGreat => .other "overflow" e.message
  | notATime => .other "attribute" e.message
  | notATruth _ => .other "key" e.message
  | timeOfMapping => .ofType e.message
  | emptyNumeral => .ofIndex e.message
  | _ => .ofValue e.message

/-- A value together with the document that its collections are in. -/
structure Value where
  document : Document
  item : Item
deriving DecidableEq

namespace Value

def view (v : Value) : View Value :=
  match v.item with
  | .scalar .null => .null
  | .scalar (.text s) => .text s
  | .scalar s => .other s.kindName s.isVoid
  | .collection place =>
    match v.document.collection place with
    | .mapping pairs =>
      .mapping (pairs.map fun (key, item) => (⟨v.document, .scalar key⟩, ⟨v.document, item⟩))
    | .list items => .other "list" items.isEmpty
    | .pairs pairs => .other "list" pairs.isEmpty
    | .set members => .other "set" members.isEmpty

end Value

abbrev reader : Reader where
  Value := Value
  read text := ((Document.ofText text).map fun d => (⟨d, d.root⟩ : Value)).mapError Error.refusal
  view := Value.view
  write v := v.document.write v.item

end TaggerFeatures.Yaml

import HybridSearch.Json.Basic
import HybridSearch.Schema.Field

/-!
# Declared fields as documents

Fields are declared by an object from names to types, a type being given by its name or by an
object that may also make the field sortable. A single field is a structure of name, type and
sortability.

## Main definitions

* `Field.ofDeclarations` — the fields of an object, in the order of its keys.
* `Field.ofJson?`, `Field.toJson`.
-/

namespace HybridSearch.Field

/-- A declaration that names no type declares a text. -/
def ofDeclaration (name : String) (declaration : Json) : Field :=
  match declaration with
  | .str declared => ⟨name, .ofDeclared declared, false⟩
  | .obj members =>
    ⟨name, .ofDeclared (((Entries.get? members "type").bind Json.str?).getD ""),
      ((Entries.get? members "sortable").bind Json.bool?).getD false⟩
  | _ => ⟨name, .ofDeclared "", false⟩

def ofDeclarations (declarations : Json.Members) : List Field :=
  declarations.map fun (name, declaration) => ofDeclaration name declaration

def ofJson? (json : Json) : Option Field := do
  let shape ← json.shape? ["name", "type", "sortable"]
  let name ← shape.required? "name" Json.str?
  let type ← shape.required? "type" Json.str?
  let sortable ← shape.optional? "sortable" false Json.bool?
  some ⟨name, .ofDeclared type, sortable⟩

def toJson (field : Field) : Json :=
  .object [("name", .str field.name), ("type", .str field.type.name),
    ("sortable", .bool field.sortable)]

end HybridSearch.Field

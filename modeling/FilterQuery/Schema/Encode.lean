import FilterQuery.Query.Encode
import FilterQuery.Schema

set_option autoImplicit false
set_option relaxedAutoImplicit false

/-!
Schemas as JSON values with every part written out.
-/

namespace FilterQuery.Schema.Encode

open FilterQuery.Query.Encode (textOrNull)

def encodeAttribute (a : Attribute) : Json.Value :=
  .object [("name", .text a.name), ("column", textOrNull a.column), ("type", .text a.kind.name),
    ("structured", .boolean a.structured)]

def encodeRelation (r : Relation) : Json.Value :=
  .object [("name", .text r.name), ("target", .text r.target),
    ("collection", .boolean r.collection), ("external", .boolean r.external),
      ("local", .text r.localColumn), ("foreign", .text r.foreignColumn)]

def encodeEntity (e : Entity) : Json.Value :=
  .object [("name", .text e.name), ("table", .text e.table), ("id", .text e.identifier),
    ("attributes", .list (e.attributes.map encodeAttribute)),
      ("relations", .list (e.relations.map encodeRelation))]

end FilterQuery.Schema.Encode

import Bracework.Document
import Bracework.Format.ExpressionRecord

/-!
# Documents as data

Each node is a record whose first field names its variant. Fields without a value are left out.
A document is a record of its top-level nodes.
-/

namespace Bracework

namespace Node

mutual

/-- A node as a record, with numbers laid out by `number`. -/
def datum (number : Number → Datum) : Node → Datum
  | .content text => .record [("type", .text "content"), ("text", .text text)]
  | .print expression escape =>
    .record [("type", .text "path_print"), ("expression", expression.datum number),
      ("escape", .bool escape)]
  | .scope kind condition scopeId children =>
    .record <|
      [("type", .text "scope"), ("kind", .text kind.words.underscored)] ++
      Datum.optional "condition" (condition.map (Expression.datum number)) ++
      [("scope_id", .natural scopeId), ("children", .list (data number children))]
  | .boundName name scopeId =>
    .record [("type", .text "alias"), ("name", .text name), ("scope_id", .natural scopeId)]
  | .binding name expression scopeId durable =>
    .record [("type", .text "variable_binding"), ("name", .text name),
      ("expression", expression.datum number), ("scope_id", .natural scopeId),
      ("durable", .bool durable)]
  | .unbind name scopeId =>
    .record [("type", .text "unbind"), ("name", .text name), ("scope_id", .natural scopeId)]
  | .declaration name scopeId children =>
    .record [("type", .text "partial_declaration"), ("name", .text name),
      ("scope_id", .natural scopeId), ("children", .list (data number children))]
  | .rendering name context =>
    .record <|
      [("type", .text "partial_render"), ("name", .text name)] ++
      Datum.optional "context" (context.map (Expression.datum number))
  | .edit operation =>
    .record [("type", .text "text_edit"), ("operation", .text operation.words.underscored)]
  | .custom tag value scopeId children =>
    .record <|
      [("type", .text "custom"), ("tag", .text tag), ("value", .text value)] ++
      Datum.optional "scope_id" (scopeId.map .natural) ++
      [("children", .list (data number children))]

/-- Nodes as records. -/
def data (number : Number → Datum) : List Node → List Datum
  | [] => []
  | first :: rest => datum number first :: data number rest

end

end Node

namespace Document

/-- A document as a record. -/
def datum (number : Number → Datum) (document : Document) : Datum :=
  .record [("children", .list (Node.data number document.children))]

end Document

end Bracework

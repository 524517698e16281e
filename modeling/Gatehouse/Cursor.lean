import Gatehouse.Error
import Gatehouse.Json.Record
import Gatehouse.Text.Base64
import Gatehouse.Text.Blank

/-!
# Page cursors

A search that has more rows hands out a cursor: the place to go on from, as an opaque
text. It is the base64 form of a small document, so any instance of the gateway can read
what another one has issued. The cursor of a search for logged models also carries what
was searched for.

## Main definitions

* `SortKey`: One key of an order.
* `OffsetCursor`, `ModelsCursor`: The two kinds of cursors.
* `OffsetCursor.encode`, `OffsetCursor.decode`: A cursor as a text, both ways.
* `ModelsCursor.encode`, `ModelsCursor.decode`: The same for logged models.
* `OffsetCursor.start`: Where an optional cursor starts.
-/

namespace Gatehouse

namespace Cursor

/-- The opaque text of a document. -/
def write (value : Json) : String :=
  String.ofList (Text.base64Encode value.bytes)

/-- The value that an opaque text stands for; blanks around it do not matter. -/
def read {α : Type} (decode : Tree → Option α) (token : String) : Except Error α :=
  match Text.base64Decode? (Text.trim token).toList with
  | none => .error (.badParameter (.tokenCoding token))
  | some bytes =>
    match (Tree.ofBytes? bytes).bind decode with
    | some value => .ok value
    | none => .error (.badParameter .tokenContent)

end Cursor

/-- One key of an order of logged models. -/
structure SortKey where
  field : String
  ascending : Bool
  datasetName : Option String
  datasetDigest : Option String
  deriving DecidableEq, Repr

namespace SortKey

/-- The names of the fields in order. -/
def names : List String := ["field_name", "ascending", "dataset_name", "dataset_digest"]

/-- The members of the document of a key. -/
def members (key : SortKey) : List (String × Json) :=
  [("field_name", .string key.field), ("ascending", .bool key.ascending),
    ("dataset_name", Json.ofString? key.datasetName),
    ("dataset_digest", Json.ofString? key.datasetDigest)]

/-- The document of a key in a cursor, its members in the order of the fields. -/
def toJson (key : SortKey) : Json := .object key.members

/-- The key that a tree is; only the name of the field has to be there. -/
def ofTree? (tree : Tree) : Option SortKey := do
  match ← tree.fields? names 1 with
  | [field, ascending, datasetName, datasetDigest] =>
    some ⟨← field.bind Tree.text?, ← Tree.orElse? true Tree.flag? ascending,
      ← Tree.optional? Tree.text? datasetName, ← Tree.optional? Tree.text? datasetDigest⟩
  | _ => none

end SortKey

/-- The place after a number of rows. -/
structure OffsetCursor where
  offset : UInt64
  deriving DecidableEq, Repr

namespace OffsetCursor

/-- The document of a cursor. -/
def toJson (cursor : OffsetCursor) : Json :=
  .object [("offset", .number (.ofUInt64 cursor.offset))]

/-- The cursor that a tree is. -/
def ofTree? (tree : Tree) : Option OffsetCursor := do
  match ← tree.fields? ["offset"] 1 with
  | [offset] => some ⟨← offset.bind Tree.count?⟩
  | _ => none

/-- A cursor as a text. -/
def encode (cursor : OffsetCursor) : String := Cursor.write cursor.toJson

/-- The cursor that a text is. -/
def decode (token : String) : Except Error OffsetCursor := Cursor.read ofTree? token

/-- The row at which an optional cursor starts: the first one without a cursor or with an
empty one. -/
def start : Option String → Except Error UInt64
  | none => .ok 0
  | some token => if token.isEmpty then .ok 0 else (decode token).map (·.offset)

end OffsetCursor

/-- The place after a number of rows of a search for logged models, with what was searched
for. -/
structure ModelsCursor where
  offset : UInt64
  experimentIds : List String
  filter : Option String
  order : Option (List SortKey)
  deriving DecidableEq, Repr

namespace ModelsCursor

/-- The names of the fields in order. -/
def names : List String := ["offset", "experiment_ids", "filter_string", "order_by"]

/-- The document of an optional order. -/
def orderJson : Option (List SortKey) → Json
  | none => .null
  | some keys => .array (keys.map SortKey.toJson)

/-- The document of a cursor. -/
def toJson (cursor : ModelsCursor) : Json :=
  .object [("offset", .number (.ofUInt64 cursor.offset)),
    ("experiment_ids", .array (cursor.experimentIds.map .string)),
    ("filter_string", Json.ofString? cursor.filter), ("order_by", orderJson cursor.order)]

/-- The cursor that a tree is; filter and order may be absent from an object. -/
def ofTree? (tree : Tree) : Option ModelsCursor := do
  match ← tree.fields? names 4 with
  | [offset, experimentIds, filter, order] =>
    some ⟨← offset.bind Tree.count?, ← experimentIds.bind (Tree.items? Tree.text?),
      ← Tree.optional? Tree.text? filter,
      ← Tree.optional? (Tree.items? SortKey.ofTree?) order⟩
  | _ => none

/-- A cursor as a text. -/
def encode (cursor : ModelsCursor) : String := Cursor.write cursor.toJson

/-- The cursor that a text is. -/
def decode (token : String) : Except Error ModelsCursor := Cursor.read ofTree? token

end ModelsCursor

end Gatehouse
